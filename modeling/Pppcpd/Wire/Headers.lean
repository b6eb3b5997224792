import Pppcpd.Wire.Encap

namespace Pppcpd

open Foundation

/-!
# Reading an encapsulation back

A header that is generated for a link should be read as that link in the other
direction.  But an id of zero stands for a missing tag, and the id that the
kernel took out of a frame comes with its priority bits, so not every
encapsulation is read back from its own header.
-/

namespace Encapsulation

/-- The header and a payload are read as the same link in the other direction,
and the payload is left. -/
def ReadsBack (encap : Encapsulation) (mac : Mac) (ethertype : UInt16) (payload : Bytes) : Prop :=
  forall type behind, ∃ left,
    construct type 0 0 ⟨encap.generateHeader mac ethertype ++ payload, behind⟩ =
      some (⟨mac, encap.sourceMac, encap.outerVlan, encap.innerVlan, ethertype⟩, left) ∧
    left.bytes = payload

/-- Masking leaves exactly the ids of twelve bits. -/
theorem mask_eq_iff (id : UInt16) : 0x0fff &&& id = id ↔ id.toNat < 4096 := by
  rw [← UInt16.toNat_inj, UInt16.toNat_and]
  have masked : (0x0fff : UInt16).toNat &&& id.toNat = id.toNat % 4096 := by
    have value : (0x0fff : UInt16).toNat = 2 ^ 12 - 1 := rfl
    rw [value, Nat.and_comm, Nat.and_two_pow_sub_one_eq_mod]
  rw [masked]
  omega

/-- Both addresses of a frame. -/
def addresses (source target : Mac) : Bytes := target.bytes ++ source.bytes

theorem field16_addresses (source target : Mac) (rest : Bytes) (behind : Nat -> UInt8) (index : Nat) :
    (Buffer.mk (addresses source target ++ rest) behind).field16 (12 + index) =
      (Buffer.mk rest behind).field16 index :=
  Buffer.field16_append (addresses source target) rest behind index

/-- What the constructor makes of a frame whose headers are known. -/
theorem construct_of_headers {type outer inner outerVlan innerVlan ethertype : UInt16} (length : Nat)
    {source target : Mac} {rest : Bytes} {behind : Nat -> UInt8}
    (headers : parseHeaders outer inner ⟨addresses source target ++ rest, behind⟩ =
      (12 + length, outerVlan, innerVlan, ethertype))
    (ethernet : 2 ≤ length) (within : length ≤ rest.length) :
    construct type outer inner ⟨addresses source target ++ rest, behind⟩ =
      some (⟨source, target, outerVlan, innerVlan, ethertype⟩, ⟨rest.drop length, behind⟩) := by
  have size : (addresses source target ++ rest).length = 12 + rest.length := List.length_append
  have left : (addresses source target ++ rest).drop (12 + length) = rest.drop length :=
    @List.drop_length_add_append _ (addresses source target) rest length
  unfold construct
  rw [if_neg (by rw [size, sizeofEthernetHdr]; omega), headers]
  dsimp only
  rw [if_pos (by rw [size]; omega), Buffer.drop, left]
  rfl

/-- A header without a tag. -/
theorem construct_untagged (type outer inner : UInt16) (source target : Mac) {ethertype : UInt16}
    (rest : Bytes) (behind : Nat -> UInt8) (notVlan : ethertype ≠ ethVlan) :
    construct type outer inner ⟨addresses source target ++ (bytes16 ethertype ++ rest), behind⟩ =
      some (⟨source, target, outer, inner, ethertype⟩, ⟨rest, behind⟩) := by
  refine construct_of_headers 2 ?_ (Nat.le_refl 2) (Nat.le_add_left 2 _)
  have first := field16_addresses source target (bytes16 ethertype ++ rest) behind 0
  rw [Buffer.field16_bytes16] at first
  rw [parseHeaders, first, if_neg notVlan]

/-- The field behind a 16-bit value. -/
theorem field16_behind (value : UInt16) (rest : Bytes) (behind : Nat -> UInt8) (index : Nat) :
    (Buffer.mk (bytes16 value ++ rest) behind).field16 (2 + index) =
      (Buffer.mk rest behind).field16 index :=
  Buffer.field16_append (bytes16 value) rest behind index

/-- A header with one tag. -/
theorem construct_tagged (type outer inner id : UInt16) (source target : Mac) {ethertype : UInt16}
    (rest : Bytes) (behind : Nat -> UInt8) (notVlan : ethertype ≠ ethVlan) :
    construct type outer inner
        ⟨addresses source target ++ (bytes16 ethVlan ++ (bytes16 id ++ (bytes16 ethertype ++ rest))),
          behind⟩ =
      some (⟨source, target, 0x0fff &&& id, inner, ethertype⟩, ⟨rest, behind⟩) := by
  refine construct_of_headers 6 ?_ (by decide) (Nat.le_add_left 6 _)
  have tag := field16_addresses source target
    (bytes16 ethVlan ++ (bytes16 id ++ (bytes16 ethertype ++ rest))) behind
  have first := tag 0
  have number := tag 2
  have second := tag 4
  rw [Buffer.field16_bytes16] at first
  rw [field16_behind _ _ _ 0, Buffer.field16_bytes16] at number
  rw [field16_behind _ _ _ 2, field16_behind _ _ _ 0, Buffer.field16_bytes16] at second
  rw [parseHeaders, first, if_pos rfl, second, if_neg notVlan, vlanId, number]

/-- A header with two tags. -/
theorem construct_doubleTagged (type outer inner outerId innerId ethertype : UInt16)
    (source target : Mac) (rest : Bytes) (behind : Nat -> UInt8) :
    construct type outer inner
        ⟨addresses source target ++ (bytes16 ethVlan ++ (bytes16 outerId ++ (bytes16 ethVlan ++
          (bytes16 innerId ++ (bytes16 ethertype ++ rest))))), behind⟩ =
      some (⟨source, target, 0x0fff &&& outerId, 0x0fff &&& innerId, ethertype⟩, ⟨rest, behind⟩) := by
  refine construct_of_headers 10 ?_ (by decide) (Nat.le_add_left 10 _)
  have tag := field16_addresses source target (bytes16 ethVlan ++ (bytes16 outerId ++
    (bytes16 ethVlan ++ (bytes16 innerId ++ (bytes16 ethertype ++ rest))))) behind
  have first := tag 0
  have number := tag 2
  have second := tag 4
  have innerNumber := tag 6
  have kind := tag 8
  rw [Buffer.field16_bytes16] at first
  rw [field16_behind _ _ _ 0, Buffer.field16_bytes16] at number
  rw [field16_behind _ _ _ 2, field16_behind _ _ _ 0, Buffer.field16_bytes16] at second
  rw [field16_behind _ _ _ 4, field16_behind _ _ _ 2, field16_behind _ _ _ 0,
    Buffer.field16_bytes16] at innerNumber
  rw [field16_behind _ _ _ 6, field16_behind _ _ _ 4, field16_behind _ _ _ 2, field16_behind _ _ _ 0,
    Buffer.field16_bytes16] at kind
  rw [parseHeaders, first, if_pos rfl, second, if_pos rfl, vlanId, vlanId, number, innerNumber, kind]

/-- Reading back, when it is known what the constructor makes of the header. -/
theorem readsBack_of_construct {encap : Encapsulation} {mac : Mac} {ethertype outer inner : UInt16}
    {payload left : Bytes}
    (constructed : forall type behind,
      construct type 0 0 ⟨encap.generateHeader mac ethertype ++ payload, behind⟩ =
        some (⟨mac, encap.sourceMac, outer, inner, ethertype⟩, ⟨left, behind⟩)) :
    encap.ReadsBack mac ethertype payload ↔
      outer = encap.outerVlan ∧ inner = encap.innerVlan ∧ left = payload := by
  constructor
  · intro readsBack
    rcases readsBack 0 (fun _ => 0) with ⟨found, read, rest⟩
    rw [constructed] at read
    have parts := Prod.mk.inj (Option.some.inj read)
    have ids := Encapsulation.mk.inj parts.1
    rw [← parts.2] at rest
    exact ⟨ids.2.2.1, ids.2.2.2.1, rest⟩
  · rintro ⟨sameOuter, sameInner, same⟩ type behind
    refine ⟨⟨left, behind⟩, ?_, same⟩
    rw [constructed, sameOuter, sameInner]

/-- A header is read back exactly when its ids have twelve bits and there is no
inner id without an outer one. -/
theorem readsBack_iff (encap : Encapsulation) (mac : Mac) {ethertype : UInt16} (payload : Bytes)
    (notVlan : ethertype ≠ ethVlan) :
    encap.ReadsBack mac ethertype payload ↔
      encap.outerVlan.toNat < 4096 ∧ encap.innerVlan.toNat < 4096 ∧
        (encap.outerVlan = 0 -> encap.innerVlan = 0) := by
  rw [← mask_eq_iff, ← mask_eq_iff]
  by_cases outer : encap.outerVlan = 0
  · have bytes : encap.generateHeader mac ethertype ++ payload =
        addresses mac encap.sourceMac ++ (bytes16 ethertype ++
          ((if encap.innerVlan = 0 then [] else [0, 0, 0, 0]) ++ payload)) := by
      simp only [generateHeader, if_pos outer, addresses, List.append_assoc]
    rw [readsBack_of_construct (fun type behind => by
      rw [bytes]
      exact construct_untagged type 0 0 _ _ _ behind notVlan)]
    constructor
    · rintro ⟨_, inner, _⟩
      rw [outer, ← inner]
      exact ⟨rfl, rfl, fun _ => rfl⟩
    · rintro ⟨_, _, paired⟩
      have inner := paired outer
      rw [if_pos inner]
      exact ⟨outer.symm, inner.symm, rfl⟩
  · by_cases inner : encap.innerVlan = 0
    · have bytes : encap.generateHeader mac ethertype ++ payload =
          addresses mac encap.sourceMac ++ (bytes16 ethVlan ++ (bytes16 encap.outerVlan ++
            (bytes16 ethertype ++ payload))) := by
        simp only [generateHeader, if_neg outer, if_pos inner, addresses, List.append_assoc]
      rw [readsBack_of_construct (fun type behind => by
        rw [bytes]
        exact construct_tagged type 0 0 _ _ _ _ behind notVlan)]
      constructor
      · rintro ⟨masked, _, _⟩
        rw [inner]
        exact ⟨masked, rfl, fun _ => rfl⟩
      · rintro ⟨masked, _, _⟩
        exact ⟨masked, inner.symm, rfl⟩
    · have bytes : encap.generateHeader mac ethertype ++ payload =
          addresses mac encap.sourceMac ++ (bytes16 ethVlan ++ (bytes16 encap.outerVlan ++
            (bytes16 ethVlan ++ (bytes16 encap.innerVlan ++ (bytes16 ethertype ++ payload))))) := by
        simp only [generateHeader, if_neg outer, if_neg inner, addresses, List.append_assoc]
      rw [readsBack_of_construct (fun type behind => by
        rw [bytes]
        exact construct_doubleTagged type 0 0 _ _ _ _ _ _ behind)]
      constructor
      · rintro ⟨masked, innerMasked, _⟩
        exact ⟨masked, innerMasked, fun none => absurd none outer⟩
      · rintro ⟨masked, innerMasked, _⟩
        exact ⟨masked, innerMasked, rfl⟩

/-! ## Frames -/

/-- The Ethernet header of the frame and each of its tags are complete. -/
def Complete (frame : Buffer) : Prop :=
  sizeofEthernetHdr ≤ frame.bytes.length ∧ (parseHeaders 0 0 frame).1 ≤ frame.bytes.length

instance (frame : Buffer) : Decidable (Complete frame) := inferInstanceAs (Decidable (_ ∧ _))

/-- What was received on a link is read back from every header for that link.
The inner id is given to the constructor as zero. -/
def RoundTrips (type auxdata : UInt16) (frame : Buffer) (mac : Mac) (ethertype : UInt16)
    (payload : Bytes) : Prop :=
  ∃ encap rest, construct type auxdata 0 frame = some (encap, rest) ∧
    encap.ReadsBack mac ethertype payload

/-- The id that the kernel took out of an untagged frame has no priority bits, and
a frame with two tags has no inner id when its outer id is zero. -/
def Representable (auxdata : UInt16) (frame : Buffer) : Prop :=
  if frame.field16 12 = ethVlan then
    frame.field16 16 = ethVlan -> vlanId frame 14 = 0 -> vlanId frame 18 = 0
  else auxdata.toNat < 4096

instance (auxdata : UInt16) (frame : Buffer) : Decidable (Representable auxdata frame) := by
  unfold Representable
  infer_instance

theorem vlanId_lt (frame : Buffer) (index : Nat) : (vlanId frame index).toNat < 4096 := by
  rw [← mask_eq_iff, vlanId, ← UInt16.and_assoc, UInt16.and_self]

theorem headersRoundTrip_iff (type auxdata : UInt16) {frame : Buffer} (mac : Mac) {ethertype : UInt16}
    (payload : Bytes) (complete : Complete frame) (notVlan : ethertype ≠ ethVlan) :
    RoundTrips type auxdata frame mac ethertype payload ↔ Representable auxdata frame := by
  have length : (parseHeaders auxdata 0 frame).1 = (parseHeaders 0 0 frame).1 := by
    unfold parseHeaders
    split
    · split <;> rfl
    · rfl
  have constructed : ∃ encap rest, construct type auxdata 0 frame = some (encap, rest) ∧
      encap.outerVlan = (parseHeaders auxdata 0 frame).2.1 ∧
      encap.innerVlan = (parseHeaders auxdata 0 frame).2.2.1 := by
    unfold construct
    rw [if_neg (Nat.not_lt.mpr complete.1)]
    dsimp only
    rw [if_pos (by rw [length]; exact complete.2)]
    exact ⟨_, _, rfl, rfl, rfl⟩
  rcases constructed with ⟨encap, rest, read, outer, inner⟩
  have law : RoundTrips type auxdata frame mac ethertype payload ↔
      encap.outerVlan.toNat < 4096 ∧ encap.innerVlan.toNat < 4096 ∧
        (encap.outerVlan = 0 -> encap.innerVlan = 0) := by
    rw [← readsBack_iff encap mac payload notVlan, RoundTrips, read]
    constructor
    · rintro ⟨found, _, same, readsBack⟩
      rw [(Prod.mk.inj (Option.some.inj same)).1]
      exact readsBack
    · exact fun readsBack => ⟨encap, rest, rfl, readsBack⟩
  rw [law, outer, inner]
  unfold parseHeaders Representable
  split
  · split
    · rename_i double
      exact ⟨fun ids _ => ids.2.2, fun paired => ⟨vlanId_lt _ _, vlanId_lt _ _, paired double⟩⟩
    · rename_i single
      exact ⟨fun _ double => absurd double single,
        fun _ => ⟨vlanId_lt _ _, (by decide : (0 : UInt16).toNat < 4096), fun _ => rfl⟩⟩
  · exact ⟨fun ids => ids.1, fun small => ⟨small, (by decide : (0 : UInt16).toNat < 4096), fun _ => rfl⟩⟩

/-- A frame with two tags, and a discovery type behind them. -/
def doubleTagged (outerId innerId : UInt16) : Buffer where
  bytes := addresses ⟨2, 0, 0, 0, 1, 1⟩ ⟨2, 0, 0, 0, 0, 1⟩ ++ bytes16 ethVlan ++ bytes16 outerId ++
    bytes16 ethVlan ++ bytes16 innerId ++ bytes16 ethPppoeDiscovery
  behind := fun _ => 0

theorem roundTrips_doubleTagged :
    RoundTrips 0 0 (doubleTagged 100 7) ⟨2, 0, 0, 0, 0, 1⟩ ethPppoeSession [1, 2, 3] :=
  (headersRoundTrip_iff 0 0 ⟨2, 0, 0, 0, 0, 1⟩ [1, 2, 3] (by decide) (by decide)).mpr (by decide)

/-- Behind a priority tag the second tag is lost, and four bytes are left in front
of the payload. -/
theorem priorityTag_not_roundTrips :
    ¬ forall type auxdata frame mac ethertype payload, Complete frame -> ethertype ≠ ethVlan ->
      RoundTrips type auxdata frame mac ethertype payload := by
  intro claim
  rcases claim 0 0 (doubleTagged 0 7) ⟨2, 0, 0, 0, 0, 1⟩ ethPppoeSession [1, 2, 3] (by decide)
    (by decide) with ⟨encap, rest, received, readsBack⟩
  rcases readsBack 0 (fun _ => 0) with ⟨left, read, same⟩
  have found : construct 0 0 0 (doubleTagged 0 7) =
      some (⟨⟨2, 0, 0, 0, 1, 1⟩, ⟨2, 0, 0, 0, 0, 1⟩, 0, 7, ethPppoeDiscovery⟩, ⟨[], fun _ => 0⟩) := rfl
  have isEncap := (Prod.mk.inj (Option.some.inj (received.symm.trans found))).1
  rw [isEncap] at read
  have ids := Encapsulation.mk.inj (Prod.mk.inj (Option.some.inj read)).1
  have lost : (0 : UInt16) = 7 := ids.2.2.2.1
  revert lost
  decide

end Encapsulation

end Pppcpd
