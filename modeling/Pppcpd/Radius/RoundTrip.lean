import Pppcpd.Radius.Avp

namespace Pppcpd

open Foundation

/-!
# Attributes that are written and read back

A standard attribute is read back as it was written, but for the member
`vendor`, which the parsing constructor leaves to the memory.  An attribute of a
vendor is not: its type byte is missing and its vendor is in the byte order of
the host.  The attribute 26 itself is taken for one of a vendor.
-/

/-- What an attribute is built from. -/
inductive AVPValue
  | be32 (value : UInt32)
  | be16 (value : UInt16)
  | text (value : Bytes)

structure AVPSource where
  attr : Bytes
  value : AVPValue

namespace AVPSource

/-- The constructor of the value's type. -/
def build (dict : RadiusDict) (source : AVPSource) : AVP :=
  match source.value with
  | .be32 value => .ofBE32 dict source.attr value
  | .be16 value => .ofBE16 dict source.attr value
  | .text value => .ofString dict source.attr value

/-- A string has at most 247 bytes. -/
def Short (source : AVPSource) : Prop :=
  match source.value with
  | .text value => value.length ≤ 247
  | _ => True

/-- `getVal` of the type that was built from returns the original value. -/
def ReadBack (source : AVPSource) (avp : AVP) : Prop :=
  match source.value with
  | .be32 value => avp.getBE32 = some value
  | .be16 value => avp.getBE16 = some value
  | .text value => avp.getString = some value

/-- The value is not a `BE16`, and not a string that the dictionary replaces by
a number. -/
def Kept (dict : RadiusDict) (source : AVPSource) : Prop :=
  match source.value with
  | .be32 _ => True
  | .be16 _ => False
  | .text value =>
      dict.getValueByName source.attr value = 0 ∨
        bytes32 (dict.getValueByName source.attr value) = value

/-- The name stands for a standard attribute other than 26. -/
def Standard (dict : RadiusDict) (source : AVPSource) : Prop :=
  (dict.getIdByName source.attr).1 ≠ AVP.radiusVsa ∧ (dict.getIdByName source.attr).2 = 0

theorem readBack_iff (dict : RadiusDict) (source : AVPSource) :
    source.ReadBack (source.build dict) ↔ source.Kept dict := by
  unfold ReadBack build Kept
  cases source.value with
  | be32 value => exact ⟨fun _ => trivial, fun _ => congrArg some (be32_bytes32 value)⟩
  | be16 value => exact ⟨nofun, nofun⟩
  | text value =>
      dsimp only [AVP.ofString, AVP.getString, AVP.ofValue]
      split
      · rename_i zero
        exact ⟨fun _ => .inl zero, fun _ => rfl⟩
      · rename_i nonzero
        exact ⟨fun same => .inr (Option.some.inj same),
          fun kept => congrArg some (kept.resolve_left nonzero)⟩

theorem build_type (dict : RadiusDict) (source : AVPSource) :
    (source.build dict).type = (dict.getIdByName source.attr).1 := by
  unfold build
  cases source.value <;> rfl

theorem build_vendor (dict : RadiusDict) (source : AVPSource) :
    (source.build dict).vendor = (dict.getIdByName source.attr).2 := by
  unfold build
  cases source.value <;> rfl

theorem build_length (dict : RadiusDict) (source : AVPSource) :
    (source.build dict).length = UInt8.ofNat (2 + (source.build dict).value.length) := by
  unfold build
  cases source.value <;> rfl

/-- The value of a short source fits an attribute of a vendor. -/
theorem build_short {source : AVPSource} (short : source.Short) (dict : RadiusDict) :
    (source.build dict).value.length ≤ 247 := by
  unfold Short at short
  unfold build
  cases value : source.value with
  | be32 number => exact Nat.le_of_ble_eq_true rfl
  | be16 number => exact Nat.le_of_ble_eq_true rfl
  | text text =>
      rw [value] at short
      dsimp only [AVP.ofString, AVP.ofValue]
      split
      · exact short
      · exact Nat.le_of_ble_eq_true rfl

end AVPSource

namespace AVP

/-- An attribute as its constructors make it. -/
structure Sized (avp : AVP) : Prop where
  length : avp.length = UInt8.ofNat (2 + avp.value.length)
  short : avp.value.length ≤ 247

theorem Sized.toNat {avp : AVP} (sized : avp.Sized) : avp.length.toNat = 2 + avp.value.length := by
  have short := sized.short
  rw [sized.length, UInt8.toNat_ofNat']
  omega

/-! ## Standard attributes -/

/-- A standard attribute is read where it stands. -/
theorem parseAt_standard {avp : AVP} (sized : avp.Sized) (type : avp.type ≠ radiusVsa)
    (vendor : avp.vendor = 0) (front rest : Bytes) (behind : Nat -> UInt8) (stale : UInt32) :
    parseAt ⟨front ++ (avp.serialize ++ rest), behind⟩ front.length stale =
      some ({ avp with vendor := stale }, avp.length) := by
  have bytes : avp.serialize ++ rest = [avp.type, avp.length] ++ (avp.value ++ rest) := by
    rw [serialize, if_pos vendor, List.append_assoc]
  rw [bytes]
  have first := Buffer.read_append front ([avp.type, avp.length] ++ (avp.value ++ rest)) behind 0
  have second := Buffer.read_append front ([avp.type, avp.length] ++ (avp.value ++ rest)) behind 1
  have third := Buffer.slice_append front ([avp.type, avp.length] ++ (avp.value ++ rest)) behind 2
    (avp.length.toNat - 2)
  have value := Buffer.slice_append [avp.type, avp.length] (avp.value ++ rest) behind 0
    (avp.length.toNat - 2)
  have isType : (Buffer.mk (front ++ ([avp.type, avp.length] ++ (avp.value ++ rest))) behind).read
      front.length = avp.type := first
  have isLength : (Buffer.mk (front ++ ([avp.type, avp.length] ++ (avp.value ++ rest))) behind).read
      (front.length + 1) = avp.length := second
  have isValue : (Buffer.mk (front ++ ([avp.type, avp.length] ++ (avp.value ++ rest))) behind).slice
      (front.length + 2) (avp.length.toNat - 2) = avp.value := by
    rw [third]
    refine value.trans ?_
    rw [sized.toNat, Nat.add_sub_cancel_left, Buffer.slice_self]
  have room : ¬ (front ++ ([avp.type, avp.length] ++ (avp.value ++ rest))).length <
      front.length + 2 := by
    simp only [List.length_append, List.length_cons]
    omega
  have long : ¬ avp.length < 2 := by
    rw [UInt8.lt_iff_toNat_lt, sized.toNat]
    exact Nat.not_lt.mpr (Nat.le_add_right 2 _)
  simp only [parseAt, room, if_false, isType, isLength, isValue, type, long]

/-- The loop of `parseAVP` over standard attributes. -/
theorem parseFrom_standard {avps : List AVP}
    (standard : forall avp, avp ∈ avps -> avp.Sized ∧ avp.type ≠ radiusVsa ∧ avp.vendor = 0)
    (front : Bytes) (behind : Nat -> UInt8) (uninitialised : Nat -> UInt32) {fuel : Nat}
    (enough : avps.length < fuel) (index : Nat) :
    parseFrom ⟨front ++ avps.flatMap serialize, behind⟩ uninitialised fuel index front.length =
      some (avps.mapIdx (fun i avp => { avp with vendor := uninitialised (index + i) })) := by
  induction avps generalizing front fuel index with
  | nil =>
      cases fuel with
      | zero => exact absurd enough (Nat.not_lt_zero _)
      | succ fuel =>
          rw [List.flatMap_nil, List.append_nil, parseFrom, if_pos rfl]
          rfl
  | cons avp rest inductionHypothesis =>
      cases fuel with
      | zero => exact absurd enough (Nat.not_lt_zero _)
      | succ fuel =>
          rcases standard avp List.mem_cons_self with ⟨sized, type, vendor⟩
          have read := parseAt_standard sized type vendor front (rest.flatMap serialize) behind
            (uninitialised index)
          have size : avp.serialize.length = avp.length.toNat := by
            rw [serialize, if_pos vendor, sized.toNat, List.length_append]
            rfl
          have next : front.length + avp.length.toNat = (front ++ avp.serialize).length := by
            rw [List.length_append, size]
          have inside : ¬ front.length = (front ++ (avp.serialize ++ rest.flatMap serialize)).length := by
            rw [List.length_append, List.length_append, size, sized.toNat]
            omega
          have moves : ¬ avp.length = 0 := by
            intro zero
            have length := sized.toNat
            rw [zero] at length
            exact absurd length (Nat.ne_of_lt (Nat.lt_of_lt_of_le (Nat.succ_pos 1) (Nat.le_add_right 2 _)))
          have later := inductionHypothesis
            (fun other member => standard other (List.mem_cons_of_mem avp member))
            (front ++ avp.serialize) (Nat.lt_of_succ_lt_succ enough) (index + 1)
          rw [List.append_assoc] at later
          rw [List.flatMap_cons, parseFrom, if_neg inside, read]
          dsimp only
          rw [if_neg moves, next, later, List.mapIdx_cons]
          simp only [Option.map_some, Nat.add_zero, Nat.add_comm, Nat.add_left_comm]

theorem length_le_flatMap (avps : List AVP) : avps.length ≤ (avps.flatMap serialize).length := by
  induction avps with
  | nil => exact Nat.le_refl _
  | cons avp rest inductionHypothesis =>
      have some : 1 ≤ avp.serialize.length := by
        unfold serialize
        split <;> simp
      rw [List.flatMap_cons, List.length_append, List.length_cons]
      omega

/-- A vector of standard attributes is read back, with the vendors that the
memory holds. -/
theorem parse_standard {avps : List AVP}
    (standard : forall avp, avp ∈ avps -> avp.Sized ∧ avp.type ≠ radiusVsa ∧ avp.vendor = 0)
    (behind : Nat -> UInt8) (uninitialised : Nat -> UInt32) :
    parse ⟨avps.flatMap serialize, behind⟩ uninitialised =
      some (avps.mapIdx (fun i avp => { avp with vendor := uninitialised i })) := by
  have enough : avps.length < (avps.flatMap serialize).length + 2 := by
    exact Nat.lt_succ_of_le (Nat.le_succ_of_le (length_le_flatMap avps))
  have read := parseFrom_standard standard [] behind uninitialised enough 0
  simp only [Nat.zero_add] at read
  exact read

/-! ## Other attributes -/

/-- The next attribute of a vector that is read to its end. -/
theorem parseFrom_cons {buffer : Buffer} {uninitialised : Nat -> UInt32} {fuel index offset : Nat}
    {first : AVP} {rest : List AVP}
    (read : parseFrom buffer uninitialised (fuel + 1) index offset = some (first :: rest)) :
    ∃ size, parseAt buffer offset (uninitialised index) = some (first, size) ∧
      parseFrom buffer uninitialised fuel (index + 1) (offset + size.toNat) = some rest := by
  rw [parseFrom] at read
  split at read
  · cases read
  · split at read
    · cases read
    · rename_i avp size found
      split at read
      · cases read
      · rcases Option.map_eq_some_iff.mp read with ⟨later, followed, equal⟩
        injection equal with same sameRest
        exact ⟨size, same ▸ found, sameRest ▸ followed⟩

/-- The loop ends at the end of the vector or with an exception. -/
theorem parseFrom_nil {buffer : Buffer} {uninitialised : Nat -> UInt32} {fuel index offset : Nat}
    (read : parseFrom buffer uninitialised (fuel + 1) index offset = some []) :
    offset = buffer.bytes.length ∨ parseAt buffer offset (uninitialised index) = none := by
  rw [parseFrom] at read
  split at read
  · rename_i last
    exact .inl last
  · split at read
    · rename_i thrown
      exact .inr thrown
    · split at read
      · cases read
      · rcases Option.map_eq_some_iff.mp read with ⟨_, _, equal⟩
        cases equal

/-- An attribute of type 26 is read as one of a vendor. -/
theorem parseAt_vsa {buffer : Buffer} {stale : UInt32} {avp : AVP} {size : UInt8}
    (vsa : buffer.read 0 = radiusVsa) (read : parseAt buffer 0 stale = some (avp, size)) :
    avp.type = buffer.read 6 ∧ avp.value = buffer.slice 8 (avp.length.toNat - 2) := by
  unfold parseAt at read
  split at read
  · cases read
  · dsimp only at read
    split at read
    · cases read
    · have same := (Prod.mk.inj (Option.some.inj read)).1
      rw [← same]
      exact ⟨rfl, rfl⟩

/-- The outer length of any other attribute is its own. -/
theorem parseAt_other {buffer : Buffer} {stale : UInt32} {avp : AVP} {size : UInt8}
    (other : buffer.read 0 ≠ radiusVsa) (read : parseAt buffer 0 stale = some (avp, size)) :
    avp.length = size := by
  unfold parseAt at read
  split at read
  · cases read
  · dsimp only at read
    split at read
    · cases read
    · have parts := Prod.mk.inj (Option.some.inj read)
      rw [← parts.1, ← parts.2]

/-- What an exception says about the bytes. -/
theorem parseAt_none {buffer : Buffer} {stale : UInt32} {offset : Nat}
    (room : offset + 2 ≤ buffer.bytes.length) :
    parseAt buffer offset stale = none ↔
      (if buffer.read offset = radiusVsa then buffer.read (offset + 7) else
        buffer.read (offset + 1)) < 2 := by
  unfold parseAt
  rw [if_neg (Nat.not_lt.mpr room)]
  by_cases vsa : buffer.read offset = radiusVsa
  · simp only [vsa, if_true]
    split
    · rename_i small
      exact ⟨fun _ => small, fun _ => rfl⟩
    · rename_i large
      exact ⟨nofun, fun small => absurd small large⟩
  · simp only [vsa, if_false]
    split
    · rename_i small
      exact ⟨fun _ => small, fun _ => rfl⟩
    · rename_i large
      exact ⟨nofun, fun small => absurd small large⟩

/-- An exception that the bytes behind a vector cannot prevent is thrown for
every continuation. -/
theorem parseAt_none_append {bytes rest : Bytes} {behind : Nat -> UInt8} {stale other : UInt32}
    {offset : Nat} (room : offset + 2 ≤ bytes.length) (short : bytes.length ≤ offset + 7)
    (thrown : parseAt ⟨bytes, fun _ => 255⟩ offset stale = none) :
    parseAt ⟨bytes ++ rest, behind⟩ offset other = none := by
  have small := (parseAt_none room).mp thrown
  have type := Buffer.read_inside bytes rest (fun _ => 255) behind (Nat.lt_of_succ_lt room)
  have length := Buffer.read_inside bytes rest (fun _ => 255) behind room
  refine (parseAt_none ?_).mpr ?_
  · rw [List.length_append]
    exact Nat.le_trans room (Nat.le_add_right _ _)
  · rw [type, length]
    by_cases vsa : (Buffer.mk bytes (fun _ => 255)).read offset = radiusVsa
    · rw [if_pos vsa, Buffer.read_behind _ _ short] at small
      exact absurd small (by decide)
    · rw [if_neg vsa] at small ⊢
      exact small

/-- Bytes that begin with 26 and are too few for an attribute of a vendor with
the value: part of it is read behind them. -/
theorem overrun {avp : AVP} (sized : avp.Sized) {bytes : Bytes} {uninitialised : Nat -> UInt32}
    (vsa : forall behind, (Buffer.mk bytes behind).read 0 = radiusVsa)
    (few : bytes.length ≤ 6 ∨ 1 ≤ avp.value.length ∧ bytes.length ≤ 7 + avp.value.length) :
    ¬ forall behind, parse ⟨bytes, behind⟩ uninitialised = some [avp] := by
  intro read
  have seen : forall behind, avp.type = (Buffer.mk bytes behind).read 6 ∧
      avp.value = (Buffer.mk bytes behind).slice 8 avp.value.length := by
    intro behind
    rcases parseFrom_cons (read behind) with ⟨size, found, _⟩
    have parts := parseAt_vsa (vsa behind) found
    rw [sized.toNat, Nat.add_sub_cancel_left] at parts
    exact parts
  rcases few with short | ⟨some, short⟩
  · have first := (seen (fun _ => 0)).1
    have second := (seen (fun _ => 1)).1
    rw [Buffer.read_behind bytes _ short] at first second
    exact absurd (first.symm.trans second) (by decide)
  · have last : avp.value.length - 1 < avp.value.length := Nat.sub_lt some Nat.one_pos
    have beyond : bytes.length ≤ 8 + (avp.value.length - 1) := by omega
    have first := congrArg (fun value : Bytes => value[avp.value.length - 1]?) (seen (fun _ => 0)).2
    have second := congrArg (fun value : Bytes => value[avp.value.length - 1]?) (seen (fun _ => 1)).2
    rw [Buffer.getElem?_slice _ _ last, Buffer.read_behind bytes _ beyond] at first second
    exact absurd (first.symm.trans second) (by decide)

/-- The attribute 26 is not read back. -/
theorem not_parse_vsa {avp : AVP} (sized : avp.Sized) (vendor : avp.vendor = 0)
    (vsa : avp.type = radiusVsa) (uninitialised : Nat -> UInt32) :
    ¬ forall behind, parse ⟨avp.serialize, behind⟩ uninitialised = some [avp] := by
  have bytes : avp.serialize = [avp.type, avp.length] ++ avp.value := by
    rw [serialize, if_pos vendor]
  have length : avp.serialize.length = 2 + avp.value.length := by
    rw [bytes, List.length_append]
    rfl
  refine overrun sized (fun behind => ?_) ?_
  · rw [bytes]
    exact vsa
  · rw [length]
    omega

/-- An attribute of a vendor is not read back, or not where another one follows
it. -/
theorem not_parse_vendor {avp : AVP} (sized : avp.Sized) (vendor : avp.vendor ≠ 0)
    (uninitialised : Nat -> UInt32)
    (once : forall behind, parse ⟨avp.serialize, behind⟩ uninitialised = some [avp])
    (twice : forall behind, parse ⟨avp.serialize ++ avp.serialize, behind⟩ uninitialised =
      some [avp, avp]) : False := by
  have bytes : avp.serialize = [UInt8.ofNat (8 + avp.value.length)] ++ hostBytes32 avp.vendor ++
      [avp.type, avp.length] ++ avp.value := by
    rw [serialize, if_neg vendor]
  have length : avp.serialize.length = 7 + avp.value.length := by
    rw [bytes]
    simp only [List.length_append, List.length_cons, List.length_nil, hostBytes32,
      List.length_reverse, bytes32]
  have head : forall behind, (Buffer.mk avp.serialize behind).read 0 =
      UInt8.ofNat (8 + avp.value.length) := by
    intro behind
    rw [bytes]
    rfl
  by_cases vsa : UInt8.ofNat (8 + avp.value.length) = radiusVsa
  · have long := congrArg UInt8.toNat vsa
    have twentySix : radiusVsa.toNat = 26 := rfl
    have short := sized.short
    rw [UInt8.toNat_ofNat', twentySix] at long
    exact overrun sized (fun behind => (head behind).trans vsa) (.inr (by omega)) once
  · have other : forall rest behind, (Buffer.mk (avp.serialize ++ rest) behind).read 0 ≠ radiusVsa := by
      intro rest behind
      rw [Buffer.read_inside _ _ behind _ (by omega), head]
      exact vsa
    -- The parser goes on inside the attribute, where it throws.
    rcases parseFrom_cons (once (fun _ => 255)) with ⟨size, found, ended⟩
    have alone := other [] (fun _ => 255)
    rw [List.append_nil] at alone
    rw [← parseAt_other alone found, sized.toNat] at ended
    have thrown := (parseFrom_nil ended).resolve_left (by dsimp only; omega)
    -- So it does where another attribute follows.
    rcases parseFrom_cons (twice (fun _ => 255)) with ⟨again, foundAgain, followed⟩
    rw [← parseAt_other (other _ _) foundAgain, sized.toNat] at followed
    rcases parseFrom_cons followed with ⟨next, foundNext, _⟩
    rw [parseAt_none_append (by omega) (by omega) thrown] at foundNext
    cases foundNext

end AVP

/-! ## The round trip -/

/-- The attributes built from a list of sources, serialized one after the other
and parsed, are the same attributes, whatever the memory holds behind them, and
each gives back the value it was built from. -/
def RoundTrips (dict : RadiusDict) (uninitialised : Nat -> UInt32) (sources : List AVPSource) :
    Prop :=
  (forall behind, AVP.parse
      ⟨(sources.map (AVPSource.build dict)).flatMap AVP.serialize, behind⟩ uninitialised =
        some (sources.map (AVPSource.build dict))) ∧
    forall source, source ∈ sources -> source.ReadBack (source.build dict)

namespace AVPSource

variable {dict : RadiusDict} {uninitialised : Nat -> UInt32} {source : AVPSource}

theorem build_sized (short : source.Short) : (source.build dict).Sized :=
  ⟨build_length dict source, build_short short dict⟩

/-- A source that makes the round trip alone and twice stands for a standard
attribute. -/
theorem standard_of_roundTrips (short : source.Short)
    (once : RoundTrips dict uninitialised [source])
    (twice : RoundTrips dict uninitialised [source, source]) : source.Standard dict := by
  have sized := @build_sized dict source short
  have alone : forall behind, AVP.parse ⟨(source.build dict).serialize, behind⟩ uninitialised =
      some [source.build dict] := by
    intro behind
    have read := once.1 behind
    rw [List.map_singleton, List.flatMap_singleton] at read
    exact read
  have both : forall behind, AVP.parse
      ⟨(source.build dict).serialize ++ (source.build dict).serialize, behind⟩ uninitialised =
        some [source.build dict, source.build dict] := by
    intro behind
    have read := twice.1 behind
    rw [List.map_cons, List.map_singleton, List.flatMap_cons, List.flatMap_singleton] at read
    exact read
  have vendor : (source.build dict).vendor = 0 :=
    Decidable.byContradiction (fun other => AVP.not_parse_vendor sized other uninitialised alone both)
  refine ⟨fun vsa => ?_, (build_vendor dict source) ▸ vendor⟩
  exact AVP.not_parse_vsa sized vendor ((build_type dict source).trans vsa) uninitialised alone

theorem build_standard (short : source.Short) (standard : source.Standard dict) :
    (source.build dict).Sized ∧ (source.build dict).type ≠ AVP.radiusVsa ∧
      (source.build dict).vendor = 0 := by
  rw [build_type, build_vendor]
  exact ⟨build_sized short, standard.1, standard.2⟩

/-- The attributes that are read for a list of standard sources. -/
theorem parse_build {sources : List AVPSource}
    (standard : forall source, source ∈ sources -> source.Short ∧ source.Standard dict)
    (behind : Nat -> UInt8) :
    AVP.parse ⟨(sources.map (build dict)).flatMap AVP.serialize, behind⟩ uninitialised =
      some ((sources.map (build dict)).mapIdx
        (fun i avp => { avp with vendor := uninitialised i })) := by
  refine AVP.parse_standard (fun avp member => ?_) behind uninitialised
  rcases List.mem_map.mp member with ⟨source, inside, same⟩
  rw [← same]
  exact build_standard (standard source inside).1 (standard source inside).2

/-- Where a standard source makes the round trip any number of times, the memory
holds zeros. -/
theorem memory_of_roundTrips (short : source.Short) (standard : source.Standard dict)
    (repeated : forall count, RoundTrips dict uninitialised (List.replicate count source))
    (index : Nat) : uninitialised index = 0 := by
  have read := (repeated (index + 1)).1 (fun _ => 0)
  have all : forall other, other ∈ List.replicate (index + 1) source ->
      other.Short ∧ other.Standard dict := by
    intro other member
    rw [(List.mem_replicate.mp member).2]
    exact ⟨short, standard⟩
  rw [parse_build all] at read
  have there := congrArg (fun avps : List AVP => avps[index]?) (Option.some.inj read)
  simp only [List.getElem?_mapIdx, List.map_replicate, List.getElem?_replicate,
    Nat.lt_succ_self, if_true, Option.map_some] at there
  have vendor := congrArg AVP.vendor (Option.some.inj there)
  exact vendor.trans ((build_vendor dict source).trans standard.2)

end AVPSource

/-- The attributes that may be built make the round trip in every list if and
only if they are standard and kept, and the memory in which they are parsed
holds zeros. -/
theorem roundTrips_iff (dict : RadiusDict) (uninitialised : Nat -> UInt32)
    (covers : AVPSource -> Prop) (short : forall source, covers source -> source.Short) :
    (forall sources, (forall source, source ∈ sources -> covers source) ->
        RoundTrips dict uninitialised sources) ↔
      forall source, covers source -> source.Standard dict ∧ source.Kept dict ∧
        forall index, uninitialised index = 0 := by
  constructor
  · intro roundTrips source covered
    have copies : forall count, RoundTrips dict uninitialised (List.replicate count source) := by
      intro count
      refine roundTrips _ (fun other member => ?_)
      rw [(List.mem_replicate.mp member).2]
      exact covered
    have standard := AVPSource.standard_of_roundTrips (short source covered) (copies 1) (copies 2)
    exact ⟨standard,
      (AVPSource.readBack_iff dict source).mp ((copies 1).2 source List.mem_cons_self),
      AVPSource.memory_of_roundTrips (short source covered) standard copies⟩
  · intro good sources covered
    refine ⟨fun behind => ?_, fun source member =>
      (AVPSource.readBack_iff dict source).mpr (good source (covered source member)).2.1⟩
    rw [AVPSource.parse_build (fun source member =>
      ⟨short source (covered source member), (good source (covered source member)).1⟩)]
    refine congrArg some (List.ext_getElem? (fun position => ?_))
    rw [List.getElem?_mapIdx, List.getElem?_map]
    cases found : sources[position]? with
    | none => rfl
    | some source =>
        have covers := covered source (List.mem_of_getElem? found)
        have zero := (good source covers).2.2 position
        have vendor := (AVPSource.build_vendor dict source).trans (good source covers).1.2
        rw [Option.map_some, Option.map_some, zero, ← vendor]

/-- A dictionary with two standard attributes and one of a vendor. -/
def sampleDict : RadiusDict where
  attrs := [(1, { name := ascii "User-Name" }), (5, { name := ascii "NAS-Port" })]
  vsa := [(9, [(1, { name := ascii "Cisco-AVPair" })])]

def samplePort : AVPSource := ⟨ascii "NAS-Port", .be32 7⟩

def sampleUser : AVPSource := ⟨ascii "User-Name", .text (ascii "user")⟩

/-- The two standard attributes make the round trip. -/
theorem roundTrips_iff_at_standard :
    RoundTrips sampleDict (fun _ => 0) [samplePort, sampleUser, samplePort] := by
  have covered : forall source, source ∈ [samplePort, sampleUser, samplePort] ->
      source = samplePort ∨ source = sampleUser := by
    simp
  refine (roundTrips_iff sampleDict (fun _ => 0)
    (fun source => source = samplePort ∨ source = sampleUser) ?_).mpr ?_ _ covered
  · rintro source (same | same)
    · exact same ▸ trivial
    · rw [same]
      exact Nat.le_of_ble_eq_true rfl
  · rintro source (same | same)
    · rw [same]
      exact ⟨⟨by decide, by decide⟩, trivial, fun _ => rfl⟩
    · rw [same]
      exact ⟨⟨by decide, by decide⟩, .inl (by decide), fun _ => rfl⟩

/-- The attribute of the vendor is not read back. -/
theorem vendorAttribute_misread :
    ¬ forall dict uninitialised sources, (forall source, source ∈ sources -> source.Short) ->
      RoundTrips dict uninitialised sources := by
  intro claim
  have made := claim sampleDict (fun _ => 0) [⟨ascii "Cisco-AVPair", .be32 5⟩]
    (fun source member => (List.mem_singleton.mp member) ▸ trivial)
  exact absurd (made.1 (fun _ => 0)) (by decide +kernel)

end Pppcpd
