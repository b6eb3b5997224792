import Pppcpd.Foundation.Walk
import Pppcpd.Wire.Packet
import Mathlib.Data.List.Flatten

namespace Pppcpd

open Foundation

/-!
# Lists of options

A Configure packet carries options one after another, each with its type and
its length in front.  What a loop finds at the start of an option of such a
packet is that option.
-/

/-- An option.  Its length byte counts the two bytes in front of the value. -/
structure PPPOption where
  kind : UInt8
  value : Bytes
  fits : value.length ≤ 253

namespace PPPOption

def size (option : PPPOption) : Nat := 2 + option.value.length

def bytes (option : PPPOption) : Bytes := [option.kind, UInt8.ofNat option.size] ++ option.value

/-- The value as a number of 16 or of 32 bits, when it is that long. -/
def value16 (option : PPPOption) : UInt16 := (Buffer.mk option.value (fun _ => 0)).field16 0

def value32 (option : PPPOption) : UInt32 := (Buffer.mk option.value (fun _ => 0)).field32 0

/-- An option with a 32-bit value. -/
def of32 (kind : UInt8) (value : UInt32) : PPPOption := ⟨kind, bytes32 value, by simp [bytes32]⟩

@[simp] theorem length_bytes (option : PPPOption) : option.bytes.length = option.size := by
  simp [bytes, size]
  omega

theorem size_pos (option : PPPOption) : 0 < option.size := Nat.lt_add_right _ Nat.two_pos

theorem toNat_size (option : PPPOption) : (UInt8.ofNat option.size).toNat = option.size := by
  have fits := option.fits
  unfold size
  rw [UInt8.toNat_ofNat']
  omega

@[simp] theorem value32_of32 (kind : UInt8) (value : UInt32) : (of32 kind value).value32 = value :=
  be32_bytes32 value

end PPPOption

/-- The bytes of a list of options. -/
def encodeOptions (options : List PPPOption) : Bytes := options.flatMap PPPOption.bytes

@[simp] theorem encodeOptions_nil : encodeOptions [] = [] := rfl

@[simp] theorem encodeOptions_cons (option : PPPOption) (rest : List PPPOption) :
    encodeOptions (option :: rest) = option.bytes ++ encodeOptions rest := rfl

theorem length_encodeOptions (options : List PPPOption) :
    (encodeOptions options).length = (options.map PPPOption.size).sum := by
  induction options with
  | nil => rfl
  | cons option rest inductionHypothesis => simp [inductionHypothesis]

theorem length_le_encodeOptions (options : List PPPOption) :
    options.length ≤ (encodeOptions options).length := by
  induction options with
  | nil => exact Nat.le_refl 0
  | cons option rest inductionHypothesis =>
      have positive := option.size_pos
      simp only [encodeOptions_cons, List.length_append, PPPOption.length_bytes, List.length_cons]
      omega

theorem encodeOptions_eq_nil_iff {options : List PPPOption} :
    encodeOptions options = [] ↔ options = [] := by
  constructor
  · intro nothing
    have short := length_le_encodeOptions options
    rw [nothing] at short
    exact List.length_eq_zero_iff.mp (Nat.le_zero.mp short)
  · intro none
    rw [none, encodeOptions_nil]

/-- A selection of options is not longer than all of them. -/
theorem length_encodeOptions_filter (options : List PPPOption) (select : PPPOption -> Bool) :
    (encodeOptions (options.filter select)).length ≤ (encodeOptions options).length :=
  (List.filter_sublist.flatMap PPPOption.bytes).length_le

/-- Where the options of a list start, counted from the first one. -/
def optionOffsets (options : List PPPOption) : List Nat := startsOf 0 (options.map PPPOption.size)

namespace Packet

/-- The headers of a packet say which PPPoE session, which PPP protocol, which code and
which identifier it has, whatever the memory behind it. -/
structure Marked (packet : Bytes) (sid proto : UInt16) (code identifier : UInt8) : Prop where
  session : forall behind, pppoeSessionId ⟨packet, behind⟩ = sid
  protocol : forall behind, pppProtocol ⟨packet, behind⟩ = proto
  code : forall behind, Packet.code ⟨packet, behind⟩ = code
  identifier : forall behind, Packet.identifier ⟨packet, behind⟩ = identifier

/-- The length field of the packet counts its header and the options, which
follow the header.  Anything may follow the options. -/
structure Carries (packet : Packet) (options : List PPPOption) : Prop where
  length : packet.length.toNat = sizeofPPPLcp + (encodeOptions options).length
  bytes : ∃ header rest, header.length = optionBase ∧
    packet.bytes = header ++ (encodeOptions options ++ rest)

/-- A packet that carries options has them and its headers. -/
theorem Carries.fits {packet : Packet} {options : List PPPOption} (carries : packet.Carries options) :
    optionBase + (encodeOptions options).length ≤ packet.bytes.length := by
  rcases carries.bytes with ⟨header, rest, base, isBytes⟩
  rw [isBytes, List.length_append, List.length_append, base]
  omega

/-- Changing the code of a packet changes its header, which keeps its other
fields whatever follows it. -/
theorem setCode_append {header : Bytes} (base : header.length = optionBase) (rest : Bytes)
    (behind : Nat -> UInt8) (value : UInt8) :
    setCode ⟨header ++ rest, behind⟩ value = ⟨header.set 8 value ++ rest, behind⟩ := by
  have inside : 8 < header.length := by
    rw [base]
    decide
  have within : 8 < (header ++ rest).length := by
    rw [List.length_append]
    omega
  unfold setCode Buffer.set
  rw [if_pos within, List.set_append_left 8 value inside]

theorem fields_setCode {header : Bytes} (base : header.length = optionBase) (value : UInt8)
    (rest others : Bytes) (behind other : Nat -> UInt8) :
    code ⟨header.set 8 value ++ rest, behind⟩ = value ∧
      identifier ⟨header.set 8 value ++ rest, behind⟩ = identifier ⟨header ++ others, other⟩ ∧
      length ⟨header.set 8 value ++ rest, behind⟩ = length ⟨header ++ others, other⟩ ∧
      pppoeSessionId ⟨header.set 8 value ++ rest, behind⟩ = pppoeSessionId ⟨header ++ others, other⟩ ∧
      pppProtocol ⟨header.set 8 value ++ rest, behind⟩ = pppProtocol ⟨header ++ others, other⟩ := by
  match header, base with
  | [_, _, _, _, _, _, _, _, _, _, _, _], _ => exact ⟨rfl, rfl, rfl, rfl, rfl⟩

/-- Another code leaves the rest of the headers as it is. -/
theorem marked_setCode {header : Bytes} (base : header.length = optionBase) (value : UInt8)
    (rest others : Bytes) (other : Nat -> UInt8) :
    Marked (header.set 8 value ++ rest) (pppoeSessionId ⟨header ++ others, other⟩)
      (pppProtocol ⟨header ++ others, other⟩) value (identifier ⟨header ++ others, other⟩) where
  session := fun behind => (fields_setCode base value rest others behind other).2.2.2.1
  protocol := fun behind => (fields_setCode base value rest others behind other).2.2.2.2
  code := fun behind => (fields_setCode base value rest others behind other).1
  identifier := fun behind => (fields_setCode base value rest others behind other).2.1

/-- The option starts at an offset of the option area. -/
structure OptionAt (packet : Packet) (offset : Nat) (option : PPPOption) : Prop where
  kind : packet.optionType offset = option.kind
  size : (packet.optionLen offset).toNat = option.size
  bytes : packet.optionBytes offset = option.bytes
  value16 : 2 ≤ option.value.length -> packet.optionVal16 offset = option.value16
  value32 : 4 ≤ option.value.length -> packet.optionVal32 offset = option.value32
  inside : optionBase + offset + option.size ≤ packet.bytes.length

theorem optionAt_of_split (front rest : Bytes) (behind : Nat -> UInt8) (option : PPPOption)
    {offset : Nat} (position : front.length = optionBase + offset) :
    OptionAt ⟨front ++ (option.bytes ++ rest), behind⟩ offset option := by
  -- What is read from the start of the option on.
  have reads : forall index, index < option.size ->
      (Buffer.mk (front ++ (option.bytes ++ rest)) behind).read (optionBase + offset + index) =
        (Buffer.mk option.bytes (fun _ => 0)).read index := by
    intro index within
    rw [← position, Buffer.read_append]
    exact Buffer.read_inside option.bytes rest _ _ (by rw [option.length_bytes]; exact within)
  have values : forall index, 2 + index < option.size ->
      (Buffer.mk (front ++ (option.bytes ++ rest)) behind).read (optionBase + offset + 2 + index) =
        (Buffer.mk option.value (fun _ => 0)).read index := by
    intro index within
    rw [Nat.add_assoc (optionBase + offset), reads _ within]
    exact Buffer.read_append [option.kind, UInt8.ofNat option.size] option.value (fun _ => 0) index
  have isSize : (Packet.optionLen ⟨front ++ (option.bytes ++ rest), behind⟩ offset).toNat =
      option.size := by
    unfold optionLen
    rw [reads 1 (by unfold PPPOption.size; omega)]
    exact option.toNat_size
  refine ⟨?_, isSize, ?_, ?_, ?_, ?_⟩
  · exact reads 0 option.size_pos
  · unfold optionBytes
    rw [isSize, ← position, ← option.length_bytes]
    exact Buffer.slice_of_cut rfl rfl rfl behind
  · intro long
    unfold optionVal16 PPPOption.value16 Buffer.field16
    unfold PPPOption.size at values
    have first := values 0 (by omega)
    rw [Nat.add_zero] at first
    rw [first, values 1 (by omega)]
  · intro long
    unfold optionVal32 PPPOption.value32 Buffer.field32
    unfold PPPOption.size at values
    have first := values 0 (by omega)
    rw [Nat.add_zero] at first
    rw [first, values 1 (by omega), values 2 (by omega), values 3 (by omega)]
  · simp only [List.length_append, PPPOption.length_bytes, position]
    omega

/-- Every option of a packet lies where the sizes of the earlier ones say. -/
theorem Carries.optionsAt {packet : Packet} {options : List PPPOption}
    (carries : packet.Carries options) :
    List.Forall₂ (OptionAt packet) (optionOffsets options) options := by
  rcases carries.bytes with ⟨header, rest, base, isBytes⟩
  have all : forall (front : Bytes) (start : Nat), front.length = optionBase + start ->
      packet.bytes = front ++ (encodeOptions options ++ rest) ->
        List.Forall₂ (OptionAt packet) (startsOf start (options.map PPPOption.size)) options := by
    clear isBytes carries
    induction options with
    | nil => exact fun _ _ _ _ => .nil
    | cons option later inductionHypothesis =>
        intro front start position isBytes
        have isPacket : packet =
            ⟨front ++ (option.bytes ++ (encodeOptions later ++ rest)), packet.behind⟩ := by
          rw [encodeOptions_cons, List.append_assoc] at isBytes
          rw [← isBytes]
        refine .cons ?_ ?_
        · have located := optionAt_of_split front (encodeOptions later ++ rest) packet.behind option
            position
          rw [← isPacket] at located
          exact located
        · refine inductionHypothesis (front ++ option.bytes) (start + option.size) ?_ ?_
          · rw [List.length_append, option.length_bytes, position, Nat.add_assoc]
          · rw [isPacket]
            simp only [List.append_assoc]
  exact all header 0 base isBytes

/-- The length byte of every option leads to the next one. -/
theorem Carries.lands {packet : Packet} {options : List PPPOption} (carries : packet.Carries options)
    {next : Nat -> Nat}
    (moves : ∀ offset ∈ optionOffsets options,
      next offset = offset + (packet.optionLen offset).toNat) :
    Lands next 0 (options.map PPPOption.size) := by
  have located := carries.optionsAt
  unfold Lands
  rw [List.forall₂_map_right_iff]
  unfold optionOffsets at moves located
  generalize startsOf 0 (options.map PPPOption.size) = offsets at moves located
  clear carries
  induction located with
  | nil => exact .nil
  | cons here _ inductionHypothesis =>
      refine .cons ?_ (inductionHypothesis (fun offset member =>
        moves offset (List.mem_cons_of_mem _ member)))
      rw [moves _ List.mem_cons_self, here.size]

theorem Carries.le_of_mem {packet : Packet} {options : List PPPOption}
    (carries : packet.Carries options) {offset : Nat} (member : offset ∈ optionOffsets options) :
    offset < 65536 := by
  have bound := packet.length.toNat_lt
  have length := carries.length
  have inside := le_of_mem_startsOf member
  rw [← length_encodeOptions, Nat.zero_add] at inside
  omega

/-- A loop that moves by the length byte visits the options of a packet. -/
theorem Carries.visited_eq {packet : Packet} {options : List PPPOption}
    (carries : packet.Carries options) {next : Nat -> Nat}
    (moves : ∀ offset ∈ optionOffsets options,
      next offset = offset + (packet.optionLen offset).toNat) :
    visited next (encodeOptions options).length (encodeOptions options).length 0 =
      some (optionOffsets options) := by
  have walk := @visited_startsOf next 0 (encodeOptions options).length _ (carries.lands moves)
    (List.forall_mem_map.mpr (fun option _ => option.size_pos))
    (by rw [List.length_map]; exact length_le_encodeOptions options)
  rw [Nat.zero_add, ← length_encodeOptions] at walk
  exact walk

/-- An offset at which the walk stops is that of an option. -/
theorem exists_optionAt {packet : Packet} {offsets : List Nat} {options : List PPPOption}
    (located : List.Forall₂ (OptionAt packet) offsets options) {offset : Nat}
    (member : offset ∈ offsets) : ∃ option ∈ options, OptionAt packet offset option := by
  induction located with
  | nil => exact absurd member List.not_mem_nil
  | @cons first option _ later here _ inductionHypothesis =>
      rcases List.mem_cons.mp member with same | beyond
      · exact ⟨option, List.mem_cons_self, same ▸ here⟩
      · rcases inductionHypothesis beyond with ⟨other, isOption, found⟩
        exact ⟨other, List.mem_cons_of_mem option isOption, found⟩

end Packet

/-- A packet with these headers that carries options and nothing else.  Both its
lengths count what follows them. -/
structure Configures (packet : Bytes) (sid proto : UInt16) (code identifier : UInt8)
    (options : List PPPOption) : Prop extends Packet.Marked packet sid proto code identifier where
  carries : forall behind, Packet.Carries ⟨packet, behind⟩ options
  whole : forall behind, (Packet.length ⟨packet, behind⟩).toNat + 8 = packet.length
  pppoeLength : forall behind, ((Buffer.mk packet behind).field16 4).toNat + 6 = packet.length

/-- A packet that is built with its lengths computed from the options. -/
def configurePacket (sid proto : UInt16) (code identifier : UInt8) (options : List PPPOption) :
    Bytes :=
  let length := UInt16.ofNat (sizeofPPPLcp + (encodeOptions options).length)
  pppoeSessionHdr sid (length + 2) proto ++ pppHdr code identifier length ++ encodeOptions options

theorem configures_configurePacket (sid proto : UInt16) (code identifier : UInt8)
    {options : List PPPOption} (fits : (encodeOptions options).length + 6 < 65536) :
    Configures (configurePacket sid proto code identifier options) sid proto code identifier
      options := by
  have isLength : (UInt16.ofNat (sizeofPPPLcp + (encodeOptions options).length)).toNat =
      sizeofPPPLcp + (encodeOptions options).length := by
    rw [UInt16.toNat_ofNat']
    exact Nat.mod_eq_of_lt (by unfold sizeofPPPLcp; omega)
  have total : (configurePacket sid proto code identifier options).length =
      12 + (encodeOptions options).length := by
    simp [configurePacket, pppoeSessionHdr, pppHdr, bytes16]
    omega
  unfold configurePacket at total ⊢
  dsimp only at total ⊢
  generalize UInt16.ofNat (sizeofPPPLcp + (encodeOptions options).length) = length at *
  have isPppoeLength : (length + 2).toNat = sizeofPPPLcp + (encodeOptions options).length + 2 := by
    rw [UInt16.toNat_add, isLength]
    show (sizeofPPPLcp + (encodeOptions options).length + 2) % 65536 = _
    exact Nat.mod_eq_of_lt (by unfold sizeofPPPLcp; omega)
  have field : forall behind, Packet.length ⟨pppoeSessionHdr sid (length + 2) proto ++
      pppHdr code identifier length ++ encodeOptions options, behind⟩ = length :=
    fun _ => be16_bytes16 length
  refine ⟨⟨fun _ => be16_bytes16 sid, fun _ => be16_bytes16 proto, fun _ => rfl, fun _ => rfl⟩,
    fun behind => ⟨?_, ?_⟩, fun behind => ?_, fun behind => ?_⟩
  · rw [field, isLength]
  · refine ⟨pppoeSessionHdr sid (length + 2) proto ++ pppHdr code identifier length, [], rfl, ?_⟩
    rw [List.append_nil]
  · rw [field, isLength, total]
    unfold sizeofPPPLcp
    omega
  · have pppoe : (Buffer.mk (pppoeSessionHdr sid (length + 2) proto ++
        pppHdr code identifier length ++ encodeOptions options) behind).field16 4 = length + 2 :=
      be16_bytes16 (length + 2)
    rw [pppoe, isPppoeLength, total]
    unfold sizeofPPPLcp
    omega

end Pppcpd
