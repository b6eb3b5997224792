import Mathlib.Data.List.Basic

namespace Pppcpd
namespace Foundation

/-!
# Byte strings and memory behind a vector

A received packet is a vector of bytes.  A program that follows length fields
found in the packet can read past the vector's end, where it finds whatever
the memory holds.  `Buffer` keeps both: the bytes of the vector and, as a
parameter, the memory behind it.  Every read is then defined, and a theorem
about all buffers covers every content of the memory behind a packet.
-/

abbrev Bytes := List UInt8

/-- Two bytes in network order. -/
def be16 (high low : UInt8) : UInt16 :=
  UInt16.ofNat (high.toNat * 256 + low.toNat)

/-- Four bytes in network order. -/
def be32 (first second third fourth : UInt8) : UInt32 :=
  UInt32.ofNat (((first.toNat * 256 + second.toNat) * 256 + third.toNat) * 256 + fourth.toNat)

/-- The network order bytes of a 16-bit value. -/
def bytes16 (value : UInt16) : Bytes :=
  [UInt8.ofNat (value.toNat / 256), UInt8.ofNat value.toNat]

/-- The network order bytes of a 32-bit value. -/
def bytes32 (value : UInt32) : Bytes :=
  [UInt8.ofNat (value.toNat / 16777216), UInt8.ofNat (value.toNat / 65536),
    UInt8.ofNat (value.toNat / 256), UInt8.ofNat value.toNat]

/-- The two bytes of a value read back as the value. -/
theorem be16_bytes16 (value : UInt16) :
    be16 (UInt8.ofNat (value.toNat / 256)) (UInt8.ofNat value.toNat) = value := by
  have bound := value.toNat_lt
  apply UInt16.toNat_inj.mp
  simp only [be16, UInt16.toNat_ofNat', UInt8.toNat_ofNat']
  omega

theorem toNat_be16 (high low : UInt8) : (be16 high low).toNat = high.toNat * 256 + low.toNat := by
  have highBound := high.toNat_lt
  have lowBound := low.toNat_lt
  rw [be16, UInt16.toNat_ofNat']
  omega

/-- Two bytes are the bytes of the value they stand for. -/
theorem bytes16_be16 (high low : UInt8) : bytes16 (be16 high low) = [high, low] := by
  have highBound := high.toNat_lt
  have lowBound := low.toNat_lt
  have first : UInt8.ofNat ((be16 high low).toNat / 256) = high := by
    apply UInt8.toNat_inj.mp
    rw [toNat_be16, UInt8.toNat_ofNat']
    omega
  have second : UInt8.ofNat (be16 high low).toNat = low := by
    apply UInt8.toNat_inj.mp
    rw [toNat_be16, UInt8.toNat_ofNat']
    omega
  rw [bytes16, first, second]

theorem be32_bytes32 (value : UInt32) :
    be32 (UInt8.ofNat (value.toNat / 16777216)) (UInt8.ofNat (value.toNat / 65536))
      (UInt8.ofNat (value.toNat / 256)) (UInt8.ofNat value.toNat) = value := by
  have bound := value.toNat_lt
  apply UInt32.toNat_inj.mp
  simp only [be32, UInt32.toNat_ofNat', UInt8.toNat_ofNat']
  omega

/-- `UINT32_MAX`, which stands for "none" where an id or an index is expected. -/
def uint32Max : UInt32 := 0xffffffff

/-- The character codes of a text that holds only single-byte characters. -/
def ascii (text : String) : Bytes :=
  text.toList.map (fun letter => UInt8.ofNat letter.toNat)

theorem ascii_append (first second : String) :
    ascii (first ++ second) = ascii first ++ ascii second := by
  unfold ascii
  rw [String.toList_append, List.map_append]

/-- Letters of a single byte are read back from their codes. -/
theorem ascii_read {text : String} (small : ∀ letter ∈ text.toList, letter.toNat < 256) :
    (ascii text).map (fun byte => Char.ofNat byte.toNat) = text.toList := by
  unfold ascii
  rw [List.map_map]
  conv_rhs => rw [← List.map_id text.toList]
  apply List.map_congr_left
  intro letter member
  have bound := small letter member
  show Char.ofNat (UInt8.ofNat letter.toNat).toNat = letter
  rw [UInt8.toNat_ofNat', Nat.mod_eq_of_lt bound, Char.ofNat_toNat]

theorem small_digits (number : Nat) : ∀ letter ∈ (toString number).toList, letter.toNat < 256 := by
  intro letter member
  rw [Nat.toString_eq_ofList_toDigits, String.toList_ofList] at member
  have digit := Char.isDigit_iff_toNat.mp (Nat.isDigit_of_mem_toDigits (by decide) (by decide) member)
  exact Nat.lt_of_le_of_lt digit.2 (by decide)

/-- Numbers with the same digits are equal. -/
theorem ascii_toString_inj {first second : Nat}
    (same : ascii (toString first) = ascii (toString second)) : first = second := by
  have read := congrArg (List.map (fun byte => Char.ofNat byte.toNat)) same
  rw [ascii_read (small_digits first), ascii_read (small_digits second),
    Nat.toString_eq_ofList_toDigits, Nat.toString_eq_ofList_toDigits, String.toList_ofList,
    String.toList_ofList] at read
  rw [← @Nat.ofDigitChars_ten_toDigits first, read, Nat.ofDigitChars_ten_toDigits]

/-- A vector of bytes together with the memory behind its last byte. -/
structure Buffer where
  bytes : Bytes
  behind : Nat -> UInt8

namespace Buffer

/-- The byte at an index counted from the start of the vector. -/
def read (buffer : Buffer) (index : Nat) : UInt8 :=
  buffer.bytes.getD index (buffer.behind (index - buffer.bytes.length))

/-- The 16-bit field at an index, in network order. -/
def field16 (buffer : Buffer) (index : Nat) : UInt16 :=
  be16 (buffer.read index) (buffer.read (index + 1))

/-- The 32-bit field at an index, in network order. -/
def field32 (buffer : Buffer) (index : Nat) : UInt32 :=
  be32 (buffer.read index) (buffer.read (index + 1)) (buffer.read (index + 2)) (buffer.read (index + 3))

/-- A copy of `count` bytes from an index on. -/
def slice (buffer : Buffer) (index count : Nat) : Bytes :=
  (List.range count).map (fun i => buffer.read (index + i))

/-- Store a byte, inside the vector or in the memory behind it. -/
def set (buffer : Buffer) (index : Nat) (value : UInt8) : Buffer :=
  if index < buffer.bytes.length then { buffer with bytes := buffer.bytes.set index value }
  else
    { buffer with
      behind := fun i => if i = index - buffer.bytes.length then value else buffer.behind i }

/-- Store a byte string from an index on. -/
def setBytes (buffer : Buffer) (index : Nat) : Bytes -> Buffer
  | [] => buffer
  | value :: rest => (buffer.set index value).setBytes (index + 1) rest

/-- Drop bytes from the front of the vector. -/
def drop (buffer : Buffer) (count : Nat) : Buffer :=
  { buffer with bytes := buffer.bytes.drop count }

@[simp] theorem length_slice (buffer : Buffer) (index count : Nat) :
    (buffer.slice index count).length = count := by
  simp [slice]

@[simp] theorem length_set (buffer : Buffer) (index : Nat) (value : UInt8) :
    (buffer.set index value).bytes.length = buffer.bytes.length := by
  unfold set
  split
  · exact List.length_set
  · rfl

/-! ## Reading behind a known front -/

/-- What is read behind the front is read in the rest. -/
theorem read_append (front rest : Bytes) (behind : Nat -> UInt8) (index : Nat) :
    (Buffer.mk (front ++ rest) behind).read (front.length + index) =
      (Buffer.mk rest behind).read index := by
  have beyond : front.length + index - (front ++ rest).length = index - rest.length := by
    rw [List.length_append]
    omega
  simp only [read, beyond, List.getD_eq_getElem?_getD]
  rw [List.getElem?_append_right (Nat.le_add_right _ _), Nat.add_sub_cancel_left]

theorem field16_append (front rest : Bytes) (behind : Nat -> UInt8) (index : Nat) :
    (Buffer.mk (front ++ rest) behind).field16 (front.length + index) =
      (Buffer.mk rest behind).field16 index := by
  rw [field16, Nat.add_assoc, read_append, read_append]
  rfl

theorem slice_append (front rest : Bytes) (behind : Nat -> UInt8) (index count : Nat) :
    (Buffer.mk (front ++ rest) behind).slice (front.length + index) count =
      (Buffer.mk rest behind).slice index count := by
  simp only [slice, Nat.add_assoc, read_append]

/-- A 16-bit field at the start. -/
theorem field16_bytes16 (value : UInt16) (rest : Bytes) (behind : Nat -> UInt8) :
    (Buffer.mk (bytes16 value ++ rest) behind).field16 0 = value :=
  be16_bytes16 value

/-- A byte string at the start. -/
theorem slice_self (value rest : Bytes) (behind : Nat -> UInt8) :
    (Buffer.mk (value ++ rest) behind).slice 0 value.length = value := by
  refine List.ext_getElem (by simp) (fun index _ within => ?_)
  simp [slice, read, List.getD, List.getElem?_append_left within, List.getElem?_eq_getElem within]

/-- A byte of a vector that is cut in front of it. -/
theorem read_of_cut {bytes front rest : Bytes} {byte : UInt8} {index : Nat}
    (cut : bytes = front ++ byte :: rest) (size : front.length = index) (behind : Nat -> UInt8) :
    (Buffer.mk bytes behind).read index = byte := by
  rw [cut, ← size]
  exact read_append front (byte :: rest) behind 0

/-- A byte string of a vector that is cut in front of it and behind it. -/
theorem slice_of_cut {bytes front part rest : Bytes} {start count : Nat}
    (cut : bytes = front ++ (part ++ rest)) (size : front.length = start)
    (whole : part.length = count) (behind : Nat -> UInt8) :
    (Buffer.mk bytes behind).slice start count = part := by
  rw [cut, ← size, ← whole]
  exact (slice_append front (part ++ rest) behind 0 part.length).trans (slice_self part rest behind)

/-- What is read behind the vector. -/
theorem read_behind (bytes : Bytes) (behind : Nat -> UInt8) {index : Nat}
    (beyond : bytes.length ≤ index) :
    (Buffer.mk bytes behind).read index = behind (index - bytes.length) := by
  simp [read, List.getD, List.getElem?_eq_none beyond]

/-- What is read in the vector does not depend on what follows it. -/
theorem read_inside (bytes rest : Bytes) (behind other : Nat -> UInt8) {index : Nat}
    (inside : index < bytes.length) :
    (Buffer.mk (bytes ++ rest) other).read index = (Buffer.mk bytes behind).read index := by
  simp [read, List.getD, List.getElem?_append_left inside, List.getElem?_eq_getElem inside]

/-- A copy from inside the vector. -/
theorem slice_inside (bytes rest : Bytes) (behind : Nat -> UInt8) {index count : Nat}
    (fits : index + count ≤ bytes.length) :
    (Buffer.mk (bytes ++ rest) behind).slice index count = (bytes.drop index).take count := by
  have size : ((bytes.drop index).take count).length = count := by
    rw [List.length_take, List.length_drop]
    omega
  refine List.ext_getElem (by rw [length_slice, size]) (fun position within _ => ?_)
  have below : position < count := by
    rw [length_slice] at within
    exact within
  have inside : index + position < bytes.length := by omega
  simp [slice, read, List.getD, List.getElem?_append_left inside, List.getElem?_eq_getElem inside]

theorem getElem?_slice (buffer : Buffer) (index : Nat) {count position : Nat}
    (within : position < count) :
    (buffer.slice index count)[position]? = some (buffer.read (index + position)) := by
  simp [slice, within]

/-- A store changes no other byte. -/
theorem read_set_of_ne (buffer : Buffer) {index other : Nat} (value : UInt8)
    (different : other ≠ index) : (buffer.set index value).read other = buffer.read other := by
  by_cases inside : index < buffer.bytes.length
  · simp [set, Buffer.read, inside, List.getD, List.getElem?_set_ne (Ne.symm different)]
  · rcases Nat.lt_or_ge other buffer.bytes.length with within | beyond
    · simp [set, Buffer.read, inside, List.getD, within]
    · have apart : other - buffer.bytes.length ≠ index - buffer.bytes.length := by omega
      simp [set, Buffer.read, inside, List.getD, apart]

@[simp] theorem length_setBytes (buffer : Buffer) (index : Nat) (values : Bytes) :
    (buffer.setBytes index values).bytes.length = buffer.bytes.length := by
  induction values generalizing buffer index with
  | nil => rfl
  | cons value rest inductionHypothesis => exact (inductionHypothesis _ _).trans (length_set _ _ _)

/-- Stores change no byte behind the last of them. -/
theorem read_setBytes_of_le (buffer : Buffer) {index other : Nat} (values : Bytes)
    (later : index + values.length ≤ other) :
    (buffer.setBytes index values).read other = buffer.read other := by
  induction values generalizing buffer index with
  | nil => rfl
  | cons value rest inductionHypothesis =>
      rw [List.length_cons] at later
      unfold setBytes
      rw [inductionHypothesis _ (by omega), read_set_of_ne _ _ (by omega)]

/-- Stores change no byte in front of the first of them. -/
theorem read_setBytes_of_lt (buffer : Buffer) {index other : Nat} (values : Bytes)
    (earlier : other < index) :
    (buffer.setBytes index values).read other = buffer.read other := by
  induction values generalizing buffer index with
  | nil => rfl
  | cons value rest inductionHypothesis =>
      unfold setBytes
      rw [inductionHypothesis _ (Nat.lt_succ_of_lt earlier),
        read_set_of_ne _ _ (Nat.ne_of_lt earlier)]

/-- A stored byte is read back. -/
theorem read_set_self (buffer : Buffer) (index : Nat) (value : UInt8) :
    (buffer.set index value).read index = value := by
  by_cases inside : index < buffer.bytes.length
  · simp [set, Buffer.read, inside, List.getD]
  · simp [set, Buffer.read, inside, List.getD]

/-- Four stored bytes are read back. -/
theorem field32_setBytes_four (buffer : Buffer) (index : Nat) (first second third fourth : UInt8) :
    (buffer.setBytes index [first, second, third, fourth]).field32 index =
      be32 first second third fourth := by
  have isSet : buffer.setBytes index [first, second, third, fourth] =
      (((buffer.set index first).set (index + 1) second).set (index + 2) third).set (index + 3) fourth :=
    rfl
  have isFourth := read_set_self (((buffer.set index first).set (index + 1) second).set
    (index + 2) third) (index + 3) fourth
  have isThird := read_set_self ((buffer.set index first).set (index + 1) second) (index + 2) third
  have isSecond := read_set_self (buffer.set index first) (index + 1) second
  have isFirst := read_set_self buffer index first
  rw [isSet, field32, isFourth, read_set_of_ne _ fourth (by omega), read_set_of_ne _ third (by omega),
    read_set_of_ne _ second (by omega), isFirst, read_set_of_ne _ fourth (by omega),
    read_set_of_ne _ third (by omega), isSecond, read_set_of_ne _ fourth (by omega), isThird]

/-- A stored 32-bit value is read back. -/
theorem field32_setBytes (buffer : Buffer) (index : Nat) (value : UInt32) :
    (buffer.setBytes index (bytes32 value)).field32 index = value :=
  (field32_setBytes_four buffer index _ _ _ _).trans (be32_bytes32 value)

/-- A 32-bit field with a byte that is not zero is not zero. -/
theorem field32_ne_zero {buffer : Buffer} {index position : Nat} (within : position < 4)
    (nonzero : buffer.read (index + position) ≠ 0) : buffer.field32 index ≠ 0 := by
  intro zero
  have sum := congrArg UInt32.toNat zero
  have first := (buffer.read index).toNat_lt
  have second := (buffer.read (index + 1)).toNat_lt
  have third := (buffer.read (index + 2)).toNat_lt
  have fourth := (buffer.read (index + 3)).toNat_lt
  simp only [field32, be32, UInt32.toNat_ofNat', UInt32.toNat_zero] at sum
  apply nonzero
  apply UInt8.toNat_inj.mp
  rw [UInt8.toNat_zero]
  have place : position = 0 ∨ position = 1 ∨ position = 2 ∨ position = 3 := by omega
  rcases place with rfl | rfl | rfl | rfl
  · rw [Nat.add_zero]
    omega
  · omega
  · omega
  · omega

/-! ## What happens inside the vector -/

section

variable (bytes : Bytes) (behind other : Nat -> UInt8)

/-- A read inside the vector does not depend on the memory behind it. -/
theorem read_eq {index : Nat} (inside : index < bytes.length) :
    (Buffer.mk bytes behind).read index = (Buffer.mk bytes other).read index := by
  simp [read, List.getD, inside]

theorem field16_eq {index : Nat} (inside : index + 1 < bytes.length) :
    (Buffer.mk bytes behind).field16 index = (Buffer.mk bytes other).field16 index := by
  rw [field16, read_eq bytes behind other (Nat.lt_of_succ_lt inside), read_eq bytes behind other inside]
  rfl

theorem field32_eq {index : Nat} (inside : index + 3 < bytes.length) :
    (Buffer.mk bytes behind).field32 index = (Buffer.mk bytes other).field32 index := by
  rw [field32, read_eq bytes behind other (Nat.lt_of_le_of_lt (Nat.le_add_right _ 3) inside),
    read_eq bytes behind other (Nat.lt_of_le_of_lt (Nat.add_le_add_left (by decide) _) inside),
    read_eq bytes behind other (Nat.lt_of_le_of_lt (Nat.add_le_add_left (by decide) _) inside),
    read_eq bytes behind other inside]
  rfl

theorem slice_eq {index count : Nat}
    (inside : ∀ position ∈ List.range' index count, position < bytes.length) :
    (Buffer.mk bytes behind).slice index count = (Buffer.mk bytes other).slice index count := by
  refine List.map_congr_left (fun position member => ?_)
  refine read_eq bytes behind other (inside _ (List.mem_range'_1.mpr ?_))
  exact ⟨Nat.le_add_right _ _, Nat.add_lt_add_left (List.mem_range.mp member) _⟩

/-- A store inside the vector leaves the memory behind it alone. -/
theorem set_eq {index : Nat} (value : UInt8) (inside : index < bytes.length) :
    (Buffer.mk bytes behind).set index value = ⟨bytes.set index value, behind⟩ := by
  rw [set, if_pos inside]

end

/-- Stores inside the vector do the same to it whatever lies behind it. -/
theorem exists_setBytes_eq {bytes : Bytes} {index : Nat} {values : Bytes}
    (inside : index + values.length ≤ bytes.length) :
    ∃ stored, stored.length = bytes.length ∧
      forall behind, (Buffer.mk bytes behind).setBytes index values = ⟨stored, behind⟩ := by
  induction values generalizing bytes index with
  | nil => exact ⟨bytes, rfl, fun _ => rfl⟩
  | cons value rest inductionHypothesis =>
      rw [List.length_cons] at inside
      rcases @inductionHypothesis (bytes.set index value) (index + 1)
        (by rw [List.length_set]; omega) with ⟨stored, sameLength, isStored⟩
      refine ⟨stored, sameLength.trans List.length_set, fun behind => ?_⟩
      unfold setBytes
      rw [set_eq bytes behind value (by omega), isStored]

/-- A store behind a known front writes over what stands there. -/
theorem set_append (front rest : Bytes) (old value : UInt8) (behind : Nat -> UInt8) :
    (Buffer.mk (front ++ old :: rest) behind).set front.length value =
      ⟨front ++ value :: rest, behind⟩ := by
  simp [set, List.set_append_right]

theorem setBytes_append (front rest : Bytes) {old value : Bytes} (behind : Nat -> UInt8)
    (same : old.length = value.length) :
    (Buffer.mk (front ++ (old ++ rest)) behind).setBytes front.length value =
      ⟨front ++ (value ++ rest), behind⟩ := by
  induction value generalizing front old with
  | nil => simp [List.length_eq_zero_iff.mp same, setBytes]
  | cons byte value inductionHypothesis =>
      cases old with
      | nil => cases same
      | cons first old =>
          have rest_same := inductionHypothesis (front ++ [byte]) (Nat.succ.inj same)
          rw [List.length_append] at rest_same
          unfold setBytes
          rw [List.cons_append, set_append]
          simpa using rest_same

end Buffer

end Foundation
end Pppcpd
