import Pppcpd.Foundation.Bytes
import Mathlib.Algebra.Ring.Nat

namespace Pppcpd
namespace Foundation

/-!
# Binary archives

A codec writes a value and reads it from the front of a byte string.  A value is
lossless when it reads as it was written, whatever follows, and cannot be read
from less than was written for it.  Numbers have a fixed width, and a string is
its length and its bytes, so values that are too large are not lossless.
-/

structure Codec (Value : Type) where
  put : Value -> Bytes
  get : Bytes -> Option (Value × Bytes)

namespace Codec

variable {Value First Second : Type}

structure Lossless (codec : Codec Value) (value : Value) : Prop where
  reads : forall rest, codec.get (codec.put value ++ rest) = some (value, rest)
  whole : forall length, length < (codec.put value).length ->
    codec.get ((codec.put value).take length) = none

/-- A lossless value is read from a beginning of its bytes and others exactly when
all of its bytes are there. -/
theorem Lossless.get_take_iff {codec : Codec Value} {value : Value} (lossless : codec.Lossless value)
    (behind : Bytes) (length : Nat) :
    ((codec.get ((codec.put value ++ behind).take length)).map Prod.fst = some value) ↔
      (codec.put value).length ≤ length := by
  constructor
  · intro read
    by_contra short
    have less := Nat.lt_of_not_le short
    rw [List.take_append_of_le_length (Nat.le_of_lt less), lossless.whole length less] at read
    cases read
  · intro long
    rw [List.take_append, List.take_of_length_le long, lossless.reads]
    rfl

/-! ## Numbers and strings -/

/-- The bytes of a number, the lowest first. -/
def littleEndian : Nat -> Nat -> Bytes
  | 0, _ => []
  | width + 1, value => UInt8.ofNat value :: littleEndian width (value / 256)

def readLittleEndian : Nat -> Bytes -> Option (Nat × Bytes)
  | 0, bytes => some (0, bytes)
  | _ + 1, [] => none
  | width + 1, low :: bytes =>
      (readLittleEndian width bytes).map (fun (high, rest) => (low.toNat + 256 * high, rest))

@[simp] theorem length_littleEndian (width value : Nat) : (littleEndian width value).length = width := by
  induction width generalizing value with
  | zero => rfl
  | succ width inductionHypothesis => simp [littleEndian, inductionHypothesis]

/-- A number of a fixed width. -/
def number (width : Nat) : Codec Nat where
  put := littleEndian width
  get := readLittleEndian width

theorem lossless_number {width value : Nat} (fits : value < 256 ^ width) :
    (number width).Lossless value := by
  unfold number
  induction width generalizing value with
  | zero =>
      have zero : value = 0 := Nat.lt_one_iff.mp fits
      exact ⟨fun rest => by rw [zero]; rfl, fun length less => absurd less (Nat.not_lt_zero length)⟩
  | succ width inductionHypothesis =>
      have high : value / 256 < 256 ^ width := by
        rw [Nat.pow_succ] at fits
        exact Nat.div_lt_of_lt_mul (by rwa [Nat.mul_comm])
      have later := inductionHypothesis high
      refine ⟨fun rest => ?_, fun length less => ?_⟩
      · have read := later.reads rest
        dsimp only at read ⊢
        rw [littleEndian, List.cons_append, readLittleEndian, read, Option.map_some]
        dsimp only
        rw [UInt8.toNat_ofNat', Nat.mod_add_div]
      · dsimp only at less ⊢
        rw [littleEndian] at less ⊢
        cases length with
        | zero => rfl
        | succ length =>
            have read := later.whole length (Nat.lt_of_succ_lt_succ less)
            dsimp only at read
            rw [List.take_succ_cons, readLittleEndian, read]
            rfl

/-- Bytes that are the same for every value, and not looked at. -/
def constant (bytes : Bytes) : Codec Unit where
  put := fun _ => bytes
  get := fun input => if bytes.length ≤ input.length then some ((), input.drop bytes.length) else none

theorem lossless_constant (bytes : Bytes) : (constant bytes).Lossless () := by
  refine ⟨fun rest => ?_, fun length less => ?_⟩
  · dsimp only [constant]
    rw [if_pos (by simp), List.drop_left]
  · dsimp only [constant] at less ⊢
    exact if_neg (by rw [List.length_take]; omega)

/-- The length of a string in eight bytes, and its bytes. -/
def string : Codec Bytes where
  put := fun text => littleEndian 8 text.length ++ text
  get := fun input => (readLittleEndian 8 input).bind (fun (length, rest) =>
    if length ≤ rest.length then some (rest.take length, rest.drop length) else none)

theorem lossless_string {text : Bytes} (fits : text.length < 256 ^ 8) : string.Lossless text := by
  have length := lossless_number fits
  refine ⟨fun rest => ?_, fun shorter less => ?_⟩
  · have read := length.reads (text ++ rest)
    dsimp only [number] at read
    dsimp only [string]
    rw [List.append_assoc, read, Option.bind_some]
    dsimp only
    rw [if_pos (by simp), List.take_left, List.drop_left]
  · dsimp only [string] at less ⊢
    rw [List.length_append, length_littleEndian] at less
    rcases Nat.lt_or_ge shorter 8 with early | late
    · have read := length.whole shorter (by rwa [number, length_littleEndian])
      dsimp only [number] at read
      rw [List.take_append_of_le_length (by rw [length_littleEndian]; omega), read]
      rfl
    · have read := length.reads (text.take (shorter - 8))
      dsimp only [number] at read
      rw [List.take_append, List.take_of_length_le (by rwa [length_littleEndian]),
        length_littleEndian, read, Option.bind_some]
      exact if_neg (by rw [List.length_take]; omega)

/-! ## Composition -/

/-- One value after the other. -/
def pair (first : Codec First) (second : Codec Second) : Codec (First × Second) where
  put := fun value => first.put value.1 ++ second.put value.2
  get := fun input => (first.get input).bind (fun (left, rest) =>
    (second.get rest).map (fun (right, rest) => ((left, right), rest)))

theorem lossless_pair {first : Codec First} {second : Codec Second} {value : First × Second}
    (left : first.Lossless value.1) (right : second.Lossless value.2) :
    (first.pair second).Lossless value := by
  refine ⟨fun rest => ?_, fun length less => ?_⟩
  · dsimp only [pair]
    rw [List.append_assoc, left.reads, Option.bind_some]
    dsimp only
    rw [right.reads, Option.map_some]
  · dsimp only [pair] at less ⊢
    rw [List.length_append] at less
    rcases Nat.lt_or_ge length (first.put value.1).length with early | late
    · rw [List.take_append_of_le_length (Nat.le_of_lt early), left.whole length early]
      rfl
    · rw [List.take_append, List.take_of_length_le late, left.reads, Option.bind_some]
      dsimp only
      rw [right.whole _ (by omega)]
      rfl

/-- A value that is written as another. -/
def image (codec : Codec First) (make : First -> Second) (view : Second -> First) : Codec Second where
  put := fun value => codec.put (view value)
  get := fun input => (codec.get input).map (fun (value, rest) => (make value, rest))

theorem lossless_image {codec : Codec First} {make : First -> Second} {view : Second -> First}
    {value : Second} (lossless : codec.Lossless (view value)) (same : make (view value) = value) :
    (codec.image make view).Lossless value := by
  refine ⟨fun rest => ?_, fun length less => ?_⟩
  · dsimp only [image]
    rw [lossless.reads, Option.map_some]
    dsimp only
    rw [same]
  · dsimp only [image] at less ⊢
    rw [lossless.whole length less]
    rfl

end Codec

end Foundation
end Pppcpd
