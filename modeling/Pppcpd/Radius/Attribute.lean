import Pppcpd.Foundation.Bytes
import Mathlib.Data.List.Forall2

namespace Pppcpd

open Foundation

/-!
# Attributes as RADIUS defines them

An attribute is a type, a length that counts the whole of it, and a value.  The
type 26 is set aside for vendors: its value is the id of the vendor in network order
and one attribute of that vendor.  Bytes are decoded here by this definition and not
by the program.
-/

structure Attribute where
  type : UInt8
  vendor : Option UInt32
  value : Bytes
  deriving DecidableEq, Repr

namespace Attribute

def vendorSpecific : UInt8 := 26

/-- The attribute of a vendor that a value of type 26 stands for. -/
def ofVendorValue : Bytes -> Option Attribute
  | v0 :: v1 :: v2 :: v3 :: type :: length :: value =>
      if length.toNat = 2 + value.length then some ⟨type, some (be32 v0 v1 v2 v3), value⟩ else none
  | _ => none

/-- The attribute with a type and a value. -/
def ofParts (type : UInt8) (value : Bytes) : Option Attribute :=
  if type = vendorSpecific then ofVendorValue value else some ⟨type, none, value⟩

/-- The attributes that bytes are a sequence of. -/
def decodeFrom : Nat -> Bytes -> Option (List Attribute)
  | _, [] => some []
  | 0, _ :: _ => none
  | _ + 1, [_] => none
  | rounds + 1, type :: length :: rest =>
      let size := length.toNat - 2
      if length.toNat < 2 ∨ rest.length < size then none
      else (ofParts type (rest.take size)).bind (fun found =>
        (decodeFrom rounds (rest.drop size)).map (found :: ·))

/-- Every attribute takes a byte at least. -/
def decode (bytes : Bytes) : Option (List Attribute) := decodeFrom bytes.length bytes

/-- The second byte counts them all. -/
def LengthCounts (piece : Bytes) : Prop :=
  ∃ type length value, piece = type :: length :: value ∧ length.toNat = piece.length

/-- The attribute that bytes are, when the length counts them. -/
def decodeOne : Bytes -> Option Attribute
  | type :: _ :: value => ofParts type value
  | _ => none

theorem decodeFrom_piece {piece : Bytes} (counts : LengthCounts piece) (rest : Bytes) (rounds : Nat) :
    decodeFrom (rounds + 1) (piece ++ rest) =
      (decodeOne piece).bind (fun found => (decodeFrom rounds rest).map (found :: ·)) := by
  rcases counts with ⟨type, length, value, isPiece, count⟩
  have size : length.toNat - 2 = value.length := by
    rw [count, isPiece]
    rfl
  have long : ¬ (length.toNat < 2 ∨ (value ++ rest).length < length.toNat - 2) := by
    rw [size, count, isPiece, List.length_append]
    simp only [List.length_cons]
    omega
  rw [isPiece]
  show decodeFrom (rounds + 1) (type :: length :: (value ++ rest)) = _
  rw [decodeFrom, if_neg long, size, List.take_left, List.drop_left]
  rfl

theorem two_le_of_lengthCounts {piece : Bytes} (counts : LengthCounts piece) : 2 ≤ piece.length := by
  rcases counts with ⟨type, length, value, isPiece, _⟩
  rw [isPiece]
  exact Nat.le_add_left 2 _

theorem LengthCounts.length_le {piece : Bytes} (counts : LengthCounts piece) : piece.length ≤ 255 := by
  rcases counts with ⟨_, length, _, _, count⟩
  have byte := length.toNat_lt
  omega

/-- Pieces whose lengths count them are decoded one by one. -/
theorem decodeFrom_flatten {pieces : List Bytes} (counts : ∀ piece ∈ pieces, LengthCounts piece)
    {rounds : Nat} (enough : pieces.flatten.length ≤ rounds) (attributes : List Attribute) :
    decodeFrom rounds pieces.flatten = some attributes ↔
      List.Forall₂ (fun piece found => decodeOne piece = some found) pieces attributes := by
  induction pieces generalizing rounds attributes with
  | nil =>
      have ended : decodeFrom rounds ([] : List Bytes).flatten = some [] := by
        cases rounds <;> rfl
      rw [ended, List.forall₂_nil_left_iff, Option.some_inj]
      exact eq_comm
  | cons piece pieces inductionHypothesis =>
      have first := counts piece List.mem_cons_self
      have two := two_le_of_lengthCounts first
      rw [List.flatten_cons, List.length_append] at enough
      rcases Nat.exists_eq_succ_of_ne_zero (by omega : rounds ≠ 0) with ⟨fewer, isRounds⟩
      have later := fun attributes => inductionHypothesis
        (fun other member => counts other (List.mem_cons_of_mem piece member))
        (by omega : pieces.flatten.length ≤ fewer) attributes
      rw [isRounds, List.flatten_cons, decodeFrom_piece first, List.forall₂_cons_left_iff,
        Option.bind_eq_some_iff]
      constructor
      · rintro ⟨found, isFirst, mapped⟩
        rcases Option.map_eq_some_iff.mp mapped with ⟨others, areOthers, same⟩
        exact ⟨found, others, isFirst, (later others).mp areOthers, same.symm⟩
      · rintro ⟨found, others, isFirst, areOthers, same⟩
        exact ⟨found, isFirst, Option.map_eq_some_iff.mpr ⟨others, (later others).mpr areOthers,
          same.symm⟩⟩

theorem decode_flatten {pieces : List Bytes} (counts : ∀ piece ∈ pieces, LengthCounts piece)
    (attributes : List Attribute) :
    decode pieces.flatten = some attributes ↔
      List.Forall₂ (fun piece found => decodeOne piece = some found) pieces attributes :=
  decodeFrom_flatten counts (Nat.le_refl _) attributes

/-- A decoded attribute comes from one of the pieces. -/
theorem exists_piece {Piece : Type} {decodes : Piece -> Attribute -> Prop} {pieces : List Piece}
    {attributes : List Attribute} (all : List.Forall₂ decodes pieces attributes) {found : Attribute}
    (member : found ∈ attributes) : ∃ piece ∈ pieces, decodes piece found := by
  induction all with
  | nil => exact absurd member List.not_mem_nil
  | @cons piece first pieces rest decoded _ inductionHypothesis =>
      rcases List.mem_cons.mp member with here | later
      · exact ⟨piece, List.mem_cons_self, here ▸ decoded⟩
      · rcases inductionHypothesis later with ⟨other, inside, holds⟩
        exact ⟨other, List.mem_cons_of_mem piece inside, holds⟩

/-- What is decoded is never of the type that is set aside, but for a vendor. -/
theorem vendorSpecific_of_decodeOne {piece : Bytes} {found : Attribute}
    (decoded : decodeOne piece = some found) :
    found.vendor = none ∧ found.type ≠ vendorSpecific ∨
      ∃ vendor, found.vendor = some vendor ∧ piece.head? = some vendorSpecific ∧
        piece.length = 8 + found.value.length := by
  unfold decodeOne at decoded
  split at decoded
  · rename_i type length value
    unfold ofParts at decoded
    split at decoded
    · rename_i isVendor
      unfold ofVendorValue at decoded
      split at decoded
      · split at decoded
        · rw [← Option.some.inj decoded]
          refine .inr ⟨_, rfl, congrArg some isVendor, ?_⟩
          simp only [List.length_cons]
          omega
        · cases decoded
      · cases decoded
    · rename_i standard
      rw [← Option.some.inj decoded]
      exact .inl ⟨rfl, standard⟩
  · cases decoded

end Attribute

end Pppcpd
