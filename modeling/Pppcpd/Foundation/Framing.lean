import Mathlib.Algebra.Ring.Nat
import Mathlib.Data.List.Infix

namespace Pppcpd
namespace Foundation

/-!
# Messages that end with a delimiter

A reader takes bytes from a stream, in pieces of any size, until it has seen the
delimiter.  What it takes ends where a piece ends, which may lie behind the
delimiter.  So a message arrives alone, however the stream is cut, exactly when
the first delimiter ends where the stream does.
-/

variable {Symbol : Type*} [DecidableEq Symbol] {delimiter : List Symbol}

/-- The number of symbols up to the end of the first delimiter. -/
def frameEnd (delimiter stream : List Symbol) : Option Nat :=
  (List.range (stream.length + 1)).find? (fun length => decide (delimiter <:+ stream.take length))

theorem frameEnd_eq_some_iff {stream : List Symbol} {length : Nat} :
    frameEnd delimiter stream = some length ↔ length ≤ stream.length ∧
      delimiter <:+ stream.take length ∧
      forall shorter, shorter < length -> ¬ delimiter <:+ stream.take shorter := by
  unfold frameEnd
  rw [List.find?_range_eq_some]
  simp only [decide_eq_true_eq, List.mem_range, Bool.not_eq_true', decide_eq_false_iff_not]
  constructor
  · rintro ⟨ends, inside, first⟩
    exact ⟨Nat.le_of_lt_succ inside, ends, first⟩
  · rintro ⟨inside, ends, first⟩
    exact ⟨ends, Nat.lt_succ_of_le inside, first⟩

/-- A delimiter that was seen stays the first. -/
theorem frameEnd_append {stream : List Symbol} {length : Nat} (later : List Symbol)
    (found : frameEnd delimiter stream = some length) :
    frameEnd delimiter (stream ++ later) = some length := by
  rcases frameEnd_eq_some_iff.mp found with ⟨inside, ends, first⟩
  have same : forall shorter, shorter ≤ length ->
      (stream ++ later).take shorter = stream.take shorter := fun shorter within =>
    List.take_append_of_le_length (Nat.le_trans within inside)
  refine frameEnd_eq_some_iff.mpr ⟨?_, ?_, fun shorter before => ?_⟩
  · rw [List.length_append]
    exact Nat.le_add_right_of_le inside
  · rw [same length (Nat.le_refl _)]
    exact ends
  · rw [same shorter (Nat.le_of_lt before)]
    exact first shorter before

/-- The first delimiter is seen in every part that reaches to its end. -/
theorem frameEnd_take {stream : List Symbol} {length : Nat}
    (found : frameEnd delimiter stream = some length) :
    frameEnd delimiter (stream.take length) = some length := by
  rcases frameEnd_eq_some_iff.mp found with ⟨inside, ends, first⟩
  refine frameEnd_eq_some_iff.mpr ⟨?_, ?_, fun shorter before => ?_⟩
  · rw [List.length_take, Nat.min_eq_left inside]
  · rw [List.take_take, Nat.min_self]
    exact ends
  · rw [List.take_take, Nat.min_eq_left (Nat.le_of_lt before)]
    exact first shorter before

/-- A stream with a delimiter at its end has a first one. -/
theorem frameEnd_append_delimiter (message : List Symbol) :
    ∃ length, frameEnd delimiter (message ++ delimiter) = some length ∧
      length ≤ message.length + delimiter.length := by
  cases found : frameEnd delimiter (message ++ delimiter) with
  | none =>
      have none := List.find?_eq_none.mp found (message ++ delimiter).length
        (List.mem_range.mpr (Nat.lt_succ_self _))
      rw [List.take_length] at none
      exact absurd (decide_eq_true (List.suffix_append message delimiter)) none
  | some length =>
      have inside := (frameEnd_eq_some_iff.mp found).1
      rw [List.length_append] at inside
      exact ⟨length, rfl, inside⟩

/-! ## Reading -/

/-- Read pieces until the buffer has a delimiter.  A piece has at least one symbol.
`none` means that the reader still waits. -/
def readUntil (delimiter : List Symbol) :
    List Nat -> List Symbol -> List Symbol -> Option (List Symbol × List Symbol)
  | [], buffer, stream => if (frameEnd delimiter buffer).isSome then some (buffer, stream) else none
  | size :: sizes, buffer, stream =>
      if (frameEnd delimiter buffer).isSome then some (buffer, stream)
      else readUntil delimiter sizes (buffer ++ stream.take (size + 1)) (stream.drop (size + 1))

/-- The pieces are enough for the whole stream. -/
def Enough (sizes : List Nat) (length : Nat) : Prop := length ≤ (sizes.map Nat.succ).sum

instance (sizes : List Nat) (length : Nat) : Decidable (Enough sizes length) :=
  inferInstanceAs (Decidable (_ ≤ _))

/-- A reader neither invents nor loses symbols. -/
theorem readUntil_parts {sizes : List Nat} {buffer stream taken rest : List Symbol}
    (read : readUntil delimiter sizes buffer stream = some (taken, rest)) :
    taken ++ rest = buffer ++ stream ∧ (frameEnd delimiter taken).isSome := by
  induction sizes generalizing buffer stream with
  | nil =>
      rw [readUntil] at read
      split at read
      · rename_i seen
        have parts := Prod.mk.inj (Option.some.inj read)
        rw [← parts.1, ← parts.2]
        exact ⟨rfl, seen⟩
      · cases read
  | cons size sizes inductionHypothesis =>
      rw [readUntil] at read
      split at read
      · rename_i seen
        have parts := Prod.mk.inj (Option.some.inj read)
        rw [← parts.1, ← parts.2]
        exact ⟨rfl, seen⟩
      · have later := inductionHypothesis read
        rw [List.append_assoc, List.take_append_drop] at later
        exact later

/-- Where the first delimiter ends with the stream, a buffer with a delimiter is the
whole stream. -/
theorem eq_whole_of_seen {whole buffer stream : List Symbol}
    (last : frameEnd delimiter whole = some whole.length) (parts : buffer ++ stream = whole)
    (seen : (frameEnd delimiter buffer).isSome) : buffer = whole ∧ stream = [] := by
  rcases Option.isSome_iff_exists.mp seen with ⟨length, found⟩
  have same := frameEnd_append stream found
  rw [parts, last] at same
  have inside := (frameEnd_eq_some_iff.mp found).1
  rw [← Option.some.inj same, ← parts, List.length_append] at inside
  have nothing : stream = [] := List.eq_nil_of_length_eq_zero (by omega)
  rw [nothing, List.append_nil] at parts
  exact ⟨parts, nothing⟩

/-- Then the reader takes all. -/
theorem readUntil_whole {whole buffer stream : List Symbol} {sizes : List Nat}
    (last : frameEnd delimiter whole = some whole.length) (parts : buffer ++ stream = whole)
    (enough : Enough sizes stream.length) :
    readUntil delimiter sizes buffer stream = some (whole, []) := by
  induction sizes generalizing buffer stream with
  | nil =>
      have nothing : stream = [] := List.eq_nil_of_length_eq_zero (Nat.le_zero.mp enough)
      rw [nothing, List.append_nil] at parts
      rw [readUntil, parts, last, nothing]
      rfl
  | cons size sizes inductionHypothesis =>
      rw [readUntil]
      split
      · rename_i seen
        have complete := eq_whole_of_seen last parts seen
        rw [complete.1, complete.2]
      · refine inductionHypothesis ?_ ?_
        · rw [List.append_assoc, List.take_append_drop, parts]
        · unfold Enough at enough ⊢
          rw [List.map_cons, List.sum_cons] at enough
          rw [List.length_drop]
          omega

/-- A piece may end where the first delimiter does. -/
theorem readUntil_first {stream : List Symbol} {length : Nat} (sizes : List Nat)
    (found : frameEnd delimiter stream = some (length + 1)) :
    readUntil delimiter (length :: sizes) [] stream =
      some (stream.take (length + 1), stream.drop (length + 1)) := by
  have early : ¬ (frameEnd delimiter []).isSome := by
    intro seen
    rcases Option.isSome_iff_exists.mp seen with ⟨other, empty⟩
    have same := frameEnd_append stream empty
    rw [List.nil_append, found] at same
    have inside := (frameEnd_eq_some_iff.mp empty).1
    rw [← Option.some.inj same] at inside
    exact absurd inside (Nat.not_succ_le_zero length)
  have seen : (frameEnd delimiter (stream.take (length + 1))).isSome := by
    rw [frameEnd_take found]
    rfl
  rw [readUntil, if_neg early, List.nil_append]
  cases sizes with
  | nil => rw [readUntil, if_pos seen]
  | cons size sizes => rw [readUntil, if_pos seen]

/-- However the stream is cut, the reader takes all of it and something holds of
what it took, exactly when the first delimiter is at the end. -/
theorem readUntil_whole_iff {stream : List Symbol} (delimited : delimiter ≠ []) {good : List Symbol -> Prop} :
    (forall sizes, Enough sizes stream.length ->
      ∃ taken, readUntil delimiter sizes [] stream = some (taken, []) ∧ good taken) ↔
      frameEnd delimiter stream = some stream.length ∧ good stream := by
  constructor
  · intro reads
    rcases reads [stream.length] (by simp [Enough]) with ⟨taken, read, isGood⟩
    rcases readUntil_parts read with ⟨parts, seen⟩
    rw [List.append_nil, List.nil_append] at parts
    rw [parts] at seen isGood
    refine ⟨?_, isGood⟩
    rcases Option.isSome_iff_exists.mp seen with ⟨last, found⟩
    rcases frameEnd_eq_some_iff.mp found with ⟨inside, ends, _⟩
    cases last with
    | zero => exact absurd (List.suffix_nil.mp ends) delimited
    | succ length =>
        rcases reads [length, stream.length] (by simp [Enough]; omega) with ⟨_, cut, _⟩
        rw [readUntil_first _ found] at cut
        have nothing := congrArg List.length (Prod.mk.inj (Option.some.inj cut)).2
        rw [List.length_drop, List.length_nil] at nothing
        have same : length + 1 = stream.length := by omega
        rw [found, same]
  · rintro ⟨last, isGood⟩ sizes enough
    exact ⟨stream, readUntil_whole last (List.nil_append _) enough, isGood⟩

end Foundation
end Pppcpd
