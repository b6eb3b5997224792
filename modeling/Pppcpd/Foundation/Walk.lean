import Mathlib.Data.Fintype.Pigeonhole
import Mathlib.Logic.Function.Iterate
import Mathlib.Data.Fintype.Card
import Mathlib.Algebra.Ring.Nat

namespace Pppcpd
namespace Foundation

/-!
# Loops that walk an area by offsets read from the area

A loop starts at offset zero, runs while its offset is below a limit, and
moves to `next offset`, where the step is usually a length byte found in the
data.  Whoever writes the data therefore decides whether the loop advances.

`visited` runs such a loop and lists the offsets of its rounds.  As many rounds
as the limit are enough fuel: a loop that is still running then has come back
to an offset it had before, so it never ends.  `EndsWithProgress` is the law a
terminating walk should obey, and `endsWithProgress_iff` reduces it to a
property of the boundaries the data describes.
-/

/-- The offsets at which the rounds of the loop start, or `none` when the loop
still runs after the given number of rounds. -/
def visited (next : Nat -> Nat) (limit : Nat) : Nat -> Nat -> Option (List Nat)
  | 0, offset => if offset < limit then none else some []
  | rounds + 1, offset =>
      if offset < limit then (visited next limit rounds (next offset)).map (offset :: ·)
      else some []

/-- The loop ends after at most `limit` rounds, and each of them moves the
offset forward. -/
def EndsWithProgress (next : Nat -> Nat) (limit : Nat) : Prop :=
  ∃ rounds, rounds ≤ limit ∧ limit ≤ next^[rounds] 0 ∧
    forall i, i < rounds -> next^[i] 0 < limit ∧ next^[i] 0 < next^[i + 1] 0

/-- The offsets that the data describes as boundaries, from zero on. -/
inductive Boundary (next : Nat -> Nat) (limit : Nat) : Nat -> Prop
  | start : Boundary next limit 0
  | step {offset : Nat} : Boundary next limit offset -> offset < limit ->
      Boundary next limit (next offset)

variable {next : Nat -> Nat} {limit : Nat}

/-- While every earlier offset lies below the limit and every boundary below
the limit advances, an iterate is a boundary and is at least its own index. -/
theorem boundary_iterate
    (advances : forall offset, Boundary next limit offset -> offset < limit -> offset < next offset)
    (rounds : Nat) (inside : forall i, i < rounds -> next^[i] 0 < limit) :
    Boundary next limit (next^[rounds] 0) ∧ rounds ≤ next^[rounds] 0 := by
  induction rounds with
  | zero => exact ⟨.start, Nat.zero_le _⟩
  | succ rounds inductionHypothesis =>
      have earlier := inductionHypothesis (fun i below => inside i (Nat.lt_succ_of_lt below))
      have here := inside rounds (Nat.lt_succ_self rounds)
      rw [Function.iterate_succ_apply']
      exact ⟨.step earlier.1 here,
        Nat.succ_le_of_lt (Nat.lt_of_le_of_lt earlier.2 (advances _ earlier.1 here))⟩

/-- A walk ends with progress exactly when every boundary below the limit
names a later offset. -/
theorem endsWithProgress_iff :
    EndsWithProgress next limit ↔
      forall offset, Boundary next limit offset -> offset < limit -> offset < next offset := by
  constructor
  · intro ends offset boundary
    rcases ends with ⟨rounds, _bounded, finished, progress⟩
    have indexed : ∃ i, i ≤ rounds ∧ offset = next^[i] 0 := by
      induction boundary with
      | start => exact ⟨0, Nat.zero_le _, rfl⟩
      | step _ below inductionHypothesis =>
          rcases inductionHypothesis with ⟨i, bounded, equal⟩
          have different : i ≠ rounds := by
            intro same
            rw [equal, same] at below
            exact absurd finished (Nat.not_le_of_lt below)
          refine ⟨i + 1, Nat.succ_le_of_lt (Nat.lt_of_le_of_ne bounded different), ?_⟩
          rw [Function.iterate_succ_apply', equal]
    rcases indexed with ⟨i, bounded, equal⟩
    intro below
    have different : i ≠ rounds := by
      intro same
      rw [equal, same] at below
      exact absurd finished (Nat.not_le_of_lt below)
    have moved := (progress i (Nat.lt_of_le_of_ne bounded different)).2
    rw [Function.iterate_succ_apply'] at moved
    rw [equal]
    exact moved
  · intro advances
    have reached : ∃ rounds, limit ≤ next^[rounds] 0 := by
      by_contra never
      have inside : forall i, next^[i] 0 < limit := fun i =>
        Nat.lt_of_not_le (fun finished => never ⟨i, finished⟩)
      have far := (boundary_iterate advances limit (fun i _ => inside i)).2
      exact absurd far (Nat.not_le_of_lt (inside limit))
    let rounds := Nat.find reached
    have inside : forall i, i < rounds -> next^[i] 0 < limit := fun i below =>
      Nat.lt_of_not_le (Nat.find_min reached below)
    refine ⟨rounds, ?_, Nat.find_spec reached, ?_⟩
    · by_contra late
      have below : limit < rounds := Nat.lt_of_not_le late
      have far := (boundary_iterate advances limit
        (fun i less => inside i (Nat.lt_trans less below))).2
      exact absurd far (Nat.not_le_of_lt (inside limit below))
    · intro i below
      refine ⟨inside i below, ?_⟩
      rw [Function.iterate_succ_apply']
      have boundary := (boundary_iterate advances i
        (fun j less => inside j (Nat.lt_trans less below))).1
      exact advances _ boundary (inside i below)

/-- Running out of rounds means that every offset so far lies below the limit. -/
theorem visited_eq_none_iff (rounds offset : Nat) :
    visited next limit rounds offset = none ↔ forall i, i ≤ rounds -> next^[i] offset < limit := by
  induction rounds generalizing offset with
  | zero =>
      by_cases below : offset < limit
      · simp only [visited, if_pos below, true_iff]
        intro i bounded
        rw [Nat.le_zero.mp bounded]
        exact below
      · simp only [visited, if_neg below, reduceCtorEq, false_iff]
        exact fun inside => below (inside 0 (Nat.le_refl 0))
  | succ rounds inductionHypothesis =>
      by_cases below : offset < limit
      · simp only [visited, if_pos below, Option.map_eq_none_iff, inductionHypothesis]
        constructor
        · intro inside i bounded
          cases i with
          | zero => exact below
          | succ i => exact inside i (Nat.le_of_succ_le_succ bounded)
        · intro inside i bounded
          exact inside (i + 1) (Nat.succ_le_succ bounded)
      · simp only [visited, if_neg below, reduceCtorEq, false_iff]
        exact fun inside => below (inside 0 (Nat.zero_le _))

/-- A loop that is still running after `limit` rounds has repeated an offset,
so it runs for ever. -/
theorem runs_forever_of_still_running (inside : forall i, i ≤ limit -> next^[i] 0 < limit) (n : Nat) :
    next^[n] 0 < limit := by
  let offset : Fin (limit + 1) -> Fin limit := fun i =>
    ⟨next^[i.val] 0, inside i.val (Nat.le_of_lt_succ i.isLt)⟩
  rcases Fintype.exists_ne_map_eq_of_card_lt offset (by simp) with ⟨i, j, different, equal⟩
  have repeated : ∃ i j, i < j ∧ j ≤ limit ∧ next^[i] 0 = next^[j] 0 := by
    have values : next^[i.val] 0 = next^[j.val] 0 := congrArg Fin.val equal
    rcases Nat.lt_or_gt_of_ne (fun same => different (Fin.ext same)) with less | greater
    · exact ⟨i, j, less, Nat.le_of_lt_succ j.isLt, values⟩
    · exact ⟨j, i, greater, Nat.le_of_lt_succ i.isLt, values.symm⟩
  rcases repeated with ⟨i, j, less, bounded, values⟩
  have folded : ∃ m, m ≤ limit ∧ next^[n] 0 = next^[m] 0 := by
    induction n with
    | zero => exact ⟨0, Nat.zero_le _, rfl⟩
    | succ n inductionHypothesis =>
        rcases inductionHypothesis with ⟨m, small, same⟩
        rw [Function.iterate_succ_apply', same, ← Function.iterate_succ_apply' next m 0]
        by_cases room : m < limit
        · exact ⟨m + 1, room, rfl⟩
        · refine ⟨limit + 1 - j + i, by omega, ?_⟩
          have split : m.succ = (limit + 1 - j) + j := by omega
          rw [split, Function.iterate_add_apply, Function.iterate_add_apply, values]
  rcases folded with ⟨m, small, same⟩
  rw [same]
  exact inside m small

/-- With `limit` rounds of fuel, `none` is exactly a loop that never ends. -/
theorem visited_limit_eq_none_iff :
    visited next limit limit 0 = none ↔ forall n, next^[n] 0 < limit := by
  rw [visited_eq_none_iff]
  exact ⟨runs_forever_of_still_running, fun inside i _ => inside i⟩

/-- The rounds of a walk start at boundaries. -/
theorem boundary_of_mem_visited {rounds start offset : Nat} {offsets : List Nat}
    (boundary : Boundary next limit start) (walked : visited next limit rounds start = some offsets)
    (member : offset ∈ offsets) : Boundary next limit offset ∧ offset < limit := by
  induction rounds generalizing start offsets with
  | zero =>
      unfold visited at walked
      split at walked
      · cases walked
      · rw [← Option.some.inj walked] at member
        exact absurd member List.not_mem_nil
  | succ rounds inductionHypothesis =>
      unfold visited at walked
      split at walked
      · rename_i below
        rcases Option.map_eq_some_iff.mp walked with ⟨later, isLater, isOffsets⟩
        rw [← isOffsets] at member
        rcases List.mem_cons.mp member with here | beyond
        · rw [here]
          exact ⟨boundary, below⟩
        · exact inductionHypothesis (.step boundary below) isLater beyond
      · rw [← Option.some.inj walked] at member
        exact absurd member List.not_mem_nil

/-- Loops that move alike at every boundary visit the same offsets. -/
theorem visited_congr {other : Nat -> Nat} {rounds start : Nat}
    (same : forall offset, Boundary next limit offset -> offset < limit -> next offset = other offset)
    (boundary : Boundary next limit start) :
    visited next limit rounds start = visited other limit rounds start := by
  induction rounds generalizing start with
  | zero => rfl
  | succ rounds inductionHypothesis =>
      unfold visited
      split
      · rename_i below
        rw [inductionHypothesis (.step boundary below), same start boundary below]
      · rfl

/-! ## Walks over items that lie one after another -/

/-- Where items of the given sizes start. -/
def startsOf (start : Nat) : List Nat -> List Nat
  | [] => []
  | size :: sizes => start :: startsOf (start + size) sizes

theorem le_of_mem_startsOf {start offset : Nat} {sizes : List Nat}
    (member : offset ∈ startsOf start sizes) : offset ≤ start + sizes.sum := by
  induction sizes generalizing start with
  | nil => exact absurd member List.not_mem_nil
  | cons size sizes inductionHypothesis =>
      rw [List.sum_cons]
      rcases List.mem_cons.mp member with here | beyond
      · omega
      · have later := inductionHypothesis beyond
        omega

/-- The loop finds the size of every item where the item starts. -/
def Lands (next : Nat -> Nat) (start : Nat) (sizes : List Nat) : Prop :=
  List.Forall₂ (fun offset size => next offset = offset + size) (startsOf start sizes) sizes

/-- A walk over items that are not empty visits the start of each of them. -/
theorem visited_startsOf {start rounds : Nat} {sizes : List Nat} (lands : Lands next start sizes)
    (positive : ∀ size ∈ sizes, 0 < size) (enough : sizes.length ≤ rounds) :
    visited next (start + sizes.sum) rounds start = some (startsOf start sizes) := by
  induction sizes generalizing start rounds with
  | nil =>
      have ended : ¬ start < start + ([] : List Nat).sum := by simp
      cases rounds <;> simp only [visited, if_neg ended] <;> rfl
  | cons size sizes inductionHypothesis =>
      rcases List.forall₂_cons.mp lands with ⟨moves, later⟩
      have some_bytes := positive size List.mem_cons_self
      have inside : start < start + (size :: sizes).sum := by
        rw [List.sum_cons]
        omega
      have limit : start + (size :: sizes).sum = start + size + sizes.sum := by
        rw [List.sum_cons, Nat.add_assoc]
      cases rounds with
      | zero => exact absurd enough (Nat.not_succ_le_zero _)
      | succ rounds =>
          have rest := inductionHypothesis later
            (fun other member => positive other (List.mem_cons_of_mem size member))
            (Nat.le_of_succ_le_succ enough)
          simp only [visited, if_pos inside]
          rw [moves, limit, rest]
          rfl

/-- After the start of an item comes the start of the next one, or the end. -/
theorem Lands.next_mem {start offset : Nat} {sizes : List Nat} (lands : Lands next start sizes)
    (member : offset ∈ startsOf start sizes) :
    next offset ∈ startsOf start sizes ∨ next offset = start + sizes.sum := by
  induction sizes generalizing start with
  | nil => exact absurd member List.not_mem_nil
  | cons size sizes inductionHypothesis =>
      rcases List.forall₂_cons.mp lands with ⟨moves, later⟩
      rw [List.sum_cons, ← Nat.add_assoc]
      rcases List.mem_cons.mp member with here | beyond
      · rw [here, moves]
        cases sizes with
        | nil => exact .inr rfl
        | cons following others =>
            exact .inl (List.mem_cons_of_mem _ List.mem_cons_self)
      · exact (inductionHypothesis later beyond).imp (List.mem_cons_of_mem _) id

/-- The boundaries below the limit are the starts of the items. -/
theorem Lands.mem_of_boundary {offset : Nat} {sizes : List Nat} (lands : Lands next 0 sizes)
    (boundary : Boundary next sizes.sum offset) :
    offset ∈ startsOf 0 sizes ∨ offset = sizes.sum := by
  induction boundary with
  | start =>
      cases sizes with
      | nil => exact .inr rfl
      | cons size sizes => exact .inl List.mem_cons_self
  | step _ below inductionHypothesis =>
      rcases inductionHypothesis with member | ended
      · exact (lands.next_mem member).imp id (fun last => last.trans (Nat.zero_add _))
      · exact absurd ended (Nat.ne_of_lt below)

end Foundation
end Pppcpd
