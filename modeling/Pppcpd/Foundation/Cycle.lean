import Mathlib.Data.List.Iterate
import Mathlib.Dynamics.PeriodicPts.Defs

namespace Pppcpd
namespace Foundation

/-!
# Searches around a cycle

A search starts at a cursor, tests one item after another, and gives up when it
is back at the cursor.  On a cycle it tests every item once, so it is a search
through the list of the items in the order of the cycle.
-/

variable {Item : Type} [DecidableEq Item] {next : Item -> Item} {accepts : Item -> Bool}
  {start : Item}

/-- The search from a cursor on.  The outer `none` is a search that is still
running after the given number of rounds. -/
def searchCycle (next : Item -> Item) (accepts : Item -> Bool) (start : Item) :
    Nat -> Item -> Option (Option Item)
  | 0, _ => none
  | rounds + 1, current =>
      if accepts current then some (some current)
      else if next current = start then some none
      else searchCycle next accepts start rounds (next current)

omit [DecidableEq Item] in
/-- The items that are visited before the search is back at the cursor are all
different. -/
theorem nodup_iterate_minimalPeriod (next : Item -> Item) (start : Item) :
    (List.iterate next start (Function.minimalPeriod next start)).Nodup := by
  rw [← List.range_map_iterate]
  refine List.nodup_range.map_on ?_
  intro first isFirst second isSecond same
  exact Function.iterate_injOn_Iio_minimalPeriod (Set.mem_Iio.mpr (List.mem_range.mp isFirst))
    (Set.mem_Iio.mpr (List.mem_range.mp isSecond)) same

/-- The rest of a search, from an item that has `left` items up to the end. -/
theorem searchCycle_from {behind left rounds : Nat}
    (whole : behind + left = Function.minimalPeriod next start) (some_left : 0 < left)
    (enough : left ≤ rounds) :
    searchCycle next accepts start rounds (next^[behind] start) =
      some ((List.iterate next (next^[behind] start) left).find? accepts) := by
  induction left generalizing behind rounds with
  | zero => exact absurd some_left (Nat.lt_irrefl 0)
  | succ left inductionHypothesis =>
      cases rounds with
      | zero => exact absurd enough (Nat.not_succ_le_zero left)
      | succ rounds =>
          have step : next (next^[behind] start) = next^[behind + 1] start :=
            (Function.iterate_succ_apply' next behind start).symm
          unfold searchCycle List.iterate
          by_cases accepted : accepts (next^[behind] start) = true
          · simp [accepted]
          · rw [if_neg accepted, List.find?_cons_of_neg accepted, step]
            rcases Nat.eq_zero_or_pos left with last | more
            · have back : next^[behind + 1] start = start := by
                rw [show behind + 1 = Function.minimalPeriod next start by omega]
                exact Function.iterate_minimalPeriod
              simp [back, last, List.iterate]
            · have away : next^[behind + 1] start ≠ start := fun back =>
                Function.not_isPeriodicPt_of_pos_of_lt_minimalPeriod (Nat.succ_ne_zero behind)
                  (by omega) back
              have rest : behind + 1 + left = Function.minimalPeriod next start := by omega
              rw [if_neg away]
              exact inductionHypothesis rest more (Nat.le_of_succ_le_succ enough)

/-- A search around a cycle finds the first item that is accepted, or finds that
there is none. -/
theorem searchCycle_eq {rounds : Nat} (cyclic : 0 < Function.minimalPeriod next start)
    (enough : Function.minimalPeriod next start ≤ rounds) :
    searchCycle next accepts start rounds start =
      some ((List.iterate next start (Function.minimalPeriod next start)).find? accepts) :=
  @searchCycle_from _ _ next accepts start 0 _ rounds (Nat.zero_add _) cyclic enough

end Foundation
end Pppcpd
