import Mathlib.Data.List.Basic

namespace Pppcpd
namespace Foundation

/-!
# Counting since a reset

Of the items of a history, newest first, some reset a counter and others raise it.
The counter then stands at the number of those that raised it since the latest
reset, or since the history begins.
-/

section

variable {Item : Type*} (resets raises : Item -> Prop) [DecidablePred resets]
  [DecidablePred raises]

/-- The number of items that raise the counter since the latest one that resets it. -/
def countSince (history : List Item) : Nat :=
  (history.takeWhile (fun item => !decide (resets item))).countP (fun item => decide (raises item))

variable {resets raises} {item : Item}

theorem countSince_of_resets (reset : resets item) (history : List Item) :
    countSince resets raises (item :: history) = 0 := by
  unfold countSince
  rw [List.takeWhile_cons_of_neg (by rw [decide_eq_true reset]; exact Bool.false_ne_true)]
  rfl

theorem countSince_of_raises (noReset : ¬ resets item) (raise : raises item)
    (history : List Item) :
    countSince resets raises (item :: history) = countSince resets raises history + 1 := by
  unfold countSince
  rw [List.takeWhile_cons_of_pos (by rw [decide_eq_false noReset]; rfl)]
  exact List.countP_cons_of_pos (decide_eq_true raise)

theorem countSince_of_neither (noReset : ¬ resets item) (noRaise : ¬ raises item)
    (history : List Item) :
    countSince resets raises (item :: history) = countSince resets raises history := by
  unfold countSince
  rw [List.takeWhile_cons_of_pos (by rw [decide_eq_false noReset]; rfl),
    List.countP_cons_of_neg (by rw [decide_eq_false noRaise]; exact Bool.false_ne_true)]

end

end Foundation
end Pppcpd
