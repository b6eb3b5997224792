import Pppcpd.Foundation.Run

namespace Pppcpd
namespace Foundation

/-!
# Labels of a run that take turns

Some steps of a system carry a label, and the labels of a run are those of its
steps in order.  Where one label is given exactly to the steps that enter a set
of states and another exactly to those that leave it, the two take turns in
every run, and the number of labels tells whether the run ended inside.
-/

variable {State Event Label : Type*}

/-- The labels take turns, and `first` begins. -/
def Alternates (first second : Label) (labels : List Label) : Prop :=
  forall index label, labels[index]? = some label ->
    label = if index % 2 = 0 then first else second

theorem Alternates.nil (first second : Label) : Alternates first second [] := by
  intro index label there
  rw [List.getElem?_nil] at there
  cases there

/-- A list that takes turns goes on with the label whose turn it is. -/
theorem Alternates.concat {first second : Label} {labels : List Label}
    (alternates : Alternates first second labels) :
    Alternates first second (labels ++ [if labels.length % 2 = 0 then first else second]) := by
  intro index label there
  by_cases within : index < labels.length
  · rw [List.getElem?_append_left within] at there
    exact alternates index label there
  · have reached : index < (labels ++ [if labels.length % 2 = 0 then first else second]).length :=
      (List.getElem?_eq_some_iff.mp there).1
    rw [List.length_append, List.length_singleton] at reached
    have last : index = labels.length :=
      Nat.le_antisymm (Nat.le_of_lt_succ reached) (Nat.le_of_not_lt within)
    rw [last, List.getElem?_concat_length] at there
    rw [last]
    exact (Option.some.inj there).symm

/-- The labels of the recorded steps, oldest first. -/
def labelsOf (label : State -> Event -> Option Label) (past : List (State × Event)) : List Label :=
  past.reverse.filterMap (fun taken => label taken.1 taken.2)

theorem labelsOf_cons (label : State -> Event -> Option Label) (now : State) (event : Event)
    (past : List (State × Event)) :
    labelsOf label ((now, event) :: past) = labelsOf label past ++ (label now event).toList := by
  unfold labelsOf
  rw [List.reverse_cons, List.filterMap_append]
  rfl

/-- The label of a step says whether it enters or leaves a set of states. -/
structure Marks (step : State -> Event -> Option State) (inside : State -> Prop)
    (enter leave : Label) (label : State -> Event -> Option Label) : Prop where
  marked : forall {now event after mark}, step now event = some after ->
    label now event = some mark ->
      mark = enter ∧ ¬ inside now ∧ inside after ∨ mark = leave ∧ inside now ∧ ¬ inside after
  unmarked : forall {now event after}, step now event = some after ->
    label now event = none -> (inside after ↔ inside now)

/-- From outside, the labels of a run take turns, and an odd number of them
means that the run is inside. -/
theorem Marks.alternates {step : State -> Event -> Option State} {inside : State -> Prop}
    {enter leave : Label} {label : State -> Event -> Option Label}
    (marks : Marks step inside enter leave label) {allowed : State -> Event -> Prop}
    {start state : State} {past : List (State × Event)} (outside : ¬ inside start)
    (run : Run step allowed start past state) :
    Alternates enter leave (labelsOf label past) ∧
      (inside state ↔ (labelsOf label past).length % 2 = 1) := by
  induction run with
  | start => exact ⟨.nil enter leave, fun within => absurd within outside, fun odd => by cases odd⟩
  | @next past now after event earlier _ taken inductionHypothesis =>
      rcases inductionHypothesis with ⟨alternates, parity⟩
      rw [labelsOf_cons]
      cases found : label now event with
      | none =>
          rw [Option.toList_none, List.append_nil]
          exact ⟨alternates, (marks.unmarked taken found).trans parity⟩
      | some mark =>
          rw [Option.toList_some, List.length_append, List.length_singleton]
          have continued := alternates.concat
          rcases marks.marked taken found with ⟨same, before, within⟩ | ⟨same, before, without⟩
          · have even : (labelsOf label past).length % 2 = 0 :=
              (Nat.mod_two_eq_zero_or_one _).resolve_right (fun odd => before (parity.mpr odd))
            rw [if_pos even] at continued
            rw [same]
            exact ⟨continued, fun _ => by omega, fun _ => within⟩
          · have odd := parity.mp before
            rw [if_neg (by rw [odd]; decide)] at continued
            rw [same]
            exact ⟨continued, fun inside => absurd inside without, fun other => by omega⟩

end Foundation
end Pppcpd
