import Mathlib.Data.List.Basic
import Mathlib.Tactic.Choose
import Pppcpd.Foundation.Run

namespace Pppcpd
namespace Foundation

/-!
# Tickets

A program hands out tickets under keys.  A ticket is valid from the step that
issues it to the step that uses or voids it, and a key has at most one valid
ticket at a time, but it may have many one after the other.  In every run each
use goes back to the issue of a ticket, and no issue serves two uses.
-/

variable {State Event Key : Type*}

/-- The step of a history that was taken after a number of others. -/
def stepAt (past : List (State × Event)) (position : Nat) : Option (State × Event) :=
  past.reverse[position]?

/-- A history with one more step. -/
theorem stepAt_cons (entry : State × Event) (past : List (State × Event)) (position : Nat) :
    stepAt (entry :: past) position =
      if position = past.length then some entry else stepAt past position := by
  unfold stepAt
  rw [List.reverse_cons]
  rcases Nat.lt_trichotomy position past.length with within | last | beyond
  · rw [if_neg (Nat.ne_of_lt within), List.getElem?_append_left]
    rw [List.length_reverse]
    exact within
  · rw [if_pos last, last, ← List.length_reverse, List.getElem?_concat_length]
  · rw [if_neg (Nat.ne_of_gt beyond), List.getElem?_eq_none, List.getElem?_eq_none]
    · rw [List.length_reverse]
      exact Nat.le_of_lt beyond
    · rw [List.length_append, List.length_reverse]
      exact beyond

theorem stepAt_last (entry : State × Event) (past : List (State × Event)) :
    stepAt (entry :: past) past.length = some entry := by
  rw [stepAt_cons, if_pos rfl]

theorem stepAt_earlier (entry : State × Event) {past : List (State × Event)} {position : Nat}
    (earlier : position < past.length) : stepAt (entry :: past) position = stepAt past position := by
  rw [stepAt_cons, if_neg (Nat.ne_of_lt earlier)]

theorem lt_of_stepAt {past : List (State × Event)} {position : Nat} {entry : State × Event}
    (taken : stepAt past position = some entry) : position < past.length := by
  rcases List.getElem?_eq_some_iff.mp taken with ⟨within, _⟩
  rw [List.length_reverse] at within
  exact within

/-- What the steps of a program do with tickets. -/
structure Tickets (State Event Key : Type*) where
  valid : State -> Key -> Prop
  issues : Key -> State -> Event -> Prop
  uses : Key -> State -> Event -> Prop
  voids : Key -> State -> Event -> Prop

namespace Tickets

/-- The rules of tickets.  A step issues at most one ticket and uses at most
one. -/
structure Sound (tickets : Tickets State Event Key) (step : State -> Event -> Option State) :
    Prop where
  valid_after : forall now event after key, step now event = some after ->
    (tickets.valid after key ↔ tickets.issues key now event ∨
      tickets.valid now key ∧ ¬ tickets.uses key now event ∧ ¬ tickets.voids key now event)
  fresh : forall key now event, tickets.issues key now event -> ¬ tickets.valid now key
  used : forall key now event, tickets.uses key now event -> tickets.valid now key
  issued_once : forall key other now event, tickets.issues key now event ->
    tickets.issues other now event -> key = other
  used_once : forall key other now event, tickets.uses key now event ->
    tickets.uses other now event -> key = other

/-- The ticket of a key at a position of the history is the one that an earlier
step issued: the key had no other ticket in between, and this one was neither
used nor voided. -/
structure Backed (tickets : Tickets State Event Key) (past : List (State × Event)) (key : Key)
    (origin position : Nat) : Prop where
  earlier : origin < position
  issued : ∃ before event, stepAt past origin = some (before, event) ∧
    tickets.issues key before event
  untouched : forall between before event, origin < between -> between < position ->
    stepAt past between = some (before, event) ->
      ¬ tickets.issues key before event ∧ ¬ tickets.uses key before event ∧
        ¬ tickets.voids key before event

variable {tickets : Tickets State Event Key} {step : State -> Event -> Option State}
  {allowed : State -> Event -> Prop} {start now : State} {past : List (State × Event)}

/-- A longer history says the same about its earlier part. -/
theorem Backed.cons {key : Key} {origin position : Nat} (entry : State × Event)
    (backed : tickets.Backed past key origin position) (within : position ≤ past.length) :
    tickets.Backed (entry :: past) key origin position := by
  have before : forall index, index < position -> stepAt (entry :: past) index = stepAt past index :=
    fun index inside => stepAt_earlier entry (Nat.lt_of_lt_of_le inside within)
  refine ⟨backed.earlier, ?_, fun between state event after inside taken => ?_⟩
  · rw [before origin backed.earlier]
    exact backed.issued
  · rw [before between inside] at taken
    exact backed.untouched between state event after inside taken

/-- A ticket that the last step issued. -/
theorem Backed.here {key : Key} {event : Event} (past : List (State × Event))
    (issued : tickets.issues key now event) :
    tickets.Backed ((now, event) :: past) key past.length (past.length + 1) := by
  refine ⟨Nat.lt_succ_self _, ⟨now, event, stepAt_last _ _, issued⟩, ?_⟩
  intro between _ _ behind inside
  omega

/-- A ticket that the last step left alone. -/
theorem Backed.later {key : Key} {origin : Nat} {event : Event}
    (backed : tickets.Backed past key origin past.length)
    (alone : ¬ tickets.issues key now event ∧ ¬ tickets.uses key now event ∧
      ¬ tickets.voids key now event) :
    tickets.Backed ((now, event) :: past) key origin (past.length + 1) := by
  have longer := backed.cons (now, event) (Nat.le_refl _)
  refine ⟨Nat.lt_succ_of_lt backed.earlier, longer.issued, ?_⟩
  intro between state cause behind inside there
  rcases Nat.lt_succ_iff_lt_or_eq.mp inside with older | last
  · exact longer.untouched between state cause behind older there
  · rw [last, stepAt_last] at there
    have parts := Prod.mk.inj (Option.some.inj there)
    rw [← parts.1, ← parts.2]
    exact alone

/-- No step is backed by a ticket that another step used. -/
theorem Backed.injective (sound : tickets.Sound step) {first second origin : Nat} {key other : Key}
    {before otherBefore : State} {event otherEvent : Event}
    (backed : tickets.Backed past key origin first)
    (otherBacked : tickets.Backed past other origin second)
    (taken : stepAt past first = some (before, event)) (uses : tickets.uses key before event)
    (otherTaken : stepAt past second = some (otherBefore, otherEvent))
    (otherUses : tickets.uses other otherBefore otherEvent) : first = second := by
  have same : key = other := by
    rcases backed.issued with ⟨state, cause, there, issued⟩
    rcases otherBacked.issued with ⟨otherState, otherCause, otherThere, otherIssued⟩
    have parts := Prod.mk.inj (Option.some.inj (there.symm.trans otherThere))
    rw [parts.1, parts.2] at issued
    exact sound.issued_once _ _ _ _ issued otherIssued
  rw [← same] at otherBacked otherUses
  rcases Nat.lt_trichotomy first second with before | equal | after
  · exact absurd uses (otherBacked.untouched first _ _ backed.earlier before taken).2.1
  · exact equal
  · exact absurd otherUses (backed.untouched second _ _ otherBacked.earlier after otherTaken).2.1

namespace Sound

variable (sound : tickets.Sound step) (nothing : forall key, ¬ tickets.valid start key)
include sound nothing

/-- A ticket that is valid was issued. -/
theorem backed_of_valid {key : Key} (run : Run step allowed start past now)
    (valid : tickets.valid now key) : ∃ origin, tickets.Backed past key origin past.length := by
  induction run with
  | start => exact absurd valid (nothing key)
  | @next past now after event earlier permitted taken inductionHypothesis =>
      rcases (sound.valid_after now event after key taken).mp valid with
        issued | ⟨was, notUsed, notVoided⟩
      · exact ⟨past.length, .here past issued⟩
      · rcases inductionHypothesis was with ⟨origin, backed⟩
        have notIssued : ¬ tickets.issues key now event :=
          fun issued => sound.fresh key now event issued was
        exact ⟨origin, backed.later ⟨notIssued, notUsed, notVoided⟩⟩

/-- Every ticket that is used was issued before. -/
theorem backed_of_uses {key : Key} {position : Nat} {before : State} {event : Event}
    (run : Run step allowed start past now) (there : stepAt past position = some (before, event))
    (uses : tickets.uses key before event) : ∃ origin, tickets.Backed past key origin position := by
  induction run with
  | start => cases there
  | @next past now after last earlier permitted taken inductionHypothesis =>
      rw [stepAt_cons] at there
      split at there
      · rename_i isLast
        have parts := Prod.mk.inj (Option.some.inj there)
        rw [← parts.1, ← parts.2] at uses
        rcases sound.backed_of_valid nothing earlier (sound.used key now last uses) with
          ⟨origin, backed⟩
        rw [isLast]
        exact ⟨origin, backed.cons _ (Nat.le_refl _)⟩
      · rcases inductionHypothesis there with ⟨origin, backed⟩
        exact ⟨origin, backed.cons _ (Nat.le_of_lt (lt_of_stepAt there))⟩

/-- The uses of a run are matched with distinct earlier issues. -/
theorem matching (run : Run step allowed start past now) : ∃ origin : Nat -> Nat,
    (forall position before event key, stepAt past position = some (before, event) ->
      tickets.uses key before event -> tickets.Backed past key (origin position) position) ∧
    forall first second before otherBefore event otherEvent key other,
      stepAt past first = some (before, event) -> tickets.uses key before event ->
      stepAt past second = some (otherBefore, otherEvent) ->
      tickets.uses other otherBefore otherEvent -> origin first = origin second ->
        first = second := by
  have each : forall position, ∃ origin, forall before event key,
      stepAt past position = some (before, event) -> tickets.uses key before event ->
        tickets.Backed past key origin position := by
    intro position
    by_cases used : ∃ before event key, stepAt past position = some (before, event) ∧
        tickets.uses key before event
    · rcases used with ⟨before, event, key, there, uses⟩
      rcases sound.backed_of_uses nothing run there uses with ⟨origin, backed⟩
      refine ⟨origin, fun otherBefore otherEvent other otherThere otherUses => ?_⟩
      have parts := Prod.mk.inj (Option.some.inj (there.symm.trans otherThere))
      rw [← parts.1, ← parts.2] at otherUses
      rw [sound.used_once other key before event otherUses uses]
      exact backed
    · exact ⟨0, fun before event key there uses => absurd ⟨before, event, key, there, uses⟩ used⟩
  choose origin backed using each
  refine ⟨origin, backed, fun first second _ _ _ _ key other there uses otherThere otherUses same => ?_⟩
  have otherBacked := backed second _ _ other otherThere otherUses
  rw [← same] at otherBacked
  exact (backed first _ _ key there uses).injective sound otherBacked there uses otherThere otherUses

end Sound

/-- The event neither issues nor uses nor voids the ticket of a key. -/
def Leaves (tickets : Tickets State Event Key) (key : Key) (now : State) (event : Event) : Prop :=
  ¬ tickets.issues key now event ∧ ¬ tickets.uses key now event ∧ ¬ tickets.voids key now event

/-- A run that leaves the ticket of a key keeps it valid or not. -/
theorem Sound.valid_of_leaves (sound : tickets.Sound step) {key : Key}
    (run : Run step (tickets.Leaves key) start past now) :
    tickets.valid now key ↔ tickets.valid start key := by
  induction run with
  | start => exact Iff.rfl
  | next _earlier permitted taken inductionHypothesis =>
      rw [sound.valid_after _ _ _ key taken, ← inductionHypothesis]
      constructor
      · exact fun either => either.elim (fun issues => absurd issues permitted.1) And.left
      · exact fun valid => .inr ⟨valid, permitted.2⟩

end Tickets

end Foundation
end Pppcpd
