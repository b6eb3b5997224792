import Mathlib.Logic.Basic

namespace Pppcpd
namespace Foundation

/-!
# Runs of a partial step function

A reactive program is a state and a step function that handles one event to
completion.  The step function is partial: `none` means that the handler does
not return, because it loops or because the language gives it no meaning.

A run keeps every step it took, newest first, as the pair of the state before
the step and the event.  Properties of single states are invariants of runs.
Properties such as "this happened before that" speak about the recorded past.
The predicate `allowed` restricts the steps of a run, so the same induction
serves unrestricted runs and the runs in which every step meets a condition.
-/

variable {State Event : Type*}

/-- The runs of `step` from `start` in which every step is allowed.  The list
holds the steps already taken, newest first. -/
inductive Run (step : State -> Event -> Option State) (allowed : State -> Event -> Prop)
    (start : State) : List (State × Event) -> State -> Prop
  | start : Run step allowed start [] start
  | next {past : List (State × Event)} {now after : State} {event : Event} :
      Run step allowed start past now -> allowed now event -> step now event = some after ->
      Run step allowed start ((now, event) :: past) after

/-- The condition that allows every step. -/
def anyStep (_ : State) (_ : Event) : Prop := True

/-- A state is reachable when some unrestricted run ends in it. -/
def Reachable (step : State -> Event -> Option State) (start state : State) : Prop :=
  ∃ past, Run step anyStep start past state

namespace Run

variable {step : State -> Event -> Option State} {allowed : State -> Event -> Prop}
  {start state : State} {past : List (State × Event)}

/-- What holds at the start and is kept by every allowed step holds at the end
of every run. -/
theorem invariant {holds : State -> Prop} (atStart : holds start)
    (kept : forall now event after, holds now -> allowed now event ->
      step now event = some after -> holds after)
    (run : Run step allowed start past state) : holds state := by
  induction run with
  | start => exact atStart
  | next _earlier permitted taken inductionHypothesis =>
      exact kept _ _ _ inductionHypothesis permitted taken

/-- The same induction for a property of the state and the recorded past. -/
theorem invariantPast {holds : List (State × Event) -> State -> Prop} (atStart : holds [] start)
    (kept : forall past now event after, holds past now -> allowed now event ->
      step now event = some after -> holds ((now, event) :: past) after)
    (run : Run step allowed start past state) : holds past state := by
  induction run with
  | start => exact atStart
  | next _earlier permitted taken inductionHypothesis =>
      exact kept _ _ _ _ inductionHypothesis permitted taken

/-- A run under a condition is a run under every weaker condition. -/
theorem weaken {weaker : State -> Event -> Prop}
    (implied : forall now event, allowed now event -> weaker now event)
    (run : Run step allowed start past state) : Run step weaker start past state := by
  induction run with
  | start => exact .start
  | next _earlier permitted taken inductionHypothesis =>
      exact .next inductionHypothesis (implied _ _ permitted) taken

/-- Forgetting the condition of a run leaves a reachable state. -/
theorem reachable (run : Run step allowed start past state) : Reachable step start state :=
  ⟨past, run.weaken (fun _ _ _ => trivial)⟩

/-- Every recorded step was taken from the end of a shorter run, was allowed,
and returned. -/
theorem recorded {now : State} {event : Event} (run : Run step allowed start past state)
    (member : (now, event) ∈ past) :
    ∃ earlier after, Run step allowed start earlier now ∧ allowed now event ∧
      step now event = some after := by
  induction run with
  | start => exact absurd member List.not_mem_nil
  | next earlier permitted taken inductionHypothesis =>
      rcases List.mem_cons.mp member with same | older
      · have parts := Prod.mk.inj same
        rw [parts.1, parts.2]
        exact ⟨_, _, earlier, permitted, taken⟩
      · exact inductionHypothesis older

/-- A run goes through the state between any two parts of its record. -/
theorem split {later earlier : List (State × Event)}
    (run : Run step allowed start (later ++ earlier) state) :
    ∃ middle, Run step allowed start earlier middle ∧ Run step allowed middle later state := by
  induction later generalizing state with
  | nil => exact ⟨state, run, .start⟩
  | cons taken rest inductionHypothesis =>
      cases run with
      | next before permitted returned =>
          rcases inductionHypothesis before with ⟨middle, first, second⟩
          exact ⟨middle, first, .next second permitted returned⟩

/-- Two runs, the second from the end of the first, make one run. -/
theorem append {middle : State} {later earlier : List (State × Event)}
    (first : Run step allowed start earlier middle)
    (second : Run step allowed middle later state) :
    Run step allowed start (later ++ earlier) state := by
  induction second with
  | start => exact first
  | next _ permitted taken inductionHypothesis => exact .next inductionHypothesis permitted taken

end Run

theorem Reachable.refl (step : State -> Event -> Option State) (start : State) :
    Reachable step start start :=
  ⟨[], .start⟩

/-- Reachability extends by one returned step. -/
theorem Reachable.next {step : State -> Event -> Option State} {start now after : State}
    {event : Event} (reached : Reachable step start now) (taken : step now event = some after) :
    Reachable step start after := by
  rcases reached with ⟨past, run⟩
  exact ⟨(now, event) :: past, .next run trivial taken⟩

/-- The invariant rule for reachable states. -/
theorem Reachable.invariant {step : State -> Event -> Option State} {start state : State}
    {holds : State -> Prop} (atStart : holds start)
    (kept : forall now event after, holds now -> step now event = some after -> holds after)
    (reached : Reachable step start state) : holds state := by
  rcases reached with ⟨past, run⟩
  exact run.invariant atStart (fun now event after here _ taken => kept now event after here taken)

/-- Run a list of events, oldest first. -/
def execute (step : State -> Event -> Option State) (start : State) : List Event -> Option State
  | [] => some start
  | event :: rest => (step start event).bind (fun after => execute step after rest)

/-- Two lists of events, one after the other. -/
theorem execute_append {step : State -> Event -> Option State} {start middle state : State}
    {events more : List Event} (first : execute step start events = some middle)
    (second : execute step middle more = some state) :
    execute step start (events ++ more) = some state := by
  induction events generalizing start with
  | nil => exact Option.some.inj first ▸ second
  | cons event rest inductionHypothesis =>
      rcases Option.bind_eq_some_iff.mp first with ⟨between, taken, remaining⟩
      exact Option.bind_eq_some_iff.mpr ⟨between, taken, inductionHypothesis remaining⟩

/-- Executing a list of events reaches its result. -/
theorem reachable_of_execute {step : State -> Event -> Option State} {origin start state : State}
    (reached : Reachable step origin start) (events : List Event)
    (executed : execute step start events = some state) : Reachable step origin state := by
  induction events generalizing start with
  | nil =>
      have same : start = state := Option.some.inj executed
      exact same ▸ reached
  | cons event rest inductionHypothesis =>
      rcases Option.bind_eq_some_iff.mp executed with ⟨middle, taken, remaining⟩
      exact inductionHypothesis (reached.next taken) remaining

/-- The state after a list of events that is known to be executed to its end. -/
def after (step : State -> Event -> Option State) (start : State) (events : List Event)
    (executed : (execute step start events).isSome = true) : State :=
  (execute step start events).get executed

theorem execute_after (step : State -> Event -> Option State) (start : State) (events : List Event)
    (executed : (execute step start events).isSome = true) :
    execute step start events = some (after step start events executed) :=
  (Option.some_get executed).symm

theorem reachable_after (step : State -> Event -> Option State) (start : State)
    (events : List Event) (executed : (execute step start events).isSome = true) :
    Reachable step start (after step start events executed) :=
  reachable_of_execute (.refl step start) events (execute_after step start events executed)

/-- Every event of a list, oldest first, is allowed when its turn comes. -/
def Permitted (step : State -> Event -> Option State) (allowed : State -> Event -> Prop)
    (start : State) : List Event -> Prop
  | [] => True
  | event :: rest =>
      allowed start event ∧ ∀ later ∈ step start event, Permitted step allowed later rest

instance Permitted.decidable (step : State -> Event -> Option State)
    (allowed : State -> Event -> Prop) [forall state event, Decidable (allowed state event)] :
    forall start events, Decidable (Permitted step allowed start events)
  | _, [] => inferInstanceAs (Decidable True)
  | start, event :: rest =>
      have (later : State) : Decidable (Permitted step allowed later rest) :=
        Permitted.decidable step allowed later rest
      inferInstanceAs (Decidable
        (allowed start event ∧ ∀ later ∈ step start event, Permitted step allowed later rest))

/-- Executing a list of permitted events extends a run. -/
theorem run_of_execute {step : State -> Event -> Option State}
    {allowed : State -> Event -> Prop} {origin start state : State} {past : List (State × Event)}
    (run : Run step allowed origin past start) (events : List Event)
    (permitted : Permitted step allowed start events)
    (executed : execute step start events = some state) :
    ∃ later, Run step allowed origin (later ++ past) state := by
  induction events generalizing start past with
  | nil =>
      have same : start = state := Option.some.inj executed
      exact ⟨[], same ▸ run⟩
  | cons event rest inductionHypothesis =>
      rcases Option.bind_eq_some_iff.mp executed with ⟨middle, taken, remaining⟩
      rcases inductionHypothesis (.next run permitted.1 taken) (permitted.2 middle taken) remaining
        with ⟨later, longer⟩
      refine ⟨later ++ [(start, event)], ?_⟩
      rw [List.append_assoc]
      exact longer

/-- A list of permitted events that is known to be executed makes a run. -/
theorem run_after (step : State -> Event -> Option State) (allowed : State -> Event -> Prop)
    (start : State) (events : List Event) (executed : (execute step start events).isSome = true)
    (permitted : Permitted step allowed start events) :
    ∃ past, Run step allowed start past (after step start events executed) := by
  rcases run_of_execute .start events permitted (execute_after step start events executed) with
    ⟨past, run⟩
  rw [List.append_nil] at run
  exact ⟨past, run⟩

/-- Every list of events is permitted where every step is. -/
theorem permitted_anyStep (step : State -> Event -> Option State) (start : State)
    (events : List Event) : Permitted step anyStep start events := by
  induction events generalizing start with
  | nil => trivial
  | cons event rest inductionHypothesis =>
      exact ⟨trivial, fun later _ => inductionHypothesis later⟩

/-- Where an invariant holds that every allowed step keeps, two conditions that
agree permit the same lists of events. -/
theorem permitted_iff_of_invariant {step : State -> Event -> Option State}
    {allowed meets : State -> Event -> Prop} (holds : State -> Prop)
    (agree : forall now event, holds now -> (allowed now event ↔ meets now event))
    (kept : forall now event after, holds now -> allowed now event ->
      step now event = some after -> holds after)
    {start : State} (atStart : holds start) (events : List Event) :
    Permitted step allowed start events ↔ Permitted step meets start events := by
  induction events generalizing start with
  | nil => exact Iff.rfl
  | cons event rest inductionHypothesis =>
      have here := agree start event atStart
      constructor
      · rintro ⟨first, others⟩
        refine ⟨here.mp first, fun later taken => ?_⟩
        have atLater := kept start event later atStart first taken
        exact (inductionHypothesis atLater).mp (others later taken)
      · rintro ⟨first, others⟩
        refine ⟨here.mpr first, fun later taken => ?_⟩
        have atLater := kept start event later atStart (here.mpr first) taken
        exact (inductionHypothesis atLater).mpr (others later taken)

/-! ## What happened since -/

section

variable (entry : State -> State -> Prop)

/-- Something happened in a step of the past behind the last step that was an
entry. -/
def Since (happened : State -> Event -> Prop) : List (State × Event) -> State -> Prop
  | [], _ => False
  | (before, event) :: earlier, now =>
      ¬ entry before now ∧ (happened before event ∨ Since happened earlier before)

/-- Behind the last entry there was a step of one kind, and the latest of them
was of the better kind. -/
def Latest (kind better : State -> Event -> Prop) : List (State × Event) -> State -> Prop
  | [], _ => False
  | (before, event) :: earlier, now =>
      ¬ entry before now ∧ (kind before event ∧ better before event ∨
        ¬ kind before event ∧ Latest kind better earlier before)

variable {entry} {happened kind better : State -> Event -> Prop} {earlier : List (State × Event)}
  {before now : State} {event : Event}

theorem Since.here (behind : ¬ entry before now) (did : happened before event) :
    Since entry happened ((before, event) :: earlier) now :=
  ⟨behind, .inl did⟩

theorem Since.later (since : Since entry happened earlier before) (behind : ¬ entry before now) :
    Since entry happened ((before, event) :: earlier) now :=
  ⟨behind, .inr since⟩

theorem Latest.here (behind : ¬ entry before now) (is : kind before event)
    (good : better before event) : Latest entry kind better ((before, event) :: earlier) now :=
  ⟨behind, .inl ⟨is, good⟩⟩

theorem Latest.later (latest : Latest entry kind better earlier before)
    (behind : ¬ entry before now) (other : ¬ kind before event) :
    Latest entry kind better ((before, event) :: earlier) now :=
  ⟨behind, .inr ⟨other, latest⟩⟩

end

end Foundation
end Pppcpd
