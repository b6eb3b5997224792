import Pppcpd.Foundation.Run

namespace Pppcpd
namespace Foundation

/-!
# What a player can bring about

An event of a reactive program has two parts.  One of them a player chooses,
and the other one is left to chance.  A player forces a goal when he has a plan
that leads to it whatever chance does, and through safe states alone.  His
choices may depend on what has happened so far.
-/

variable {State Event Choice Chance : Type*}

/-- From the state, permitted choices lead to a safe state of the goal, whatever
chance contributes to each step, and every state on the way is safe. -/
inductive Forces (step : State -> Event -> Option State) (event : Chance -> Choice -> Event)
    (permitted : Choice -> Prop) (safe goal : State -> Prop) : State -> Prop
  | reached {state : State} : safe state -> goal state ->
      Forces step event permitted safe goal state
  | move {state : State} (choice : Choice) (after : Chance -> State) : safe state ->
      permitted choice -> (forall chance, step state (event chance choice) = some (after chance)) ->
      (forall chance, Forces step event permitted safe goal (after chance)) ->
      Forces step event permitted safe goal state

namespace Forces

variable {step : State -> Event -> Option State} {event : Chance -> Choice -> Event}
  {permitted : Choice -> Prop} {safe goal : State -> Prop} {state : State}

/-- One choice, when every outcome of it is one from which the player goes on. -/
theorem next (choice : Choice) (isSafe : safe state) (isPermitted : permitted choice)
    (outcome : forall chance, ∃ after, step state (event chance choice) = some after ∧
      Forces step event permitted safe goal after) :
    Forces step event permitted safe goal state := by
  rcases Classical.skolem.mp outcome with ⟨after, both⟩
  exact .move choice after isSafe isPermitted (fun chance => (both chance).1)
    (fun chance => (both chance).2)

/-- A plan for a stage, and a plan from every state of the stage, make one. -/
theorem trans {stage : State -> Prop} (first : Forces step event permitted safe stage state)
    (second : forall later, safe later -> stage later ->
      Forces step event permitted safe goal later) :
    Forces step event permitted safe goal state := by
  induction first with
  | reached isSafe there => exact second _ isSafe there
  | move choice after isSafe isPermitted taken _ inductionHypothesis =>
      exact .move choice after isSafe isPermitted taken inductionHypothesis

/-- The same plan in other words, where less is left to chance. -/
theorem relabel {Word Draw : Type*} {told : Draw -> Word -> Event} {allowed : Word -> Prop}
    (word : Choice -> Word) (draw : Draw -> Chance)
    (same : forall drawn choice, told drawn (word choice) = event (draw drawn) choice)
    (kept : forall choice, permitted choice -> allowed (word choice))
    (forces : Forces step event permitted safe goal state) :
    Forces step told allowed safe goal state := by
  induction forces with
  | reached isSafe there => exact .reached isSafe there
  | move choice after isSafe isPermitted taken _ inductionHypothesis =>
      refine .move (word choice) (fun drawn => after (draw drawn)) isSafe (kept choice isPermitted)
        (fun drawn => ?_) (fun drawn => inductionHypothesis (draw drawn))
      rw [same]
      exact taken (draw drawn)

/-- A plan keeps every condition that each of its steps keeps. -/
theorem keeping {keeps : State -> Prop} (here : keeps state)
    (kept : forall now chance choice after, keeps now -> permitted choice ->
      step now (event chance choice) = some after -> keeps after)
    (forces : Forces step event permitted safe goal state) :
    Forces step event permitted keeps (fun later => goal later ∧ safe later) state := by
  induction forces with
  | reached isSafe there => exact .reached here ⟨there, isSafe⟩
  | move choice after _ isPermitted taken _ inductionHypothesis =>
      exact .move choice after here isPermitted taken (fun chance =>
        inductionHypothesis chance (kept _ chance choice _ here isPermitted (taken chance)))

theorem weaken {milder wider : State -> Prop} (milden : forall later, safe later -> milder later)
    (widen : forall later, goal later -> wider later)
    (forces : Forces step event permitted safe goal state) :
    Forces step event permitted milder wider state := by
  induction forces with
  | reached isSafe there => exact .reached (milden _ isSafe) (widen _ there)
  | move choice after isSafe isPermitted taken _ inductionHypothesis =>
      exact .move choice after (milden _ isSafe) isPermitted taken inductionHypothesis

/-- The steps of a play: a safe state, a permitted choice, and what chance
contributes in that state. -/
def Played (event : Chance -> Choice -> Event) (permitted : Choice -> Prop) (safe : State -> Prop)
    (contributes : State -> Chance) (now : State) (taken : Event) : Prop :=
  safe now ∧ ∃ choice, permitted choice ∧ taken = event (contributes now) choice

/-- However chance plays, there is a run to the goal. -/
theorem exists_run (forces : Forces step event permitted safe goal state)
    (contributes : State -> Chance) :
    ∃ past later, Run step (Played event permitted safe contributes) state past later ∧
      safe later ∧ goal later := by
  induction forces with
  | reached isSafe there => exact ⟨[], _, .start, isSafe, there⟩
  | @move state choice after isSafe isPermitted taken _ inductionHypothesis =>
      rcases inductionHypothesis (contributes state) with ⟨past, later, run, isSafeLater, there⟩
      have first : Run step (Played event permitted safe contributes) state
          [(state, event (contributes state) choice)] (after (contributes state)) :=
        .next .start ⟨isSafe, choice, isPermitted, rfl⟩ (taken _)
      exact ⟨_, later, first.append run, isSafeLater, there⟩

end Forces

end Foundation
end Pppcpd
