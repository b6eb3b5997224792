import Mathlib.Data.List.Basic

namespace Pppcpd
namespace Foundation

/-!
# Asynchronous waits on a timer

An asynchronous wait is `armed` until its timer expires or is cancelled.  Then
its handler is queued and later dispatched: without an error when the timer
had expired, with an abort error when it was cancelled.  Cancelling does not
reach a wait that has already expired.

A timer object is the list of its waits that have not been dispatched yet.
Each of them keeps alive whatever its handler has captured.
-/

inductive Wait
  | armed
  | expired
  | aborted
  deriving DecidableEq, Repr

/-- A wait whose handler will run, or may still run, without an error. -/
def Wait.live : Wait -> Bool
  | .armed | .expired => true
  | .aborted => false

def Wait.cancel : Wait -> Wait
  | .armed => .aborted
  | wait => wait

def Wait.expire : Wait -> Wait
  | .armed => .expired
  | wait => wait

abbrev Timer := List Wait

namespace Timer

/-- Cancel every wait that has not expired yet. -/
def cancel (timer : Timer) : Timer := timer.map Wait.cancel

/-- Set a new expiry time, which cancels the waits on the old one, and start
one wait on it. -/
def restart (timer : Timer) : Timer := timer.cancel ++ [.armed]

/-- The expiry time is reached. -/
def expire (timer : Timer) : Timer := timer.map Wait.expire

/-- Some wait will still run its handler without an error. -/
def hasLive (timer : Timer) : Bool := timer.any Wait.live

/-- A timer without live waits gains none by expiring. -/
theorem hasLive_expire (timer : Timer) : (expire timer).hasLive = timer.hasLive := by
  induction timer with
  | nil => rfl
  | cons wait rest inductionHypothesis =>
      simp only [expire, hasLive, List.map_cons, List.any_cons] at inductionHypothesis ⊢
      rw [inductionHypothesis]
      cases wait <;> rfl

/-- An expired wait is live. -/
theorem hasLive_of_expired {timer : Timer} {index : Nat} (expired : timer[index]? = some .expired) :
    timer.hasLive = true :=
  List.any_eq_true.mpr ⟨.expired, List.mem_of_getElem? expired, rfl⟩

/-- A wait is live after a cancellation only when it had expired. -/
theorem hasLive_cancel_iff (timer : Timer) : (cancel timer).hasLive = true ↔ .expired ∈ timer := by
  unfold hasLive cancel
  rw [List.any_map, List.any_eq_true]
  constructor
  · rintro ⟨wait, member, live⟩
    cases wait with
    | armed => cases live
    | expired => exact member
    | aborted => cases live
  · exact fun member => ⟨.expired, member, rfl⟩

/-- Cancelling makes no wait live. -/
theorem hasLive_of_cancel {timer : Timer} (live : (cancel timer).hasLive = true) :
    timer.hasLive = true :=
  List.any_eq_true.mpr ⟨.expired, (hasLive_cancel_iff timer).mp live, rfl⟩

/-- Cancelling leaves no wait armed. -/
theorem armed_not_mem_cancel (timer : Timer) : Wait.armed ∉ cancel timer := by
  intro member
  rcases List.mem_map.mp member with ⟨wait, _, equal⟩
  cases wait <;> cases equal

/-- Expiring arms no wait. -/
theorem armed_not_mem_expire (timer : Timer) : Wait.armed ∉ expire timer := by
  intro member
  rcases List.mem_map.mp member with ⟨wait, _, equal⟩
  cases wait <;> cases equal

/-- A timer with a live wait has one that has expired, once its time has come. -/
theorem exists_expired {timer : Timer} (live : timer.hasLive = true) :
    ∃ index : Nat, (expire timer)[index]? = some Wait.expired := by
  rw [← hasLive_expire] at live
  rcases List.any_eq_true.mp live with ⟨wait, member, isLive⟩
  rcases List.mem_iff_getElem?.mp member with ⟨index, there⟩
  refine ⟨index, ?_⟩
  cases wait with
  | armed => exact absurd member (armed_not_mem_expire timer)
  | expired => exact there
  | aborted => cases isLive

/-- Dispatching a wait cannot make another one live. -/
theorem hasLive_eraseIdx {timer : Timer} (idle : timer.hasLive = false) (i : Nat) :
    hasLive (List.eraseIdx timer i) = false := by
  apply List.any_eq_false.mpr
  intro wait member
  exact List.any_eq_false.mp idle wait (List.mem_of_mem_eraseIdx member)

/-- Dispatching an aborted wait leaves the live ones. -/
theorem hasLive_eraseIdx_of_aborted {timer : Timer} {index : Nat}
    (aborted : timer[index]? = some .aborted) (live : timer.hasLive = true) :
    hasLive (List.eraseIdx timer index) = true := by
  rcases List.any_eq_true.mp live with ⟨wait, member, isLive⟩
  rcases List.mem_iff_getElem?.mp member with ⟨place, there⟩
  refine List.any_eq_true.mpr ⟨wait, List.mem_eraseIdx_iff_getElem?.mpr ⟨place, ?_, there⟩, isLive⟩
  intro same
  rw [same, aborted] at there
  rw [← Option.some.inj there] at isLive
  cases isLive

/-- A restarted timer has a live wait. -/
theorem hasLive_restart (timer : Timer) : (restart timer).hasLive = true :=
  List.any_eq_true.mpr ⟨.armed, List.mem_append_right _ (List.mem_singleton.mpr rfl), rfl⟩

end Timer

end Foundation
end Pppcpd
