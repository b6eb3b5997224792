import Pppcpd.Runtime.Pending

namespace Pppcpd

open Foundation Discovery

/-!
# Sessions and the offers they come from

A session is allocated for a PADR that finds its key pending, and the key is
pending since an answered PADI with the same link and cookie.  So the sessions
of a run are matched with distinct offers that had not expired.
-/

namespace Runtime

/-- The event makes a session object active under a key. -/
def Allocates (key : PPPOEKey) (ref : Nat) (now : Runtime) (event : Event) : Prop :=
  ∃ after, step now event = some after ∧ ¬ now.store.activeSessions.Holds ref ∧
    after.store.activeSessions.lookup key = some ref

/-- A session becomes active by a PADR for its link whose key pends. -/
theorem uses_of_allocates {now : Runtime} {event : Event} {key : PPPOEKey} {ref : Nat}
    (invariant : StoreInvariant now) (allocates : Allocates key ref now event) :
    ∃ conn, Uses conn now event ∧ key.mac = conn.mac ∧ key.outerVlan = conn.outerVlan ∧
      key.innerVlan = conn.innerVlan ∧ ref = now.sessions.length := by
  rcases allocates with ⟨after, taken, inactive, active⟩
  cases pending_cases taken with
  | undisturbed _ same => exact absurd (same.active ref ⟨key, active⟩) inactive
  | offered _ _ _ _ same =>
      rw [same] at active
      exact absurd ⟨key, active⟩ inactive
  | expired _ _ _ _ same =>
      rw [same] at active
      exact absurd ⟨key, active⟩ inactive
  | @used conn encap uses link _ _ allocated =>
      rcases allocated with ⟨result, allocated, store⟩
      have checked := @kept_checkSession _ PPPOESession.key now conn
      rcases allocateSession_cases (checked.invariant invariant) event.env encap allocated with
        full | ⟨id, _, _, made⟩
      · rw [store, full, checked.active] at active
        exact absurd ⟨key, active⟩ inactive
      · rw [store, made] at active
        dsimp only at active
        rw [Table.lookup_insert_eq] at active
        split at active
        · rename_i same
          have objects : (now.checkSession conn).1.sessions = now.sessions := by
            simp only [checkSession]
            split <;> rfl
          rw [objects] at active
          rw [same]
          exact ⟨conn, uses, link.1.symm, link.2.1.symm, link.2.2.symm,
            (Option.some.inj active).symm⟩
        · rw [checked.active] at active
          exact absurd ⟨key, active⟩ inactive

/-- An event makes one session active at most. -/
theorem allocates_once {now : Runtime} {event : Event} {key other : PPPOEKey} {ref otherRef : Nat}
    (invariant : StoreInvariant now) (allocates : Allocates key ref now event)
    (otherAllocates : Allocates other otherRef now event) : key = other ∧ ref = otherRef := by
  rcases uses_of_allocates invariant allocates with ⟨_, _, _, _, _, isLast⟩
  rcases uses_of_allocates invariant otherAllocates with ⟨_, _, _, _, _, otherIsLast⟩
  have same : ref = otherRef := isLast.trans otherIsLast.symm
  rcases allocates with ⟨after, taken, _, active⟩
  rcases otherAllocates with ⟨otherAfter, otherTaken, _, otherActive⟩
  rw [← Option.some.inj (taken.symm.trans otherTaken), ← same] at otherActive
  exact ⟨key_eq_of_holds (storeInvariant_step invariant taken) active otherActive, same⟩

/-- A matching of the sessions of a run with offers.  Both are given by the
positions of their steps. -/
structure MatchingLaw (past : List (Runtime × Event)) (now : Runtime) (offer : Nat -> Nat) :
    Prop where
  /-- Every active session was allocated by a step. -/
  allocated : forall ref, now.store.activeSessions.Holds ref ->
    ∃ position before event key, stepAt past position = some (before, event) ∧
      Allocates key ref before event
  /-- A step allocates one session. -/
  single : forall position before event key ref other otherRef,
    stepAt past position = some (before, event) -> Allocates key ref before event ->
    Allocates other otherRef before event -> key = other ∧ ref = otherRef
  /-- The step is a PADR whose key pends since the offer: a PADI that was
  answered with that key, and from then on no timer of the key fired. -/
  offered : forall position before event key ref, stepAt past position = some (before, event) ->
    Allocates key ref before event ->
      ∃ cookie, Uses ⟨key.mac, key.outerVlan, key.innerVlan, cookie⟩ before event ∧
        pendingTickets.Backed past ⟨key.mac, key.outerVlan, key.innerVlan, cookie⟩
          (offer position) position
  /-- No offer serves two sessions. -/
  injective : forall first second before otherBefore event otherEvent key other ref otherRef,
    stepAt past first = some (before, event) -> Allocates key ref before event ->
    stepAt past second = some (otherBefore, otherEvent) ->
    Allocates other otherRef otherBefore otherEvent ->
      offer first = offer second -> first = second

/-- Every active session of a run was allocated by one of its steps. -/
theorem allocated_of_run {start now : Runtime} {past : List (Runtime × Event)}
    (empty : start.store.activeSessions = ∅) (run : Run step anyStep start past now) (ref : Nat)
    (active : now.store.activeSessions.Holds ref) :
    ∃ position before event key, stepAt past position = some (before, event) ∧
      Allocates key ref before event := by
  induction run with
  | start =>
      rcases active with ⟨key, found⟩
      rw [empty] at found
      cases found
  | @next past now after event earlier permitted taken inductionHypothesis =>
      by_cases was : now.store.activeSessions.Holds ref
      · rcases inductionHypothesis was with ⟨position, before, cause, key, there, allocates⟩
        refine ⟨position, before, cause, key, ?_, allocates⟩
        rw [stepAt_earlier _ (lt_of_stepAt there)]
        exact there
      · rcases active with ⟨key, found⟩
        exact ⟨past.length, now, event, key, stepAt_last _ _, after, taken, was, found⟩

/-- The sessions of a run are matched with distinct offers. -/
theorem matchingLaw_of_run {start now : Runtime} {past : List (Runtime × Event)}
    (fresh : start.Fresh) (run : Run step anyStep start past now) :
    ∃ offer, MatchingLaw past now offer := by
  have tables : forall position before event, stepAt past position = some (before, event) ->
      StoreInvariant before := by
    intro position before event there
    have member := List.mem_reverse.mp (List.mem_of_getElem? there)
    rcases run.recorded member with ⟨earlier, after, shorter, _, _⟩
    exact storeInvariant_of_reachable fresh shorter.reachable
  have nothing : forall conn, ¬ pendingTickets.valid start conn := by
    intro conn pends
    dsimp only [pendingTickets] at pends
    rw [fresh.store] at pends
    exact absurd pends (Finset.notMem_empty conn)
  rcases pendingTickets_sound.matching nothing run with ⟨offer, backed, injective⟩
  refine ⟨offer, allocated_of_run (by rw [fresh.store]) run, ?_, ?_, ?_⟩
  · intro position before event key ref other otherRef there allocates otherAllocates
    exact allocates_once (tables position before event there) allocates otherAllocates
  · intro position before event key ref there allocates
    rcases uses_of_allocates (tables position before event there) allocates with
      ⟨conn, uses, mac, outer, inner, _⟩
    have same : (⟨key.mac, key.outerVlan, key.innerVlan, conn.cookie⟩ : PPPOEConn) = conn := by
      rw [mac, outer, inner]
    rw [← same] at uses
    exact ⟨conn.cookie, uses, backed position before event _ there uses⟩
  · intro first second before otherBefore event otherEvent key other ref otherRef there allocates
      otherThere otherAllocates same
    rcases uses_of_allocates (tables first before event there) allocates with ⟨conn, uses, _⟩
    rcases uses_of_allocates (tables second otherBefore otherEvent otherThere) otherAllocates with
      ⟨otherConn, otherUses, _⟩
    exact injective first second before otherBefore event otherEvent conn otherConn there uses
      otherThere otherUses same

/-- Two peers whose packets cross. -/
def crossing : List Event :=
  [discoveryEvent (sampleLink 1) PPPOECode.padi 0, discoveryEvent (sampleLink 2) PPPOECode.padi 0,
    discoveryEvent (sampleLink 2) PPPOECode.padr 0, discoveryEvent (sampleLink 1) PPPOECode.padr 0]

def crossed : Runtime :=
  Foundation.after step (sampleDaemon [.none] papPolicy) crossing (by decide +kernel)

theorem matchingLaw_after_crossing :
    crossed.sessions.length = 2 ∧ ∃ past offer, MatchingLaw past crossed offer := by
  have run : ∃ past, Run step anyStep (sampleDaemon [.none] papPolicy) past crossed :=
    run_after _ _ _ _ _ (permitted_anyStep _ _ _)
  rcases run with ⟨past, run⟩
  rcases matchingLaw_of_run (fresh_sampleDaemon [.none] papPolicy) run with ⟨offer, law⟩
  exact ⟨by decide +kernel, past, offer, law⟩

end Runtime

end Pppcpd
