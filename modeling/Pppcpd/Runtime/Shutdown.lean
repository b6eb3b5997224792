import Pppcpd.Aaa.Supply
import Pppcpd.Runtime.Watch

namespace Pppcpd

open Foundation

/-!
# The shutdown

`cleanup` empties the session tables and stops every AAA session.  A session object goes
with its last holder, and only its destructor deletes the session from VPP.  The waits of
an echo timer are holders too.  So the sessions that VPP forwards for are just those
that the shutdown does not delete.
-/

namespace VPP

variable {owner who : Nat} {member : Mac × UInt16}

/-- The calls about one session object are no commands for another one. -/
theorem commands_deprovisionDp_of_ne (session : PPPOESession) (vpp : VPP) (other : owner ≠ who) :
    (vpp.deprovisionDp owner session).commands who = vpp.commands who := by
  have cleared := (Aside.dumpUnnumbered session.ifindex vpp).trans
    (Aside.foldl_setUnnumbered (vpp.dumpUnnumbered session.ifindex).2 _)
  refine Eq.trans ?_ (cleared.commands who)
  unfold deprovisionDp addPppoeSession
  dsimp only
  split
  · unfold commands called
    simp [command]
  · split <;> (unfold commands called; simp [command, other])

theorem mem_held_deprovisionDp (session : PPPOESession) (vpp : VPP)
    (other : member ≠ (session.encap.sourceMac, session.sessionId)) :
    member ∈ (vpp.deprovisionDp owner session).held ↔ member ∈ vpp.held := by
  have cleared := (Aside.dumpUnnumbered session.ifindex vpp).trans
    (Aside.foldl_setUnnumbered (vpp.dumpUnnumbered session.ifindex).2 _)
  rw [← cleared.held]
  unfold deprovisionDp addPppoeSession
  dsimp only
  split
  · rfl
  · split
    · exact ⟨Finset.mem_of_mem_erase, fun held => Finset.mem_erase.mpr ⟨other, held⟩⟩
    · rfl

end VPP

namespace Runtime

variable {ref : Nat} {now before after later : Runtime} {member : Mac × UInt16}

/-- Nothing happens to a session object, nor to the session in VPP that it stands for. -/
structure Leaves (ref : Nat) (member : Mac × UInt16) (before after : Runtime) : Prop where
  alive : after.sessions.isAlive ref = before.sessions.isAlive ref
  commands : after.vpp.commands ref = before.vpp.commands ref
  held : member ∈ after.vpp.held ↔ member ∈ before.vpp.held

theorem Leaves.trans (left : Leaves ref member before after) (right : Leaves ref member after later) :
    Leaves ref member before later :=
  ⟨right.alive.trans left.alive, right.commands.trans left.commands, right.held.trans left.held⟩

/-- An object other than this one, and of another session. -/
def IsOther (ref : Nat) (member : Mac × UInt16) (runtime : Runtime) (other : Nat) : Prop :=
  forall session, runtime.sessions.deref other = some session -> session.timer = [] ->
    other ≠ ref ∧ member ≠ (session.encap.sourceMac, session.sessionId)

theorem leaves_collect {other : Nat} (apart : IsOther ref member now other) :
    Leaves ref member now (now.collect other) := by
  unfold collect
  split
  · exact ⟨rfl, rfl, Iff.rfl⟩
  · rename_i session found
    split
    · rename_i last
      rcases apart session found last.2.2 with ⟨different, unlike⟩
      refine ⟨?_, VPP.commands_deprovisionDp_of_ne session now.vpp different,
        VPP.mem_held_deprovisionDp session now.vpp unlike⟩
      dsimp only
      rw [Heap.isAlive_destroy, if_neg (Ne.symm different)]
    · exact ⟨rfl, rfl, Iff.rfl⟩

theorem leaves_foldl_collect {refs : List Nat}
    (apart : ∀ other ∈ refs, IsOther ref member now other) :
    Leaves ref member now (refs.foldl (fun runtime ref => runtime.collect ref) now) := by
  induction refs generalizing now with
  | nil => exact ⟨rfl, rfl, Iff.rfl⟩
  | cons first rest inductionHypothesis =>
      refine (leaves_collect (apart first List.mem_cons_self)).trans (inductionHypothesis ?_)
      intro other inRest session found
      exact apart other (List.mem_cons_of_mem _ inRest) session ((deref_collect now first other).symm.trans found)

/-- A destroyed object is not made again. -/
theorem isAlive_collect (other : Nat) (gone : now.sessions.isAlive ref = false) :
    (now.collect other).sessions.isAlive ref = false := by
  unfold collect
  split
  · exact gone
  · split
    · dsimp only
      rw [Heap.isAlive_destroy, gone, ite_self]
    · exact gone

theorem isAlive_foldl_collect (refs : List Nat) (gone : now.sessions.isAlive ref = false) :
    (refs.foldl (fun runtime ref => runtime.collect ref) now).sessions.isAlive ref = false := by
  induction refs generalizing now with
  | nil => exact gone
  | cons first rest inductionHypothesis => exact inductionHypothesis (isAlive_collect first gone)

/-- With no session active, an object without waits is destroyed. -/
theorem collected {refs : List Nat} {session : PPPOESession} (inactive : now.store.activeSessions = ∅)
    (member : ref ∈ refs) (found : now.sessions.deref ref = some session) (idle : session.timer = []) :
    (refs.foldl (fun runtime ref => runtime.collect ref) now).sessions.isAlive ref = false := by
  induction refs generalizing now with
  | nil => cases member
  | cons first rest inductionHypothesis =>
      rcases List.mem_cons.mp member with here | there
      · refine isAlive_foldl_collect rest ?_
        have unheld : ¬ now.isActive ref = true := by
          rw [isActive_iff, inactive]
          rintro ⟨key, holds⟩
          cases holds
        rw [← here]
        show (now.collect ref).sessions.isAlive ref = false
        unfold collect
        rw [found]
        dsimp only
        split
        · dsimp only
          rw [Heap.isAlive_destroy, if_pos rfl]
        · rename_i kept
          exact Bool.eq_false_iff.mpr (fun alive => kept ⟨alive, unheld, idle⟩)
      · refine inductionHypothesis ?_ there ((deref_collect now first ref).trans found)
        rw [collect_store]
        exact inactive

/-- Two active sessions are of one object, or they have different ids. -/
theorem isOther_of_active {session : PPPOESession} {other : Nat} (tables : StoreInvariant now)
    (active : now.store.activeSessions.Holds ref) (found : now.sessions.deref ref = some session)
    (waits : session.timer ≠ []) (otherActive : now.store.activeSessions.Holds other) :
    IsOther ref (session.encap.sourceMac, session.sessionId) now other := by
  intro otherSession otherFound idle
  have different : other ≠ ref := by
    intro same
    rw [same, found] at otherFound
    exact waits (Option.some.inj otherFound ▸ idle)
  refine ⟨different, fun same => different ?_⟩
  rcases active with ⟨key, holds⟩
  rcases otherActive with ⟨otherKey, otherHolds⟩
  rcases tables.keyed key ref holds with ⟨_, present, keyed⟩
  rcases tables.keyed otherKey other otherHolds with ⟨_, otherPresent, otherKeyed⟩
  rw [← Option.some.inj (found.symm.trans present)] at keyed
  rw [← Option.some.inj (otherFound.symm.trans otherPresent)] at otherKeyed
  have ids : key.sessionId = otherKey.sessionId := by
    rw [← keyed, ← otherKeyed]
    exact congrArg Prod.snd same
  rw [← tables.unique key otherKey ref other holds otherHolds ids, holds] at otherHolds
  exact (Option.some.inj otherHolds).symm

/-- The daemon after the tables were cleared, and before the session objects go. -/
def cleared (runtime : Runtime) : Runtime :=
  { runtime with
    aaa := runtime.aaa.stopAllSessions runtime.counters
    store := { runtime.store with activeSessions := ∅, sessionSet := ∅, pendingSession := ∅ } }

theorem cleanup_eq (runtime : Runtime) : runtime.cleanup =
    runtime.store.activeSessions.values.foldl (fun runtime ref => runtime.collect ref)
      runtime.cleared := rfl

/-- The shutdown ends every session and every AAA session, in every reachable state.  It
destroys the session objects that never had a wait, and asks nothing of VPP about a
session whose IPCP is Opened. -/
theorem shutdown_leaves_subscribers {start : Runtime} (fresh : start.Fresh)
    (reached : Reachable happen start now) :
    now.cleanup.store.activeSessions = ∅ ∧ now.cleanup.aaa.sessions = ∅ ∧
      (forall ref session, now.Up ref session ->
        Leaves ref (session.encap.sourceMac, session.sessionId) now now.cleanup) ∧
      forall ref session, now.store.activeSessions.Holds ref ->
        now.sessions.deref ref = some session -> session.timer = [] ->
          now.cleanup.sessions.isAlive ref = false := by
  have tables := (referenceInvariant_of_reachable fresh reached).tables
  have watched := watched_of_reachable fresh reached
  have active {ref : Nat} (member : ref ∈ now.store.activeSessions.values) :
      now.store.activeSessions.Holds ref := Table.mem_values_iff.mp member
  rw [cleanup_eq]
  refine ⟨(@kept_foldl_collect _ reference _ _).active, ?_, ?_, ?_⟩
  · rw [aaa_foldl_collect]
    exact AAA.sessions_stopAllSessions now.aaa now.counters
  · rintro ref session ⟨isActive, found, opened⟩
    have live := watched ref session ⟨isActive, found, opened⟩
    have waits : session.timer ≠ [] := by
      intro idle
      rw [idle] at live
      cases live
    have left : Leaves ref (session.encap.sourceMac, session.sessionId) now now.cleared :=
      ⟨rfl, rfl, Iff.rfl⟩
    refine left.trans (leaves_foldl_collect (fun other member => ?_))
    exact show IsOther ref _ now other from
      isOther_of_active tables isActive found waits (active member)
  · intro ref session isActive found idle
    exact collected rfl (Table.mem_values_iff.mpr isActive) found idle

/-- A subscriber is up when the daemon is stopped, and VPP keeps his session. -/
theorem shutdown_leaves_subscribers_at_settled :
    settled.cleanup.store.activeSessions = ∅ ∧
      ((sampleLink 1).sourceMac, 1) ∈ settled.cleanup.vpp.held := by
  have opened : ∃ session, settled.Up 0 session ∧
      (session.encap.sourceMac, session.sessionId) = ((sampleLink 1).sourceMac, 1) := by
    have isOpen : (settled.sessions.deref 0).any (fun session =>
        decide (session.ipcp.state = .opened ∧
          (session.encap.sourceMac, session.sessionId) = ((sampleLink 1).sourceMac, 1))) = true := by
      decide +kernel
    rcases (Option.any_eq_true _ _).mp isOpen with ⟨session, found, holds⟩
    have both := of_decide_eq_true holds
    exact ⟨session, ⟨by decide +kernel, found, both.1⟩, both.2⟩
  rcases opened with ⟨session, up, named⟩
  have law := shutdown_leaves_subscribers (fresh_sampleDaemon [.none] papPolicy)
    (show Reachable happen _ settled from reachable_after _ _ _ _)
  refine ⟨law.1, ?_⟩
  have kept := (law.2.2.1 0 session up).held
  rw [named] at kept
  exact kept.mpr (by decide +kernel)

end Runtime

end Pppcpd
