import Pppcpd.Runtime.Frames

namespace Pppcpd

open Foundation

/-!
# Whose session a discovery packet can end

`processPPP` looks a session up by its full key, the addresses and VLANs of
the frame included.  `processPPPOE` hands the session id of a PADT to
`deallocateSession`, which searches by id alone.  So every discovery packet
leaves the sessions of other links alone, but for a PADT that names one.
-/

/-- Every active session of another link is still active, and its object is the
same. -/
def KeepsOtherLinks (encap : Encapsulation) (before after : Runtime) : Prop :=
  forall key ref session, before.store.activeSessions.lookup key = some ref ->
    before.sessions.deref ref = some session -> ¬ key.OnLink encap ->
      after.store.activeSessions.lookup key = some ref ∧ after.sessions.deref ref = some session

/-- The packet is a PADT, and the session registered under its id belongs to
another link. -/
def TearsForeignSession (runtime : Runtime) (encap : Encapsulation) (packet : Packet) : Prop :=
  packet.pppoeCode = PPPOECode.padt ∧
    ∃ key ref, runtime.store.activeSessions.lookup key = some ref ∧
      key.sessionId = packet.pppoeSessionId ∧ ¬ key.OnLink encap

namespace KeepsOtherLinks

variable {encap : Encapsulation} {before after : Runtime}

/-- Steps that change neither the map nor an object. -/
theorem of_same (active : after.store.activeSessions = before.store.activeSessions)
    (objects : after.sessions = before.sessions) : KeepsOtherLinks encap before after := by
  intro key ref session found present _
  rw [active, objects]
  exact ⟨found, present⟩

/-- A new session under a free id disturbs no other. -/
theorem of_allocated {env : Env} {result : Runtime × UInt16 × Option String}
    (invariant : StoreInvariant before)
    (allocated : before.allocateSession env encap = some result) :
    KeepsOtherLinks encap before result.1 := by
  rcases Runtime.allocateSession_cases invariant env encap allocated with
    full | ⟨id, free, _, entered⟩
  · rw [full]
    exact of_same rfl rfl
  · rw [entered]
    intro key ref session found present _
    have used : key.sessionId ∈ before.store.sessionSet := by
      rcases invariant.keyed key ref found with ⟨same, samePresent, keyed⟩
      exact (invariant.ids _).mpr
        ⟨key, ref, same, found, samePresent, congrArg PPPOEKey.sessionId keyed⟩
    have different : key ≠ .ofEncap encap id := by
      intro same
      rw [same] at used
      exact free used
    refine ⟨?_, ?_⟩
    · dsimp only
      rw [Table.lookup_insert_eq, if_neg different]
      exact found
    · dsimp only
      rw [Heap.deref_make_of_lt _ (Heap.lt_length_of_deref present)]
      exact present

/-- A teardown by id leaves every session with another id. -/
theorem of_deallocated (invariant : StoreInvariant before) {sid : UInt16}
    (own : forall key ref, before.store.activeSessions.lookup key = some ref ->
      key.sessionId = sid -> key.OnLink encap) :
    KeepsOtherLinks encap before (before.deallocateSession sid).1 := by
  by_cases member : sid ∈ before.store.sessionSet
  · rcases Runtime.deallocateSession_of_mem invariant member with
      ⟨gone, goneRef, id, goneFound, _, _, store⟩
    intro key ref session found present foreign
    have different : key ≠ gone := by
      intro same
      exact foreign (own key ref found (same ▸ id))
    refine ⟨?_, ?_⟩
    · rw [store]
      dsimp only
      rw [Table.lookup_erase_eq, if_neg different]
      exact found
    · rw [Runtime.deref_deallocateSession]
      exact present
  · rw [Runtime.deallocateSession_of_not_mem member]
    exact of_same rfl rfl

end KeepsOtherLinks

/-- In every reachable state a discovery packet leaves the sessions of other
links alone exactly when it is not a PADT for one of them. -/
theorem keepsOtherLinks_iff {start runtime after : Runtime} {env : Env} {encap : Encapsulation}
    {packet : Packet} {err : Option String} (fresh : start.Fresh)
    (reached : Reachable Runtime.step start runtime)
    (processed : runtime.processPPPOE env encap packet = some (after, err)) :
    KeepsOtherLinks encap runtime after ↔ ¬ TearsForeignSession runtime encap packet := by
  have invariant := Runtime.storeInvariant_of_reachable fresh reached
  rcases Runtime.processPPPOE_cases processed with
    ⟨notPadt, before, queue, queued, handled⟩ | ⟨padt, ended⟩
  · have kept : KeepsOtherLinks encap runtime before := by
      rcases handled with same | ⟨conn, pended⟩ | ⟨conn, checked⟩ | ⟨conn, result, allocated, entered⟩
      · rw [same]
        exact .of_same rfl rfl
      · rw [pended]
        unfold Runtime.pendeSession
        split <;> exact .of_same rfl rfl
      · rw [checked]
        unfold Runtime.checkSession
        split <;> exact .of_same rfl rfl
      · have checked : Kept PPPOESession.key runtime (runtime.checkSession conn).1 :=
          Runtime.kept_checkSession runtime conn
        have sessions : (runtime.checkSession conn).1.sessions = runtime.sessions := by
          unfold Runtime.checkSession
          split <;> rfl
        have allocation := KeepsOtherLinks.of_allocated (checked.invariant invariant) allocated
        rw [entered]
        intro key ref session found present foreign
        exact allocation key ref session (by rw [checked.active]; exact found)
          (by rw [sessions]; exact present) foreign
    rw [queued]
    exact ⟨fun _ tears => notPadt tears.1, fun _ => kept⟩
  · rw [ended]
    constructor
    · rintro kept ⟨_, key, ref, found, id, foreign⟩
      rcases invariant.keyed key ref found with ⟨session, present, keyed⟩
      have member : packet.pppoeSessionId ∈ runtime.store.sessionSet :=
        (invariant.ids _).mpr ⟨key, ref, session, found, present,
          (congrArg PPPOEKey.sessionId keyed).trans id⟩
      rcases Runtime.deallocateSession_of_mem invariant member with
        ⟨gone, goneRef, goneId, goneFound, _, _, store⟩
      have same := invariant.unique _ _ _ _ found goneFound (id.trans goneId.symm)
      have still := (kept key ref session found present foreign).1
      rw [store, same] at still
      dsimp only at still
      rw [Table.lookup_erase_eq, if_pos rfl] at still
      cases still
    · intro own
      apply KeepsOtherLinks.of_deallocated invariant
      intro key ref found id
      by_contra foreign
      exact own ⟨padt, key, ref, found, id, foreign⟩

/-- A daemon with one session, number 1 of link 1. -/
def oneSession : Runtime :=
  after Runtime.step (Runtime.sampleDaemon [] {}) (connect (sampleLink 1)) (by decide +kernel)

theorem oneSession_reachable : Reachable Runtime.step (Runtime.sampleDaemon [] {}) oneSession :=
  reachable_after _ _ _ _

/-- A PADT of link 2 for session 1, which belongs to link 1. -/
theorem foreignPadt_processed :
    oneSession.processPPPOE {} (sampleLink 2) (discoveryPacket PPPOECode.padt 1) =
      some ((oneSession.deallocateSession 1).1, none) := by
  rfl

/-- The other direction of the law is not empty: the PADT ends the session of
the other link. -/
theorem foreignPadt_ends_session :
    ¬ forall (runtime after : Runtime) (env : Env) (encap : Encapsulation) (packet : Packet)
        (err : Option String), Reachable Runtime.step (Runtime.sampleDaemon [] {}) runtime ->
      runtime.processPPPOE env encap packet = some (after, err) ->
        KeepsOtherLinks encap runtime after := by
  intro claim
  have kept := claim _ _ _ _ _ _ oneSession_reachable foreignPadt_processed
  have key : oneSession.store.activeSessions.lookup (.ofEncap (sampleLink 1) 1) = some 0 := by
    decide +kernel
  rcases (Runtime.storeInvariant_of_reachable (Runtime.fresh_sampleDaemon [] {})
    oneSession_reachable).keyed _ _ key with ⟨session, present, _⟩
  have still := (kept _ _ _ key present (by decide)).1
  have gone : (oneSession.deallocateSession 1).1.store.activeSessions.lookup
      (.ofEncap (sampleLink 1) 1) = none := by
    decide +kernel
  rw [gone] at still
  cases still

/-- The law at that PADT. -/
theorem keepsOtherLinks_iff_at_foreignPadt :
    KeepsOtherLinks (sampleLink 2) oneSession (oneSession.deallocateSession 1).1 ↔
      ¬ TearsForeignSession oneSession (sampleLink 2) (discoveryPacket PPPOECode.padt 1) :=
  keepsOtherLinks_iff (Runtime.fresh_sampleDaemon [] {}) oneSession_reachable foreignPadt_processed

end Pppcpd
