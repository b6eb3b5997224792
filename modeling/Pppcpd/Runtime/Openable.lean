import Pppcpd.Runtime.Recovery

namespace Pppcpd

open Foundation

/-!
# Which sessions can be opened

A session is in no dead end when its peer and the server of AAA can open it and
its automata hear the peer.  Which sessions these are is decided by two things:
whether the daemon has a protocol to authenticate by, and whether a
Terminate-Request has reached an Opened IPCP.
-/

namespace Runtime

variable {key : PPPOEKey} {ref : Nat} {runtime : Runtime}

/-- The session can be opened, and no automaton of it refuses all
Configure-Requests: neither LCP as a packet finds it, nor IPCP once started. -/
structure NoDeadEnd (key : PPPOEKey) (ref : Nat) (session : PPPOESession) (runtime : Runtime) :
    Prop where
  canOpen : CanOpen key ref runtime
  lcp : forall env, ¬ (runtime.lcpFsm env).RefusesAll (begun env runtime session)
  ipcp : session.ipcp.state ≠ .initial -> ¬ runtime.ipcpFsm.RefusesAll session

/-- The three stages one after the other. -/
theorem canOpen_of_admissible (holding : Holding key ref (Admissible ref) runtime) :
    CanOpen key ref runtime := by
  refine (forces_lcp holding).trans (fun later _ opened => ?_)
  rcases opened.session with ⟨session, found, isOpened, admissible⟩
  by_cases initial : session.ipcp.state = .initial
  · have ready : Holding key ref (fun current object => current = later.aaa ∧
        object.lcp.state = .opened ∧ object.encap = session.encap) later :=
      ⟨opened.invariant, opened.lives, session, found, rfl, isOpened, rfl⟩
    exact (forces_admission (admissible initial) ready).trans (fun _ _ there => forces_ipcp there)
  · exact forces_ipcp ⟨opened.invariant, opened.lives, session, found, isOpened, initial⟩

theorem noDeadEnd_of_holding {session : PPPOESession} (invariant : ProgressInvariant runtime)
    (lives : Lives key ref runtime) (found : runtime.sessions.deref ref = some session)
    (admissible : Admissible ref runtime.aaa session) : NoDeadEnd key ref session runtime := by
  have proceeds := invariant.sessions ref session ⟨key, lives⟩ found
  refine ⟨canOpen_of_admissible ⟨invariant, lives, session, found, admissible⟩, fun env => ?_,
    fun left => ?_⟩
  · have accepts := LCPFsm.accepts_peerRequest
      { hwaddr := runtime.hwaddr, lcpConf := runtime.lcpConf, random := env.random }
      (begun env runtime session) session.sessionId PPPProto.lcp (fun _ => 0)
    exact FsmClass.not_refusesAll_of_accepts (lcpFsm_lawful runtime env) accepts
      (negotiates_begun proceeds invariant.chosen env)
  · rcases proceeds.ipcp left with ⟨negotiates, named⟩
    rcases exists_getSession invariant.references ⟨key, lives⟩ found named with ⟨record, isSession⟩
    have accepts := IPCPFsm.accepts_peerRequest runtime.hwaddr isSession session.sessionId
      PPPProto.ipcp (fun _ => 0)
    exact FsmClass.not_refusesAll_of_accepts (ipcpFsm_lawful runtime) accepts negotiates

/-- A daemon without a protocol to authenticate by opens no session. -/
theorem not_canOpen_of_unchosen {start now : Runtime} (fresh : start.Fresh)
    (unchosen : start.lcpConf.authProtocol = none) (reached : Reachable step start now) :
    ¬ CanOpen key ref now := by
  intro canOpen
  rcases canOpen.exists_run (fun _ => ({}, fun _ => 0)) with
    ⟨past, later, played, lives, session, present, opened, _⟩
  rcases reached with ⟨before, run⟩
  have whole := run.append (played.weaken (fun _ _ _ => trivial))
  have blocked := (blockedInvariant_of_reachable fresh unchosen ⟨_, whole⟩).sessions ref session
    ⟨key, lives⟩ present
  unfold Blocked at blocked
  rw [opened] at blocked
  split at blocked
  · cases blocked
  · cases blocked

/-- While no Terminate-Request reaches an IPCP that is Opened, a session that
AAA would admit is in no dead end if and only if there is a protocol to
authenticate by. -/
theorem noDeadEnd_iff {start now : Runtime} {past : List (Runtime × Event)} {key : PPPOEKey}
    {ref : Nat} {session : PPPOESession} (fresh : start.Fresh)
    (run : Run step SparesIpcp start past now) (lives : Lives key ref now)
    (found : now.sessions.deref ref = some session) (admissible : Admissible ref now.aaa session) :
    NoDeadEnd key ref session now ↔ start.lcpConf.authProtocol ≠ none := by
  refine ⟨fun noDeadEnd unchosen => ?_, fun chosen => ?_⟩
  · exact not_canOpen_of_unchosen fresh unchosen run.reachable noDeadEnd.canOpen
  · exact noDeadEnd_of_holding (progressInvariant_of_run fresh chosen run) lives found admissible

/-- Subscribers who have only been given a session, one of a daemon that asks
nobody and one of a daemon that asks RADIUS. -/
def connected : Runtime :=
  Foundation.after step (sampleDaemon [.none] papPolicy) (connect (sampleLink 1)) (by decide +kernel)

def connectedRadius : Runtime :=
  Foundation.after step (sampleDaemon [.radius] papPolicy) (connect (sampleLink 1))
    (by decide +kernel)

theorem admissible_connected (session : PPPOESession) : Admissible 0 connected.aaa session :=
  fun _ => AAA.admits_of_none (by decide +kernel) (by decide +kernel) (by decide +kernel)

theorem admissible_connectedRadius (session : PPPOESession) :
    Admissible 0 connectedRadius.aaa session := by
  intro _
  have server : connectedRadius.aaa.auth.isSome = true := by decide +kernel
  rcases Option.isSome_iff_exists.mp server with ⟨client, isServer⟩
  have unused : ∀ client ∈ connectedRadius.aaa.auth, client.lastId + 1 ∉ client.callbacks := by
    decide +kernel
  have digest : connectedRadius.aaa.md5 = MD5.digest := rfl
  exact AAA.admits_of_radius (by decide +kernel) (by decide +kernel) isServer
    (unused client isServer) (fun text => by rw [digest]; exact MD5.length_digest text)
    (by decide +kernel) (by decide +kernel) (by decide +kernel)

/-- The way of the two subscribers. -/
theorem noDeadEnd_at_connected :
    (∃ session, connected.sessions.deref 0 = some session ∧ session.lcp.state = .initial ∧
      NoDeadEnd (.ofEncap (sampleLink 1) 1) 0 session connected) ∧
    ∃ session, connectedRadius.sessions.deref 0 = some session ∧ session.lcp.state = .initial ∧
      NoDeadEnd (.ofEncap (sampleLink 1) 1) 0 session connectedRadius := by
  have started : ∀ session ∈ connected.sessions.deref 0, session.lcp.state = .initial := by
    decide +kernel
  have startedRadius : ∀ session ∈ connectedRadius.sessions.deref 0, session.lcp.state = .initial := by
    decide +kernel
  rcases Option.isSome_iff_exists.mp
    (show (connected.sessions.deref 0).isSome = true by decide +kernel) with ⟨session, found⟩
  rcases Option.isSome_iff_exists.mp
    (show (connectedRadius.sessions.deref 0).isSome = true by decide +kernel) with ⟨other, present⟩
  rcases run_after step SparesIpcp (sampleDaemon [.none] papPolicy) (connect (sampleLink 1))
    (by decide +kernel) (by decide +kernel) with ⟨past, run⟩
  rcases run_after step SparesIpcp (sampleDaemon [.radius] papPolicy) (connect (sampleLink 1))
    (by decide +kernel) (by decide +kernel) with ⟨pastRadius, runRadius⟩
  refine ⟨⟨session, found, started session found, ?_⟩, other, present, startedRadius other present, ?_⟩
  · exact (noDeadEnd_iff (fresh_sampleDaemon _ _) run (by decide +kernel) found
      (admissible_connected session)).mpr (by decide)
  · exact (noDeadEnd_iff (fresh_sampleDaemon _ _) runRadius (by decide +kernel) present
      (admissible_connectedRadius other)).mpr (by decide)

/-! ## The dead ends are reached -/

/-- A stuck session cannot be opened. -/
theorem not_canOpen_of_stuck {session : PPPOESession} (references : ReferenceInvariant runtime)
    (found : runtime.sessions.deref ref = some session) (stuck : Stuck session) :
    ¬ CanOpen key ref runtime := by
  intro canOpen
  rcases canOpen.exists_run (fun _ => ({}, fun _ => 0)) with ⟨past, later, played, lives, there⟩
  rcases there with ⟨object, present, lcpOpened, ipcpOpened⟩
  have trapped : Trapped ref runtime := by
    refine ⟨references, ⟨session, found⟩, fun same _ shows => ?_⟩
    rw [found] at shows
    rw [← Option.some.inj shows]
    exact stuck
  have run : Run step anyStep runtime past later := played.weaken (fun _ _ _ => trivial)
  rcases (trapped_of_run trapped run).stuck object ⟨key, lives⟩ present with
    ⟨_, starting⟩ | stopping
  · rw [starting] at lcpOpened
    cases lcpOpened
  · rw [stopping] at ipcpOpened
    cases ipcpOpened

/-- An event that the condition rules out leaves a live session stuck. -/
theorem trapped_of_not_spares {now after : Runtime} {event : Event}
    (references : ReferenceInvariant now) (strikes : ¬ SparesIpcp now event)
    (taken : step now event = some after) : ∃ key ref, Lives key ref after ∧ Trapped ref after := by
  rcases event with ⟨env, input⟩
  cases input with
  | session encap packet =>
      unfold SparesIpcp at strikes
      dsimp only at strikes
      push Not at strikes
      rcases strikes with ⟨isIpcp, isTermReq, ref, lives, session, found, opened⟩
      rcases processIpcp_cases ((step_ipcp env lives isIpcp).symm.trans taken) with
        ⟨begins, out, there, received, outcome⟩
      have stillOpened : begins.ipcp.state = .opened := by
        rw [deref_ensureStarted env found] at there
        rw [← Option.some.inj there, (begun_outside env session).1]
        exact opened
      have stuck : Stuck out.session := stuck_of_termReq stillOpened isTermReq received
      have kept : Kept course ((now.ensureStarted env ref).apply ref out) after := by
        rcases outcome with ⟨_, _, up⟩ | ⟨_, quiet⟩
        · rw [up]
          exact kept_openDataPlane timerBlind_course _ ref out.session
        · rw [quiet]
          exact .refl _
      rcases kept.session (deref_apply_self there out) with ⟨later, present, same⟩
      refine ⟨frameKey encap packet, ref, ?_, referenceInvariant_step references taken, ⟨later, present⟩,
        fun object _ shows => ?_⟩
      · unfold Lives
        rw [kept.active]
        exact (congrArg (fun table => table.lookup (frameKey encap packet))
          (kept_ensureStarted lcpBlind_key now env ref).active).trans lives
      · rw [present] at shows
        rw [← Option.some.inj shows]
        exact stuck.of_course same
  | _ => exact absurd trivial strikes

/-- The documented mode without authentication. -/
def openPolicy : LCPPolicy := { authCHAP := false, authPAP := false }

/-- The subscriber of that mode after his first packets of LCP. -/
def unauthenticated : Runtime :=
  Foundation.after step (sampleDaemon [.none] openPolicy)
    (connect (sampleLink 1) ++ openLcp (sampleLink 1) 1) (by decide +kernel)

theorem runs_halted : (execute step (sampleDaemon [.none] papPolicy)
    (establish ++ [sessionEvent (sampleLink 1) 1 PPPProto.ipcp
      (pppHdr LCPCode.termReq 1 4)])).isSome = true := by
  decide +kernel

/-- A subscriber who has terminated IPCP and stays. -/
def halted : Runtime :=
  Foundation.after step (sampleDaemon [.none] papPolicy)
    (establish ++ [sessionEvent (sampleLink 1) 1 PPPProto.ipcp (pppHdr LCPCode.termReq 1 4)])
    runs_halted

/-- Both dead ends: the session lives, cannot be opened, and refuses every
Configure-Request. -/
theorem deadEnds_reached :
    (Reachable step (sampleDaemon [.none] openPolicy) unauthenticated ∧
      Lives (.ofEncap (sampleLink 1) 1) 0 unauthenticated ∧
      ¬ CanOpen (.ofEncap (sampleLink 1) 1) 0 unauthenticated ∧
      ∀ session ∈ unauthenticated.sessions.deref 0, forall env,
        (unauthenticated.lcpFsm env).RefusesAll session) ∧
    Reachable step (sampleDaemon [.none] papPolicy) halted ∧
      Lives (.ofEncap (sampleLink 1) 1) 0 halted ∧
      ¬ CanOpen (.ofEncap (sampleLink 1) 1) 0 halted ∧
      ∀ session ∈ halted.sessions.deref 0, halted.ipcpFsm.RefusesAll session := by
  have unauthenticatedReached := reachable_after step (sampleDaemon [.none] openPolicy)
    (connect (sampleLink 1) ++ openLcp (sampleLink 1) 1) (by decide +kernel)
  have haltedReached := reachable_after step (sampleDaemon [.none] papPolicy)
    (establish ++ [sessionEvent (sampleLink 1) 1 PPPProto.ipcp (pppHdr LCPCode.termReq 1 4)])
    runs_halted
  have starting : ∀ session ∈ unauthenticated.sessions.deref 0, session.lcp.state = .starting := by
    decide +kernel
  have stopping : ∀ session ∈ halted.sessions.deref 0, session.ipcp.state = .stopping := by
    decide +kernel
  refine ⟨⟨unauthenticatedReached, by decide +kernel, ?_, fun session there env => ?_⟩,
    haltedReached, by decide +kernel, ?_, fun session there => ?_⟩
  · exact not_canOpen_of_unchosen (fresh_sampleDaemon _ _) (by decide) unauthenticatedReached
  · exact FsmClass.refusesAll_of_deadEnd (.inl (starting session there))
  · have present : (halted.sessions.deref 0).isSome = true := by decide +kernel
    rcases Option.isSome_iff_exists.mp present with ⟨session, found⟩
    have references : ReferenceInvariant halted :=
      haltedReached.invariant (referenceInvariant_fresh (fresh_sampleDaemon _ _))
        (fun _ _ _ here taken => referenceInvariant_step here taken)
    exact not_canOpen_of_stuck references found (.inr (stopping session found))
  · exact FsmClass.refusesAll_of_deadEnd (.inr (stopping session there))

end Runtime

end Pppcpd
