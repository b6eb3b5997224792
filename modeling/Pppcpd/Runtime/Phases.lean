import Pppcpd.Aaa.Requests
import Pppcpd.Runtime.Answers
import Pppcpd.Runtime.References

namespace Pppcpd

open Foundation

/-!
# The order of the phases

A link should be established by LCP, then authenticated by the protocol that is
configured, and only then be given an address by IPCP.  LCP starts the next
phase when it opens, but the handlers of PAP and CHAP do not look whether it has:
they take a request in any phase and by either protocol.
-/

/-- The protocol by which LCP lets the peer authenticate. -/
def LCPPolicy.authProtocol (policy : LCPPolicy) : Option AuthProtocol :=
  if policy.authCHAP then some .chap else if policy.authPAP then some .pap else none

namespace Runtime

/-- LCP of the session object is Opened. -/
def LcpOpened (runtime : Runtime) (ref : Nat) : Prop :=
  ∃ session ∈ runtime.sessions.deref ref, session.lcp.state = .opened

instance (runtime : Runtime) (ref : Nat) : Decidable (LcpOpened runtime ref) :=
  inferInstanceAs (Decidable (∃ session ∈ runtime.sessions.deref ref, session.lcp.state = .opened))

/-- LCP of the session object is Opened, or it was in a recorded state. -/
def Reached (past : List (Runtime × Event)) (now : Runtime) (ref : Nat) : Prop :=
  LcpOpened now ref ∨ ∃ taken, taken ∈ past ∧ LcpOpened taken.1 ref

/-- A callback reported a success to the session object. -/
def Succeeded (log : List Observation) (callback : AAACallback) : Prop :=
  ∃ call : CallbackCall, .callback call ∈ log ∧ call.callback = callback ∧ call.err = none

/-- What has to be in the log before an observation: a request is by the
configured protocol, and one by CHAP answers a challenge that was sent, and a
success is for a request. -/
def Follows (policy : LCPPolicy) (earlier : List Observation) : Observation -> Prop
  | .challenge _ _ => True
  | .request ref protocol value =>
      policy.authProtocol = some protocol ∧ (protocol = .chap -> .challenge ref value ∈ earlier)
  | .callback call =>
      call.err = none ->
        ∃ value, .request call.callback.session call.callback.protocol value ∈ earlier

/-- Every observation of the log follows what it has to. -/
def LogOrdered (policy : LCPPolicy) : List Observation -> Prop
  | [] => True
  | observation :: earlier => Follows policy earlier observation ∧ LogOrdered policy earlier

/-- IPCP has left Initial only for a session whose LCP has been Opened and that
was authenticated as configured, and only requests by the configured protocol
have reached AAA. -/
structure PhaseOrder (past : List (Runtime × Event)) (now : Runtime) : Prop where
  established : forall ref session, now.sessions.deref ref = some session ->
    session.ipcp.state ≠ .initial -> Reached past now ref
  authenticated : forall ref session protocol, now.sessions.deref ref = some session ->
    session.ipcp.state ≠ .initial -> now.lcpConf.authProtocol = some protocol ->
      Succeeded now.log ⟨ref, protocol⟩
  log : LogOrdered now.lcpConf now.log

/-- A request to authenticate that a session has not answered with a success
before arrives while LCP is Opened, and by the configured protocol. -/
def InPhase (runtime : Runtime) (event : Event) : Prop :=
  match event.input with
  | .session encap packet =>
      ∀ ref ∈ runtime.store.activeSessions.lookup (frameKey encap packet),
        ∀ session ∈ runtime.sessions.deref ref, forall protocol : AuthProtocol,
          IsAuthRequest packet protocol -> protocol.started session = false ->
            session.lcp.state = .opened ∧ runtime.lcpConf.authProtocol = some protocol
  | _ => True

instance (runtime : Runtime) (event : Event) : Decidable (InPhase runtime event) := by
  match event with
  | ⟨env, input⟩ =>
    induction input using Input.casesOn <;> unfold InPhase <;> infer_instance

/-! ## The invariant -/

/-- What the phases of one session object have to do with the log. -/
structure Ordered (policy : LCPPolicy) (log : List Observation) (reached : Prop) (ref : Nat)
    (session : PPPOESession) : Prop where
  challenged : session.lcp.state = .opened -> policy.authCHAP = true ->
    .challenge ref session.chap.challenge ∈ log
  started : forall protocol : AuthProtocol, protocol.started session = true ->
    session.ipcp.state ≠ .initial
  running : session.ipcp.state ≠ .initial -> reached ∧
    forall protocol, policy.authProtocol = some protocol -> Succeeded log ⟨ref, protocol⟩

/-- A request with the callback was handed to AAA in its phase. -/
structure Asked (runtime : Runtime) (reached : Nat -> Prop) (callback : AAACallback) : Prop where
  reached : reached callback.session
  configured : runtime.lcpConf.authProtocol = some callback.protocol
  logged : ∃ value, .request callback.session callback.protocol value ∈ runtime.log

structure PhaseInvariant (reached : Nat -> Prop) (runtime : Runtime) : Prop where
  sessions : forall ref session, runtime.sessions.deref ref = some session ->
    Ordered runtime.lcpConf runtime.log (reached ref) ref session
  requests : forall callback, runtime.aaa.Awaits callback -> Asked runtime reached callback
  log : LogOrdered runtime.lcpConf runtime.log

/-- What of a session the invariant speaks about. -/
structure PhaseView where
  opened : Bool
  papStarted : Bool
  chapStarted : Bool
  challenge : Bytes
  initial : Bool

def phase (session : PPPOESession) : PhaseView :=
  ⟨decide (session.lcp.state = .opened), session.auth.started, session.chap.started,
    session.chap.challenge, decide (session.ipcp.state = .initial)⟩

/-- LCP shows in the phases only by being Opened. -/
theorem phase_of_lcp {first second : PPPOESession}
    (same : LCPFsm.outside first = LCPFsm.outside second)
    (opened : first.lcp.state = .opened ↔ second.lcp.state = .opened) : phase first = phase second := by
  have auth := congrArg PPPOESession.auth same
  have chap := congrArg PPPOESession.chap same
  have ipcp := congrArg PPPOESession.ipcp same
  dsimp only [LCPFsm.outside] at auth chap ipcp
  unfold phase
  rw [auth, chap, ipcp, decide_eq_decide.mpr opened]

/-- IPCP shows in the phases only by being Initial. -/
theorem phase_of_ipcp {first second : PPPOESession}
    (same : IPCPFsm.outside first = IPCPFsm.outside second)
    (initial : first.ipcp.state = .initial ↔ second.ipcp.state = .initial) :
    phase first = phase second := by
  have auth := congrArg PPPOESession.auth same
  have chap := congrArg PPPOESession.chap same
  have lcp := congrArg PPPOESession.lcp same
  dsimp only [IPCPFsm.outside] at auth chap lcp
  unfold phase
  rw [auth, chap, lcp, decide_eq_decide.mpr initial]

theorem Ordered.of_phase {policy : LCPPolicy} {log : List Observation} {reached : Prop} {ref : Nat}
    {old session : PPPOESession} (same : phase session = phase old)
    (ordered : Ordered policy log reached ref old) : Ordered policy log reached ref session := by
  have opened : session.lcp.state = .opened ↔ old.lcp.state = .opened :=
    decide_eq_decide.mp (congrArg PhaseView.opened same)
  have initial : session.ipcp.state = .initial ↔ old.ipcp.state = .initial :=
    decide_eq_decide.mp (congrArg PhaseView.initial same)
  have challenge : session.chap.challenge = old.chap.challenge := congrArg PhaseView.challenge same
  refine ⟨fun isOpened chap => ?_, fun protocol was => ?_, fun left => ?_⟩
  · rw [challenge]
    exact ordered.challenged (opened.mp isOpened) chap
  · have before : protocol.started old = true := by
      cases protocol with
      | pap => exact (congrArg PhaseView.papStarted same).symm.trans was
      | chap => exact (congrArg PhaseView.chapStarted same).symm.trans was
    exact fun is => ordered.started protocol before (initial.mp is)
  · exact ordered.running (fun is => left (initial.mpr is))

theorem Succeeded.mono {log longer : List Observation} {callback : AAACallback}
    (more : log ⊆ longer) (succeeded : Succeeded log callback) : Succeeded longer callback := by
  rcases succeeded with ⟨call, member, bound, success⟩
  exact ⟨call, more member, bound, success⟩

theorem Ordered.mono {policy : LCPPolicy} {log longer : List Observation} {reached wider : Prop}
    {ref : Nat} {session : PPPOESession} (more : log ⊆ longer) (implied : reached -> wider)
    (ordered : Ordered policy log reached ref session) : Ordered policy longer wider ref session :=
  ⟨fun opened chap => more (ordered.challenged opened chap), ordered.started,
    fun left => ⟨implied (ordered.running left).1,
      fun protocol configured => ((ordered.running left).2 protocol configured).mono more⟩⟩

/-- The invariant goes on to a state in which each session looks as before or
has its phases in order, and each request was known or was asked in its phase. -/
theorem PhaseInvariant.extend {reached wider : Nat -> Prop} {before after : Runtime}
    (invariant : PhaseInvariant reached before) (policy : after.lcpConf = before.lcpConf)
    (more : before.log ⊆ after.log) (implied : forall ref, reached ref -> wider ref)
    (sessions : forall ref session, after.sessions.deref ref = some session ->
      (∃ old, before.sessions.deref ref = some old ∧ phase session = phase old) ∨
        Ordered after.lcpConf after.log (wider ref) ref session)
    (requests : forall callback, after.aaa.Awaits callback ->
      before.aaa.Awaits callback ∨ Asked after wider callback)
    (log : LogOrdered after.lcpConf after.log) : PhaseInvariant wider after where
  sessions := by
    intro ref session present
    rcases sessions ref session present with ⟨old, found, same⟩ | ordered
    · rw [policy]
      exact ((invariant.sessions ref old found).of_phase same).mono more (implied ref)
    · exact ordered
  requests := by
    intro callback awaits
    rcases requests callback awaits with known | asked
    · have old := invariant.requests callback known
      rcases old.logged with ⟨value, member⟩
      exact ⟨implied _ old.reached, policy ▸ old.configured, value, more member⟩
    · exact asked
  log := log

theorem PhaseInvariant.mono {reached wider : Nat -> Prop} {runtime : Runtime}
    (implied : forall ref, reached ref -> wider ref) (invariant : PhaseInvariant reached runtime) :
    PhaseInvariant wider runtime :=
  invariant.extend rfl (List.Subset.refl _) implied
    (fun _ session present => .inl ⟨session, present, rfl⟩) (fun _ awaits => .inl awaits) invariant.log

/-! ## Steps that change no phase -/

/-- Every session keeps its phases or is new, and neither the log nor the
requests to AAA grow. -/
structure Calm (before after : Runtime) : Prop where
  sessions : forall ref session, after.sessions.deref ref = some session ->
    (∃ old, before.sessions.deref ref = some old ∧ phase session = phase old) ∨
      session.lcp.state ≠ .opened ∧ (forall protocol : AuthProtocol, protocol.started session = false) ∧
        session.ipcp.state = .initial
  log : after.log = before.log
  policy : after.lcpConf = before.lcpConf
  requests : forall callback, after.aaa.Awaits callback -> before.aaa.Awaits callback

theorem Calm.invariant {reached : Nat -> Prop} {before after : Runtime} (calm : Calm before after)
    (invariant : PhaseInvariant reached before) : PhaseInvariant reached after := by
  refine invariant.extend calm.policy ?_ (fun _ is => is) ?_
    (fun callback awaits => .inl (calm.requests callback awaits)) ?_
  · rw [calm.log]
    exact List.Subset.refl _
  · intro ref session present
    rcases calm.sessions ref session present with old | ⟨notOpened, notStarted, initial⟩
    · exact .inl old
    · refine .inr ⟨fun opened => absurd opened notOpened, fun protocol was => ?_,
        fun left => absurd initial left⟩
      rw [notStarted protocol] at was
      cases was
  · rw [calm.log, calm.policy]
    exact invariant.log

namespace Calm

theorem of_kept {before after : Runtime} (kept : Kept phase before after)
    (log : after.log = before.log) (policy : after.lcpConf = before.lcpConf)
    (auth : after.aaa.auth = before.aaa.auth) : Calm before after := by
  refine ⟨fun ref session present => .inl ?_, log, policy, fun callback => .of_auth auth⟩
  rcases kept.symm.session present with ⟨old, found, same⟩
  exact ⟨old, found, same.symm⟩

theorem refl (runtime : Runtime) : Calm runtime runtime := of_kept (.refl runtime) rfl rfl rfl

theorem trans {first second third : Runtime} (left : Calm first second)
    (right : Calm second third) : Calm first third := by
  refine ⟨fun ref session present => ?_, right.log.trans left.log, right.policy.trans left.policy,
    fun callback awaits => left.requests callback (right.requests callback awaits)⟩
  rcases right.sessions ref session present with ⟨middle, there, same⟩ | new
  · rcases left.sessions ref middle there with ⟨old, found, earlier⟩ | ⟨notOpened, notStarted, initial⟩
    · exact .inl ⟨old, found, same.trans earlier⟩
    · have opened : session.lcp.state = .opened ↔ middle.lcp.state = .opened :=
        decide_eq_decide.mp (congrArg PhaseView.opened same)
      have still : session.ipcp.state = .initial ↔ middle.ipcp.state = .initial :=
        decide_eq_decide.mp (congrArg PhaseView.initial same)
      refine .inr ⟨fun is => notOpened (opened.mp is), fun protocol => ?_, still.mpr initial⟩
      cases protocol with
      | pap => exact (congrArg PhaseView.papStarted same).trans (notStarted .pap)
      | chap => exact (congrArg PhaseView.chapStarted same).trans (notStarted .chap)
  · exact .inr new

theorem collect (runtime : Runtime) (ref : Nat) : Calm runtime (runtime.collect ref) := by
  refine of_kept (kept_collect runtime ref) ?_ ?_ (by rw [collect_aaa])
  · simp only [Runtime.collect]
    split
    · rfl
    · split <;> rfl
  · simp only [Runtime.collect]
    split
    · rfl
    · split <;> rfl

/-- The end of a session leaves what its object holds. -/
theorem deallocateSession (runtime : Runtime) (sid : UInt16) :
    Calm runtime (runtime.deallocateSession sid).1 := by
  simp only [Runtime.deallocateSession]
  split
  · split
    · rename_i key ref _
      have removed : Calm runtime (runtime.removeSession key ref) := by
        simp only [removeSession]
        split
        · exact refl runtime
        · rename_i session _
          refine trans ?_ (collect _ ref)
          exact ⟨fun other object present => .inl ⟨object, present, rfl⟩, rfl, rfl,
            fun callback => .of_auth (AAA.stopSession_auth _ _ _)⟩
      exact removed.trans ⟨fun other object present => .inl ⟨object, present, rfl⟩, rfl, rfl,
        fun _ awaits => awaits⟩
    · exact ⟨fun other object present => .inl ⟨object, present, rfl⟩, rfl, rfl,
        fun _ awaits => awaits⟩
  · exact refl runtime

/-- A new session is in no phase yet. -/
theorem allocateSession {runtime : Runtime} (tables : StoreInvariant runtime) {env : Env}
    {encap : Encapsulation} {result : Runtime × UInt16 × Option String}
    (allocated : runtime.allocateSession env encap = some result) : Calm runtime result.1 := by
  rcases allocateSession_cases tables env encap allocated with full | ⟨id, _, _, entered⟩
  · rw [full]
    exact refl runtime
  · rw [entered]
    refine ⟨fun ref session present => ?_, rfl, rfl, fun _ awaits => awaits⟩
    dsimp only at present
    rw [Heap.deref_make] at present
    split at present
    · rw [← Option.some.inj present]
      refine .inr ⟨?_, fun protocol => ?_, rfl⟩
      · intro opened
        cases opened
      · cases protocol <;> rfl
    · exact .inl ⟨session, present, rfl⟩

theorem timerBlind_phase : TimerBlind phase := ⟨fun _ _ => rfl, fun _ _ => rfl⟩

/-- LCP is started, but not opened. -/
theorem kept_ensureStarted (runtime : Runtime) (env : Env) (ref : Nat) :
    Kept phase runtime (runtime.ensureStarted env ref) := by
  refine kept_withSession runtime ref (fun session => ?_)
  split
  · rfl
  · have same : phase ((runtime.lcpFsm env).start session).session = phase session :=
      phase_of_lcp ((lcpFsm_leaves runtime env).start session)
        ((lcpFsm_lawful runtime env).start_opened_iff session)
    exact same

theorem ensureStarted (runtime : Runtime) (env : Env) (ref : Nat) :
    Calm runtime (runtime.ensureStarted env ref) := by
  refine of_kept (kept_ensureStarted runtime env ref) ?_ ?_ ?_
  all_goals
    simp only [Runtime.ensureStarted, withSession]
    split <;> rfl

/-- IPCP neither leaves Initial by a packet nor enters it. -/
theorem processIpcp {runtime after : Runtime} {ref : Nat} {packet : Packet}
    (processed : runtime.processIpcp ref packet = some after) : Calm runtime after := by
  rcases processIpcp_cases processed with ⟨session, out, found, received, outcome⟩
  have same : phase out.session = phase session :=
    phase_of_ipcp ((ipcpFsm_leaves runtime).receive received)
      ((ipcpFsm_lawful runtime).receive received).1.initial_iff
  have applied : Calm runtime (runtime.apply ref out) :=
    of_kept (kept_apply out found same) rfl rfl rfl
  rcases outcome with ⟨_, _, up⟩ | ⟨_, quiet⟩
  · rw [up]
    exact applied.trans (of_kept (kept_openDataPlane timerBlind_phase _ ref out.session) rfl rfl
      (AAA.mapIfaceToSession_auth _ _ _))
  · rw [quiet]
    exact applied

theorem rejectProtocol (runtime : Runtime) (ref : Nat) (packet : Packet) :
    Calm runtime (runtime.rejectProtocol ref packet) := by
  refine of_kept (kept_rejectProtocol runtime ref packet) ?_ ?_ ?_
  all_goals
    simp only [Runtime.rejectProtocol, withSession]
    split <;> rfl

theorem sendEchoReq (runtime : Runtime) (env : Env) (ref : Nat) :
    Calm runtime (runtime.sendEchoReq env ref) := by
  cases found : runtime.sessions.deref ref with
  | none =>
      unfold Runtime.sendEchoReq
      rw [found]
      exact refl runtime
  | some session =>
      rcases sendEchoReq_cases env found with ⟨out, counted, outcome⟩
      have applied : Calm runtime (runtime.apply ref out) :=
        of_kept (kept_apply out found (by rw [counted]; rfl)) rfl rfl rfl
      rcases outcome with ⟨_, _, ended⟩ | ⟨_, again⟩
      · rw [ended]
        exact applied.trans (deallocateSession _ _)
      · rw [again]
        exact applied.trans (of_kept (kept_startEcho timerBlind_phase _ ref) rfl rfl rfl)

theorem echoTimer {runtime after : Runtime} {env : Env} {ref index : Nat}
    (fired : runtime.echoTimer env ref index = some after) : Calm runtime after := by
  have popped : Calm runtime (runtime.popEcho ref index) :=
    of_kept (kept_popEcho timerBlind_phase runtime ref index) rfl rfl rfl
  rcases echoTimer_cases fired with ⟨session, _, ⟨_, expired⟩ | ⟨_, aborted⟩⟩
  · rw [expired]
    exact (popped.trans (sendEchoReq _ env ref)).trans (collect _ ref)
  · rw [aborted]
    exact popped.trans (collect _ ref)

theorem checkSession (runtime : Runtime) (conn : PPPOEConn) :
    Calm runtime (runtime.checkSession conn).1 := by
  refine of_kept (kept_checkSession runtime conn) ?_ ?_ (by rw [aaa_checkSession])
  all_goals
    simp only [Runtime.checkSession]
    split <;> rfl

theorem pendeSession (runtime : Runtime) (conn : PPPOEConn) :
    Calm runtime (runtime.pendeSession conn).1 := by
  refine of_kept (kept_pendeSession runtime conn) ?_ ?_ (by rw [aaa_pendeSession])
  all_goals
    simp only [Runtime.pendeSession]
    split <;> rfl

theorem processPPPOE {runtime after : Runtime} {env : Env} {encap : Encapsulation}
    {packet : Packet} {err : Option String} (tables : StoreInvariant runtime)
    (processed : runtime.processPPPOE env encap packet = some (after, err)) : Calm runtime after := by
  rcases processPPPOE_cases processed with ⟨_, before, queue, queued, handled⟩ | ⟨_, ended⟩
  · have handledCalm : Calm runtime before := by
      rcases handled with same | ⟨conn, pended⟩ | ⟨conn, checked⟩ | ⟨conn, result, allocated, entered⟩
      · rw [same]
        exact refl runtime
      · rw [pended]
        exact pendeSession runtime conn
      · rw [checked]
        exact checkSession runtime conn
      · rw [entered]
        have checked := (kept_checkSession runtime conn).invariant tables
        exact (checkSession runtime conn).trans (allocateSession checked allocated)
    rw [queued]
    exact handledCalm.trans ⟨fun ref session present => .inl ⟨session, present, rfl⟩, rfl, rfl,
      fun _ awaits => awaits⟩
  · rw [ended]
    exact deallocateSession runtime _

theorem pendingTimer {runtime after : Runtime} {index : Nat}
    (fired : runtime.pendingTimer index = some after) : Calm runtime after := by
  refine of_kept (kept_pendingTimer fired) ?_ ?_ (by rw [aaa_pendingTimer fired])
  all_goals
    rcases Option.map_eq_some_iff.mp fired with ⟨conn, _, equal⟩
    rw [← equal]
    rfl

theorem quiet {now after : Runtime} (quiet : Quiet now after) : Calm now after := by
  refine ⟨fun ref session present => .inl ⟨session, ?_, rfl⟩, quiet.log, quiet.lcpConf,
    fun callback awaits => ?_⟩
  · rw [← quiet.sessions]
    exact present
  · rcases quiet.aaa with same | ⟨event, isQuiet, handled⟩
    · rw [← same]
      exact awaits
    · exact AAA.awaits_of_quiet isQuiet handled awaits

end Calm

/-! ## Authentication -/

theorem configured_of_chap {policy : LCPPolicy} (chap : policy.authProtocol = some .chap) :
    policy.authCHAP = true := by
  unfold LCPPolicy.authProtocol at chap
  split at chap
  · assumption
  · split at chap <;> cases chap

theorem Asked.later {reached : Nat -> Prop} {before after : Runtime} {callback : AAACallback}
    (policy : after.lcpConf = before.lcpConf) (more : before.log ⊆ after.log)
    (asked : Asked before reached callback) : Asked after reached callback := by
  rcases asked.logged with ⟨value, member⟩
  exact ⟨asked.reached, policy ▸ asked.configured, value, more member⟩

theorem lcpConf_callback (runtime : Runtime) (call : CallbackCall) :
    (runtime.callback call).lcpConf = runtime.lcpConf := by
  simp only [callback, withSession]
  split <;> rfl

/-- A success takes IPCP out of Initial, and leaves LCP and the challenge. -/
theorem authCallback_success (hwaddr : Mac) (protocol : AuthProtocol) (sid : UInt32)
    (target : PPPOESession) :
    (protocol.authCallback hwaddr sid none target).session.lcp = target.lcp ∧
      (protocol.authCallback hwaddr sid none target).session.chap.challenge = target.chap.challenge ∧
      (protocol.authCallback hwaddr sid none target).session.ipcp.state ≠ .initial := by
  have outside := AuthProtocol.authCallback_outside hwaddr protocol sid none target
  have lawful := IPCPFsm.protocol_lawful hwaddr (fun _ => none)
  have lcp := congrArg PPPOESession.lcp outside
  have challenge := congrArg (fun session => session.chap.challenge) outside
  exact ⟨lcp, challenge, lawful.start_notInitial _⟩

/-- A call for a request that was made in its phase keeps the order. -/
theorem PhaseInvariant.callback {reached : Nat -> Prop} {runtime : Runtime} {call : CallbackCall}
    (invariant : PhaseInvariant reached runtime) (asked : Asked runtime reached call.callback) :
    PhaseInvariant reached (runtime.callback call) := by
  have log := log_callback runtime call
  have policy := lcpConf_callback runtime call
  refine invariant.extend policy ?_ (fun _ is => is) ?_ ?_ ?_
  · rw [log]
    exact List.subset_cons_self _ _
  · intro ref session present
    have called : (runtime.withSession call.callback.session
        (call.callback.protocol.authCallback runtime.hwaddr call.sid call.err)).sessions.deref ref =
          some session := present
    cases found : runtime.sessions.deref call.callback.session with
    | none =>
        rw [withSession, found] at called
        exact .inl ⟨session, called, rfl⟩
    | some target =>
        rw [withSession_eq found, deref_apply] at called
        split at called
        · rename_i here
          rw [here, found] at called
          rw [← Option.some.inj called]
          cases result : call.err with
          | some text =>
              rw [here]
              exact .inl ⟨target, found, rfl⟩
          | none =>
              have old := invariant.sessions _ _ found
              rcases authCallback_success runtime.hwaddr call.callback.protocol call.sid target with
                ⟨lcp, challenge, left⟩
              rw [log, policy, here]
              refine .inr ⟨?_, fun _ _ => left, fun _ => ?_⟩
              · rw [lcp, challenge]
                exact fun opened chap => List.mem_cons_of_mem _ (old.challenged opened chap)
              · refine ⟨asked.reached, fun protocol configured => ?_⟩
                rw [asked.configured] at configured
                rw [← Option.some.inj configured]
                exact ⟨call, List.mem_cons_self, rfl, result⟩
        · exact .inl ⟨session, called, rfl⟩
  · intro callback awaits
    exact .inl (awaits.of_auth (congrArg AAA.auth (aaa_withSession runtime _ _)))
  · rw [log, policy]
    exact ⟨fun _ => asked.logged, invariant.log⟩

theorem PhaseInvariant.callbacks {reached : Nat -> Prop} {runtime : Runtime}
    {calls : List CallbackCall} (invariant : PhaseInvariant reached runtime)
    (asked : forall call, call ∈ calls -> Asked runtime reached call.callback) :
    PhaseInvariant reached (runtime.callbacks calls) := by
  induction calls generalizing runtime with
  | nil => exact invariant
  | cons call rest inductionHypothesis =>
      refine inductionHypothesis (invariant.callback (asked call List.mem_cons_self)) ?_
      intro other member
      refine (asked other (List.mem_cons_of_mem _ member)).later (lcpConf_callback runtime call) ?_
      rw [log_callback]
      exact List.subset_cons_self _ _

/-- An event of AAA whose calls are for requests in their phase. -/
theorem PhaseInvariant.withCalls {reached : Nat -> Prop} {runtime : Runtime}
    {outcome : AAA × List CallbackCall} (invariant : PhaseInvariant reached runtime)
    (asked : forall call, call ∈ outcome.2 -> Asked runtime reached call.callback)
    (requests : forall callback, outcome.1.Awaits callback ->
      runtime.aaa.Awaits callback ∨ Asked runtime reached callback) :
    PhaseInvariant reached (runtime.withCalls outcome) := by
  have entered : PhaseInvariant reached (runtime.withAaa outcome.1) :=
    invariant.extend rfl (List.Subset.refl _) (fun _ is => is)
      (fun ref session present => .inl ⟨session, present, rfl⟩)
      (fun callback awaits => (requests callback awaits).imp_right
        (fun new => ⟨new.reached, new.configured, new.logged⟩)) invariant.log
  refine entered.callbacks (fun call member => ?_)
  have new := asked call member
  exact ⟨new.reached, new.configured, new.logged⟩

/-- A request to authenticate that is repeated, or that comes in its phase. -/
theorem PhaseInvariant.recvAuthReq {reached : Nat -> Prop} {runtime after : Runtime} {env : Env}
    {ref : Nat} {protocol : AuthProtocol} {username : Bytes} {credential : Credential}
    (invariant : PhaseInvariant reached runtime)
    (opened : forall ref, LcpOpened runtime ref -> reached ref)
    (inPhase : forall session, runtime.sessions.deref ref = some session ->
      protocol.started session = false ->
        session.lcp.state = .opened ∧ runtime.lcpConf.authProtocol = some protocol)
    (received : runtime.recvAuthReq env ref protocol username credential = some after) :
    PhaseInvariant reached after := by
  rcases recvAuthReq_cases received with
    ⟨session, found, ⟨already, repeated⟩ | ⟨fresh, started, starting, asked⟩⟩
  · have old := invariant.sessions ref session found
    have lawful := IPCPFsm.protocol_lawful runtime.hwaddr (fun _ => none)
    have running := old.started protocol already
    have same : phase (protocol.sendAuthAck runtime.hwaddr session).session = phase session := by
      refine phase_of_ipcp (AuthProtocol.sendAuthAck_outside _ protocol session) ?_
      exact ⟨fun is => absurd is (lawful.start_notInitial session), fun is => absurd is running⟩
    rw [repeated]
    exact (Calm.of_kept (kept_apply _ found same) rfl rfl rfl).invariant invariant
  · rcases inPhase session found fresh with ⟨isOpened, configured⟩
    have path := AAA.started_of_startByMethods starting
    have noted : Follows runtime.lcpConf runtime.log
        (.request ref protocol session.chap.challenge) := by
      refine ⟨configured, fun chap => ?_⟩
      rw [chap] at configured
      exact (invariant.sessions ref session found).challenged isOpened
        (configured_of_chap configured)
    have requested : PhaseInvariant reached
        (runtime.requested ref protocol username session) := by
      refine invariant.extend rfl (List.subset_cons_self _ _) (fun _ is => is) ?_
        (fun callback awaits => .inl awaits) ⟨noted, invariant.log⟩
      intro other object present
      have applied : (runtime.apply ref (PPPOESession.done { session with username := username })).sessions.deref
          other = some object := present
      rw [deref_apply] at applied
      split at applied
      · rename_i here
        rw [here, found] at applied
        rw [here, ← Option.some.inj applied]
        exact .inl ⟨session, found, rfl⟩
      · exact .inl ⟨object, applied, rfl⟩
    have new : Asked (runtime.requested ref protocol username session) reached ⟨ref, protocol⟩ :=
      ⟨opened ref ⟨session, found, isOpened⟩, configured, _, List.mem_cons_self⟩
    rw [asked]
    refine requested.withCalls (fun call member => ?_) (fun callback awaits => ?_)
    · rw [(path.successes.1 call member).1]
      exact new
    · refine (AAA.awaits_of_started path awaits).imp_right (fun same => ?_)
      rw [same]
      exact new

/-! ## LCP -/

/-- A session whose LCP has moved keeps its order, when the challenge of an
Opened one is in the log. -/
theorem Ordered.of_lcp {policy : LCPPolicy} {log : List Observation} {reached : Prop} {ref : Nat}
    {old session : PPPOESession} (ordered : Ordered policy log reached ref old)
    (auth : session.auth = old.auth) (chap : session.chap.started = old.chap.started)
    (ipcp : session.ipcp = old.ipcp)
    (challenged : session.lcp.state = .opened -> policy.authCHAP = true ->
      .challenge ref session.chap.challenge ∈ log) : Ordered policy log reached ref session := by
  refine ⟨challenged, fun protocol was => ?_, fun left => ordered.running (ipcp ▸ left)⟩
  rw [ipcp]
  apply ordered.started protocol
  cases protocol with
  | pap => exact (congrArg PPPAuth.started auth).symm.trans was
  | chap => exact chap.symm.trans was

theorem unchanged_of_lcp {old session : PPPOESession}
    (outside : LCPFsm.outside session = LCPFsm.outside old) :
    session.auth = old.auth ∧ session.chap = old.chap ∧ session.ipcp = old.ipcp := by
  have auth := congrArg PPPOESession.auth outside
  have chap := congrArg PPPOESession.chap outside
  have ipcp := congrArg PPPOESession.ipcp outside
  exact ⟨auth, chap, ipcp⟩

/-- One session object was written, and the log may have grown. -/
theorem PhaseInvariant.write {reached : Nat -> Prop} {before after : Runtime} {ref : Nat}
    {session : PPPOESession} (invariant : PhaseInvariant reached before)
    (policy : after.lcpConf = before.lcpConf) (more : before.log ⊆ after.log)
    (present : after.sessions.deref ref = some session)
    (others : forall other, other ≠ ref -> after.sessions.deref other = before.sessions.deref other)
    (ordered : Ordered after.lcpConf after.log (reached ref) ref session)
    (auth : after.aaa.auth = before.aaa.auth) (log : LogOrdered after.lcpConf after.log) :
    PhaseInvariant reached after := by
  refine invariant.extend policy more (fun _ is => is) ?_ (fun callback awaits => .inl (awaits.of_auth auth)) log
  intro other object there
  by_cases here : other = ref
  · rw [here, present] at there
    rw [here, ← Option.some.inj there]
    exact .inr ordered
  · rw [others other here] at there
    exact .inl ⟨object, there, rfl⟩

/-- LCP goes up: the challenge is sent, or IPCP is started without one. -/
theorem PhaseInvariant.openAuth {reached : Nat -> Prop} {runtime : Runtime} {session : PPPOESession}
    {out : FsmOut} (env : Env) {ref : Nat} (invariant : PhaseInvariant reached runtime)
    (found : runtime.sessions.deref ref = some session)
    (outside : LCPFsm.outside out.session = LCPFsm.outside session) (isReached : reached ref) :
    PhaseInvariant reached ((runtime.apply ref out).openAuth env ref) := by
  have old := invariant.sessions ref session found
  have applied := deref_apply_self found out
  rcases unchanged_of_lcp outside with ⟨auth, chap, ipcp⟩
  unfold Runtime.openAuth
  split
  · unfold openChap
    rw [applied]
    dsimp only
    refine invariant.write rfl (List.subset_cons_self _ _) (deref_apply_self applied _) ?_ ?_ rfl
      ⟨trivial, invariant.log⟩
    · intro other different
      exact (deref_apply_of_ne _ different _).trans (deref_apply_of_ne _ different _)
    · have was := congrArg PPPChap.started chap
      refine (old.mono (List.subset_cons_self _ _) id).of_lcp auth was ipcp (fun _ _ => ?_)
      exact List.mem_cons_self
  · rename_i noChap
    split
    · refine invariant.write rfl (List.Subset.refl _) applied
        (fun other different => deref_apply_of_ne _ different _) ?_ rfl invariant.log
      exact old.of_lcp auth (congrArg PPPChap.started chap) ipcp
        (fun _ chap => absurd chap noChap)
    · rename_i noPap
      have lawful := ipcpFsm_lawful (runtime.apply ref out)
      have left := lawful.start_notInitial out.session
      rw [withSession_eq applied]
      refine invariant.write rfl (List.Subset.refl _) (deref_apply_self applied _) ?_ ?_ rfl
        invariant.log
      · intro other different
        exact (deref_apply_of_ne _ different _).trans (deref_apply_of_ne _ different _)
      · refine ⟨fun _ chap => absurd chap noChap, fun _ _ => left, fun _ => ⟨isReached, ?_⟩⟩
        intro protocol configured
        have none : (runtime.apply ref out).lcpConf.authProtocol = none := by
          unfold LCPPolicy.authProtocol
          rw [if_neg noChap, if_neg noPap]
        have impossible := none.symm.trans configured
        cases impossible

theorem openBlind_lcp : OpenBlind PPPOESession.lcp := by
  refine .of_ipcp (fun first second same => ?_) (fun _ _ => rfl)
  have lcp := congrArg PPPOESession.lcp same
  exact lcp

/-- A packet of LCP opens the next phase only when it opens LCP. -/
theorem PhaseInvariant.processLcp {reached : Nat -> Prop} {runtime after : Runtime} {env : Env}
    {ref : Nat} {packet : Packet} {err : Option String} (invariant : PhaseInvariant reached runtime)
    (processed : runtime.processLcp env ref packet = some (after, err)) :
    PhaseInvariant (fun other => reached other ∨ LcpOpened after other) after := by
  rcases processLcp_cases processed with ⟨session, out, found, received, outcome⟩
  have outside := (lcpFsm_leaves runtime env).receive received
  have move := ((lcpFsm_lawful runtime env).receive received).1
  have wider := invariant.mono (fun other (is : reached other) =>
    (Or.inl is : reached other ∨ LcpOpened after other))
  have applied := deref_apply_self found out
  -- Unless LCP opens, an Opened one was Opened before, and its challenge was sent.
  have unopened : (out.session.lcp.state = .opened -> session.lcp.state = .opened) ->
      PhaseInvariant (fun other => reached other ∨ LcpOpened after other) (runtime.apply ref out) := by
    intro was
    rcases unchanged_of_lcp outside with ⟨auth, chap, ipcp⟩
    have old := wider.sessions ref session found
    refine wider.write rfl (List.Subset.refl _) applied
      (fun other different => deref_apply_of_ne _ different _) ?_ rfl invariant.log
    refine old.of_lcp auth (congrArg PPPChap.started chap) ipcp (fun opened configured => ?_)
    rw [chap]
    exact old.challenged (was opened) configured
  rcases outcome with ⟨_, up, opened⟩ | ⟨_, down, ended⟩ | ⟨quiet, same⟩
  · rw [up] at move
    have isOpened : LcpOpened after ref := by
      rcases (kept_openAuth openBlind_lcp (runtime.apply ref out) env ref).session applied with
        ⟨later, there, lcp⟩
      rw [opened]
      refine ⟨later, there, ?_⟩
      rw [lcp]
      exact move.of_layerUp.2.2.1
    have next := @PhaseInvariant.openAuth _ _ _ out env ref wider found outside (.inr isOpened)
    rw [← opened] at next
    exact next
  · rw [down] at move
    have ending := (Calm.deallocateSession _ session.sessionId).invariant
      (unopened (fun opened => absurd opened move.of_layerDown.2.1))
    rw [← ended] at ending
    exact ending
  · have still := unopened (move.of_quiet quiet)
    rw [← same] at still
    exact still

/-! ## Runs -/

/-- What a step does to the order of the phases. -/
theorem phaseInvariant_processPPP {reached : Nat -> Prop} {now after : Runtime} {env : Env}
    {encap : Encapsulation} {packet : Packet} {err : Option String}
    (invariant : PhaseInvariant reached now) (opened : forall ref, LcpOpened now ref -> reached ref)
    (inPhase : InPhase now { env := env, input := .session encap packet })
    (processed : now.processPPP env encap packet = some (after, err)) :
    PhaseInvariant (fun ref => reached ref ∨ LcpOpened after ref) after := by
  rcases processPPP_cases processed with dropped | ⟨ref, active, dispatched⟩
  · rw [dropped]
    exact invariant.mono (fun _ is => .inl is)
  · have begun := Calm.kept_ensureStarted now env ref
    have policy := (Calm.ensureStarted now env ref).policy
    have started := (Calm.ensureStarted now env ref).invariant invariant
    -- The start of LCP opens none, so what is asked of the request carries over.
    have back : forall other session, (now.ensureStarted env ref).sessions.deref other = some session ->
        ∃ old, now.sessions.deref other = some old ∧ phase old = phase session :=
      fun _ _ present => begun.symm.session present
    have stillOpened : forall other, LcpOpened (now.ensureStarted env ref) other -> reached other := by
      rintro other ⟨session, present, isOpened⟩
      rcases back other session present with ⟨old, found, same⟩
      exact opened other ⟨old, found,
        (decide_eq_decide.mp (congrArg PhaseView.opened same)).mpr isOpened⟩
    rcases dispatch_cases dispatched with
      ⟨_, lcp⟩ | ⟨protocol, username, credential, isRequest, received⟩ | ⟨_, ipcp⟩ | same | rejected
    · exact started.processLcp lcp
    · refine (started.recvAuthReq stillOpened (fun session present fresh => ?_) received).mono
        (fun _ is => .inl is)
      rcases back ref session present with ⟨old, found, same⟩
      have wasFresh : protocol.started old = false := by
        cases protocol with
        | pap => exact (congrArg PhaseView.papStarted same).trans fresh
        | chap => exact (congrArg PhaseView.chapStarted same).trans fresh
      rcases inPhase ref active old found protocol isRequest wasFresh with ⟨isOpened, configured⟩
      refine ⟨(decide_eq_decide.mp (congrArg PhaseView.opened same)).mp isOpened, ?_⟩
      rw [policy]
      exact configured
    · exact ((Calm.processIpcp ipcp).invariant started).mono (fun _ is => .inl is)
    · rw [same]
      exact started.mono (fun _ is => .inl is)
    · rw [rejected]
      exact ((Calm.rejectProtocol _ ref packet).invariant started).mono (fun _ is => .inl is)

theorem phaseInvariant_step {reached : Nat -> Prop} {now after : Runtime} {event : Event}
    (tables : StoreInvariant now) (invariant : PhaseInvariant reached now)
    (opened : forall ref, LcpOpened now ref -> reached ref) (inPhase : InPhase now event)
    (taken : step now event = some after) :
    PhaseInvariant (fun ref => reached ref ∨ LcpOpened after ref) after := by
  have calm : Calm now after ->
      PhaseInvariant (fun ref => reached ref ∨ LcpOpened after ref) after :=
    fun calm => (calm.invariant invariant).mono (fun _ is => .inl is)
  rcases event with ⟨env, input⟩
  cases step_cases taken with
  | discovery processed => exact calm (.processPPPOE tables processed)
  | session processed => exact phaseInvariant_processPPP invariant opened inPhase processed
  | pendingTimer fired => exact calm (.pendingTimer fired)
  | echoExpires expired =>
      rw [expired]
      exact ((Calm.of_kept (kept_echoExpires Calm.timerBlind_phase now _) rfl rfl rfl).invariant
        invariant).mono (fun _ is => .inl is)
  | echoTimer fired => exact calm (.echoTimer fired)
  | authDatagram received called =>
      have origin := fun other => @AAA.awaits_of_authDatagram _ _ other _ _ received
      rw [called]
      refine (invariant.withCalls (fun call member => ?_) (fun callback awaits => ?_)).mono
        (fun _ is => .inl is)
      · exact invariant.requests _ ((origin call.callback).1 call member)
      · exact .inl ((origin callback).2 awaits)
  | authTimer fired called =>
      have origin := fun other => @AAA.awaits_of_authTimer _ other _ _ fired
      rw [called]
      refine (invariant.withCalls (fun call member => ?_) (fun callback awaits => ?_)).mono
        (fun _ is => .inl is)
      · exact invariant.requests _ ((origin call.callback).1 call member)
      · exact .inl ((origin callback).2 awaits)
  | quiet quiet => exact calm (.quiet quiet)

theorem phaseInvariant_fresh {start : Runtime} (fresh : start.Fresh) (reached : Nat -> Prop) :
    PhaseInvariant reached start where
  sessions := by
    intro ref session present
    rw [fresh.sessions] at present
    cases present
  requests := by
    rintro callback ⟨client, handler, is, ⟨id, entry, found, _⟩, _⟩
    rw [fresh.auth client is] at found
    cases found
  log := by
    rw [fresh.log]
    trivial

theorem PhaseInvariant.order {past : List (Runtime × Event)} {now : Runtime}
    (invariant : PhaseInvariant (Reached past now) now) : PhaseOrder past now where
  established := fun ref session present left =>
    ((invariant.sessions ref session present).running left).1
  authenticated := fun ref session protocol present left configured =>
    ((invariant.sessions ref session present).running left).2 protocol configured
  log := invariant.log

/-- In a run whose requests to authenticate all come in their phase, the phases
have their order in every state. -/
theorem phaseOrder_of_run {start now : Runtime} {past : List (Runtime × Event)}
    (fresh : start.Fresh) (run : Run step InPhase start past now) : PhaseOrder past now := by
  have both : StoreInvariant now ∧ PhaseInvariant (Reached past now) now := by
    refine @Run.invariantPast _ _ step InPhase start now past
      (fun past now => StoreInvariant now ∧ PhaseInvariant (Reached past now) now)
      ⟨storeInvariant_empty fresh.store, phaseInvariant_fresh fresh _⟩ ?_ run
    rintro past now event after ⟨tables, invariant⟩ inPhase taken
    refine ⟨storeInvariant_step tables taken, ?_⟩
    refine (phaseInvariant_step tables invariant (fun _ is => .inl is) inPhase taken).mono ?_
    rintro ref (before | isOpened)
    · rcases before with isOpened | ⟨earlier, member, isOpened⟩
      · exact .inr ⟨_, List.mem_cons_self, isOpened⟩
      · exact .inr ⟨earlier, List.mem_cons_of_mem _ member, isOpened⟩
    · exact .inl isOpened
  exact both.2.order

/-- The order at a session that went through its phases. -/
theorem phaseOrder_at_established : ∃ past,
    Run step InPhase (sampleDaemon [.none] papPolicy) past established ∧
      PhaseOrder past established := by
  have run : ∃ past, Run step InPhase (sampleDaemon [.none] papPolicy) past established :=
    run_after _ _ _ _ _ (by decide +kernel)
  rcases run with ⟨past, run⟩
  exact ⟨past, run, phaseOrder_of_run (fresh_sampleDaemon _ _) run⟩

/-- A session without any LCP packet, for which CHAP is configured and whose
peer asks by PAP. -/
def earlyRequest : Runtime :=
  Foundation.after step (sampleDaemon [.none] {})
    (connect (sampleLink 1) ++ [papRequest (sampleLink 1) 1]) (by decide +kernel)

/-- The early request is answered with a success, which starts IPCP although LCP
was never Opened. -/
theorem earlyRequest_out_of_order :
    ¬ forall past now, Run step anyStep (sampleDaemon [.none] {}) past now -> PhaseOrder past now := by
  intro claim
  have run : ∃ past, Run step (fun now _ => ¬ LcpOpened now 0) (sampleDaemon [.none] {}) past
      earlyRequest := run_after _ _ _ _ _ (by decide +kernel)
  rcases run with ⟨past, run⟩
  have order := claim past earlyRequest (run.weaken (fun _ _ _ => trivial))
  have left : ∃ session ∈ earlyRequest.sessions.deref 0, session.ipcp.state ≠ .initial := by
    decide +kernel
  have notOpened : ¬ LcpOpened earlyRequest 0 := by decide +kernel
  rcases left with ⟨session, found, running⟩
  rcases order.established 0 session found running with isOpened | ⟨taken, member, isOpened⟩
  · exact notOpened isOpened
  · rcases run.recorded member with ⟨_, _, _, never, _⟩
    exact never isOpened

end Runtime

end Pppcpd
