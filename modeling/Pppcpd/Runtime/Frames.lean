import Pppcpd.Runtime.Cases
import Pppcpd.Runtime.Store

namespace Pppcpd

open Foundation

/-!
# What the handlers leave alone

A handler changes session objects only through the automata, the two
authentication protocols and the echo timer.  A view of a session that is blind
to the parts these may write is therefore kept by every handler that uses them.
The first use is the identity of the sessions, which gives the invariant of the
session tables in every state the daemon can reach.
-/

namespace AuthProtocol

/-- A session without what PAP and CHAP may write. -/
def outside (session : PPPOESession) : PPPOESession :=
  { IPCPFsm.outside session with
    aaaSessionId := 0, auth := {}, chap := { session.chap with started := false } }

theorem outside_of_ipcp {first second : PPPOESession}
    (same : IPCPFsm.outside first = IPCPFsm.outside second) : outside first = outside second := by
  have parts : forall session : PPPOESession, outside session =
      { IPCPFsm.outside session with
        aaaSessionId := 0, auth := {}
        chap := { (IPCPFsm.outside session).chap with started := false } } := fun _ => rfl
  rw [parts first, parts second, same]

theorem sendAuthAck_outside (hwaddr : Mac) (protocol : AuthProtocol) (session : PPPOESession) :
    IPCPFsm.outside (protocol.sendAuthAck hwaddr session).session = IPCPFsm.outside session :=
  (IPCPFsm.protocol_leaves hwaddr (fun _ => none)).start session

theorem authCallback_outside (hwaddr : Mac) (protocol : AuthProtocol) (sid : UInt32)
    (err : Option String) (session : PPPOESession) :
    outside (protocol.authCallback hwaddr sid err session).session = outside session := by
  cases err with
  | none =>
      refine (outside_of_ipcp (sendAuthAck_outside hwaddr protocol _)).trans ?_
      cases protocol <;> rfl
  | some text => rfl

end AuthProtocol

/-! ## Blind views -/

section

variable {View : Type}

/-- Nothing of LCP shows in the view. -/
structure LcpBlind (view : PPPOESession -> View) : Prop where
  lcp : forall first second, LCPFsm.outside first = LCPFsm.outside second -> view first = view second
  started : forall session, view { session with started := true } = view session

/-- Nothing of the answers to a request to authenticate shows in the view. -/
structure AuthBlind (view : PPPOESession -> View) : Prop where
  callback : forall hwaddr protocol sid err session,
    view (AuthProtocol.authCallback hwaddr protocol sid err session).session = view session
  ack : forall hwaddr protocol session,
    view (AuthProtocol.sendAuthAck hwaddr protocol session).session = view session
  named : forall username session, view { session with username := username } = view session

/-- Nothing of what follows the opening of LCP shows in the view. -/
structure OpenBlind (view : PPPOESession -> View) : Prop where
  start : forall hwaddr getSession session,
    view ((IPCPFsm.protocol hwaddr getSession).start session).session = view session
  challenge : forall challenge session,
    view { session with chap := { session.chap with challenge := challenge } } = view session

/-- Nothing of IPCP shows in the view. -/
def IpcpBlind (view : PPPOESession -> View) : Prop :=
  forall first second, IPCPFsm.outside first = IPCPFsm.outside second -> view first = view second

/-- Neither the timer nor the interface shows in the view. -/
structure TimerBlind (view : PPPOESession -> View) : Prop where
  timer : forall timer session, view { session with timer := timer } = view session
  ifindex : forall ifindex session, view { session with ifindex := ifindex } = view session

/-- A view of what PAP and CHAP leave alone is blind to their answers. -/
theorem AuthBlind.of_outside {view : PPPOESession -> View}
    (outside : forall first second, AuthProtocol.outside first = AuthProtocol.outside second ->
      view first = view second)
    (named : forall username session, view { session with username := username } = view session) :
    AuthBlind view where
  callback := fun hwaddr protocol sid err session =>
    outside _ _ (AuthProtocol.authCallback_outside hwaddr protocol sid err session)
  ack := fun hwaddr protocol session =>
    outside _ _ (AuthProtocol.outside_of_ipcp
      (AuthProtocol.sendAuthAck_outside hwaddr protocol session))
  named := named

/-- A view of what IPCP leaves alone is blind to its start. -/
theorem OpenBlind.of_ipcp {view : PPPOESession -> View} (blind : IpcpBlind view)
    (challenge : forall challenge session,
      view { session with chap := { session.chap with challenge := challenge } } = view session) :
    OpenBlind view where
  start := fun hwaddr getSession session =>
    blind _ _ ((IPCPFsm.protocol_leaves hwaddr getSession).start session)
  challenge := challenge

theorem lcpBlind_key : LcpBlind PPPOESession.key where
  lcp := by
    intro first second same
    have keys := congrArg PPPOESession.key same
    exact keys
  started := fun _ => rfl

theorem lcpBlind_ipcp : LcpBlind PPPOESession.ipcp where
  lcp := by
    intro first second same
    have automata := congrArg PPPOESession.ipcp same
    exact automata
  started := fun _ => rfl

theorem ipcpBlind_key : IpcpBlind PPPOESession.key := by
  intro first second same
  have keys := congrArg PPPOESession.key same
  exact keys

theorem authBlind_key : AuthBlind PPPOESession.key :=
  .of_outside (by
    intro first second same
    have keys := congrArg PPPOESession.key same
    exact keys) (fun _ _ => rfl)

theorem openBlind_key : OpenBlind PPPOESession.key := .of_ipcp ipcpBlind_key (fun _ _ => rfl)

theorem timerBlind_key : TimerBlind PPPOESession.key := ⟨fun _ _ => rfl, fun _ _ => rfl⟩

end

namespace Runtime

theorem lcpFsm_leaves (runtime : Runtime) (env : Env) :
    (runtime.lcpFsm env).Leaves LCPFsm.outside := LCPFsm.protocol_leaves _

theorem lcpFsm_lawful (runtime : Runtime) (env : Env) : (runtime.lcpFsm env).Lawful :=
  LCPFsm.protocol_lawful _

theorem ipcpFsm_leaves (runtime : Runtime) : runtime.ipcpFsm.Leaves IPCPFsm.outside :=
  IPCPFsm.protocol_leaves _ _

theorem ipcpFsm_lawful (runtime : Runtime) : runtime.ipcpFsm.Lawful :=
  IPCPFsm.protocol_lawful _ _

/-! ## Reading after a write -/

theorem deref_apply (runtime : Runtime) (ref other : Nat) (out : FsmOut) :
    (runtime.apply ref out).sessions.deref other =
      if other = ref then (runtime.sessions.deref other).map (fun _ => out.session)
      else runtime.sessions.deref other := by
  unfold apply
  dsimp only
  rw [Heap.deref_update]

theorem deref_apply_self {runtime : Runtime} {ref : Nat} {session : PPPOESession}
    (found : runtime.sessions.deref ref = some session) (out : FsmOut) :
    (runtime.apply ref out).sessions.deref ref = some out.session := by
  rw [deref_apply, if_pos rfl, found]
  rfl

theorem deref_apply_of_ne (runtime : Runtime) {ref other : Nat} (different : other ≠ ref)
    (out : FsmOut) :
    (runtime.apply ref out).sessions.deref other = runtime.sessions.deref other := by
  rw [deref_apply, if_neg different]

theorem withSession_eq {runtime : Runtime} {ref : Nat} {session : PPPOESession}
    (found : runtime.sessions.deref ref = some session) (method : PPPOESession -> FsmOut) :
    runtime.withSession ref method = runtime.apply ref (method session) := by
  rw [withSession, found]

/-- A method of a session is run on its object when there is one. -/
theorem withSession_rule {holds : Runtime -> Prop} {runtime : Runtime} {ref : Nat}
    {method : PPPOESession -> FsmOut} (absent : holds runtime)
    (present : forall session, runtime.sessions.deref ref = some session ->
      holds (runtime.apply ref (method session))) : holds (runtime.withSession ref method) := by
  cases found : runtime.sessions.deref ref with
  | none =>
      rw [withSession, found]
      exact absent
  | some session =>
      rw [withSession_eq found]
      exact present session found

/-! ## Handlers that keep the tables -/

section

variable {View : Type} {view : PPPOESession -> View}

theorem kept_apply {runtime : Runtime} {ref : Nat} {session : PPPOESession} (out : FsmOut)
    (found : runtime.sessions.deref ref = some session) (same : view out.session = view session) :
    Kept view runtime (runtime.apply ref out) := by
  refine ⟨rfl, rfl, rfl, ?_⟩
  intro other
  by_cases here : other = ref
  · rw [here, deref_apply_self found, found]
    exact congrArg some same
  · rw [deref_apply_of_ne _ here]

theorem kept_withSession (runtime : Runtime) (ref : Nat) {method : PPPOESession -> FsmOut}
    (same : forall session, view (method session).session = view session) :
    Kept view runtime (runtime.withSession ref method) :=
  withSession_rule (.refl runtime) (fun session found => kept_apply _ found (same session))

/-- A change of one session object that does not show. -/
theorem kept_update (runtime : Runtime) (ref : Nat) (change : PPPOESession -> PPPOESession)
    (same : forall session, view (change session) = view session) :
    Kept view runtime { runtime with sessions := runtime.sessions.update ref change } := by
  refine ⟨rfl, rfl, rfl, ?_⟩
  intro other
  dsimp only
  rw [Heap.deref_update]
  split
  · cases runtime.sessions.deref other with
    | none => rfl
    | some session => exact congrArg some (same session)
  · rfl

theorem kept_ensureStarted (blind : LcpBlind view) (runtime : Runtime) (env : Env) (ref : Nat) :
    Kept view runtime (runtime.ensureStarted env ref) := by
  apply kept_withSession
  intro session
  split
  · rfl
  · exact (blind.started _).trans (blind.lcp _ _ ((lcpFsm_leaves runtime env).start session))

/-- The start of LCP opens none, and an LCP that is Opened it leaves as it is. -/
theorem ensureStarted_session {runtime : Runtime} {ref : Nat} {session : PPPOESession} (env : Env)
    (found : runtime.sessions.deref ref = some session) :
    ∃ later, (runtime.ensureStarted env ref).sessions.deref ref = some later ∧
      (later.lcp.state = .opened -> later = { session with started := true }) := by
  have lawful := lcpFsm_lawful runtime env
  unfold ensureStarted
  rw [withSession_eq found]
  refine ⟨_, deref_apply_self found _, ?_⟩
  split
  · rename_i already
    intro _
    rw [← already]
    rfl
  · intro opened
    have before : (runtime.lcpFsm env).state session = .opened :=
      (lawful.start_opened_iff session).mp opened
    dsimp only
    rw [FsmClass.Lawful.start_of_opened before]
    rfl

theorem kept_applyLcp (blind : LcpBlind view) {runtime : Runtime} {env : Env} {ref : Nat}
    {packet : Packet} {session : PPPOESession} {out : FsmOut}
    (found : runtime.sessions.deref ref = some session)
    (received : (runtime.lcpFsm env).receive session packet = some out) :
    Kept view runtime (runtime.apply ref out) :=
  kept_apply out found (blind.lcp _ _ ((lcpFsm_leaves runtime env).receive received))

theorem kept_openChap (blind : OpenBlind view) (runtime : Runtime) (env : Env) (ref : Nat) :
    Kept view runtime (runtime.openChap env ref) := by
  unfold openChap
  cases found : runtime.sessions.deref ref with
  | none => exact .refl runtime
  | some session =>
      dsimp only
      refine (kept_apply _ found ?_).trans (.of_same rfl rfl)
      exact blind.challenge _ session

theorem kept_openAuth (blind : OpenBlind view) (runtime : Runtime) (env : Env) (ref : Nat) :
    Kept view runtime (runtime.openAuth env ref) := by
  unfold openAuth
  split
  · exact kept_openChap blind runtime env ref
  · split
    · exact .refl runtime
    · exact kept_withSession runtime ref (blind.start _ _)

theorem kept_callback (blind : AuthBlind view) (runtime : Runtime) (call : CallbackCall) :
    Kept view runtime (runtime.callback call) :=
  (kept_withSession runtime call.callback.session (blind.callback runtime.hwaddr
    call.callback.protocol call.sid call.err)).trans (.of_same rfl rfl)

theorem kept_callbacks (blind : AuthBlind view) (runtime : Runtime) (calls : List CallbackCall) :
    Kept view runtime (runtime.callbacks calls) := by
  unfold callbacks
  induction calls generalizing runtime with
  | nil => exact .refl runtime
  | cons call rest inductionHypothesis =>
      exact (kept_callback blind runtime call).trans (inductionHypothesis _)

theorem kept_withCalls (blind : AuthBlind view) (runtime : Runtime)
    (outcome : AAA × List CallbackCall) : Kept view runtime (runtime.withCalls outcome) := by
  have same : Kept view runtime (runtime.withAaa outcome.1) := .of_same rfl rfl
  exact same.trans (kept_callbacks blind _ outcome.2)

theorem kept_requested (blind : AuthBlind view) {runtime : Runtime} {ref : Nat}
    {session : PPPOESession} (protocol : AuthProtocol) (username : Bytes)
    (found : runtime.sessions.deref ref = some session) :
    Kept view runtime (runtime.requested ref protocol username session) :=
  (kept_apply _ found (blind.named username session)).trans (.of_same rfl rfl)

theorem kept_recvAuthReq (blind : AuthBlind view) {runtime after : Runtime} {env : Env} {ref : Nat}
    {protocol : AuthProtocol} {username : Bytes} {credential : Credential}
    (received : runtime.recvAuthReq env ref protocol username credential = some after) :
    Kept view runtime after := by
  rcases recvAuthReq_cases received with
    ⟨session, found, ⟨_, repeated⟩ | ⟨_, started, _, asked⟩⟩
  · rw [repeated]
    exact kept_apply _ found (blind.ack _ _ _)
  · rw [asked]
    exact (kept_requested blind protocol username found).trans (kept_withCalls blind _ started)

theorem kept_startEcho (blind : TimerBlind view) (runtime : Runtime) (ref : Nat) :
    Kept view runtime (runtime.startEcho ref) :=
  kept_update runtime ref _ (fun session => blind.timer _ session)

theorem kept_echoExpires (blind : TimerBlind view) (runtime : Runtime) (ref : Nat) :
    Kept view runtime (runtime.echoExpires ref) :=
  kept_update runtime ref _ (fun session => blind.timer _ session)

theorem kept_popEcho (blind : TimerBlind view) (runtime : Runtime) (ref index : Nat) :
    Kept view runtime (runtime.popEcho ref index) :=
  kept_update runtime ref _ (fun session => blind.timer _ session)

theorem kept_pendingTimer {runtime after : Runtime} {index : Nat}
    (fired : runtime.pendingTimer index = some after) : Kept view runtime after := by
  rcases Option.map_eq_some_iff.mp fired with ⟨conn, _, equal⟩
  rw [← equal]
  exact ⟨rfl, rfl, rfl, fun _ => rfl⟩

theorem kept_configured
    (blind : forall ifindex session, view { session with ifindex := ifindex } = view session)
    (runtime : Runtime) (ref : Nat) (session : PPPOESession) :
    Kept view runtime (runtime.configured ref session) :=
  (kept_update runtime ref _ (fun object => blind _ object)).trans (.of_same rfl rfl)

theorem kept_openDataPlane (blind : TimerBlind view) (runtime : Runtime) (ref : Nat)
    (session : PPPOESession) : Kept view runtime (runtime.openDataPlane ref session) :=
  (kept_configured blind.ifindex runtime ref session).trans (kept_startEcho blind _ ref)

theorem kept_processIpcp (blind : IpcpBlind view) (timer : TimerBlind view)
    {runtime after : Runtime} {ref : Nat} {packet : Packet}
    (processed : runtime.processIpcp ref packet = some after) : Kept view runtime after := by
  rcases processIpcp_cases processed with
    ⟨session, out, found, received, ⟨_, _, up⟩ | ⟨_, quiet⟩⟩
  · rw [up]
    exact (kept_apply out found (blind _ _ ((ipcpFsm_leaves runtime).receive received))).trans
      (kept_openDataPlane timer _ ref out.session)
  · rw [quiet]
    exact kept_apply out found (blind _ _ ((ipcpFsm_leaves runtime).receive received))

theorem kept_rejectProtocol (runtime : Runtime) (ref : Nat) (packet : Packet) :
    Kept view runtime (runtime.rejectProtocol ref packet) :=
  kept_withSession runtime ref (fun _ => rfl)

end

/-! ## The store invariant -/

theorem storeInvariant_processLcp {runtime after : Runtime} {env : Env} {ref : Nat}
    {packet : Packet} {err : Option String} (invariant : StoreInvariant runtime)
    (processed : runtime.processLcp env ref packet = some (after, err)) :
    StoreInvariant after := by
  rcases processLcp_cases processed with
    ⟨session, out, found, received, ⟨_, _, up⟩ | ⟨_, _, down⟩ | ⟨_, quiet⟩⟩
  · rw [up]
    exact ((kept_applyLcp lcpBlind_key found received).trans
      (kept_openAuth openBlind_key _ env ref)).invariant invariant
  · rw [down]
    exact storeInvariant_deallocateSession
      ((kept_applyLcp lcpBlind_key found received).invariant invariant) _
  · rw [quiet]
    exact (kept_applyLcp lcpBlind_key found received).invariant invariant

theorem storeInvariant_dispatch {runtime after : Runtime} {env : Env} {ref : Nat} {packet : Packet}
    {err : Option String} (invariant : StoreInvariant runtime)
    (dispatched : runtime.dispatch env ref packet = some (after, err)) : StoreInvariant after := by
  rcases dispatch_cases dispatched with
    ⟨_, lcp⟩ | ⟨_, _, _, _, auth⟩ | ⟨_, ipcp⟩ | same | rejected
  · exact storeInvariant_processLcp invariant lcp
  · exact (kept_recvAuthReq authBlind_key auth).invariant invariant
  · exact (kept_processIpcp ipcpBlind_key timerBlind_key ipcp).invariant invariant
  · rw [same]
    exact invariant
  · rw [rejected]
    exact (kept_rejectProtocol runtime ref packet).invariant invariant

theorem storeInvariant_processPPP {runtime after : Runtime} {env : Env} {encap : Encapsulation}
    {packet : Packet} {err : Option String} (invariant : StoreInvariant runtime)
    (processed : runtime.processPPP env encap packet = some (after, err)) :
    StoreInvariant after := by
  rcases processPPP_cases processed with dropped | ⟨ref, _, dispatched⟩
  · rw [dropped]
    exact invariant
  · exact storeInvariant_dispatch
      ((kept_ensureStarted lcpBlind_key runtime env ref).invariant invariant) dispatched

theorem storeInvariant_sendEchoReq {runtime : Runtime} (invariant : StoreInvariant runtime)
    (env : Env) (ref : Nat) : StoreInvariant (runtime.sendEchoReq env ref) := by
  cases found : runtime.sessions.deref ref with
  | none =>
      unfold sendEchoReq
      rw [found]
      exact invariant
  | some session =>
      rcases sendEchoReq_cases env found with ⟨out, counted, ⟨_, _, ended⟩ | ⟨_, again⟩⟩
      · rw [ended]
        exact storeInvariant_deallocateSession
          ((kept_apply out found (by rw [counted]; rfl)).invariant invariant) _
      · rw [again]
        exact ((kept_apply out found (by rw [counted]; rfl)).trans
          (kept_startEcho timerBlind_key _ ref)).invariant invariant

theorem storeInvariant_echoTimer {runtime after : Runtime} {env : Env} {ref index : Nat}
    (invariant : StoreInvariant runtime)
    (fired : runtime.echoTimer env ref index = some after) : StoreInvariant after := by
  have popped := (kept_popEcho timerBlind_key runtime ref index).invariant invariant
  rcases echoTimer_cases fired with ⟨session, _, ⟨_, expired⟩ | ⟨_, aborted⟩⟩
  · rw [expired]
    exact (kept_collect _ ref).invariant (storeInvariant_sendEchoReq popped env ref)
  · rw [aborted]
    exact (kept_collect _ ref).invariant popped

theorem storeInvariant_processPPPOE {runtime after : Runtime} {env : Env} {encap : Encapsulation}
    {packet : Packet} {err : Option String} (invariant : StoreInvariant runtime)
    (processed : runtime.processPPPOE env encap packet = some (after, err)) :
    StoreInvariant after := by
  rcases processPPPOE_cases processed with ⟨_, before, queue, queued, handled⟩ | ⟨_, ended⟩
  · have same : Kept PPPOESession.key before after := .of_same (by rw [queued]) (by rw [queued])
    apply same.invariant
    rcases handled with same | ⟨conn, pended⟩ | ⟨conn, checked⟩ | ⟨conn, result, allocated, entered⟩
    · rw [same]
      exact invariant
    · rw [pended]
      exact (kept_pendeSession runtime conn).invariant invariant
    · rw [checked]
      exact (kept_checkSession runtime conn).invariant invariant
    · rw [entered]
      exact storeInvariant_allocateSession
        ((kept_checkSession runtime conn).invariant invariant) env encap allocated
  · rw [ended]
    exact storeInvariant_deallocateSession invariant _

/-- A quiet step keeps every view. -/
theorem Quiet.kept {View : Type} {view : PPPOESession -> View} {now after : Runtime}
    (quiet : Quiet now after) : Kept view now after :=
  .of_same quiet.store quiet.sessions

/-- The daemon keeps the invariant with every event. -/
theorem storeInvariant_step {now after : Runtime} {event : Event} (invariant : StoreInvariant now)
    (taken : step now event = some after) : StoreInvariant after := by
  rcases event with ⟨env, input⟩
  cases step_cases taken with
  | discovery processed => exact storeInvariant_processPPPOE invariant processed
  | session processed => exact storeInvariant_processPPP invariant processed
  | pendingTimer fired => exact (kept_pendingTimer fired).invariant invariant
  | echoExpires expired =>
      rw [expired]
      exact (kept_echoExpires timerBlind_key now _).invariant invariant
  | echoTimer fired => exact storeInvariant_echoTimer invariant fired
  | authDatagram _ called =>
      rw [called]
      exact (kept_withCalls authBlind_key now _).invariant invariant
  | authTimer _ called =>
      rw [called]
      exact (kept_withCalls authBlind_key now _).invariant invariant
  | quiet quiet => exact quiet.kept.invariant invariant

/-- The session tables agree in every state the daemon can reach. -/
theorem storeInvariant_of_reachable {start runtime : Runtime} (fresh : start.Fresh)
    (reached : Reachable step start runtime) : StoreInvariant runtime :=
  reached.invariant (storeInvariant_empty fresh.store)
    (fun _ _ _ here taken => storeInvariant_step here taken)

end Runtime

end Pppcpd
