import Pppcpd.Runtime.Evolution

namespace Pppcpd

open Foundation

/-!
# The dead ends of a session

A session proceeds as long as its automata are where the negotiation has taken
them.  Two things lead away from there.  Without an authentication protocol LCP
has no request to send and stays in Starting, and a Terminate-Request takes an
Opened IPCP to Stopping, which nobody acts on.  Out of these states nothing
leads, and the session lives on.
-/

/-- LCP has no request to send exactly when no protocol is chosen. -/
theorem LCPFsm.authOption_eq_none_iff (policy : LCPPolicy) :
    authOption policy = none ↔ policy.authProtocol = none := by
  unfold LCPPolicy.authProtocol authOption
  split
  · exact iff_of_false (Option.some_ne_none _) (Option.some_ne_none _)
  · split
    · exact iff_of_false (Option.some_ne_none _) (Option.some_ne_none _)
    · exact iff_of_true rfl rfl

namespace IPCPFsm

/-- The start of IPCP gets to Req_Sent at least. -/
theorem negotiates_start (hwaddr : Mac) (getSession : SessionLookup) {session : PPPOESession}
    (before : session.ipcp.state = .initial ∨ session.ipcp.state.Negotiates) :
    ((protocol hwaddr getSession).start session).session.ipcp.state.Negotiates := by
  rcases before with initial | negotiates
  · have state := FsmClass.start_of_initial (protocol_lawful hwaddr getSession) initial (fun _ => rfl)
    exact .inl state
  · have quiet := @FsmClass.start_of_negotiates (protocol hwaddr getSession) session negotiates
    rw [quiet]
    exact negotiates

end IPCPFsm

namespace Runtime

variable {now : Runtime} {event : Event}

/-- How far a session has come that is in no dead end. -/
structure Proceeds (session : PPPOESession) : Prop where
  waiting : session.started = false -> session.lcp.state = .initial
  lcp : session.started = true -> session.lcp.state.Negotiates
  ipcp : session.ipcp.state ≠ .initial ->
    session.ipcp.state.Negotiates ∧ session.aaaSessionId ≠ uint32Max
  authenticated : forall protocol : AuthProtocol, protocol.started session = true ->
    session.ipcp.state ≠ .initial

/-- LCP waits for the first packet, or it could not send its request. -/
def Blocked (session : PPPOESession) : Prop :=
  session.lcp.state = if session.started then .starting else .initial

/-- No event of the peer or of AAA leads out of here. -/
def Stuck (session : PPPOESession) : Prop :=
  session.started = true ∧ session.lcp.state = .starting ∨ session.ipcp.state = .stopping

/-- What IPCP leaves alone of the course of a session. -/
theorem course_of_ipcp {first second : PPPOESession}
    (same : IPCPFsm.outside first = IPCPFsm.outside second) :
    first.started = second.started ∧ first.lcp = second.lcp ∧
      first.aaaSessionId = second.aaaSessionId ∧ first.auth = second.auth ∧ first.chap = second.chap := by
  have started := congrArg PPPOESession.started same
  have lcp := congrArg PPPOESession.lcp same
  have aaa := congrArg PPPOESession.aaaSessionId same
  have auth := congrArg PPPOESession.auth same
  have chap := congrArg PPPOESession.chap same
  exact ⟨started, lcp, aaa, auth, chap⟩

/-- What LCP leaves alone of it. -/
theorem course_of_lcp {first second : PPPOESession}
    (same : LCPFsm.outside first = LCPFsm.outside second) :
    first.started = second.started ∧ first.ipcp = second.ipcp ∧
      first.aaaSessionId = second.aaaSessionId ∧ first.auth = second.auth ∧ first.chap = second.chap := by
  have started := congrArg PPPOESession.started same
  have ipcp := congrArg PPPOESession.ipcp same
  have aaa := congrArg PPPOESession.aaaSessionId same
  have auth := congrArg PPPOESession.auth same
  have chap := congrArg PPPOESession.chap same
  exact ⟨started, ipcp, aaa, auth, chap⟩

theorem started_congr {first second : PPPOESession} (auth : first.auth = second.auth)
    (chap : first.chap = second.chap) (protocol : AuthProtocol) :
    protocol.started first = protocol.started second := by
  cases protocol with
  | pap => exact congrArg PPPAuth.started auth
  | chap => exact congrArg PPPChap.started chap

/-! ## What a touch keeps -/

/-- The start of IPCP leads nowhere from there. -/
theorem Stuck.start {session : PPPOESession} (stuck : Stuck session) (hwaddr : Mac)
    (getSession : IPCPFsm.SessionLookup) :
    Stuck ((IPCPFsm.protocol hwaddr getSession).start session).session := by
  rcases course_of_ipcp ((IPCPFsm.protocol_leaves hwaddr getSession).start session) with
    ⟨started, lcp, _⟩
  rcases stuck with ⟨began, starting⟩ | stopping
  · exact .inl ⟨started.trans began, (congrArg (fun lcp => lcp.state) lcp).trans starting⟩
  · have quiet := @FsmClass.start_of_stopping (IPCPFsm.protocol hwaddr getSession) session stopping
    rw [quiet]
    exact .inr stopping

namespace Proceeds

variable {old session : PPPOESession}

theorem of_course (proceeds : Proceeds old) (same : course session = course old) :
    Proceeds session := by
  have started : session.started = old.started := congrArg Course.started same
  have lcp : session.lcp.state = old.lcp.state := congrArg Course.lcp same
  have ipcp : session.ipcp.state = old.ipcp.state := congrArg Course.ipcp same
  have aaa : session.aaaSessionId = old.aaaSessionId := congrArg Course.aaaSessionId same
  refine ⟨fun waits => ?_, fun began => ?_, fun left => ?_, fun protocol was => ?_⟩
  · exact lcp.trans (proceeds.waiting (started.symm.trans waits))
  · exact lcp ▸ proceeds.lcp (started.symm.trans began)
  · rw [ipcp] at left ⊢
    rw [aaa]
    exact proceeds.ipcp left
  · rw [ipcp]
    refine proceeds.authenticated protocol ?_
    cases protocol with
    | pap => exact (congrArg Course.papStarted same).symm.trans was
    | chap => exact (congrArg Course.chapStarted same).symm.trans was

theorem of_unused (unused : Unused session) : Proceeds session := by
  have started : session.started = false := congrArg Course.started unused
  have lcp : session.lcp.state = .initial := congrArg Course.lcp unused
  have ipcp : session.ipcp.state = .initial := congrArg Course.ipcp unused
  have pap : session.auth.started = false := congrArg Course.papStarted unused
  have chap : session.chap.started = false := congrArg Course.chapStarted unused
  refine ⟨fun _ => lcp, fun began => ?_, fun left => absurd ipcp left, fun protocol was => ?_⟩
  · rw [started] at began
    cases began
  · cases protocol with
    | pap => exact absurd (pap.symm.trans was) (by decide)
    | chap => exact absurd (chap.symm.trans was) (by decide)

/-- IPCP is Initial or negotiates. -/
theorem before_start (proceeds : Proceeds session) :
    session.ipcp.state = .initial ∨ session.ipcp.state.Negotiates := by
  by_cases initial : session.ipcp.state = .initial
  · exact .inl initial
  · exact .inr (proceeds.ipcp initial).1

/-- A session whose IPCP was started with the number of an AAA session. -/
theorem of_ipcp (proceeds : Proceeds old) (started : session.started = old.started)
    (lcp : session.lcp = old.lcp) (negotiates : session.ipcp.state.Negotiates)
    (named : session.aaaSessionId ≠ uint32Max) : Proceeds session := by
  refine ⟨fun waits => ?_, fun began => ?_, fun _ => ⟨negotiates, named⟩, fun _ _ initial => ?_⟩
  · rw [lcp]
    exact proceeds.waiting (started.symm.trans waits)
  · rw [lcp]
    exact proceeds.lcp (started.symm.trans began)
  · rw [initial] at negotiates
    exact absurd negotiates (by decide)

/-- LCP was started, or it received a packet that does not end the session. -/
theorem of_lcp (proceeds : Proceeds old) (started : session.started = true)
    (negotiates : session.lcp.state.Negotiates) (ipcp : session.ipcp = old.ipcp)
    (aaa : session.aaaSessionId = old.aaaSessionId) (auth : session.auth = old.auth)
    (chap : session.chap = old.chap) : Proceeds session := by
  refine ⟨fun waits => ?_, fun _ => negotiates, fun left => ?_, fun protocol was => ?_⟩
  · rw [started] at waits
    cases waits
  · rw [ipcp] at left ⊢
    rw [aaa]
    exact proceeds.ipcp left
  · rw [ipcp]
    exact proceeds.authenticated protocol ((started_congr auth chap protocol).symm.trans was)

/-- With an authentication protocol, and while no Terminate-Request reaches an
Opened IPCP, every touch keeps a session from a dead end. -/
theorem touch (proceeds : Proceeds old) (chosen : now.lcpConf.authProtocol ≠ none)
    (spares : SparesIpcp now event) (touched : Touch now event old session) :
    Proceeds session := by
  cases touched with
  | aside same => exact proceeds.of_course same
  | begins context policy waits =>
      have outside := (LCPFsm.protocol_leaves context).start old
      have sends := fun asking => LCPFsm.sendConfReq_silent
        (fun none => chosen (policy ▸ (LCPFsm.authOption_eq_none_iff context.lcpConf).mp none)) asking
      have state := FsmClass.start_of_initial (LCPFsm.protocol_lawful context)
        (proceeds.waiting waits) sends
      rcases course_of_lcp outside with ⟨_, ipcp, aaa, auth, chap⟩
      exact proceeds.of_lcp rfl (.inl state) ipcp aaa auth chap
  | @lcp packet out context began received stays =>
      have outside := (LCPFsm.protocol_leaves context).receive received
      rcases course_of_lcp outside with ⟨started, ipcp, aaa, auth, chap⟩
      rcases (LCPFsm.protocol_progressive context).receive received (proceeds.lcp began) with
        negotiates | ⟨_, _, noError, down⟩
      · exact proceeds.of_lcp (started.trans began) negotiates ipcp aaa auth chap
      · exact absurd ⟨noError, down⟩ stays
  | unguarded hwaddr getSession unchosen => exact absurd unchosen chosen
  | granted hwaddr protocol sid isNumber =>
      have before : (protocol.setStarted { old with aaaSessionId := sid }).ipcp.state = .initial ∨
          (protocol.setStarted { old with aaaSessionId := sid }).ipcp.state.Negotiates := by
        cases protocol <;> exact proceeds.before_start
      have outside := (IPCPFsm.protocol_leaves hwaddr (fun _ => none)).start
        (protocol.setStarted { old with aaaSessionId := sid })
      have negotiates := IPCPFsm.negotiates_start hwaddr (fun _ => none) before
      rcases course_of_ipcp outside with ⟨started, lcp, aaa, _⟩
      refine proceeds.of_ipcp ?_ ?_ negotiates ?_
      · refine started.trans ?_
        cases protocol <;> rfl
      · refine lcp.trans ?_
        cases protocol <;> rfl
      · have named : (protocol.setStarted { old with aaaSessionId := sid }).aaaSessionId = sid := by
          cases protocol <;> rfl
        rw [show (protocol.authCallback hwaddr sid none old).session.aaaSessionId = sid from
          aaa.trans named]
        exact isNumber
  | repeated hwaddr protocol was =>
      have left := proceeds.authenticated protocol was
      have outside := (IPCPFsm.protocol_leaves hwaddr (fun _ => none)).start old
      rcases course_of_ipcp outside with ⟨started, lcp, aaa, _⟩
      refine proceeds.of_ipcp started lcp (IPCPFsm.negotiates_start hwaddr _ proceeds.before_start) ?_
      rw [show (protocol.sendAuthAck hwaddr old).session.aaaSessionId = old.aaaSessionId from aaa]
      exact (proceeds.ipcp left).2
  | @ipcp packet out hwaddr getSession received ends =>
      by_cases initial : old.ipcp.state = .initial
      · have same := @FsmClass.receive_of_initial (IPCPFsm.protocol hwaddr getSession) _ _ _ initial
          received
        rw [same]
        exact proceeds
      · have outside := (IPCPFsm.protocol_leaves hwaddr getSession).receive received
        rcases course_of_ipcp outside with ⟨started, lcp, aaa, _⟩
        rcases (IPCPFsm.protocol_progressive hwaddr getSession).receive received
          (proceeds.ipcp initial).1 with negotiates | ⟨isTermReq, opened, _⟩
        · exact proceeds.of_ipcp started lcp negotiates (aaa ▸ (proceeds.ipcp initial).2)
        · exact absurd opened (ends spares isTermReq)

end Proceeds

theorem Stuck.of_course {old session : PPPOESession} (stuck : Stuck old)
    (same : course session = course old) : Stuck session := by
  have started : session.started = old.started := congrArg Course.started same
  have lcp : session.lcp.state = old.lcp.state := congrArg Course.lcp same
  have ipcp : session.ipcp.state = old.ipcp.state := congrArg Course.ipcp same
  unfold Stuck
  rw [started, lcp, ipcp]
  exact stuck

/-- Whatever touches a stuck session leaves it stuck. -/
theorem Stuck.touch {old session : PPPOESession} (stuck : Stuck old)
    (touched : Touch now event old session) : Stuck session := by
  cases touched with
  | aside same => exact stuck.of_course same
  | begins context _ waits =>
      rcases stuck with ⟨began, _⟩ | stopping
      · rw [waits] at began
        cases began
      · rcases course_of_lcp ((LCPFsm.protocol_leaves context).start old) with ⟨_, ipcp, _⟩
        exact .inr ((congrArg PPPFsm.state ipcp).trans stopping)
  | lcp context began received _ =>
      rcases course_of_lcp ((LCPFsm.protocol_leaves context).receive received) with ⟨started, ipcp, _⟩
      rcases stuck with ⟨_, starting⟩ | stopping
      · have state := FsmClass.receive_of_deadEnd (LCPFsm.protocol_lawful context) (.inl starting)
          received
        exact .inl ⟨started.trans began, state.trans starting⟩
      · exact .inr ((congrArg PPPFsm.state ipcp).trans stopping)
  | unguarded hwaddr getSession _ => exact stuck.start hwaddr getSession
  | granted hwaddr protocol sid _ =>
      have before : Stuck (protocol.setStarted { old with aaaSessionId := sid }) := by
        cases protocol <;> exact stuck
      exact before.start hwaddr _
  | repeated hwaddr protocol _ => exact stuck.start hwaddr _
  | ipcp hwaddr getSession received _ =>
      rcases course_of_ipcp ((IPCPFsm.protocol_leaves hwaddr getSession).receive received) with
        ⟨started, lcp, _⟩
      rcases stuck with ⟨began, starting⟩ | stopping
      · exact .inl ⟨started.trans began, (congrArg (fun lcp => lcp.state) lcp).trans starting⟩
      · have state := FsmClass.receive_of_deadEnd (IPCPFsm.protocol_lawful hwaddr getSession)
          (.inr stopping) received
        exact .inr (state.trans stopping)

theorem Blocked.congr {old session : PPPOESession} (blocked : Blocked old)
    (started : session.started = old.started) (lcp : session.lcp.state = old.lcp.state) :
    Blocked session := by
  unfold Blocked
  rw [started, lcp]
  exact blocked

theorem Blocked.of_unused {session : PPPOESession} (unused : Unused session) : Blocked session := by
  have started : session.started = false := congrArg Course.started unused
  have lcp : session.lcp.state = .initial := congrArg Course.lcp unused
  unfold Blocked
  rw [started, lcp]
  rfl

/-- Without an authentication protocol, LCP never gets past Starting. -/
theorem Blocked.touch {old session : PPPOESession} (blocked : Blocked old)
    (unchosen : now.lcpConf.authProtocol = none) (touched : Touch now event old session) :
    Blocked session := by
  have started_ipcp : forall hwaddr getSession (object : PPPOESession), Blocked object ->
      Blocked ((IPCPFsm.protocol hwaddr getSession).start object).session := by
    intro hwaddr getSession object before
    rcases course_of_ipcp ((IPCPFsm.protocol_leaves hwaddr getSession).start object) with
      ⟨started, lcp, _⟩
    exact before.congr started (congrArg (fun lcp => lcp.state) lcp)
  cases touched with
  | aside same => exact blocked.congr (congrArg Course.started same) (congrArg Course.lcp same)
  | begins context policy waits =>
      unfold Blocked at blocked
      rw [waits, if_neg (by decide)] at blocked
      exact LCPFsm.start_without_auth
        (policy ▸ (LCPFsm.authOption_eq_none_iff now.lcpConf).mpr unchosen) blocked
  | lcp context began received _ =>
      have starting := blocked
      unfold Blocked at starting
      rw [began, if_pos rfl] at starting
      rcases course_of_lcp ((LCPFsm.protocol_leaves context).receive received) with ⟨started, _⟩
      exact blocked.congr started
        (FsmClass.receive_of_deadEnd (LCPFsm.protocol_lawful context) (.inl starting) received)
  | unguarded hwaddr getSession _ => exact started_ipcp hwaddr getSession old blocked
  | granted hwaddr protocol sid _ =>
      have before : Blocked (protocol.setStarted { old with aaaSessionId := sid }) := by
        cases protocol <;> exact blocked
      exact started_ipcp hwaddr _ _ before
  | repeated hwaddr protocol _ => exact started_ipcp hwaddr _ old blocked
  | ipcp hwaddr getSession received _ =>
      rcases course_of_ipcp ((IPCPFsm.protocol_leaves hwaddr getSession).receive received) with
        ⟨started, lcp, _⟩
      exact blocked.congr started (congrArg (fun lcp => lcp.state) lcp)

/-- A Terminate-Request takes an Opened IPCP to Stopping. -/
theorem stopping_of_termReq {hwaddr : Mac} {getSession : IPCPFsm.SessionLookup}
    {session : PPPOESession} {packet : Packet} {out : FsmOut}
    (opened : session.ipcp.state = .opened) (isTermReq : packet.code = LCPCode.termReq)
    (received : (IPCPFsm.protocol hwaddr getSession).receive session packet = some out) :
    out.session.ipcp.state = .stopping := by
  have state : (IPCPFsm.protocol hwaddr getSession).state session = .opened := opened
  unfold FsmClass.receive FsmClass.recvTermReq at received
  dsimp only at received
  rw [state, if_neg (by decide), isTermReq, if_neg (by decide), if_neg (by decide), if_pos rfl]
    at received
  rw [← Option.some.inj received]
  rfl

/-- This is a dead end. -/
theorem stuck_of_termReq {hwaddr : Mac} {getSession : IPCPFsm.SessionLookup}
    {session : PPPOESession} {packet : Packet} {out : FsmOut}
    (opened : session.ipcp.state = .opened) (isTermReq : packet.code = LCPCode.termReq)
    (received : (IPCPFsm.protocol hwaddr getSession).receive session packet = some out) :
    Stuck out.session := .inr (stopping_of_termReq opened isTermReq received)

/-! ## Runs -/

/-- No active session is in a dead end, and LCP has a protocol to ask for. -/
structure ProgressInvariant (runtime : Runtime) : Prop where
  references : ReferenceInvariant runtime
  chosen : runtime.lcpConf.authProtocol ≠ none
  sessions : forall ref session, runtime.store.activeSessions.Holds ref ->
    runtime.sessions.deref ref = some session -> Proceeds session

/-- What every touch keeps, several keep. -/
theorem holds_of_touches {holds : PPPOESession -> Prop} {old session : PPPOESession}
    (touch : forall {first second}, holds first -> Touch now event first second -> holds second)
    (touches : Relation.ReflTransGen (Touch now event) old session) (before : holds old) :
    holds session := by
  induction touches with
  | refl => exact before
  | tail _ touched inductionHypothesis => exact touch inductionHypothesis touched

/-- What every new session has and every touch keeps, all active sessions have
after a step. -/
theorem sessions_step {holds : PPPOESession -> Prop} {after : Runtime}
    (references : ReferenceInvariant now)
    (unused : forall session, Unused session -> holds session)
    (touch : forall {first second}, holds first -> Touch now event first second -> holds second)
    (before : forall ref session, now.store.activeSessions.Holds ref ->
      now.sessions.deref ref = some session -> holds session)
    (taken : step now event = some after) {ref : Nat} {session : PPPOESession}
    (active : after.store.activeSessions.Holds ref)
    (present : after.sessions.deref ref = some session) : holds session := by
  rcases (Evolves.step references taken).sessions ref session active present with
    ⟨old, touches, origin⟩
  refine holds_of_touches touch touches ?_
  rcases origin with ⟨wasActive, found⟩ | ⟨_, isUnused⟩
  · exact before ref old wasActive found
  · exact unused old isUnused

theorem lcpConf_step {after : Runtime} (references : ReferenceInvariant now)
    (taken : step now event = some after) : after.lcpConf = now.lcpConf :=
  (Evolves.step references taken).policy

theorem progressInvariant_step {after : Runtime} (invariant : ProgressInvariant now)
    (spares : SparesIpcp now event) (taken : step now event = some after) :
    ProgressInvariant after := by
  have policy := lcpConf_step invariant.references taken
  refine ⟨referenceInvariant_step invariant.references taken, policy ▸ invariant.chosen, ?_⟩
  intro ref session active present
  exact sessions_step invariant.references (fun _ unused => .of_unused unused)
    (fun before => before.touch invariant.chosen spares) invariant.sessions taken active present

theorem progressInvariant_fresh {start : Runtime} (fresh : start.Fresh)
    (chosen : start.lcpConf.authProtocol ≠ none) : ProgressInvariant start where
  references := referenceInvariant_fresh fresh
  chosen := chosen
  sessions := by
    intro ref session active
    rw [fresh.store] at active
    rcases active with ⟨key, found⟩
    cases found

theorem progressInvariant_of_run {start now : Runtime} {past : List (Runtime × Event)}
    (fresh : start.Fresh) (chosen : start.lcpConf.authProtocol ≠ none)
    (run : Run step SparesIpcp start past now) : ProgressInvariant now :=
  run.invariant (progressInvariant_fresh fresh chosen)
    (fun _ _ _ here spares taken => progressInvariant_step here spares taken)

/-- No active session has got past the start of LCP, and no protocol is chosen. -/
structure BlockedInvariant (runtime : Runtime) : Prop where
  references : ReferenceInvariant runtime
  unchosen : runtime.lcpConf.authProtocol = none
  sessions : forall ref session, runtime.store.activeSessions.Holds ref ->
    runtime.sessions.deref ref = some session -> Blocked session

theorem blockedInvariant_step {after : Runtime} (invariant : BlockedInvariant now)
    (taken : step now event = some after) : BlockedInvariant after := by
  have policy := lcpConf_step invariant.references taken
  refine ⟨referenceInvariant_step invariant.references taken, policy ▸ invariant.unchosen, ?_⟩
  intro ref session active present
  exact sessions_step invariant.references (fun _ unused => .of_unused unused)
    (fun before => before.touch invariant.unchosen) invariant.sessions taken active present

theorem blockedInvariant_of_reachable {start now : Runtime} (fresh : start.Fresh)
    (unchosen : start.lcpConf.authProtocol = none) (reached : Reachable step start now) :
    BlockedInvariant now := by
  refine reached.invariant ⟨referenceInvariant_fresh fresh, unchosen, ?_⟩
    (fun _ _ _ here taken => blockedInvariant_step here taken)
  intro ref session active
  rw [fresh.store] at active
  rcases active with ⟨key, found⟩
  cases found

/-- The session object, as long as it is active, is stuck. -/
structure Trapped (ref : Nat) (runtime : Runtime) : Prop where
  references : ReferenceInvariant runtime
  present : ∃ session, runtime.sessions.deref ref = some session
  stuck : forall session, runtime.store.activeSessions.Holds ref ->
    runtime.sessions.deref ref = some session -> Stuck session

theorem trapped_step {after : Runtime} {ref : Nat} (trapped : Trapped ref now)
    (taken : step now event = some after) : Trapped ref after := by
  have evolves := Evolves.step trapped.references taken
  rcases trapped.present with ⟨was, found⟩
  refine ⟨referenceInvariant_step trapped.references taken, evolves.present ref was found, ?_⟩
  intro session active present
  rcases evolves.sessions ref session active present with
    ⟨old, touches, ⟨wasActive, there⟩ | ⟨absent, _⟩⟩
  · exact holds_of_touches (fun before => before.touch) touches (trapped.stuck old wasActive there)
  · rw [found] at absent
    cases absent

/-- A stuck session is stuck until it ends. -/
theorem trapped_of_run {start now : Runtime} {past : List (Runtime × Event)} {ref : Nat}
    (trapped : Trapped ref start) (run : Run step anyStep start past now) : Trapped ref now :=
  run.invariant trapped (fun _ _ _ here _ taken => trapped_step here taken)

end Runtime

end Pppcpd
