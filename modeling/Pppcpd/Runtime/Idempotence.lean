import Pppcpd.Runtime.DeadEnds
import Pppcpd.Runtime.Logins

namespace Pppcpd

open Foundation

/-!
# Repeated requests to authenticate

A request of a session that has been authenticated is answered with the success
again, and IPCP is started again.  The start does something in few states of IPCP
only, and none of them is left for a session that was authenticated: its IPCP
negotiates, or it was terminated.  So nothing but the answer comes of the request.
-/

/-- IPCP was started: it negotiates, or a Terminate-Request ended it. -/
def Underway (session : PPPOESession) : Prop :=
  session.ipcp.state.Negotiates ∨ session.ipcp.state = .stopping

/-- Where IPCP of a session can be, and where it is after a success. -/
structure Orderly (session : PPPOESession) : Prop where
  ipcp : session.ipcp.state = .initial ∨ Underway session
  authenticated : forall protocol : AuthProtocol, protocol.started session = true -> Underway session

theorem Underway.start {session : PPPOESession} (underway : Underway session) (hwaddr : Mac)
    (getSession : IPCPFsm.SessionLookup) :
    (IPCPFsm.protocol hwaddr getSession).start session = session.done := by
  rcases underway with negotiates | stopping
  · exact @FsmClass.start_of_negotiates (IPCPFsm.protocol hwaddr getSession) session negotiates
  · exact @FsmClass.start_of_stopping (IPCPFsm.protocol hwaddr getSession) session stopping

/-- The answer to a repeated request is a success and nothing else. -/
theorem AuthProtocol.sendAuthAck_of_underway {session : PPPOESession} (underway : Underway session)
    (hwaddr : Mac) (protocol : AuthProtocol) :
    protocol.sendAuthAck hwaddr session =
      ⟨session, [session.frame hwaddr (protocol.answerPacket session.sessionId protocol.ackCode)],
        .layerUp, none⟩ := by
  unfold AuthProtocol.sendAuthAck
  rw [underway.start hwaddr]
  rfl

namespace Orderly

variable {now : Runtime} {event : Event} {old session : PPPOESession}

theorem of_underway (underway : Underway session) : Orderly session :=
  ⟨.inr underway, fun _ _ => underway⟩

theorem congr (orderly : Orderly old) (ipcp : session.ipcp.state = old.ipcp.state)
    (flags : forall protocol : AuthProtocol, protocol.started session = protocol.started old) :
    Orderly session := by
  refine ⟨?_, fun protocol was => ?_⟩
  · unfold Underway
    rw [ipcp]
    exact orderly.ipcp
  · unfold Underway
    rw [ipcp]
    exact orderly.authenticated protocol ((flags protocol).symm.trans was)

theorem of_unused (unused : Unused session) : Orderly session := by
  have initial : session.ipcp.state = .initial := congrArg Course.ipcp unused
  refine ⟨.inl initial, fun protocol was => ?_⟩
  have fresh : protocol.started session = false := by
    cases protocol with
    | pap => exact congrArg Course.papStarted unused
    | chap => exact congrArg Course.chapStarted unused
  exact absurd (fresh.symm.trans was) (by decide)

/-- The start of IPCP gets it under way. -/
theorem start (before : old.ipcp.state = .initial ∨ Underway old) (hwaddr : Mac)
    (getSession : IPCPFsm.SessionLookup) :
    Underway ((IPCPFsm.protocol hwaddr getSession).start old).session := by
  rcases before with initial | underway
  · exact .inl (IPCPFsm.negotiates_start hwaddr getSession (.inl initial))
  · rw [underway.start hwaddr getSession]
    exact underway

/-- A packet leaves IPCP in Initial, or under way. -/
theorem receive (orderly : Orderly old) {hwaddr : Mac} {getSession : IPCPFsm.SessionLookup}
    {packet : Packet} {out : FsmOut}
    (received : (IPCPFsm.protocol hwaddr getSession).receive old packet = some out) :
    Orderly out.session := by
  rcases orderly.ipcp with initial | negotiates | stopping
  · rw [@FsmClass.receive_of_initial (IPCPFsm.protocol hwaddr getSession) _ _ _ initial received]
    exact orderly
  · refine of_underway ?_
    rcases (IPCPFsm.protocol_progressive hwaddr getSession).receive received negotiates with
      still | ⟨isTermReq, opened, _⟩
    · exact .inl still
    · exact .inr (Runtime.stopping_of_termReq opened isTermReq received)
  · refine of_underway (.inr ?_)
    exact (FsmClass.receive_of_deadEnd (IPCPFsm.protocol_lawful hwaddr getSession)
      (.inr stopping) received).trans stopping

/-- Whatever touches a session leaves it in order. -/
theorem touch (orderly : Orderly old) (touched : Runtime.Touch now event old session) :
    Orderly session := by
  cases touched with
  | aside same =>
      refine orderly.congr (congrArg Course.ipcp same) (fun protocol => ?_)
      cases protocol with
      | pap => exact congrArg Course.papStarted same
      | chap => exact congrArg Course.chapStarted same
  | begins context _ _ =>
      rcases Runtime.course_of_lcp ((LCPFsm.protocol_leaves context).start old) with
        ⟨_, ipcp, _, auth, chap⟩
      exact orderly.congr (congrArg PPPFsm.state ipcp) (Runtime.started_congr auth chap)
  | lcp context _ received _ =>
      rcases Runtime.course_of_lcp ((LCPFsm.protocol_leaves context).receive received) with
        ⟨_, ipcp, _, auth, chap⟩
      exact orderly.congr (congrArg PPPFsm.state ipcp) (Runtime.started_congr auth chap)
  | unguarded hwaddr getSession _ => exact of_underway (start orderly.ipcp hwaddr getSession)
  | granted hwaddr protocol sid _ =>
      have before : (protocol.setStarted { old with aaaSessionId := sid }).ipcp.state = .initial ∨
          Underway (protocol.setStarted { old with aaaSessionId := sid }) := by
        cases protocol <;> exact orderly.ipcp
      exact of_underway (start before hwaddr _)
  | repeated hwaddr protocol _ => exact of_underway (start orderly.ipcp hwaddr _)
  | ipcp hwaddr getSession received _ => exact orderly.receive received

end Orderly

/-! ## The start of a session -/

/-- Whether a session was started, and by which protocols it was authenticated. -/
def opening (session : PPPOESession) : Bool × Bool × Bool :=
  (session.started, session.auth.started, session.chap.started)

theorem opening_of_lcp {first second : PPPOESession}
    (same : LCPFsm.outside first = LCPFsm.outside second) : opening first = opening second := by
  have parts := congrArg opening same
  exact parts

theorem ipcpBlind_opening : IpcpBlind opening := by
  intro first second same
  have parts := congrArg opening same
  exact parts

theorem openBlind_opening : OpenBlind opening := .of_ipcp ipcpBlind_opening (fun _ _ => rfl)

theorem timerBlind_opening : TimerBlind opening := ⟨fun _ _ => rfl, fun _ _ => rfl⟩

theorem authBlind_started : AuthBlind PPPOESession.started :=
  .of_outside (by
    intro first second same
    have started := congrArg PPPOESession.started same
    exact started) (fun _ _ => rfl)

theorem started_of_opening {first second : PPPOESession} (same : opening first = opening second)
    (protocol : AuthProtocol) : protocol.started first = protocol.started second := by
  cases protocol with
  | pap => exact congrArg (fun parts => parts.2.1) same
  | chap => exact congrArg (fun parts => parts.2.2) same

namespace Runtime

/-- The session object was started by a packet. -/
def Begun (runtime : Runtime) (ref : Nat) : Prop :=
  ∃ session, runtime.sessions.deref ref = some session ∧ session.started = true

/-- A session that was authenticated, or waits for the answer of AAA, was started. -/
structure OpeningInvariant (runtime : Runtime) : Prop where
  authenticated : forall ref session, runtime.sessions.deref ref = some session ->
    forall protocol : AuthProtocol, protocol.started session = true -> session.started = true
  awaited : forall callback, runtime.aaa.Awaits callback -> runtime.Begun callback.session

theorem Begun.of_kept {before after : Runtime} {ref : Nat} (begun : before.Begun ref)
    (kept : Kept PPPOESession.started before after) : after.Begun ref := by
  rcases begun with ⟨old, found, started⟩
  rcases kept.session found with ⟨session, present, same⟩
  exact ⟨session, present, same.trans started⟩

namespace OpeningInvariant

variable {before after runtime : Runtime}

/-- Every session was started, or is not authenticated, or is as it was, and every new
request to AAA is for a session that was started. -/
theorem extend (invariant : OpeningInvariant before)
    (begun : forall ref, before.Begun ref -> after.Begun ref)
    (sessions : forall ref session, after.sessions.deref ref = some session ->
      session.started = true ∨ (forall protocol : AuthProtocol, protocol.started session = false) ∨
        ∃ old, before.sessions.deref ref = some old ∧ opening session = opening old)
    (awaited : forall callback, after.aaa.Awaits callback ->
      before.aaa.Awaits callback ∨ after.Begun callback.session) : OpeningInvariant after where
  authenticated := by
    intro ref session present protocol was
    rcases sessions ref session present with started | fresh | ⟨old, found, same⟩
    · exact started
    · rw [fresh protocol] at was
      cases was
    · have flag : protocol.started old = true := (started_of_opening same protocol).symm.trans was
      have started : session.started = old.started := congrArg Prod.fst same
      exact started.trans (invariant.authenticated ref old found protocol flag)
  awaited := by
    intro callback awaits
    rcases awaited callback awaits with known | new
    · exact begun _ (invariant.awaited callback known)
    · exact new

theorem of_kept (invariant : OpeningInvariant before) (kept : Kept opening before after)
    (requests : forall callback, after.aaa.Awaits callback -> before.aaa.Awaits callback) :
    OpeningInvariant after := by
  refine invariant.extend (fun ref begun => begun.of_kept (kept.map Prod.fst))
    (fun ref session present => .inr (.inr ?_)) (fun callback awaits => .inl (requests callback awaits))
  rcases kept.symm.session present with ⟨old, found, same⟩
  exact ⟨old, found, same.symm⟩

theorem deallocateSession (invariant : OpeningInvariant runtime) (sid : UInt16) :
    OpeningInvariant (runtime.deallocateSession sid).1 := by
  refine invariant.extend (fun ref begun => ?_) (fun ref session present => .inr (.inr ?_))
    (fun callback awaits => .inl ((Calm.deallocateSession runtime sid).requests callback awaits))
  · unfold Begun
    rw [deref_deallocateSession]
    exact begun
  · rw [deref_deallocateSession] at present
    exact ⟨session, present, rfl⟩

/-- A new session was not authenticated. -/
theorem allocateSession (invariant : OpeningInvariant runtime) (tables : StoreInvariant runtime)
    {env : Env} {encap : Encapsulation} {result : Runtime × UInt16 × Option String}
    (allocated : runtime.allocateSession env encap = some result) : OpeningInvariant result.1 := by
  rcases allocateSession_cases tables env encap allocated with full | ⟨id, _, _, entered⟩
  · rw [full]
    exact invariant
  · rw [entered]
    refine invariant.extend (fun ref begun => ?_) (fun ref session present => ?_)
      (fun callback awaits => .inl awaits)
    · rcases begun with ⟨old, found, started⟩
      exact ⟨old, (Heap.deref_make_of_lt _ (Heap.lt_length_of_deref found)).trans found, started⟩
    · dsimp only at present
      rw [Heap.deref_make] at present
      split at present
      · rw [← Option.some.inj present]
        refine .inr (.inl (fun protocol => ?_))
        cases protocol <;> rfl
      · exact .inr (.inr ⟨session, present, rfl⟩)

theorem ensureStarted (invariant : OpeningInvariant runtime) (env : Env) (ref : Nat) :
    OpeningInvariant (runtime.ensureStarted env ref) := by
  have requests : forall callback, (runtime.ensureStarted env ref).aaa.Awaits callback ->
      runtime.aaa.Awaits callback := by
    rw [aaa_ensureStarted]
    exact fun _ awaits => awaits
  have others : forall other, other ≠ ref ->
      (runtime.ensureStarted env ref).sessions.deref other = runtime.sessions.deref other := by
    intro other different
    exact @withSession_rule (fun later => later.sessions.deref other = runtime.sessions.deref other)
      _ _ _ rfl (fun _ _ => deref_apply_of_ne runtime different _)
  refine invariant.extend (fun other begun => ?_) (fun other session present => ?_)
    (fun callback awaits => .inl (requests callback awaits))
  · by_cases here : other = ref
    · rcases begun with ⟨old, found, _⟩
      rw [here] at found ⊢
      rcases ensureStarted_session env found with ⟨session, present, _⟩
      exact ⟨session, present, Evolves.started_ensureStarted present⟩
    · unfold Begun
      rw [others other here]
      exact begun
  · by_cases here : other = ref
    · rw [here] at present
      exact .inl (Evolves.started_ensureStarted present)
    · rw [others other here] at present
      exact .inr (.inr ⟨session, present, rfl⟩)

/-! ### Authentication -/

/-- A call for a session that was started. -/
theorem callback (invariant : OpeningInvariant runtime) {call : CallbackCall}
    (begun : runtime.Begun call.callback.session) : OpeningInvariant (runtime.callback call) := by
  have kept := kept_callback authBlind_started runtime call
  refine invariant.extend (fun ref was => was.of_kept kept) (fun ref session present => ?_)
    (fun callback awaits => .inl ?_)
  · by_cases here : ref = call.callback.session
    · rcases begun.of_kept kept with ⟨later, there, started⟩
      rw [here, there] at present
      rw [← Option.some.inj present]
      exact .inl started
    · have same : (runtime.withSession call.callback.session (call.callback.protocol.authCallback
          runtime.hwaddr call.sid call.err)).sessions.deref ref = runtime.sessions.deref ref :=
        @withSession_rule (fun later => later.sessions.deref ref = runtime.sessions.deref ref)
          _ _ _ rfl (fun _ _ => deref_apply_of_ne runtime here _)
      exact .inr (.inr ⟨session, same.symm.trans present, rfl⟩)
  · exact awaits.of_auth (congrArg AAA.auth (aaa_withSession runtime _ _))

theorem callbacks (invariant : OpeningInvariant runtime) {calls : List CallbackCall}
    (begun : forall call, call ∈ calls -> runtime.Begun call.callback.session) :
    OpeningInvariant (runtime.callbacks calls) := by
  unfold Runtime.callbacks
  induction calls generalizing runtime with
  | nil => exact invariant
  | cons call rest inductionHypothesis =>
      refine inductionHypothesis (invariant.callback (begun call List.mem_cons_self))
        (fun other member => ?_)
      exact (begun other (List.mem_cons_of_mem _ member)).of_kept
        (kept_callback authBlind_started runtime call)

/-- An event of AAA whose calls are for sessions that were started. -/
theorem withCalls (invariant : OpeningInvariant runtime) {outcome : AAA × List CallbackCall}
    (begun : forall call, call ∈ outcome.2 -> runtime.Begun call.callback.session)
    (awaited : forall callback, outcome.1.Awaits callback ->
      runtime.aaa.Awaits callback ∨ runtime.Begun callback.session) :
    OpeningInvariant (runtime.withCalls outcome) := by
  have entered : OpeningInvariant (runtime.withAaa outcome.1) :=
    invariant.extend (fun _ was => was) (fun ref session present => .inr (.inr ⟨session, present, rfl⟩))
      awaited
  exact entered.callbacks begun

theorem recvAuthReq (invariant : OpeningInvariant runtime) {env : Env} {ref : Nat}
    {protocol : AuthProtocol} {username : Bytes} {credential : Credential}
    (begun : runtime.Begun ref)
    (received : runtime.recvAuthReq env ref protocol username credential = some after) :
    OpeningInvariant after := by
  rcases recvAuthReq_cases received with
    ⟨session, found, ⟨_, repeated⟩ | ⟨_, started, starting, asked⟩⟩
  · rw [repeated]
    exact invariant.of_kept (kept_apply _ found (ipcpBlind_opening _ _
      (AuthProtocol.sendAuthAck_outside _ protocol session))) (fun _ awaits => awaits)
  · have path := AAA.started_of_startByMethods starting
    have kept : Kept opening runtime (runtime.requested ref protocol username session) :=
      (kept_apply (PPPOESession.done { session with username := username }) found rfl).trans
        (.of_same rfl rfl)
    have still := begun.of_kept (kept.map Prod.fst)
    rw [asked]
    refine (invariant.of_kept kept (fun _ awaits => awaits)).withCalls (fun call member => ?_)
      (fun callback awaits => ?_)
    · rw [(path.successes.1 call member).1]
      exact still
    · refine (AAA.awaits_of_started path awaits).imp_right (fun same => ?_)
      rw [same]
      exact still

/-! ### Packets and events -/

theorem processLcp (invariant : OpeningInvariant runtime) {env : Env} {ref : Nat} {packet : Packet}
    {err : Option String} (processed : runtime.processLcp env ref packet = some (after, err)) :
    OpeningInvariant after := by
  rcases processLcp_cases processed with ⟨session, out, found, received, outcome⟩
  have applied : OpeningInvariant (runtime.apply ref out) :=
    invariant.of_kept (kept_apply out found
      (opening_of_lcp ((lcpFsm_leaves runtime env).receive received))) (fun _ awaits => awaits)
  rcases outcome with ⟨_, _, up⟩ | ⟨_, _, ended⟩ | ⟨_, same⟩
  · rw [up]
    refine applied.of_kept (kept_openAuth openBlind_opening _ env ref) (fun callback awaits => ?_)
    exact awaits.of_auth (congrArg AAA.auth (aaa_openAuth _ env ref))
  · rw [ended]
    exact applied.deallocateSession _
  · rw [same]
    exact applied

theorem processPPP (invariant : OpeningInvariant runtime) {env : Env} {encap : Encapsulation}
    {packet : Packet} {err : Option String}
    (processed : runtime.processPPP env encap packet = some (after, err)) :
    OpeningInvariant after := by
  rcases processPPP_cases processed with dropped | ⟨ref, _, dispatched⟩
  · rw [dropped]
    exact invariant
  · have started := invariant.ensureStarted env ref
    rcases dispatch_cases dispatched with
      ⟨_, lcp⟩ | ⟨protocol, username, credential, _, received⟩ | ⟨_, ipcp⟩ | same | rejected
    · exact started.processLcp lcp
    · rcases recvAuthReq_cases received with ⟨session, present, _⟩
      exact started.recvAuthReq ⟨session, present, Evolves.started_ensureStarted present⟩ received
    · exact started.of_kept (kept_processIpcp ipcpBlind_opening timerBlind_opening ipcp)
        (Calm.processIpcp ipcp).requests
    · rw [same]
      exact started
    · rw [rejected]
      exact started.of_kept (kept_rejectProtocol _ ref packet) (Calm.rejectProtocol _ ref packet).requests

theorem processPPPOE (invariant : OpeningInvariant runtime) (tables : StoreInvariant runtime)
    {env : Env} {encap : Encapsulation} {packet : Packet} {err : Option String}
    (processed : runtime.processPPPOE env encap packet = some (after, err)) :
    OpeningInvariant after := by
  rcases processPPPOE_cases processed with ⟨_, before, queue, queued, handled⟩ | ⟨_, ended⟩
  · have checked : forall conn, OpeningInvariant (runtime.checkSession conn).1 := fun conn =>
      invariant.of_kept (kept_checkSession runtime conn) (Calm.checkSession runtime conn).requests
    have there : OpeningInvariant before := by
      rcases handled with same | ⟨conn, pended⟩ | ⟨conn, isChecked⟩ | ⟨conn, result, allocated, entered⟩
      · rw [same]
        exact invariant
      · rw [pended]
        exact invariant.of_kept (kept_pendeSession runtime conn)
          (Calm.pendeSession runtime conn).requests
      · rw [isChecked]
        exact checked conn
      · rw [entered]
        exact (checked conn).allocateSession ((kept_checkSession runtime conn).invariant tables) allocated
    rw [queued]
    exact there.of_kept (.of_same rfl rfl) (fun _ awaits => awaits)
  · rw [ended]
    exact invariant.deallocateSession _

theorem sendEchoReq (invariant : OpeningInvariant runtime) (env : Env) (ref : Nat) :
    OpeningInvariant (runtime.sendEchoReq env ref) := by
  cases found : runtime.sessions.deref ref with
  | none =>
      unfold Runtime.sendEchoReq
      rw [found]
      exact invariant
  | some session =>
      rcases sendEchoReq_cases env found with ⟨out, counted, outcome⟩
      have applied : OpeningInvariant (runtime.apply ref out) :=
        invariant.of_kept (kept_apply out found (by rw [counted]; rfl)) (fun _ awaits => awaits)
      rcases outcome with ⟨_, _, ended⟩ | ⟨_, again⟩
      · rw [ended]
        exact applied.deallocateSession _
      · rw [again]
        exact applied.of_kept (kept_startEcho timerBlind_opening _ ref) (fun _ awaits => awaits)

theorem echoTimer (invariant : OpeningInvariant runtime) {env : Env} {ref index : Nat}
    (fired : runtime.echoTimer env ref index = some after) : OpeningInvariant after := by
  have popped : OpeningInvariant (runtime.popEcho ref index) :=
    invariant.of_kept (kept_popEcho timerBlind_opening runtime ref index) (fun _ awaits => awaits)
  have collects {before : Runtime} (there : OpeningInvariant before) :
      OpeningInvariant (before.collect ref) :=
    there.of_kept (kept_collect before ref) (Calm.collect before ref).requests
  rcases echoTimer_cases fired with ⟨session, _, ⟨_, expired⟩ | ⟨_, aborted⟩⟩
  · rw [expired]
    exact collects (popped.sendEchoReq env ref)
  · rw [aborted]
    exact collects popped

theorem step {now : Runtime} {event : Event} (invariant : OpeningInvariant now)
    (tables : StoreInvariant now) (taken : Runtime.step now event = some after) :
    OpeningInvariant after := by
  rcases event with ⟨env, input⟩
  cases step_cases taken with
  | discovery processed => exact invariant.processPPPOE tables processed
  | session processed => exact invariant.processPPP processed
  | pendingTimer fired =>
      exact invariant.of_kept (kept_pendingTimer fired) (Calm.pendingTimer fired).requests
  | echoExpires expired =>
      rw [expired]
      exact invariant.of_kept (kept_echoExpires timerBlind_opening now _) (fun _ awaits => awaits)
  | echoTimer fired => exact invariant.echoTimer fired
  | authDatagram received called =>
      have origin := fun other => @AAA.awaits_of_authDatagram _ _ other _ _ received
      rw [called]
      exact invariant.withCalls
        (fun call member => invariant.awaited _ ((origin call.callback).1 call member))
        (fun callback awaits => .inl ((origin callback).2 awaits))
  | authTimer fired called =>
      have origin := fun other => @AAA.awaits_of_authTimer _ other _ _ fired
      rw [called]
      exact invariant.withCalls
        (fun call member => invariant.awaited _ ((origin call.callback).1 call member))
        (fun callback awaits => .inl ((origin callback).2 awaits))
  | quiet quiet => exact invariant.of_kept quiet.kept (Calm.quiet quiet).requests

theorem cleanup (invariant : OpeningInvariant runtime) : OpeningInvariant runtime.cleanup := by
  unfold Runtime.cleanup
  refine of_kept ?_ (kept_foldl_collect _ _) (fun callback awaits => ?_)
  · exact invariant.extend (fun _ was => was)
      (fun ref session present => .inr (.inr ⟨session, present, rfl⟩))
      (fun callback awaits => .inl (awaits.of_auth (AAA.stopAllSessions_auth _ _)))
  · exact awaits.of_auth (congrArg AAA.auth (aaa_foldl_collect _ _))

theorem fresh {start : Runtime} (fresh : start.Fresh) : OpeningInvariant start where
  authenticated := by
    intro ref session present
    rw [fresh.sessions] at present
    cases present
  awaited := by
    rintro callback ⟨client, handler, is, ⟨id, entry, found, _⟩, _⟩
    rw [fresh.auth client is] at found
    cases found

end OpeningInvariant

/-! ## Repeated requests -/

/-- What holds in every reachable state. -/
structure AnswerInvariant (runtime : Runtime) : Prop where
  references : ReferenceInvariant runtime
  opening : OpeningInvariant runtime
  sessions : forall ref session, runtime.store.activeSessions.Holds ref ->
    runtime.sessions.deref ref = some session -> Orderly session

theorem answerInvariant_happen {now after : Runtime} {happening : Happening}
    (invariant : AnswerInvariant now) (taken : happen now happening = some after) :
    AnswerInvariant after := by
  refine ⟨referenceInvariant_happen invariant.references taken, ?_, ?_⟩
  · cases happening with
    | event event => exact invariant.opening.step invariant.references.tables taken
    | deallocateSession sid => exact Option.some.inj taken ▸ invariant.opening.deallocateSession sid
    | cleanup => exact Option.some.inj taken ▸ invariant.opening.cleanup
  · intro ref session active present
    cases happening with
    | event event =>
        exact sessions_step invariant.references (fun _ unused => .of_unused unused)
          (fun orderly => orderly.touch) invariant.sessions taken active present
    | deallocateSession sid =>
        rw [← Option.some.inj taken] at active present
        rw [deref_deallocateSession] at present
        exact invariant.sessions ref session
          ((holds_deallocateSession invariant.references.tables sid ref).mp active).1 present
    | cleanup =>
        rw [← Option.some.inj taken] at active
        unfold cleanup at active
        dsimp only at active
        rw [(@kept_foldl_collect _ reference _ _).active] at active
        rcases active with ⟨key, found⟩
        cases found

theorem answerInvariant_of_reachable {start now : Runtime} (fresh : start.Fresh)
    (reached : Reachable happen start now) : AnswerInvariant now := by
  refine reached.invariant ⟨referenceInvariant_fresh fresh, .fresh fresh, ?_⟩
    (fun _ _ _ here taken => answerInvariant_happen here taken)
  intro ref session active
  rw [fresh.store] at active
  rcases active with ⟨key, found⟩
  cases found

/-- The start of a session that was started does nothing. -/
theorem ensureStarted_of_started {runtime : Runtime} {ref : Nat} {session : PPPOESession} (env : Env)
    (found : runtime.sessions.deref ref = some session) (started : session.started = true) :
    runtime.ensureStarted env ref = runtime := by
  unfold ensureStarted
  rw [withSession_eq found, if_pos started]
  unfold apply PPPOESession.done
  rw [Heap.update_of_deref found rfl, List.append_nil]

/-- A repeated request leads to `receive` of its protocol. -/
theorem dispatch_of_request {runtime : Runtime} {ref : Nat} {packet : Packet}
    {protocol : AuthProtocol} (env : Env) (request : IsAuthRequest packet protocol) :
    runtime.dispatch env ref packet =
      (runtime.receiveAuth protocol env ref packet).map (fun after => (after, none)) := by
  unfold dispatch
  cases protocol with
  | pap =>
      rw [request.1, if_neg (by decide), if_pos rfl]
      rfl
  | chap =>
      rw [request.1, if_neg (by decide), if_neg (by decide), if_pos rfl]
      rfl

/-- A request of a session that was authenticated by the protocol is answered with one
success, and nothing else changes. -/
theorem processPPP_repeated {start now : Runtime} {env : Env} {encap : Encapsulation}
    {packet : Packet} {ref : Nat} {session : PPPOESession} {protocol : AuthProtocol}
    (fresh : start.Fresh) (reached : Reachable happen start now)
    (active : now.store.activeSessions.lookup (frameKey encap packet) = some ref)
    (found : now.sessions.deref ref = some session) (authenticated : protocol.started session = true)
    (request : IsAuthRequest packet protocol) :
    now.processPPP env encap packet = some ({ now with
      pppOutcoming := now.pppOutcoming ++
        [session.frame now.hwaddr (protocol.answerPacket session.sessionId protocol.ackCode)] },
      none) := by
  have invariant := answerInvariant_of_reachable fresh reached
  have underway := (invariant.sessions ref session ⟨_, active⟩ found).authenticated protocol authenticated
  have started := invariant.opening.authenticated ref session found protocol authenticated
  have code : packet.code = protocol.requestCode := by
    cases protocol with
    | pap => exact request.2
    | chap => exact request.2
  have repeats : ¬ protocol.Requests session packet := by
    rintro ⟨_, unanswered⟩
    rw [authenticated] at unanswered
    cases unanswered
  unfold processPPP
  rw [active]
  dsimp only
  rw [ensureStarted_of_started env found started, dispatch_of_request env request,
    receiveAuth_of_not_requests found repeats, if_pos code,
    AuthProtocol.sendAuthAck_of_underway underway]
  unfold apply
  rw [Heap.update_of_deref found rfl]
  rfl

/-- The PAP request of the second subscriber, sent again with other contents. -/
def otherRequest : Packet :=
  sessionPacket 2 PPPProto.pap (pppHdr PAPCode.authenticateReq 7 8 ++ [1, 97, 1, 98])

theorem processPPP_again : ∃ session, twoSubscribers.sessions.deref 1 = some session ∧
    twoSubscribers.processPPP {} (sampleLink 2) otherRequest = some ({ twoSubscribers with
      pppOutcoming := twoSubscribers.pppOutcoming ++ [session.frame twoSubscribers.hwaddr
        (AuthProtocol.pap.answerPacket session.sessionId AuthProtocol.pap.ackCode)] }, none) := by
  have authenticated : (twoSubscribers.sessions.deref 1).any
      (fun session => AuthProtocol.pap.started session) = true := by decide +kernel
  rcases (Option.any_eq_true _ _).mp authenticated with ⟨session, found, started⟩
  exact ⟨session, found, processPPP_repeated (fresh_sampleDaemon [.none] papPolicy)
    (reachable_after _ _ _ _) (by decide +kernel) found started (by decide)⟩

end Runtime

end Pppcpd
