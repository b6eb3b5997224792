import Pppcpd.Ppp.Consistency
import Pppcpd.Runtime.References

namespace Pppcpd

open Foundation

/-!
# The frames that the daemon queues are consistent

What a step queues on `ppp_outcoming` belongs to the session that the event is
for: it starts with the header for the link of the session and goes on with a
packet that is consistent with itself and carries the session id.
-/

theorem authBlind_identity : AuthBlind PPPOESession.identity where
  callback := fun hwaddr protocol sid err session =>
    (AuthProtocol.emits_authCallback hwaddr 0 protocol sid err session).kept
  ack := fun hwaddr protocol session => (AuthProtocol.emits_sendAuthAck hwaddr 0 protocol session).kept
  named := fun _ _ => rfl

theorem timerBlind_identity : TimerBlind PPPOESession.identity := ⟨fun _ _ => rfl, fun _ _ => rfl⟩

namespace Runtime

/-- A step that keeps the identities of all session objects and queues frames of
one of them.  The frames are good under a condition. -/
structure Queues (condition : Prop) (sid : UInt16) (identity : Identity) (before after : Runtime) :
    Prop where
  objects : forall ref, (after.sessions.deref ref).map PPPOESession.identity =
    (before.sessions.deref ref).map PPPOESession.identity
  hwaddr : after.hwaddr = before.hwaddr
  policy : after.policy = before.policy
  queue : ∃ frames, after.pppOutcoming = before.pppOutcoming ++ frames ∧
    (condition -> forall frame, frame ∈ frames -> GoodFrame before.hwaddr sid identity frame)

/-- The object has the identity, when there is one. -/
def Identified (ref : Nat) (identity : Identity) (runtime : Runtime) : Prop :=
  forall session, runtime.sessions.deref ref = some session -> session.identity = identity

/-- The end of an object concerns neither frames nor what they are made from. -/
theorem collect_link (runtime : Runtime) (ref : Nat) :
    (runtime.collect ref).hwaddr = runtime.hwaddr ∧ (runtime.collect ref).policy = runtime.policy ∧
      (runtime.collect ref).pppOutcoming = runtime.pppOutcoming := by
  unfold collect
  split
  · exact ⟨rfl, rfl, rfl⟩
  · split <;> exact ⟨rfl, rfl, rfl⟩

theorem deallocateSession_link (runtime : Runtime) (sid : UInt16) :
    (runtime.deallocateSession sid).1.hwaddr = runtime.hwaddr ∧
      (runtime.deallocateSession sid).1.policy = runtime.policy ∧
      (runtime.deallocateSession sid).1.pppOutcoming = runtime.pppOutcoming := by
  unfold deallocateSession
  split
  · split
    · unfold releaseId removeSession
      split
      · exact ⟨rfl, rfl, rfl⟩
      · exact collect_link _ _
    · exact ⟨rfl, rfl, rfl⟩
  · exact ⟨rfl, rfl, rfl⟩

namespace Queues

variable {condition : Prop} {sid : UInt16} {identity : Identity} {ref : Nat}

/-- A step that queues nothing. -/
theorem of_kept {before after : Runtime} (kept : Kept PPPOESession.identity before after)
    (hwaddr : after.hwaddr = before.hwaddr) (policy : after.policy = before.policy)
    (queue : after.pppOutcoming = before.pppOutcoming) :
    Queues condition sid identity before after :=
  ⟨kept.objects, hwaddr, policy, [], by rw [queue, List.append_nil],
    fun _ _ member => absurd member List.not_mem_nil⟩

theorem refl (runtime : Runtime) : Queues condition sid identity runtime runtime :=
  of_kept (.refl runtime) rfl rfl rfl

theorem trans {first second third : Runtime} (left : Queues condition sid identity first second)
    (right : Queues condition sid identity second third) :
    Queues condition sid identity first third := by
  rcases left.queue with ⟨early, sentEarly, goodEarly⟩
  rcases right.queue with ⟨late, sentLate, goodLate⟩
  refine ⟨fun ref => (right.objects ref).trans (left.objects ref), right.hwaddr.trans left.hwaddr,
    right.policy.trans left.policy, early ++ late, ?_, fun holds frame member => ?_⟩
  · rw [sentLate, sentEarly, List.append_assoc]
  · rcases List.mem_append.mp member with isEarly | isLate
    · exact goodEarly holds frame isEarly
    · rw [← left.hwaddr]
      exact goodLate holds frame isLate

theorem identified {before after : Runtime} (queues : Queues condition sid identity before after)
    (known : before.Identified ref identity) : after.Identified ref identity := by
  intro session found
  have same := queues.objects ref
  rw [found] at same
  rcases Option.map_eq_some_iff.mp same.symm with ⟨earlier, was, isSame⟩
  exact isSame.symm.trans (known earlier was)

/-- A method of the session's automata. -/
theorem apply {runtime : Runtime} {session : PPPOESession} {out : FsmOut}
    (found : runtime.sessions.deref ref = some session) (known : session.identity = identity)
    (emits : Emits PPPOESession.identity
      (fun identity frame => condition -> GoodFrame runtime.hwaddr sid identity frame) session out) :
    Queues condition sid identity runtime (runtime.apply ref out) :=
  ⟨(kept_apply out found emits.kept).objects, rfl, rfl, out.sent, rfl,
    fun holds frame member => known ▸ emits.good frame member holds⟩

/-- The method of the session that is run when there is one. -/
theorem withSession {runtime : Runtime} {method : PPPOESession -> FsmOut}
    (known : runtime.Identified ref identity)
    (emits : forall session, Emits PPPOESession.identity
      (fun identity frame => condition -> GoodFrame runtime.hwaddr sid identity frame) session
        (method session)) :
    Queues condition sid identity runtime (runtime.withSession ref method) :=
  withSession_rule (refl runtime)
    (fun session found => apply found (known session found) (emits session))

theorem collect (runtime : Runtime) (other : Nat) :
    Queues condition sid identity runtime (runtime.collect other) :=
  have same := collect_link runtime other
  of_kept (kept_collect runtime other) same.1 same.2.1 same.2.2

theorem deallocateSession (runtime : Runtime) (gone : UInt16) :
    Queues condition sid identity runtime (runtime.deallocateSession gone).1 := by
  have same := deallocateSession_link runtime gone
  refine ⟨fun ref => by rw [deref_deallocateSession], same.1, same.2.1, [], ?_,
    fun _ _ member => absurd member List.not_mem_nil⟩
  rw [same.2.2, List.append_nil]

end Queues

/-! ## The handlers -/

section

variable {condition : Prop} {sid : UInt16} {identity : Identity} {ref : Nat}

theorem queues_ensureStarted {runtime : Runtime} (env : Env)
    (known : runtime.Identified ref identity) :
    Queues condition sid identity runtime (runtime.ensureStarted env ref) := by
  refine .withSession known (fun session => ?_)
  split
  · exact .silent rfl rfl
  · have guarded := LCPFsm.protocol_guarded
      { hwaddr := runtime.hwaddr, lcpConf := runtime.lcpConf, random := env.random } sid condition
    exact (guarded.start session).mono rfl rfl rfl

theorem queues_openAuth {runtime : Runtime} (env : Env) (known : runtime.Identified ref identity)
    (short : condition -> forall vlan, (runtime.policy vlan).acName.length < 1400) :
    Queues condition sid identity runtime (runtime.openAuth env ref) := by
  unfold openAuth
  split
  · unfold openChap
    cases found : runtime.sessions.deref ref with
    | none => exact .refl runtime
    | some session =>
        dsimp only
        have emits : Emits PPPOESession.identity
            (fun identity frame => condition -> GoodFrame runtime.hwaddr sid identity frame) session
            (sendChallenge runtime.hwaddr (runtime.policy session.encap.outerVlan).acName
              (runtime.aaa.md5 env.challengeSeed) session) :=
          .guard rfl (fun holds => emits_sendChallenge _ sid _ session (short holds _))
        exact (Queues.apply found (known session found) emits).trans
          (.of_kept (.of_same rfl rfl) rfl rfl rfl)
  · split
    · exact .refl runtime
    · exact .withSession known (fun session =>
        (IPCPFsm.protocol_guarded runtime.hwaddr sid runtime.aaa.getSession condition).start session)

theorem queues_callback {runtime : Runtime} {call : CallbackCall}
    (isOwn : call.callback.session = ref) (known : runtime.Identified ref identity) :
    Queues condition sid identity runtime (runtime.callback call) := by
  have called : Queues condition sid identity runtime (runtime.withSession call.callback.session
      (call.callback.protocol.authCallback runtime.hwaddr call.sid call.err)) := by
    rw [isOwn]
    exact .withSession known (fun session =>
      have emits := AuthProtocol.emits_authCallback runtime.hwaddr sid call.callback.protocol call.sid
        call.err session
      .guard emits.kept (fun _ => emits))
  exact called.trans (.of_kept (.of_same rfl rfl) rfl rfl rfl)

theorem queues_callbacks {runtime : Runtime} {calls : List CallbackCall}
    (isOwn : forall call, call ∈ calls -> call.callback.session = ref)
    (known : runtime.Identified ref identity) :
    Queues condition sid identity runtime (runtime.callbacks calls) := by
  unfold callbacks
  induction calls generalizing runtime with
  | nil => exact .refl runtime
  | cons call rest inductionHypothesis =>
      have first := @queues_callback condition sid identity ref runtime call
        (isOwn call List.mem_cons_self) known
      exact first.trans (inductionHypothesis
        (fun later member => isOwn later (List.mem_cons_of_mem _ member)) (first.identified known))

theorem queues_withCalls {runtime : Runtime} {outcome : AAA × List CallbackCall}
    (isOwn : forall call, call ∈ outcome.2 -> call.callback.session = ref)
    (known : runtime.Identified ref identity) :
    Queues condition sid identity runtime (runtime.withCalls outcome) := by
  have entries : Queues condition sid identity runtime (runtime.withAaa outcome.1) :=
    .of_kept (.of_same rfl rfl) rfl rfl rfl
  exact entries.trans (queues_callbacks isOwn (entries.identified known))

theorem queues_recvAuthReq {runtime after : Runtime} {env : Env} {protocol : AuthProtocol}
    {username : Bytes} {credential : Credential} (entered : runtime.aaa.Entered)
    (known : runtime.Identified ref identity)
    (received : runtime.recvAuthReq env ref protocol username credential = some after) :
    Queues condition sid identity runtime after := by
  rcases recvAuthReq_cases received with
    ⟨session, found, ⟨_, repeated⟩ | ⟨_, started, asked, finished⟩⟩
  · rw [repeated]
    have emits := AuthProtocol.emits_sendAuthAck runtime.hwaddr sid protocol session
    exact .apply found (known session found) (.guard emits.kept (fun _ => emits))
  · rw [finished]
    have announces := AAA.announces_of_started entered (AAA.started_of_startByMethods asked)
    have named : Queues condition sid identity runtime
        (runtime.requested ref protocol username session) :=
      .of_kept (kept_requested authBlind_identity protocol username found) rfl rfl
        (List.append_nil _)
    exact named.trans (queues_withCalls (fun call member => by rw [announces.callbacks call member])
      (named.identified known))

theorem queues_processLcp {runtime after : Runtime} {env : Env} {packet : Packet}
    {err : Option String} (known : runtime.Identified ref identity)
    (accepted : condition -> Accepted PPPProto.lcp sid packet)
    (short : condition -> forall vlan, (runtime.policy vlan).acName.length < 1400)
    (processed : runtime.processLcp env ref packet = some (after, err)) :
    Queues condition sid identity runtime after := by
  rcases processLcp_cases processed with
    ⟨session, out, found, received, ⟨_, _, up⟩ | ⟨_, _, down⟩ | ⟨_, quiet⟩⟩
  all_goals
    have guarded := LCPFsm.protocol_guarded
      { hwaddr := runtime.hwaddr, lcpConf := runtime.lcpConf, random := env.random } sid condition
    have applied : Queues condition sid identity runtime (runtime.apply ref out) :=
      .apply found (known session found) (guarded.receive accepted received)
  · rw [up]
    exact applied.trans (queues_openAuth env (applied.identified known) short)
  · rw [down]
    exact applied.trans (.deallocateSession _ _)
  · rw [quiet]
    exact applied

theorem queues_processIpcp {runtime after : Runtime} {packet : Packet}
    (known : runtime.Identified ref identity)
    (accepted : condition -> Accepted PPPProto.ipcp sid packet)
    (processed : runtime.processIpcp ref packet = some after) :
    Queues condition sid identity runtime after := by
  rcases processIpcp_cases processed with
    ⟨session, out, found, received, ⟨_, _, up⟩ | ⟨_, quiet⟩⟩
  all_goals
    have guarded := IPCPFsm.protocol_guarded runtime.hwaddr sid runtime.aaa.getSession condition
    have applied : Queues condition sid identity runtime (runtime.apply ref out) :=
      .apply found (known session found) (guarded.receive accepted received)
  · rw [up]
    exact applied.trans (.of_kept (kept_openDataPlane timerBlind_identity _ ref out.session) rfl rfl rfl)
  · rw [quiet]
    exact applied

/-- A packet of an unknown protocol goes back as a Code-Reject. -/
theorem queues_rejectProtocol {runtime : Runtime} {packet : Packet}
    (known : runtime.Identified ref identity)
    (wellFormed : condition -> packet.SelfConsistent ∧ packet.pppoeSessionId = sid) :
    Queues condition sid identity runtime (runtime.rejectProtocol ref packet) := by
  refine .withSession known (fun session => .single rfl rfl (fun holds agrees => ?_))
  rcases wellFormed holds with ⟨consistent, sessionId⟩
  have isCode := Packet.code_setCode LCPCode.codeRej consistent.header
  exact goodFrame_answer consistent sessionId (Packet.sameHeader_setCode packet LCPCode.codeRej)
    (fun isConfigure => absurd isConfigure (Packet.not_isConfigure_of_code isCode (by decide)))
    agrees

theorem queues_dispatch {runtime after : Runtime} {env : Env} {packet : Packet} {err : Option String}
    (entered : runtime.aaa.Entered) (known : runtime.Identified ref identity)
    (wellFormed : condition -> WellFormedFrame packet ∧ packet.pppoeSessionId = sid)
    (short : condition -> forall vlan, (runtime.policy vlan).acName.length < 1400)
    (dispatched : runtime.dispatch env ref packet = some (after, err)) :
    Queues condition sid identity runtime after := by
  rcases dispatch_cases dispatched with
    ⟨isLcp, lcp⟩ | ⟨_, _, _, _, auth⟩ | ⟨isIpcp, ipcp⟩ | unchanged | rejected
  · exact queues_processLcp known
      (fun holds => ⟨(wellFormed holds).1, isLcp, (wellFormed holds).2⟩) short lcp
  · exact queues_recvAuthReq entered known auth
  · exact queues_processIpcp known
      (fun holds => ⟨(wellFormed holds).1, isIpcp, (wellFormed holds).2⟩) ipcp
  · rw [unchanged]
    exact .refl runtime
  · rw [rejected]
    exact queues_rejectProtocol known
      (fun holds => ⟨(wellFormed holds).1.consistent, (wellFormed holds).2⟩)

theorem queues_sendEchoReq {runtime : Runtime} (env : Env) (known : runtime.Identified ref identity) :
    Queues condition sid identity runtime (runtime.sendEchoReq env ref) := by
  unfold sendEchoReq
  cases found : runtime.sessions.deref ref with
  | none => exact .refl runtime
  | some session =>
      have emits := LCPFsm.emits_sendEchoReq
        { hwaddr := runtime.hwaddr, lcpConf := runtime.lcpConf, random := env.random } sid session
      have applied : Queues condition sid identity runtime (runtime.apply ref (LCPFsm.sendEchoReq
          { hwaddr := runtime.hwaddr, lcpConf := runtime.lcpConf, random := env.random } session)) :=
        .apply found (known session found) (.guard emits.kept (fun _ => emits))
      dsimp only
      split
      · exact applied.trans (.deallocateSession _ _)
      · exact applied.trans (.of_kept (kept_startEcho timerBlind_identity _ ref) rfl rfl rfl)

theorem queues_echoTimer {runtime after : Runtime} {env : Env} {index : Nat}
    (known : runtime.Identified ref identity)
    (fired : runtime.echoTimer env ref index = some after) :
    Queues condition sid identity runtime after := by
  have popped : Queues condition sid identity runtime (runtime.popEcho ref index) :=
    .of_kept (kept_popEcho timerBlind_identity runtime ref index) rfl rfl rfl
  rcases echoTimer_cases fired with ⟨session, _, ⟨_, expired⟩ | ⟨_, aborted⟩⟩
  · rw [expired]
    exact popped.trans ((queues_sendEchoReq env (popped.identified known)).trans (.collect _ ref))
  · rw [aborted]
    exact popped.trans (.collect _ ref)

end

/-- A session packet queues frames of the session registered under its key. -/
theorem queues_processPPP {condition : Prop} {runtime after : Runtime} {env : Env}
    {encap : Encapsulation} {packet : Packet} {err : Option String} {ref : Nat}
    {session : PPPOESession} (entered : runtime.aaa.Entered)
    (registered : runtime.store.activeSessions.lookup (frameKey encap packet) = some ref)
    (present : runtime.sessions.deref ref = some session)
    (wellFormed : condition -> WellFormedFrame packet)
    (short : condition -> forall vlan, (runtime.policy vlan).acName.length < 1400)
    (processed : runtime.processPPP env encap packet = some (after, err)) :
    Queues condition packet.pppoeSessionId session.identity runtime after := by
  have known : runtime.Identified ref session.identity := by
    intro object found
    rw [← Option.some.inj (present.symm.trans found)]
  rcases processPPP_cases processed with dropped | ⟨same, found, dispatched⟩
  · rw [dropped]
    exact .refl runtime
  · rw [← Option.some.inj (registered.symm.trans found)] at dispatched
    have started := @queues_ensureStarted condition packet.pppoeSessionId session.identity ref runtime env
      known
    refine started.trans (queues_dispatch ?_ (started.identified known)
      (fun holds => ⟨wellFormed holds, rfl⟩) (fun holds vlan => ?_) dispatched)
    · rw [aaa_ensureStarted]
      exact entered
    · rw [started.policy]
      exact short holds vlan

/-! ## Copies of the session id -/

/-- Every session object and its automata have the same session id. -/
def IdsAgree (runtime : Runtime) : Prop :=
  forall ref session, runtime.sessions.deref ref = some session ->
    session.identity.Agrees session.sessionId

theorem idsAgree_of_objects {before after : Runtime} (agree : before.IdsAgree)
    (objects : forall ref, (after.sessions.deref ref).map PPPOESession.identity =
      (before.sessions.deref ref).map PPPOESession.identity) : after.IdsAgree := by
  intro ref session found
  have same := objects ref
  rw [found] at same
  rcases Option.map_eq_some_iff.mp same.symm with ⟨earlier, was, isSame⟩
  have agrees := agree ref earlier was
  have number : earlier.sessionId = session.sessionId := congrArg Identity.sessionId isSame
  rw [isSame, number] at agrees
  exact agrees

theorem idsAgree_processPPPOE {runtime after : Runtime} {env : Env} {encap : Encapsulation}
    {packet : Packet} {err : Option String} (tables : StoreInvariant runtime)
    (agree : runtime.IdsAgree)
    (processed : runtime.processPPPOE env encap packet = some (after, err)) : after.IdsAgree := by
  rcases processPPPOE_cases processed with ⟨_, before, queue, queued, handled⟩ | ⟨_, ended⟩
  · refine @idsAgree_of_objects before after ?_ (fun ref => by rw [queued])
    rcases handled with same | ⟨conn, pended⟩ | ⟨conn, checked⟩ | ⟨conn, result, allocated, entered⟩
    · rw [same]
      exact agree
    · rw [pended]
      exact idsAgree_of_objects agree (kept_pendeSession runtime conn).objects
    · rw [checked]
      exact idsAgree_of_objects agree (kept_checkSession runtime conn).objects
    · rw [entered]
      have ready := idsAgree_of_objects agree (kept_checkSession runtime conn).objects
      rcases allocateSession_cases ((kept_checkSession runtime conn).invariant tables) env encap
        allocated with full | ⟨id, _, _, made⟩
      · rw [full]
        exact ready
      · rw [made]
        intro ref session found
        dsimp only at found
        rw [Heap.deref_make] at found
        split at found
        · rw [← Option.some.inj found]
          exact ⟨rfl, rfl, rfl⟩
        · exact ready ref session found
  · rw [ended]
    exact idsAgree_of_objects agree (fun ref => by rw [deref_deallocateSession])

theorem idsAgree_step {now after : Runtime} {event : Event} (invariant : ReferenceInvariant now)
    (agree : now.IdsAgree) (taken : step now event = some after) : after.IdsAgree := by
  rcases event with ⟨env, input⟩
  cases step_cases taken with
  | discovery processed => exact idsAgree_processPPPOE invariant.tables agree processed
  | @session encap packet err processed =>
      cases registered : now.store.activeSessions.lookup (frameKey encap packet) with
      | none =>
          rcases processPPP_cases processed with dropped | ⟨ref, found, _⟩
          · rw [dropped]
            exact agree
          · cases registered.symm.trans found
      | some ref =>
          rcases invariant.tables.keyed _ ref registered with ⟨session, present, _⟩
          exact idsAgree_of_objects agree (@queues_processPPP False now after env encap packet err ref
            session invariant.entered registered present False.elim False.elim processed).objects
  | pendingTimer fired => exact idsAgree_of_objects agree (kept_pendingTimer fired).objects
  | echoExpires expired =>
      rw [expired]
      exact idsAgree_of_objects agree (kept_echoExpires timerBlind_identity now _).objects
  | @echoTimer ref index fired =>
      rcases echoTimer_cases fired with ⟨session, present, _⟩
      exact idsAgree_of_objects agree (@queues_echoTimer False 0 session.identity ref now after env
        index (fun object found => by rw [← Option.some.inj (present.symm.trans found)])
        fired).objects
  | authDatagram _ called =>
      rw [called]
      exact idsAgree_of_objects agree (kept_withCalls authBlind_identity now _).objects
  | authTimer _ called =>
      rw [called]
      exact idsAgree_of_objects agree (kept_withCalls authBlind_identity now _).objects
  | quiet quiet => exact idsAgree_of_objects agree quiet.kept.objects

theorem idsAgree_of_reachable {start runtime : Runtime} (fresh : start.Fresh)
    (reached : Reachable step start runtime) : ReferenceInvariant runtime ∧ runtime.IdsAgree := by
  have none : start.IdsAgree := by
    intro ref session found
    rw [fresh.sessions] at found
    cases found
  exact @Reachable.invariant _ _ step start runtime
    (fun runtime => ReferenceInvariant runtime ∧ runtime.IdsAgree) ⟨referenceInvariant_fresh fresh, none⟩
    (fun _ _ _ here taken => ⟨referenceInvariant_step here.1 taken, idsAgree_step here.1 here.2 taken⟩) reached

/-! ## The law -/

/-- The session objects that the frames of an event are for: that of the packet's
key, that of the timer, or those that AAA calls back. -/
def Addressee (runtime : Runtime) (event : Event) (ref : Nat) : Prop :=
  match event.input with
  | .session encap packet => runtime.store.activeSessions.lookup (frameKey encap packet) = some ref
  | .echoTimer target _ => ref = target
  | .authDatagram datagram => ∃ outcome call,
      runtime.aaa.authDatagram event.env.aaa datagram = some outcome ∧ call ∈ outcome.2 ∧
        call.callback.session = ref
  | .authTimer id => ∃ outcome call, runtime.aaa.authTimer id = some outcome ∧ call ∈ outcome.2 ∧
      call.callback.session = ref
  | _ => False

/-- The frames that a step adds to the queue are consistent frames of a session
that the event is for.  The queue is otherwise left alone, or emptied. -/
def FramesConsistent (before : Runtime) (event : Event) (after : Runtime) : Prop :=
  ∃ queued frames, after.pppOutcoming = queued ++ frames ∧
    (queued = before.pppOutcoming ∨ queued = []) ∧
    forall frame, frame ∈ frames -> ∃ ref session, before.Addressee event ref ∧
      before.sessions.deref ref = some session ∧
        FrameOf before.hwaddr session.encap session.sessionId frame

theorem framesConsistent_silent {before after : Runtime} (event : Event)
    (same : after.pppOutcoming = before.pppOutcoming) : FramesConsistent before event after :=
  ⟨before.pppOutcoming, [], by rw [same, List.append_nil], .inl rfl,
    fun _ member => absurd member List.not_mem_nil⟩

theorem Queues.framesConsistent {before after : Runtime} {condition : Prop} {event : Event} {ref : Nat}
    {session : PPPOESession} {sid : UInt16}
    (queues : Queues condition sid session.identity before after) (holds : condition)
    (addressee : before.Addressee event ref) (present : before.sessions.deref ref = some session)
    (agrees : session.identity.Agrees sid) : FramesConsistent before event after := by
  rcases queues.queue with ⟨frames, sent, good⟩
  refine ⟨_, frames, sent, .inl rfl, fun frame member => ⟨ref, session, addressee, present, ?_⟩⟩
  have isSid : session.sessionId = sid := agrees.session
  rw [isSid]
  exact good holds frame member agrees

/-- Calls for an object that is not there do nothing. -/
theorem pppOutcoming_callbacks {runtime : Runtime} {calls : List CallbackCall} {ref : Nat}
    (isOwn : forall call, call ∈ calls -> call.callback.session = ref)
    (absent : runtime.sessions.deref ref = none) :
    (runtime.callbacks calls).pppOutcoming = runtime.pppOutcoming := by
  unfold callbacks
  induction calls generalizing runtime with
  | nil => rfl
  | cons call rest inductionHypothesis =>
      have nothing : runtime.callback call = runtime.observe (.callback call) := by
        unfold callback withSession
        rw [isOwn call List.mem_cons_self, absent]
      rw [List.foldl_cons, nothing]
      exact inductionHypothesis (fun later member => isOwn later (List.mem_cons_of_mem _ member)) absent

/-- Calls that are all of one callback. -/
theorem framesConsistent_withCalls {runtime : Runtime} {event : Event}
    {outcome : AAA × List CallbackCall} {bound : AAACallback} (agree : runtime.IdsAgree)
    (isOwn : forall call, call ∈ outcome.2 -> call.callback = bound)
    (addressee : forall call, call ∈ outcome.2 -> runtime.Addressee event call.callback.session) :
    FramesConsistent runtime event (runtime.withCalls outcome) := by
  have sessions : forall call, call ∈ outcome.2 -> call.callback.session = bound.session :=
    fun call member => by rw [isOwn call member]
  cases found : runtime.sessions.deref bound.session with
  | none =>
      exact framesConsistent_silent event
        (@pppOutcoming_callbacks (runtime.withAaa outcome.1) outcome.2 bound.session sessions found)
  | some session =>
      rcases outcome with ⟨aaa, calls⟩
      cases calls with
      | nil => exact framesConsistent_silent event rfl
      | cons call rest =>
          have queues : Queues True session.sessionId session.identity runtime
              (runtime.withCalls (aaa, call :: rest)) :=
            @queues_withCalls True _ _ bound.session runtime (aaa, call :: rest) sessions
              (fun object here => by rw [← Option.some.inj (found.symm.trans here)])
          have isAddressee := addressee call List.mem_cons_self
          rw [sessions call List.mem_cons_self] at isAddressee
          exact queues.framesConsistent trivial isAddressee found (agree _ session found)

/-- The law, for a packet that is well formed and names that are short. -/
theorem framesConsistent_step {runtime after : Runtime} {event : Event}
    (invariant : ReferenceInvariant runtime) (agree : runtime.IdsAgree)
    (wellFormed : forall encap packet, event.input = .session encap packet -> WellFormedFrame packet)
    (short : forall vlan, (runtime.policy vlan).acName.length < 1400)
    (taken : step runtime event = some after) : FramesConsistent runtime event after := by
  rcases event with ⟨env, input⟩
  cases input with
  | discovery encap packet =>
      rcases Option.map_eq_some_iff.mp taken with ⟨⟨_, err⟩, processed, equal⟩
      refine framesConsistent_silent _ ?_
      rw [← equal]
      rcases processPPPOE_cases processed with ⟨_, before, queue, queued, handled⟩ | ⟨_, ended⟩
      · have checked : forall conn, (runtime.checkSession conn).1.pppOutcoming =
            runtime.pppOutcoming := fun conn => by
          unfold checkSession
          split <;> rfl
        rw [queued]
        rcases handled with same | ⟨conn, pended⟩ | ⟨conn, isChecked⟩ |
          ⟨conn, result, allocated, entered⟩
        · rw [same]
        · rw [pended]
          unfold pendeSession
          split <;> rfl
        · rw [isChecked]
          exact checked conn
        · rw [entered]
          rcases allocateSession_cases ((kept_checkSession runtime conn).invariant invariant.tables) env
            encap allocated with full | ⟨id, _, _, made⟩
          · rw [full]
            exact checked conn
          · rw [made]
            exact checked conn
      · rw [ended]
        exact (deallocateSession_link runtime _).2.2
  | session encap packet =>
      rcases Option.map_eq_some_iff.mp taken with ⟨⟨_, err⟩, processed, equal⟩
      rw [← equal]
      cases registered : runtime.store.activeSessions.lookup (frameKey encap packet) with
      | none =>
          rcases processPPP_cases processed with dropped | ⟨ref, found, _⟩
          · rw [dropped]
            exact framesConsistent_silent _ rfl
          · cases registered.symm.trans found
      | some ref =>
          rcases invariant.tables.keyed _ ref registered with ⟨session, present, keyed⟩
          have queues := @queues_processPPP True runtime _ env encap packet err ref session
            invariant.entered registered present (fun _ => wellFormed encap packet rfl) (fun _ => short)
            processed
          have agrees := agree ref session present
          have number : session.sessionId = packet.pppoeSessionId := congrArg PPPOEKey.sessionId keyed
          rw [number] at agrees
          exact queues.framesConsistent trivial registered present agrees
  | echoTimer ref index =>
      rcases echoTimer_cases taken with ⟨session, present, _⟩
      have queues := @queues_echoTimer True session.sessionId session.identity ref runtime after env index
        (fun object found => by rw [← Option.some.inj (present.symm.trans found)]) taken
      exact queues.framesConsistent trivial rfl present (agree ref session present)
  | authDatagram datagram =>
      rcases Option.map_eq_some_iff.mp taken with ⟨outcome, handled, equal⟩
      rcases AAA.announces_of_authDatagram invariant.entered handled with ⟨bound, announces⟩
      rw [← equal]
      exact framesConsistent_withCalls agree announces.callbacks
        (fun call member => ⟨outcome, call, handled, member, rfl⟩)
  | authTimer id =>
      rcases Option.map_eq_some_iff.mp taken with ⟨outcome, handled, equal⟩
      rcases AAA.announces_of_authTimer handled with ⟨bound, announces⟩
      rw [← equal]
      exact framesConsistent_withCalls agree announces.callbacks
        (fun call member => ⟨outcome, call, handled, member, rfl⟩)
  | pendingTimer index =>
      rcases Option.map_eq_some_iff.mp taken with ⟨conn, _, equal⟩
      rw [← equal]
      exact framesConsistent_silent _ rfl
  | acctDatagram datagram =>
      rcases Option.map_eq_some_iff.mp taken with ⟨_, _, equal⟩
      rw [← equal]
      exact framesConsistent_silent _ rfl
  | acctTimer id =>
      rcases Option.map_eq_some_iff.mp taken with ⟨_, _, equal⟩
      rw [← equal]
      exact framesConsistent_silent _ rfl
  | interimTimer ref index =>
      rcases Option.map_eq_some_iff.mp taken with ⟨_, _, equal⟩
      rw [← equal]
      exact framesConsistent_silent _ rfl
  | reload conf =>
      unfold step at taken
      dsimp only at taken
      split at taken
      · rw [← Option.some.inj taken]
        exact framesConsistent_silent _ rfl
      · cases taken
  | periodic =>
      rw [← Option.some.inj taken]
      exact ⟨[], [], rfl, .inr rfl, fun _ member => absurd member List.not_mem_nil⟩
  | echoExpires ref | authExpires id | acctExpires id | interimExpires ref | collectCounters counters =>
      rw [← Option.some.inj taken]
      exact framesConsistent_silent _ rfl

/-- In every state that the daemon can reach, whatever the event. -/
theorem frames_consistent {start runtime after : Runtime} (fresh : start.Fresh)
    (reached : Reachable step start runtime) {event : Event}
    (wellFormed : forall encap packet, event.input = .session encap packet -> WellFormedFrame packet)
    (short : forall vlan, (runtime.policy vlan).acName.length < 1400)
    (taken : step runtime event = some after) : FramesConsistent runtime event after := by
  rcases idsAgree_of_reachable fresh reached with ⟨invariant, agree⟩
  exact framesConsistent_step invariant agree wellFormed short taken

/-- The first subscriber asks for its address again, when IPCP is up. -/
def askAgain : Packet := receivedPacket
  (configurePacket 1 PPPProto.ipcp LCPCode.confReq 1 [.of32 IPCPOption.ipAddress 10])

/-- The request that IPCP sends then is a consistent frame. -/
theorem askAgain_consistent :
    ∃ after, step established { input := .session (sampleLink 1) askAgain } = some after ∧
      after.pppOutcoming ≠ established.pppOutcoming ∧
      FramesConsistent established { input := .session (sampleLink 1) askAgain } after := by
  have configures : Configures askAgain.bytes 1 PPPProto.ipcp LCPCode.confReq 1 [.of32 IPCPOption.ipAddress 10] :=
    configures_configurePacket 1 PPPProto.ipcp LCPCode.confReq 1 (by decide)
  have wellFormed : WellFormedFrame askAgain :=
    ⟨configures.selfConsistent _, fun _ _ => ⟨_, configures.carries _, by decide⟩⟩
  have queued : (step established { input := .session (sampleLink 1) askAgain }).any
      (fun after => decide (after.pppOutcoming ≠ established.pppOutcoming)) = true := by
    decide +kernel
  rcases (Option.any_eq_true _ _).mp queued with ⟨after, taken, answered⟩
  refine ⟨after, taken, of_decide_eq_true answered, ?_⟩
  refine frames_consistent (fresh_sampleDaemon [.none] papPolicy) established_reachable
    (fun encap packet same => ?_) (fun vlan => ?_) taken
  · rw [← (Input.session.inj same).2]
    exact wellFormed
  · have unnamed : established.pppoeConfs.entries = [] := by decide +kernel
    have absent : established.pppoeConfs.lookup vlan = none := by
      rw [AList.lookup, unnamed, List.dlookup_nil]
    have bounded : established.defaultPppoeConf.acName.length < 1400 := by decide +kernel
    unfold policy
    rw [absent, Option.getD_none]
    exact bounded

end Runtime

end Pppcpd
