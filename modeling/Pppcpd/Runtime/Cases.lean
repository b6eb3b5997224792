import Pppcpd.Ppp.Automata
import Pppcpd.Runtime.Step

namespace Pppcpd

open Foundation

/-!
# What the handlers of the daemon can do

One lemma for each handler that lists its outcomes in terms of the operations
it is made of.  Everything that is later proved about steps of the daemon goes
through these lists.
-/

namespace Runtime

/-! ## Discovery -/

/-- A discovery reply only adds to its queue. -/
theorem reply_fst (encap : Encapsulation) (outcome : Runtime × Except String Bytes) :
    ∃ queue, (reply encap outcome).1 = { outcome.1 with pppoeOutcoming := queue } := by
  unfold reply
  split
  · exact ⟨outcome.1.pppoeOutcoming, rfl⟩
  · exact ⟨_, rfl⟩

/-- The state after a packet, when it got no error. -/
def unlessError (outcome : Option (Runtime × Option String)) : Option Runtime :=
  outcome.bind (fun outcome => if outcome.2 = none then some outcome.1 else none)

theorem eq_of_unlessError {outcome : Option (Runtime × Option String)} {after : Runtime}
    (passed : unlessError outcome = some after) : outcome = some (after, none) := by
  rcases Option.bind_eq_some_iff.mp passed with ⟨⟨state, err⟩, processed, same⟩
  split at same
  · rename_i none
    rw [processed, ← Option.some.inj same, ← show err = _ from none]
  · cases same

/-- What a discovery packet does, up to the queue of replies: nothing, one call
of a pending operation, an allocation for a PADR, a deallocation for a PADT. -/
theorem processPPPOE_cases {runtime after : Runtime} {env : Env} {encap : Encapsulation}
    {packet : Packet} {err : Option String}
    (processed : runtime.processPPPOE env encap packet = some (after, err)) :
    packet.pppoeCode ≠ PPPOECode.padt ∧ (∃ before queue,
        after = { before with pppoeOutcoming := queue } ∧
          (before = runtime ∨ (∃ conn, before = (runtime.pendeSession conn).1) ∨
            (∃ conn, before = (runtime.checkSession conn).1) ∨
            ∃ conn result, (runtime.checkSession conn).1.allocateSession env encap = some result ∧
              before = result.1)) ∨
      packet.pppoeCode = PPPOECode.padt ∧
        after = (runtime.deallocateSession packet.pppoeSessionId).1 := by
  unfold processPPPOE at processed
  split at processed
  · rename_i padi
    refine .inl ⟨by rw [padi]; decide, ?_⟩
    rcases reply_fst encap (runtime.processPadi env encap packet) with ⟨queue, replied⟩
    refine ⟨_, queue, (congrArg Prod.fst (Option.some.inj processed)).symm.trans replied, ?_⟩
    unfold processPadi
    split
    · exact .inl rfl
    · refine .inr (.inl ?_)
      dsimp only
      split <;> exact ⟨_, rfl⟩
  · split at processed
    · rename_i padr
      refine .inl ⟨by rw [padr]; decide, ?_⟩
      rcases Option.map_eq_some_iff.mp processed with ⟨outcome, handled, equal⟩
      rcases reply_fst encap outcome with ⟨queue, replied⟩
      refine ⟨_, queue, (congrArg Prod.fst equal).symm.trans replied, ?_⟩
      unfold processPadr at handled
      split at handled
      · exact .inl (congrArg Prod.fst (Option.some.inj handled)).symm
      · dsimp only at handled
        split at handled
        · rcases Option.map_eq_some_iff.mp handled with ⟨result, allocated, equal⟩
          refine .inr (.inr (.inr ⟨_, result, allocated, ?_⟩))
          rw [← equal]
          split <;> rfl
        · exact .inr (.inr (.inl ⟨_, (congrArg Prod.fst (Option.some.inj handled)).symm⟩))
    · rename_i notPadi notPadr
      split at processed
      · rename_i padt
        exact .inr ⟨padt, (congrArg Prod.fst (Option.some.inj processed)).symm⟩
      · rename_i notPadt
        exact .inl ⟨notPadt, runtime, runtime.pppoeOutcoming,
          (congrArg Prod.fst (Option.some.inj processed)).symm, .inl rfl⟩

/-! ## Session packets -/

/-- A session packet is dropped, or dispatched for the session of its key. -/
theorem processPPP_cases {runtime after : Runtime} {env : Env} {encap : Encapsulation}
    {packet : Packet} {err : Option String}
    (processed : runtime.processPPP env encap packet = some (after, err)) :
    after = runtime ∨
      ∃ ref, runtime.store.activeSessions.lookup (frameKey encap packet) = some ref ∧
        (runtime.ensureStarted env ref).dispatch env ref packet = some (after, err) := by
  unfold processPPP at processed
  split at processed
  · exact .inl (Prod.mk.inj (Option.some.inj processed)).1.symm
  · rename_i ref found
    exact .inr ⟨ref, found, processed⟩

/-- The packet asks to authenticate by a protocol. -/
def IsAuthRequest (packet : Packet) : AuthProtocol -> Prop
  | .pap => packet.pppProtocol = PPPProto.pap ∧ packet.code = PAPCode.authenticateReq
  | .chap => packet.pppProtocol = PPPProto.chap ∧ packet.code = CHAPCode.response

instance (packet : Packet) (protocol : AuthProtocol) : Decidable (IsAuthRequest packet protocol) := by
  cases protocol <;> exact inferInstanceAs (Decidable (_ ∧ _))

instance (holds : AuthProtocol -> Prop) [DecidablePred holds] :
    Decidable (forall protocol, holds protocol) :=
  decidable_of_iff (holds .pap ∧ holds .chap)
    ⟨fun both protocol => by cases protocol; exacts [both.1, both.2],
      fun all => ⟨all .pap, all .chap⟩⟩

/-- The dispatch on the protocol: LCP, a request to authenticate, IPCP, another
packet of an authentication protocol, a packet of an unknown protocol. -/
theorem dispatch_cases {runtime after : Runtime} {env : Env} {ref : Nat} {packet : Packet}
    {err : Option String} (dispatched : runtime.dispatch env ref packet = some (after, err)) :
    packet.pppProtocol = PPPProto.lcp ∧ runtime.processLcp env ref packet = some (after, err) ∨
      (∃ protocol username credential, IsAuthRequest packet protocol ∧
        runtime.recvAuthReq env ref protocol username credential = some after) ∨
      packet.pppProtocol = PPPProto.ipcp ∧ runtime.processIpcp ref packet = some after ∨
      after = runtime ∨ after = runtime.rejectProtocol ref packet := by
  unfold dispatch at dispatched
  split at dispatched
  · rename_i lcp
    exact .inl ⟨lcp, dispatched⟩
  · split at dispatched
    · rename_i pap
      rcases Option.map_eq_some_iff.mp dispatched with ⟨_, processed, equal⟩
      rw [(Prod.mk.inj equal).1] at processed
      unfold processPap at processed
      split at processed
      · rename_i request
        exact .inr (.inl ⟨.pap, _, _, ⟨pap, request⟩, processed⟩)
      · exact .inr (.inr (.inr (.inl (Option.some.inj processed).symm)))
    · split at dispatched
      · rename_i chap
        rcases Option.map_eq_some_iff.mp dispatched with ⟨_, processed, equal⟩
        rw [(Prod.mk.inj equal).1] at processed
        unfold processChap at processed
        split at processed
        · rename_i response
          rcases Option.bind_eq_some_iff.mp processed with ⟨_, _, received⟩
          exact .inr (.inl ⟨.chap, _, _, ⟨chap, response⟩, received⟩)
        · exact .inr (.inr (.inr (.inl (Option.some.inj processed).symm)))
      · split at dispatched
        · rename_i ipcp
          rcases Option.map_eq_some_iff.mp dispatched with ⟨_, processed, equal⟩
          exact .inr (.inr (.inl ⟨ipcp, (Prod.mk.inj equal).1 ▸ processed⟩))
        · exact .inr (.inr (.inr (.inr (Prod.mk.inj (Option.some.inj dispatched)).1.symm)))

/-- What `processLcp` can do: run the automaton, and then start the
authentication, end the session, or nothing. -/
theorem processLcp_cases {runtime after : Runtime} {env : Env} {ref : Nat} {packet : Packet}
    {err : Option String} (processed : runtime.processLcp env ref packet = some (after, err)) :
    ∃ session out, runtime.sessions.deref ref = some session ∧
      (runtime.lcpFsm env).receive session packet = some out ∧
      (out.err = none ∧ out.action = .layerUp ∧ after = (runtime.apply ref out).openAuth env ref ∨
        out.err = none ∧ out.action = .layerDown ∧
          after = ((runtime.apply ref out).deallocateSession session.sessionId).1 ∨
        ¬ (out.err = none ∧ out.action ≠ .none) ∧ after = runtime.apply ref out) := by
  rcases Option.bind_eq_some_iff.mp processed with ⟨session, found, handled⟩
  rcases Option.map_eq_some_iff.mp handled with ⟨out, received, equal⟩
  refine ⟨session, out, found, received, ?_⟩
  dsimp only at equal
  split at equal
  · rename_i noError up
    exact .inl ⟨noError, up, (congrArg Prod.fst equal).symm⟩
  · rename_i noError down
    exact .inr (.inl ⟨noError, down, (congrArg Prod.fst equal).symm⟩)
  · rename_i notUp notDown
    refine .inr (.inr ⟨?_, (congrArg Prod.fst equal).symm⟩)
    rintro ⟨noError, moved⟩
    cases action : out.action with
    | none => exact moved action
    | layerUp => exact notUp noError action
    | layerDown => exact notDown noError action

/-- The daemon after a request was noted and before AAA has it. -/
def requested (ref : Nat) (protocol : AuthProtocol) (username : Bytes) (session : PPPOESession)
    (runtime : Runtime) : Runtime :=
  (runtime.apply ref (PPPOESession.done { session with username := username })).observe
    (.request ref protocol session.chap.challenge)

/-- A request to authenticate repeats a success, or is handed to AAA, whose
callback calls are carried out. -/
theorem recvAuthReq_cases {runtime after : Runtime} {env : Env} {ref : Nat}
    {protocol : AuthProtocol} {username : Bytes} {credential : Credential}
    (received : runtime.recvAuthReq env ref protocol username credential = some after) :
    ∃ session, runtime.sessions.deref ref = some session ∧
      (protocol.started session = true ∧
          after = runtime.apply ref (protocol.sendAuthAck runtime.hwaddr session) ∨
        protocol.started session = false ∧ ∃ started,
          runtime.aaa.startSession env.aaa username credential session.encap ⟨ref, protocol⟩ =
              some started ∧
            after = (requested ref protocol username session runtime).withCalls started) := by
  rcases Option.bind_eq_some_iff.mp received with ⟨session, found, handled⟩
  refine ⟨session, found, ?_⟩
  split at handled
  · rename_i repeated
    exact .inl ⟨repeated, (Option.some.inj handled).symm⟩
  · rename_i fresh
    rcases Option.map_eq_some_iff.mp handled with ⟨started, called, equal⟩
    exact .inr ⟨Bool.eq_false_iff.mpr fresh, started, called, equal.symm⟩

/-- What `processIpcp` can do: run the automaton, and then configure the data
plane or nothing. -/
theorem processIpcp_cases {runtime after : Runtime} {ref : Nat} {packet : Packet}
    (processed : runtime.processIpcp ref packet = some after) :
    ∃ session out, runtime.sessions.deref ref = some session ∧
      runtime.ipcpFsm.receive session packet = some out ∧
      (out.err = none ∧ out.action = .layerUp ∧
          after = (runtime.apply ref out).openDataPlane ref out.session ∨
        ¬ (out.err = none ∧ out.action = .layerUp) ∧ after = runtime.apply ref out) := by
  rcases Option.bind_eq_some_iff.mp processed with ⟨session, found, handled⟩
  rcases Option.map_eq_some_iff.mp handled with ⟨out, received, equal⟩
  refine ⟨session, out, found, received, ?_⟩
  dsimp only at equal
  split at equal
  · rename_i noError up
    exact .inl ⟨noError, up, equal.symm⟩
  · rename_i notUp
    exact .inr ⟨fun up => notUp up.1 up.2, equal.symm⟩

/-- The daemon after the data plane was configured for a session and before its
echo timer is started. -/
def configured (ref : Nat) (session : PPPOESession) (runtime : Runtime) : Runtime :=
  { runtime with
    vpp := (runtime.vpp.provisionDp ref session).1
    sessions := runtime.sessions.update ref (fun object =>
      { object with ifindex := (runtime.vpp.provisionDp ref session).2.2 })
    aaa := runtime.aaa.mapIfaceToSession session.aaaSessionId
      (runtime.vpp.provisionDp ref session).2.2 }

theorem openDataPlane_eq (ref : Nat) (session : PPPOESession) (runtime : Runtime) :
    runtime.openDataPlane ref session = (runtime.configured ref session).startEcho ref := rfl

/-! ## The echo timer -/

/-- The daemon after a wait was taken off an echo timer. -/
def popEcho (ref index : Nat) (runtime : Runtime) : Runtime :=
  { runtime with
    sessions := runtime.sessions.update ref (fun session =>
      { session with timer := session.timer.eraseIdx index }) }

/-- A handler of an echo wait runs for an expired or for an aborted wait. -/
theorem echoTimer_cases {runtime after : Runtime} {env : Env} {ref index : Nat}
    (fired : runtime.echoTimer env ref index = some after) :
    ∃ session, runtime.sessions.deref ref = some session ∧
      (session.timer[index]? = some .expired ∧
          after = ((runtime.popEcho ref index).sendEchoReq env ref).collect ref ∨
        session.timer[index]? = some .aborted ∧ after = (runtime.popEcho ref index).collect ref) := by
  rcases Option.bind_eq_some_iff.mp fired with ⟨session, found, handled⟩
  refine ⟨session, found, ?_⟩
  dsimp only at handled
  split at handled
  · rename_i expired
    exact .inl ⟨expired, (Option.some.inj handled).symm⟩
  · rename_i aborted
    exact .inr ⟨aborted, (Option.some.inj handled).symm⟩
  · cases handled

/-- A session with one more echo request unanswered. -/
def countEcho (session : PPPOESession) : PPPOESession :=
  { session with lcp := { session.lcp with echoCounter := session.lcp.echoCounter + 1 } }

/-- An echo request ends the session when nine were not answered, and else it is
sent and the timer started again. -/
theorem sendEchoReq_cases {runtime : Runtime} {ref : Nat} {session : PPPOESession} (env : Env)
    (found : runtime.sessions.deref ref = some session) :
    ∃ out : FsmOut, out.session = countEcho session ∧
      (9 < session.lcp.echoCounter + 1 ∧ out.sent = [] ∧
          runtime.sendEchoReq env ref =
            ((runtime.apply ref out).deallocateSession session.sessionId).1 ∨
        ¬ 9 < session.lcp.echoCounter + 1 ∧
          runtime.sendEchoReq env ref = (runtime.apply ref out).startEcho ref) := by
  have spec := LCPFsm.sendEchoReq_session
    { hwaddr := runtime.hwaddr, lcpConf := runtime.lcpConf, random := env.random } session
  refine ⟨_, spec.1, ?_⟩
  unfold sendEchoReq
  rw [found]
  dsimp only
  rcases spec.2 with ⟨down, silent, nothing⟩ | ⟨quiet, answered⟩
  · rw [down]
    exact .inl ⟨silent, nothing, rfl⟩
  · rw [quiet]
    exact .inr ⟨answered, rfl⟩

/-! ## Events -/

/-- A step that at most lets AAA handle one of its quiet events, and changes
neither the sessions nor the data plane nor the log. -/
structure Quiet (now after : Runtime) : Prop where
  store : after.store = now.store
  sessions : after.sessions = now.sessions
  vpp : after.vpp = now.vpp
  log : after.log = now.log
  lcpConf : after.lcpConf = now.lcpConf
  aaa : after.aaa = now.aaa ∨ ∃ event : AAAEvent, event.Quiet ∧ now.aaa.step event = some after.aaa

/-- What the daemon does with each kind of input. -/
inductive StepCase (now : Runtime) (env : Env) (after : Runtime) : Input -> Prop
  | discovery {encap : Encapsulation} {packet : Packet} {err : Option String} :
      now.processPPPOE env encap packet = some (after, err) ->
        StepCase now env after (.discovery encap packet)
  | session {encap : Encapsulation} {packet : Packet} {err : Option String} :
      now.processPPP env encap packet = some (after, err) ->
        StepCase now env after (.session encap packet)
  | pendingTimer {index : Nat} : now.pendingTimer index = some after ->
      StepCase now env after (.pendingTimer index)
  | echoExpires {ref : Nat} : after = now.echoExpires ref -> StepCase now env after (.echoExpires ref)
  | echoTimer {ref index : Nat} : now.echoTimer env ref index = some after ->
      StepCase now env after (.echoTimer ref index)
  | authDatagram {datagram : Bytes} {outcome : AAA × List CallbackCall} :
      now.aaa.authDatagram env.aaa datagram = some outcome -> after = now.withCalls outcome ->
        StepCase now env after (.authDatagram datagram)
  | authTimer {id : UInt8} {outcome : AAA × List CallbackCall} :
      now.aaa.authTimer id = some outcome -> after = now.withCalls outcome ->
        StepCase now env after (.authTimer id)
  | quiet {input : Input} : Quiet now after -> StepCase now env after input

theorem quiet_withAaa {now : Runtime} {aaa : AAA} (event : AAAEvent) (isQuiet : event.Quiet)
    (handled : now.aaa.step event = some aaa) : Quiet now (now.withAaa aaa) :=
  ⟨rfl, rfl, rfl, rfl, rfl, .inr ⟨event, isQuiet, handled⟩⟩

theorem step_cases {now after : Runtime} {event : Event} (taken : step now event = some after) :
    StepCase now event.env after event.input := by
  rcases event with ⟨env, input⟩
  cases input with
  | discovery encap packet =>
      rcases Option.map_eq_some_iff.mp taken with ⟨⟨_, _⟩, processed, equal⟩
      exact equal ▸ .discovery processed
  | session encap packet =>
      rcases Option.map_eq_some_iff.mp taken with ⟨⟨_, _⟩, processed, equal⟩
      exact equal ▸ .session processed
  | pendingTimer index => exact .pendingTimer taken
  | echoExpires ref => exact .echoExpires (Option.some.inj taken).symm
  | echoTimer ref index => exact .echoTimer taken
  | authDatagram datagram =>
      rcases Option.map_eq_some_iff.mp taken with ⟨_, handled, equal⟩
      exact .authDatagram handled equal.symm
  | authTimer id =>
      rcases Option.map_eq_some_iff.mp taken with ⟨_, handled, equal⟩
      exact .authTimer handled equal.symm
  | authExpires id =>
      rw [← Option.some.inj taken]
      exact .quiet (quiet_withAaa (.authExpires id) trivial rfl)
  | acctDatagram datagram =>
      rcases Option.map_eq_some_iff.mp taken with ⟨_, handled, equal⟩
      rw [← equal]
      exact .quiet (quiet_withAaa (.acctDatagram env.aaa datagram) trivial handled)
  | acctExpires id =>
      rw [← Option.some.inj taken]
      exact .quiet (quiet_withAaa (.acctExpires id) trivial rfl)
  | acctTimer id =>
      rcases Option.map_eq_some_iff.mp taken with ⟨_, handled, equal⟩
      rw [← equal]
      exact .quiet (quiet_withAaa (.acctTimer id) trivial handled)
  | interimExpires ref =>
      rw [← Option.some.inj taken]
      exact .quiet (quiet_withAaa (.interimExpires ref) trivial rfl)
  | interimTimer ref index =>
      rcases Option.map_eq_some_iff.mp taken with ⟨_, handled, equal⟩
      rw [← equal]
      exact .quiet (quiet_withAaa (.interimTimer now.counters ref index) trivial handled)
  | collectCounters counters =>
      rw [← Option.some.inj taken]
      exact .quiet ⟨rfl, rfl, rfl, rfl, rfl, .inl rfl⟩
  | reload conf =>
      unfold step at taken
      dsimp only at taken
      split at taken
      · rename_i decoded
        rw [← Option.some.inj taken]
        refine .quiet ⟨rfl, rfl, rfl, rfl, rfl,
          .inr ⟨.reload conf.aaaConf conf.pppoeTemplates, trivial, ?_⟩⟩
        rw [AAA.step, if_pos decoded]
        rfl
      · cases taken
  | periodic =>
      rw [← Option.some.inj taken]
      exact .quiet ⟨rfl, rfl, rfl, rfl, rfl, .inl rfl⟩

end Runtime

end Pppcpd
