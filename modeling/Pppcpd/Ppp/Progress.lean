import Pppcpd.Ppp.IpcpReply
import Pppcpd.Ppp.Automata

namespace Pppcpd

open Foundation

/-!
# The way of an automaton to Opened

From Req_Sent, Ack_Rcvd and Ack_Sent two packets of the peer open an automaton: a
Configure-Request that is accepted and a Configure-Ack for its own request.  What
the automaton receives keeps it in these states or in Opened, except that a
Terminate-Request in Opened leads to Stopping.  There, as in Starting, every
Configure-Request is refused, and nothing that the peer can send leads out.
-/

namespace PPPFsmState

/-- The states between the first Configure-Request and Opened. -/
def Negotiates (state : PPPFsmState) : Prop :=
  state = .reqSent ∨ state = .ackRcvd ∨ state = .ackSent ∨ state = .opened

instance : DecidablePred Negotiates := fun _ => inferInstanceAs (Decidable (_ ∨ _))

end PPPFsmState

namespace FsmClass

variable {protocol : FsmClass}

/-- Every Configure-Request gets an error and changes nothing. -/
def RefusesAll (protocol : FsmClass) (session : PPPOESession) : Prop :=
  forall packet : Packet, packet.code = LCPCode.confReq ->
    ∃ text, protocol.receive session packet = some (session.fail text)

/-- The request is one that `check_conf` answers with a Configure-Ack. -/
def Accepts (protocol : FsmClass) (session : PPPOESession) (packet : Packet) : Prop :=
  packet.code = LCPCode.confReq ∧
    ∃ out, protocol.checkConf session packet = some out ∧ out.err = none ∧
      protocol.state out.session = if protocol.state session = .ackRcvd then .opened else .ackSent

/-- What is asked of the virtual methods, and that `check_conf` keeps an
automaton in the states between its first request and Opened. -/
structure Progressive (protocol : FsmClass) : Prop where
  lawful : protocol.Lawful
  checkConf : forall session packet out, protocol.checkConf session packet = some out ->
    (protocol.state session).Negotiates -> (protocol.state out.session).Negotiates

/-- The state after the accepting end of `check_conf`. -/
theorem state_acceptConf {access : FsmAccess} (lawful : access.Lawful) (hwaddr : Mac)
    (session : PPPOESession) (packet : Packet) :
    access.state (access.acceptConf hwaddr session packet).session =
      if access.state session = .ackRcvd then .opened else .ackSent := by
  unfold FsmAccess.acceptConf FsmAccess.sendConfAck
  dsimp only
  rw [FsmAccess.state, lawful]

theorem negotiates_refuseState {access : FsmAccess} (lawful : access.Lawful)
    {session : PPPOESession} (negotiates : (access.state session).Negotiates) :
    (access.state (access.refuseState session)).Negotiates := by
  unfold FsmAccess.refuseState
  split
  · exact negotiates
  · rw [lawful.state_setState]
    exact .inl rfl

namespace Progressive

/-- A packet keeps an automaton negotiating, unless it ends one that is Opened. -/
theorem receive (progressive : protocol.Progressive) {session : PPPOESession} {packet : Packet}
    {out : FsmOut} (received : protocol.receive session packet = some out)
    (negotiates : (protocol.state session).Negotiates) :
    (protocol.state out.session).Negotiates ∨
      packet.code = LCPCode.termReq ∧ protocol.state session = .opened ∧
        out.err = none ∧ out.action = .layerDown := by
  have lawful := progressive.lawful
  unfold FsmClass.receive at received
  dsimp only at received
  split at received
  · rename_i early
    rcases early with initial | starting
    · rw [initial] at negotiates
      exact absurd negotiates (by decide)
    · rw [starting] at negotiates
      exact absurd negotiates (by decide)
  · split at received
    · unfold FsmClass.recvConfReq at received
      split at received
      · rw [← Option.some.inj received]
        exact .inl negotiates
      · rw [← Option.some.inj received]
        exact .inl negotiates
      · rw [← Option.some.inj received]
        exact .inl negotiates
      · rw [← Option.some.inj received]
        refine .inl ?_
        dsimp only
        rw [lawful.setFsm.state_setState]
        exact .inl rfl
      · rename_i stopped
        rw [stopped] at negotiates
        exact absurd negotiates (by decide)
      · exact .inl (progressive.checkConf _ _ _ received negotiates)
    · split at received
      · rw [← Option.some.inj received]
        refine .inl ?_
        unfold FsmClass.recvConfAck
        split
        · exact negotiates
        · dsimp only
          split
          · dsimp only [PPPOESession.done]
            rw [lawful.setFsm.state_setState]
            exact .inr (.inl rfl)
          · dsimp only
            rw [lawful.setFsm.state_setState]
            exact .inr (.inr (.inr rfl))
          · dsimp only
            rw [lawful.setFsm.state_setState]
            exact .inl rfl
          · dsimp only [PPPOESession.done]
            rw [FsmAccess.state, lawful.setFsm]
            exact negotiates
      · split at received
        · rename_i isTermReq
          rw [← Option.some.inj received]
          unfold FsmClass.recvTermReq
          split
          · refine .inl ?_
            dsimp only
            rw [lawful.sendTermAck, lawful.setFsm.state_setState]
            exact .inl rfl
          · refine .inl ?_
            dsimp only
            rw [lawful.sendTermAck, lawful.setFsm.state_setState]
            exact .inl rfl
          · rename_i opened
            exact .inr ⟨isTermReq, opened, rfl, rfl⟩
          · refine .inl ?_
            dsimp only
            rw [lawful.sendTermAck]
            exact negotiates
        · split at received
          · rw [← Option.some.inj received, (lawful.sendEchoRep session packet).1]
            exact .inl negotiates
          · split at received
            · rw [← Option.some.inj received, (lawful.recvEchoRep session packet).1]
              exact .inl negotiates
            · rw [← Option.some.inj received]
              exact .inl negotiates

end Progressive

/-- `open()` and `layer_up()` leave an automaton alone that negotiates. -/
theorem start_of_negotiates {session : PPPOESession}
    (negotiates : (protocol.state session).Negotiates) : protocol.start session = session.done := by
  have first : protocol.openFsm session = session.done := by
    unfold FsmClass.openFsm
    rcases negotiates with state | state | state | state <;> rw [state]
  have second : protocol.layerUp session = session.done := by
    unfold FsmClass.layerUp
    rcases negotiates with state | state | state | state <;> rw [state]
  unfold FsmClass.start
  rw [first]
  dsimp only [PPPOESession.done] at second ⊢
  rw [second]
  rfl

/-- They take it from Initial to Req_Sent when its request can be sent. -/
theorem start_of_initial (lawful : protocol.Lawful) {session : PPPOESession}
    (initial : protocol.state session = .initial)
    (sends : forall asking, (protocol.sendConfReq asking).err = none) :
    protocol.state (protocol.start session).session = .reqSent := by
  have opened : protocol.openFsm session = (protocol.setState session .starting).done := by
    unfold FsmClass.openFsm
    rw [initial]
  unfold FsmClass.start FsmClass.layerUp
  rw [opened]
  dsimp only [PPPOESession.done]
  rw [lawful.setFsm.state_setState]
  dsimp only
  unfold FsmClass.requestOrLog
  dsimp only
  rw [sends]
  exact lawful.setFsm.state_setState _ _

/-- A request that is accepted opens an automaton whose own request was acked,
and takes it to Ack_Sent otherwise. -/
theorem receive_of_accepts (lawful : protocol.Lawful) {session : PPPOESession} {packet : Packet}
    (accepts : protocol.Accepts session packet) (negotiates : (protocol.state session).Negotiates)
    (notOpened : protocol.state session ≠ .opened) :
    ∃ out, protocol.receive session packet = some out ∧ out.err = none ∧
      (protocol.state out.session = .opened ∧ out.action = .layerUp ∨
        protocol.state out.session = .ackSent ∧ out.action = .none) := by
  rcases accepts with ⟨isRequest, out, checked, noError, state⟩
  have notInitial : protocol.state session ≠ .initial := by
    intro initial
    rw [initial] at negotiates
    exact absurd negotiates (by decide)
  have move := lawful.checkConf _ _ _ checked notOpened notInitial
  refine ⟨out, ?_, noError, ?_⟩
  · unfold FsmClass.receive FsmClass.recvConfReq
    dsimp only
    rcases negotiates with reqSent | ackRcvd | ackSent | opened
    · rw [reqSent, if_neg (by decide), if_pos isRequest]
      exact checked
    · rw [ackRcvd, if_neg (by decide), if_pos isRequest]
      exact checked
    · rw [ackSent, if_neg (by decide), if_pos isRequest]
      exact checked
    · exact absurd opened notOpened
  · rw [noError] at move
    split at state
    · rw [state] at move ⊢
      cases action : out.action with
      | layerUp => exact .inl ⟨rfl, rfl⟩
      | none =>
          rw [action] at move
          exact absurd (move.of_none.1.mp rfl) notOpened
      | layerDown =>
          rw [action] at move
          exact absurd move.of_layerDown.1 notOpened
    · rw [state] at move ⊢
      cases action : out.action with
      | none => exact .inr ⟨rfl, rfl⟩
      | layerUp =>
          rw [action] at move
          exact absurd move.of_layerUp.2.2.1 (by decide)
      | layerDown =>
          rw [action] at move
          exact absurd move.of_layerDown.1 notOpened

/-- An automaton that negotiates does not refuse a request that it would accept.
One that is Opened starts over. -/
theorem not_refusesAll_of_accepts (lawful : protocol.Lawful) {session : PPPOESession}
    {packet : Packet} (accepts : protocol.Accepts session packet)
    (negotiates : (protocol.state session).Negotiates) : ¬ protocol.RefusesAll session := by
  intro refuses
  rcases refuses packet accepts.1 with ⟨text, refused⟩
  by_cases opened : protocol.state session = .opened
  · unfold FsmClass.receive FsmClass.recvConfReq at refused
    dsimp only at refused
    rw [opened, if_neg (by decide), if_pos accepts.1] at refused
    have noError := congrArg FsmOut.err (Option.some.inj refused)
    cases noError
  · rcases receive_of_accepts lawful accepts negotiates opened with ⟨out, received, noError, _⟩
    rw [refused] at received
    rw [← Option.some.inj received] at noError
    cases noError

/-- A Configure-Ack for the own request opens an automaton that has acked the
peer's. -/
theorem receive_of_ack (lawful : protocol.Lawful) {session : PPPOESession} {packet : Packet}
    (ackSent : protocol.state session = .ackSent) (isAck : packet.code = LCPCode.confAck)
    (current : packet.identifier = (protocol.fsm session).pktId) :
    ∃ out, protocol.receive session packet = some out ∧ out.err = none ∧ out.action = .layerUp ∧
      protocol.state out.session = .opened := by
  have seen : protocol.state (protocol.setFsm session { protocol.fsm session with seenAck := true }) =
      .ackSent := by
    rw [FsmAccess.state, lawful.setFsm]
    exact ackSent
  unfold FsmClass.receive FsmClass.recvConfAck
  dsimp only
  rw [ackSent, if_neg (by decide), isAck, if_neg (by decide), if_pos rfl,
    if_neg (fun other => other current), seen]
  exact ⟨_, rfl, rfl, rfl, lawful.setFsm.state_setState _ _⟩

/-- An automaton that was not started changes nothing. -/
theorem receive_of_initial {session : PPPOESession} {packet : Packet}
    {out : FsmOut} (initial : protocol.state session = .initial)
    (received : protocol.receive session packet = some out) : out.session = session := by
  unfold FsmClass.receive at received
  dsimp only at received
  rw [if_pos (.inl initial)] at received
  rw [← Option.some.inj received]
  rfl

/-! ## The dead ends -/

/-- The states that no packet leads out of. -/
def DeadEnd (state : PPPFsmState) : Prop := state = .starting ∨ state = .stopping

theorem receive_of_deadEnd (lawful : protocol.Lawful) {session : PPPOESession} {packet : Packet}
    {out : FsmOut} (deadEnd : DeadEnd (protocol.state session))
    (received : protocol.receive session packet = some out) :
    protocol.state out.session = protocol.state session := by
  unfold FsmClass.receive at received
  rcases deadEnd with starting | stopping
  · dsimp only at received
    rw [if_pos (.inr starting)] at received
    rw [← Option.some.inj received]
    rfl
  · dsimp only at received
    rw [if_neg (by rw [stopping]; decide)] at received
    split at received
    · unfold FsmClass.recvConfReq at received
      rw [stopping] at received
      rw [← Option.some.inj received]
      rfl
    · split at received
      · rw [← Option.some.inj received]
        have seen : protocol.state
            (protocol.setFsm session { protocol.fsm session with seenAck := true }) =
              protocol.state session := by
          rw [FsmAccess.state, lawful.setFsm]
          rfl
        unfold FsmClass.recvConfAck
        split
        · rfl
        · dsimp only
          rw [seen, stopping]
          exact seen.trans stopping
      · split at received
        · rw [← Option.some.inj received]
          unfold FsmClass.recvTermReq
          rw [stopping]
          exact (lawful.sendTermAck session packet).trans stopping
        · split at received
          · rw [← Option.some.inj received]
            exact (lawful.sendEchoRep session packet).1
          · split at received
            · rw [← Option.some.inj received]
              exact (lawful.recvEchoRep session packet).1
            · rw [← Option.some.inj received]
              rfl

theorem refusesAll_of_deadEnd {session : PPPOESession}
    (deadEnd : DeadEnd (protocol.state session)) : protocol.RefusesAll session := by
  intro packet isRequest
  unfold FsmClass.receive
  dsimp only
  rcases deadEnd with starting | stopping
  · exact ⟨_, by rw [if_pos (.inr starting)]⟩
  · refine ⟨"We're stopping or closing right now", ?_⟩
    rw [if_neg (by rw [stopping]; decide), if_pos isRequest]
    unfold FsmClass.recvConfReq
    rw [stopping]

/-- `open()` and `layer_up()` do not lead out of Stopping. -/
theorem start_of_stopping {session : PPPOESession} (stopping : protocol.state session = .stopping) :
    protocol.start session = session.done := by
  have first : protocol.openFsm session = session.done := by
    unfold FsmClass.openFsm
    rw [stopping]
  have second : protocol.layerUp session = session.done := by
    unfold FsmClass.layerUp
    rw [stopping]
  unfold FsmClass.start
  rw [first]
  dsimp only [PPPOESession.done] at second ⊢
  rw [second]
  rfl

end FsmClass

/-! ## The packets of the peer -/

/-- A Configure-Request of the peer for one option. -/
def peerRequest (sid proto : UInt16) (option : PPPOption) : Bytes :=
  configurePacket sid proto LCPCode.confReq 1 [option]

/-- A Configure-Ack of the peer. -/
def peerAck (sid proto : UInt16) (identifier : UInt8) : Bytes :=
  configurePacket sid proto LCPCode.confAck identifier []

theorem configurePacket_fields (sid proto : UInt16) (code identifier : UInt8)
    (options : List PPPOption) (behind : Nat -> UInt8) :
    Packet.pppoeSessionId ⟨configurePacket sid proto code identifier options, behind⟩ = sid ∧
      Packet.pppProtocol ⟨configurePacket sid proto code identifier options, behind⟩ = proto :=
  ⟨be16_bytes16 sid, be16_bytes16 proto⟩

theorem configures_peerRequest (sid proto : UInt16) (option : PPPOption) :
    Configures (peerRequest sid proto option) sid proto LCPCode.confReq 1 [option] := by
  have fits := option.fits
  refine configures_configurePacket sid proto LCPCode.confReq 1 ?_
  simp only [encodeOptions_cons, encodeOptions_nil, List.append_nil, PPPOption.length_bytes,
    PPPOption.size]
  omega

/-! ## LCP -/

namespace LCPFsm

theorem short_bytes16 : (bytes16 1492).length ≤ 253 := by decide

/-- An option that LCP accepts. -/
def mruOption : PPPOption := ⟨LCPOption.mru, bytes16 1492, short_bytes16⟩

theorem lcp_learn (options : List PPPOption) (session : PPPOESession) :
    (learn options session).lcp = session.lcp := rfl

theorem accepts_peerRequest (context : LinkContext) (session : PPPOESession) (sid proto : UInt16)
    (behind : Nat -> UInt8) :
    (protocol context).Accepts session ⟨peerRequest sid proto mruOption, behind⟩ := by
  have wellFormed : WellFormed [mruOption] := ⟨by decide, by decide, by decide⟩
  have isRequest := configures_peerRequest sid proto mruOption
  have checked := checkConf_of_known context session (isRequest.carries behind) wellFormed (by decide)
  rw [← protocol_checkConf] at checked
  have state := FsmClass.state_acceptConf access_lawful context.hwaddr (learn [mruOption] session)
    ⟨peerRequest sid proto mruOption, behind⟩
  rw [state_eq_of_lcp (lcp_learn [mruOption] session)] at state
  exact ⟨isRequest.code behind, _, checked, rfl, state⟩

theorem protocol_progressive (context : LinkContext) : (protocol context).Progressive where
  lawful := protocol_lawful context
  checkConf := by
    intro session packet out returned negotiates
    rw [protocol_checkConf] at returned
    rcases checkConf_cases returned with empty | ⟨walked, _, kept, accepted | ⟨rejected, refused⟩⟩
    · rw [empty]
      exact negotiates
    · have state := FsmClass.state_acceptConf access_lawful context.hwaddr walked packet
      rw [← accepted] at state
      rw [show (protocol context).state out.session = access.state out.session from rfl, state]
      split
      · exact .inr (.inr (.inr rfl))
      · exact .inr (.inr (.inl rfl))
    · rw [refused]
      refine FsmClass.negotiates_refuseState access_lawful ?_
      rw [state_eq_of_lcp kept]
      exact negotiates

/-- The own request can be sent when an authentication protocol is chosen. -/
theorem sendConfReq_silent {context : LinkContext} (chosen : authOption context.lcpConf ≠ none)
    (session : PPPOESession) : (sendConfReq context session).err = none := by
  unfold sendConfReq
  split
  · rename_i none
    exact absurd none chosen
  · rfl

/-- Otherwise LCP stays in Starting. -/
theorem start_without_auth {context : LinkContext} (notChosen : authOption context.lcpConf = none)
    {session : PPPOESession} (initial : session.lcp.state = .initial) :
    ((protocol context).start session).session.lcp.state = .starting := by
  unfold FsmClass.start FsmClass.openFsm FsmClass.layerUp FsmClass.requestOrLog
  have failed : forall asking : PPPOESession,
      sendConfReq context asking = asking.fail "No Auth proto is chosen!" := by
    intro asking
    unfold sendConfReq
    rw [notChosen]
  simp [protocol, access, FsmAccess.state, FsmAccess.setState, PPPOESession.done, PPPOESession.fail,
    initial, failed]

end LCPFsm

/-! ## IPCP -/

namespace IPCPFsm

/-- IPCP accepts the address of the AAA session. -/
theorem accepts_peerRequest (hwaddr : Mac) {getSession : SessionLookup} {session : PPPOESession}
    {aaaSession : AAASession} (found : getSession session.aaaSessionId = some aaaSession)
    (sid proto : UInt16) (behind : Nat -> UInt8) :
    (protocol hwaddr getSession).Accepts session
      ⟨peerRequest sid proto (.of32 IPCPOption.ipAddress aaaSession.address), behind⟩ := by
  have agree : ∀ option ∈ [PPPOption.of32 IPCPOption.ipAddress aaaSession.address],
      Agrees aaaSession option := by
    intro option member
    rw [List.mem_singleton.mp member]
    unfold Agrees
    rw [PPPOption.value32_of32]
    rfl
  have wellFormed : WellFormed [PPPOption.of32 IPCPOption.ipAddress aaaSession.address] := by
    intro option member _
    rw [List.mem_singleton.mp member]
    rfl
  have isRequest := configures_peerRequest sid proto (.of32 IPCPOption.ipAddress aaaSession.address)
  have checked := checkConf_of_agrees hwaddr found (isRequest.carries behind) wellFormed
    (List.cons_ne_nil _ _) agree
  rw [← protocol_checkConf] at checked
  refine ⟨isRequest.code behind, _, checked, rfl, ?_⟩
  exact FsmClass.state_acceptConf access_lawful hwaddr (adopt aaaSession session) _

theorem protocol_progressive (hwaddr : Mac) (getSession : SessionLookup) :
    (protocol hwaddr getSession).Progressive where
  lawful := protocol_lawful hwaddr getSession
  checkConf := by
    intro session packet out returned negotiates
    rw [protocol_checkConf] at returned
    rcases checkConf_cases returned with ⟨text, failed⟩ |
      ⟨aaaSession, _, ⟨_, rejected, refused⟩ | accepted | ⟨_, _, state⟩⟩
    · rw [failed]
      exact negotiates
    · rw [refused]
      exact negotiates
    · have state := FsmClass.state_acceptConf access_lawful hwaddr (adopt aaaSession session) packet
      rw [← accepted] at state
      rw [show (protocol hwaddr getSession).state out.session = access.state out.session from rfl,
        state]
      split
      · exact .inr (.inr (.inr rfl))
      · exact .inr (.inr (.inl rfl))
    · have moved : (protocol hwaddr getSession).state out.session =
          access.state (access.refuseState (adopt aaaSession session)) := state
      rw [moved]
      exact FsmClass.negotiates_refuseState access_lawful negotiates

end IPCPFsm

end Pppcpd
