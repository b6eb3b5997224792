import Pppcpd.Foundation.Run
import Pppcpd.Ppp.Automata

namespace Pppcpd

open Foundation

/-!
# The handshake of the automata

An automaton is called with packets, with `open` and with `layer_up`, in any
order, and between two calls anything but the automaton itself may change.
Opened is reached in two orders: our Configure-Request is acked first, or the
peer's is.  Either way both acks lie behind the last entry into Req_Sent.

Nothing is said of the packets of a peer that is refused, except that a refusal
has to take an ack back.  LCP does that, and IPCP does it for a Configure-Nak.
-/

/-- What an automaton reads of the rest of the daemon. -/
structure Surroundings where
  link : LinkContext
  getSession : IPCPFsm.SessionLookup

/-- The two automata of a session. -/
inductive Automaton
  | lcp
  | ipcp
  deriving DecidableEq, Repr

namespace Automaton

def access : Automaton -> FsmAccess
  | .lcp => LCPFsm.access
  | .ipcp => IPCPFsm.access

def protocol : Automaton -> Surroundings -> FsmClass
  | .lcp, surroundings => LCPFsm.protocol surroundings.link
  | .ipcp, surroundings => IPCPFsm.protocol surroundings.link.hwaddr surroundings.getSession

def state (automaton : Automaton) (session : PPPOESession) : PPPFsmState :=
  automaton.access.state session

end Automaton

/-- A call of an automaton, or a change that others make to its session. -/
inductive FsmCall
  | openFsm (surroundings : Surroundings)
  | layerUp (surroundings : Surroundings)
  | receive (surroundings : Surroundings) (packet : Packet)
  | elsewhere (later : PPPOESession)

namespace Automaton

variable (automaton : Automaton)

/-- What a call does, when it returns. -/
def call (session : PPPOESession) : FsmCall -> Option FsmOut
  | .openFsm surroundings => some ((automaton.protocol surroundings).openFsm session)
  | .layerUp surroundings => some ((automaton.protocol surroundings).layerUp session)
  | .receive surroundings packet => (automaton.protocol surroundings).receive session packet
  | .elsewhere later =>
      if automaton.access.fsm later = automaton.access.fsm session then some later.done else none

/-- The session after a call. -/
def step (session : PPPOESession) (call : FsmCall) : Option PPPOESession :=
  (automaton.call session call).map FsmOut.session

/-- The step moved the automaton into Req_Sent. -/
def Enters (before after : PPPOESession) : Prop :=
  automaton.state after = .reqSent ∧ automaton.state before ≠ .reqSent

end Automaton

/-- The answer that accepts a Configure-Request: the request with another code. -/
def acceptance (hwaddr : Mac) (session : PPPOESession) (packet : Packet) : Bytes :=
  session.frame hwaddr (packet.setCode LCPCode.confAck).bytes

namespace Automaton

variable (automaton : Automaton)

/-- The call accepts a Configure-Ack for the automaton's own request. -/
def AcceptsAck (session : PPPOESession) : FsmCall -> Prop
  | .receive _ packet =>
      packet.code = LCPCode.confAck ∧ packet.identifier = (automaton.access.fsm session).pktId ∧
        automaton.state session ≠ .initial ∧ automaton.state session ≠ .starting
  | _ => False

/-- The call answers a Configure-Request of the peer.  In Opened it does not, but
sends a request of its own. -/
def Answers (session : PPPOESession) : FsmCall -> Prop
  | .receive surroundings packet =>
      packet.code = LCPCode.confReq ∧ automaton.state session ≠ .opened ∧
        ∃ out, (automaton.protocol surroundings).receive session packet = some out ∧ out.sent ≠ []
  | _ => False

/-- The call answers a Configure-Request of the peer with a Configure-Ack. -/
def SendsAck (session : PPPOESession) : FsmCall -> Prop
  | .receive surroundings packet =>
      packet.code = LCPCode.confReq ∧ automaton.state session ≠ .opened ∧
        ∃ out, (automaton.protocol surroundings).receive session packet = some out ∧
          acceptance surroundings.link.hwaddr session packet ∈ out.sent
  | _ => False

end Automaton

/-- How `check_conf` returns: without an answer, with a Configure-Ack, with a
refusal that takes an ack back, or with one that leaves the state as it is. -/
inductive Checked (access : FsmAccess) (hwaddr : Mac) (session : PPPOESession) (packet : Packet)
    (inPlace : Prop) (out : FsmOut) : Prop
  | silent : out.sent = [] -> access.state out.session = access.state session ->
      Checked access hwaddr session packet inPlace out
  | accepted : out.sent = [acceptance hwaddr session packet] ->
      access.state out.session =
        (if access.state session = .ackRcvd then PPPFsmState.opened else .ackSent) ->
      Checked access hwaddr session packet inPlace out
  | refused : access.state out.session =
        (if access.state session = .ackRcvd then PPPFsmState.ackRcvd else .reqSent) ->
      Checked access hwaddr session packet inPlace out
  | kept : inPlace -> access.state out.session = access.state session ->
      Checked access hwaddr session packet inPlace out

theorem FsmAccess.Lawful.checked_of_accept {access : FsmAccess} (lawful : access.Lawful)
    {hwaddr : Mac} {session walked : PPPOESession} {packet : Packet} {inPlace : Prop}
    (encap : access.Leaves PPPOESession.encap) (sameEncap : walked.encap = session.encap)
    (same : access.state walked = access.state session) :
    Checked access hwaddr session packet inPlace (access.acceptConf hwaddr walked packet) := by
  refine .accepted ?_ ?_
  · have header := encap.acceptConf hwaddr walked packet
    unfold FsmAccess.acceptConf FsmAccess.sendConfAck at header ⊢
    dsimp only at header ⊢
    unfold acceptance PPPOESession.frame
    rw [header, sameEncap]
  · unfold FsmAccess.acceptConf FsmAccess.sendConfAck
    dsimp only
    rw [FsmAccess.state, lawful, same]

theorem FsmAccess.Lawful.checked_of_refuse {access : FsmAccess} (lawful : access.Lawful)
    {hwaddr : Mac} {session walked : PPPOESession} {packet : Packet} {inPlace : Prop} {out : FsmOut}
    (same : access.state walked = access.state session)
    (refused : access.state out.session = access.state (access.refuseState walked)) :
    Checked access hwaddr session packet inPlace out := by
  refine .refused ?_
  rw [refused]
  unfold FsmAccess.refuseState
  rw [same]
  split
  · rename_i ackRcvd
    rw [same, ackRcvd]
  · exact lawful.state_setState walked _

/-- What the reception of a packet can do to the handshake. -/
inductive Reception (protocol : FsmClass) (hwaddr : Mac) (session : PPPOESession) (packet : Packet)
    (inPlace : Prop) (out : FsmOut) : Prop
  | unmoved : (packet.code = LCPCode.confReq -> out.sent = []) ->
      protocol.state out.session = protocol.state session ->
      Reception protocol hwaddr session packet inPlace out
  | away : protocol.state out.session = .reqSent ∨
        packet.code ≠ LCPCode.confReq ∧ protocol.state out.session = .stopping ->
      Reception protocol hwaddr session packet inPlace out
  | sentAck : packet.code = LCPCode.confReq -> protocol.state session ≠ .opened ->
      acceptance hwaddr session packet ∈ out.sent ->
      protocol.state out.session =
        (if protocol.state session = .ackRcvd then PPPFsmState.opened else .ackSent) ->
      Reception protocol hwaddr session packet inPlace out
  | refused : protocol.state session = .ackRcvd -> protocol.state out.session = .ackRcvd ->
      Reception protocol hwaddr session packet inPlace out
  | kept : protocol.state session ≠ .opened -> inPlace ->
      protocol.state out.session = protocol.state session ->
      Reception protocol hwaddr session packet inPlace out
  | gotAck : packet.code = LCPCode.confAck -> packet.identifier = (protocol.fsm session).pktId ->
      protocol.state session = .reqSent ∧ protocol.state out.session = .ackRcvd ∨
        protocol.state session = .ackSent ∧ protocol.state out.session = .opened ->
      Reception protocol hwaddr session packet inPlace out

namespace FsmClass

variable {protocol : FsmClass} {hwaddr : Mac} {inPlace : PPPOESession -> Packet -> Prop}

/-- What is asked of the virtual methods for the handshake. -/
structure Negotiates (protocol : FsmClass) (hwaddr : Mac)
    (inPlace : PPPOESession -> Packet -> Prop) : Prop where
  lawful : protocol.Lawful
  setFsm : protocol.toFsmAccess.Leaves PPPOESession.encap
  sendConfReq : forall session, (protocol.sendConfReq session).session.encap = session.encap
  checkConf : forall session packet out, protocol.checkConf session packet = some out ->
    Checked protocol.toFsmAccess hwaddr session packet (inPlace session packet) out

theorem Negotiates.recvConfReq (negotiates : protocol.Negotiates hwaddr inPlace)
    {session : PPPOESession} {packet : Packet} {out : FsmOut}
    (request : packet.code = LCPCode.confReq)
    (received : protocol.recvConfReq session packet = some out) :
    Reception protocol hwaddr session packet (inPlace session packet) out := by
  unfold FsmClass.recvConfReq at received
  split at received
  · rw [← Option.some.inj received]
    exact .unmoved (fun _ => rfl) rfl
  · rw [← Option.some.inj received]
    exact .unmoved (fun _ => rfl) rfl
  · rw [← Option.some.inj received]
    exact .unmoved (fun _ => rfl) rfl
  · rw [← Option.some.inj received]
    exact .away (.inl (negotiates.lawful.setFsm.state_setState _ _))
  · rename_i stopped
    rcases Option.map_eq_some_iff.mp received with ⟨checked, returned, equal⟩
    have requested := negotiates.lawful.setFsm.state_setState (protocol.sendConfReq session).session
      .reqSent
    rw [← equal]
    cases negotiates.checkConf _ _ _ returned with
    | silent _ same => exact .away (.inl (same.trans requested))
    | accepted sent moved =>
        rw [requested, if_neg (by decide)] at moved
        refine .sentAck request (by rw [stopped]; decide) ?_ ?_
        · dsimp only
          rw [sent]
          refine List.mem_append_right _ (List.mem_singleton.mpr ?_)
          unfold acceptance PPPOESession.frame
          rw [negotiates.setFsm.setState, negotiates.sendConfReq]
        · rw [stopped, if_neg (by decide)]
          exact moved
    | refused moved =>
        rw [requested, if_neg (by decide)] at moved
        exact .away (.inl moved)
    | kept _ same => exact .away (.inl (same.trans requested))
  · rename_i notOpened _
    cases negotiates.checkConf _ _ _ received with
    | silent nothing same => exact .unmoved (fun _ => nothing) same
    | accepted sent moved =>
        refine .sentAck request notOpened ?_ moved
        rw [sent]
        exact List.mem_singleton_self _
    | refused moved =>
        by_cases ackRcvd : protocol.state session = .ackRcvd
        · rw [if_pos ackRcvd] at moved
          exact .refused ackRcvd moved
        · rw [if_neg ackRcvd] at moved
          exact .away (.inl moved)
    | kept refuses same => exact .kept notOpened refuses same

theorem Negotiates.recvConfAck (negotiates : protocol.Negotiates hwaddr inPlace)
    (session : PPPOESession) {packet : Packet} (ack : packet.code = LCPCode.confAck) :
    Reception protocol hwaddr session packet (inPlace session packet)
      (protocol.recvConfAck session packet) := by
  have noRequest : packet.code = LCPCode.confReq -> False := by
    rw [ack]
    decide
  unfold FsmClass.recvConfAck
  split
  · exact .unmoved (fun request => (noRequest request).elim) rfl
  · rename_i identified
    have matching : packet.identifier = (protocol.fsm session).pktId :=
      Decidable.not_not.mp identified
    have same : protocol.state (protocol.setFsm session { protocol.fsm session with seenAck := true }) =
        protocol.state session := by
      rw [FsmAccess.state, negotiates.lawful.setFsm]
      rfl
    dsimp only
    split
    · rename_i reqSent
      exact .gotAck ack matching
        (.inl ⟨same.symm.trans reqSent, negotiates.lawful.setFsm.state_setState _ _⟩)
    · rename_i ackSent
      exact .gotAck ack matching
        (.inr ⟨same.symm.trans ackSent, negotiates.lawful.setFsm.state_setState _ _⟩)
    · exact .away (.inl (negotiates.lawful.setFsm.state_setState _ _))
    · exact .unmoved (fun request => (noRequest request).elim) same

theorem Negotiates.recvTermReq (negotiates : protocol.Negotiates hwaddr inPlace)
    (session : PPPOESession) {packet : Packet} (term : packet.code = LCPCode.termReq) :
    Reception protocol hwaddr session packet (inPlace session packet)
      (protocol.recvTermReq session packet) := by
  have noRequest : packet.code ≠ LCPCode.confReq := by
    rw [term]
    decide
  have written : forall state, protocol.state
      (protocol.sendTermAck (protocol.setState session state) packet).session = state := by
    intro state
    rw [negotiates.lawful.sendTermAck, negotiates.lawful.setFsm.state_setState]
  unfold FsmClass.recvTermReq
  split
  · exact .away (.inl (written _))
  · exact .away (.inl (written _))
  · exact .away (.inr ⟨noRequest, written _⟩)
  · exact .unmoved (fun request => absurd request noRequest)
      (negotiates.lawful.sendTermAck session packet)

/-- What any packet can do. -/
theorem Negotiates.receive (negotiates : protocol.Negotiates hwaddr inPlace)
    {session : PPPOESession} {packet : Packet} {out : FsmOut}
    (received : protocol.receive session packet = some out) :
    Reception protocol hwaddr session packet (inPlace session packet) out := by
  unfold FsmClass.receive at received
  dsimp only at received
  split at received
  · rw [← Option.some.inj received]
    exact .unmoved (fun _ => rfl) rfl
  · split at received
    · rename_i request
      exact negotiates.recvConfReq request received
    · rename_i noRequest
      split at received
      · rename_i ack
        rw [← Option.some.inj received]
        exact negotiates.recvConfAck session ack
      · split at received
        · rename_i term
          rw [← Option.some.inj received]
          exact negotiates.recvTermReq session term
        · refine .unmoved (fun request => absurd request noRequest) ?_
          split at received
          · rw [← Option.some.inj received]
            exact (negotiates.lawful.sendEchoRep session packet).1
          · split at received
            · rw [← Option.some.inj received]
              exact (negotiates.lawful.recvEchoRep session packet).1
            · rw [← Option.some.inj received]
              rfl

end FsmClass

namespace LCPFsm

theorem protocol_checked (context : LinkContext) {session : PPPOESession} {packet : Packet}
    {out : FsmOut} (returned : checkConf context session packet = some out) :
    Checked access context.hwaddr session packet False out := by
  rcases checkConf_cases returned with empty | ⟨walked, kept, same, accepted | ⟨rejected, refused⟩⟩
  · rw [empty]
    exact .silent rfl rfl
  · rw [accepted]
    have encap : walked.encap = session.encap := congrArg (fun session => session.encap) kept
    exact access_lawful.checked_of_accept (fun _ _ => rfl) encap (state_eq_of_lcp same)
  · rw [refused]
    exact access_lawful.checked_of_refuse (state_eq_of_lcp same) rfl

end LCPFsm

namespace IPCPFsm

theorem protocol_checked (hwaddr : Mac) (getSession : SessionLookup) {session : PPPOESession}
    {packet : Packet} {out : FsmOut}
    (returned : checkConf hwaddr getSession session packet = some out) :
    Checked access hwaddr session packet (Rejects getSession session packet) out := by
  rcases checkConf_cases returned with ⟨text, failed⟩ |
    ⟨aaaSession, _, ⟨rejects, rejected, refused⟩ | accepted | ⟨_, _, state⟩⟩
  · rw [failed]
    exact .silent rfl rfl
  · rw [refused]
    exact .kept rejects rfl
  · rw [accepted]
    exact access_lawful.checked_of_accept (fun _ _ => rfl) rfl rfl
  · have same : access.state (adopt aaaSession session) = access.state session := rfl
    exact access_lawful.checked_of_refuse same state

end IPCPFsm

namespace Automaton

variable (automaton : Automaton)

/-- The requests whose refusal leaves the state as it is. -/
def InPlace (surroundings : Surroundings) (session : PPPOESession) (packet : Packet) : Prop :=
  match automaton with
  | .lcp => False
  | .ipcp => IPCPFsm.Rejects surroundings.getSession session packet

instance (surroundings : Surroundings) (session : PPPOESession) (packet : Packet) :
    Decidable (automaton.InPlace surroundings session packet) := by
  cases automaton with
  | lcp => exact inferInstanceAs (Decidable False)
  | ipcp => exact inferInstanceAs (Decidable (IPCPFsm.Rejects _ _ _))

theorem protocol_access (surroundings : Surroundings) :
    (automaton.protocol surroundings).toFsmAccess = automaton.access := by
  cases automaton <;> rfl

theorem protocol_lawful (surroundings : Surroundings) :
    (automaton.protocol surroundings).Lawful := by
  cases automaton with
  | lcp => exact LCPFsm.protocol_lawful _
  | ipcp => exact IPCPFsm.protocol_lawful _ _

theorem protocol_negotiates (surroundings : Surroundings) :
    (automaton.protocol surroundings).Negotiates surroundings.link.hwaddr
      (automaton.InPlace surroundings) := by
  cases automaton with
  | lcp =>
      refine ⟨LCPFsm.protocol_lawful _, fun _ _ => rfl, fun session => ?_,
        fun session packet out returned => ?_⟩
      · exact congrArg (fun session => session.encap)
          (LCPFsm.sendConfReq_session surroundings.link session).1
      · have same : (Automaton.lcp.protocol surroundings).checkConf =
            LCPFsm.checkConf surroundings.link := LCPFsm.protocol_checkConf _
        rw [same] at returned
        exact LCPFsm.protocol_checked _ returned
  | ipcp =>
      refine ⟨IPCPFsm.protocol_lawful _ _, fun _ _ => rfl, fun _ => rfl,
        fun session packet out returned => ?_⟩
      have same : (Automaton.ipcp.protocol surroundings).checkConf =
          IPCPFsm.checkConf surroundings.link.hwaddr surroundings.getSession :=
        IPCPFsm.protocol_checkConf _ _
      rw [same] at returned
      exact IPCPFsm.protocol_checked _ _ returned

/-- What a step into a state of the handshake was: a step that stayed there, or
one that saw an ack. -/
structure Handshake (before after : PPPOESession) (call : FsmCall) : Prop where
  toAckRcvd : automaton.state after = .ackRcvd ->
    automaton.state before = .ackRcvd ∨ automaton.AcceptsAck before call
  toAckSent : automaton.state after = .ackSent ->
    automaton.SendsAck before call ∨
      automaton.state before = .ackSent ∧
        (automaton.Answers before call -> ∃ surroundings packet,
          call = .receive surroundings packet ∧ automaton.InPlace surroundings before packet)
  toOpened : automaton.state after = .opened ->
    automaton.state before = .ackRcvd ∧ automaton.SendsAck before call ∨
      (automaton.state before = .opened ∨
        automaton.state before = .ackSent ∧ automaton.AcceptsAck before call) ∧
      ¬ automaton.Answers before call

variable {automaton}

theorem Handshake.unmoved {before after : PPPOESession} {call : FsmCall}
    (same : automaton.state after = automaton.state before)
    (silent : ¬ automaton.Answers before call) : automaton.Handshake before after call where
  toAckRcvd := fun ackRcvd => .inl (same.symm.trans ackRcvd)
  toAckSent := fun ackSent =>
    .inr ⟨same.symm.trans ackSent, fun answers => absurd answers silent⟩
  toOpened := fun opened => .inr ⟨.inl (same.symm.trans opened), silent⟩

theorem Handshake.away {before after : PPPOESession} {call : FsmCall}
    (notAckRcvd : automaton.state after ≠ .ackRcvd) (notAckSent : automaton.state after ≠ .ackSent)
    (notOpened : automaton.state after ≠ .opened) : automaton.Handshake before after call where
  toAckRcvd := fun ackRcvd => absurd ackRcvd notAckRcvd
  toAckSent := fun ackSent => absurd ackSent notAckSent
  toOpened := fun opened => absurd opened notOpened

theorem handshake_of_receive {surroundings : Surroundings} {session : PPPOESession}
    {packet : Packet} {out : FsmOut}
    (received : (automaton.protocol surroundings).receive session packet = some out) :
    automaton.Handshake session out.session (.receive surroundings packet) := by
  have access := automaton.protocol_access surroundings
  have moved := (automaton.protocol_negotiates surroundings).receive received
  have answer : automaton.Answers session (.receive surroundings packet) ->
      packet.code = LCPCode.confReq ∧ automaton.state session ≠ .opened ∧ out.sent ≠ [] := by
    rintro ⟨request, notOpened, same, again, sent⟩
    rw [received] at again
    exact ⟨request, notOpened, Option.some.inj again ▸ sent⟩
  have states : forall session, (automaton.protocol surroundings).state session =
      automaton.state session := by
    intro session
    rw [access]
    rfl
  cases moved with
  | unmoved silent same =>
      rw [states, states] at same
      exact .unmoved same (fun answers => (answer answers).2.2 (silent (answer answers).1))
  | away elsewhere =>
      rw [states] at elsewhere
      rcases elsewhere with reqSent | ⟨_, stopping⟩
      · exact .away (by rw [reqSent]; decide) (by rw [reqSent]; decide) (by rw [reqSent]; decide)
      · exact .away (by rw [stopping]; decide) (by rw [stopping]; decide) (by rw [stopping]; decide)
  | sentAck request notOpened sent moves =>
      rw [states] at notOpened
      rw [states, states] at moves
      have sends : automaton.SendsAck session (.receive surroundings packet) :=
        ⟨request, notOpened, out, received, sent⟩
      refine ⟨fun ackRcvd => ?_, fun _ => .inl sends, fun opened => .inl ⟨?_, sends⟩⟩
      · rw [ackRcvd] at moves
        split at moves <;> cases moves
      · rw [opened] at moves
        by_contra other
        rw [if_neg other] at moves
        cases moves
  | refused ackRcvd still =>
      rw [states] at ackRcvd still
      refine ⟨fun _ => .inl ackRcvd, fun ackSent => ?_, fun opened => ?_⟩
      · rw [still] at ackSent
        cases ackSent
      · rw [still] at opened
        cases opened
  | kept notOpened inPlace same =>
      rw [states] at notOpened
      rw [states, states] at same
      refine ⟨fun ackRcvd => .inl (same.symm.trans ackRcvd), fun ackSent => .inr ?_,
        fun opened => absurd (same.symm.trans opened) notOpened⟩
      exact ⟨same.symm.trans ackSent, fun _ => ⟨surroundings, packet, rfl, inPlace⟩⟩
  | gotAck ack identified how =>
      rw [states, states] at how
      have silent : ¬ automaton.Answers session (.receive surroundings packet) := by
        intro answers
        have request := (answer answers).1
        rw [ack] at request
        exact absurd request (by decide)
      have accepts : automaton.state session ≠ .initial -> automaton.state session ≠ .starting ->
          automaton.AcceptsAck session (.receive surroundings packet) := by
        intro notInitial notStarting
        rw [access] at identified
        exact ⟨ack, identified, notInitial, notStarting⟩
      rcases how with ⟨reqSent, ackRcvd⟩ | ⟨ackSent, opened⟩
      · have accepted := accepts (by rw [reqSent]; decide) (by rw [reqSent]; decide)
        refine ⟨fun _ => .inr accepted, fun other => ?_, fun other => ?_⟩
        · rw [ackRcvd] at other
          cases other
        · rw [ackRcvd] at other
          cases other
      · have accepted := accepts (by rw [ackSent]; decide) (by rw [ackSent]; decide)
        refine ⟨fun other => ?_, fun other => ?_, fun _ => .inr ⟨.inr ⟨ackSent, accepted⟩, silent⟩⟩
        · rw [opened] at other
          cases other
        · rw [opened] at other
          cases other

/-- A state that `open` and `layer_up` can move an automaton to. -/
theorem handshake_of_start {before after : PPPOESession} {call : FsmCall}
    (silent : ¬ automaton.Answers before call)
    (moved : automaton.state after = automaton.state before ∨ automaton.state after = .starting ∨
      automaton.state after = .closed ∨ automaton.state after = .reqSent ∨
        automaton.state after = .stopping) :
    automaton.Handshake before after call := by
  rcases moved with same | other | other | other | other
  · exact .unmoved same silent
  all_goals
    refine .away ?_ ?_ ?_ <;>
    · rw [other]
      decide

theorem state_requestOrLog (surroundings : Surroundings) (session : PPPOESession) :
    automaton.state ((automaton.protocol surroundings).requestOrLog session).session =
        automaton.state session ∨
      automaton.state ((automaton.protocol surroundings).requestOrLog session).session = .reqSent := by
  have moved := (automaton.protocol_lawful surroundings).state_requestOrLog session
  rw [automaton.protocol_access] at moved
  exact moved

theorem state_setState (surroundings : Surroundings) (session : PPPOESession)
    (state : PPPFsmState) :
    automaton.state ((automaton.protocol surroundings).setState session state) = state := by
  have written := (automaton.protocol_lawful surroundings).setFsm.state_setState session state
  rw [automaton.protocol_access] at written ⊢
  exact written

theorem handshake_of_call {before : PPPOESession} {call : FsmCall} {out : FsmOut}
    (called : automaton.call before call = some out) :
    automaton.Handshake before out.session call := by
  cases call with
  | openFsm surroundings =>
      rw [← Option.some.inj called]
      refine handshake_of_start (fun answers => answers) ?_
      unfold FsmClass.openFsm
      split
      · exact .inr (.inl (state_setState surroundings before _))
      · rcases state_requestOrLog surroundings before with same | requested
        · exact .inl same
        · exact .inr (.inr (.inr (.inl requested)))
      · exact .inr (.inr (.inr (.inr (state_setState surroundings before _))))
      · exact .inl rfl
  | layerUp surroundings =>
      rw [← Option.some.inj called]
      refine handshake_of_start (fun answers => answers) ?_
      unfold FsmClass.layerUp
      split
      · exact .inr (.inr (.inl (state_setState surroundings before _)))
      · rcases state_requestOrLog surroundings before with same | requested
        · exact .inl same
        · exact .inr (.inr (.inr (.inl requested)))
      · exact .inl rfl
  | receive surroundings packet => exact handshake_of_receive called
  | elsewhere later =>
      have disturbed : (if automaton.access.fsm later = automaton.access.fsm before
          then some later.done else none) = some out := called
      split at disturbed
      · rename_i same
        rw [← Option.some.inj disturbed]
        exact .unmoved (congrArg PPPFsm.state same) (fun answers => answers)
      · cases disturbed

/-- In Ack_Sent a request that is answered and not acked takes the ack back, when
its refusal does not leave the state as it is. -/
theorem takenBack_of_receive {surroundings : Surroundings} {session : PPPOESession}
    {packet : Packet} {out : FsmOut}
    (received : (automaton.protocol surroundings).receive session packet = some out)
    (ackSent : automaton.state session = .ackSent)
    (answers : automaton.Answers session (.receive surroundings packet))
    (refuses : ¬ automaton.SendsAck session (.receive surroundings packet))
    (takesBack : ¬ automaton.InPlace surroundings session packet) :
    automaton.state out.session = .reqSent := by
  have moved := (automaton.protocol_negotiates surroundings).receive received
  have states : forall session, (automaton.protocol surroundings).state session =
      automaton.state session := by
    intro session
    rw [automaton.protocol_access surroundings]
    rfl
  rcases answers with ⟨request, notOpened, same, again, sent⟩
  rw [received] at again
  rw [← Option.some.inj again] at sent
  cases moved with
  | unmoved silent _ => exact absurd (silent request) sent
  | away elsewhere =>
      rw [states] at elsewhere
      rcases elsewhere with reqSent | ⟨noRequest, _⟩
      · exact reqSent
      · exact absurd request noRequest
  | sentAck _ _ acks _ => exact absurd ⟨request, notOpened, out, received, acks⟩ refuses
  | refused ackRcvd _ =>
      rw [states, ackSent] at ackRcvd
      cases ackRcvd
  | kept _ inPlace _ => exact absurd inPlace takesBack
  | gotAck ack _ _ =>
      rw [request] at ack
      exact absurd ack (by decide)

/-! ## Runs -/

/-- What lies behind the last entry into Req_Sent in the states of the handshake. -/
structure HandshakeLaw (automaton : Automaton) (past : List (PPPOESession × FsmCall))
    (now : PPPOESession) : Prop where
  ackRcvd : automaton.state now = .ackRcvd ->
    Since automaton.Enters automaton.AcceptsAck past now
  ackSent : automaton.state now = .ackSent -> Since automaton.Enters automaton.SendsAck past now
  opened : automaton.state now = .opened ->
    Since automaton.Enters automaton.AcceptsAck past now ∧
      Since automaton.Enters automaton.SendsAck past now

theorem not_enters (before : PPPOESession) {after : PPPOESession} {state : PPPFsmState}
    (there : automaton.state after = state) (other : state ≠ .reqSent) :
    ¬ automaton.Enters before after := by
  rintro ⟨reqSent, _⟩
  rw [there] at reqSent
  exact other reqSent

/-- One call keeps the law. -/
theorem HandshakeLaw.step {past : List (PPPOESession × FsmCall)} {before after : PPPOESession}
    {call : FsmCall} (law : automaton.HandshakeLaw past before)
    (handshake : automaton.Handshake before after call) :
    automaton.HandshakeLaw ((before, call) :: past) after := by
  refine ⟨fun ackRcvd => ?_, fun ackSent => ?_, fun opened => ?_⟩
  · have behind := not_enters before ackRcvd (by decide)
    rcases handshake.toAckRcvd ackRcvd with still | accepts
    · exact (law.ackRcvd still).later behind
    · exact .here behind accepts
  · have behind := not_enters before ackSent (by decide)
    rcases handshake.toAckSent ackSent with sends | ⟨still, _⟩
    · exact .here behind sends
    · exact (law.ackSent still).later behind
  · have behind := not_enters before opened (by decide)
    rcases handshake.toOpened opened with ⟨ackRcvd, sends⟩ | ⟨still | ⟨ackSent, accepts⟩, _⟩
    · exact ⟨(law.ackRcvd ackRcvd).later behind, .here behind sends⟩
    · exact ⟨(law.opened still).1.later behind, (law.opened still).2.later behind⟩
    · exact ⟨.here behind accepts, (law.ackSent ackSent).later behind⟩

/-- Both automata reach Opened only with both acks, in every run of calls. -/
theorem handshakeLaw_of_run {start state : PPPOESession} {past : List (PPPOESession × FsmCall)}
    (initial : automaton.state start = .initial)
    (run : Run automaton.step anyStep start past state) : automaton.HandshakeLaw past state := by
  induction run with
  | start =>
      refine ⟨fun other => ?_, fun other => ?_, fun other => ?_⟩ <;>
      · rw [initial] at other
        cases other
  | next _ _ taken inductionHypothesis =>
      rcases Option.map_eq_some_iff.mp taken with ⟨out, called, equal⟩
      rw [← equal]
      exact inductionHypothesis.step (handshake_of_call called)

/-- The surroundings of a subscriber with the address 10. -/
def sampleSurroundings : Surroundings where
  link := { hwaddr := ⟨2, 0, 0, 0, 0, 1⟩, lcpConf := {}, random := 7 }
  getSession := fun _ => some { sessionId := 0, username := [], address := 10, ifindex := 0 }

/-- A session that was just made. -/
def sampleSession : PPPOESession :=
  .construct ⟨0, 0, 0, 0⟩ ⟨⟨2, 0, 0, 0, 1, 1⟩, ⟨2, 0, 0, 0, 0, 1⟩, 0, 0, ethPppoeSession⟩ 1

/-- An IPCP packet with the given options. -/
def samplePacket (code : UInt8) (options : Bytes) : Packet :=
  let length := UInt16.ofNat (4 + options.length)
  { bytes := pppoeSessionHdr 1 (length + 2) PPPProto.ipcp ++ pppHdr code 1 length ++ options
    behind := fun _ => 0 }

def sampleCall (code : UInt8) (options : Bytes) : FsmCall :=
  .receive sampleSurroundings (samplePacket code options)

/-- IPCP is started, and acks a request for the right address. -/
def sampleAcked : List FsmCall :=
  [.openFsm sampleSurroundings, .layerUp sampleSurroundings,
    sampleCall LCPCode.confReq (opt4B IPCPOption.ipAddress 10)]

theorem runs_sampleAcked : (execute ipcp.step sampleSession sampleAcked).isSome = true := by
  decide +kernel

/-- The session after the peer's ack. -/
def sampleOpened : PPPOESession :=
  Foundation.after ipcp.step sampleSession (sampleAcked ++ [sampleCall LCPCode.confAck []])
    (by decide +kernel)

/-- The law at an automaton that is open. -/
theorem handshakeLaw_at_sampleOpened :
    ipcp.state sampleOpened = .opened ∧ ∃ past, ipcp.HandshakeLaw past sampleOpened := by
  rcases run_after ipcp.step anyStep sampleSession _ (by decide +kernel)
    (permitted_anyStep _ _ (sampleAcked ++ [sampleCall LCPCode.confAck []])) with ⟨past, run⟩
  exact ⟨by decide +kernel, past, handshakeLaw_of_run rfl run⟩

end Automaton

end Pppcpd
