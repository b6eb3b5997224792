import Pppcpd.Runtime.Frames
import Pppcpd.Wire.Lengths

namespace Pppcpd

open Foundation

/-!
# Terminate-Requests

The data of a Terminate-Request is the peer's to choose.  `send_term_ack` reads its
first four bytes as the magic number of an echo, in the packet or behind it, and
answers nothing when they are not the number that is known of the peer.
`recv_term_req` drops this result, so a session whose LCP is Opened is deallocated
in either case.
-/

namespace LCPFsm

/-- A Terminate-Ack for the request: its session, protocol, identifier, length and size,
whatever the memory behind it. -/
def IsTermAck (request : Packet) (reply : Bytes) : Prop :=
  reply.length = request.bytes.length ∧
    Packet.Marked reply request.pppoeSessionId request.pppProtocol LCPCode.termAck
      request.identifier ∧
    forall behind : Nat -> UInt8, Packet.length ⟨reply, behind⟩ = request.length

/-- A packet that keeps all of the header but the code is one when the code is. -/
theorem isTermAck_of_sameHeader {request reply : Packet} (same : Packet.SameHeader request reply)
    (header : Packet.optionBase ≤ request.bytes.length) (isCode : reply.code = LCPCode.termAck) :
    IsTermAck request reply.bytes := by
  have inside {index : Nat} (within : index < Packet.optionBase) : index < reply.bytes.length := by
    rw [same.size]
    exact Nat.lt_of_lt_of_le within header
  have reads (behind : Nat -> UInt8) {index : Nat} (within : index < Packet.optionBase) :
      Buffer.read ⟨reply.bytes, behind⟩ index = reply.read index :=
    Buffer.read_eq reply.bytes behind reply.behind (inside within)
  have fields (behind : Nat -> UInt8) {index : Nat} (within : index + 1 < Packet.optionBase) :
      Buffer.field16 ⟨reply.bytes, behind⟩ index = reply.field16 index := by
    unfold Buffer.field16
    rw [reads behind (Nat.lt_of_succ_lt within), reads behind within]
  refine ⟨same.size, ⟨fun behind => ?_, fun behind => ?_, fun behind => ?_, fun behind => ?_⟩,
    fun behind => ?_⟩
  · exact (fields behind (by decide)).trans same.pppoeSessionId
  · exact (fields behind (by decide)).trans same.pppProtocol
  · exact (reads behind (by decide)).trans isCode
  · exact (reads behind (by decide)).trans (same.reads 9 (by decide) (by decide))
  · exact (fields behind (by decide)).trans same.length

/-- The packet with another code and with the magic number written into it. -/
def termAck (session : PPPOESession) (packet : Packet) : Packet :=
  (packet.setCode LCPCode.termAck).setBytes echoMagicIndex (bytes32 session.ourMagicNumber)

theorem isTermAck_termAck (session : PPPOESession) {packet : Packet}
    (header : Packet.optionBase ≤ packet.bytes.length) :
    IsTermAck packet (termAck session packet).bytes := by
  have coded := Packet.sameHeader_setCode packet LCPCode.termAck
  have written := @Packet.sameHeader_setBytes (packet.setCode LCPCode.termAck) echoMagicIndex
    (bytes32 session.ourMagicNumber) (by decide)
  refine isTermAck_of_sameHeader (coded.trans written) header ?_
  exact (Buffer.read_setBytes_of_lt _ _ (by decide)).trans
    (Packet.code_setCode LCPCode.termAck header)

theorem field32_setCode (packet : Packet) (value : UInt8) :
    (packet.setCode value).field32 echoMagicIndex = packet.field32 echoMagicIndex := by
  have reads : forall index, 8 < index -> (packet.setCode value).read index = packet.read index :=
    fun index later => Buffer.read_set_of_ne packet value (by omega)
  unfold Buffer.field32 echoMagicIndex
  rw [reads _ (by decide), reads _ (by decide), reads _ (by decide), reads _ (by decide)]

/-- What `send_term_ack` queues. -/
theorem sendTermAck_sent (context : LinkContext) (session : PPPOESession) (packet : Packet) :
    (sendTermAck context session packet).sent =
      if packet.field32 echoMagicIndex = session.peerMagicNumber then
        [session.frame context.hwaddr (termAck session packet).bytes] else [] := by
  unfold sendTermAck answerMagic
  dsimp only
  rw [field32_setCode]
  by_cases same : packet.field32 echoMagicIndex = session.peerMagicNumber
  · rw [if_neg (not_not.mpr same), if_pos same]
    rfl
  · rw [if_pos same, if_neg same]
    rfl

/-- `recv_term_req` queues what `send_term_ack` queues, whatever the state, and takes
the layer down where it was Opened. -/
theorem recvTermReq_out (context : LinkContext) (session : PPPOESession) (packet : Packet) :
    ((protocol context).recvTermReq session packet).sent = (sendTermAck context session packet).sent ∧
      ((protocol context).recvTermReq session packet).err = none ∧
      (session.lcp.state = .opened ->
        ((protocol context).recvTermReq session packet).action = .layerDown) := by
  have moved (state : PPPFsmState) :
      (sendTermAck context ((protocol context).setState session state) packet).sent =
        (sendTermAck context session packet).sent := by
    rw [sendTermAck_sent, sendTermAck_sent]
    rfl
  have isState : (protocol context).state session = session.lcp.state := rfl
  unfold FsmClass.recvTermReq
  rw [isState]
  cases session.lcp.state with
  | ackRcvd | ackSent => exact ⟨moved _, rfl, nofun⟩
  | opened => exact ⟨moved _, rfl, fun _ => rfl⟩
  | initial | starting | closed | stopped | closing | stopping | reqSent => exact ⟨rfl, rfl, nofun⟩

end LCPFsm

namespace Runtime

variable {runtime : Runtime} {env : Env} {ref : Nat} {session : PPPOESession} {packet : Packet}

/-- A Terminate-Request is answered with one Terminate-Ack for the link of the
session, and a session whose LCP was Opened is deallocated behind the answer. -/
structure Terminates (runtime : Runtime) (env : Env) (ref : Nat) (session : PPPOESession)
    (packet : Packet) : Prop where
  acknowledges : ∃ out reply, (runtime.lcpFsm env).receive session packet = some out ∧
    out.sent = [session.frame runtime.hwaddr reply] ∧ LCPFsm.IsTermAck packet reply
  deallocates : session.lcp.state = .opened ->
    ∃ out err, (runtime.lcpFsm env).receive session packet = some out ∧ out.err = none ∧
      out.action = .layerDown ∧ runtime.processLcp env ref packet =
        some (((runtime.apply ref out).deallocateSession session.sessionId).1, err)

/-- The automaton passes a Terminate-Request on to `recv_term_req`. -/
theorem receive_termReq (env : Env) (isRequest : packet.code = LCPCode.termReq)
    (started : session.lcp.state ≠ .initial ∧ session.lcp.state ≠ .starting) :
    (runtime.lcpFsm env).receive session packet =
      some ((runtime.lcpFsm env).recvTermReq session packet) := by
  have isState : (runtime.lcpFsm env).state session = session.lcp.state := rfl
  unfold FsmClass.receive
  dsimp only
  rw [isState, if_neg (not_or.mpr started), isRequest, if_neg (by decide), if_neg (by decide),
    if_pos rfl]

/-- A Terminate-Request is answered as it should be exactly when the four bytes behind
the header are the magic number that is known of the peer. -/
theorem terminates_iff (env : Env) (found : runtime.sessions.deref ref = some session)
    (isRequest : packet.code = LCPCode.termReq) (header : Packet.optionBase ≤ packet.bytes.length)
    (started : session.lcp.state ≠ .initial ∧ session.lcp.state ≠ .starting) :
    runtime.Terminates env ref session packet ↔
      packet.field32 LCPFsm.echoMagicIndex = session.peerMagicNumber := by
  have received := @receive_termReq runtime session packet env isRequest started
  rcases LCPFsm.recvTermReq_out ⟨runtime.hwaddr, runtime.lcpConf, env.random⟩ session packet with
    ⟨sent, noError, down⟩
  rw [LCPFsm.sendTermAck_sent] at sent
  constructor
  · rintro ⟨⟨out, reply, isOut, queued, _⟩, _⟩
    cases Option.some.inj (received.symm.trans isOut)
    by_contra other
    rw [if_neg other] at sent
    cases sent.symm.trans queued
  · intro same
    rw [if_pos same] at sent
    refine ⟨⟨_, _, received, sent, LCPFsm.isTermAck_termAck session header⟩, fun opened => ?_⟩
    have isDown := down opened
    refine ⟨_, ((runtime.apply ref ((runtime.lcpFsm env).recvTermReq session packet)).deallocateSession
      session.sessionId).2.map ("Cannot terminate session: " ++ ·), received, noError, isDown, ?_⟩
    unfold processLcp
    rw [found, Option.bind_some, received, Option.map_some]
    dsimp only
    rw [show ((runtime.lcpFsm env).recvTermReq session packet).err = none from noError,
      show ((runtime.lcpFsm env).recvTermReq session packet).action = .layerDown from isDown]

theorem established_peer : ∃ session, established.sessions.deref 0 = some session ∧
    session.lcp.state = .opened ∧ session.peerMagicNumber = 0 := by
  have opened : (established.sessions.deref 0).any (fun session =>
      session.lcp.state = .opened ∧ session.peerMagicNumber = 0) = true := by decide +kernel
  rcases (Option.any_eq_true _ _).mp opened with ⟨session, found, both⟩
  exact ⟨session, found, of_decide_eq_true both⟩

/-- A Terminate-Request of the peer with the given data. -/
def termRequest (data : Bytes) : Packet :=
  receivedPacket (builtPacket 1 PPPProto.lcp LCPCode.termReq 7 data [])

/-- Four zeros are the number that the daemon has for a peer that sent none. -/
theorem terminates_with_magic : ∃ session, established.sessions.deref 0 = some session ∧
    established.Terminates {} 0 session (termRequest [0, 0, 0, 0]) := by
  rcases established_peer with ⟨session, found, opened, magic⟩
  refine ⟨session, found, (terminates_iff {} found (by decide) (by decide) ?_).mpr ?_⟩
  · rw [opened]
    decide
  · rw [magic]
    decide

/-- A reason in plain text is not answered. -/
theorem bye_not_answered : ∃ session, established.sessions.deref 0 = some session ∧
    session.lcp.state = .opened ∧
    ¬ established.Terminates {} 0 session (termRequest (ascii "bye!")) := by
  rcases established_peer with ⟨session, found, opened, magic⟩
  refine ⟨session, found, opened, fun terminates => ?_⟩
  rcases terminates.acknowledges with ⟨out, reply, isOut, queued, _⟩
  have received := @receive_termReq established session (termRequest (ascii "bye!")) {} (by decide)
    (by rw [opened]; decide)
  have other : (termRequest (ascii "bye!")).field32 LCPFsm.echoMagicIndex ≠
      session.peerMagicNumber := by
    rw [magic]
    decide
  have sent := (LCPFsm.recvTermReq_out ⟨established.hwaddr, established.lcpConf, 0⟩ session
    (termRequest (ascii "bye!"))).1
  rw [LCPFsm.sendTermAck_sent, if_neg other] at sent
  cases Option.some.inj (received.symm.trans isOut)
  cases sent.symm.trans queued

end Runtime

end Pppcpd
