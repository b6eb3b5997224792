import Pppcpd.Ppp.Conversation
import Pppcpd.Ppp.Lcp

namespace Pppcpd

open Foundation

/-!
# The magic number of an echo

An Echo-Request carries the magic number of its sender behind the LCP header, and the
answerer compares it with the number that it knows of its peer.  `send_echo_req`
writes the number as an option, with a type and a length byte in front.
`send_echo_rep` reads the four bytes behind the header, so it sees these two bytes
and the upper half of the number.
-/

namespace LCPFsm

/-- A frame is answered with one Echo-Reply of its session, protocol and identifier that
carries the magic number of the answerer. -/
def Answered (context : LinkContext) (responder : PPPOESession) (request : Packet) : Prop :=
  (sendEchoRep context responder request).err = none ∧
    ∃ reply : Bytes,
      (sendEchoRep context responder request).sent = [responder.frame context.hwaddr reply] ∧
      Packet.Marked reply request.pppoeSessionId request.pppProtocol LCPCode.echoReply
        request.identifier ∧
      forall behind : Nat -> UInt8,
        Buffer.field32 ⟨reply, behind⟩ echoMagicIndex = responder.ourMagicNumber

/-- Every Echo-Request that one side queues is answered by the other side, whatever
the memory behind the received packet holds. -/
def EchoAgrees (asking answering : LinkContext) (sender responder : PPPOESession) : Prop :=
  ∀ frame ∈ (sendEchoReq asking sender).sent, forall behind : Nat -> UInt8,
    Answered answering responder ⟨payload asking.hwaddr sender.encap frame, behind⟩

/-- The headers of an Echo-Request: `PPPOESESSION_HDR` and `PPP_LCP`. -/
def echoHeader (sender : PPPOESession) : Bytes :=
  pppoeSessionHdr sender.lcp.sessionId 12 PPPProto.lcp ++ pppHdr LCPCode.echoReq sender.lcp.pktId 10

/-- The Echo-Request without its link header. -/
def echoRequest (sender : PPPOESession) : Bytes :=
  echoHeader sender ++ (opt4B LCPOption.magicNumber sender.ourMagicNumber ++ resizePadding)

/-- A request is queued unless the peer is given up. -/
theorem sendEchoReq_sent (context : LinkContext) (sender : PPPOESession) :
    (sendEchoReq context sender).sent =
      if 9 < sender.lcp.echoCounter + 1 then []
      else [sender.frame context.hwaddr (echoRequest sender)] := by
  unfold sendEchoReq
  dsimp only
  split <;> rfl

/-- The four bytes that the answerer reads. -/
def magicRead (magic : UInt32) : UInt32 :=
  be32 LCPOption.magicNumber 6 (UInt8.ofNat (magic.toNat / 16777216))
    (UInt8.ofNat (magic.toNat / 65536))

theorem field32_echoRequest (sender : PPPOESession) (behind : Nat -> UInt8) (answer : UInt8) :
    (Packet.setCode ⟨echoRequest sender, behind⟩ answer).field32 echoMagicIndex =
      magicRead sender.ourMagicNumber := rfl

/-- Only one number reads as itself. -/
theorem magicRead_eq_iff (magic : UInt32) : magicRead magic = magic ↔ magic = 0x05060506 := by
  have bound := magic.toNat_lt
  have read : (magicRead magic).toNat = 0x05060000 + magic.toNat / 65536 := by
    unfold magicRead be32
    simp only [LCPOption.magicNumber, UInt32.toNat_ofNat', UInt8.toNat_ofNat', UInt8.toNat_ofNat]
    omega
  rw [← UInt32.toNat_inj, ← UInt32.toNat_inj, read]
  show 0x05060000 + magic.toNat / 65536 = magic.toNat ↔ magic.toNat = 0x05060506
  omega

/-- The reply is the request with another code and with four bytes written over. -/
theorem echoReply_bytes (sender responder : PPPOESession) (behind : Nat -> UInt8) :
    ((Packet.setCode ⟨echoRequest sender, behind⟩ LCPCode.echoReply).setBytes echoMagicIndex
        (bytes32 responder.ourMagicNumber)).bytes =
      (echoHeader sender).set 8 LCPCode.echoReply ++ (bytes32 responder.ourMagicNumber ++
        ((bytes32 sender.ourMagicNumber).drop 2 ++ resizePadding)) := by
  have written := Buffer.setBytes_append ((echoHeader sender).set 8 LCPCode.echoReply)
    ((bytes32 sender.ourMagicNumber).drop 2 ++ resizePadding) behind
    (show (LCPOption.magicNumber :: 6 :: (bytes32 sender.ourMagicNumber).take 2).length =
      (bytes32 responder.ourMagicNumber).length from rfl)
  unfold echoRequest
  rw [Packet.setCode_append rfl]
  exact congrArg Buffer.bytes written

/-- What the answerer makes of the request. -/
theorem answered_iff (context : LinkContext) (sender responder : PPPOESession)
    (behind : Nat -> UInt8) :
    Answered context responder ⟨echoRequest sender, behind⟩ ↔
      magicRead sender.ourMagicNumber = responder.peerMagicNumber := by
  have read := field32_echoRequest sender behind LCPCode.echoReply
  unfold Answered sendEchoRep answerMagic
  dsimp only
  rw [read]
  constructor
  · rintro ⟨accepted, _⟩
    by_contra other
    rw [if_pos other] at accepted
    cases accepted
  · intro equal
    rw [if_neg (not_not.mpr equal), echoReply_bytes]
    exact ⟨rfl, _, rfl,
      Packet.marked_setCode (show (echoHeader sender).length = Packet.optionBase from rfl)
        LCPCode.echoReply
        (bytes32 responder.ourMagicNumber ++
          ((bytes32 sender.ourMagicNumber).drop 2 ++ resizePadding))
        (opt4B LCPOption.magicNumber sender.ourMagicNumber ++ resizePadding) behind,
      fun _ => be32_bytes32 responder.ourMagicNumber⟩

/-- The sides agree on an echo only when the number of the sender happens to be made
of the type and the length byte, or when the sender has given its peer up. -/
theorem echoAgrees_iff (asking answering : LinkContext) {sender responder : PPPOESession}
    (known : responder.peerMagicNumber = sender.ourMagicNumber) :
    EchoAgrees asking answering sender responder ↔
      sender.ourMagicNumber = 0x05060506 ∨ 9 < sender.lcp.echoCounter + 1 := by
  unfold EchoAgrees
  rw [sendEchoReq_sent, ← magicRead_eq_iff]
  constructor
  · intro agrees
    by_cases given : 9 < sender.lcp.echoCounter + 1
    · exact .inr given
    · rw [if_neg given] at agrees
      have answered := agrees _ List.mem_cons_self (fun _ => 0)
      rw [payload_frame, answered_iff, known] at answered
      exact .inl answered
  · rintro (equal | given) frame member behind
    · split at member
      · exact absurd member List.not_mem_nil
      · rw [List.mem_singleton.mp member, payload_frame, answered_iff, known]
        exact equal
    · rw [if_pos given] at member
      exact absurd member List.not_mem_nil

/-- A side whose own number and whose peer's number are the given one. -/
def sampleEcho (magic : UInt32) : PPPOESession :=
  { Automaton.sampleSession with ourMagicNumber := magic, peerMagicNumber := magic }

theorem echoAgrees_iff_at_option :
    EchoAgrees Automaton.sampleSurroundings.link Automaton.sampleSurroundings.link
        (sampleEcho 0x05060506) (sampleEcho 0x05060506) ↔
      (sampleEcho 0x05060506).ourMagicNumber = 0x05060506 ∨
        9 < (sampleEcho 0x05060506).lcp.echoCounter + 1 :=
  echoAgrees_iff _ _ rfl

/-- A request with the number one is refused. -/
theorem one_refused :
    ¬ (forall (asking answering : LinkContext) (sender responder : PPPOESession),
      responder.peerMagicNumber = sender.ourMagicNumber ->
        EchoAgrees asking answering sender responder) := by
  intro claim
  have agrees := claim Automaton.sampleSurroundings.link Automaton.sampleSurroundings.link
    (sampleEcho 1) (sampleEcho 1) rfl
  rcases agrees _ (List.mem_singleton.mpr rfl) (fun _ => 0) with ⟨accepted, _⟩
  exact absurd accepted (by decide +kernel)

end LCPFsm

end Pppcpd
