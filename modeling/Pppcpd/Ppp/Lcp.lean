import Pppcpd.Foundation.Walk
import Pppcpd.Ppp.Fsm

namespace Pppcpd

open Foundation

/-!
# LCP

The virtual methods of `LCP_FSM` and the echo mechanism.  `check_conf` walks
the options of a Configure-Request with a 32-bit offset that each round moves
by the length byte it finds, so the walk is modelled by `visited`: its result
is `none` when the loop does not end.  `LCP_FSM::send_conf_nak` is left out,
because the code that `check_conf` computes is never `CONF_NAK`.
-/

namespace LCPFsm

def access : FsmAccess where
  fsm := fun session => session.lcp.toPPPFsm
  setFsm := fun session fsm => { session with lcp := { session.lcp with toPPPFsm := fsm } }

/-- A packet resized for an Ethernet header that is then inserted in front of
it keeps that many zero bytes behind its PPP part. -/
def resizePadding : Bytes := List.replicate sizeofEthernetHdr 0

/-- The option that names the authentication protocol, when one is chosen. -/
def authOption (policy : LCPPolicy) : Option Bytes :=
  if policy.authCHAP then some (opt3B LCPOption.authProto PPPProto.chap 5)
  else if policy.authPAP then some (opt2B LCPOption.authProto PPPProto.pap)
  else none

/-- An LCP packet made by this side: link header, PPPoE header, LCP header with
the automaton's own packet id, options and padding. -/
def ownPacket (context : LinkContext) (session : PPPOESession) (code : UInt8) (options : Bytes) :
    Bytes :=
  let length := UInt16.ofNat (sizeofPPPLcp + options.length)
  session.frame context.hwaddr
    (pppoeSessionHdr session.lcp.sessionId (length + 2) PPPProto.lcp ++
      pppHdr code session.lcp.pktId length ++ options ++ resizePadding)

/-- `LCP_FSM::send_conf_req`. -/
def sendConfReq (context : LinkContext) (session : PPPOESession) : FsmOut :=
  match authOption context.lcpConf with
  | none => session.fail "No Auth proto is chosen!"
  | some auth =>
      let magic := if session.ourMagicNumber = 0 then context.random else session.ourMagicNumber
      let session := { session with ourMagicNumber := magic }
      session.queue (ownPacket context session LCPCode.confReq
        (opt2B LCPOption.mru context.lcpConf.mru ++ auth ++ opt4B LCPOption.magicNumber magic))

/-- The number of values of the 32-bit offset and length of the walk. -/
def walkModulus : Nat := 4294967296

/-- `len`, the LCP length less the header, as a 32-bit unsigned number. -/
def optionArea (packet : Packet) : Nat :=
  (packet.length.toNat + walkModulus - sizeofPPPLcp) % walkModulus

/-- The offset after one round of the walk. -/
def nextOption (packet : Packet) (offset : Nat) : Nat :=
  (offset + (packet.optionLen offset).toNat) % walkModulus

/-- What one round of `check_conf` does with the option at an offset.  The
state of the walk is the session, `code` and `rejected_options`. -/
def checkOption (packet : Packet) (walk : PPPOESession × UInt8 × Bytes) (offset : Nat) :
    PPPOESession × UInt8 × Bytes :=
  let session := walk.1
  if packet.optionType offset = LCPOption.mru then
    ({ session with peerMRU := packet.optionVal16 offset }, walk.2)
  else if packet.optionType offset = LCPOption.magicNumber then
    ({ session with peerMagicNumber := packet.optionVal32 offset }, walk.2)
  else
    (session, LCPCode.confRej, walk.2.2 ++ packet.optionBytes offset)

/-- `LCP_FSM::check_conf`. -/
def checkConf (context : LinkContext) (session : PPPOESession) (packet : Packet) :
    Option FsmOut :=
  let area := optionArea packet
  if area = 0 then some (session.fail "There is no options")
  else
    (visited (nextOption packet) area area 0).map (fun offsets =>
      let walk := offsets.foldl (checkOption packet) (session, LCPCode.confAck, [])
      if walk.2.1 = LCPCode.confAck then access.acceptConf context.hwaddr walk.1 packet
      else
        access.sendConfRej PPPProto.lcp context.hwaddr (access.refuseState walk.1) walk.2.2
          packet.identifier)

/-- Index of the magic number in `PPP_LCP_ECHO`. -/
def echoMagicIndex : Nat := 12

/-- The common body of `send_term_ack` and `send_echo_rep`: answer with another
code when the peer's magic number matches. -/
def answerMagic (answer : UInt8) (context : LinkContext) (session : PPPOESession)
    (packet : Packet) : FsmOut :=
  let packet := packet.setCode answer
  if packet.field32 echoMagicIndex ≠ session.peerMagicNumber then
    session.fail "Magic number is wrong!"
  else
    session.queue (session.frame context.hwaddr
      (packet.setBytes echoMagicIndex (bytes32 session.ourMagicNumber)).bytes)

/-- `LCP_FSM::send_term_ack`. -/
def sendTermAck : LinkContext -> PPPOESession -> Packet -> FsmOut := answerMagic LCPCode.termAck

/-- `LCP_FSM::send_echo_rep`. -/
def sendEchoRep : LinkContext -> PPPOESession -> Packet -> FsmOut := answerMagic LCPCode.echoReply

/-- `LCP_FSM::recv_echo_rep`. -/
def recvEchoRep (session : PPPOESession) (_packet : Packet) : FsmOut :=
  PPPOESession.done { session with lcp := { session.lcp with echoCounter := 0 } }

/-- `LCP_FSM::send_echo_req`.  The frame is built before the counter is tested,
and sent only when the peer is not given up. -/
def sendEchoReq (context : LinkContext) (session : PPPOESession) : FsmOut :=
  let counter := session.lcp.echoCounter + 1
  let counted := { session with lcp := { session.lcp with echoCounter := counter } }
  if 9 < counter then
    { session := counted, action := .layerDown
      err := some "We didn't receive at least 9 echo replies" }
  else
    counted.queue (ownPacket context session LCPCode.echoReq
      (opt4B LCPOption.magicNumber session.ourMagicNumber))

/-- `LCP_FSM` as an implementation of `PPP_FSM`. -/
def protocol (context : LinkContext) : FsmClass where
  toFsmAccess := access
  sendConfReq := sendConfReq context
  checkConf := checkConf context
  sendTermAck := sendTermAck context
  sendEchoRep := sendEchoRep context
  recvEchoRep := recvEchoRep

end LCPFsm

end Pppcpd
