import Pppcpd.Ppp.Ipcp

namespace Pppcpd

open Foundation

/-!
# PAP and CHAP

`PPP_AUTH` and `PPP_CHAP` read credentials out of packets and answer when AAA
has decided.  Neither of them looks at the state of LCP or at the protocol that
LCP negotiated.  A success starts IPCP from inside the answer.
-/

/-- The fields of a PAP Authenticate-Request.  The two length bytes in the
packet say where they are. -/
structure PAPRequest where
  username : Bytes
  password : Bytes
  deriving DecidableEq, Repr

/-- Index of `PPP_AUTH_HDR::data`. -/
def papDataIndex : Nat := 12

/-- The parsing part of `PPP_AUTH::recv_auth_req`. -/
def PAPRequest.parse (packet : Packet) : PAPRequest :=
  let userLen := (packet.read papDataIndex).toNat
  let passIndex := papDataIndex + 1 + userLen
  let passLen := (packet.read passIndex).toNat
  { username := packet.slice (papDataIndex + 1) userLen
    password := packet.slice (passIndex + 1) passLen }

/-- The fields of a CHAP Response. -/
structure CHAPResponse where
  username : Bytes
  response : Bytes
  deriving DecidableEq, Repr

/-- Indices of `PPP_CHAP_HDR::value` and `PPP_CHAP_HDR::data`. -/
def chapValueIndex : Nat := 13
def chapDataIndex : Nat := 29
def chapValueSize : Nat := 16

/-- The parsing part of `PPP_CHAP::recv_auth_req`.  The length of the name is
computed in eight bits. -/
def CHAPResponse.parse (packet : Packet) : CHAPResponse :=
  let userLen := UInt8.ofNat (packet.length.toNat + 65536 - sizeofPPPChapHdr)
  { username := packet.slice chapDataIndex userLen.toNat
    response := packet.identifier :: packet.slice chapValueIndex chapValueSize }

namespace AuthProtocol

/-- The `started` flag of the side of a session that runs the protocol. -/
def started : AuthProtocol -> PPPOESession -> Bool
  | .pap, session => session.auth.started
  | .chap, session => session.chap.started

def setStarted : AuthProtocol -> PPPOESession -> PPPOESession
  | .pap, session => { session with auth := { session.auth with started := true } }
  | .chap, session => { session with chap := { session.chap with started := true } }

/-- The answer packets of the two protocols: PPPoE header, and a header with a
code that is all zero behind its length. -/
def answerPacket (sessionId : UInt16) : AuthProtocol -> UInt8 -> Bytes
  | .pap, code =>
      pppoeSessionHdr sessionId (UInt16.ofNat (sizeofPPPLcp + 2)) PPPProto.pap ++
        pppHdr code 0 (UInt16.ofNat sizeofPPPLcp)
  | .chap, code =>
      pppoeSessionHdr sessionId (UInt16.ofNat (sizeofPPPChapHdr + 2)) PPPProto.chap ++
        pppHdr code 0 (UInt16.ofNat sizeofPPPChapHdr) ++
        List.replicate (sizeofPPPChapHdr - sizeofPPPLcp) 0

/-- The code of a success. -/
def ackCode : AuthProtocol -> UInt8
  | .pap => PAPCode.authenticateAck
  | .chap => CHAPCode.success

/-- The code of a failure. -/
def nakCode : AuthProtocol -> UInt8
  | .pap => PAPCode.authenticateNak
  | .chap => CHAPCode.failure

/-- `send_auth_ack`: answer with a success and start IPCP. -/
def sendAuthAck (hwaddr : Mac) (protocol : AuthProtocol) (session : PPPOESession) : FsmOut :=
  let up := (IPCPFsm.protocol hwaddr (fun _ => none)).start session
  { session := up.session
    sent := session.frame hwaddr (protocol.answerPacket session.sessionId protocol.ackCode) :: up.sent
    action := .layerUp }

/-- `send_auth_nak`. -/
def sendAuthNak (hwaddr : Mac) (protocol : AuthProtocol) (session : PPPOESession) : FsmOut :=
  session.queue (session.frame hwaddr (protocol.answerPacket session.sessionId protocol.nakCode))

/-- `auth_callback`. -/
def authCallback (hwaddr : Mac) (protocol : AuthProtocol) (sid : UInt32) (err : Option String)
    (session : PPPOESession) : FsmOut :=
  match err with
  | none => protocol.sendAuthAck hwaddr (protocol.setStarted { session with aaaSessionId := sid })
  | some _ => protocol.sendAuthNak hwaddr session

end AuthProtocol

/-- `PPP_CHAP::send_conf_req`, called by `PPP_CHAP::open`: send a challenge and
keep it.  The digest is cut or filled to the size of the field. -/
def sendChallenge (hwaddr : Mac) (acName digest : Bytes) (session : PPPOESession) : FsmOut :=
  let challenge := (digest ++ List.replicate chapValueSize 0).take chapValueSize
  let length := UInt16.ofNat (sizeofPPPChapHdr + acName.length)
  let kept := { session with chap := { session.chap with challenge := challenge } }
  kept.queue (kept.frame hwaddr
    (pppoeSessionHdr session.sessionId (length + 2) PPPProto.chap ++
      pppHdr CHAPCode.challenge 0 length ++ [UInt8.ofNat chapValueSize] ++ challenge ++ acName))

end Pppcpd
