import Pppcpd.Ppp.Session

namespace Pppcpd

open Foundation

/-!
# The negotiation automaton shared by LCP and IPCP

`PPP_FSM` implements events and transitions, and leaves the protocol's own
packets to virtual methods.  `FsmAccess` is the place of the automaton inside
its session, and `FsmClass` adds the table of the virtual methods.  `checkConf`
is partial, because its loop over the options of a packet need not end.
-/

structure FsmAccess where
  fsm : PPPOESession -> PPPFsm
  setFsm : PPPOESession -> PPPFsm -> PPPOESession

namespace FsmAccess

variable (access : FsmAccess)

def state (session : PPPOESession) : PPPFsmState := (access.fsm session).state

def setState (session : PPPOESession) (state : PPPFsmState) : PPPOESession :=
  access.setFsm session { access.fsm session with state := state }

/-- `send_conf_ack`, the same text in both protocols. -/
def sendConfAck (hwaddr : Mac) (session : PPPOESession) (packet : Packet) : FsmOut :=
  { session := session
    sent := [session.frame hwaddr (packet.setCode LCPCode.confAck).bytes]
    action := if access.state session = .opened then .layerUp else .none }

/-- The end of `check_conf` when every option is accepted. -/
def acceptConf (hwaddr : Mac) (session : PPPOESession) (packet : Packet) : FsmOut :=
  let next := if access.state session = .ackRcvd then PPPFsmState.opened else .ackSent
  access.sendConfAck hwaddr
    (access.setFsm session { access.fsm session with state := next, nakCounter := 0 }) packet

/-- The state after some option is not accepted. -/
def refuseState (session : PPPOESession) : PPPOESession :=
  if access.state session = .ackRcvd then session else access.setState session .reqSent

/-- `send_conf_rej`, which differs between the protocols only in the protocol
number. -/
def sendConfRej (proto : UInt16) (hwaddr : Mac) (session : PPPOESession) (rejectedOptions : Bytes)
    (identifier : UInt8) : FsmOut :=
  let length := UInt16.ofNat (sizeofPPPLcp + rejectedOptions.length)
  session.queue (session.frame hwaddr
    (pppoeSessionHdr (access.fsm session).sessionId (length + 2) proto ++
      pppHdr LCPCode.confRej identifier length ++ rejectedOptions))

end FsmAccess

structure FsmClass extends FsmAccess where
  sendConfReq : PPPOESession -> FsmOut
  checkConf : PPPOESession -> Packet -> Option FsmOut
  sendTermAck : PPPOESession -> Packet -> FsmOut
  sendEchoRep : PPPOESession -> Packet -> FsmOut
  recvEchoRep : PPPOESession -> Packet -> FsmOut

namespace FsmClass

variable (protocol : FsmClass)

/-- `send_conf_req` as `layer_up` and `open` use it: the state moves to
Req_Sent only when there was no error, which is otherwise just logged. -/
def requestOrLog (session : PPPOESession) : FsmOut :=
  let out := protocol.sendConfReq session
  match out.err with
  | some _ => { session := out.session, sent := out.sent }
  | none => { session := protocol.setState out.session .reqSent, sent := out.sent }

/-- `PPP_FSM::open`. -/
def openFsm (session : PPPOESession) : FsmOut :=
  match protocol.state session with
  | .initial => (protocol.setState session .starting).done
  | .closed => protocol.requestOrLog session
  | .closing => (protocol.setState session .stopping).done
  | _ => session.done

/-- `PPP_FSM::layer_up`. -/
def layerUp (session : PPPOESession) : FsmOut :=
  match protocol.state session with
  | .initial => (protocol.setState session .closed).done
  | .starting => protocol.requestOrLog session
  | _ => session.done

/-- `open()` followed by `layer_up()`, the way a lower layer starts this one. -/
def start (session : PPPOESession) : FsmOut :=
  let opened := protocol.openFsm session
  let up := protocol.layerUp opened.session
  { session := up.session, sent := opened.sent ++ up.sent }

/-- `PPP_FSM::recv_conf_req`. -/
def recvConfReq (session : PPPOESession) (packet : Packet) : Option FsmOut :=
  match protocol.state session with
  | .closing | .stopping => some (session.fail "We're stopping or closing right now")
  | .closed => some (session.fail "Receive conf req in closed state")
  | .opened =>
      let out := protocol.sendConfReq session
      some { session := protocol.setState out.session .reqSent, sent := out.sent,
             action := .layerDown }
  | .stopped =>
      let out := protocol.sendConfReq session
      (protocol.checkConf (protocol.setState out.session .reqSent) packet).map
        (fun checked => { checked with sent := out.sent ++ checked.sent })
  | _ => protocol.checkConf session packet

/-- `PPP_FSM::recv_conf_ack`.  `layer_up` does nothing in the state Opened. -/
def recvConfAck (session : PPPOESession) (packet : Packet) : FsmOut :=
  if packet.identifier ≠ (protocol.fsm session).pktId then
    session.fail "Packet identifier is not match with our"
  else
    let seen := protocol.setFsm session { protocol.fsm session with seenAck := true }
    match protocol.state seen with
    | .reqSent => (protocol.setState seen .ackRcvd).done
    | .ackSent => { session := protocol.setState seen .opened, action := .layerUp }
    | .opened =>
        let out := protocol.sendConfReq seen
        { session := protocol.setState out.session .reqSent, sent := out.sent,
          action := .layerDown }
    | _ => seen.done

/-- `PPP_FSM::recv_term_req`. -/
def recvTermReq (session : PPPOESession) (packet : Packet) : FsmOut :=
  match protocol.state session with
  | .ackRcvd | .ackSent =>
      let out := protocol.sendTermAck (protocol.setState session .reqSent) packet
      { session := out.session, sent := out.sent }
  | .opened =>
      let out := protocol.sendTermAck (protocol.setState session .stopping) packet
      { session := out.session, sent := out.sent, action := .layerDown }
  | _ =>
      let out := protocol.sendTermAck session packet
      { session := out.session, sent := out.sent }

/-- `PPP_FSM::receive`. -/
def receive (session : PPPOESession) (packet : Packet) : Option FsmOut :=
  let current := protocol.state session
  if current = .initial ∨ current = .starting then
    some (session.fail ("Received packet in invalid state: " ++ current.text))
  else if packet.code = LCPCode.confReq then protocol.recvConfReq session packet
  else if packet.code = LCPCode.confAck then some (protocol.recvConfAck session packet)
  else if packet.code = LCPCode.termReq then some (protocol.recvTermReq session packet)
  else if packet.code = LCPCode.echoReq then some (protocol.sendEchoRep session packet)
  else if packet.code = LCPCode.echoReply then some (protocol.recvEchoRep session packet)
  else some session.done

end FsmClass

end Pppcpd
