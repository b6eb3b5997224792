import Pppcpd.Aaa.Session
import Pppcpd.Ppp.Lcp

namespace Pppcpd

open Foundation

/-!
# IPCP

The virtual methods of `IPCP_FSM`.  A Configure-Request is compared with the
addresses of the AAA session that the PPPoE session names.  The options are
found by `PPP_LCP::parseIPCPOptions`, whose offset has the width of a pointer,
and once more when a Configure-Nak is written over the request.
-/

namespace IPCPFsm

/-- The look-up of an AAA session by its id. -/
abbrev SessionLookup := UInt32 -> Option AAASession

def access : FsmAccess where
  fsm := fun session => session.ipcp
  setFsm := fun session fsm => { session with ipcp := fsm }

/-- The address this side asks for, 100.64.0.1. -/
def ownAddress : UInt32 := 0x64400001

/-- `IPCP_FSM::send_conf_req`. -/
def sendConfReq (hwaddr : Mac) (session : PPPOESession) : FsmOut :=
  let options := opt4B IPCPOption.ipAddress ownAddress
  let length := UInt16.ofNat (sizeofPPPLcp + options.length)
  session.queue (session.frame hwaddr
    (pppoeSessionHdr session.ipcp.sessionId (length + 2) PPPProto.ipcp ++
      pppHdr LCPCode.confReq session.ipcp.pktId length ++ options ++ LCPFsm.resizePadding))

/-- The number of bytes of the option area, by the length field. -/
def optionArea (packet : Packet) : Nat := packet.length.toNat - sizeofPPPLcp

/-- The offset after one round of `parseIPCPOptions`. -/
def nextOption (packet : Packet) (offset : Nat) : Nat :=
  offset + (packet.optionLen offset).toNat

/-- `PPP_LCP::parseIPCPOptions`: the offsets of the options, or `none` when the
loop does not end. -/
def parseIPCPOptions (packet : Packet) : Option (List Nat) :=
  visited (nextOption packet) (optionArea packet) (optionArea packet) 0

/-- The value an option should have, when it is one that this side knows. -/
def wanted (aaaSession : AAASession) (kind : UInt8) : Option UInt32 :=
  if kind = IPCPOption.ipAddress then some aaaSession.address
  else if kind = IPCPOption.primaryDns then some aaaSession.dns1
  else if kind = IPCPOption.secondaryDns then some aaaSession.dns2
  else none

/-- The text `getSession` returns when there is no such session. -/
def noSession (sid : UInt32) : String :=
  "Cannot send conf nak cause: Cannot find session id " ++ toString sid.toNat

/-- Write the wanted value over the option at an offset. -/
def overwrite (aaaSession : AAASession) (packet : Packet) (offset : Nat) : Packet :=
  match wanted aaaSession (packet.optionType offset) with
  | none => packet
  | some value => packet.setBytes (Packet.optionBase + offset + 2) (bytes32 value)

/-- `IPCP_FSM::send_conf_nak`.  Options may overlap when their lengths are
short, so each is looked at after the earlier ones were overwritten. -/
def sendConfNak (hwaddr : Mac) (getSession : SessionLookup) (session : PPPOESession)
    (packet : Packet) : Option FsmOut :=
  match getSession session.aaaSessionId with
  | none => some (session.fail (noSession session.aaaSessionId))
  | some aaaSession =>
      let packet := packet.setCode LCPCode.confNak
      (parseIPCPOptions packet).map (fun offsets =>
        session.queue (session.frame hwaddr (offsets.foldl (overwrite aaaSession) packet).bytes))

/-- The settings that `check_conf` copies from the AAA session. -/
def adopt (aaaSession : AAASession) (session : PPPOESession) : PPPOESession :=
  { session with
    address := aaaSession.address, vrf := aaaSession.vrf, unnumbered := aaaSession.unnumbered }

/-- The bytes of the options that this side does not know. -/
def rejectedOptions (aaaSession : AAASession) (packet : Packet) (offsets : List Nat) : Bytes :=
  (offsets.filter (fun offset => (wanted aaaSession (packet.optionType offset)).isNone)).flatMap
    packet.optionBytes

/-- Some option has another value than it should have. -/
def mismatch (aaaSession : AAASession) (packet : Packet) (offsets : List Nat) : Bool :=
  offsets.any (fun offset =>
    (wanted aaaSession (packet.optionType offset)).any (fun value =>
      value != packet.optionVal32 offset))

/-- `IPCP_FSM::check_conf`. -/
def checkConf (hwaddr : Mac) (getSession : SessionLookup) (session : PPPOESession)
    (packet : Packet) : Option FsmOut :=
  if LCPFsm.optionArea packet = 0 then some (session.fail "There is no options")
  else
    match getSession session.aaaSessionId with
    | none => some (session.fail (noSession session.aaaSessionId))
    | some aaaSession =>
        let session := adopt aaaSession session
        (parseIPCPOptions packet).bind (fun offsets =>
          let rejected := rejectedOptions aaaSession packet offsets
          if rejected ≠ [] then
            some (access.sendConfRej PPPProto.ipcp hwaddr session rejected packet.identifier)
          else if mismatch aaaSession packet offsets then
            let refused := access.refuseState session
            let counted := { refused with
              ipcp := { refused.ipcp with nakCounter := refused.ipcp.nakCounter + 1 } }
            sendConfNak hwaddr getSession counted packet
          else
            some (access.acceptConf hwaddr session packet))

/-- `IPCP_FSM` as an implementation of `PPP_FSM`.  It answers neither
Terminate-Requests nor echoes. -/
def protocol (hwaddr : Mac) (getSession : SessionLookup) : FsmClass where
  toFsmAccess := access
  sendConfReq := sendConfReq hwaddr
  checkConf := checkConf hwaddr getSession
  sendTermAck := fun session _ => session.done
  sendEchoRep := fun session _ => session.done
  recvEchoRep := fun session _ => session.done

end IPCPFsm

end Pppcpd
