import Pppcpd.Foundation.Run
import Pppcpd.Runtime.Discovery
import Pppcpd.Runtime.Ppp

namespace Pppcpd

open Foundation

/-!
# The events of the daemon

The daemon is one thread that runs one handler at a time.  An event is the call
of one handler, or a moment at which a timer expires, the packet queues are
emptied, or VPP's counters are read.  A timer's handler runs after the timer
has expired or was cancelled, at any later time and in any order with other
events.
-/

inductive Input
  | discovery (encap : Encapsulation) (packet : Packet)
  | session (encap : Encapsulation) (packet : Packet)
  | pendingTimer (index : Nat)
  | echoExpires (session : Nat)
  | echoTimer (session index : Nat)
  | authDatagram (datagram : Bytes)
  | authExpires (id : UInt8)
  | authTimer (id : UInt8)
  | acctDatagram (datagram : Bytes)
  | acctExpires (id : UInt8)
  | acctTimer (id : UInt8)
  | interimExpires (session : Nat)
  | interimTimer (session index : Nat)
  | collectCounters (counters : Table UInt32 VPPIfaceCounters)
  | reload (conf : PPPOEGlobalConf)
  | periodic

structure Event where
  env : Env := {}
  input : Input

namespace Runtime

/-- The timer of a pending session fires. -/
def pendingTimer (index : Nat) (runtime : Runtime) : Option Runtime :=
  (runtime.store.pendingTimers[index]?).map (fun conn =>
    clearPendingSession conn { runtime with store := { runtime.store with
      pendingTimers := runtime.store.pendingTimers.eraseIdx index } })

/-- Continue with the AAA component after an event of its own. -/
def withAaa (runtime : Runtime) (aaa : AAA) : Runtime := { runtime with aaa := aaa }

/-- Continue after an event of AAA that makes callback calls. -/
def withCalls (runtime : Runtime) (outcome : AAA × List CallbackCall) : Runtime :=
  (runtime.withAaa outcome.1).callbacks outcome.2

/-- One event. -/
def step (runtime : Runtime) (event : Event) : Option Runtime :=
  match event.input with
  | .discovery encap packet => (runtime.processPPPOE event.env encap packet).map Prod.fst
  | .session encap packet => (runtime.processPPP event.env encap packet).map Prod.fst
  | .pendingTimer index => runtime.pendingTimer index
  | .echoExpires ref => some (runtime.echoExpires ref)
  | .echoTimer ref index => runtime.echoTimer event.env ref index
  | .authDatagram datagram =>
      (runtime.aaa.authDatagram event.env.aaa datagram).map runtime.withCalls
  | .authExpires id => some (runtime.withAaa (runtime.aaa.authExpires id))
  | .authTimer id => (runtime.aaa.authTimer id).map runtime.withCalls
  | .acctDatagram datagram => (runtime.aaa.acctDatagram event.env.aaa datagram).map runtime.withAaa
  | .acctExpires id => some (runtime.withAaa (runtime.aaa.acctExpires id))
  | .acctTimer id => (runtime.aaa.acctTimer id).map runtime.withAaa
  | .interimExpires ref => some (runtime.withAaa (runtime.aaa.interimExpires ref))
  | .interimTimer ref index =>
      (runtime.aaa.interimTimer runtime.counters ref index).map runtime.withAaa
  | .collectCounters counters => some { runtime with counters := counters }
  | .reload conf => if conf.aaaConf.Decoded then some (runtime.reloadConfig conf) else none
  | .periodic => some { runtime with pppoeOutcoming := [], pppOutcoming := [] }

end Runtime

/-! ## Events of small runs -/

/-- A received packet with zeros behind it. -/
def receivedPacket (bytes : Bytes) : Packet := { bytes := bytes, behind := fun _ => 0 }

/-- A discovery packet whose only tag ends the list. -/
def discoveryPacket (code : UInt8) (sid : UInt16) : Packet :=
  receivedPacket ([0x11, code] ++ bytes16 sid ++ [0, 0, 0, 0, 0, 0])

/-- A session packet with the given PPP packet inside. -/
def sessionPacket (sid proto : UInt16) (ppp : Bytes) : Packet :=
  receivedPacket (pppoeSessionHdr sid (UInt16.ofNat (ppp.length + 2)) proto ++ ppp)

def discoveryEvent (link : Encapsulation) (code : UInt8) (sid : UInt16) : Event :=
  { input := .discovery link (discoveryPacket code sid) }

def sessionEvent (link : Encapsulation) (sid proto : UInt16) (ppp : Bytes) : Event :=
  { input := .session link (sessionPacket sid proto ppp) }

/-- A PADI and the PADR that follows it. -/
def connect (link : Encapsulation) : List Event :=
  [discoveryEvent link PPPOECode.padi 0, discoveryEvent link PPPOECode.padr 0]

/-- The peer asks for one option that is accepted, and accepts ours. -/
def negotiate (link : Encapsulation) (sid proto : UInt16) (option : Bytes) : List Event :=
  [sessionEvent link sid proto (pppHdr LCPCode.confReq 1 (UInt16.ofNat (4 + option.length)) ++ option),
    sessionEvent link sid proto (pppHdr LCPCode.confAck 1 4)]

def openLcp (link : Encapsulation) (sid : UInt16) : List Event :=
  negotiate link sid PPPProto.lcp (opt2B LCPOption.mru 1492)

def openIpcp (link : Encapsulation) (sid : UInt16) (address : UInt32) : List Event :=
  negotiate link sid PPPProto.ipcp (opt4B IPCPOption.ipAddress address)

/-- A PAP request with an empty name and an empty password. -/
def papRequest (link : Encapsulation) (sid : UInt16) : Event :=
  { env := { aaa := AAA.sampleInputs }
    input := .session link (sessionPacket sid PPPProto.pap
      (pppHdr PAPCode.authenticateReq 1 6 ++ [0, 0])) }

/-- The answer of the RADIUS server to the first request with those inputs. -/
def answerDatagram (code : UInt8) : Bytes :=
  AAA.answerTo (AuthClient.packet RadiusCode.accessRequest 1 AAA.sampleInputs.authenticator []) code []

/-- LCP negotiates PAP. -/
def papPolicy : LCPPolicy := { authCHAP := false, authPAP := true }

/-- A session of the first link with both automata opened. -/
def establish : List Event :=
  connect (sampleLink 1) ++ openLcp (sampleLink 1) 1 ++ [papRequest (sampleLink 1) 1] ++
    openIpcp (sampleLink 1) 1 10

/-- The same for a subscriber that the RADIUS server accepts. -/
def establishAccepted : List Event :=
  connect (sampleLink 1) ++ openLcp (sampleLink 1) 1 ++
    [papRequest (sampleLink 1) 1,
      { input := .authDatagram (answerDatagram RadiusCode.accessAccept) }] ++
    openIpcp (sampleLink 1) 1 10

namespace Runtime

/-- A daemon with one session that is up. -/
def established : Runtime :=
  Foundation.after step (sampleDaemon [.none] papPolicy) establish (by decide +kernel)

theorem established_reachable : Reachable step (sampleDaemon [.none] papPolicy) established :=
  reachable_after _ _ _ _

/-- The daemon after the subscriber of such a session left ten echo requests
without an answer. -/
def silenced : Runtime :=
  Foundation.after step (sampleDaemon [.none] papPolicy)
    (establish ++
      (List.replicate 10 [{ input := .echoExpires 0 }, { input := .echoTimer 0 0 }]).flatten)
    (by decide +kernel)

end Runtime

end Pppcpd
