import Pppcpd.Foundation.Timer
import Pppcpd.Wire.Encap

namespace Pppcpd

open Foundation

/-!
# The PPPoE session object

One `PPPOESession` embeds the automata of all PPP protocols of a subscriber.
The automata of the source keep a reference to their session and write its
fields.  Here they are functions from a session to a session, so what an
automaton can touch is visible in its type.
-/

/-- `PPP_FSM_STATE`. -/
inductive PPPFsmState
  | initial
  | starting
  | closed
  | stopped
  | closing
  | stopping
  | reqSent
  | ackRcvd
  | ackSent
  | opened
  deriving DecidableEq, Repr

/-- The text that `operator<<` prints for a state. -/
def PPPFsmState.text : PPPFsmState -> String
  | .initial => "Initial"
  | .starting => "Starting"
  | .closed => "Closed"
  | .stopped => "Stopped"
  | .closing => "Closing"
  | .stopping => "Stopping"
  | .reqSent => "Req_Sent"
  | .ackRcvd => "Ack_Rcvd"
  | .ackSent => "Ack_Sent"
  | .opened => "Opened"

/-- `PPP_FSM_ACTION`. -/
inductive PPPFsmAction
  | none
  | layerUp
  | layerDown
  deriving DecidableEq, Repr

/-- The members of `PPP_FSM`. -/
structure PPPFsm where
  state : PPPFsmState := .initial
  nakCounter : UInt8 := 0
  sessionId : UInt16
  pktId : UInt8 := 1
  seenAck : Bool := false
  deriving DecidableEq, Repr

/-- `LCP_FSM` adds the echo counter. -/
structure LCPFsm extends PPPFsm where
  echoCounter : UInt8 := 0
  deriving DecidableEq, Repr

/-- `PPP_AUTH`, the PAP side of a session. -/
structure PPPAuth where
  started : Bool := false
  deriving DecidableEq, Repr

/-- `PPP_CHAP`. -/
structure PPPChap where
  started : Bool := false
  challenge : Bytes := []
  deriving DecidableEq, Repr

/-- `PPPOESession`.  The timer carries the waits of the LCP echo mechanism. -/
structure PPPOESession where
  encap : Encapsulation
  started : Bool := false
  aaaSessionId : UInt32 := uint32Max
  sessionId : UInt16
  username : Bytes := []
  address : UInt32
  ifindex : UInt32 := uint32Max
  vrf : Bytes := []
  unnumbered : Bytes := []
  lcp : LCPFsm
  auth : PPPAuth := {}
  chap : PPPChap := {}
  ipcp : PPPFsm
  peerMRU : UInt16
  ourMagicNumber : UInt32
  peerMagicNumber : UInt32
  timer : Timer := []
  deriving DecidableEq, Repr

/-- The members that the constructor of `PPPOESession` does not initialise.
They hold whatever the memory held. -/
structure UninitialisedSession where
  address : UInt32
  peerMRU : UInt16
  ourMagicNumber : UInt32
  peerMagicNumber : UInt32
  deriving DecidableEq, Repr

/-- The constructor of `PPPOESession`. -/
def PPPOESession.construct (uninitialised : UninitialisedSession) (encap : Encapsulation)
    (sessionId : UInt16) : PPPOESession where
  encap := encap
  sessionId := sessionId
  address := uninitialised.address
  lcp := { sessionId := sessionId }
  ipcp := { sessionId := sessionId }
  peerMRU := uninitialised.peerMRU
  ourMagicNumber := uninitialised.ourMagicNumber
  peerMagicNumber := uninitialised.peerMagicNumber

/-- The key under which a session is registered. -/
def PPPOESession.key (session : PPPOESession) : PPPOEKey :=
  .ofEncap session.encap session.sessionId

/-- `LCPPolicy`.  The code never reads `insertMagicNumber`. -/
structure LCPPolicy where
  mru : UInt16 := 1492
  authCHAP : Bool := true
  authPAP : Bool := false
  deriving DecidableEq, Repr

/-- What the automata read of the rest of the daemon: its own hardware address,
the LCP policy, and the number `random_uin32_t` would return. -/
structure LinkContext where
  hwaddr : Mac
  lcpConf : LCPPolicy
  random : UInt32
  deriving DecidableEq, Repr

/-- The outcome of an automaton's method: the session after it, the frames it
queued on `ppp_outcoming`, oldest first, and the pair `FSM_RET`.  An empty
error string is `none`. -/
structure FsmOut where
  session : PPPOESession
  sent : List Bytes := []
  action : PPPFsmAction := .none
  err : Option String := none
  deriving DecidableEq, Repr

namespace PPPOESession

/-- Put the link header of the session in front of a PPPoE packet. -/
def frame (session : PPPOESession) (hwaddr : Mac) (packet : Bytes) : Bytes :=
  session.encap.generateHeader hwaddr ethPppoeSession ++ packet

/-- Return without an effect. -/
def done (session : PPPOESession) : FsmOut := { session := session }

/-- Return with an error text and no other effect. -/
def fail (session : PPPOESession) (text : String) : FsmOut := { session := session, err := some text }

/-- Queue one frame and return without an error. -/
def queue (session : PPPOESession) (bytes : Bytes) : FsmOut :=
  { session := session, sent := [bytes] }

end PPPOESession

end Pppcpd
