import Pppcpd.Aaa.AuthClient
import Pppcpd.Aaa.Config
import Pppcpd.Foundation.Heap

namespace Pppcpd

open Foundation

/-!
# AAA sessions and the state of AAA

An `AAASession` is the record of one authenticated subscriber: his addresses,
and his accounting when he was authenticated by RADIUS.  The object is held by
its entry in `sessions`, by the handlers of its outstanding accounting
requests, and by the waits on its interim timer.  It is destroyed when none of
them is left, and only then does its address go back to the pool.
-/

/-- `AAA_Session`.  The constructors leave `ifindex` uninitialised. -/
structure AAASession where
  sessionId : UInt32
  username : Bytes
  address : UInt32 := 0
  dns1 : UInt32 := 0
  dns2 : UInt32 := 0
  framedPool : Bytes := []
  vrf : Bytes := []
  unnumbered : Bytes := []
  acct : Bool := false
  freeIp : Bool := false
  toStopAcct : Bool := false
  ifindex : UInt32
  timer : Timer := []
  deriving DecidableEq, Repr

/-- The two protocols a subscriber can authenticate with. -/
inductive AuthProtocol
  | pap
  | chap
  deriving DecidableEq, Repr

/-- A callback bound to the PAP or CHAP side of a PPPoE session object. -/
structure AAACallback where
  session : Nat
  protocol : AuthProtocol
  deriving DecidableEq, Repr

/-- A call of a callback.  An empty error string is `none`. -/
structure CallbackCall where
  callback : AAACallback
  sid : UInt32
  err : Option String
  deriving DecidableEq, Repr

/-- The handlers of an authentication request: `processRadiusAnswer` and
`processRadiusError`, bound to the callback and the user name. -/
structure AuthHandler where
  callback : AAACallback
  user : Bytes
  deriving DecidableEq, Repr

/-- The handlers of an accounting request.  The response handler is
`on_started`, `on_interim_answer` or `on_stopped` by the status of the request,
and the error handler is `on_failed`. -/
structure AcctHandler where
  status : AcctStatus
  session : Nat
  deriving DecidableEq, Repr

/-- `VPPIfaceCounters`.  Accounting does not read the drops. -/
structure VPPIfaceCounters where
  rxPkts : UInt64
  rxBytes : UInt64
  txPkts : UInt64
  txBytes : UInt64
  drops : UInt64 := 0
  deriving DecidableEq, Repr

/-- `AAA`, with the parts of the configuration it and its sessions use.  `md5`
is the digest function of the whole daemon. -/
structure AAA where
  conf : AAAConf
  templates : Table Bytes PPPOELocalTemplate := ∅
  dict : RadiusDict := {}
  md5 : Bytes -> Bytes
  sessions : Table UInt32 Nat := ∅
  objects : Heap AAASession := []
  auth : Option (AuthClient RadiusRequest AuthHandler) := none
  acct : Option (AuthClient AcctRequest AcctHandler) := none

namespace AAA

/-! ## Construction and destruction -/

/-- Take an address from the pool of a name, when there is such a pool.  The
flag is the new value of `free_ip`. -/
def takeAddress (aaa : AAA) (pool : Bytes) : Option ((UInt32 × Bool) × AAA) :=
  match aaa.conf.pools.lookup pool with
  | none => some ((0, false), aaa)
  | some found =>
      found.allocateIp.map (fun allocated =>
        ((allocated.1, true),
          { aaa with conf := { aaa.conf with pools := aaa.conf.pools.insert pool allocated.2 } }))

/-- Put a new object into the heap. -/
def makeObject (aaa : AAA) (session : AAASession) : AAA :=
  { aaa with objects := aaa.objects.make session }

/-- The constructor of a session that is authenticated by NONE.  It takes every
setting of the template but `unnumbered`. -/
def constructNone (aaa : AAA) (ifindex : UInt32) (sid : UInt32) (user templateName : Bytes) :
    Option AAA :=
  let template := (aaa.templates.lookup templateName).getD {}
  (aaa.takeAddress template.framedPool).map (fun taken =>
    taken.2.makeObject
      { sessionId := sid, username := user, ifindex := ifindex
        dns1 := template.dns1, dns2 := template.dns2
        framedPool := template.framedPool, vrf := template.vrf
        address := taken.1.1, freeIp := taken.1.2 })

/-- The constructor of a session that is authenticated by RADIUS. -/
def constructRadius (aaa : AAA) (ifindex : UInt32) (sid : UInt32) (user templateName : Bytes)
    (response : RadiusResponse) : Option AAA :=
  let name := if response.pppoeTemplate = [] then templateName else response.pppoeTemplate
  let template := (aaa.templates.lookup name).getD {}
  let pool := if response.framedPool = [] then template.framedPool else response.framedPool
  let taken :=
    if response.framedIp = 0 ∧ pool ≠ [] then aaa.takeAddress pool
    else some ((response.framedIp, false), aaa)
  taken.map (fun taken =>
    taken.2.makeObject
      { sessionId := sid, username := user, ifindex := ifindex
        dns1 := if response.dns1 = 0 then template.dns1 else response.dns1
        dns2 := if response.dns2 = 0 then template.dns2 else response.dns2
        framedPool := pool, vrf := template.vrf, unnumbered := template.unnumbered, acct := true
        address := taken.1.1, freeIp := taken.1.2 })

/-- Change the object of an AAA session. -/
def updateObject (aaa : AAA) (ref : Nat) (change : AAASession -> AAASession) : AAA :=
  { aaa with objects := aaa.objects.update ref change }

/-- The timer member of a session object. -/
def onTimer (change : Timer -> Timer) (session : AAASession) : AAASession :=
  { session with timer := change session.timer }

/-- Give the address of a session back to the pool of its name. -/
def giveBack (aaa : AAA) (session : AAASession) : AAA :=
  if session.freeIp then
    { aaa with
      conf := { aaa.conf with
        pools := Table.modify session.framedPool (fun pool => pool.deallocateIp session.address)
          aaa.conf.pools } }
  else aaa

/-- The destructor. -/
def destruct (aaa : AAA) (ref : Nat) : AAA :=
  match aaa.objects.deref ref with
  | none => aaa
  | some session =>
      let freed := (aaa.updateObject ref (onTimer Timer.cancel)).giveBack session
      { freed with objects := freed.objects.destroy ref }

/-- Something still holds the object. -/
def isOwned (aaa : AAA) (ref : Nat) : Bool :=
  aaa.sessions.values.contains ref ||
    aaa.acct.any (fun client =>
      client.callbacks.values.any (fun entry => entry.handler.session == ref)) ||
    (aaa.objects.deref ref).any (fun session => session.timer != [])

/-- Destroy an object that has lost its last holder. -/
def collect (aaa : AAA) (ref : Nat) : AAA :=
  if aaa.objects.isAlive ref && !aaa.isOwned ref then aaa.destruct ref else aaa

/-! ## Accounting of one session -/

/-- Hand an accounting request to the client, if there is one. -/
def acctRequest (aaa : AAA) (request : AcctRequest) (handler : AcctHandler) : AAA :=
  { aaa with acct := aaa.acct.map (fun client => client.acctRequest aaa.md5 aaa.dict request handler) }

/-- The accounting request of a session with its traffic so far. -/
def acctRecord (session : AAASession) (status : AcctStatus) (counters : Option VPPIfaceCounters) :
    AcctRequest :=
  { sessionId := ascii ("session_" ++ toString session.sessionId.toNat)
    username := session.username
    nasId := ascii "vBNG"
    acctStatusType := status
    inPkts := (counters.map (fun found => found.rxPkts.toUInt32)).getD 0
    outPkts := (counters.map (fun found => found.txPkts.toUInt32)).getD 0
    inBytes := (counters.map (fun found => found.rxBytes.toUInt32)).getD 0
    outBytes := (counters.map (fun found => found.txBytes.toUInt32)).getD 0 }

/-- `AAA_Session::start`. -/
def start (aaa : AAA) (ref : Nat) : AAA :=
  match aaa.objects.deref ref with
  | none => aaa
  | some session =>
      if session.acct then
        aaa.acctRequest (acctRecord session .start none) { status := .start, session := ref }
      else aaa

/-- `AAA_Session::stop`. -/
def stop (aaa : AAA) (counters : Table UInt32 VPPIfaceCounters) (ref : Nat) : AAA :=
  match aaa.objects.deref ref with
  | none => aaa
  | some session =>
      let cancelled := aaa.updateObject ref (onTimer Timer.cancel)
      if session.acct then
        cancelled.acctRequest (acctRecord session .stop (counters.lookup session.ifindex))
          { status := .stop, session := ref }
      else cancelled

/-- `AAA_Session::on_started`. -/
def onStarted (aaa : AAA) (ref : Nat) : AAA :=
  aaa.updateObject ref (fun session =>
    { session with toStopAcct := true, timer := Timer.restart session.timer })

/-- `AAA_Session::on_interim_answer`. -/
def onInterimAnswer (aaa : AAA) (ref : Nat) : AAA := aaa.updateObject ref (onTimer Timer.restart)

/-- `AAA_Session::on_stopped`. -/
def onStopped (aaa : AAA) (ref : Nat) : AAA := aaa.updateObject ref (onTimer Timer.cancel)

/-- `AAA_Session::on_interim`, called without an error. -/
def onInterim (aaa : AAA) (counters : Table UInt32 VPPIfaceCounters) (ref : Nat) : AAA :=
  match aaa.objects.deref ref with
  | none => aaa
  | some session =>
      if session.acct then
        (aaa.updateObject ref (onTimer Timer.cancel)).acctRequest
          (acctRecord session .alive (counters.lookup session.ifindex))
          { status := .alive, session := ref }
      else aaa

/-- The response handler of an accounting request. -/
def acctAnswer (aaa : AAA) (handler : AcctHandler) : AAA :=
  match handler.status with
  | .start => aaa.onStarted handler.session
  | .alive => aaa.onInterimAnswer handler.session
  | .stop => aaa.onStopped handler.session

end AAA

end Pppcpd
