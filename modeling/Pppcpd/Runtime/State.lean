import Pppcpd.Aaa.Step
import Pppcpd.Ppp.Auth
import Pppcpd.Vpp.Vpp

namespace Pppcpd

open Foundation

/-!
# The state of the daemon

`Runtime` is the object `runtime` that every module of the daemon refers to.
Sessions are objects in a heap: an entry of `activeSessions` and each pending
wait of the echo timer hold a reference.  `log` records what the claims about
runs speak about.  No function reads it.
-/

/-- `PPPOEPolicy`. -/
structure PPPOEPolicy where
  acName : Bytes := ascii "pppoecpd"
  serviceName : List Bytes := [ascii "internet"]
  insertCookie : Bool := false
  ignoreServiceName : Bool := false
  deriving DecidableEq, Repr

/-- The part of `PPPOEGlobalConf` that is read after the daemon has started. -/
structure PPPOEGlobalConf where
  defaultPppoeConf : PPPOEPolicy := {}
  pppoeConfs : Table UInt16 PPPOEPolicy := ∅
  pppoeTemplates : Table Bytes PPPOELocalTemplate := ∅
  aaaConf : AAAConf

/-- The session tables of `PPPOERuntime`.  `pendingTimers` holds the keys bound
to the timers of pending sessions that have not fired. -/
structure SessionStore where
  activeSessions : Table PPPOEKey Nat := ∅
  sessionSet : Finset UInt16 := ∅
  pendingSession : Finset PPPOEConn := ∅
  pendingTimers : List PPPOEConn := []
  nextSessionId : UInt16 := 1

/-- What the log records: a CHAP challenge sent, a request handed to AAA, and a
call of a callback. -/
inductive Observation
  | challenge (session : Nat) (value : Bytes)
  | request (session : Nat) (protocol : AuthProtocol) (challenge : Bytes)
  | callback (call : CallbackCall)
  deriving DecidableEq, Repr

structure Runtime where
  defaultPppoeConf : PPPOEPolicy := {}
  pppoeConfs : Table UInt16 PPPOEPolicy := ∅
  lcpConf : LCPPolicy := {}
  hwaddr : Mac
  store : SessionStore := {}
  sessions : Heap PPPOESession := []
  aaa : AAA
  vpp : VPP
  counters : Table UInt32 VPPIfaceCounters := ∅
  pppoeOutcoming : List Bytes := []
  pppOutcoming : List Bytes := []
  /-- Newest first. -/
  log : List Observation := []

/-- What the environment contributes to one event: random values, and the
memory in which uninitialised members are found. -/
structure Env where
  random : UInt32 := 0
  cookie : Bytes := []
  challengeSeed : Bytes := []
  session : UninitialisedSession := ⟨0, 0, 0, 0⟩
  aaa : AAAInputs := {}

namespace Runtime

/-- The policy for an outer VLAN. -/
def policy (runtime : Runtime) (outerVlan : UInt16) : PPPOEPolicy :=
  (runtime.pppoeConfs.lookup outerVlan).getD runtime.defaultPppoeConf

/-- The LCP and IPCP automata in their surroundings. -/
def lcpFsm (runtime : Runtime) (env : Env) : FsmClass :=
  LCPFsm.protocol { hwaddr := runtime.hwaddr, lcpConf := runtime.lcpConf, random := env.random }

def ipcpFsm (runtime : Runtime) : FsmClass :=
  IPCPFsm.protocol runtime.hwaddr runtime.aaa.getSession

/-- Write back a session after a method of one of its automata and queue the
frames it sent. -/
def apply (ref : Nat) (out : FsmOut) (runtime : Runtime) : Runtime :=
  { runtime with
    sessions := runtime.sessions.update ref (fun _ => out.session)
    pppOutcoming := runtime.pppOutcoming ++ out.sent }

def observe (observation : Observation) (runtime : Runtime) : Runtime :=
  { runtime with log := observation :: runtime.log }

/-- The active sessions hold the object. -/
def isActive (runtime : Runtime) (ref : Nat) : Bool :=
  runtime.store.activeSessions.values.contains ref

/-- Destroy a session object that has lost its last holder.  The destructor
cancels the timer, on which no wait is left then, and deprovisions. -/
def collect (ref : Nat) (runtime : Runtime) : Runtime :=
  match runtime.sessions.deref ref with
  | none => runtime
  | some session =>
      if runtime.sessions.isAlive ref ∧ ¬ runtime.isActive ref ∧ session.timer = [] then
        { runtime with
          sessions := runtime.sessions.destroy ref
          vpp := runtime.vpp.deprovisionDp ref session }
      else runtime

/-! ## The session store -/

/-- `pendeSession`. -/
def pendeSession (conn : PPPOEConn) (runtime : Runtime) : Runtime × Option String :=
  if conn ∈ runtime.store.pendingSession then
    (runtime, some "Cannot allocate new Pending session")
  else
    ({ runtime with store := { runtime.store with
        pendingSession := insert conn runtime.store.pendingSession
        pendingTimers := runtime.store.pendingTimers ++ [conn] } }, none)

/-- `checkSession`. -/
def checkSession (conn : PPPOEConn) (runtime : Runtime) : Runtime × Bool :=
  if conn ∈ runtime.store.pendingSession then
    ({ runtime with store := { runtime.store with
        pendingSession := runtime.store.pendingSession.erase conn } }, true)
  else (runtime, false)

/-- `clearPendingSession`. -/
def clearPendingSession (conn : PPPOEConn) (runtime : Runtime) : Runtime :=
  { runtime with store := { runtime.store with
      pendingSession := runtime.store.pendingSession.erase conn } }

/-- The session ids that `allocateSession` tries, from the cursor on.  The
outer `none` is a search that does not end: it cannot come back to a cursor of
zero, which it skips. -/
def findFreeId (sessionSet : Finset UInt16) (start : UInt16) : Nat -> UInt16 -> Option (Option UInt16)
  | 0, _ => none
  | rounds + 1, current =>
      let current := if current = 0 then 1 else current
      if current ∉ sessionSet then some (some current)
      else
        let next := if current + 1 = 0 then 1 else current + 1
        if next = start then some none else findFreeId sessionSet start rounds next

/-- More rounds than there are session ids. -/
def idRounds : Nat := 65536

/-- The body of the loop of `allocateSession`, for an id that is not in use:
the id and the session are entered, or the failure of one of the two is undone
and reported. -/
def enterSession (env : Env) (encap : Encapsulation) (id : UInt16) (runtime : Runtime) :
    Runtime × UInt16 × Option String :=
  if id ∈ runtime.store.sessionSet then
    (runtime, 0, some "Cannot allocate session: cannot emplace value in set")
  else
    let ref := runtime.sessions.length
    let made := { runtime with
      sessions := runtime.sessions.make (.construct env.session encap id) }
    let emplaced := Table.emplace (.ofEncap encap id) ref made.store.activeSessions
    if emplaced.2 then
      ({ made with store := { made.store with
          activeSessions := emplaced.1
          sessionSet := insert id made.store.sessionSet
          nextSessionId := if id + 1 = 0 then 1 else id + 1 } }, id, none)
    else
      (made.collect ref, 0,
        some "Cannot allocate session: cannot emplace new PPPOESession")

/-- `allocateSession`: the new id, or zero and an error. -/
def allocateSession (env : Env) (encap : Encapsulation) (runtime : Runtime) :
    Option (Runtime × UInt16 × Option String) :=
  let start := runtime.store.nextSessionId
  (findFreeId runtime.store.sessionSet start idRounds start).map (fun search =>
    match search with
    | none => (runtime, 0, some "Maximum of sessions")
    | some id => runtime.enterSession env encap id)

/-- The predicate that `deallocateSession` searches with. -/
def hasId (runtime : Runtime) (sid : UInt16) (_key : PPPOEKey) (ref : Nat) : Bool :=
  (runtime.sessions.deref ref).any (fun session => session.sessionId == sid)

/-- The first active session with an id, as `std::find_if` looks for it. -/
def registered (runtime : Runtime) (sid : UInt16) : Option (PPPOEKey × Nat) :=
  Table.findEntry (runtime.hasId sid) runtime.store.activeSessions

/-- The part of `deallocateSession` for a session that was found. -/
def removeSession (key : PPPOEKey) (ref : Nat) (runtime : Runtime) : Runtime :=
  match runtime.sessions.deref ref with
  | none => runtime
  | some session =>
      let erased := { runtime with
        aaa := runtime.aaa.stopSession runtime.counters session.aaaSessionId
        store := { runtime.store with activeSessions := runtime.store.activeSessions.erase key } }
      erased.collect ref

/-- Erase an id from `sessionSet`. -/
def releaseId (sid : UInt16) (runtime : Runtime) : Runtime :=
  { runtime with store := { runtime.store with sessionSet := runtime.store.sessionSet.erase sid } }

/-- `deallocateSession`. -/
def deallocateSession (sid : UInt16) (runtime : Runtime) : Runtime × Option String :=
  if sid ∈ runtime.store.sessionSet then
    match runtime.registered sid with
    | some (key, ref) => ((runtime.removeSession key ref).releaseId sid, none)
    | none => (runtime.releaseId sid, none)
  else (runtime, some "Cannot find session with this session id")

/-- `cleanup`. -/
def cleanup (runtime : Runtime) : Runtime :=
  let refs := runtime.store.activeSessions.values
  let cleared := { runtime with
    aaa := runtime.aaa.stopAllSessions runtime.counters
    store := { runtime.store with activeSessions := ∅, sessionSet := ∅, pendingSession := ∅ } }
  refs.foldl (fun runtime ref => runtime.collect ref) cleared

/-- `reloadConfig` with a valid file. -/
def reloadConfig (conf : PPPOEGlobalConf) (runtime : Runtime) : Runtime :=
  { runtime with
    defaultPppoeConf := conf.defaultPppoeConf
    pppoeConfs := conf.pppoeConfs
    aaa := runtime.aaa.reload conf.aaaConf conf.pppoeTemplates }

/-! ## The start of the daemon -/

/-- The state after the start of the daemon: empty session tables, no request,
and pools without an address in use. -/
structure Fresh (runtime : Runtime) : Prop where
  store : runtime.store = {}
  sessions : runtime.sessions = []
  aaaSessions : runtime.aaa.sessions = ∅
  aaaObjects : runtime.aaa.objects = []
  pools : runtime.aaa.conf.Decoded
  auth : ∀ client ∈ runtime.aaa.auth, client.callbacks = ∅
  acct : ∀ client ∈ runtime.aaa.acct, client.callbacks = ∅ ∧ client.sent = []
  calls : runtime.vpp.calls = []
  held : runtime.vpp.held = ∅
  log : runtime.log = []

/-- The daemon after its start, with a client for each kind of RADIUS server. -/
def boot (conf : PPPOEGlobalConf) (lcpConf : LCPPolicy) (secret : Bytes) (hwaddr : Mac)
    (md5 : Bytes -> Bytes) (replies : Nat -> VPPReply) : Runtime where
  defaultPppoeConf := conf.defaultPppoeConf
  pppoeConfs := conf.pppoeConfs
  lcpConf := lcpConf
  hwaddr := hwaddr
  aaa := { conf := conf.aaaConf, templates := conf.pppoeTemplates, md5 := md5
           auth := some { secret := secret }, acct := some { secret := secret } }
  vpp := { replies := replies }

theorem fresh_boot {conf : PPPOEGlobalConf} (decoded : conf.aaaConf.Decoded) (lcpConf : LCPPolicy)
    (secret : Bytes) (hwaddr : Mac) (md5 : Bytes -> Bytes) (replies : Nat -> VPPReply) :
    (boot conf lcpConf secret hwaddr md5 replies).Fresh where
  store := rfl
  sessions := rfl
  aaaSessions := rfl
  aaaObjects := rfl
  pools := decoded
  auth := by
    intro client member
    rw [← Option.some.inj member]
  acct := by
    intro client member
    rw [← Option.some.inj member]
    exact ⟨rfl, rfl⟩
  calls := rfl
  held := rfl
  log := rfl

/-- A daemon with one local template and one pool, used to show that results
are not about nothing and that defects are reached. -/
def sampleDaemon (method : List AAAMethod) (lcpConf : LCPPolicy) : Runtime :=
  boot { pppoeTemplates := AAA.sampleTemplates, aaaConf := AAA.sampleConf method } lcpConf
    AAA.sampleSecret ⟨2, 0, 0, 0, 0, 1⟩ MD5.digest (fun _ => {})

theorem fresh_sampleDaemon (method : List AAAMethod) (lcpConf : LCPPolicy) :
    (sampleDaemon method lcpConf).Fresh :=
  fresh_boot (AAA.sampleConf_decoded method) lcpConf _ _ _ _

end Runtime

/-- A link without VLANs for each number. -/
def sampleLink (number : UInt8) : Encapsulation :=
  ⟨⟨2, 0, 0, 0, 1, number⟩, ⟨2, 0, 0, 0, 0, 1⟩, 0, 0, ethPppoeDiscovery⟩

end Pppcpd
