import Pppcpd.Runtime.State

namespace Pppcpd

open Foundation

/-!
# PPP session packets and the echo timer

`processPPP` finds the session of a frame by the full key and hands the packet
to the automaton of its protocol.  What an automaton reports upwards is acted
on here: LCP starts the authentication or ends the session, a success of the
authentication starts IPCP, and IPCP configures the data plane.
-/

namespace Runtime

/-- Run a method of a session's automaton: nothing when the reference dangles
beyond the heap. -/
def withSession (ref : Nat) (method : PPPOESession -> FsmOut) (runtime : Runtime) : Runtime :=
  match runtime.sessions.deref ref with
  | none => runtime
  | some session => runtime.apply ref (method session)

/-- The block of `processPPP` that starts LCP on the first packet. -/
def ensureStarted (env : Env) (ref : Nat) (runtime : Runtime) : Runtime :=
  runtime.withSession ref (fun session =>
    if session.started then session.done
    else
      let out := (runtime.lcpFsm env).start session
      { out with session := { out.session with started := true } })

/-- `PPP_CHAP::open`. -/
def openChap (env : Env) (ref : Nat) (runtime : Runtime) : Runtime :=
  match runtime.sessions.deref ref with
  | none => runtime
  | some session =>
      let out := sendChallenge runtime.hwaddr (runtime.policy session.encap.outerVlan).acName
        (runtime.aaa.md5 env.challengeSeed) session
      (runtime.apply ref out).observe (.challenge ref out.session.chap.challenge)

/-- What follows when LCP is up.  `PPP_AUTH::open` does nothing. -/
def openAuth (env : Env) (ref : Nat) (runtime : Runtime) : Runtime :=
  if runtime.lcpConf.authCHAP then runtime.openChap env ref
  else if runtime.lcpConf.authPAP then runtime
  else runtime.withSession ref runtime.ipcpFsm.start

/-- The LCP case of `processPPP`. -/
def processLcp (env : Env) (ref : Nat) (packet : Packet) (runtime : Runtime) :
    Option (Runtime × Option String) :=
  (runtime.sessions.deref ref).bind (fun session =>
    ((runtime.lcpFsm env).receive session packet).map (fun out =>
      let applied := runtime.apply ref out
      match out.err, out.action with
      | none, .layerUp => (applied.openAuth env ref, none)
      | none, .layerDown =>
          let ended := applied.deallocateSession session.sessionId
          (ended.1, ended.2.map ("Cannot terminate session: " ++ ·))
      | _, _ => (applied, none)))

/-- A callback is called: `auth_callback` of the PAP or CHAP side of the session
it is bound to. -/
def callback (runtime : Runtime) (call : CallbackCall) : Runtime :=
  (runtime.withSession call.callback.session
    (call.callback.protocol.authCallback runtime.hwaddr call.sid call.err)).observe (.callback call)

/-- Carry out the callback calls that AAA made. -/
def callbacks (runtime : Runtime) (calls : List CallbackCall) : Runtime :=
  calls.foldl callback runtime

/-- `recv_auth_req` of either protocol, after the packet was parsed: repeat the
success when there was one, or ask AAA. -/
def recvAuthReq (env : Env) (ref : Nat) (protocol : AuthProtocol) (username : Bytes)
    (credential : Credential) (runtime : Runtime) : Option Runtime :=
  (runtime.sessions.deref ref).bind (fun session =>
    if protocol.started session then
      some (runtime.apply ref (protocol.sendAuthAck runtime.hwaddr session))
    else
      let named := (runtime.apply ref (PPPOESession.done { session with username := username })).observe
        (.request ref protocol session.chap.challenge)
      (named.aaa.startSession env.aaa username credential session.encap
          { session := ref, protocol := protocol }).map (fun started =>
        callbacks { named with aaa := started.1 } started.2))

/-- `PPP_AUTH::receive`. -/
def processPap (env : Env) (ref : Nat) (packet : Packet) (runtime : Runtime) : Option Runtime :=
  if packet.code = PAPCode.authenticateReq then
    let request := PAPRequest.parse packet
    runtime.recvAuthReq env ref .pap request.username (.pap request.password)
  else some runtime

/-- `PPP_CHAP::receive`. -/
def processChap (env : Env) (ref : Nat) (packet : Packet) (runtime : Runtime) : Option Runtime :=
  if packet.code = CHAPCode.response then
    (runtime.sessions.deref ref).bind (fun session =>
      let response := CHAPResponse.parse packet
      runtime.recvAuthReq env ref .chap response.username
        (.chap session.chap.challenge response.response))
  else some runtime

/-- `startEcho`: set the timer to a new expiry time and wait on it. -/
def startEcho (ref : Nat) (runtime : Runtime) : Runtime :=
  { runtime with
    sessions := runtime.sessions.update ref (fun session =>
      { session with timer := Timer.restart session.timer }) }

/-- What follows when IPCP is up: the data plane is configured, and the echo
mechanism started, whether or not the configuration succeeded. -/
def openDataPlane (ref : Nat) (session : PPPOESession) (runtime : Runtime) : Runtime :=
  let provisioned := runtime.vpp.provisionDp ref session
  let ifindex := provisioned.2.2
  startEcho ref { runtime with
    vpp := provisioned.1
    sessions := runtime.sessions.update ref (fun session => { session with ifindex := ifindex })
    aaa := runtime.aaa.mapIfaceToSession session.aaaSessionId ifindex }

/-- The IPCP case of `processPPP`. -/
def processIpcp (ref : Nat) (packet : Packet) (runtime : Runtime) : Option Runtime :=
  (runtime.sessions.deref ref).bind (fun session =>
    (runtime.ipcpFsm.receive session packet).map (fun out =>
      let applied := runtime.apply ref out
      match out.err, out.action with
      | none, .layerUp => applied.openDataPlane ref out.session
      | _, _ => applied))

/-- The default case of `processPPP`: the packet goes back with another code. -/
def rejectProtocol (ref : Nat) (packet : Packet) (runtime : Runtime) : Runtime :=
  runtime.withSession ref (fun session =>
    session.queue (session.frame runtime.hwaddr (packet.setCode LCPCode.codeRej).bytes))

/-- The dispatch of `processPPP` on the protocol of a packet. -/
def dispatch (env : Env) (ref : Nat) (packet : Packet) (runtime : Runtime) :
    Option (Runtime × Option String) :=
  if packet.pppProtocol = PPPProto.lcp then runtime.processLcp env ref packet
  else if packet.pppProtocol = PPPProto.pap then
    (runtime.processPap env ref packet).map (·, none)
  else if packet.pppProtocol = PPPProto.chap then
    (runtime.processChap env ref packet).map (·, none)
  else if packet.pppProtocol = PPPProto.ipcp then
    (runtime.processIpcp ref packet).map (·, none)
  else some (runtime.rejectProtocol ref packet, none)

/-- The key that `processPPP` looks up for a packet received on a link. -/
def frameKey (encap : Encapsulation) (packet : Packet) : PPPOEKey :=
  .ofEncap encap packet.pppoeSessionId

/-- `processPPP`. -/
def processPPP (env : Env) (encap : Encapsulation) (packet : Packet) (runtime : Runtime) :
    Option (Runtime × Option String) :=
  match runtime.store.activeSessions.lookup (frameKey encap packet) with
  | none => some (runtime, none)
  | some ref => (runtime.ensureStarted env ref).dispatch env ref packet

/-! ## The echo timer -/

/-- The expiry time of a session's echo timer is reached. -/
def echoExpires (ref : Nat) (runtime : Runtime) : Runtime :=
  { runtime with
    sessions := runtime.sessions.update ref (fun session =>
      { session with timer := Timer.expire session.timer }) }

/-- `sendEchoReq`, called without an error. -/
def sendEchoReq (env : Env) (ref : Nat) (runtime : Runtime) : Runtime :=
  match runtime.sessions.deref ref with
  | none => runtime
  | some session =>
      let out := LCPFsm.sendEchoReq
        { hwaddr := runtime.hwaddr, lcpConf := runtime.lcpConf, random := env.random } session
      let applied := runtime.apply ref out
      match out.action with
      | .layerDown => (applied.deallocateSession session.sessionId).1
      | _ => applied.startEcho ref

/-- The handler of a wait on an echo timer runs.  It gives up its reference to
the session when it returns.  The model takes the wait out first, which is the
same, since the destructor talks to the data plane alone. -/
def echoTimer (env : Env) (ref index : Nat) (runtime : Runtime) : Option Runtime :=
  (runtime.sessions.deref ref).bind (fun session =>
    let popped := { runtime with
      sessions := runtime.sessions.update ref (fun session =>
        { session with timer := session.timer.eraseIdx index }) }
    match session.timer[index]? with
    | some .expired => some ((popped.sendEchoReq env ref).collect ref)
    | some .aborted => some (popped.collect ref)
    | _ => none)

end Runtime

end Pppcpd
