import Pppcpd.Aaa.Session
import Pppcpd.Wire.Encap

namespace Pppcpd

open Foundation

/-!
# The AAA component

`AAA` starts sessions for subscribers by the configured methods, handles the
answers of the RADIUS servers, and stops sessions.  Callbacks run in the PPPoE
session that asked and change nothing of AAA, so each function returns the list
of the callback calls it makes, oldest first, for the caller to carry out.

The result `none` of a function is a call that does not return: an endless loop
or an operation without a meaning, such as using the first of no servers.
-/

/-- What the environment contributes to a call into AAA: a random
authenticator, and the memory that uninitialised members are found in. -/
structure AAAInputs where
  authenticator : Bytes := []
  ifindex : UInt32 := 0
  vendor : Nat -> UInt32 := fun _ => 0
  behind : Nat -> UInt8 := fun _ => 0

namespace AAA

/-- The first session id that is not in use. -/
def firstFreeId (aaa : AAA) : Option UInt32 :=
  (firstFrom (fun id => !decide (UInt32.ofNat id ∈ aaa.sessions)) uint32Count 0).map UInt32.ofNat
where
  /-- `UINT32_MAX`, the number of ids the loop tries. -/
  uint32Count : Nat := 4294967295

/-- Enter the newest object under an id.  `emplace` cannot fail here, because
the id was found free. -/
def enter (aaa : AAA) (sid : UInt32) (ref : Nat) : AAA :=
  { aaa with sessions := aaa.sessions.insert sid ref }

/-- `startSessionNone`. -/
def startSessionNone (inputs : AAAInputs) (user : Bytes) (aaa : AAA) :
    Option (AAA × Except String UInt32) :=
  if aaa.conf.localTemplate = [] then
    some (aaa, .error "No template for non-radius pppoe user")
  else
    match aaa.firstFreeId with
    | none => some (aaa, .error "No space for new sessions")
    | some sid =>
        (aaa.constructNone inputs.ifindex sid user aaa.conf.localTemplate).map (fun made =>
          (made.enter sid aaa.objects.length, .ok sid))

/-- The request of `startSessionRadius` and `startSessionRadiusChap`. -/
def radiusRequest (user : Bytes) (credential : Credential) (encap : Encapsulation) :
    RadiusRequest :=
  { username := user
    credential := credential
    nasId := ascii "vBNG"
    serviceType := ascii "Framed-User"
    framedProtocol := ascii "PPP"
    callingStationId := encap.destinationMac.text
    nasPortId :=
      if encap.outerVlan = 0 then ascii "ethernet"
      else ascii ("vlan" ++ toString encap.outerVlan.toNat) }

/-- `startSessionRadius` and `startSessionRadiusChap`: ask the first server, if
there is one. -/
def startSessionRadius (inputs : AAAInputs) (user : Bytes) (credential : Credential)
    (encap : Encapsulation) (callback : AAACallback) (aaa : AAA) : AAA :=
  { aaa with
    auth := aaa.auth.map (fun client =>
      client.request aaa.md5 aaa.dict inputs.authenticator (radiusRequest user credential encap)
        { callback := callback, user := user }) }

/-- The loop of `startSession` and `startSessionCHAP` over the methods.  After
a success of NONE only the `switch` is left, so the loop goes on. -/
def startByMethods (inputs : AAAInputs) (user : Bytes) (credential : Credential)
    (encap : Encapsulation) (callback : AAACallback) :
    List AAAMethod -> AAA -> Option (AAA × List CallbackCall)
  | [], aaa => some (aaa, [])
  | .none :: rest, aaa =>
      (aaa.startSessionNone inputs user).bind (fun started =>
        (startByMethods inputs user credential encap callback rest started.1).map (fun later =>
          match started.2 with
          | .error _ => later
          | .ok sid => (later.1, { callback := callback, sid := sid, err := none } :: later.2)))
  | .radius :: _, aaa => some (aaa.startSessionRadius inputs user credential encap callback, [])
  | .local :: rest, aaa => startByMethods inputs user credential encap callback rest aaa

/-- `startSession` and `startSessionCHAP`. -/
def startSession (inputs : AAAInputs) (user : Bytes) (credential : Credential)
    (encap : Encapsulation) (callback : AAACallback) (aaa : AAA) :
    Option (AAA × List CallbackCall) :=
  startByMethods inputs user credential encap callback aaa.conf.method aaa

/-- The first part of `processRadiusAnswer`: an answer that is not an accept is
reported to the caller. -/
def noAcceptCalls (callback : AAACallback) (code : UInt8) : List CallbackCall :=
  if code ≠ RadiusCode.accessAccept then
    [{ callback := callback, sid := 0, err := some "RADIUS answered with no accept" }]
  else []

/-- `processRadiusAnswer`.  The branch for an answer that is not an accept does
not return. -/
def processRadiusAnswer (inputs : AAAInputs) (handler : AuthHandler) (code : UInt8)
    (attributes : Bytes) (aaa : AAA) : Option (AAA × List CallbackCall) :=
  (RadiusResponse.deserialize aaa.dict { bytes := attributes, behind := inputs.behind }
      inputs.vendor).bind (fun response =>
    let rejected := noAcceptCalls handler.callback code
    match aaa.firstFreeId with
    | none =>
        some (aaa, rejected ++
          [{ callback := handler.callback, sid := 0, err := some "No space for new sessions" }])
    | some sid =>
        match aaa.acct with
        | none => none
        | some _ =>
            (aaa.constructRadius inputs.ifindex sid handler.user aaa.conf.localTemplate response).map
              (fun made =>
                ((made.enter sid aaa.objects.length).start aaa.objects.length,
                  rejected ++ [{ callback := handler.callback, sid := sid, err := none }])))

/-- `processRadiusError`. -/
def processRadiusError (handler : AuthHandler) (error : String) : List CallbackCall :=
  [{ callback := handler.callback, sid := 0, err := some ("RADIUS error: " ++ error) }]

/-- The session of an id, as `getSession` finds it. -/
def getSession (aaa : AAA) (sid : UInt32) : Option AAASession :=
  (aaa.sessions.lookup sid).bind aaa.objects.deref

/-- `stopSession`. -/
def stopSession (counters : Table UInt32 VPPIfaceCounters) (sid : UInt32) (aaa : AAA) : AAA :=
  match aaa.sessions.lookup sid with
  | none => aaa
  | some ref =>
      let stopped := aaa.stop counters ref
      AAA.collect { stopped with sessions := stopped.sessions.erase sid } ref

/-- `mapIfaceToSession`. -/
def mapIfaceToSession (sid : UInt32) (ifindex : UInt32) (aaa : AAA) : AAA :=
  match aaa.sessions.lookup sid with
  | none => aaa
  | some ref => aaa.updateObject ref (fun session => { session with ifindex := ifindex })

/-- `stopAllSessions`. -/
def stopAllSessions (counters : Table UInt32 VPPIfaceCounters) (aaa : AAA) : AAA :=
  let refs := aaa.sessions.values
  let stopped := refs.foldl (fun aaa ref => aaa.stop counters ref) aaa
  refs.foldl (fun aaa ref => aaa.collect ref) { stopped with sessions := ∅ }

/-! ## Events of the clients and of the interim timers -/

/-- A datagram reaches the authentication client. -/
def authDatagram (inputs : AAAInputs) (datagram : Bytes) (aaa : AAA) :
    Option (AAA × List CallbackCall) :=
  aaa.auth.bind (fun client =>
    (client.onRcv aaa.md5 inputs.behind datagram).bind (fun received =>
      let aaa := { aaa with auth := some received.1 }
      match received.2 with
      | none => some (aaa, [])
      | some answer =>
          (aaa.processRadiusAnswer inputs answer.handler answer.code answer.attributes).map
            (fun processed =>
              ({ processed.1 with auth := processed.1.auth.map (AuthClient.cancelTimer answer.id) },
                processed.2))))

/-- The timer of an authentication request expires. -/
def authExpires (id : UInt8) (aaa : AAA) : AAA :=
  { aaa with auth := aaa.auth.map (AuthClient.timerExpires id) }

/-- `expire_check` of the authentication client. -/
def authTimer (id : UInt8) (aaa : AAA) : Option (AAA × List CallbackCall) :=
  aaa.auth.bind (fun client =>
    (client.callbacks.lookup id).bind (fun entry =>
      let erased := { aaa with auth := some (client.eraseEntry id) }
      match entry.wait with
      | .armed => none
      | .aborted => some (erased, [])
      | .expired =>
          some (erased, processRadiusError entry.handler "Timeout for this radius request")))

/-- A datagram reaches the accounting client. -/
def acctDatagram (inputs : AAAInputs) (datagram : Bytes) (aaa : AAA) : Option AAA :=
  aaa.acct.bind (fun client =>
    (client.onRcv aaa.md5 inputs.behind datagram).bind (fun received =>
      let aaa := { aaa with acct := some received.1 }
      match received.2 with
      | none => some aaa
      | some answer =>
          (acctResponseEnds { bytes := answer.attributes, behind := inputs.behind }
              inputs.vendor).map (fun _ =>
            let answered := aaa.acctAnswer answer.handler
            { answered with acct := answered.acct.map (AuthClient.cancelTimer answer.id) })))

/-- The timer of an accounting request expires. -/
def acctExpires (id : UInt8) (aaa : AAA) : AAA :=
  { aaa with acct := aaa.acct.map (AuthClient.timerExpires id) }

/-- `expire_check` of the accounting client.  `on_failed` only writes a log
line, so an expired and a cancelled timer differ in nothing else. -/
def acctTimer (id : UInt8) (aaa : AAA) : Option AAA :=
  aaa.acct.bind (fun client =>
    (client.callbacks.lookup id).bind (fun entry =>
      match entry.wait with
      | .armed => none
      | _ =>
          some (AAA.collect { aaa with acct := some (client.eraseEntry id) }
            entry.handler.session)))

/-- The interim timer of a session expires. -/
def interimExpires (ref : Nat) (aaa : AAA) : AAA := aaa.updateObject ref (onTimer Timer.expire)

/-- The handler of a wait on an interim timer runs: `on_interim`. -/
def interimTimer (counters : Table UInt32 VPPIfaceCounters) (ref index : Nat) (aaa : AAA) :
    Option AAA :=
  (aaa.objects.deref ref).bind (fun session =>
    let popped := aaa.updateObject ref (onTimer (fun timer => timer.eraseIdx index))
    match session.timer[index]? with
    | some .expired => some ((popped.onInterim counters ref).collect ref)
    | some .aborted => some (popped.collect ref)
    | _ => none)

/-- The AAA part of `reloadConfig` with a valid file. -/
def reload (conf : AAAConf) (templates : Table Bytes PPPOELocalTemplate) (aaa : AAA) : AAA :=
  { aaa with conf := conf, templates := templates }

end AAA

end Pppcpd
