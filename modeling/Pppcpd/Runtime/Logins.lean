import Pppcpd.Ppp.Bounds
import Pppcpd.Ppp.Logins
import Pppcpd.Runtime.Openable

namespace Pppcpd

open Foundation

/-!
# Logins that AAA is asked about

`receive` of PAP and of CHAP hands what it read of a request to AAA and keeps the
name in the session.  Nothing on the way looks at the length of the vector.
-/

/-- The observation is a request handed to AAA. -/
def Observation.isRequest : Observation -> Bool
  | .request .. => true
  | _ => false

namespace Runtime

/-- `receive` of an authentication protocol. -/
def receiveAuth (protocol : AuthProtocol) (env : Env) (ref : Nat) (packet : Packet)
    (runtime : Runtime) : Option Runtime :=
  match protocol with
  | .pap => runtime.processPap env ref packet
  | .chap => runtime.processChap env ref packet

/-- Keep a name in a session and ask AAA about it. -/
def askAAA (env : Env) (ref : Nat) (protocol : AuthProtocol) (session : PPPOESession)
    (login : Bytes × Credential) (runtime : Runtime) : Option Runtime :=
  (runtime.aaa.startSession env.aaa login.1 login.2 session.encap ⟨ref, protocol⟩).map
    (runtime.requested ref protocol login.1 session).withCalls

section

variable {protocol : AuthProtocol} {runtime : Runtime} {env : Env} {ref : Nat}
  {session : PPPOESession} {packet : Packet}

theorem recvAuthReq_of_fresh (found : runtime.sessions.deref ref = some session)
    (fresh : protocol.started session = false) (login : Bytes × Credential) :
    runtime.recvAuthReq env ref protocol login.1 login.2 =
      runtime.askAAA env ref protocol session login := by
  unfold recvAuthReq
  rw [found, Option.bind_some, if_neg (Bool.eq_false_iff.mp fresh)]
  rfl

/-- `receive` passes on what `recv_auth_req` reads. -/
theorem receiveAuth_eq (found : runtime.sessions.deref ref = some session) :
    runtime.receiveAuth protocol env ref packet =
      if packet.code = protocol.requestCode then
        runtime.recvAuthReq env ref protocol (protocol.read session packet).1
          (protocol.read session packet).2
      else some runtime := by
  cases protocol with
  | pap => rfl
  | chap =>
      unfold receiveAuth processChap
      rw [found]
      rfl

/-- What is read of a packet that is handed to AAA decides what AAA is asked. -/
theorem receiveAuth_of_requests (found : runtime.sessions.deref ref = some session)
    (requests : protocol.Requests session packet) :
    runtime.receiveAuth protocol env ref packet =
      runtime.askAAA env ref protocol session (protocol.read session packet) := by
  rw [receiveAuth_eq found, if_pos requests.1]
  exact recvAuthReq_of_fresh found requests.2 _

/-- Other packets repeat a success or are dropped. -/
theorem receiveAuth_of_not_requests (found : runtime.sessions.deref ref = some session)
    (other : ¬ protocol.Requests session packet) :
    runtime.receiveAuth protocol env ref packet =
      some (if packet.code = protocol.requestCode then
        runtime.apply ref (protocol.sendAuthAck runtime.hwaddr session) else runtime) := by
  rw [receiveAuth_eq found]
  by_cases isCode : packet.code = protocol.requestCode
  · have started : protocol.started session = true := by
      by_contra fresh
      exact other ⟨isCode, Bool.eq_false_iff.mpr fresh⟩
    unfold recvAuthReq
    rw [if_pos isCode, if_pos isCode, found, Option.bind_some, if_pos started]
  · rw [if_neg isCode, if_neg isCode]

/-! ## Names that are kept -/

/-- The callbacks of AAA leave the names of all sessions. -/
theorem username_callbacks (runtime : Runtime) (calls : List CallbackCall) :
    Kept PPPOESession.username runtime (runtime.callbacks calls) := by
  unfold callbacks
  induction calls generalizing runtime with
  | nil => exact .refl runtime
  | cons call rest inductionHypothesis =>
      refine Kept.trans ?_ (inductionHypothesis _)
      refine (kept_withSession runtime call.callback.session (fun session => ?_)).trans
        (.of_same rfl rfl)
      have outside := congrArg PPPOESession.username (AuthProtocol.authCallback_outside
        runtime.hwaddr call.callback.protocol call.sid call.err session)
      exact outside

/-- AAA is asked about a name with a credential, and the session keeps the name. -/
structure Asks (runtime : Runtime) (env : Env) (ref : Nat) (protocol : AuthProtocol)
    (session : PPPOESession) (packet : Packet) (login : Bytes × Credential) : Prop where
  asked : runtime.receiveAuth protocol env ref packet =
    runtime.askAAA env ref protocol session login
  kept : forall after, runtime.receiveAuth protocol env ref packet = some after ->
    ∃ later, after.sessions.deref ref = some later ∧ later.username = login.1

theorem asks_of_requests (env : Env) (found : runtime.sessions.deref ref = some session)
    (requests : protocol.Requests session packet) :
    runtime.Asks env ref protocol session packet (protocol.read session packet) := by
  have asked := @receiveAuth_of_requests protocol runtime env ref session packet found requests
  refine ⟨asked, fun after received => ?_⟩
  rw [asked] at received
  rcases Option.map_eq_some_iff.mp received with ⟨outcome, _, equal⟩
  rw [← equal]
  have named : (runtime.requested ref protocol (protocol.read session packet).1 session).sessions.deref
      ref = some { session with username := (protocol.read session packet).1 } :=
    deref_apply_self found _
  have kept := username_callbacks ((runtime.requested ref protocol
    (protocol.read session packet).1 session).withAaa outcome.1) outcome.2
  rcases kept.session named with ⟨later, present, same⟩
  exact ⟨later, present, same⟩

/-! ## Two peers -/

/-- A peer that sends a request to its session: what may follow the request in the
frame, and the memory behind it, are part of it. -/
structure Attempt where
  protocol : AuthProtocol
  ref : Nat
  session : PPPOESession
  sid : UInt16
  login : Login
  padding : Bytes := []
  behind : Nat -> UInt8 := fun _ => 0

namespace Attempt

/-- The packet that `receive` is handed. -/
def received (attempt : Attempt) : Packet :=
  ⟨attempt.protocol.request attempt.sid attempt.login ++ attempt.padding, attempt.behind⟩

/-- The name under which the peer is authenticated. -/
def name (attempt : Attempt) : Bytes := (attempt.protocol.read attempt.session attempt.received).1

/-- The session is there and has not been authenticated, and the request is well
formed. -/
structure Valid (runtime : Runtime) (attempt : Attempt) : Prop where
  found : runtime.sessions.deref attempt.ref = some attempt.session
  fresh : attempt.protocol.started attempt.session = false
  carries : attempt.protocol.Carries attempt.login

/-- The eight bits that CHAP keeps of the length of the name are all of it. -/
def Whole (attempt : Attempt) : Prop :=
  attempt.protocol = .pap ∨ attempt.login.username.length < 256

/-- What `receive` reads of the request is handed to AAA and kept, and it is what the
peer stated. -/
structure HandsOver (runtime : Runtime) (env : Env) (attempt : Attempt) : Prop where
  asks : runtime.Asks env attempt.ref attempt.protocol attempt.session attempt.received
    (attempt.protocol.read attempt.session attempt.received)
  stated : attempt.protocol.read attempt.session attempt.received =
    (attempt.login.username, attempt.protocol.credential attempt.session attempt.login)

theorem Valid.read {attempt : Attempt} (valid : attempt.Valid runtime) :
    attempt.protocol.read attempt.session attempt.received =
      (attempt.protocol.keptName attempt.login.username,
        attempt.protocol.credential attempt.session attempt.login) :=
  AuthProtocol.read_request valid.carries attempt.session attempt.sid attempt.padding attempt.behind

theorem handsOver_iff_whole {attempt : Attempt} (env : Env) (valid : attempt.Valid runtime) :
    attempt.HandsOver runtime env ↔ attempt.Whole := by
  unfold Whole
  rw [← AuthProtocol.keptName_eq_iff attempt.login.username]
  constructor
  · intro hands
    exact congrArg Prod.fst (valid.read.symm.trans hands.stated)
  · intro kept
    refine ⟨asks_of_requests env valid.found ⟨rfl, valid.fresh⟩, valid.read.trans ?_⟩
    rw [kept]

/-- The fields of two requests are handed over, and different names stay different,
exactly when each of them is one of PAP or has a name shorter than 256 bytes. -/
theorem handsOver_both_iff {other : Runtime} {first second : Attempt} (env otherEnv : Env)
    (valid : first.Valid runtime) (alsoValid : second.Valid other) :
    (first.HandsOver runtime env ∧ second.HandsOver other otherEnv ∧
        (first.login.username ≠ second.login.username -> first.name ≠ second.name)) ↔
      first.Whole ∧ second.Whole := by
  rw [← handsOver_iff_whole env valid, ← handsOver_iff_whole otherEnv alsoValid]
  constructor
  · rintro ⟨one, two, _⟩
    exact ⟨one, two⟩
  · rintro ⟨one, two⟩
    refine ⟨one, two, fun different => ?_⟩
    unfold name
    rw [one.stated, two.stated]
    exact different

end Attempt

theorem connected_session : ∃ session, connected.sessions.deref 0 = some session ∧
    forall protocol : AuthProtocol, protocol.started session = false := by
  have fresh : (connected.sessions.deref 0).any (fun session =>
      !session.auth.started && !session.chap.started) = true := by decide +kernel
  rcases (Option.any_eq_true _ _).mp fresh with ⟨session, found, both⟩
  rw [Bool.and_eq_true, Bool.not_eq_true', Bool.not_eq_true'] at both
  refine ⟨session, found, fun protocol => ?_⟩
  cases protocol with
  | pap => exact both.1
  | chap => exact both.2

/-- A CHAP Response whose name repeats one byte. -/
def repeatedName (session : PPPOESession) (count : Nat) (byte : UInt8) : Attempt where
  protocol := .chap
  ref := 0
  session := session
  sid := 1
  login := ⟨1, List.replicate count byte, List.replicate 16 0⟩

theorem valid_repeatedName {session : PPPOESession} (found : connected.sessions.deref 0 = some session)
    (fresh : forall protocol : AuthProtocol, protocol.started session = false) {count : Nat}
    (fits : count < 512) (byte : UInt8) : (repeatedName session count byte).Valid connected := by
  refine ⟨found, fresh .chap, List.length_replicate, ?_⟩
  unfold repeatedName sizeofPPPChapHdr
  rw [List.length_replicate]
  omega

/-- Names of 255 bytes are handed over and stay different. -/
theorem handsOver_longest : ∃ session, connected.sessions.deref 0 = some session ∧
    (repeatedName session 255 97).HandsOver connected {} ∧
    (repeatedName session 255 98).HandsOver connected {} ∧
    ((repeatedName session 255 97).login.username ≠ (repeatedName session 255 98).login.username ->
      (repeatedName session 255 97).name ≠ (repeatedName session 255 98).name) := by
  rcases connected_session with ⟨session, found, fresh⟩
  refine ⟨session, found, (Attempt.handsOver_both_iff {} {}
    (valid_repeatedName found fresh (by decide) 97)
    (valid_repeatedName found fresh (by decide) 98)).mpr ⟨.inr ?_, .inr ?_⟩⟩
  · exact lt_of_eq_of_lt List.length_replicate (by decide)
  · exact lt_of_eq_of_lt List.length_replicate (by decide)

/-- Different names of 256 bytes are both read as the empty name. -/
theorem names_confused : ∃ session, connected.sessions.deref 0 = some session ∧
    (repeatedName session 256 97).Valid connected ∧ (repeatedName session 256 98).Valid connected ∧
    (repeatedName session 256 97).login.username ≠ (repeatedName session 256 98).login.username ∧
    (repeatedName session 256 97).name = [] ∧ (repeatedName session 256 98).name = [] ∧
    ¬ (repeatedName session 256 97).HandsOver connected {} := by
  rcases connected_session with ⟨session, found, fresh⟩
  have valid (byte : UInt8) : (repeatedName session 256 byte).Valid connected :=
    valid_repeatedName found fresh (by decide) byte
  have empty (byte : UInt8) : (repeatedName session 256 byte).name = [] := by
    refine (congrArg Prod.fst (valid byte).read).trans ?_
    unfold repeatedName AuthProtocol.keptName
    rw [List.length_replicate]
    rfl
  refine ⟨session, found, valid 97, valid 98, ?_, empty 97, empty 98, fun hands => ?_⟩
  · intro same
    have bytes := congrArg (fun name => name.head?) same
    cases bytes
  · have stated := congrArg (fun handed => handed.1) hands.stated
    exact absurd ((empty 97).symm.trans stated) (List.ne_nil_of_mem List.mem_cons_self).symm

/-! ## Packets that are not requests -/

/-- `receive` returns, and AAA was not asked on the way. -/
def AsksNothing (runtime : Runtime) (env : Env) (ref : Nat) (protocol : AuthProtocol)
    (packet : Packet) : Prop :=
  ∃ after, runtime.receiveAuth protocol env ref packet = some after ∧
    after.log.filter Observation.isRequest = runtime.log.filter Observation.isRequest

theorem requests_callbacks (runtime : Runtime) (calls : List CallbackCall) :
    (runtime.callbacks calls).log.filter Observation.isRequest =
      runtime.log.filter Observation.isRequest := by
  unfold callbacks
  induction calls generalizing runtime with
  | nil => rfl
  | cons call rest inductionHypothesis =>
      refine (inductionHypothesis _).trans ?_
      have same : (runtime.withSession call.callback.session (call.callback.protocol.authCallback
          runtime.hwaddr call.sid call.err)).log = runtime.log :=
        @withSession_rule (fun later => later.log = runtime.log) _ _ _ rfl (fun _ _ => rfl)
      unfold callback observe
      dsimp only
      rw [List.filter_cons_of_neg (by exact Bool.false_ne_true), same]

/-- AAA is asked exactly when the packet is a request of a session that has not been
authenticated. -/
theorem asksNothing_iff (env : Env) (found : runtime.sessions.deref ref = some session) :
    runtime.AsksNothing env ref protocol packet ↔ ¬ protocol.Requests session packet := by
  constructor
  · rintro ⟨after, received, same⟩ requests
    rw [receiveAuth_of_requests found requests] at received
    rcases Option.map_eq_some_iff.mp received with ⟨outcome, _, equal⟩
    rw [← equal] at same
    have logged := requests_callbacks ((runtime.requested ref protocol
      (protocol.read session packet).1 session).withAaa outcome.1) outcome.2
    have sizes := congrArg List.length (logged.symm.trans same)
    have more : ((runtime.requested ref protocol (protocol.read session packet).1
        session).withAaa outcome.1).log.filter Observation.isRequest =
        .request ref protocol session.chap.challenge ::
          runtime.log.filter Observation.isRequest := rfl
    rw [more, List.length_cons] at sizes
    exact absurd sizes (Nat.succ_ne_self _)
  · intro other
    refine ⟨_, receiveAuth_of_not_requests found other, ?_⟩
    split
    · rfl
    · rfl

/-- A packet whose touched bytes lie inside the vector is handled alike, whatever the
memory behind it holds. -/
theorem receiveAuth_eq_of_inside {bytes : Bytes} {behind : Nat -> UInt8} (env : Env)
    (found : runtime.sessions.deref ref = some session)
    (inside : forall index, protocol.Touches session ⟨bytes, behind⟩ index -> index < bytes.length)
    (other : Nat -> UInt8) :
    runtime.receiveAuth protocol env ref ⟨bytes, behind⟩ =
      runtime.receiveAuth protocol env ref ⟨bytes, other⟩ := by
  have code : Packet.code ⟨bytes, behind⟩ = Packet.code ⟨bytes, other⟩ :=
    Buffer.read_eq bytes behind other (inside 8 (.inl rfl))
  by_cases requests : protocol.Requests session ⟨bytes, behind⟩
  · have again : protocol.Requests session ⟨bytes, other⟩ := ⟨code ▸ requests.1, requests.2⟩
    rw [receiveAuth_of_requests found requests, receiveAuth_of_requests found again,
      AuthProtocol.read_eq_of_inside (fun index field => inside index (.inr ⟨requests, field⟩))]
  · have still : ¬ protocol.Requests session ⟨bytes, other⟩ :=
      fun again => requests ⟨code ▸ again.1, again.2⟩
    rw [receiveAuth_of_not_requests found requests, receiveAuth_of_not_requests found still, code]

/-- `receive` stays inside the packet and drops an inconsistent one exactly when the
vector has the byte of the code and every request is consistent. -/
theorem receiveAuth_staysInside_iff (env : Env) (found : runtime.sessions.deref ref = some session) :
    StaysInside packet (protocol.Touches session packet) (protocol.Consistent packet)
        (runtime.AsksNothing env ref protocol packet) ↔
      8 < packet.bytes.length ∧
        (protocol.Requests session packet -> protocol.Consistent packet) := by
  constructor
  · intro stays
    refine ⟨stays.inside 8 (.inl rfl), fun requests => ?_⟩
    by_contra inconsistent
    exact (asksNothing_iff env found).mp (stays.refuses inconsistent) requests
  · rintro ⟨code, consistent⟩
    refine ⟨fun index touched => ?_, fun inconsistent => (asksNothing_iff env found).mpr ?_⟩
    · rcases touched with isCode | ⟨requests, field⟩
      · exact isCode ▸ code
      · exact AuthProtocol.lt_of_mem_fieldIndices (consistent requests) field
    · exact fun requests => inconsistent (consistent requests)

/-- A PAP request that is consistent with itself, and stays inside. -/
theorem staysInside_papRequest : ∃ session, StaysInside
    (receivedPacket (AuthProtocol.pap.request 1 ⟨1, [97], [98]⟩))
    (AuthProtocol.pap.Touches session (receivedPacket (AuthProtocol.pap.request 1 ⟨1, [97], [98]⟩)))
    (AuthProtocol.pap.Consistent (receivedPacket (AuthProtocol.pap.request 1 ⟨1, [97], [98]⟩)))
    (connected.AsksNothing {} 0 .pap
      (receivedPacket (AuthProtocol.pap.request 1 ⟨1, [97], [98]⟩))) := by
  rcases connected_session with ⟨session, found, _⟩
  exact ⟨session, (receiveAuth_staysInside_iff {} found).mpr ⟨by decide, fun _ => by decide⟩⟩

/-- A request that ends behind its header is read on behind its last byte, and AAA is
asked about what was found there. -/
theorem reads_behind_header : ∃ session, connected.sessions.deref 0 = some session ∧
    forall protocol : AuthProtocol, ¬ StaysInside
      (receivedPacket (protocol.requestHeader 1 1 4))
      (protocol.Touches session (receivedPacket (protocol.requestHeader 1 1 4)))
      (protocol.Consistent (receivedPacket (protocol.requestHeader 1 1 4)))
      (connected.AsksNothing {} 0 protocol (receivedPacket (protocol.requestHeader 1 1 4))) := by
  rcases connected_session with ⟨session, found, fresh⟩
  refine ⟨session, found, fun protocol stays => ?_⟩
  have outside : ∃ index ∈ protocol.fieldIndices (receivedPacket (protocol.requestHeader 1 1 4)),
      ¬ index < (receivedPacket (protocol.requestHeader 1 1 4)).bytes.length := by
    cases protocol with
    | pap => exact ⟨12, by decide, by decide⟩
    | chap => exact ⟨13, by decide, by decide⟩
  rcases outside with ⟨index, field, beyond⟩
  refine beyond (stays.inside index (.inr ⟨⟨?_, fresh protocol⟩, field⟩))
  cases protocol with
  | pap => rfl
  | chap => rfl

end

end Runtime

end Pppcpd
