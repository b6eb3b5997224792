import Pppcpd.Aaa.Admission
import Pppcpd.Foundation.Strategy
import Pppcpd.Runtime.DeadEnds

namespace Pppcpd

open Foundation

/-!
# The way of a session to Opened

The peer of a session and the server of AAA together open LCP, have the session
authenticated, and open IPCP.  Each of the three stages takes one or two
packets, whatever the daemon draws at random and whatever memory lies behind a
packet.  A session in a dead end has no such way.
-/

/-- What the peer and the server do: a frame, an answer, or silence until the
time of a request is over and its timer has run. -/
inductive Message
  | frame (encap : Encapsulation) (bytes : Bytes)
  | answer (datagram : Bytes)
  | expires (id : UInt8)
  | timeout (id : UInt8)

namespace Message

/-- The event of a message, with what the daemon draws and what lies behind the
bytes of a frame. -/
def event (chance : Env × (Nat -> UInt8)) : Message -> Event
  | .frame encap bytes =>
      { env := chance.1, input := .session encap { bytes := bytes, behind := chance.2 } }
  | .answer datagram => { env := chance.1, input := .authDatagram datagram }
  | .expires id => { env := chance.1, input := .authExpires id }
  | .timeout id => { env := chance.1, input := .authTimer id }

/-- Frames are for the session with the key. -/
def IsFor (key : PPPOEKey) : Message -> Prop
  | .frame encap bytes => forall behind, Runtime.frameKey encap ⟨bytes, behind⟩ = key
  | _ => True

end Message

namespace Runtime

/-- The session of the key is the object, and it is active. -/
def Lives (key : PPPOEKey) (ref : Nat) (runtime : Runtime) : Prop :=
  runtime.store.activeSessions.lookup key = some ref

instance (key : PPPOEKey) (ref : Nat) (runtime : Runtime) : Decidable (Lives key ref runtime) :=
  inferInstanceAs (Decidable (_ = _))

/-- Both automata of the session object are Opened. -/
def BothOpened (ref : Nat) (runtime : Runtime) : Prop :=
  ∃ session, runtime.sessions.deref ref = some session ∧
    session.lcp.state = .opened ∧ session.ipcp.state = .opened

/-- The peer and the server can open both automata of the session, and it lives
all the time. -/
def CanOpen (key : PPPOEKey) (ref : Nat) (runtime : Runtime) : Prop :=
  Forces step Message.event (Message.IsFor key) (Lives key ref) (BothOpened ref) runtime

/-- AAA would admit the session, if it has not done so. -/
def Admissible (ref : Nat) (aaa : AAA) (session : PPPOESession) : Prop :=
  session.ipcp.state = .initial -> aaa.Admits session.encap { session := ref, protocol := .pap }

/-- The session of the key is active, and its object and AAA are in a condition. -/
structure Holding (key : PPPOEKey) (ref : Nat) (condition : AAA -> PPPOESession -> Prop)
    (runtime : Runtime) : Prop where
  invariant : ProgressInvariant runtime
  lives : Lives key ref runtime
  session : ∃ session, runtime.sessions.deref ref = some session ∧ condition runtime.aaa session

variable {key : PPPOEKey} {ref : Nat} {runtime : Runtime}

/-- A message that leaves the tables alone and that does not stop IPCP. -/
theorem Holding.after {condition later : AAA -> PPPOESession -> Prop} {now after : Runtime}
    {event : Event} (holding : Holding key ref condition now)
    (taken : step now event = some after) (spares : SparesIpcp now event)
    (active : after.store.activeSessions = now.store.activeSessions)
    (session : ∃ session, after.sessions.deref ref = some session ∧ later after.aaa session) :
    Holding key ref later after where
  invariant := progressInvariant_step holding.invariant spares taken
  lives := by
    unfold Lives
    rw [active]
    exact holding.lives
  session := session

theorem Holding.mono {condition wider : AAA -> PPPOESession -> Prop}
    (holding : Holding key ref condition runtime)
    (implied : forall aaa session, condition aaa session -> wider aaa session) :
    Holding key ref wider runtime where
  invariant := holding.invariant
  lives := holding.lives
  session := holding.session.imp (fun session both => ⟨both.1, implied _ session both.2⟩)

/-- The object of the session, whose key says what its frames look like. -/
theorem Holding.link {condition : AAA -> PPPOESession -> Prop}
    (holding : Holding key ref condition runtime) :
    ∃ session, runtime.sessions.deref ref = some session ∧ condition runtime.aaa session ∧
      Proceeds session ∧ PPPOEKey.ofEncap session.encap session.sessionId = key := by
  rcases holding.session with ⟨session, found, there⟩
  rcases holding.invariant.references.tables.keyed key ref holding.lives with ⟨same, present, isKey⟩
  rw [found] at present
  rw [← Option.some.inj present] at isKey
  exact ⟨session, found, there,
    holding.invariant.sessions ref session ⟨key, holding.lives⟩ found, isKey⟩

/-- Frames that carry the number of a session are for it. -/
theorem frameKey_configurePacket {encap : Encapsulation} {sid : UInt16}
    (isKey : PPPOEKey.ofEncap encap sid = key) (proto : UInt16) (code identifier : UInt8)
    (options : List PPPOption) (behind : Nat -> UInt8) :
    frameKey encap ⟨configurePacket sid proto code identifier options, behind⟩ = key := by
  unfold frameKey
  rw [(configurePacket_fields sid proto code identifier options behind).1]
  exact isKey

/-- The peer sends a Configure packet: it is for the session and of its protocol,
whatever lies behind it. -/
theorem forces_configure {goal : Runtime -> Prop} (lives : Lives key ref runtime)
    {encap : Encapsulation} {sid : UInt16} (isKey : PPPOEKey.ofEncap encap sid = key)
    (proto : UInt16) (code identifier : UInt8) (options : List PPPOption)
    (goes : forall (env : Env) (behind : Nat -> UInt8),
      frameKey encap ⟨configurePacket sid proto code identifier options, behind⟩ = key ->
      Packet.pppProtocol ⟨configurePacket sid proto code identifier options, behind⟩ = proto ->
        ∃ after, step runtime ⟨env, .session encap
            ⟨configurePacket sid proto code identifier options, behind⟩⟩ = some after ∧
          Forces step Message.event (Message.IsFor key) (Lives key ref) goal after) :
    Forces step Message.event (Message.IsFor key) (Lives key ref) goal runtime := by
  have isFrame := frameKey_configurePacket isKey proto code identifier options
  refine .next (.frame encap (configurePacket sid proto code identifier options)) lives isFrame
    (fun chance => ?_)
  exact goes chance.1 chance.2 (isFrame chance.2) (configurePacket_fields _ _ _ _ _ chance.2).2

/-! ## LCP -/

/-- The session of a packet, after LCP was started for it. -/
def begun (env : Env) (runtime : Runtime) (session : PPPOESession) : PPPOESession :=
  if session.started then session
  else { ((runtime.lcpFsm env).start session).session with started := true }

theorem deref_ensureStarted {session : PPPOESession} (env : Env)
    (found : runtime.sessions.deref ref = some session) :
    (runtime.ensureStarted env ref).sessions.deref ref = some (begun env runtime session) := by
  unfold ensureStarted begun
  rw [withSession_eq found, deref_apply_self found]
  split <;> rfl

theorem begun_of_started {env : Env} {session : PPPOESession} (started : session.started = true) :
    begun env runtime session = session := by
  unfold begun
  rw [if_pos started]

/-- The start of LCP for a packet is one of the things that can happen to a
session. -/
theorem touch_begun (env : Env) (input : Input) (session : PPPOESession) :
    Touch runtime { env := env, input := input } session (begun env runtime session) := by
  unfold begun
  split
  · exact .aside rfl
  · rename_i notStarted
    exact .begins { hwaddr := runtime.hwaddr, lcpConf := runtime.lcpConf, random := env.random } rfl
      (Bool.eq_false_iff.mpr notStarted)

theorem started_begun (env : Env) (session : PPPOESession) :
    (begun env runtime session).started = true := by
  unfold begun
  split
  · assumption
  · rfl

/-- The start of LCP leaves IPCP and the link. -/
theorem begun_outside (env : Env) (session : PPPOESession) :
    (begun env runtime session).ipcp = session.ipcp ∧
      (begun env runtime session).encap = session.encap := by
  unfold begun
  split
  · exact ⟨rfl, rfl⟩
  · have outside := (lcpFsm_leaves runtime env).start session
    have ipcp := congrArg PPPOESession.ipcp outside
    have encap := congrArg PPPOESession.encap outside
    exact ⟨ipcp, encap⟩

/-- Where an authentication protocol is chosen, the opening of LCP leaves
everything but the challenge. -/
theorem kept_openAuth_of_chosen {View : Type} {view : PPPOESession -> View}
    (blind : forall challenge session,
      view { session with chap := { session.chap with challenge := challenge } } = view session)
    (chosen : runtime.lcpConf.authProtocol ≠ none) (env : Env) (ref : Nat) :
    Kept view runtime (runtime.openAuth env ref) := by
  unfold LCPPolicy.authProtocol at chosen
  unfold openAuth
  split
  · unfold openChap
    cases found : runtime.sessions.deref ref with
    | none => exact .refl runtime
    | some session =>
        dsimp only
        refine (kept_apply _ found ?_).trans (.of_same rfl rfl)
        exact blind _ session
  · rename_i noChap
    split
    · exact .refl runtime
    · rename_i noPap
      rw [if_neg noChap, if_neg noPap] at chosen
      exact absurd rfl chosen

/-- The states of the automata and the link. -/
def seat (session : PPPOESession) : PPPFsmState × PPPFsmState × Encapsulation :=
  (session.lcp.state, session.ipcp.state, session.encap)

/-- A packet of LCP that is handled without an error, and does not end the
session. -/
theorem lcp_move {condition : AAA -> PPPOESession -> Prop} {now : Runtime} {env : Env}
    {encap : Encapsulation} {packet : Packet} {session : PPPOESession} {out : FsmOut}
    (holding : Holding key ref condition now) (found : now.sessions.deref ref = some session)
    (admissible : Admissible ref now.aaa session) (isFrame : frameKey encap packet = key)
    (isLcp : packet.pppProtocol = PPPProto.lcp)
    (received : (now.lcpFsm env).receive (begun env now session) packet = some out)
    (noError : out.err = none) (stays : out.action ≠ .layerDown) :
    ∃ after, step now { env := env, input := .session encap packet } = some after ∧
      Holding key ref (fun aaa later => later.lcp.state = out.session.lcp.state ∧
        Admissible ref aaa later) after := by
  have there := deref_ensureStarted env found
  have same : (now.ensureStarted env ref).lcpFsm env = now.lcpFsm env := by
    unfold ensureStarted
    rw [withSession_eq found]
    rfl
  have chosen : ((now.ensureStarted env ref).apply ref out).lcpConf.authProtocol ≠ none := by
    unfold ensureStarted
    rw [withSession_eq found]
    exact holding.invariant.chosen
  have applied : ((now.ensureStarted env ref).apply ref out).sessions.deref ref = some out.session :=
    deref_apply_self there out
  -- Whether LCP opens or not, the tables stay and the session shows the same.
  have handled : ∃ after err, (now.ensureStarted env ref).dispatch env ref packet = some (after, err) ∧
      Kept seat ((now.ensureStarted env ref).apply ref out) after ∧
      after.aaa = (now.ensureStarted env ref).aaa := by
    unfold dispatch processLcp
    rw [if_pos isLcp, there, Option.bind_some, same, received, Option.map_some]
    dsimp only
    rw [noError]
    cases action : out.action with
    | none => exact ⟨_, _, rfl, .refl _, rfl⟩
    | layerUp =>
        refine ⟨_, _, rfl, kept_openAuth_of_chosen (fun _ _ => rfl) chosen env ref, ?_⟩
        rw [aaa_openAuth]
        rfl
    | layerDown => exact absurd action stays
  rcases handled with ⟨after, err, dispatched, kept, aaa⟩
  rcases kept.session applied with ⟨later, present, view⟩
  rcases @begun_outside now env session with ⟨ipcp, encapsulation⟩
  have outside := (lcpFsm_leaves now env).receive received
  have lcpState : later.lcp.state = out.session.lcp.state := congrArg Prod.fst view
  have ipcpState : later.ipcp.state = session.ipcp.state := by
    have moved := congrArg (fun session => session.ipcp.state) outside
    exact (congrArg (fun view => view.2.1) view).trans (moved.trans (congrArg PPPFsm.state ipcp))
  have link : later.encap = session.encap := by
    have moved := congrArg PPPOESession.encap outside
    exact (congrArg (fun view => view.2.2) view).trans (moved.trans encapsulation)
  have taken : step now { env := env, input := .session encap packet } = some after := by
    unfold step processPPP
    dsimp only
    rw [isFrame, holding.lives]
    dsimp only
    rw [dispatched]
    rfl
  refine ⟨after, taken, holding.after taken ?_ ?_ ⟨later, present, lcpState, ?_⟩⟩
  · intro isIpcp
    rw [isLcp] at isIpcp
    exact absurd isIpcp (by decide)
  · rw [kept.active]
    exact (kept_ensureStarted lcpBlind_key now env ref).active
  · intro initial
    rw [aaa, aaa_ensureStarted, link]
    exact admissible (ipcpState.symm.trans initial)

theorem negotiates_begun {session : PPPOESession} (proceeds : Proceeds session)
    (chosen : runtime.lcpConf.authProtocol ≠ none) (env : Env) :
    (begun env runtime session).lcp.state.Negotiates := by
  have spares : SparesIpcp runtime { env := env, input := .periodic } := trivial
  exact (proceeds.touch chosen spares (touch_begun env .periodic session)).lcp
    (started_begun env session)

theorem begun_not_opened {session : PPPOESession} (found : runtime.sessions.deref ref = some session)
    (notOpened : session.lcp.state ≠ .opened) (env : Env) :
    (begun env runtime session).lcp.state ≠ .opened := by
  rcases ensureStarted_session env found with ⟨later, there, unchanged⟩
  rw [deref_ensureStarted env found] at there
  intro opened
  rw [← Option.some.inj there] at unchanged
  have same := unchanged opened
  rw [same] at opened
  exact notOpened opened

/-- The peer's acknowledgement opens LCP when it has acknowledged the peer's
request. -/
theorem forces_lcp_ack (holding : Holding key ref (fun aaa session =>
      session.lcp.state = .ackSent ∧ Admissible ref aaa session) runtime) :
    Forces step Message.event (Message.IsFor key) (Lives key ref)
      (Holding key ref (fun aaa session => session.lcp.state = .opened ∧ Admissible ref aaa session))
      runtime := by
  rcases holding.link with ⟨session, found, ⟨ackSent, admissible⟩, proceeds, isKey⟩
  have started : session.started = true := by
    by_contra waits
    rw [proceeds.waiting (Bool.eq_false_iff.mpr waits)] at ackSent
    cases ackSent
  have isAck : Configures (peerAck session.sessionId PPPProto.lcp session.lcp.pktId)
      session.sessionId PPPProto.lcp LCPCode.confAck session.lcp.pktId [] := configures_configurePacket _ _ _ _ (by decide)
  refine forces_configure holding.lives isKey PPPProto.lcp LCPCode.confAck session.lcp.pktId [] ?_
  intro env behind isFrame isLcp
  rcases FsmClass.receive_of_ack (lcpFsm_lawful runtime env) ackSent (isAck.code behind)
    (isAck.identifier behind) with ⟨out, received, noError, action, opened⟩
  have begins : (runtime.lcpFsm env).receive (begun env runtime session)
      ⟨peerAck session.sessionId PPPProto.lcp session.lcp.pktId, behind⟩ = some out := by
    rw [begun_of_started started]
    exact received
  rcases lcp_move holding found admissible isFrame isLcp begins noError
    (by rw [action]; decide) with ⟨after, taken, later⟩
  have isOpened : out.session.lcp.state = .opened := opened
  rw [isOpened] at later
  exact ⟨after, taken, .reached later.lives later⟩

/-- The first stage: LCP is opened. -/
theorem forces_lcp (holding : Holding key ref (Admissible ref) runtime) :
    Forces step Message.event (Message.IsFor key) (Lives key ref)
      (Holding key ref (fun aaa session => session.lcp.state = .opened ∧ Admissible ref aaa session))
      runtime := by
  rcases holding.link with ⟨session, found, admissible, proceeds, isKey⟩
  by_cases opened : session.lcp.state = .opened
  · exact .reached holding.lives ⟨holding.invariant, holding.lives, session, found, opened,
      admissible⟩
  · refine forces_configure holding.lives isKey PPPProto.lcp LCPCode.confReq 1 [LCPFsm.mruOption] ?_
    intro env behind isFrame isLcp
    have accepts := LCPFsm.accepts_peerRequest
      { hwaddr := runtime.hwaddr, lcpConf := runtime.lcpConf, random := env.random }
      (begun env runtime session) session.sessionId PPPProto.lcp behind
    rcases FsmClass.receive_of_accepts (lcpFsm_lawful runtime env) accepts
      (negotiates_begun proceeds holding.invariant.chosen env)
      (begun_not_opened found opened env) with ⟨out, received, noError, outcome⟩
    rcases outcome with ⟨isOpened, action⟩ | ⟨ackSent, action⟩
    · rcases lcp_move holding found admissible isFrame isLcp received noError
        (by rw [action]; decide) with ⟨after, taken, later⟩
      rw [show out.session.lcp.state = .opened from isOpened] at later
      exact ⟨after, taken, .reached later.lives later⟩
    · rcases lcp_move holding found admissible isFrame isLcp received noError
        (by rw [action]; decide) with ⟨after, taken, later⟩
      rw [show out.session.lcp.state = .ackSent from ackSent] at later
      exact ⟨after, taken, forces_lcp_ack later⟩

/-! ## Authentication -/

/-- What AAA reports leaves LCP and the link of a session, and a success starts
its IPCP. -/
structure Informed (granted : Prop) (old session : PPPOESession) : Prop where
  lcp : session.lcp = old.lcp
  encap : session.encap = old.encap
  ipcp : old.ipcp.state ≠ .initial ∨ granted -> session.ipcp.state ≠ .initial

theorem informed_callback {session : PPPOESession} (found : runtime.sessions.deref ref = some session)
    (call : CallbackCall) : ∃ later, (runtime.callback call).sessions.deref ref = some later ∧
      Informed (call.callback.session = ref ∧ call.err = none) session later := by
  by_cases here : call.callback.session = ref
  · have called : (runtime.callback call).sessions.deref ref =
        some (call.callback.protocol.authCallback runtime.hwaddr call.sid call.err session).session := by
      unfold callback
      rw [here, withSession_eq found]
      exact deref_apply_self found _
    have outside := AuthProtocol.authCallback_outside runtime.hwaddr call.callback.protocol call.sid
      call.err session
    have lcp := congrArg PPPOESession.lcp outside
    have encap := congrArg PPPOESession.encap outside
    refine ⟨_, called, lcp, encap, fun left => ?_⟩
    cases result : call.err with
    | none => exact (authCallback_success runtime.hwaddr call.callback.protocol call.sid session).2.2
    | some text =>
        rw [result] at left
        rcases left with already | ⟨_, success⟩
        · exact already
        · cases success
  · refine ⟨session, ?_, rfl, rfl, fun left => left.resolve_right (fun both => here both.1)⟩
    unfold callback withSession
    cases target : runtime.sessions.deref call.callback.session with
    | none => exact found
    | some object => exact (deref_apply_of_ne runtime (fun same => here same.symm) _).trans found

theorem informed_callbacks {session : PPPOESession} (found : runtime.sessions.deref ref = some session)
    (calls : List CallbackCall) : ∃ later, (runtime.callbacks calls).sessions.deref ref = some later ∧
      Informed (∃ call, call ∈ calls ∧ call.callback.session = ref ∧ call.err = none) session later := by
  unfold callbacks
  induction calls generalizing runtime session with
  | nil =>
      refine ⟨session, found, rfl, rfl, fun left => left.resolve_right ?_⟩
      rintro ⟨call, member, _⟩
      cases member
  | cons call rest inductionHypothesis =>
      rcases informed_callback found call with ⟨middle, between, first⟩
      rcases inductionHypothesis between with ⟨later, there, second⟩
      refine ⟨later, there, second.lcp.trans first.lcp, second.encap.trans first.encap, ?_⟩
      rintro (already | ⟨granting, member, isCall⟩)
      · exact second.ipcp (.inl (first.ipcp (.inl already)))
      · rcases List.mem_cons.mp member with same | behind
        · rw [same] at isCall
          exact second.ipcp (.inl (first.ipcp (.inr isCall)))
        · exact second.ipcp (.inr ⟨granting, behind, isCall⟩)

/-- An event of AAA, for a session whose LCP is Opened. -/
theorem calls_move {condition : AAA -> PPPOESession -> Prop} {now before : Runtime} {event : Event}
    {session : PPPOESession} {outcome : AAA × List CallbackCall}
    (holding : Holding key ref condition now)
    (taken : step now event = some (before.withCalls outcome)) (spares : SparesIpcp now event)
    (active : before.store.activeSessions = now.store.activeSessions)
    (found : before.sessions.deref ref = some session) (opened : session.lcp.state = .opened) :
    Holding key ref (fun aaa later => aaa = outcome.1 ∧ later.lcp.state = .opened ∧
      later.encap = session.encap ∧
        (AAA.Grants ⟨ref, .pap⟩ outcome.2 -> later.ipcp.state ≠ .initial))
      (before.withCalls outcome) := by
  have there : (before.withAaa outcome.1).sessions.deref ref = some session := found
  rcases informed_callbacks there outcome.2 with ⟨later, present, informed⟩
  refine holding.after taken spares ?_
    ⟨later, present, aaa_callbacks _ outcome.2, ?_, informed.encap, ?_⟩
  · exact (kept_withCalls authBlind_key before outcome).active.trans active
  · rw [informed.lcp]
    exact opened
  · rintro ⟨call, member, isOurs, success⟩
    exact informed.ipcp (.inr ⟨call, member, congrArg AAACallback.session isOurs, success⟩)

/-- An Authenticate-Request of the peer, with an empty name and password. -/
def peerLogin (sid : UInt16) : Bytes :=
  pppoeSessionHdr sid 8 PPPProto.pap ++ pppHdr PAPCode.authenticateReq 1 6 ++ [0, 0]

theorem peerLogin_fields (sid : UInt16) (behind : Nat -> UInt8) :
    Packet.pppoeSessionId ⟨peerLogin sid, behind⟩ = sid ∧
      Packet.pppProtocol ⟨peerLogin sid, behind⟩ = PPPProto.pap ∧
      Packet.code ⟨peerLogin sid, behind⟩ = PAPCode.authenticateReq ∧
      PAPRequest.parse ⟨peerLogin sid, behind⟩ = ⟨[], []⟩ :=
  ⟨be16_bytes16 sid, be16_bytes16 PPPProto.pap, rfl, rfl⟩

/-- The daemon hands the request to AAA. -/
theorem login_taken {now : Runtime} {env : Env} {encap : Encapsulation} {sid : UInt16}
    {behind : Nat -> UInt8} {session : PPPOESession} {started : AAA × List CallbackCall}
    (lives : Lives key ref now) (found : now.sessions.deref ref = some session)
    (isFrame : frameKey encap ⟨peerLogin sid, behind⟩ = key) (began : session.started = true)
    (fresh : session.auth.started = false)
    (asked : now.aaa.startSession env.aaa [] (.pap []) session.encap ⟨ref, .pap⟩ = some started) :
    step now { env := env, input := .session encap ⟨peerLogin sid, behind⟩ } =
      some (((now.ensureStarted env ref).requested ref .pap [] session).withCalls started) := by
  have there := deref_ensureStarted env found
  rw [begun_of_started began] at there
  rcases peerLogin_fields sid behind with ⟨_, isPap, isRequest, parsed⟩
  unfold step processPPP
  dsimp only
  rw [isFrame, lives]
  dsimp only
  unfold dispatch processPap
  rw [isPap, if_neg (by decide), if_pos rfl, if_pos isRequest, parsed]
  unfold recvAuthReq
  rw [there, Option.bind_some]
  rw [if_neg (by rw [show AuthProtocol.pap.started session = false from fresh]; decide)]
  dsimp only
  rw [show (((now.ensureStarted env ref).apply ref (PPPOESession.done
    { session with username := [] })).observe (.request ref .pap session.chap.challenge)).aaa =
      now.aaa from aaa_ensureStarted now env ref, asked]
  rfl

theorem step_authDatagram {now : Runtime} (env : Env) {datagram : Bytes}
    {outcome : AAA × List CallbackCall}
    (received : now.aaa.authDatagram env.aaa datagram = some outcome) :
    step now { env := env, input := .authDatagram datagram } = some (now.withCalls outcome) := by
  unfold step
  dsimp only
  rw [received]
  rfl

theorem step_authTimer {now : Runtime} (env : Env) {id : UInt8} {outcome : AAA × List CallbackCall}
    (fired : now.aaa.authTimer id = some outcome) :
    step now { env := env, input := .authTimer id } = some (now.withCalls outcome) := by
  unfold step
  dsimp only
  rw [fired]
  rfl

/-- What the stage of the authentication leads to. -/
def Authenticated (_ : AAA) (session : PPPOESession) : Prop :=
  session.lcp.state = .opened ∧ session.ipcp.state ≠ .initial

theorem started_of_opened {session : PPPOESession} (proceeds : Proceeds session)
    (opened : session.lcp.state = .opened) : session.started = true := by
  by_contra waits
  rw [proceeds.waiting (Bool.eq_false_iff.mpr waits)] at opened
  cases opened

/-- The second stage: AAA admits the session. -/
theorem forces_admission {aaa : AAA} {encap : Encapsulation} (admits : aaa.Admits encap ⟨ref, .pap⟩)
    {now : Runtime} (holding : Holding key ref (fun current session => current = aaa ∧
      session.lcp.state = .opened ∧ session.encap = encap) now) :
    Forces step Message.event (Message.IsFor key) (Lives key ref)
      (Holding key ref Authenticated) now := by
  induction admits generalizing now with
  | @request aaa outcome =>
      rcases holding.link with ⟨session, found, ⟨isAaa, opened, link⟩, proceeds, isKey⟩
      by_cases initial : session.ipcp.state = .initial
      · have isFrame : forall behind,
            frameKey session.encap ⟨peerLogin session.sessionId, behind⟩ = key := by
          intro behind
          unfold frameKey
          rw [(peerLogin_fields session.sessionId behind).1]
          exact isKey
        have fresh : session.auth.started = false :=
          Bool.eq_false_iff.mpr (fun was => proceeds.authenticated .pap was initial)
        refine .next (.frame session.encap (peerLogin session.sessionId)) holding.lives isFrame
          (fun chance => ?_)
        rcases chance with ⟨env, behind⟩
        rcases outcome env.aaa with ⟨started, calls, asked, granted⟩
        rw [← isAaa, ← link] at asked
        have taken := login_taken holding.lives found (isFrame behind)
          (started_of_opened proceeds opened) fresh asked
        have spares : SparesIpcp now
            { env := env, input := .session session.encap ⟨peerLogin session.sessionId, behind⟩ } := by
          intro isIpcp
          rw [(peerLogin_fields session.sessionId behind).2.1] at isIpcp
          exact absurd isIpcp (by decide)
        have there := deref_ensureStarted env found
        rw [begun_of_started (started_of_opened proceeds opened)] at there
        have later := calls_move holding taken spares
          (kept_ensureStarted lcpBlind_key now env ref).active (deref_apply_self there _) opened
        refine ⟨_, taken, ?_⟩
        rcases granted with grants | ⟨datagram, answers⟩
        · exact .reached later.lives (later.mono (fun _ _ now => ⟨now.2.1, now.2.2.2 grants⟩))
        · rcases later.session with ⟨object, present, isStarted, stillOpened, _⟩
          refine .next (.answer datagram) later.lives trivial (fun chance => ?_)
          rcases answers chance.1.aaa with ⟨answered, successes, received, grants⟩
          have handled := step_authDatagram chance.1
            ((congrArg (AAA.authDatagram chance.1.aaa datagram) isStarted).trans received)
          have admitted := calls_move later handled trivial rfl present stillOpened
          exact ⟨_, handled, .reached admitted.lives
            (admitted.mono (fun _ _ now => ⟨now.2.1, now.2.2.2 grants⟩))⟩
      · exact .reached holding.lives ⟨holding.invariant, holding.lives, session, found, opened, initial⟩
  | @silence aaa after calls id timedOut _ inductionHypothesis =>
      rcases holding.link with ⟨session, found, ⟨isAaa, opened, link⟩, _⟩
      refine .next (.expires id) holding.lives trivial (fun chance => ⟨_, rfl, ?_⟩)
      have waiting : Holding key ref (fun current session => current = aaa.authExpires id ∧
          session.lcp.state = .opened ∧ session.encap = encap)
          (now.withAaa (now.aaa.authExpires id)) :=
        @Holding.after _ _ _ _ _ _ (Message.event chance (.expires id)) holding rfl trivial rfl
          ⟨session, found, congrArg (AAA.authExpires id) isAaa, opened, link⟩
      refine .next (.timeout id) waiting.lives trivial (fun chance => ?_)
      rw [← isAaa] at timedOut
      have handled := @step_authTimer (now.withAaa (now.aaa.authExpires id)) chance.1 id _ timedOut
      have later := calls_move waiting handled trivial rfl found opened
      exact ⟨_, handled, inductionHypothesis
        (later.mono (fun _ _ now => ⟨now.1, now.2.1, now.2.2.1.trans link⟩))⟩

/-! ## IPCP -/

theorem step_ipcp {now : Runtime} (env : Env) {encap : Encapsulation} {packet : Packet}
    (lives : Lives (frameKey encap packet) ref now) (isIpcp : packet.pppProtocol = PPPProto.ipcp) :
    step now { env := env, input := .session encap packet } =
      (now.ensureStarted env ref).processIpcp ref packet := by
  unfold step processPPP
  dsimp only
  rw [lives]
  dsimp only
  unfold dispatch
  rw [isIpcp, if_neg (by decide), if_neg (by decide), if_neg (by decide), if_pos rfl, Option.map_map]
  exact Option.map_id'

/-- A packet of IPCP that is handled, and does not terminate it. -/
theorem ipcp_move {condition : AAA -> PPPOESession -> Prop} {now : Runtime} (env : Env)
    {encap : Encapsulation} {packet : Packet} {session : PPPOESession} {out : FsmOut}
    (holding : Holding key ref condition now) (found : now.sessions.deref ref = some session)
    (began : session.started = true) (isFrame : frameKey encap packet = key)
    (isIpcp : packet.pppProtocol = PPPProto.ipcp) (notTerm : packet.code ≠ LCPCode.termReq)
    (received : now.ipcpFsm.receive session packet = some out) :
    ∃ after, step now { env := env, input := .session encap packet } = some after ∧
      Holding key ref (fun _ later => later.lcp.state = session.lcp.state ∧
        later.ipcp.state = out.session.ipcp.state) after := by
  have there := deref_ensureStarted env found
  rw [begun_of_started began] at there
  have same : (now.ensureStarted env ref).ipcpFsm = now.ipcpFsm := by
    unfold ensureStarted
    rw [withSession_eq found]
    rfl
  have applied : ((now.ensureStarted env ref).apply ref out).sessions.deref ref = some out.session :=
    deref_apply_self there out
  have handled : ∃ after, (now.ensureStarted env ref).processIpcp ref packet = some after ∧
      Kept seat ((now.ensureStarted env ref).apply ref out) after := by
    unfold processIpcp
    rw [there, Option.bind_some, same, received, Option.map_some]
    dsimp only
    split
    · exact ⟨_, rfl, kept_openDataPlane ⟨fun _ _ => rfl, fun _ _ => rfl⟩ _ ref out.session⟩
    · exact ⟨_, rfl, .refl _⟩
  rcases handled with ⟨after, processed, kept⟩
  rcases kept.session applied with ⟨later, present, view⟩
  have outside := (ipcpFsm_leaves now).receive received
  have lcp : later.lcp.state = session.lcp.state := by
    have moved := congrArg (fun session => session.lcp.state) outside
    exact (congrArg Prod.fst view).trans moved
  have ipcp : later.ipcp.state = out.session.ipcp.state := congrArg (fun view => view.2.1) view
  have taken : step now { env := env, input := .session encap packet } = some after :=
    (step_ipcp env (isFrame.symm ▸ holding.lives) isIpcp).trans processed
  refine ⟨after, taken, holding.after taken (fun _ isTerm => absurd isTerm notTerm) ?_
    ⟨later, present, lcp, ipcp⟩⟩
  rw [kept.active]
  exact (kept_ensureStarted lcpBlind_key now env ref).active

/-- The peer's acknowledgement opens IPCP when it has acknowledged the peer's
request. -/
theorem forces_ipcp_ack (holding : Holding key ref (fun _ session =>
      session.lcp.state = .opened ∧ session.ipcp.state = .ackSent) runtime) :
    Forces step Message.event (Message.IsFor key) (Lives key ref) (BothOpened ref) runtime := by
  rcases holding.link with ⟨session, found, ⟨lcpOpened, ackSent⟩, proceeds, isKey⟩
  have isAck : Configures (peerAck session.sessionId PPPProto.ipcp session.ipcp.pktId)
      session.sessionId PPPProto.ipcp LCPCode.confAck session.ipcp.pktId [] := configures_configurePacket _ _ _ _ (by decide)
  refine forces_configure holding.lives isKey PPPProto.ipcp LCPCode.confAck session.ipcp.pktId [] ?_
  intro env behind isFrame isIpcp
  rcases FsmClass.receive_of_ack (ipcpFsm_lawful runtime) ackSent (isAck.code behind)
    (isAck.identifier behind) with ⟨out, received, _, _, opened⟩
  have notTerm : Packet.code ⟨peerAck session.sessionId PPPProto.ipcp session.ipcp.pktId, behind⟩ ≠
      LCPCode.termReq := by
    rw [isAck.code behind]
    decide
  rcases ipcp_move env holding found (started_of_opened proceeds lcpOpened) isFrame isIpcp notTerm
    received with ⟨after, taken, later⟩
  rcases later.session with ⟨object, present, lcp, ipcp⟩
  exact ⟨after, taken, .reached later.lives
    ⟨object, present, lcp.trans lcpOpened, ipcp.trans opened⟩⟩

/-- An AAA session that a session names can be asked for its address. -/
theorem exists_getSession {session : PPPOESession} (references : ReferenceInvariant runtime)
    (active : runtime.store.activeSessions.Holds ref) (found : runtime.sessions.deref ref = some session)
    (named : session.aaaSessionId ≠ uint32Max) :
    ∃ record, runtime.aaa.getSession session.aaaSessionId = some record := by
  rcases (references.law.named ref session active found).resolve_left named with
    ⟨entry, record, isEntry, isRecord, _⟩
  refine ⟨record, ?_⟩
  unfold AAA.getSession
  rw [isEntry, Option.bind_some, isRecord]

/-- The third stage: IPCP is opened. -/
theorem forces_ipcp (holding : Holding key ref Authenticated runtime) :
    Forces step Message.event (Message.IsFor key) (Lives key ref) (BothOpened ref) runtime := by
  rcases holding.link with ⟨session, found, ⟨lcpOpened, left⟩, proceeds, isKey⟩
  by_cases opened : session.ipcp.state = .opened
  · exact .reached holding.lives ⟨session, found, lcpOpened, opened⟩
  · rcases proceeds.ipcp left with ⟨negotiates, named⟩
    rcases exists_getSession holding.invariant.references ⟨key, holding.lives⟩ found named with
      ⟨record, isSession⟩
    refine forces_configure holding.lives isKey PPPProto.ipcp LCPCode.confReq 1
      [.of32 IPCPOption.ipAddress record.address] ?_
    intro env behind isFrame isIpcp
    have accepts := IPCPFsm.accepts_peerRequest runtime.hwaddr isSession session.sessionId
      PPPProto.ipcp behind
    rcases FsmClass.receive_of_accepts (ipcpFsm_lawful runtime) accepts negotiates opened with
      ⟨out, received, _, outcome⟩
    have notTerm : Packet.code ⟨peerRequest session.sessionId PPPProto.ipcp
        (.of32 IPCPOption.ipAddress record.address), behind⟩ ≠ LCPCode.termReq := by
      rw [accepts.1]
      decide
    rcases ipcp_move env holding found (started_of_opened proceeds lcpOpened) isFrame isIpcp notTerm
      received with ⟨after, taken, later⟩
    refine ⟨after, taken, ?_⟩
    rcases outcome with ⟨isOpened, _⟩ | ⟨ackSent, _⟩
    · rcases later.session with ⟨object, present, lcp, ipcp⟩
      exact .reached later.lives ⟨object, present, lcp.trans lcpOpened, ipcp.trans isOpened⟩
    · exact forces_ipcp_ack (later.mono (fun _ _ both =>
        ⟨both.1.trans lcpOpened, both.2.trans ackSent⟩))

end Runtime

end Pppcpd
