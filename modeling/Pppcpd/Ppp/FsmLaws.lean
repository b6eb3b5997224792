import Pppcpd.Ppp.Auth

namespace Pppcpd

open Foundation

/-!
# What the automata do to a session

Two kinds of facts are needed about an automaton.  It touches only its own part
of the session: `Leaves` says that a view of the session is the same after
every method.  And it reports exactly how its state moves: `Lawful` lists what
is asked of the virtual methods, and `receive_cases` derives from it what one
packet can do.
-/

/-- A packet that makes an automaton in the state Opened leave it. -/
def FsmClass.leavesOpened (protocol : FsmClass) (session : PPPOESession) (packet : Packet) : Prop :=
  packet.code = LCPCode.confReq ∨ packet.code = LCPCode.termReq ∨
    packet.code = LCPCode.confAck ∧ packet.identifier = (protocol.fsm session).pktId

instance (protocol : FsmClass) (session : PPPOESession) (packet : Packet) :
    Decidable (protocol.leavesOpened session packet) :=
  inferInstanceAs (Decidable (_ ∨ _ ∨ _))

namespace FsmAccess

/-- Writing the automaton back leaves a view of the session alone. -/
def Leaves {View : Type} (access : FsmAccess) (view : PPPOESession -> View) : Prop :=
  forall session fsm, view (access.setFsm session fsm) = view session

/-- What is written is what is read. -/
def Lawful (access : FsmAccess) : Prop :=
  forall session fsm, access.fsm (access.setFsm session fsm) = fsm

variable {View : Type} {access : FsmAccess} {view : PPPOESession -> View}

theorem Leaves.setState (leaves : access.Leaves view) (session : PPPOESession)
    (state : PPPFsmState) : view (access.setState session state) = view session :=
  leaves session _

theorem Leaves.acceptConf (leaves : access.Leaves view) (hwaddr : Mac) (session : PPPOESession)
    (packet : Packet) : view (access.acceptConf hwaddr session packet).session = view session :=
  leaves session _

theorem Leaves.refuseState (leaves : access.Leaves view) (session : PPPOESession) :
    view (access.refuseState session) = view session := by
  unfold FsmAccess.refuseState
  split
  · rfl
  · exact leaves.setState session _

theorem Lawful.state_setState (lawful : access.Lawful) (session : PPPOESession)
    (state : PPPFsmState) : access.state (access.setState session state) = state :=
  congrArg PPPFsm.state (lawful session _)

end FsmAccess

/-- Every virtual method leaves a view of the session alone. -/
structure FsmClass.Leaves {View : Type} (protocol : FsmClass) (view : PPPOESession -> View) :
    Prop where
  setFsm : protocol.toFsmAccess.Leaves view
  sendConfReq : forall session, view (protocol.sendConfReq session).session = view session
  checkConf : forall session packet out, protocol.checkConf session packet = some out ->
    view out.session = view session
  sendTermAck : forall session packet, view (protocol.sendTermAck session packet).session = view session
  sendEchoRep : forall session packet, view (protocol.sendEchoRep session packet).session = view session
  recvEchoRep : forall session packet, view (protocol.recvEchoRep session packet).session = view session

namespace FsmClass.Leaves

variable {View : Type} {protocol : FsmClass} {view : PPPOESession -> View}

theorem requestOrLog (leaves : protocol.Leaves view) (session : PPPOESession) :
    view (protocol.requestOrLog session).session = view session := by
  unfold FsmClass.requestOrLog
  dsimp only
  split
  · exact leaves.sendConfReq session
  · exact (leaves.setFsm.setState _ _).trans (leaves.sendConfReq session)

theorem openFsm (leaves : protocol.Leaves view) (session : PPPOESession) :
    view (protocol.openFsm session).session = view session := by
  unfold FsmClass.openFsm
  split
  · exact leaves.setFsm.setState session _
  · exact leaves.requestOrLog session
  · exact leaves.setFsm.setState session _
  · rfl

theorem layerUp (leaves : protocol.Leaves view) (session : PPPOESession) :
    view (protocol.layerUp session).session = view session := by
  unfold FsmClass.layerUp
  split
  · exact leaves.setFsm.setState session _
  · exact leaves.requestOrLog session
  · rfl

theorem start (leaves : protocol.Leaves view) (session : PPPOESession) :
    view (protocol.start session).session = view session :=
  (leaves.layerUp _).trans (leaves.openFsm session)

theorem recvConfReq (leaves : protocol.Leaves view) {session : PPPOESession} {packet : Packet}
    {out : FsmOut} (received : protocol.recvConfReq session packet = some out) :
    view out.session = view session := by
  unfold FsmClass.recvConfReq at received
  split at received
  · rw [← Option.some.inj received]
    rfl
  · rw [← Option.some.inj received]
    rfl
  · rw [← Option.some.inj received]
    rfl
  · rw [← Option.some.inj received]
    exact (leaves.setFsm.setState _ _).trans (leaves.sendConfReq session)
  · rcases Option.map_eq_some_iff.mp received with ⟨checked, returned, equal⟩
    rw [← equal]
    exact (leaves.checkConf _ _ _ returned).trans
      ((leaves.setFsm.setState _ _).trans (leaves.sendConfReq session))
  · exact leaves.checkConf _ _ _ received

theorem recvConfAck (leaves : protocol.Leaves view) (session : PPPOESession) (packet : Packet) :
    view (protocol.recvConfAck session packet).session = view session := by
  unfold FsmClass.recvConfAck
  split
  · rfl
  · dsimp only
    split
    · exact (leaves.setFsm.setState _ _).trans (leaves.setFsm session _)
    · exact (leaves.setFsm.setState _ _).trans (leaves.setFsm session _)
    · exact (leaves.setFsm.setState _ _).trans
        ((leaves.sendConfReq _).trans (leaves.setFsm session _))
    · exact leaves.setFsm session _

theorem recvTermReq (leaves : protocol.Leaves view) (session : PPPOESession) (packet : Packet) :
    view (protocol.recvTermReq session packet).session = view session := by
  unfold FsmClass.recvTermReq
  split
  · exact (leaves.sendTermAck _ _).trans (leaves.setFsm.setState _ _)
  · exact (leaves.sendTermAck _ _).trans (leaves.setFsm.setState _ _)
  · exact (leaves.sendTermAck _ _).trans (leaves.setFsm.setState _ _)
  · exact leaves.sendTermAck _ _

/-- A packet leaves alone what every virtual method leaves alone. -/
theorem receive (leaves : protocol.Leaves view) {session : PPPOESession} {packet : Packet}
    {out : FsmOut} (received : protocol.receive session packet = some out) :
    view out.session = view session := by
  unfold FsmClass.receive at received
  dsimp only at received
  split at received
  · rw [← Option.some.inj received]
    rfl
  · split at received
    · exact leaves.recvConfReq received
    · split at received
      · rw [← Option.some.inj received]
        exact leaves.recvConfAck session packet
      · split at received
        · rw [← Option.some.inj received]
          exact leaves.recvTermReq session packet
        · split at received
          · rw [← Option.some.inj received]
            exact leaves.sendEchoRep session packet
          · split at received
            · rw [← Option.some.inj received]
              exact leaves.recvEchoRep session packet
            · rw [← Option.some.inj received]
              rfl

end FsmClass.Leaves

/-! ## Moves of the state -/

/-- How the state of an automaton can move in one call, and what the call then
reports: it opens and says so, it stays away from Opened and says nothing, or
it was open and leaves or stays. -/
inductive StateMove : PPPFsmState -> PPPFsmState -> PPPFsmAction -> Option String -> Prop
  | opens {before : PPPFsmState} : before ≠ .opened -> before ≠ .initial ->
      StateMove before .opened .layerUp none
  | stays {before after : PPPFsmState} {err : Option String} : before ≠ .opened ->
      after ≠ .opened -> (after = .initial ↔ before = .initial) ->
      StateMove before after .none err
  | leaves {after : PPPFsmState} : after ≠ .opened -> after ≠ .initial ->
      StateMove .opened after .layerDown none
  | remains {err : Option String} : StateMove .opened .opened .none err

/-- A call that reports the layer up has opened the automaton. -/
theorem StateMove.of_layerUp {before after : PPPFsmState} {err : Option String}
    (move : StateMove before after .layerUp err) :
    before ≠ .opened ∧ before ≠ .initial ∧ after = .opened ∧ err = none := by
  cases move with
  | opens notOpened notInitial => exact ⟨notOpened, notInitial, rfl, rfl⟩

/-- A call that reports the layer down has left Opened. -/
theorem StateMove.of_layerDown {before after : PPPFsmState} {err : Option String}
    (move : StateMove before after .layerDown err) :
    before = .opened ∧ after ≠ .opened ∧ after ≠ .initial ∧ err = none := by
  cases move with
  | leaves notOpened notInitial => exact ⟨rfl, notOpened, notInitial, rfl⟩

/-- A call that reports nothing changes neither whether the automaton is Opened
nor whether it is Initial. -/
theorem StateMove.of_none {before after : PPPFsmState} {err : Option String}
    (move : StateMove before after .none err) :
    (after = .opened ↔ before = .opened) ∧ (after = .initial ↔ before = .initial) := by
  cases move with
  | stays notOpened afterNotOpened initial =>
      exact ⟨⟨fun opened => absurd opened afterNotOpened, fun opened => absurd opened notOpened⟩,
        initial⟩
  | remains => exact ⟨Iff.rfl, Iff.rfl⟩

/-- A call that is not acted on has not opened the automaton. -/
theorem StateMove.of_quiet {before after : PPPFsmState} {action : PPPFsmAction}
    {err : Option String} (move : StateMove before after action err)
    (quiet : ¬ (err = none ∧ action ≠ .none)) (opened : after = .opened) : before = .opened := by
  cases move with
  | opens _ _ => exact absurd ⟨rfl, by decide⟩ quiet
  | stays _ notOpened _ => exact absurd opened notOpened
  | leaves _ _ => rfl
  | remains => rfl

/-- No call moves an automaton into or out of Initial. -/
theorem StateMove.initial_iff {before after : PPPFsmState} {action : PPPFsmAction}
    {err : Option String} (move : StateMove before after action err) :
    after = .initial ↔ before = .initial := by
  cases move with
  | opens _ notInitial => exact ⟨fun initial => absurd initial (by decide), fun initial => absurd initial notInitial⟩
  | stays _ _ initial => exact initial
  | leaves _ notInitial => exact ⟨fun initial => absurd initial notInitial, fun initial => absurd initial (by decide)⟩
  | remains => exact Iff.rfl

/-- Between two states that are neither Initial nor Opened the start of a move
makes no difference. -/
theorem StateMove.rebase {before other after : PPPFsmState} {action : PPPFsmAction}
    {err : Option String} (move : StateMove before after action err) (notOpened : before ≠ .opened)
    (notInitial : before ≠ .initial) (otherNotOpened : other ≠ .opened)
    (otherNotInitial : other ≠ .initial) : StateMove other after action err := by
  cases move with
  | opens _ _ => exact .opens otherNotOpened otherNotInitial
  | stays _ afterNotOpened initial =>
      refine .stays otherNotOpened afterNotOpened ?_
      exact ⟨fun is => absurd (initial.mp is) notInitial, fun is => absurd is otherNotInitial⟩
  | leaves _ _ => exact absurd rfl notOpened
  | remains => exact absurd rfl notOpened

/-- The accepting end of `check_conf` opens from Ack_Rcvd. -/
theorem FsmAccess.Lawful.acceptConf {access : FsmAccess} (lawful : access.Lawful) (hwaddr : Mac)
    {session : PPPOESession} (packet : Packet) (notOpened : access.state session ≠ .opened)
    (notInitial : access.state session ≠ .initial) :
    StateMove (access.state session) (access.state (access.acceptConf hwaddr session packet).session)
      (access.acceptConf hwaddr session packet).action (access.acceptConf hwaddr session packet).err := by
  unfold FsmAccess.acceptConf FsmAccess.sendConfAck
  dsimp only
  have written : forall state : PPPFsmState,
      access.state (access.setFsm session
        { access.fsm session with state := state, nakCounter := 0 }) = state := by
    intro state
    rw [FsmAccess.state, lawful]
  rw [written]
  by_cases ackRcvd : access.state session = .ackRcvd
  · rw [if_pos ackRcvd, if_pos rfl]
    exact .opens notOpened notInitial
  · rw [if_neg ackRcvd, if_neg (by decide)]
    exact .stays notOpened (by decide)
      ⟨fun ackSent => absurd ackSent (by decide), fun initial => absurd initial notInitial⟩

/-- After a refusal the state is Ack_Rcvd or Req_Sent. -/
theorem FsmAccess.Lawful.refuseState {access : FsmAccess} (lawful : access.Lawful)
    {session : PPPOESession} (err : Option String) (notOpened : access.state session ≠ .opened)
    (notInitial : access.state session ≠ .initial) :
    StateMove (access.state session) (access.state (access.refuseState session)) .none err := by
  unfold FsmAccess.refuseState
  by_cases ackRcvd : access.state session = .ackRcvd
  · rw [if_pos ackRcvd]
    exact .stays notOpened notOpened Iff.rfl
  · rw [if_neg ackRcvd, lawful.state_setState]
    exact .stays notOpened (by decide)
      ⟨fun reqSent => absurd reqSent (by decide), fun initial => absurd initial notInitial⟩

/-- What is asked of the virtual methods of an automaton: they move its state
only in `checkConf`, which opens from Ack_Rcvd. -/
structure FsmClass.Lawful (protocol : FsmClass) : Prop where
  setFsm : protocol.toFsmAccess.Lawful
  sendConfReq : forall session,
    protocol.state (protocol.sendConfReq session).session = protocol.state session
  checkConf : forall session packet out, protocol.checkConf session packet = some out ->
    protocol.state session ≠ .opened -> protocol.state session ≠ .initial ->
    StateMove (protocol.state session) (protocol.state out.session) out.action out.err
  sendTermAck : forall session packet,
    protocol.state (protocol.sendTermAck session packet).session = protocol.state session
  sendEchoRep : forall session packet,
    protocol.state (protocol.sendEchoRep session packet).session = protocol.state session ∧
      (protocol.sendEchoRep session packet).action = .none
  recvEchoRep : forall session packet,
    protocol.state (protocol.recvEchoRep session packet).session = protocol.state session ∧
      (protocol.recvEchoRep session packet).action = .none

namespace FsmClass.Lawful

variable {protocol : FsmClass}

/-- A call that does not move the state and reports nothing is a move. -/
theorem unmoved {before after : PPPFsmState} (err : Option String) (same : after = before) :
    StateMove before after .none err := by
  rw [same]
  by_cases opened : before = .opened
  · rw [opened]
    exact .remains
  · exact .stays opened opened Iff.rfl

theorem recvConfReq (lawful : protocol.Lawful) {session : PPPOESession} {packet : Packet}
    {out : FsmOut} (received : protocol.recvConfReq session packet = some out)
    (running : protocol.state session ≠ .initial) :
    StateMove (protocol.state session) (protocol.state out.session) out.action out.err := by
  unfold FsmClass.recvConfReq at received
  split at received
  · rw [← Option.some.inj received]
    exact unmoved _ rfl
  · rw [← Option.some.inj received]
    exact unmoved _ rfl
  · rw [← Option.some.inj received]
    exact unmoved _ rfl
  · rename_i opened
    rw [← Option.some.inj received, opened]
    dsimp only
    rw [lawful.setFsm.state_setState]
    exact .leaves (by decide) (by decide)
  · rename_i stopped
    rcases Option.map_eq_some_iff.mp received with ⟨checked, returned, equal⟩
    have requested := lawful.setFsm.state_setState (protocol.sendConfReq session).session .reqSent
    have move := lawful.checkConf _ _ _ returned (by rw [requested]; decide)
      (by rw [requested]; decide)
    rw [requested] at move
    rw [← equal, stopped]
    exact move.rebase (by decide) (by decide) (by decide) (by decide)
  · rename_i notOpened _
    exact lawful.checkConf _ _ _ received notOpened running

theorem recvConfAck (lawful : protocol.Lawful) (session : PPPOESession) (packet : Packet) :
    StateMove (protocol.state session) (protocol.state (protocol.recvConfAck session packet).session)
      (protocol.recvConfAck session packet).action (protocol.recvConfAck session packet).err := by
  unfold FsmClass.recvConfAck
  split
  · exact unmoved _ rfl
  · dsimp only
    have same : protocol.state (protocol.setFsm session { protocol.fsm session with seenAck := true }) =
        protocol.state session := by
      rw [FsmAccess.state, lawful.setFsm]
      rfl
    rw [same]
    split
    · rename_i reqSent
      dsimp only [PPPOESession.done]
      rw [lawful.setFsm.state_setState, reqSent]
      exact .stays (by decide) (by decide) (by decide)
    · rename_i ackSent
      dsimp only
      rw [lawful.setFsm.state_setState, ackSent]
      exact .opens (by decide) (by decide)
    · rename_i opened
      dsimp only
      rw [lawful.setFsm.state_setState, opened]
      exact .leaves (by decide) (by decide)
    · exact unmoved _ same

theorem recvTermReq (lawful : protocol.Lawful) (session : PPPOESession) (packet : Packet) :
    StateMove (protocol.state session) (protocol.state (protocol.recvTermReq session packet).session)
      (protocol.recvTermReq session packet).action (protocol.recvTermReq session packet).err := by
  unfold FsmClass.recvTermReq
  split
  · rename_i ackRcvd
    dsimp only
    rw [lawful.sendTermAck, lawful.setFsm.state_setState, ackRcvd]
    exact .stays (by decide) (by decide) (by decide)
  · rename_i ackSent
    dsimp only
    rw [lawful.sendTermAck, lawful.setFsm.state_setState, ackSent]
    exact .stays (by decide) (by decide) (by decide)
  · rename_i opened
    dsimp only
    rw [lawful.sendTermAck, lawful.setFsm.state_setState, opened]
    exact .leaves (by decide) (by decide)
  · dsimp only
    exact unmoved _ (lawful.sendTermAck session packet)

/-- What one packet does to the state, and that it moves an automaton out of
Opened only when it is one of the packets that do. -/
theorem receive (lawful : protocol.Lawful) {session : PPPOESession} {packet : Packet} {out : FsmOut}
    (received : protocol.receive session packet = some out) :
    StateMove (protocol.state session) (protocol.state out.session) out.action out.err ∧
      (protocol.state session = .opened -> protocol.state out.session ≠ .opened ->
        protocol.leavesOpened session packet) := by
  unfold FsmClass.receive at received
  dsimp only at received
  split at received
  · rw [← Option.some.inj received]
    exact ⟨unmoved _ rfl, fun opened notOpened => absurd opened notOpened⟩
  · rename_i running
    have notInitial : protocol.state session ≠ .initial := fun initial => running (.inl initial)
    split at received
    · rename_i confReq
      exact ⟨lawful.recvConfReq received notInitial, fun _ _ => .inl confReq⟩
    · split at received
      · rename_i confAck
        rw [← Option.some.inj received]
        refine ⟨lawful.recvConfAck session packet, fun opened notOpened => ?_⟩
        refine .inr (.inr ⟨confAck, ?_⟩)
        by_contra other
        rw [FsmClass.recvConfAck, if_pos other] at notOpened
        exact notOpened opened
      · split at received
        · rename_i termReq
          rw [← Option.some.inj received]
          exact ⟨lawful.recvTermReq session packet, fun _ _ => .inr (.inl termReq)⟩
        · split at received
          · rw [← Option.some.inj received]
            have echo := lawful.sendEchoRep session packet
            rw [echo.2]
            exact ⟨unmoved _ echo.1, fun opened notOpened => absurd (echo.1.trans opened) notOpened⟩
          · split at received
            · rw [← Option.some.inj received]
              have echo := lawful.recvEchoRep session packet
              rw [echo.2]
              exact ⟨unmoved _ echo.1, fun opened notOpened => absurd (echo.1.trans opened) notOpened⟩
            · rw [← Option.some.inj received]
              exact ⟨unmoved _ rfl, fun opened notOpened => absurd opened notOpened⟩

theorem state_requestOrLog (lawful : protocol.Lawful) (session : PPPOESession) :
    protocol.state (protocol.requestOrLog session).session = protocol.state session ∨
      protocol.state (protocol.requestOrLog session).session = .reqSent := by
  unfold FsmClass.requestOrLog
  dsimp only
  split
  · exact .inl (lawful.sendConfReq session)
  · exact .inr (lawful.setFsm.state_setState _ _)

/-- `open()` and `layer_up()` leave an automaton that is Opened as it is. -/
theorem start_of_opened {session : PPPOESession} (opened : protocol.state session = .opened) :
    protocol.start session = session.done := by
  have first : protocol.openFsm session = session.done := by
    unfold FsmClass.openFsm
    rw [opened]
  have second : protocol.layerUp session = session.done := by
    unfold FsmClass.layerUp
    rw [opened]
  unfold FsmClass.start
  rw [first]
  dsimp only [PPPOESession.done]
  rw [second]
  rfl

/-- `open()` leaves Initial and does not open an automaton. -/
theorem state_openFsm (lawful : protocol.Lawful) (session : PPPOESession) :
    protocol.state (protocol.openFsm session).session ≠ .initial ∧
      (protocol.state session ≠ .opened ->
        protocol.state (protocol.openFsm session).session ≠ .opened) := by
  unfold FsmClass.openFsm
  split
  · dsimp only [PPPOESession.done]
    rw [lawful.setFsm.state_setState]
    exact ⟨by decide, fun _ => by decide⟩
  · rename_i closed
    rcases lawful.state_requestOrLog session with same | requested
    · rw [same, closed]
      exact ⟨by decide, fun _ => by decide⟩
    · rw [requested]
      exact ⟨by decide, fun _ => by decide⟩
  · dsimp only [PPPOESession.done]
    rw [lawful.setFsm.state_setState]
    exact ⟨by decide, fun _ => by decide⟩
  · rename_i notInitial _ _
    exact ⟨notInitial, fun notOpened => notOpened⟩

/-- `layer_up()` does not return to Initial and does not open an automaton. -/
theorem state_layerUp (lawful : protocol.Lawful) {session : PPPOESession}
    (running : protocol.state session ≠ .initial) :
    protocol.state (protocol.layerUp session).session ≠ .initial ∧
      (protocol.state session ≠ .opened ->
        protocol.state (protocol.layerUp session).session ≠ .opened) := by
  unfold FsmClass.layerUp
  split
  · rename_i initial
    exact absurd initial running
  · rename_i starting
    rcases lawful.state_requestOrLog session with same | requested
    · rw [same, starting]
      exact ⟨by decide, fun _ => by decide⟩
    · rw [requested]
      exact ⟨by decide, fun _ => by decide⟩
  · exact ⟨running, fun notOpened => notOpened⟩

/-- Starting an automaton takes it out of Initial. -/
theorem start_notInitial (lawful : protocol.Lawful) (session : PPPOESession) :
    protocol.state (protocol.start session).session ≠ .initial :=
  (lawful.state_layerUp (lawful.state_openFsm session).1).1

/-- `open()` does not change whether an automaton is Opened. -/
theorem openFsm_opened_iff (lawful : protocol.Lawful) (session : PPPOESession) :
    protocol.state (protocol.openFsm session).session = .opened ↔
      protocol.state session = .opened := by
  constructor
  · intro opened
    by_contra notOpened
    exact (lawful.state_openFsm session).2 notOpened opened
  · intro opened
    unfold FsmClass.openFsm
    rw [opened]
    exact opened

/-- `layer_up()` does not change whether an automaton is Opened. -/
theorem layerUp_opened_iff (lawful : protocol.Lawful) (session : PPPOESession) :
    protocol.state (protocol.layerUp session).session = .opened ↔
      protocol.state session = .opened := by
  constructor
  · intro opened
    by_cases initial : protocol.state session = .initial
    · unfold FsmClass.layerUp at opened
      rw [initial] at opened
      dsimp only [PPPOESession.done] at opened
      rw [lawful.setFsm.state_setState] at opened
      cases opened
    · by_contra notOpened
      exact (lawful.state_layerUp initial).2 notOpened opened
  · intro opened
    unfold FsmClass.layerUp
    rw [opened]
    exact opened

/-- Starting an automaton does not change whether it is Opened. -/
theorem start_opened_iff (lawful : protocol.Lawful) (session : PPPOESession) :
    protocol.state (protocol.start session).session = .opened ↔ protocol.state session = .opened :=
  (lawful.layerUp_opened_iff _).trans (lawful.openFsm_opened_iff session)

end FsmClass.Lawful

end Pppcpd
