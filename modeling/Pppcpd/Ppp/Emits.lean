import Pppcpd.Ppp.Auth

namespace Pppcpd

open Foundation

/-!
# Properties of the frames that an automaton sends

A method sends frames that are good for its session, and leaves what they are
judged by.  When this holds for every virtual method, on the packets that are
accepted, it holds for whatever the automaton does.
-/

variable {View : Type}

/-- The frames of a method are good for a view of the session, which is kept. -/
structure Emits (view : PPPOESession -> View) (good : View -> Bytes -> Prop) (session : PPPOESession)
    (out : FsmOut) : Prop where
  kept : view out.session = view session
  good : forall frame, frame ∈ out.sent -> good (view session) frame

namespace Emits

variable {view : PPPOESession -> View} {good : View -> Bytes -> Prop} {session : PPPOESession}

theorem silent {out : FsmOut} (kept : view out.session = view session) (nothing : out.sent = []) :
    Emits view good session out :=
  ⟨kept, fun _ member => absurd (nothing ▸ member) List.not_mem_nil⟩

theorem single {out : FsmOut} {frame : Bytes} (kept : view out.session = view session)
    (sent : out.sent = [frame]) (isGood : good (view session) frame) : Emits view good session out := by
  refine ⟨kept, fun other member => ?_⟩
  rw [sent] at member
  rw [List.mem_singleton.mp member]
  exact isGood

/-- What two methods send, one after the other. -/
theorem append {first second out : FsmOut} {middle : PPPOESession}
    (left : Emits view good session first) (between : view middle = view first.session)
    (right : Emits view good middle second) (sent : out.sent = first.sent ++ second.sent)
    (last : view out.session = view second.session) : Emits view good session out := by
  have same : view middle = view session := between.trans left.kept
  refine ⟨last.trans (right.kept.trans same), fun frame member => ?_⟩
  rw [sent] at member
  rcases List.mem_append.mp member with early | late
  · exact left.good frame early
  · exact same ▸ right.good frame late

/-- The frames of a method, between other sessions with the same view. -/
theorem mono {first out : FsmOut} {origin : PPPOESession} (emits : Emits view good origin first)
    (before : view origin = view session) (sent : out.sent = first.sent)
    (last : view out.session = view first.session) : Emits view good session out := by
  refine ⟨last.trans (emits.kept.trans before), fun frame member => ?_⟩
  rw [sent] at member
  exact before ▸ emits.good frame member

/-- What is known of the frames under a condition. -/
theorem guard {out : FsmOut} {condition : Prop} (kept : view out.session = view session)
    (emits : condition -> Emits view good session out) :
    Emits view (fun seen frame => condition -> good seen frame) session out :=
  ⟨kept, fun frame member holds => (emits holds).good frame member⟩

end Emits

/-- Every virtual method of an automaton sends good frames, when the packet it is
called with is accepted. -/
structure FsmClass.Emitting (protocol : FsmClass) (view : PPPOESession -> View)
    (good : View -> Bytes -> Prop) (accepts : Packet -> Prop) : Prop where
  setFsm : forall session fsm, fsm.sessionId = (protocol.fsm session).sessionId ->
    fsm.pktId = (protocol.fsm session).pktId -> view (protocol.setFsm session fsm) = view session
  sendConfReq : forall session, Emits view good session (protocol.sendConfReq session)
  checkConf : forall session packet out, accepts packet -> packet.code = LCPCode.confReq ->
    protocol.checkConf session packet = some out -> Emits view good session out
  sendTermAck : forall session packet, accepts packet ->
    Emits view good session (protocol.sendTermAck session packet)
  sendEchoRep : forall session packet, accepts packet ->
    Emits view good session (protocol.sendEchoRep session packet)
  recvEchoRep : forall session packet, accepts packet ->
    Emits view good session (protocol.recvEchoRep session packet)

namespace FsmClass.Emitting

variable {protocol : FsmClass} {view : PPPOESession -> View} {good : View -> Bytes -> Prop}
  {accepts : Packet -> Prop}

theorem setState (emitting : protocol.Emitting view good accepts) (session : PPPOESession)
    (state : PPPFsmState) : view (protocol.setState session state) = view session :=
  emitting.setFsm session _ rfl rfl

theorem requestOrLog (emitting : protocol.Emitting view good accepts) (session : PPPOESession) :
    Emits view good session (protocol.requestOrLog session) := by
  unfold FsmClass.requestOrLog
  dsimp only
  split
  · exact (emitting.sendConfReq session).mono rfl rfl rfl
  · exact (emitting.sendConfReq session).mono rfl rfl (emitting.setState _ _)

theorem openFsm (emitting : protocol.Emitting view good accepts) (session : PPPOESession) :
    Emits view good session (protocol.openFsm session) := by
  unfold FsmClass.openFsm
  split
  · exact .silent (emitting.setState session _) rfl
  · exact emitting.requestOrLog session
  · exact .silent (emitting.setState session _) rfl
  · exact .silent rfl rfl

theorem layerUp (emitting : protocol.Emitting view good accepts) (session : PPPOESession) :
    Emits view good session (protocol.layerUp session) := by
  unfold FsmClass.layerUp
  split
  · exact .silent (emitting.setState session _) rfl
  · exact emitting.requestOrLog session
  · exact .silent rfl rfl

theorem start (emitting : protocol.Emitting view good accepts) (session : PPPOESession) :
    Emits view good session (protocol.start session) :=
  (emitting.openFsm session).append rfl (emitting.layerUp _) rfl rfl

theorem recvConfReq (emitting : protocol.Emitting view good accepts) {session : PPPOESession}
    {packet : Packet} {out : FsmOut} (accepted : accepts packet)
    (isRequest : packet.code = LCPCode.confReq)
    (received : protocol.recvConfReq session packet = some out) : Emits view good session out := by
  unfold FsmClass.recvConfReq at received
  split at received
  · rw [← Option.some.inj received]
    exact .silent rfl rfl
  · rw [← Option.some.inj received]
    exact .silent rfl rfl
  · rw [← Option.some.inj received]
    exact .silent rfl rfl
  · rw [← Option.some.inj received]
    exact (emitting.sendConfReq session).mono rfl rfl (emitting.setState _ _)
  · rcases Option.map_eq_some_iff.mp received with ⟨checked, returned, equal⟩
    rw [← equal]
    exact (emitting.sendConfReq session).append (emitting.setState _ _)
      (emitting.checkConf _ _ _ accepted isRequest returned) rfl rfl
  · exact emitting.checkConf _ _ _ accepted isRequest received

theorem recvConfAck (emitting : protocol.Emitting view good accepts) (session : PPPOESession)
    (packet : Packet) : Emits view good session (protocol.recvConfAck session packet) := by
  have seen := emitting.setFsm session { protocol.fsm session with seenAck := true } rfl rfl
  unfold FsmClass.recvConfAck
  split
  · exact .silent rfl rfl
  · dsimp only
    split
    · exact .silent ((emitting.setState _ _).trans seen) rfl
    · exact .silent ((emitting.setState _ _).trans seen) rfl
    · exact (emitting.sendConfReq _).mono seen rfl (emitting.setState _ _)
    · exact .silent seen rfl

theorem recvTermReq (emitting : protocol.Emitting view good accepts) (session : PPPOESession)
    {packet : Packet} (accepted : accepts packet) :
    Emits view good session (protocol.recvTermReq session packet) := by
  unfold FsmClass.recvTermReq
  split
  · exact (emitting.sendTermAck _ packet accepted).mono (emitting.setState _ _) rfl rfl
  · exact (emitting.sendTermAck _ packet accepted).mono (emitting.setState _ _) rfl rfl
  · exact (emitting.sendTermAck _ packet accepted).mono (emitting.setState _ _) rfl rfl
  · exact (emitting.sendTermAck _ packet accepted).mono rfl rfl rfl

/-- Whatever packet is accepted, the frames are good. -/
theorem receive (emitting : protocol.Emitting view good accepts) {session : PPPOESession}
    {packet : Packet} {out : FsmOut} (accepted : accepts packet)
    (received : protocol.receive session packet = some out) : Emits view good session out := by
  unfold FsmClass.receive at received
  dsimp only at received
  split at received
  · rw [← Option.some.inj received]
    exact .silent rfl rfl
  · split at received
    · rename_i isRequest
      exact emitting.recvConfReq accepted isRequest received
    · split at received
      · rw [← Option.some.inj received]
        exact emitting.recvConfAck session packet
      · split at received
        · rw [← Option.some.inj received]
          exact emitting.recvTermReq session accepted
        · split at received
          · rw [← Option.some.inj received]
            exact emitting.sendEchoRep session packet accepted
          · split at received
            · rw [← Option.some.inj received]
              exact emitting.recvEchoRep session packet accepted
            · rw [← Option.some.inj received]
              exact .silent rfl rfl

end FsmClass.Emitting

end Pppcpd
