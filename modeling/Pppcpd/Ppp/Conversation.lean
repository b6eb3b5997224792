import Pppcpd.Foundation.Channel
import Pppcpd.Ppp.Emits
import Pppcpd.Ppp.Handshake
import Pppcpd.Wire.Lengths

namespace Pppcpd

open Foundation

/-!
# IPCP and its peer over a channel

The packets of both sides are in flight until they arrive, in any order, once
or more often or never.  The peer answers a Configure-Request with a
Configure-Ack of the same bytes, and sends anything else whenever it likes.  The
requests of the automaton are numbered, and an ack records which one it answers.
All requests have the same identifier, so the automaton cannot tell.
-/

/-- The packet of a frame, without the header that the daemon put in front. -/
def payload (hwaddr : Mac) (encap : Encapsulation) (frame : Bytes) : Bytes :=
  frame.drop (encap.generateHeader hwaddr ethPppoeSession).length

theorem payload_frame (session : PPPOESession) (hwaddr : Mac) (packet : Bytes) :
    payload hwaddr session.encap (session.frame hwaddr packet) = packet := by
  unfold payload PPPOESession.frame
  rw [List.drop_left]

/-- A Configure-Request, whole enough to be read. -/
def IsRequest (packet : Bytes) : Prop :=
  Packet.optionBase ≤ packet.length ∧ Packet.code ⟨packet, fun _ => 0⟩ = LCPCode.confReq

instance (packet : Bytes) : Decidable (IsRequest packet) := inferInstanceAs (Decidable (_ ∧ _))

/-- A packet with another code is no request. -/
theorem not_isRequest_of_code {packet : Packet} {code : UInt8} (other : code ≠ LCPCode.confReq)
    (isCode : Packet.optionBase ≤ packet.bytes.length -> packet.code = code) :
    ¬ IsRequest packet.bytes := by
  rintro ⟨header, request⟩
  have same : Packet.code ⟨packet.bytes, fun _ => 0⟩ = packet.code :=
    Buffer.read_eq packet.bytes _ packet.behind (Nat.lt_of_lt_of_le (by decide) header)
  exact other ((isCode header).symm.trans (same.symm.trans request))

/-- A packet of the automaton, with the number of its latest Configure-Request. -/
structure Outgoing where
  serial : Nat
  packet : Bytes

/-- A packet of the peer.  A Configure-Ack answers a numbered request. -/
structure Incoming where
  answers : Option Nat
  packet : Packet

/-- The session of the automaton and the packets in flight. -/
structure Conversation where
  session : PPPOESession
  requests : Nat := 0
  toPeer : List Outgoing := []
  toFsm : List Incoming := []

/-- What can happen in a conversation. -/
inductive ConversationEvent
  | openFsm (surroundings : Surroundings)
  | layerUp (surroundings : Surroundings)
  | elsewhere (later : PPPOESession)
  | arrives (surroundings : Surroundings) (index : Nat)
  | peerAcks (index : Nat) (behind : Nat -> UInt8)
  | peerSends (packet : Packet)
  | outward (fault : Fault)
  | inward (fault : Fault)

namespace Conversation

open Automaton

/-- A packet leaves for the peer. -/
def push (conversation : Conversation) (packet : Bytes) : Conversation :=
  let serial := if IsRequest packet then conversation.requests + 1 else conversation.requests
  { conversation with
    requests := serial, toPeer := conversation.toPeer ++ [{ serial := serial, packet := packet }] }

/-- The automaton was called. -/
def transmit (conversation : Conversation) (hwaddr : Mac) (out : FsmOut) : Conversation :=
  (out.sent.map (payload hwaddr conversation.session.encap)).foldl push
    { conversation with session := out.session }

/-- Call the automaton. -/
def call (conversation : Conversation) (surroundings : Surroundings) (call : FsmCall) :
    Option Conversation :=
  (ipcp.call conversation.session call).map (conversation.transmit surroundings.link.hwaddr)

/-- The Configure-Ack of the peer for a request. -/
def acknowledgement (request : Outgoing) (behind : Nat -> UInt8) : Incoming where
  answers := some request.serial
  packet := Packet.setCode ⟨request.packet, behind⟩ LCPCode.confAck

/-- One step of a conversation. -/
def step (conversation : Conversation) : ConversationEvent -> Option Conversation
  | .openFsm surroundings => conversation.call surroundings (.openFsm surroundings)
  | .layerUp surroundings => conversation.call surroundings (.layerUp surroundings)
  | .elsewhere later =>
      (ipcp.step conversation.session (.elsewhere later)).map
        (fun session => { conversation with session := session })
  | .arrives surroundings index =>
      (takeMessage conversation.toFsm index).bind (fun (incoming, rest) =>
        { conversation with toFsm := rest }.call surroundings (.receive surroundings incoming.packet))
  | .peerAcks index behind =>
      (takeMessage conversation.toPeer index).bind (fun (outgoing, rest) =>
        if IsRequest outgoing.packet then
          some { conversation with
            toPeer := rest, toFsm := conversation.toFsm ++ [acknowledgement outgoing behind] }
        else none)
  | .peerSends packet =>
      if packet.code = LCPCode.confAck then none
      else some { conversation with
        toFsm := conversation.toFsm ++ [{ answers := none, packet := packet }] }
  | .outward fault => some { conversation with toPeer := disturb conversation.toPeer fault }
  | .inward fault => some { conversation with toFsm := disturb conversation.toFsm fault }

end Conversation

/-! ## What a call sends -/

namespace IPCPFsm

/-- What the packets of IPCP are marked with. -/
def terms (session : PPPOESession) : Encapsulation × UInt8 := (session.encap, session.ipcp.pktId)

/-- A frame that is no Configure-Request. -/
def Answer (hwaddr : Mac) (terms : Encapsulation × UInt8) (frame : Bytes) : Prop :=
  ¬ IsRequest (payload hwaddr terms.1 frame)

variable {hwaddr : Mac} {getSession : SessionLookup}

/-- A frame of the session around a packet with another code. -/
theorem answer_frame {session sender : PPPOESession} (encap : sender.encap = session.encap)
    {packet : Packet} {code : UInt8} (other : code ≠ LCPCode.confReq)
    (isCode : Packet.optionBase ≤ packet.bytes.length -> packet.code = code) :
    Answer hwaddr (terms session) (sender.frame hwaddr packet.bytes) := by
  have same : (terms session).1 = sender.encap := encap.symm
  unfold Answer
  rw [same, payload_frame]
  exact not_isRequest_of_code other isCode

/-- Writing over options does not concern the code. -/
theorem code_foldl_overwrite (aaaSession : AAASession) (offsets : List Nat) (packet : Packet) :
    (offsets.foldl (overwrite aaaSession) packet).bytes.length = packet.bytes.length ∧
      (offsets.foldl (overwrite aaaSession) packet).code = packet.code := by
  induction offsets generalizing packet with
  | nil => exact ⟨rfl, rfl⟩
  | cons offset offsets inductionHypothesis =>
      have later := inductionHypothesis (overwrite aaaSession packet offset)
      have here : (overwrite aaaSession packet offset).bytes.length = packet.bytes.length ∧
          (overwrite aaaSession packet offset).code = packet.code := by
        unfold overwrite
        split
        · exact ⟨rfl, rfl⟩
        · exact ⟨Buffer.length_setBytes _ _ _,
            Buffer.read_setBytes_of_lt packet _ (by unfold Packet.optionBase; omega)⟩
      exact ⟨later.1.trans here.1, later.2.trans here.2⟩

theorem answers_sendConfNak {session : PPPOESession} {packet : Packet} {out : FsmOut}
    (returned : sendConfNak hwaddr getSession session packet = some out) :
    Emits terms (Answer hwaddr) session out := by
  unfold sendConfNak at returned
  split at returned
  · rw [← Option.some.inj returned]
    exact .silent rfl rfl
  · rename_i aaaSession _
    rcases Option.map_eq_some_iff.mp returned with ⟨offsets, _, equal⟩
    rw [← equal]
    refine .single rfl rfl (answer_frame rfl (by decide : LCPCode.confNak ≠ LCPCode.confReq) ?_)
    intro header
    have kept := code_foldl_overwrite aaaSession offsets (packet.setCode LCPCode.confNak)
    rw [kept.1, (Packet.sameHeader_setCode packet LCPCode.confNak).size] at header
    rw [kept.2]
    exact Packet.code_setCode _ header

/-- `check_conf` sends answers only. -/
theorem answers_checkConf {session : PPPOESession} {packet : Packet} {out : FsmOut}
    (returned : checkConf hwaddr getSession session packet = some out) :
    Emits terms (Answer hwaddr) session out := by
  unfold checkConf at returned
  split at returned
  · rw [← Option.some.inj returned]
    exact .silent rfl rfl
  · split at returned
    · rw [← Option.some.inj returned]
      exact .silent rfl rfl
    · rename_i aaaSession _
      rcases Option.bind_eq_some_iff.mp returned with ⟨offsets, _, checked⟩
      dsimp only at checked
      split at checked
      · rw [← Option.some.inj checked]
        let length := UInt16.ofNat (sizeofPPPLcp + (rejectedOptions aaaSession packet offsets).length)
        let rejection : Packet :=
          { bytes := pppoeSessionHdr session.ipcp.sessionId (length + 2) PPPProto.ipcp ++
              pppHdr LCPCode.confRej packet.identifier length ++
              rejectedOptions aaaSession packet offsets
            behind := fun _ => 0 }
        exact .single rfl rfl (@answer_frame hwaddr session (adopt aaaSession session) rfl rejection
          LCPCode.confRej (by decide) (fun _ => rfl))
      · split at checked
        · have refused : terms (access.refuseState (adopt aaaSession session)) = terms session := by
            unfold FsmAccess.refuseState
            split <;> rfl
          exact (answers_sendConfNak checked).mono refused rfl rfl
        · rw [← Option.some.inj checked]
          refine .single rfl rfl (answer_frame rfl (by decide : LCPCode.confAck ≠ LCPCode.confReq) ?_)
          intro header
          rw [(Packet.sameHeader_setCode packet LCPCode.confAck).size] at header
          exact Packet.code_setCode _ header

/-- The Configure-Request of a session. -/
def request (session : PPPOESession) : Bytes :=
  let options := opt4B IPCPOption.ipAddress ownAddress
  let length := UInt16.ofNat (sizeofPPPLcp + options.length)
  pppoeSessionHdr session.ipcp.sessionId (length + 2) PPPProto.ipcp ++
    pppHdr LCPCode.confReq session.ipcp.pktId length ++ options ++ LCPFsm.resizePadding

theorem isRequest_request (session : PPPOESession) :
    IsRequest (request session) ∧
      Packet.identifier ⟨request session, fun _ => 0⟩ = session.ipcp.pktId :=
  ⟨⟨by simp [request, pppoeSessionHdr, pppHdr, bytes16, Packet.optionBase], rfl⟩, rfl⟩

/-- A call sends one Configure-Request before its answers, or only answers. -/
inductive Transmits (hwaddr : Mac) (session : PPPOESession) (requests : Prop) (out : FsmOut) : Prop
  | request (packet : Bytes) (answers : List Bytes) : requests -> IsRequest packet ->
      Packet.identifier ⟨packet, fun _ => 0⟩ = session.ipcp.pktId ->
      out.sent = session.frame hwaddr packet :: answers ->
      (forall frame, frame ∈ answers -> Answer hwaddr (terms session) frame) ->
      Transmits hwaddr session requests out
  | answers : ¬ requests -> (forall frame, frame ∈ out.sent -> Answer hwaddr (terms session) frame) ->
      Transmits hwaddr session requests out

namespace Transmits

variable {session : PPPOESession} {requests : Prop} {out : FsmOut}

theorem silent (noRequest : ¬ requests) (nothing : out.sent = []) :
    Transmits hwaddr session requests out :=
  .answers noRequest (fun _ member => absurd (nothing ▸ member) List.not_mem_nil)

/-- The Configure-Request that `send_conf_req` sends for a session of the same terms. -/
theorem of_request {sender : PPPOESession} {answers : List Bytes} (isRequest : requests)
    (same : terms sender = terms session)
    (sent : out.sent = (sendConfReq hwaddr sender).sent ++ answers)
    (rest : forall frame, frame ∈ answers -> Answer hwaddr (terms session) frame) :
    Transmits hwaddr session requests out := by
  have parts := Prod.mk.inj same
  have whole := isRequest_request sender
  refine .request (IPCPFsm.request sender) answers isRequest whole.1 (whole.2.trans parts.2) ?_ rest
  rw [sent]
  unfold PPPOESession.frame
  rw [← parts.1]
  rfl

end Transmits

/-- No call changes the terms. -/
theorem emitting_terms (hwaddr : Mac) (getSession : SessionLookup) :
    (protocol hwaddr getSession).Emitting terms (fun _ _ => True) (fun _ => True) where
  setFsm := by
    intro session fsm _ same
    unfold terms
    exact congrArg (Prod.mk session.encap) same
  sendConfReq := fun _ => .single rfl rfl trivial
  checkConf := by
    intro session packet out _ _ returned
    rw [protocol_checkConf] at returned
    have emits := @answers_checkConf hwaddr getSession session packet out returned
    exact ⟨emits.kept, fun _ _ => trivial⟩
  sendTermAck := fun _ _ _ => .silent rfl rfl
  sendEchoRep := fun _ _ _ => .silent rfl rfl
  recvEchoRep := fun _ _ _ => .silent rfl rfl

end IPCPFsm

namespace Conversation

open Automaton IPCPFsm

/-- The call sends a Configure-Request. -/
def Requests (session : PPPOESession) : FsmCall -> Prop
  | .openFsm _ => ipcp.state session = .closed
  | .layerUp _ => ipcp.state session = .starting
  | .receive _ packet =>
      packet.code = LCPCode.confReq ∧
          (ipcp.state session = .opened ∨ ipcp.state session = .stopped) ∨
        packet.code = LCPCode.confAck ∧ packet.identifier = session.ipcp.pktId ∧
          ipcp.state session = .opened
  | .elsewhere _ => False

instance (session : PPPOESession) : forall call, Decidable (Requests session call)
  | .openFsm _ => inferInstanceAs (Decidable (_ = _))
  | .layerUp _ => inferInstanceAs (Decidable (_ = _))
  | .receive _ _ => inferInstanceAs (Decidable (_ ∨ _))
  | .elsewhere _ => inferInstanceAs (Decidable False)

section

variable {surroundings : Surroundings} {session : PPPOESession}

theorem transmits_openFsm : Transmits surroundings.link.hwaddr session
    (Requests session (.openFsm surroundings))
    ((ipcp.protocol surroundings).openFsm session) := by
  unfold FsmClass.openFsm
  split
  · rename_i state
    exact .silent (fun closed => by cases state.symm.trans closed) rfl
  · rename_i closed
    exact .of_request closed rfl (List.append_nil _).symm (fun _ member => absurd member List.not_mem_nil)
  · rename_i state
    exact .silent (fun closed => by cases state.symm.trans closed) rfl
  · rename_i _ notClosed _
    exact .silent notClosed rfl

theorem transmits_layerUp : Transmits surroundings.link.hwaddr session
    (Requests session (.layerUp surroundings))
    ((ipcp.protocol surroundings).layerUp session) := by
  unfold FsmClass.layerUp
  split
  · rename_i state
    exact .silent (fun starting => by cases state.symm.trans starting) rfl
  · rename_i starting
    exact .of_request starting rfl (List.append_nil _).symm
      (fun _ member => absurd member List.not_mem_nil)
  · rename_i _ notStarting
    exact .silent notStarting rfl

theorem answers_check {packet : Packet} {out : FsmOut}
    (returned : (ipcp.protocol surroundings).checkConf session packet = some out) :
    Emits terms (Answer surroundings.link.hwaddr) session out := by
  have same : (ipcp.protocol surroundings).checkConf =
      checkConf surroundings.link.hwaddr surroundings.getSession :=
    protocol_checkConf surroundings.link.hwaddr surroundings.getSession
  rw [same] at returned
  exact answers_checkConf returned

theorem transmits_recvConfReq {packet : Packet} {out : FsmOut}
    (isRequest : packet.code = LCPCode.confReq)
    (received : (ipcp.protocol surroundings).recvConfReq session packet = some out) :
    Transmits surroundings.link.hwaddr session
      (Requests session (.receive surroundings packet)) out := by
  have other : packet.code = LCPCode.confAck -> False := by
    rw [isRequest]
    decide
  have quiet : ipcp.state session ≠ .opened -> ipcp.state session ≠ .stopped ->
      ¬ Requests session (.receive surroundings packet) := by
    rintro notOpened notStopped (⟨_, opened | stopped⟩ | ⟨isAck, _⟩)
    · exact notOpened opened
    · exact notStopped stopped
    · exact other isAck
  unfold FsmClass.recvConfReq at received
  split at received
  · rename_i state
    rw [← Option.some.inj received]
    exact .silent (quiet (state.trans_ne (by decide)) (state.trans_ne (by decide))) rfl
  · rename_i state
    rw [← Option.some.inj received]
    exact .silent (quiet (state.trans_ne (by decide)) (state.trans_ne (by decide))) rfl
  · rename_i state
    rw [← Option.some.inj received]
    exact .silent (quiet (state.trans_ne (by decide)) (state.trans_ne (by decide))) rfl
  · rename_i opened
    rw [← Option.some.inj received]
    exact .of_request (.inl ⟨isRequest, .inl opened⟩) rfl (List.append_nil _).symm
      (fun _ member => absurd member List.not_mem_nil)
  · rename_i stopped
    rcases Option.map_eq_some_iff.mp received with ⟨checked, returned, equal⟩
    rw [← equal]
    exact .of_request (.inl ⟨isRequest, .inr stopped⟩) rfl rfl (answers_check returned).good
  · rename_i notOpened notStopped
    exact .answers (quiet notOpened notStopped) (answers_check received).good

theorem transmits_recvConfAck {packet : Packet} (isAck : packet.code = LCPCode.confAck) :
    Transmits surroundings.link.hwaddr session
      (Requests session (.receive surroundings packet))
      ((ipcp.protocol surroundings).recvConfAck session packet) := by
  have other : packet.code = LCPCode.confReq -> False := by
    rw [isAck]
    decide
  unfold FsmClass.recvConfAck
  split
  · rename_i unmatched
    refine .silent ?_ rfl
    rintro (⟨isRequest, _⟩ | ⟨_, matching, _⟩)
    · exact other isRequest
    · exact unmatched matching
  · rename_i matching
    have quiet : ipcp.state session ≠ .opened ->
        ¬ Requests session (.receive surroundings packet) := by
      rintro notOpened (⟨isRequest, _⟩ | ⟨_, _, opened⟩)
      · exact other isRequest
      · exact notOpened opened
    dsimp only
    split
    · rename_i state
      exact .silent (quiet (state.trans_ne (by decide))) rfl
    · rename_i state
      exact .silent (quiet (state.trans_ne (by decide))) rfl
    · rename_i opened
      exact .of_request (.inr ⟨isAck, Decidable.not_not.mp matching, opened⟩) rfl
        (List.append_nil _).symm (fun _ member => absurd member List.not_mem_nil)
    · rename_i _ _ notOpened
      exact .silent (quiet notOpened) rfl

theorem transmits_receive {packet : Packet} {out : FsmOut}
    (received : (ipcp.protocol surroundings).receive session packet = some out) :
    Transmits surroundings.link.hwaddr session
      (Requests session (.receive surroundings packet)) out := by
  have quiet : packet.code ≠ LCPCode.confReq -> packet.code ≠ LCPCode.confAck ->
      ¬ Requests session (.receive surroundings packet) := by
    rintro noRequest noAck (⟨isRequest, _⟩ | ⟨isAck, _⟩)
    · exact noRequest isRequest
    · exact noAck isAck
  unfold FsmClass.receive at received
  dsimp only at received
  split at received
  · rename_i early
    rw [← Option.some.inj received]
    refine .silent ?_ rfl
    rintro (⟨_, opened | stopped⟩ | ⟨_, _, opened⟩)
    · rcases early with state | state <;> cases state.symm.trans opened
    · rcases early with state | state <;> cases state.symm.trans stopped
    · rcases early with state | state <;> cases state.symm.trans opened
  · split at received
    · rename_i isRequest
      exact transmits_recvConfReq isRequest received
    · rename_i noRequest
      split at received
      · rename_i isAck
        rw [← Option.some.inj received]
        exact transmits_recvConfAck isAck
      · rename_i noAck
        refine .silent (quiet noRequest noAck) ?_
        split at received
        · rw [← Option.some.inj received]
          unfold FsmClass.recvTermReq
          split <;> rfl
        · split at received
          · rw [← Option.some.inj received]
            rfl
          · split at received <;>
            · rw [← Option.some.inj received]
              rfl

end

/-- What any call sends. -/
theorem transmits_call {surroundings : Surroundings} {session : PPPOESession} {call : FsmCall}
    {out : FsmOut}
    (own : call = .openFsm surroundings ∨ call = .layerUp surroundings ∨
      ∃ packet, call = .receive surroundings packet)
    (called : ipcp.call session call = some out) :
    Transmits surroundings.link.hwaddr session (Requests session call) out ∧
      terms out.session = terms session := by
  have kept := emitting_terms surroundings.link.hwaddr surroundings.getSession
  rcases own with isOpen | isUp | ⟨packet, isReceive⟩
  · rw [isOpen] at called ⊢
    rw [← Option.some.inj called]
    exact ⟨transmits_openFsm, (kept.openFsm session).kept⟩
  · rw [isUp] at called ⊢
    rw [← Option.some.inj called]
    exact ⟨transmits_layerUp, (kept.layerUp session).kept⟩
  · rw [isReceive] at called ⊢
    exact ⟨transmits_receive called, (kept.receive trivial called).kept⟩

/-! ## The packets in flight -/

/-- Answers leave without a number of their own. -/
theorem foldl_push_answers {packets : List Bytes} {conversation : Conversation}
    (answers : forall packet, packet ∈ packets -> ¬ IsRequest packet) :
    packets.foldl push conversation = { conversation with
      toPeer := conversation.toPeer ++
        packets.map (fun packet => { serial := conversation.requests, packet := packet }) } := by
  induction packets generalizing conversation with
  | nil =>
      rw [List.map_nil, List.append_nil]
      rfl
  | cons packet packets inductionHypothesis =>
      have isAnswer := answers packet List.mem_cons_self
      have pushed : conversation.push packet = { conversation with
          toPeer := conversation.toPeer ++
            [{ serial := conversation.requests, packet := packet }] } := by
        unfold push
        rw [if_neg isAnswer]
      rw [List.foldl_cons, pushed, inductionHypothesis (fun other member =>
        answers other (List.mem_cons_of_mem _ member)), List.map_cons, List.append_assoc]
      rfl

/-- What a call puts in flight. -/
inductive Sends (requests : Prop) (before : Conversation) (session : PPPOESession)
    (after : Conversation) : Prop
  | request (packet : Bytes) (answers : List Outgoing) : requests -> IsRequest packet ->
      Packet.identifier ⟨packet, fun _ => 0⟩ = before.session.ipcp.pktId ->
      (forall outgoing, outgoing ∈ answers -> ¬ IsRequest outgoing.packet) ->
      after = { before with
        session := session, requests := before.requests + 1
        toPeer := before.toPeer ++
          { serial := before.requests + 1, packet := packet } :: answers } ->
      Sends requests before session after
  | answers (answers : List Outgoing) : ¬ requests ->
      (forall outgoing, outgoing ∈ answers -> ¬ IsRequest outgoing.packet) ->
      after = { before with session := session, toPeer := before.toPeer ++ answers } ->
      Sends requests before session after

theorem sends_of_transmits {conversation : Conversation} {hwaddr : Mac} {requests : Prop}
    {out : FsmOut} (transmits : Transmits hwaddr conversation.session requests out) :
    Sends requests conversation out.session (conversation.transmit hwaddr out) := by
  have packets : forall frames : List Bytes,
      (forall frame, frame ∈ frames -> Answer hwaddr (terms conversation.session) frame) ->
        forall packet, packet ∈ frames.map (payload hwaddr conversation.session.encap) ->
          ¬ IsRequest packet := by
    intro frames answers packet member
    rcases List.mem_map.mp member with ⟨frame, sent, equal⟩
    rw [← equal]
    exact answers frame sent
  have numbered : forall (serial : Nat) (packets : List Bytes),
      (forall packet, packet ∈ packets -> ¬ IsRequest packet) ->
        forall outgoing, outgoing ∈ packets.map (fun packet => Outgoing.mk serial packet) ->
          ¬ IsRequest outgoing.packet := by
    intro serial packets answers outgoing member
    rcases List.mem_map.mp member with ⟨packet, sent, equal⟩
    rw [← equal]
    exact answers packet sent
  unfold transmit
  cases transmits with
  | request packet answers isRequest whole marked sent rest =>
      have others := packets answers rest
      rw [sent, List.map_cons, payload_frame, List.foldl_cons, foldl_push_answers others]
      refine .request packet _ isRequest whole marked (numbered (conversation.requests + 1) _ others) ?_
      unfold push
      rw [if_pos whole, List.append_assoc]
      rfl
  | answers noRequest rest =>
      have others := packets out.sent rest
      rw [foldl_push_answers others]
      exact .answers _ noRequest (numbered conversation.requests _ others) rfl

/-- A call in a conversation. -/
theorem call_cases {before after : Conversation} {surroundings : Surroundings} {call : FsmCall}
    (own : call = .openFsm surroundings ∨ call = .layerUp surroundings ∨
      ∃ packet, call = .receive surroundings packet)
    (called : before.call surroundings call = some after) :
    ∃ out, ipcp.call before.session call = some out ∧ terms out.session = terms before.session ∧
      Sends (Requests before.session call) before out.session after := by
  rcases Option.map_eq_some_iff.mp called with ⟨out, returned, equal⟩
  have sent := transmits_call own returned
  refine ⟨out, returned, sent.2, ?_⟩
  rw [← equal]
  exact sends_of_transmits sent.1

/-! ## Fresh acks -/

/-- Neither a Configure-Request of the automaton nor a Configure-Ack of the peer is
in flight. -/
def Clear (toPeer : List Outgoing) (toFsm : List Incoming) : Prop :=
  (∀ outgoing ∈ toPeer, ¬ IsRequest outgoing.packet) ∧
    ∀ incoming ∈ toFsm, incoming.packet.code ≠ LCPCode.confAck

instance (toPeer : List Outgoing) (toFsm : List Incoming) : Decidable (Clear toPeer toFsm) :=
  inferInstanceAs (Decidable (_ ∧ _))

/-- The automaton sends a Configure-Request only when the channel is clear.  A
packet that arrives is not in flight any more. -/
def Settled (conversation : Conversation) : ConversationEvent -> Prop
  | .openFsm surroundings => Requests conversation.session (.openFsm surroundings) ->
      Clear conversation.toPeer conversation.toFsm
  | .layerUp surroundings => Requests conversation.session (.layerUp surroundings) ->
      Clear conversation.toPeer conversation.toFsm
  | .arrives surroundings index => ∀ arrival ∈ takeMessage conversation.toFsm index,
      Requests conversation.session (.receive surroundings arrival.1.packet) ->
        Clear conversation.toPeer arrival.2
  | _ => True

instance (conversation : Conversation) : forall event, Decidable (conversation.Settled event)
  | .openFsm _ | .layerUp _ => inferInstanceAs (Decidable (_ -> _))
  | .arrives _ _ => inferInstanceAs (Decidable (∀ _ ∈ _, _))
  | .elsewhere _ | .peerAcks _ _ | .peerSends _ | .outward _ | .inward _ =>
      inferInstanceAs (Decidable True)

/-- When the automaton enters Ack_Rcvd or Opened because of a Configure-Ack, this
ack answers its latest Configure-Request. -/
def FreshAck (before : Conversation) (event : ConversationEvent) (after : Conversation) : Prop :=
  match event with
  | .arrives _ index => ∀ arrival ∈ takeMessage before.toFsm index,
      arrival.1.packet.code = LCPCode.confAck ->
        ipcp.state after.session ∈ [PPPFsmState.ackRcvd, .opened] ->
          ipcp.state before.session ≠ ipcp.state after.session ->
            arrival.1.answers = some before.requests
  | _ => True

instance (before after : Conversation) : forall event, Decidable (FreshAck before event after)
  | .arrives _ _ => inferInstanceAs (Decidable (∀ _ ∈ _, _))
  | .openFsm _ | .layerUp _ | .elsewhere _ | .peerAcks _ _ | .peerSends _ | .outward _ | .inward _ =>
      inferInstanceAs (Decidable True)

/-- Before anything was said. -/
structure Fresh (conversation : Conversation) : Prop where
  initial : ipcp.state conversation.session = .initial
  requests : conversation.requests = 0
  toPeer : conversation.toPeer = []
  toFsm : conversation.toFsm = []

/-- The requests and acks in flight belong to the latest Configure-Request. -/
structure Current (conversation : Conversation) : Prop where
  requests : ∀ outgoing ∈ conversation.toPeer, IsRequest outgoing.packet ->
    outgoing.serial = conversation.requests
  acks : ∀ incoming ∈ conversation.toFsm, incoming.packet.code = LCPCode.confAck ->
    incoming.answers = some conversation.requests

theorem Fresh.current {conversation : Conversation} (fresh : conversation.Fresh) :
    conversation.Current := by
  constructor
  · intro outgoing member
    rw [fresh.toPeer] at member
    exact absurd member List.not_mem_nil
  · intro incoming member
    rw [fresh.toFsm] at member
    exact absurd member List.not_mem_nil

/-- A call keeps the packets in flight current, when the channel is clear for a
Configure-Request. -/
theorem Current.sends {before after : Conversation} {session : PPPOESession} {requests : Prop}
    (current : before.Current) (clear : requests -> Clear before.toPeer before.toFsm)
    (sends : Sends requests before session after) : after.Current := by
  cases sends with
  | request packet answers isRequest whole _ rest equal =>
      have nothing := clear isRequest
      rw [equal]
      refine ⟨fun outgoing member isWhole => ?_, fun incoming member isAck =>
        absurd isAck (nothing.2 incoming member)⟩
      rcases List.mem_append.mp member with earlier | sent
      · exact absurd isWhole (nothing.1 outgoing earlier)
      · rcases List.mem_cons.mp sent with here | later
        · rw [here]
        · exact absurd isWhole (rest outgoing later)
  | answers answers noRequest rest equal =>
      rw [equal]
      refine ⟨fun outgoing member isWhole => ?_, current.acks⟩
      rcases List.mem_append.mp member with earlier | sent
      · exact current.requests outgoing earlier isWhole
      · exact absurd isWhole (rest outgoing sent)

/-- Fewer packets in flight. -/
theorem Current.fewer {conversation : Conversation} {toPeer : List Outgoing} {toFsm : List Incoming}
    {session : PPPOESession} (current : conversation.Current)
    (outward : ∀ outgoing ∈ toPeer, outgoing ∈ conversation.toPeer)
    (inward : ∀ incoming ∈ toFsm, incoming ∈ conversation.toFsm) :
    Current { conversation with session := session, toPeer := toPeer, toFsm := toFsm } :=
  ⟨fun outgoing member => current.requests outgoing (outward outgoing member),
    fun incoming member => current.acks incoming (inward incoming member)⟩

theorem code_acknowledgement {outgoing : Outgoing} (behind : Nat -> UInt8)
    (whole : IsRequest outgoing.packet) :
    (acknowledgement outgoing behind).packet.code = LCPCode.confAck :=
  Packet.code_setCode _ whole.1

theorem current_step {before after : Conversation} {event : ConversationEvent}
    (current : before.Current) (settled : before.Settled event)
    (taken : before.step event = some after) : after.Current := by
  cases event with
  | openFsm surroundings =>
      rcases call_cases (.inl rfl) taken with ⟨out, _, _, sends⟩
      exact current.sends settled sends
  | layerUp surroundings =>
      rcases call_cases (.inr (.inl rfl)) taken with ⟨out, _, _, sends⟩
      exact current.sends settled sends
  | elsewhere later =>
      rcases Option.map_eq_some_iff.mp taken with ⟨session, _, equal⟩
      rw [← equal]
      exact current.fewer (fun _ member => member) (fun _ member => member)
  | arrives surroundings index =>
      rcases Option.bind_eq_some_iff.mp taken with ⟨⟨incoming, rest⟩, arrives, called⟩
      rcases call_cases (.inr (.inr ⟨incoming.packet, rfl⟩)) called with ⟨out, _, _, sends⟩
      exact (current.fewer (fun _ member => member) (mem_of_takeMessage arrives).2).sends
        (settled _ arrives) sends
  | peerAcks index behind =>
      rcases Option.bind_eq_some_iff.mp taken with ⟨⟨outgoing, rest⟩, arrives, answered⟩
      have inFlight := mem_of_takeMessage arrives
      dsimp only at answered
      split at answered
      · rename_i whole
        rw [← Option.some.inj answered]
        refine ⟨fun other member => current.requests other (inFlight.2 other member), ?_⟩
        intro incoming member isAck
        rcases List.mem_append.mp member with earlier | added
        · exact current.acks incoming earlier isAck
        · rw [List.mem_singleton.mp added]
          exact congrArg some (current.requests outgoing inFlight.1 whole)
      · cases answered
  | peerSends packet =>
      rw [step] at taken
      split at taken
      · cases taken
      · rename_i noAck
        rw [← Option.some.inj taken]
        refine ⟨current.requests, fun incoming member isAck => ?_⟩
        rcases List.mem_append.mp member with earlier | added
        · exact current.acks incoming earlier isAck
        · rw [List.mem_singleton.mp added] at isAck
          exact absurd isAck noAck
  | outward fault =>
      rw [← Option.some.inj taken]
      exact current.fewer (fun _ member => mem_of_mem_disturb member) (fun _ member => member)
  | inward fault =>
      rw [← Option.some.inj taken]
      exact current.fewer (fun _ member => member) (fun _ member => mem_of_mem_disturb member)

/-- In every run in which Configure-Requests are sent over a clear channel, the
acks that count are fresh. -/
theorem freshAck_of_settled {start now after : Conversation} (fresh : start.Fresh)
    {past : List (Conversation × ConversationEvent)} (run : Run step Settled start past now)
    {event : ConversationEvent} (taken : now.step event = some after) :
    FreshAck now event after := by
  have current : now.Current := run.invariant fresh.current
    (fun before event later here permitted stepped => current_step here permitted stepped)
  cases event with
  | arrives surroundings index =>
      intro arrival arrives isAck _ _
      exact current.acks _ (mem_of_takeMessage arrives).1 isAck
  | openFsm | layerUp | elsewhere | peerAcks | peerSends | outward | inward => trivial

/-! ## Stale acks -/

/-- Every request and ack in flight has the identifier of the automaton. -/
structure Matched (conversation : Conversation) : Prop where
  requests : ∀ outgoing ∈ conversation.toPeer, IsRequest outgoing.packet ->
    outgoing.serial ≤ conversation.requests ∧
      Packet.identifier ⟨outgoing.packet, fun _ => 0⟩ = conversation.session.ipcp.pktId
  acks : ∀ incoming ∈ conversation.toFsm, incoming.packet.code = LCPCode.confAck ->
    ∃ serial, incoming.answers = some serial ∧ serial ≤ conversation.requests ∧
      incoming.packet.identifier = conversation.session.ipcp.pktId

theorem Fresh.matched {conversation : Conversation} (fresh : conversation.Fresh) :
    conversation.Matched := by
  constructor
  · intro outgoing member
    rw [fresh.toPeer] at member
    exact absurd member List.not_mem_nil
  · intro incoming member
    rw [fresh.toFsm] at member
    exact absurd member List.not_mem_nil

theorem Matched.sends {before after : Conversation} {session : PPPOESession} {requests : Prop}
    (matched : before.Matched) (kept : terms session = terms before.session)
    (sends : Sends requests before session after) : after.Matched := by
  have same := (Prod.mk.inj kept).2
  cases sends with
  | request packet answers isRequest whole marked rest equal =>
      rw [equal]
      refine ⟨fun outgoing member isWhole => ?_, fun incoming member isAck => ?_⟩
      · dsimp only
        rw [same]
        rcases List.mem_append.mp member with earlier | sent
        · have old := matched.requests outgoing earlier isWhole
          exact ⟨Nat.le_succ_of_le old.1, old.2⟩
        · rcases List.mem_cons.mp sent with here | later
          · rw [here]
            exact ⟨Nat.le_refl _, marked⟩
          · exact absurd isWhole (rest outgoing later)
      · rcases matched.acks incoming member isAck with ⟨serial, answers, older, identified⟩
        exact ⟨serial, answers, Nat.le_succ_of_le older, identified.trans same.symm⟩
  | answers answers noRequest rest equal =>
      rw [equal]
      refine ⟨fun outgoing member isWhole => ?_, fun incoming member isAck => ?_⟩
      · dsimp only
        rw [same]
        rcases List.mem_append.mp member with earlier | sent
        · exact matched.requests outgoing earlier isWhole
        · exact absurd isWhole (rest outgoing sent)
      · rcases matched.acks incoming member isAck with ⟨serial, answers, older, identified⟩
        exact ⟨serial, answers, older, identified.trans same.symm⟩

/-- Fewer packets in flight, and a session with the same identifier. -/
theorem Matched.fewer {conversation : Conversation} {toPeer : List Outgoing} {toFsm : List Incoming}
    {session : PPPOESession} (matched : conversation.Matched)
    (same : session.ipcp.pktId = conversation.session.ipcp.pktId)
    (outward : ∀ outgoing ∈ toPeer, outgoing ∈ conversation.toPeer)
    (inward : ∀ incoming ∈ toFsm, incoming ∈ conversation.toFsm) :
    Matched { conversation with session := session, toPeer := toPeer, toFsm := toFsm } where
  requests := fun outgoing member => same ▸ matched.requests outgoing (outward outgoing member)
  acks := fun incoming member => same ▸ matched.acks incoming (inward incoming member)

theorem identifier_acknowledgement {outgoing : Outgoing} (behind : Nat -> UInt8)
    (whole : IsRequest outgoing.packet) :
    (acknowledgement outgoing behind).packet.identifier =
      Packet.identifier ⟨outgoing.packet, fun _ => 0⟩ := by
  have header : 9 < outgoing.packet.length := Nat.lt_of_lt_of_le (by decide) whole.1
  exact (Buffer.read_set_of_ne ⟨outgoing.packet, behind⟩ _ (by decide)).trans
    (Buffer.read_eq outgoing.packet _ _ header)

theorem matched_step {before after : Conversation} {event : ConversationEvent}
    (matched : before.Matched) (taken : before.step event = some after) : after.Matched := by
  cases event with
  | openFsm surroundings =>
      rcases call_cases (.inl rfl) taken with ⟨out, _, kept, sends⟩
      exact matched.sends kept sends
  | layerUp surroundings =>
      rcases call_cases (.inr (.inl rfl)) taken with ⟨out, _, kept, sends⟩
      exact matched.sends kept sends
  | elsewhere later =>
      rcases Option.map_eq_some_iff.mp taken with ⟨session, called, equal⟩
      rcases Option.map_eq_some_iff.mp called with ⟨out, allowed, isSession⟩
      unfold Automaton.call at allowed
      dsimp only at allowed
      split at allowed
      · rename_i same
        rw [← equal, ← isSession, ← Option.some.inj allowed]
        exact matched.fewer (congrArg PPPFsm.pktId same) (fun _ member => member)
          (fun _ member => member)
      · cases allowed
  | arrives surroundings index =>
      rcases Option.bind_eq_some_iff.mp taken with ⟨⟨incoming, rest⟩, arrives, called⟩
      rcases call_cases (.inr (.inr ⟨incoming.packet, rfl⟩)) called with ⟨out, _, kept, sends⟩
      exact (matched.fewer rfl (fun _ member => member) (mem_of_takeMessage arrives).2).sends kept sends
  | peerAcks index behind =>
      rcases Option.bind_eq_some_iff.mp taken with ⟨⟨outgoing, rest⟩, arrives, answered⟩
      have inFlight := mem_of_takeMessage arrives
      dsimp only at answered
      split at answered
      · rename_i whole
        rw [← Option.some.inj answered]
        refine ⟨fun other member => matched.requests other (inFlight.2 other member), ?_⟩
        intro incoming member isAck
        rcases List.mem_append.mp member with earlier | added
        · exact matched.acks incoming earlier isAck
        · have known := matched.requests outgoing inFlight.1 whole
          rw [List.mem_singleton.mp added]
          exact ⟨outgoing.serial, rfl, known.1, (identifier_acknowledgement behind whole).trans known.2⟩
      · cases answered
  | peerSends packet =>
      rw [step] at taken
      split at taken
      · cases taken
      · rename_i noAck
        rw [← Option.some.inj taken]
        refine ⟨matched.requests, fun incoming member isAck => ?_⟩
        rcases List.mem_append.mp member with earlier | added
        · exact matched.acks incoming earlier isAck
        · rw [List.mem_singleton.mp added] at isAck
          exact absurd isAck noAck
  | outward fault =>
      rw [← Option.some.inj taken]
      exact matched.fewer rfl (fun _ member => mem_of_mem_disturb member) (fun _ member => member)
  | inward fault =>
      rw [← Option.some.inj taken]
      exact matched.fewer rfl (fun _ member => member) (fun _ member => mem_of_mem_disturb member)

/-- The state after an ack that counts. -/
def acked : PPPFsmState -> PPPFsmState
  | .reqSent => .ackRcvd
  | .ackSent => .opened
  | .opened => .reqSent
  | other => other

/-- What an ack with the right identifier does. -/
theorem state_recvConfAck {surroundings : Surroundings} {session : PPPOESession} {packet : Packet}
    {state : PPPFsmState} (matching : packet.identifier = session.ipcp.pktId)
    (now : ipcp.state session = state) :
    ipcp.state ((ipcp.protocol surroundings).recvConfAck session packet).session = acked state := by
  have identified : ¬ packet.identifier ≠ ((ipcp.protocol surroundings).fsm session).pktId :=
    not_not_intro matching
  have seen : (ipcp.protocol surroundings).state ((ipcp.protocol surroundings).setFsm session
      { (ipcp.protocol surroundings).fsm session with seenAck := true }) = state := now
  rw [FsmClass.recvConfAck, if_neg identified]
  dsimp only
  rw [seen]
  cases state <;> first | rfl | exact now

/-- After a Configure-Request the automaton waits for an ack. -/
theorem state_of_requests {surroundings : Surroundings} {session : PPPOESession} {call : FsmCall}
    {out : FsmOut}
    (own : call = .openFsm surroundings ∨ call = .layerUp surroundings ∨
      ∃ packet, call = .receive surroundings packet)
    (requests : Requests session call) (called : ipcp.call session call = some out) :
    ipcp.state out.session = .reqSent ∨ ipcp.state out.session = .ackSent := by
  rcases own with isOpen | isUp | ⟨packet, isReceive⟩
  · rw [isOpen] at called requests
    have closed : (ipcp.protocol surroundings).state session = .closed := requests
    rw [← Option.some.inj called, FsmClass.openFsm, closed]
    exact .inl rfl
  · rw [isUp] at called requests
    have starting : (ipcp.protocol surroundings).state session = .starting := requests
    rw [← Option.some.inj called, FsmClass.layerUp, starting]
    exact .inl rfl
  · rw [isReceive] at called requests
    have received : (ipcp.protocol surroundings).receive session packet = some out := called
    unfold FsmClass.receive at received
    dsimp only at received
    rcases requests with ⟨isRequest, opened | stopped⟩ | ⟨isAck, matching, opened⟩
    · have state : (ipcp.protocol surroundings).state session = .opened := opened
      rw [state, if_neg (by decide), if_pos isRequest, FsmClass.recvConfReq, state] at received
      rw [← Option.some.inj received]
      exact .inl rfl
    · have state : (ipcp.protocol surroundings).state session = .stopped := stopped
      rw [state, if_neg (by decide), if_pos isRequest, FsmClass.recvConfReq, state] at received
      rcases Option.map_eq_some_iff.mp received with ⟨checked, returned, equal⟩
      have same : (ipcp.protocol surroundings).checkConf =
          checkConf surroundings.link.hwaddr surroundings.getSession :=
        protocol_checkConf surroundings.link.hwaddr surroundings.getSession
      rw [same] at returned
      rw [← equal]
      cases protocol_checked _ _ returned with
      | silent _ kept => exact .inl kept
      | accepted _ moved => exact .inr moved
      | refused moved => exact .inl moved
      | kept _ kept => exact .inl kept
    · have state : (ipcp.protocol surroundings).state session = .opened := opened
      rw [state, if_neg (by decide), if_neg (by rw [isAck]; decide), if_pos isAck] at received
      rw [← Option.some.inj received]
      exact .inl (state_recvConfAck matching opened)

/-- An ack for an earlier request counts, when one for the latest is awaited. -/
theorem staleAck_arrives {conversation : Conversation} (surroundings : Surroundings)
    {incoming : Incoming} {serial : Nat}
    (waits : ipcp.state conversation.session = .reqSent ∨ ipcp.state conversation.session = .ackSent)
    (member : incoming ∈ conversation.toFsm) (isAck : incoming.packet.code = LCPCode.confAck)
    (matching : incoming.packet.identifier = conversation.session.ipcp.pktId)
    (answers : incoming.answers = some serial) (older : serial < conversation.requests) :
    ∃ index after, conversation.step (.arrives surroundings index) = some after ∧
      ¬ FreshAck conversation (.arrives surroundings index) after := by
  rcases exists_takeMessage member with ⟨index, rest, arrives⟩
  have early : ¬ ((ipcp.protocol surroundings).state conversation.session = .initial ∨
      (ipcp.protocol surroundings).state conversation.session = .starting) := by
    rintro (initial | starting)
    · rcases waits with state | state <;> cases initial.symm.trans state
    · rcases waits with state | state <;> cases starting.symm.trans state
  have called : ipcp.call conversation.session (.receive surroundings incoming.packet) =
      some ((ipcp.protocol surroundings).recvConfAck conversation.session incoming.packet) := by
    show (ipcp.protocol surroundings).receive conversation.session incoming.packet = _
    unfold FsmClass.receive
    dsimp only
    rw [if_neg early, if_neg (by rw [isAck]; decide), if_pos isAck]
  cases taken : conversation.step (.arrives surroundings index) with
  | none =>
      rw [step, arrives, Option.bind_some] at taken
      dsimp only at taken
      unfold Conversation.call at taken
      rw [called] at taken
      cases taken
  | some after =>
      have stepped := taken
      rw [step, arrives, Option.bind_some] at stepped
      rcases call_cases (.inr (.inr ⟨incoming.packet, rfl⟩)) stepped with ⟨out, returned, _, sends⟩
      have isOut := Option.some.inj (called.symm.trans returned)
      have session : after.session = out.session := by
        cases sends with
        | request _ _ _ _ _ _ equal => rw [equal]
        | answers _ _ _ equal => rw [equal]
      refine ⟨index, after, taken, fun isFresh => ?_⟩
      have entered : ipcp.state after.session ∈ [PPPFsmState.ackRcvd, .opened] ∧
          ipcp.state conversation.session ≠ ipcp.state after.session := by
        rw [session, ← isOut]
        rcases waits with state | state
        · rw [state_recvConfAck matching state, state]
          exact ⟨by decide, by decide⟩
        · rw [state_recvConfAck matching state, state]
          exact ⟨by decide, by decide⟩
      have latest := isFresh _ arrives isAck entered.1 entered.2
      rw [answers] at latest
      exact absurd (Option.some.inj latest) (Nat.ne_of_lt older)

/-- When a Configure-Request is sent over a channel that is not clear, the run can
go on to an ack that is not fresh. -/
theorem staleAck_of_call {before middle : Conversation} {surroundings : Surroundings}
    {call : FsmCall} (matched : before.Matched)
    (own : call = .openFsm surroundings ∨ call = .layerUp surroundings ∨
      ∃ packet, call = .receive surroundings packet)
    (requests : Requests before.session call) (unclear : ¬ Clear before.toPeer before.toFsm)
    (called : before.call surroundings call = some middle) :
    ∃ last event after, Reachable step middle last ∧ last.step event = some after ∧
      ¬ FreshAck last event after := by
  rcases call_cases own called with ⟨out, returned, kept, sends⟩
  have waits := state_of_requests own requests returned
  have same : out.session.ipcp.pktId = before.session.ipcp.pktId := (Prod.mk.inj kept).2
  cases sends with
  | answers _ noRequest _ _ => exact absurd requests noRequest
  | request packet answers _ _ _ _ equal =>
      by_cases asked : ∃ outgoing ∈ before.toPeer, IsRequest outgoing.packet
      · rcases asked with ⟨outgoing, member, whole⟩
        -- The peer acks the earlier request.
        have known := matched.requests outgoing member whole
        have inFlight : outgoing ∈ middle.toPeer := by
          rw [equal]
          exact List.mem_append_left _ member
        rcases exists_takeMessage inFlight with ⟨index, rest, arrives⟩
        let answered : Conversation := { middle with
          toPeer := rest, toFsm := middle.toFsm ++ [acknowledgement outgoing (fun _ => 0)] }
        have taken : middle.step (.peerAcks index (fun _ => 0)) = some answered := by
          rw [step, arrives, Option.bind_some]
          exact if_pos whole
        have later : answered.session = out.session ∧ answered.requests = before.requests + 1 := by
          dsimp only [answered]
          rw [equal]
          exact ⟨rfl, rfl⟩
        have stale := @staleAck_arrives answered surroundings (acknowledgement outgoing (fun _ => 0))
          outgoing.serial (by rw [later.1]; exact waits) (List.mem_append_right _ (List.mem_singleton_self _))
          (code_acknowledgement _ whole)
          (by rw [later.1, same, identifier_acknowledgement _ whole]; exact known.2) rfl
          (by rw [later.2]; exact Nat.lt_succ_of_le known.1)
        rcases stale with ⟨index, after, stepped, notFresh⟩
        exact ⟨answered, _, after, (Reachable.refl step middle).next taken, stepped, notFresh⟩
      · have acks : ∃ incoming ∈ before.toFsm, incoming.packet.code = LCPCode.confAck := by
          by_contra none
          refine unclear ⟨fun outgoing member whole => asked ⟨outgoing, member, whole⟩,
            fun incoming member isAck => none ⟨incoming, member, isAck⟩⟩
        rcases acks with ⟨incoming, member, isAck⟩
        rcases matched.acks incoming member isAck with ⟨serial, isAnswer, older, identified⟩
        have stale := @staleAck_arrives middle surroundings incoming serial
          (by rw [equal]; exact waits) (by rw [equal]; exact member) isAck
          (by rw [equal]; exact identified.trans same.symm) isAnswer
          (by rw [equal]; exact Nat.lt_succ_of_le older)
        rcases stale with ⟨index, after, stepped, notFresh⟩
        exact ⟨middle, _, after, .refl step middle, stepped, notFresh⟩

/-- The condition is exact: a step that does not meet it can be followed by a step
that breaks the law. -/
theorem staleAck_of_unsettled {start now middle : Conversation} (fresh : start.Fresh)
    (reached : Reachable step start now) {event : ConversationEvent}
    (taken : now.step event = some middle) (unsettled : ¬ now.Settled event) :
    ∃ last later after, Reachable step middle last ∧ last.step later = some after ∧
      ¬ FreshAck last later after := by
  have matched : now.Matched := reached.invariant fresh.matched
    (fun before event after here stepped => matched_step here stepped)
  cases event with
  | openFsm surroundings =>
      rcases Classical.not_imp.mp unsettled with ⟨requests, unclear⟩
      exact staleAck_of_call matched (.inl rfl) requests unclear taken
  | layerUp surroundings =>
      rcases Classical.not_imp.mp unsettled with ⟨requests, unclear⟩
      exact staleAck_of_call matched (.inr (.inl rfl)) requests unclear taken
  | arrives surroundings index =>
      rcases Option.bind_eq_some_iff.mp taken with ⟨⟨incoming, rest⟩, arrives, called⟩
      have broken : ¬ (Requests now.session (.receive surroundings incoming.packet) ->
          Clear now.toPeer rest) := by
        intro settled
        refine unsettled (fun arrival found => ?_)
        have isArrival := Option.some.inj (arrives.symm.trans found)
        rw [← isArrival]
        exact settled
      rcases Classical.not_imp.mp broken with ⟨requests, unclear⟩
      exact @staleAck_of_call { now with toFsm := rest } _ _ _
        (matched.fewer rfl (fun _ member => member) (mem_of_takeMessage arrives).2)
        (.inr (.inr ⟨incoming.packet, rfl⟩)) requests unclear called
  | elsewhere | peerAcks | peerSends | outward | inward => exact absurd trivial unsettled

/-- A session whose IPCP is not started, before anything was said. -/
def sampleConversation : Conversation := { session := sampleSession }

theorem fresh_sampleConversation : sampleConversation.Fresh := ⟨rfl, rfl, rfl, rfl⟩

/-- IPCP asks, and the peer acks. -/
def sampleAsked : List ConversationEvent :=
  [.openFsm sampleSurroundings, .layerUp sampleSurroundings, .peerAcks 0 (fun _ => 0)]

/-- The ack arrives over a channel that made no copies. -/
theorem freshAck_sample : ∃ now after, now.step (.arrives sampleSurroundings 0) = some after ∧
    ipcp.state now.session = .reqSent ∧ ipcp.state after.session = .ackRcvd ∧
      FreshAck now (.arrives sampleSurroundings 0) after := by
  let now := Foundation.after step sampleConversation sampleAsked (by decide +kernel)
  have acked : (now.step (.arrives sampleSurroundings 0)).any (fun after =>
      decide (ipcp.state after.session = .ackRcvd)) = true := by decide +kernel
  rcases (Option.any_eq_true _ _).mp acked with ⟨after, taken, entered⟩
  rcases run_after step Settled sampleConversation sampleAsked (by decide +kernel) (by decide +kernel) with
    ⟨past, run⟩
  exact ⟨now, after, taken, by decide +kernel, of_decide_eq_true entered,
    freshAck_of_settled fresh_sampleConversation run taken⟩

/-- The channel copies the ack.  It arrives, the peer's requests are acked, and
the second of them restarts the negotiation. -/
def sampleRestarted : List ConversationEvent :=
  let asks := samplePacket LCPCode.confReq (opt4B IPCPOption.ipAddress 10)
  sampleAsked ++ [.inward (.duplicate 0), .arrives sampleSurroundings 0, .peerSends asks,
    .arrives sampleSurroundings 1, .peerSends asks, .arrives sampleSurroundings 1]

/-- Then the copy arrives, and IPCP takes it for an answer to its second request. -/
theorem staleAck : ∃ now after, Reachable step sampleConversation now ∧
    now.step (.arrives sampleSurroundings 0) = some after ∧
      ¬ FreshAck now (.arrives sampleSurroundings 0) after := by
  let now := Foundation.after step sampleConversation sampleRestarted (by decide +kernel)
  have acked : (now.step (.arrives sampleSurroundings 0)).any (fun after =>
      decide (¬ FreshAck now (.arrives sampleSurroundings 0) after)) = true := by decide +kernel
  rcases (Option.any_eq_true _ _).mp acked with ⟨after, taken, stale⟩
  exact ⟨now, after, reachable_after step sampleConversation sampleRestarted _, taken,
    of_decide_eq_true stale⟩

end Conversation

end Pppcpd
