import Pppcpd.Ppp.Automata
import Pppcpd.Ppp.Emits
import Pppcpd.Ppp.IpcpReply
import Pppcpd.Wire.Lengths

namespace Pppcpd

open Foundation

/-!
# The frames of a session are consistent

The builders of a session's frames compute the lengths by hand, or answer in the
bytes of the packet they received.  What they send for a packet that is
consistent with itself is consistent with itself, and carries the session id.
-/

/-- What the frames of a session are judged by: its link, and its session id, of
which both automata have a copy. -/
structure Identity where
  encap : Encapsulation
  sessionId : UInt16
  lcpId : UInt16
  ipcpId : UInt16

def PPPOESession.identity (session : PPPOESession) : Identity :=
  ⟨session.encap, session.sessionId, session.lcp.sessionId, session.ipcp.sessionId⟩

/-- The session and its automata have the same session id. -/
structure Identity.Agrees (sid : UInt16) (identity : Identity) : Prop where
  session : identity.sessionId = sid
  lcp : identity.lcpId = sid
  ipcp : identity.ipcpId = sid

/-- The frame starts with the header for a link, and a consistent packet with the
session id follows. -/
def FrameOf (hwaddr : Mac) (encap : Encapsulation) (sid : UInt16) (frame : Bytes) : Prop :=
  ∃ packet, frame = encap.generateHeader hwaddr ethPppoeSession ++ packet ∧
    forall behind, Packet.pppoeSessionId ⟨packet, behind⟩ = sid ∧
      Packet.SelfConsistent ⟨packet, behind⟩

/-- A frame of a session with a given session id. -/
def GoodFrame (hwaddr : Mac) (sid : UInt16) (identity : Identity) (frame : Bytes) : Prop :=
  identity.Agrees sid -> FrameOf hwaddr identity.encap sid frame

/-- A packet that a peer may send to a session: consistent, and with known options
of their size in an IPCP Configure-Request. -/
structure WellFormedFrame (packet : Packet) : Prop where
  consistent : packet.SelfConsistent
  addresses : packet.pppProtocol = PPPProto.ipcp -> packet.code = LCPCode.confReq ->
    ∃ options, packet.Carries options ∧ IPCPFsm.WellFormed options

/-- The packets that an automaton is called with for a session id. -/
structure Accepted (proto : UInt16) (sid : UInt16) (packet : Packet) : Prop where
  wellFormed : WellFormedFrame packet
  isProto : packet.pppProtocol = proto
  sessionId : packet.pppoeSessionId = sid

section

variable {hwaddr : Mac} {sid : UInt16}

/-- A packet that is built for a session. -/
theorem goodFrame_built {identity : Identity} {own proto : UInt16} {code identifier : UInt8}
    {body padding : Bytes} (isOwn : identity.Agrees sid -> own = sid) (fits : body.length + 6 < 65536)
    (tiled : (proto = PPPProto.lcp ∨ proto = PPPProto.ipcp) ->
      code ∈ [LCPCode.confReq, LCPCode.confAck, LCPCode.confNak, LCPCode.confRej] ->
        ∃ options, body = encodeOptions options) :
    GoodFrame hwaddr sid identity (identity.encap.generateHeader hwaddr ethPppoeSession ++
      builtPacket own proto code identifier body padding) := by
  intro agrees
  refine ⟨_, rfl, fun behind => ⟨?_, selfConsistent_builtPacket own proto code identifier body padding
    behind fits tiled⟩⟩
  rw [(builtPacket_fields own proto code identifier body padding behind).1]
  exact isOwn agrees

/-- The memory behind a packet that has a header does not matter. -/
theorem Packet.SelfConsistent.behind {packet : Packet} (consistent : packet.SelfConsistent)
    (other : Nat -> UInt8) : Packet.SelfConsistent ⟨packet.bytes, other⟩ := by
  have inside := consistent.header
  have same : Packet.SameHeader packet ⟨packet.bytes, other⟩ := ⟨rfl, fun index below _ =>
    Buffer.read_eq packet.bytes other packet.behind (Nat.lt_of_lt_of_le below inside)⟩
  have sameCode : Packet.code ⟨packet.bytes, other⟩ = packet.code :=
    Buffer.read_eq packet.bytes other packet.behind (Nat.lt_of_lt_of_le (by decide) inside)
  refine same.selfConsistent consistent (fun isConfigure => ?_)
  have was : packet.IsConfigure := by
    unfold Packet.IsConfigure at isConfigure ⊢
    rw [same.pppProtocol, sameCode] at isConfigure
    exact isConfigure
  rcases consistent.tiled was with ⟨options, carries⟩
  refine ⟨options, ?_, carries.bytes⟩
  rw [same.length]
  exact carries.length

/-- An answer in the bytes of a packet that is consistent. -/
theorem goodFrame_answer {identity : Identity} {packet changed : Packet}
    (consistent : packet.SelfConsistent) (sessionId : packet.pppoeSessionId = sid)
    (same : Packet.SameHeader packet changed)
    (tiled : changed.IsConfigure -> ∃ options, changed.Carries options) :
    GoodFrame hwaddr sid identity
      (identity.encap.generateHeader hwaddr ethPppoeSession ++ changed.bytes) := by
  intro _
  have answered := same.selfConsistent consistent tiled
  refine ⟨_, rfl, fun behind => ⟨?_, answered.behind behind⟩⟩
  have isSid := same.pppoeSessionId.trans sessionId
  rw [← isSid]
  exact Buffer.field16_eq changed.bytes behind changed.behind
    (Nat.lt_of_lt_of_le (by decide) answered.header)

/-- An acknowledgement of a packet that carries options. -/
theorem goodFrame_acceptConf {access : FsmAccess} {session : PPPOESession} {packet : Packet}
    {options : List PPPOption} {identity : Identity} (consistent : packet.SelfConsistent)
    (sessionId : packet.pppoeSessionId = sid) (carries : packet.Carries options)
    (encap : (access.acceptConf hwaddr session packet).session.encap = identity.encap) :
    ∃ frame, (access.acceptConf hwaddr session packet).sent = [frame] ∧
      GoodFrame hwaddr sid identity frame := by
  refine ⟨_, rfl, ?_⟩
  have good := @goodFrame_answer hwaddr sid identity packet (packet.setCode LCPCode.confAck) consistent
    sessionId (Packet.sameHeader_setCode packet _) (fun _ => ⟨options, carries.setCode _⟩)
  unfold PPPOESession.frame
  unfold FsmAccess.acceptConf at encap
  rw [show (access.setFsm session _).encap = identity.encap from encap]
  exact good

/-- A Configure-Reject with options. -/
theorem goodFrame_confRej {access : FsmAccess} {proto : UInt16} {session : PPPOESession}
    {rejected : List PPPOption} {identity : Identity} (identifier : UInt8)
    (isOwn : identity.Agrees sid -> (access.fsm session).sessionId = sid)
    (fits : (encodeOptions rejected).length + 6 < 65536) (encap : session.encap = identity.encap) :
    ∃ frame, (access.sendConfRej proto hwaddr session (encodeOptions rejected) identifier).sent =
        [frame] ∧ GoodFrame hwaddr sid identity frame := by
  refine ⟨_, rfl, ?_⟩
  have good := @goodFrame_built hwaddr sid identity (access.fsm session).sessionId proto LCPCode.confRej
    identifier (encodeOptions rejected) [] isOwn fits (fun _ _ => ⟨rejected, rfl⟩)
  unfold builtPacket at good
  rw [List.append_nil] at good
  unfold PPPOESession.frame
  rw [encap]
  exact good

end

namespace LCPFsm

theorem exists_authOption {policy : LCPPolicy} {auth : Bytes} (chosen : authOption policy = some auth) :
    ∃ option : PPPOption, auth = option.bytes ∧ option.size ≤ 5 := by
  unfold authOption at chosen
  split at chosen
  · rw [← Option.some.inj chosen]
    exact ⟨⟨LCPOption.authProto, bytes16 PPPProto.chap ++ [5], by decide⟩, rfl, by decide⟩
  · split at chosen
    · rw [← Option.some.inj chosen]
      exact ⟨⟨LCPOption.authProto, bytes16 PPPProto.pap, by decide⟩, rfl, by decide⟩
    · cases chosen

/-- The loop of `check_conf` collects the options that are not accepted. -/
theorem rejected_foldl {packet : Packet} {offsets : List Nat} {options : List PPPOption}
    (located : List.Forall₂ packet.OptionAt offsets options) (walk : PPPOESession × UInt8 × Bytes) :
    (offsets.foldl (checkOption packet) walk).2.2 = walk.2.2 ++ encodeOptions (others options) := by
  induction located generalizing walk with
  | nil => exact (List.append_nil _).symm
  | @cons offset option offsets options here _ inductionHypothesis =>
      rw [List.foldl_cons, inductionHypothesis]
      unfold checkOption others
      rw [here.kind, here.bytes, List.filter_cons]
      by_cases isMru : option.kind = LCPOption.mru
      · simp [isMru, Known]
      · by_cases isMagic : option.kind = LCPOption.magicNumber
        · rw [if_neg isMru, if_pos isMagic, if_neg (by simp [Known, isMagic])]
        · rw [if_neg isMru, if_neg isMagic, if_pos (by simp [Known, isMru, isMagic]),
            encodeOptions_cons, List.append_assoc]

theorem identity_of_outside {walked session : PPPOESession} (same : outside walked = outside session)
    (fsm : walked.lcp = session.lcp) : walked.identity = session.identity := by
  have parts : forall session : PPPOESession, session.identity =
      { (outside session).identity with lcpId := session.lcp.sessionId } := fun _ => rfl
  rw [parts walked, parts session, same, fsm]

theorem identity_setFsm (session : PPPOESession) (fsm : PPPFsm)
    (same : fsm.sessionId = (access.fsm session).sessionId) :
    (access.setFsm session fsm).identity = session.identity := by
  unfold PPPOESession.identity
  change Identity.mk _ _ fsm.sessionId _ = _
  rw [same]
  rfl

theorem identity_refuseState (session : PPPOESession) :
    (access.refuseState session).identity = session.identity := by
  unfold FsmAccess.refuseState
  split
  · rfl
  · exact identity_setFsm session _ rfl

section

variable (context : LinkContext) (sid : UInt16)

theorem emits_sendConfReq (session : PPPOESession) :
    Emits PPPOESession.identity (GoodFrame context.hwaddr sid) session
      (sendConfReq context session) := by
  unfold sendConfReq
  cases chosen : authOption context.lcpConf with
  | none => exact .silent rfl rfl
  | some auth =>
      rcases exists_authOption chosen with ⟨option, isOption, small⟩
      have good := fun magic => @goodFrame_built context.hwaddr sid session.identity session.lcp.sessionId
        PPPProto.lcp LCPCode.confReq session.lcp.pktId
        (opt2B LCPOption.mru context.lcpConf.mru ++ auth ++ opt4B LCPOption.magicNumber magic)
        resizePadding (fun agrees => agrees.lcp)
        (by
          rw [isOption]
          simp [opt2B, opt4B, bytes16, bytes32]
          omega)
        (fun _ _ => ⟨[⟨LCPOption.mru, bytes16 context.lcpConf.mru, by simp [bytes16]⟩, option,
          .of32 LCPOption.magicNumber magic], by
            rw [isOption]
            simp [opt2B, opt4B, PPPOption.bytes, PPPOption.of32, PPPOption.size, bytes16, bytes32]⟩)
      exact .single rfl rfl (good _)

theorem emits_checkConf {session : PPPOESession} {packet : Packet} {out : FsmOut}
    (accepted : Accepted PPPProto.lcp sid packet) (isRequest : packet.code = LCPCode.confReq)
    (returned : checkConf context session packet = some out) :
    Emits PPPOESession.identity (GoodFrame context.hwaddr sid) session out := by
  have consistent := accepted.wellFormed.consistent
  have isConfigure : packet.IsConfigure :=
    ⟨.inl accepted.isProto, isRequest ▸ List.mem_cons_self⟩
  rcases consistent.tiled isConfigure with ⟨options, carries⟩
  unfold checkConf at returned
  dsimp only at returned
  split at returned
  · rw [← Option.some.inj returned]
    exact .silent rfl rfl
  · rw [visited_of_carries carries, Option.map_some] at returned
    have kept := foldl_checkOption packet (optionOffsets options) (session, LCPCode.confAck, [])
    have same := identity_of_outside kept.1 kept.2
    have rejected := rejected_foldl carries.optionsAt (session, LCPCode.confAck, [])
    generalize (optionOffsets options).foldl (checkOption packet) (session, LCPCode.confAck, []) = walk
      at returned same rejected
    rw [← Option.some.inj returned]
    split
    · have accepts : (access.acceptConf context.hwaddr walk.1 packet).session.identity =
          session.identity := (identity_setFsm walk.1 _ rfl).trans same
      rcases @goodFrame_acceptConf context.hwaddr sid access walk.1 packet options session.identity
        consistent accepted.sessionId carries (congrArg Identity.encap accepts) with
        ⟨frame, sent, good⟩
      exact .single accepts sent good
    · have refuses : (access.refuseState walk.1).identity = session.identity :=
        (identity_refuseState walk.1).trans same
      rw [rejected, List.nil_append]
      have fewer : (encodeOptions (others options)).length ≤ (encodeOptions options).length :=
        length_encodeOptions_filter options _
      have length := carries.length
      have lengths := consistent.lengths
      have bound := packet.pppoeLength.toNat_lt
      rcases @goodFrame_confRej context.hwaddr sid access PPPProto.lcp (access.refuseState walk.1)
        (others options) session.identity packet.identifier
        (fun agrees => (congrArg Identity.lcpId refuses).trans agrees.lcp)
        (by unfold sizeofPPPLcp at length; omega) (congrArg Identity.encap refuses) with
        ⟨frame, sent, good⟩
      exact .single refuses sent good

theorem identity_answerMagic (answer : UInt8) (session : PPPOESession) (packet : Packet) :
    (answerMagic answer context session packet).session.identity = session.identity := by
  unfold answerMagic
  dsimp only
  split <;> rfl

theorem emits_answerMagic {answer : UInt8} (session : PPPOESession) {packet : Packet}
    (other : answer ∉ [LCPCode.confReq, LCPCode.confAck, LCPCode.confNak, LCPCode.confRej])
    (accepted : Accepted PPPProto.lcp sid packet) :
    Emits PPPOESession.identity (GoodFrame context.hwaddr sid) session
      (answerMagic answer context session packet) := by
  unfold answerMagic
  dsimp only
  split
  · exact .silent rfl rfl
  · refine .single rfl rfl (goodFrame_answer accepted.wellFormed.consistent accepted.sessionId
      ((Packet.sameHeader_setCode packet answer).trans
        (Packet.sameHeader_setBytes _ _ (Nat.le_refl _))) (fun isConfigure => ?_))
    refine absurd isConfigure (Packet.not_isConfigure_of_code ?_ other)
    exact (Buffer.read_setBytes_of_lt _ _ (by decide)).trans
      (Packet.code_setCode answer accepted.wellFormed.consistent.header)

/-- Whatever the packet is, `check_conf` keeps the identity of the session. -/
theorem identity_checkConf {session : PPPOESession} {packet : Packet} {out : FsmOut}
    (returned : checkConf context session packet = some out) :
    out.session.identity = session.identity := by
  rcases checkConf_cases returned with empty | ⟨walked, outside, fsm, accepted | ⟨rejected, refused⟩⟩
  · rw [empty]
    rfl
  · rw [accepted]
    exact (identity_setFsm walked _ rfl).trans (identity_of_outside outside fsm)
  · rw [refused]
    exact (identity_refuseState walked).trans (identity_of_outside outside fsm)

/-- LCP keeps identities, and its frames are good under a condition on the packet. -/
theorem protocol_guarded (condition : Prop) :
    (protocol context).Emitting PPPOESession.identity
      (fun identity frame => condition -> GoodFrame context.hwaddr sid identity frame)
      (fun packet => condition -> Accepted PPPProto.lcp sid packet) where
  setFsm := fun session fsm same _ => identity_setFsm session fsm same
  sendConfReq := fun session =>
    have emits := emits_sendConfReq context sid session
    .guard emits.kept (fun _ => emits)
  checkConf := by
    intro session packet out accepted isRequest returned
    rw [protocol_checkConf] at returned
    exact .guard (identity_checkConf context returned)
      (fun holds => emits_checkConf context sid (accepted holds) isRequest returned)
  sendTermAck := fun session packet accepted =>
    .guard (identity_answerMagic context _ session packet)
      (fun holds => emits_answerMagic context sid session (by decide) (accepted holds))
  sendEchoRep := fun session packet accepted =>
    .guard (identity_answerMagic context _ session packet)
      (fun holds => emits_answerMagic context sid session (by decide) (accepted holds))
  recvEchoRep := fun _ _ _ => .silent rfl rfl

/-- An echo request is no Configure packet. -/
theorem emits_sendEchoReq (session : PPPOESession) :
    Emits PPPOESession.identity (GoodFrame context.hwaddr sid) session
      (sendEchoReq context session) := by
  unfold sendEchoReq
  dsimp only
  split
  · exact .silent rfl rfl
  · have good := @goodFrame_built context.hwaddr sid session.identity session.lcp.sessionId PPPProto.lcp
      LCPCode.echoReq session.lcp.pktId (opt4B LCPOption.magicNumber session.ourMagicNumber)
      resizePadding (fun agrees => agrees.lcp) (by simp [opt4B, bytes32])
      (fun _ isConfigure => absurd isConfigure (by decide))
    exact .single rfl rfl good

end

end LCPFsm

namespace IPCPFsm

theorem identity_setFsm (session : PPPOESession) (fsm : PPPFsm)
    (same : fsm.sessionId = (access.fsm session).sessionId) :
    (access.setFsm session fsm).identity = session.identity := by
  unfold PPPOESession.identity
  change Identity.mk _ _ _ fsm.sessionId = _
  rw [same]
  rfl

theorem identity_refuseState (session : PPPOESession) :
    (access.refuseState session).identity = session.identity := by
  unfold FsmAccess.refuseState
  split
  · rfl
  · exact identity_setFsm session _ rfl

/-- Writing values over options changes nothing in front of them. -/
theorem sameHeader_foldl_overwrite (aaaSession : AAASession) (offsets : List Nat) (packet : Packet) :
    Packet.SameHeader packet (offsets.foldl (overwrite aaaSession) packet) := by
  induction offsets generalizing packet with
  | nil => exact .refl packet
  | cons offset offsets inductionHypothesis =>
      refine Packet.SameHeader.trans ?_ (inductionHypothesis (overwrite aaaSession packet offset))
      unfold overwrite
      split
      · exact .refl packet
      · exact Packet.sameHeader_setBytes packet _ (by omega)

section

variable (hwaddr : Mac) (sid : UInt16)

theorem emits_sendConfReq (session : PPPOESession) :
    Emits PPPOESession.identity (GoodFrame hwaddr sid) session (sendConfReq hwaddr session) := by
  have good := @goodFrame_built hwaddr sid session.identity session.ipcp.sessionId PPPProto.ipcp
    LCPCode.confReq session.ipcp.pktId (opt4B IPCPOption.ipAddress ownAddress) LCPFsm.resizePadding
    (fun agrees => agrees.ipcp) (by decide)
    (fun _ _ => ⟨[.of32 IPCPOption.ipAddress ownAddress], rfl⟩)
  exact .single rfl rfl good

/-- A Configure-Nak is the request with other values. -/
theorem emits_sendConfNak {getSession : SessionLookup} {session : PPPOESession} {packet : Packet}
    {options : List PPPOption} {out : FsmOut} (consistent : packet.SelfConsistent)
    (sessionId : packet.pppoeSessionId = sid) (carries : packet.Carries options)
    (wellFormed : WellFormed options) (known : ∀ option ∈ options, Known option)
    (returned : sendConfNak hwaddr getSession session packet = some out) :
    Emits PPPOESession.identity (GoodFrame hwaddr sid) session out := by
  cases found : getSession session.aaaSessionId with
  | none =>
      unfold sendConfNak at returned
      rw [found] at returned
      rw [← Option.some.inj returned]
      exact .silent rfl rfl
  | some aaaSession =>
      rcases @sendConfNak_of_carries hwaddr getSession session packet options aaaSession found carries
        wellFormed known with ⟨reply, sent, naks⟩
      rw [sent] at returned
      rw [← Option.some.inj returned]
      have coded := carries.setCode LCPCode.confNak
      unfold sendConfNak at sent
      rw [found] at sent
      dsimp only at sent
      rw [parseIPCPOptions_of_carries coded, Option.map_some] at sent
      -- The reply is what the rounds that overwrite leave.
      have isReply : ((optionOffsets options).foldl (overwrite aaaSession)
          (packet.setCode LCPCode.confNak)).bytes = reply :=
        List.append_cancel_left (List.singleton_inj.mp
          (congrArg FsmOut.sent (Option.some.inj sent)))
      have same := (Packet.sameHeader_setCode packet LCPCode.confNak).trans
        (sameHeader_foldl_overwrite aaaSession (optionOffsets options)
          (packet.setCode LCPCode.confNak))
      have good := @goodFrame_answer hwaddr sid session.identity packet _ consistent sessionId same
        (fun _ => ⟨options.map (correct aaaSession), by
          have carried := naks.2 ((optionOffsets options).foldl (overwrite aaaSession)
            (packet.setCode LCPCode.confNak)).behind
          rw [← isReply] at carried
          exact carried⟩)
      rw [isReply] at good
      exact .single rfl rfl good

theorem emits_checkConf {getSession : SessionLookup} {session : PPPOESession} {packet : Packet}
    {out : FsmOut} (accepted : Accepted PPPProto.ipcp sid packet)
    (isRequest : packet.code = LCPCode.confReq)
    (returned : checkConf hwaddr getSession session packet = some out) :
    Emits PPPOESession.identity (GoodFrame hwaddr sid) session out := by
  rcases accepted.wellFormed.addresses accepted.isProto isRequest with ⟨options, carries, wellFormed⟩
  have consistent := accepted.wellFormed.consistent
  unfold checkConf at returned
  split at returned
  · rw [← Option.some.inj returned]
    exact .silent rfl rfl
  · split at returned
    · rw [← Option.some.inj returned]
      exact .silent rfl rfl
    · rename_i aaaSession _
      dsimp only at returned
      rw [parseIPCPOptions_of_carries carries, Option.bind_some,
        rejectedOptions_eq carries.optionsAt] at returned
      have adopted : (adopt aaaSession session).identity = session.identity := rfl
      split at returned
      · rw [← Option.some.inj returned]
        have fewer : (encodeOptions (unknown options)).length ≤ (encodeOptions options).length :=
          length_encodeOptions_filter options _
        have length := carries.length
        have lengths := consistent.lengths
        have bound := packet.pppoeLength.toNat_lt
        rcases @goodFrame_confRej hwaddr sid access PPPProto.ipcp (adopt aaaSession session)
          (unknown options) session.identity packet.identifier (fun agrees => agrees.ipcp)
          (by unfold sizeofPPPLcp at length; omega) rfl with ⟨frame, sent, good⟩
        exact .single adopted sent good
      · rename_i nothing
        split at returned
        · have known : ∀ option ∈ options, Known option := by
            have none := List.filter_eq_nil_iff.mp
              (encodeOptions_eq_nil_iff.mp (Classical.not_not.mp nothing))
            intro option member
            exact Classical.not_not.mp (fun other => none option member (by simpa using other))
          exact (emits_sendConfNak hwaddr sid consistent accepted.sessionId carries wellFormed known
            returned).mono (identity_refuseState _) rfl rfl
        · rw [← Option.some.inj returned]
          have accepts : (access.acceptConf hwaddr (adopt aaaSession session) packet).session.identity =
              session.identity := identity_setFsm (adopt aaaSession session) _ rfl
          rcases @goodFrame_acceptConf hwaddr sid access (adopt aaaSession session) packet options
            session.identity consistent accepted.sessionId carries
            (congrArg Identity.encap accepts) with ⟨frame, sent, good⟩
          exact .single accepts sent good

/-- Whatever the packet is, `check_conf` keeps the identity of the session. -/
theorem identity_checkConf {getSession : SessionLookup} {session : PPPOESession} {packet : Packet}
    {out : FsmOut} (returned : checkConf hwaddr getSession session packet = some out) :
    out.session.identity = session.identity := by
  unfold checkConf at returned
  split at returned
  · rw [← Option.some.inj returned]
    rfl
  · split at returned
    · rw [← Option.some.inj returned]
      rfl
    · rename_i aaaSession _
      rcases Option.bind_eq_some_iff.mp returned with ⟨offsets, _, isOut⟩
      have adopted : (adopt aaaSession session).identity = session.identity := rfl
      dsimp only at isOut
      split at isOut
      · rw [← Option.some.inj isOut]
        exact adopted
      · split at isOut
        · refine Eq.trans ?_ ((identity_refuseState (adopt aaaSession session)).trans adopted)
          unfold sendConfNak at isOut
          split at isOut
          · rw [← Option.some.inj isOut]
            rfl
          · rcases Option.map_eq_some_iff.mp isOut with ⟨_, _, isQueued⟩
            rw [← isQueued]
            rfl
        · rw [← Option.some.inj isOut]
          exact identity_setFsm (adopt aaaSession session) _ rfl

/-- IPCP keeps identities, and its frames are good under a condition on the packet. -/
theorem protocol_guarded (getSession : SessionLookup) (condition : Prop) :
    (protocol hwaddr getSession).Emitting PPPOESession.identity
      (fun identity frame => condition -> GoodFrame hwaddr sid identity frame)
      (fun packet => condition -> Accepted PPPProto.ipcp sid packet) where
  setFsm := fun session fsm same _ => identity_setFsm session fsm same
  sendConfReq := fun session =>
    have emits := emits_sendConfReq hwaddr sid session
    .guard emits.kept (fun _ => emits)
  checkConf := by
    intro session packet out accepted isRequest returned
    rw [protocol_checkConf] at returned
    exact .guard (identity_checkConf hwaddr returned)
      (fun holds => emits_checkConf hwaddr sid (accepted holds) isRequest returned)
  sendTermAck := fun _ _ _ => .silent rfl rfl
  sendEchoRep := fun _ _ _ => .silent rfl rfl
  recvEchoRep := fun _ _ _ => .silent rfl rfl

end

end IPCPFsm

namespace AuthProtocol

variable (hwaddr : Mac) (sid : UInt16)

theorem goodFrame_answerPacket (identity : Identity) (protocol : AuthProtocol) (code : UInt8) :
    GoodFrame hwaddr sid identity (identity.encap.generateHeader hwaddr ethPppoeSession ++
      protocol.answerPacket identity.sessionId code) := by
  cases protocol with
  | pap =>
      exact @goodFrame_built hwaddr sid identity identity.sessionId PPPProto.pap code 0 [] []
        (fun agrees => agrees.session) (by decide) (fun other => absurd other (by decide))
  | chap =>
      have good := @goodFrame_built hwaddr sid identity identity.sessionId PPPProto.chap code 0
        (List.replicate (sizeofPPPChapHdr - sizeofPPPLcp) 0) [] (fun agrees => agrees.session)
        (by decide) (fun other => absurd other (by decide))
      unfold builtPacket at good
      rw [List.append_nil] at good
      exact good

/-- A success, and the start of IPCP that follows it. -/
theorem emits_sendAuthAck (protocol : AuthProtocol) (session : PPPOESession) :
    Emits PPPOESession.identity (GoodFrame hwaddr sid) session
      (protocol.sendAuthAck hwaddr session) := by
  have up := (IPCPFsm.protocol_guarded hwaddr sid (fun _ => none) True).start session
  refine ⟨up.kept, fun frame member => ?_⟩
  rcases List.mem_cons.mp member with first | later
  · rw [first]
    exact goodFrame_answerPacket hwaddr sid session.identity protocol protocol.ackCode
  · exact up.good frame later trivial

theorem emits_authCallback (protocol : AuthProtocol) (aaaSessionId : UInt32) (err : Option String)
    (session : PPPOESession) :
    Emits PPPOESession.identity (GoodFrame hwaddr sid) session
      (protocol.authCallback hwaddr aaaSessionId err session) := by
  cases err with
  | none =>
      refine (emits_sendAuthAck hwaddr sid protocol _).mono ?_ rfl rfl
      cases protocol <;> rfl
  | some text =>
      exact .single rfl rfl (goodFrame_answerPacket hwaddr sid session.identity protocol protocol.nakCode)

end AuthProtocol

/-- A challenge fits as long as the name in it is not too long. -/
theorem emits_sendChallenge (hwaddr : Mac) (sid : UInt16) {acName : Bytes} (digest : Bytes)
    (session : PPPOESession) (short : acName.length < 1400) :
    Emits PPPOESession.identity (GoodFrame hwaddr sid) session
      (sendChallenge hwaddr acName digest session) := by
  have filled : ((digest ++ List.replicate chapValueSize 0).take chapValueSize).length = 16 := by
    rw [List.length_take, List.length_append, List.length_replicate]
    exact Nat.min_eq_left (Nat.le_add_left _ _)
  unfold sendChallenge
  dsimp only
  generalize (digest ++ List.replicate chapValueSize 0).take chapValueSize = challenge at filled ⊢
  have size : ([UInt8.ofNat chapValueSize] ++ challenge ++ acName).length = 17 + acName.length := by
    rw [List.length_append, List.length_append, filled]
    rfl
  have good := @goodFrame_built hwaddr sid session.identity session.sessionId PPPProto.chap
    CHAPCode.challenge 0 ([UInt8.ofNat chapValueSize] ++ challenge ++ acName) []
    (fun agrees => agrees.session) (by omega) (fun other => absurd other (by decide))
  unfold builtPacket at good
  have counted : sizeofPPPLcp + (17 + acName.length) = sizeofPPPChapHdr + acName.length := by
    unfold sizeofPPPLcp sizeofPPPChapHdr
    omega
  rw [size, counted, List.append_nil] at good
  simp only [← List.append_assoc] at good
  refine .single rfl rfl ?_
  unfold PPPOESession.frame
  simp only [← List.append_assoc]
  exact good

end Pppcpd
