import Pppcpd.Ppp.Lcp
import Pppcpd.Wire.Options

namespace Pppcpd

open Foundation

/-!
# The reply to an LCP Configure-Request

A request that carries a list of options is acknowledged when every option is an
MRU or a Magic-Number.  Otherwise the other options are rejected, and they alone.
-/

/-- The last option of a type in a list. -/
def lastOf (kind : UInt8) (options : List PPPOption) : Option PPPOption :=
  options.reverse.find? (fun option => option.kind = kind)

theorem lastOf_concat (kind : UInt8) (options : List PPPOption) (option : PPPOption) :
    lastOf kind (options ++ [option]) =
      if option.kind = kind then some option else lastOf kind options := by
  unfold lastOf
  rw [List.reverse_concat, List.find?_cons]
  by_cases same : option.kind = kind <;> simp [same]

namespace FsmClass

/-- The states in which `recv_conf_req` does not get to `check_conf`. -/
def Refuses (state : PPPFsmState) : Prop :=
  state = .closing ∨ state = .stopping ∨ state = .closed ∨ state = .opened

instance : DecidablePred Refuses := fun _ => inferInstanceAs (Decidable (_ ∨ _))

theorem recvConfReq_of_stopped (protocol : FsmClass) {session : PPPOESession}
    (stopped : protocol.state session = .stopped) (packet : Packet) :
    protocol.recvConfReq session packet =
      (protocol.checkConf (protocol.setState (protocol.sendConfReq session).session .reqSent) packet).map
        (fun checked =>
          { checked with sent := (protocol.sendConfReq session).sent ++ checked.sent }) := by
  unfold recvConfReq
  rw [stopped]

theorem recvConfReq_of_looked (protocol : FsmClass) {session : PPPOESession}
    (looked : ¬ Refuses (protocol.state session)) (running : protocol.state session ≠ .stopped)
    (packet : Packet) : protocol.recvConfReq session packet = protocol.checkConf session packet := by
  unfold Refuses at looked
  unfold recvConfReq
  cases state : protocol.state session <;> simp_all

end FsmClass

namespace LCPFsm

/-- The types of option that are accepted. -/
def Known (option : PPPOption) : Prop :=
  option.kind = LCPOption.mru ∨ option.kind = LCPOption.magicNumber

instance : DecidablePred Known := fun _ => inferInstanceAs (Decidable (_ ∨ _))

/-- There is an option, and the ones with a value that is read have its size. -/
structure WellFormed (options : List PPPOption) : Prop where
  filled : options ≠ []
  mru : ∀ option ∈ options, option.kind = LCPOption.mru -> option.size = 4
  magicNumber : ∀ option ∈ options, option.kind = LCPOption.magicNumber -> option.size = 6

/-- The session after it has learned the last values of the peer. -/
def learn (options : List PPPOption) (session : PPPOESession) : PPPOESession :=
  { session with
    peerMRU := ((lastOf LCPOption.mru options).map PPPOption.value16).getD session.peerMRU
    peerMagicNumber :=
      ((lastOf LCPOption.magicNumber options).map PPPOption.value32).getD session.peerMagicNumber }

/-- The options that are not accepted. -/
def others (options : List PPPOption) : List PPPOption :=
  options.filter (fun option => ¬ Known option)

/-- One round of `check_conf` in terms of the option it finds. -/
def learnOption (walk : PPPOESession × UInt8 × Bytes) (option : PPPOption) :
    PPPOESession × UInt8 × Bytes :=
  if option.kind = LCPOption.mru then ({ walk.1 with peerMRU := option.value16 }, walk.2)
  else if option.kind = LCPOption.magicNumber then
    ({ walk.1 with peerMagicNumber := option.value32 }, walk.2)
  else (walk.1, LCPCode.confRej, walk.2.2 ++ option.bytes)

theorem foldl_located {packet : Packet} {offsets : List Nat} {options : List PPPOption}
    (located : List.Forall₂ (packet.OptionAt) offsets options)
    (mru : ∀ option ∈ options, option.kind = LCPOption.mru -> option.size = 4)
    (magicNumber : ∀ option ∈ options, option.kind = LCPOption.magicNumber -> option.size = 6)
    (walk : PPPOESession × UInt8 × Bytes) :
    offsets.foldl (checkOption packet) walk = options.foldl learnOption walk := by
  induction located generalizing walk with
  | nil => rfl
  | @cons offset option offsets options here _ inductionHypothesis =>
      have round : checkOption packet walk offset = learnOption walk option := by
        unfold checkOption learnOption
        rw [here.kind, here.bytes]
        by_cases isMru : option.kind = LCPOption.mru
        · have long := mru option List.mem_cons_self isMru
          unfold PPPOption.size at long
          rw [if_pos isMru, if_pos isMru, here.value16 (by omega)]
        · by_cases isMagic : option.kind = LCPOption.magicNumber
          · have long := magicNumber option List.mem_cons_self isMagic
            unfold PPPOption.size at long
            rw [if_neg isMru, if_neg isMru, if_pos isMagic, if_pos isMagic, here.value32 (by omega)]
          · rw [if_neg isMru, if_neg isMru, if_neg isMagic, if_neg isMagic]
      rw [List.foldl_cons, List.foldl_cons, round]
      exact inductionHypothesis
        (fun other member => mru other (List.mem_cons_of_mem option member))
        (fun other member => magicNumber other (List.mem_cons_of_mem option member)) _

/-- The outcome of the loop of `check_conf` over the options of a packet. -/
theorem foldl_checkOption_eq {packet : Packet} {offsets : List Nat} {options : List PPPOption}
    (located : List.Forall₂ (packet.OptionAt) offsets options)
    (mru : ∀ option ∈ options, option.kind = LCPOption.mru -> option.size = 4)
    (magicNumber : ∀ option ∈ options, option.kind = LCPOption.magicNumber -> option.size = 6)
    (session : PPPOESession) :
    offsets.foldl (checkOption packet) (session, LCPCode.confAck, []) =
      (learn options session,
        if ∀ option ∈ options, Known option then LCPCode.confAck else LCPCode.confRej,
        encodeOptions (others options)) := by
  rw [foldl_located located mru magicNumber]
  clear located mru magicNumber
  induction options using List.reverseRecOn with
  | nil => simp [learn, others, lastOf]
  | append_singleton options option inductionHypothesis =>
      have different : LCPOption.mru ≠ LCPOption.magicNumber := by decide
      rw [List.foldl_concat, inductionHypothesis]
      unfold learnOption learn others
      simp only [lastOf_concat, List.filter_append, List.forall_mem_append, List.forall_mem_singleton]
      by_cases isMru : option.kind = LCPOption.mru
      · have known : Known option := .inl isMru
        simp [isMru, known, different]
      · by_cases isMagic : option.kind = LCPOption.magicNumber
        · have known : Known option := .inr isMagic
          simp [isMagic, known, different.symm]
        · have unknown : ¬ Known option := fun known => known.elim isMru isMagic
          simp [isMru, isMagic, unknown, encodeOptions]

theorem optionArea_of_carries {packet : Packet} {options : List PPPOption}
    (carries : packet.Carries options) : optionArea packet = (encodeOptions options).length := by
  have bound := packet.length.toNat_lt
  have length := carries.length
  unfold optionArea walkModulus sizeofPPPLcp at *
  omega

/-- The loop of `check_conf` visits the options that the packet carries. -/
theorem visited_of_carries {packet : Packet} {options : List PPPOption}
    (carries : packet.Carries options) :
    visited (nextOption packet) (optionArea packet) (optionArea packet) 0 =
      some (optionOffsets options) := by
  rw [optionArea_of_carries carries]
  refine carries.visited_eq (fun offset member => ?_)
  have small := carries.le_of_mem member
  have byte := (packet.optionLen offset).toNat_lt
  unfold nextOption walkModulus
  exact Nat.mod_eq_of_lt (by omega)

/-- The reply of a session to a Configure-Request: the whole request with another code,
or a Configure-Reject with the options that are not accepted. -/
structure Replies (sid : UInt16) (request : Packet) (options : List PPPOption) (reply : Bytes) :
    Prop where
  accepts : (∀ option ∈ options, Known option) ->
    reply = request.bytes.set 8 LCPCode.confAck
  rejects : (¬ ∀ option ∈ options, Known option) ->
    Configures reply sid PPPProto.lcp LCPCode.confRej request.identifier (others options)

theorem optionArea_ne_zero {packet : Packet} {options : List PPPOption}
    (carries : packet.Carries options) (filled : options ≠ []) : optionArea packet ≠ 0 := by
  rw [optionArea_of_carries carries]
  have count := length_le_encodeOptions options
  have some_option := List.length_pos_of_ne_nil filled
  omega

/-- A request whose options are all known is accepted. -/
theorem checkConf_of_known (context : LinkContext) (session : PPPOESession) {packet : Packet}
    {options : List PPPOption} (carries : packet.Carries options) (wellFormed : WellFormed options)
    (known : ∀ option ∈ options, Known option) :
    checkConf context session packet =
      some (access.acceptConf context.hwaddr (learn options session) packet) := by
  unfold checkConf
  dsimp only
  rw [if_neg (optionArea_ne_zero carries wellFormed.filled), visited_of_carries carries,
    Option.map_some, foldl_checkOption_eq carries.optionsAt wellFormed.mru wellFormed.magicNumber]
  dsimp only
  rw [if_pos known, if_pos rfl]

/-- What `check_conf` does with a request that carries options. -/
theorem checkConf_of_carries (context : LinkContext) (session : PPPOESession) {packet : Packet}
    {options : List PPPOption} (carries : packet.Carries options) (wellFormed : WellFormed options)
    (received : packet.bytes.length < 65536) :
    ∃ out reply, checkConf context session packet = some out ∧ out.err = none ∧
      out.sent = [session.frame context.hwaddr reply] ∧
      Replies session.lcp.sessionId packet options reply ∧
      ((∀ option ∈ options, Known option) ->
        out.session.peerMRU = (learn options session).peerMRU ∧
          out.session.peerMagicNumber = (learn options session).peerMagicNumber) := by
  have fits : 12 + (encodeOptions options).length ≤ packet.bytes.length := carries.fits
  by_cases known : ∀ option ∈ options, Known option
  · refine ⟨_, packet.bytes.set 8 LCPCode.confAck, checkConf_of_known context session carries wellFormed
      known, rfl, ?_, ⟨fun _ => rfl, fun other => absurd known other⟩, fun _ => ⟨rfl, rfl⟩⟩
    have inside : 8 < packet.bytes.length := by omega
    unfold FsmAccess.acceptConf FsmAccess.sendConfAck Packet.setCode Buffer.set
    rw [if_pos inside]
    rfl
  · unfold checkConf
    dsimp only
    rw [if_neg (optionArea_ne_zero carries wellFormed.filled), visited_of_carries carries,
      Option.map_some, foldl_checkOption_eq carries.optionsAt wellFormed.mru wellFormed.magicNumber]
    dsimp only
    rw [if_neg known, if_neg (by decide)]
    have fewer : (encodeOptions (others options)).length ≤ (encodeOptions options).length :=
      length_encodeOptions_filter options _
    refine ⟨_, _, rfl, rfl, ?_, ⟨fun other => absurd other known, fun _ =>
      configures_configurePacket session.lcp.sessionId PPPProto.lcp LCPCode.confRej packet.identifier
        (by omega)⟩, fun other => absurd other known⟩
    unfold FsmAccess.sendConfRej FsmAccess.refuseState
    split <;> rfl

/-- The request of its own that an automaton sends first when it was stopped. -/
def requestBefore (context : LinkContext) (session : PPPOESession) : List Bytes :=
  if access.state session = .stopped then (sendConfReq context session).sent else []

theorem sendConfReq_peer (context : LinkContext) (session : PPPOESession) :
    (sendConfReq context session).session.encap = session.encap ∧
      (sendConfReq context session).session.lcp.sessionId = session.lcp.sessionId ∧
      (sendConfReq context session).session.peerMRU = session.peerMRU ∧
      (sendConfReq context session).session.peerMagicNumber = session.peerMagicNumber := by
  unfold sendConfReq
  split
  · exact ⟨rfl, rfl, rfl, rfl⟩
  · exact ⟨rfl, rfl, rfl, rfl⟩

/-- In every state in which a request is looked at, there is one reply to it. -/
theorem recvConfReq_replies (context : LinkContext) {session : PPPOESession} {packet : Packet}
    {options : List PPPOption} (carries : packet.Carries options) (wellFormed : WellFormed options)
    (received : packet.bytes.length < 65536) (looked : ¬ FsmClass.Refuses (access.state session)) :
    ∃ out reply, (protocol context).recvConfReq session packet = some out ∧ out.err = none ∧
      out.sent = requestBefore context session ++ [session.frame context.hwaddr reply] ∧
      Replies session.lcp.sessionId packet options reply ∧
      ((∀ option ∈ options, Known option) ->
        out.session.peerMRU =
            ((lastOf LCPOption.mru options).map PPPOption.value16).getD session.peerMRU ∧
          out.session.peerMagicNumber =
            ((lastOf LCPOption.magicNumber options).map PPPOption.value32).getD
              session.peerMagicNumber) := by
  have isCheck : (protocol context).checkConf = checkConf context := by simp only [protocol]
  by_cases stopped : access.state session = .stopped
  · rcases sendConfReq_peer context session with ⟨encap, sid, mru, magicNumber⟩
    rcases checkConf_of_carries context
        (access.setState (sendConfReq context session).session .reqSent) carries wellFormed received with
      ⟨out, reply, checked, silent, sent, replies, learned⟩
    refine ⟨{ out with sent := (sendConfReq context session).sent ++ out.sent }, reply, ?_, silent, ?_,
      sid ▸ replies, fun known => ?_⟩
    · rw [(protocol context).recvConfReq_of_stopped stopped, isCheck]
      exact congrArg (Option.map _) checked
    · have framed : (access.setState (sendConfReq context session).session .reqSent).frame
          context.hwaddr reply = session.frame context.hwaddr reply :=
        congrArg (fun link => Encapsulation.generateHeader link context.hwaddr ethPppoeSession ++ reply)
          encap
      unfold requestBefore
      rw [if_pos stopped, ← framed, ← sent]
    · rw [← mru, ← magicNumber]
      exact learned known
  · rcases checkConf_of_carries context session carries wellFormed received with
      ⟨out, reply, checked, silent, sent, replies, learned⟩
    refine ⟨out, reply, ?_, silent, ?_, replies, learned⟩
    · rw [(protocol context).recvConfReq_of_looked looked stopped, isCheck, checked]
    · unfold requestBefore
      rw [if_neg stopped, List.nil_append]
      exact sent

/-- An MRU, an option that is not accepted, and a Magic-Number. -/
def mixedOptions : List PPPOption :=
  [⟨LCPOption.mru, bytes16 1492, by decide⟩, ⟨7, [], by decide⟩, .of32 LCPOption.magicNumber 5]

/-- A request with these options and the identifier 9, with zeros behind it. -/
def mixedRequest : Packet where
  bytes := configurePacket 1 PPPProto.lcp LCPCode.confReq 9 mixedOptions
  behind := fun _ => 0

/-- A session that has sent its own request. -/
def askingSession : PPPOESession :=
  access.setState (.construct ⟨0, 0, 0, 0⟩
    ⟨⟨2, 0, 0, 0, 1, 1⟩, ⟨2, 0, 0, 0, 0, 1⟩, 0, 0, ethPppoeSession⟩ 1) .reqSent

/-- The one option of them that is not accepted is rejected. -/
theorem mixedRequest_rejected :
    ∃ out reply, (protocol ⟨⟨2, 0, 0, 0, 0, 1⟩, {}, 7⟩).recvConfReq askingSession mixedRequest =
        some out ∧
      out.sent = [askingSession.frame ⟨2, 0, 0, 0, 0, 1⟩ reply] ∧
      Configures reply 1 PPPProto.lcp LCPCode.confRej 9 [⟨7, [], by decide⟩] := by
  have carries : mixedRequest.Carries mixedOptions :=
    (configures_configurePacket 1 PPPProto.lcp LCPCode.confReq 9 (by decide)).carries (fun _ => 0)
  have wellFormed : WellFormed mixedOptions := ⟨by decide, by decide, by decide⟩
  rcases recvConfReq_replies ⟨⟨2, 0, 0, 0, 0, 1⟩, {}, 7⟩ carries wellFormed (by decide)
    (by decide : ¬ FsmClass.Refuses (access.state askingSession)) with
    ⟨out, reply, received, _, sent, replies, _⟩
  exact ⟨out, reply, received, sent, replies.rejects (by decide)⟩

end LCPFsm

end Pppcpd
