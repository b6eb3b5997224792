import Pppcpd.Ppp.Ipcp
import Pppcpd.Ppp.LcpReply

namespace Pppcpd

open Foundation

/-!
# The reply to an IPCP Configure-Request

A request that carries options is rejected for those of an unknown type, if there
are any.  It is acknowledged when every value is that of the AAA session, and
otherwise sent back with the values corrected.  A peer that asks again for what
it was sent back is acknowledged.
-/

namespace IPCPFsm

/-- The types of option that are known. -/
def Known (option : PPPOption) : Prop :=
  option.kind = IPCPOption.ipAddress ∨ option.kind = IPCPOption.primaryDns ∨
    option.kind = IPCPOption.secondaryDns

instance : DecidablePred Known := fun _ => inferInstanceAs (Decidable (_ ∨ _))

/-- The options with a value that is read have their size. -/
def WellFormed (options : List PPPOption) : Prop := ∀ option ∈ options, Known option -> option.size = 6

instance (options : List PPPOption) : Decidable (WellFormed options) :=
  inferInstanceAs (Decidable (∀ option ∈ options, _))

/-- The value of the option is the one of the AAA session. -/
def Agrees (aaaSession : AAASession) (option : PPPOption) : Prop :=
  wanted aaaSession option.kind = some option.value32

instance (aaaSession : AAASession) : DecidablePred (Agrees aaaSession) :=
  fun _ => inferInstanceAs (Decidable (_ = _))

/-- The option with the value of the AAA session. -/
def correct (aaaSession : AAASession) (option : PPPOption) : PPPOption :=
  match wanted aaaSession option.kind with
  | none => option
  | some value => .of32 option.kind value

/-- The options that are rejected. -/
def unknown (options : List PPPOption) : List PPPOption :=
  options.filter (fun option => ¬ Known option)

theorem wanted_eq_none_iff (aaaSession : AAASession) (option : PPPOption) :
    wanted aaaSession option.kind = none ↔ ¬ Known option := by
  unfold wanted Known
  split
  · simp_all
  · split
    · simp_all
    · split <;> simp_all

theorem exists_wanted {aaaSession : AAASession} {option : PPPOption} (known : Known option) :
    ∃ value, wanted aaaSession option.kind = some value :=
  Option.ne_none_iff_exists'.mp (fun none => (wanted_eq_none_iff aaaSession option).mp none known)

@[simp] theorem kind_correct (aaaSession : AAASession) (option : PPPOption) :
    (correct aaaSession option).kind = option.kind := by
  unfold correct
  split <;> rfl

theorem size_correct {aaaSession : AAASession} {option : PPPOption} (known : Known option) :
    (correct aaaSession option).size = 6 := by
  rcases @exists_wanted aaaSession option known with ⟨value, isWanted⟩
  unfold correct
  rw [isWanted]
  rfl

theorem agrees_correct {aaaSession : AAASession} {option : PPPOption} (known : Known option) :
    Agrees aaaSession (correct aaaSession option) := by
  rcases @exists_wanted aaaSession option known with ⟨value, isWanted⟩
  unfold Agrees
  rw [kind_correct, isWanted]
  unfold correct
  rw [isWanted, PPPOption.value32_of32]

section

variable {packet : Packet} {offsets : List Nat} {options : List PPPOption} {aaaSession : AAASession}

/-- The options that the first loop of `check_conf` collects. -/
theorem rejectedOptions_eq (located : List.Forall₂ packet.OptionAt offsets options) :
    rejectedOptions aaaSession packet offsets = encodeOptions (unknown options) := by
  induction located with
  | nil => rfl
  | @cons offset option offsets options here _ inductionHypothesis =>
      have isNone := wanted_eq_none_iff aaaSession option
      rw [← here.kind] at isNone
      unfold rejectedOptions unknown at inductionHypothesis ⊢
      by_cases known : Known option
      · have kept : wanted aaaSession (packet.optionType offset) ≠ none :=
          fun none => isNone.mp none known
        rw [List.filter_cons_of_neg (by simpa using kept), List.filter_cons_of_neg (by simpa using known)]
        exact inductionHypothesis
      · have dropped := isNone.mpr known
        rw [List.filter_cons_of_pos (by simp [dropped]), List.filter_cons_of_pos (by simpa using known),
          List.flatMap_cons, here.bytes, inductionHypothesis]
        rfl

/-- What the second loop of `check_conf` finds out. -/
theorem mismatch_eq_false_iff (located : List.Forall₂ packet.OptionAt offsets options)
    (wellFormed : WellFormed options) (known : ∀ option ∈ options, Known option) :
    mismatch aaaSession packet offsets = false ↔ ∀ option ∈ options, Agrees aaaSession option := by
  induction located with
  | nil => simp [mismatch]
  | @cons offset option offsets options here _ inductionHypothesis =>
      have rest := inductionHypothesis
        (fun other member => wellFormed other (List.mem_cons_of_mem option member))
        (fun other member => known other (List.mem_cons_of_mem option member))
      have isKnown := known option List.mem_cons_self
      have long := wellFormed option List.mem_cons_self isKnown
      unfold PPPOption.size at long
      rcases @exists_wanted aaaSession option isKnown with ⟨value, isWanted⟩
      unfold mismatch at rest ⊢
      rw [List.any_cons, Bool.or_eq_false_iff, rest, List.forall_mem_cons, here.kind, isWanted,
        here.value32 (by omega)]
      unfold Agrees
      rw [isWanted]
      simp

theorem optionArea_of_carries (carries : packet.Carries options) :
    optionArea packet = (encodeOptions options).length := by
  unfold optionArea
  rw [carries.length]
  omega

/-- `parseIPCPOptions` finds the options that the packet carries. -/
theorem parseIPCPOptions_of_carries (carries : packet.Carries options) :
    parseIPCPOptions packet = some (optionOffsets options) := by
  unfold parseIPCPOptions
  rw [optionArea_of_carries carries]
  exact carries.visited_eq (fun _ _ => rfl)

end

/-- The loop of `send_conf_nak` writes the right value over every option. -/
theorem foldl_overwrite (aaaSession : AAASession) (rest : Bytes) (behind : Nat -> UInt8)
    {options : List PPPOption} (wellFormed : WellFormed options) {front : Bytes} {start : Nat}
    (position : front.length = Packet.optionBase + start) :
    (startsOf start (options.map PPPOption.size)).foldl (overwrite aaaSession)
        ⟨front ++ (encodeOptions options ++ rest), behind⟩ =
      ⟨front ++ (encodeOptions (options.map (correct aaaSession)) ++ rest), behind⟩ := by
  induction options generalizing front start with
  | nil => rfl
  | cons option options inductionHypothesis =>
      have later : WellFormed options := fun other member =>
        wellFormed other (List.mem_cons_of_mem option member)
      have here := Packet.optionAt_of_split front (encodeOptions options ++ rest) behind option position
      have once : overwrite aaaSession
          ⟨front ++ (option.bytes ++ (encodeOptions options ++ rest)), behind⟩ start =
          ⟨front ++ ((correct aaaSession option).bytes ++ (encodeOptions options ++ rest)), behind⟩ := by
        unfold overwrite correct
        rw [here.kind]
        cases isWanted : wanted aaaSession option.kind with
        | none => rfl
        | some value =>
            have isKnown : Known option := by
              by_contra other
              rw [(wanted_eq_none_iff aaaSession option).mpr other] at isWanted
              cases isWanted
            have six := wellFormed option List.mem_cons_self isKnown
            have long : option.value.length = (bytes32 value).length := by
              unfold PPPOption.size at six
              simp [bytes32]
              omega
            have header : (front ++ [option.kind, UInt8.ofNat option.size]).length =
                Packet.optionBase + start + 2 := by
              simp [position]
            have written := Buffer.setBytes_append (front ++ [option.kind, UInt8.ofNat option.size])
              (encodeOptions options ++ rest) behind long
            rw [header] at written
            dsimp only
            have front_split : front ++ (option.bytes ++ (encodeOptions options ++ rest)) =
                (front ++ [option.kind, UInt8.ofNat option.size]) ++
                  (option.value ++ (encodeOptions options ++ rest)) := by
              simp [PPPOption.bytes]
            rw [front_split, written, six]
            simp [PPPOption.bytes, PPPOption.of32, PPPOption.size, bytes32]
      have sameSize : (correct aaaSession option).size = option.size := by
        by_cases known : Known option
        · rw [size_correct known, wellFormed option List.mem_cons_self known]
        · unfold correct
          rw [(wanted_eq_none_iff aaaSession option).mpr known]
      have moved : (front ++ (correct aaaSession option).bytes).length =
          Packet.optionBase + (start + option.size) := by
        rw [List.length_append, PPPOption.length_bytes, position, sameSize, Nat.add_assoc]
      have others := inductionHypothesis later moved
      rw [encodeOptions_cons, List.map_cons, List.append_assoc]
      unfold startsOf
      rw [List.foldl_cons, once, ← List.append_assoc, others, List.map_cons, encodeOptions_cons]
      simp only [List.append_assoc]

/-- The reply of a session to a Configure-Request with the given options. -/
structure Replies (aaaSession : AAASession) (sid : UInt16) (request : Packet)
    (options : List PPPOption) (reply : Bytes) : Prop where
  rejects : (∃ option ∈ options, ¬ Known option) ->
    Configures reply sid PPPProto.ipcp LCPCode.confRej request.identifier (unknown options)
  accepts : (∀ option ∈ options, Agrees aaaSession option) ->
    reply = request.bytes.set 8 LCPCode.confAck
  naks : (∀ option ∈ options, Known option) -> (¬ ∀ option ∈ options, Agrees aaaSession option) ->
    Packet.Marked reply request.pppoeSessionId request.pppProtocol LCPCode.confNak
        request.identifier ∧
      forall behind, Packet.Carries ⟨reply, behind⟩ (options.map (correct aaaSession))

theorem Agrees.known {aaaSession : AAASession} {option : PPPOption}
    (agrees : Agrees aaaSession option) : Known option := by
  by_contra other
  unfold Agrees at agrees
  rw [(wanted_eq_none_iff aaaSession option).mpr other] at agrees
  cases agrees

/-- Corrected options are as long as the ones that were sent. -/
theorem length_encode_correct (aaaSession : AAASession) {options : List PPPOption}
    (wellFormed : WellFormed options) (known : ∀ option ∈ options, Known option) :
    (encodeOptions (options.map (correct aaaSession))).length = (encodeOptions options).length := by
  rw [length_encodeOptions, length_encodeOptions, List.map_map]
  refine congrArg List.sum (List.map_congr_left (fun option member => ?_))
  rw [Function.comp_apply, size_correct (known option member),
    wellFormed option member (known option member)]

/-- What `send_conf_nak` sends for a request that carries known options. -/
theorem sendConfNak_of_carries (hwaddr : Mac) {getSession : SessionLookup} {session : PPPOESession}
    {packet : Packet} {options : List PPPOption} {aaaSession : AAASession}
    (found : getSession session.aaaSessionId = some aaaSession) (carries : packet.Carries options)
    (wellFormed : WellFormed options) (known : ∀ option ∈ options, Known option) :
    ∃ reply, sendConfNak hwaddr getSession session packet =
        some (session.queue (session.frame hwaddr reply)) ∧
      Packet.Marked reply packet.pppoeSessionId packet.pppProtocol LCPCode.confNak
          packet.identifier ∧
        forall behind, Packet.Carries ⟨reply, behind⟩ (options.map (correct aaaSession)) := by
  rcases carries.bytes with ⟨header, rest, base, isBytes⟩
  have isPacket : packet = ⟨header ++ (encodeOptions options ++ rest), packet.behind⟩ := by
    rw [← isBytes]
  have coded : packet.setCode LCPCode.confNak =
      ⟨header.set 8 LCPCode.confNak ++ (encodeOptions options ++ rest), packet.behind⟩ := by
    conv_lhs => rw [isPacket]
    exact Packet.setCode_append base _ _ _
  have front : (header.set 8 LCPCode.confNak).length = Packet.optionBase + 0 :=
    List.length_set.trans base
  have parsed : parseIPCPOptions (packet.setCode LCPCode.confNak) = some (optionOffsets options) := by
    refine parseIPCPOptions_of_carries ⟨?_, ?_⟩
    · rw [Packet.length_setCode, carries.length]
    · exact ⟨header.set 8 LCPCode.confNak, rest, front, by rw [coded]⟩
  refine ⟨header.set 8 LCPCode.confNak ++ (encodeOptions (options.map (correct aaaSession)) ++ rest),
    ?_, ?_, fun behind => ?_⟩
  · unfold sendConfNak
    rw [found]
    dsimp only
    rw [parsed, Option.map_some, coded]
    unfold optionOffsets
    rw [foldl_overwrite aaaSession rest packet.behind wellFormed front]
  · have marked := Packet.marked_setCode base LCPCode.confNak
      (encodeOptions (options.map (correct aaaSession)) ++ rest) (encodeOptions options ++ rest)
      packet.behind
    rw [← isPacket] at marked
    exact marked
  · have fields := Packet.fields_setCode base LCPCode.confNak
      (encodeOptions (options.map (correct aaaSession)) ++ rest) (encodeOptions options ++ rest) behind
      packet.behind
    rw [← isPacket] at fields
    refine ⟨?_, ⟨_, rest, front, rfl⟩⟩
    rw [fields.2.2.1, carries.length, length_encode_correct aaaSession wellFormed known]

/-- A request with the values of the AAA session is accepted. -/
theorem checkConf_of_agrees (hwaddr : Mac) {getSession : SessionLookup} {session : PPPOESession}
    {packet : Packet} {options : List PPPOption} {aaaSession : AAASession}
    (found : getSession session.aaaSessionId = some aaaSession) (carries : packet.Carries options)
    (wellFormed : WellFormed options) (filled : options ≠ [])
    (agree : ∀ option ∈ options, Agrees aaaSession option) :
    checkConf hwaddr getSession session packet =
      some (access.acceptConf hwaddr (adopt aaaSession session) packet) := by
  have known : ∀ option ∈ options, Known option := fun option member => (agree option member).known
  have nothing : unknown options = [] :=
    List.filter_eq_nil_iff.mpr (fun option member => by simpa using known option member)
  have located := carries.optionsAt
  unfold checkConf
  rw [if_neg (LCPFsm.optionArea_ne_zero carries filled), found]
  dsimp only
  rw [parseIPCPOptions_of_carries carries, Option.bind_some, rejectedOptions_eq located, nothing,
    encodeOptions_nil, if_neg (fun other => other rfl),
    (mismatch_eq_false_iff located wellFormed known).mpr agree, if_neg Bool.false_ne_true]

/-- There is one reply to a request that carries an option. -/
theorem checkConf_replies (hwaddr : Mac) {getSession : SessionLookup} {session : PPPOESession}
    {packet : Packet} {options : List PPPOption} {aaaSession : AAASession}
    (found : getSession session.aaaSessionId = some aaaSession) (carries : packet.Carries options)
    (wellFormed : WellFormed options) (filled : options ≠ [])
    (received : packet.bytes.length < 65536) :
    ∃ out reply, checkConf hwaddr getSession session packet = some out ∧ out.err = none ∧
      out.sent = [session.frame hwaddr reply] ∧
      Replies aaaSession session.ipcp.sessionId packet options reply := by
  have fits : 12 + (encodeOptions options).length ≤ packet.bytes.length := carries.fits
  have area := LCPFsm.optionArea_ne_zero carries filled
  have located := carries.optionsAt
  by_cases agree : ∀ option ∈ options, Agrees aaaSession option
  · refine ⟨_, packet.bytes.set 8 LCPCode.confAck,
      checkConf_of_agrees hwaddr found carries wellFormed filled agree, rfl, ?_, ⟨fun other => ?_,
        fun _ => rfl, fun _ other => absurd agree other⟩⟩
    · have inside : 8 < packet.bytes.length := by omega
      unfold FsmAccess.acceptConf FsmAccess.sendConfAck Packet.setCode Buffer.set
      rw [if_pos inside]
      rfl
    · rcases other with ⟨option, member, isUnknown⟩
      exact absurd (agree option member).known isUnknown
  unfold checkConf
  rw [if_neg area, found]
  dsimp only
  rw [parseIPCPOptions_of_carries carries, Option.bind_some, rejectedOptions_eq located]
  by_cases known : ∀ option ∈ options, Known option
  · have nothing : encodeOptions (unknown options) = [] := by
      unfold unknown
      rw [List.filter_eq_nil_iff.mpr (fun option member => by simpa using known option member)]
      rfl
    rw [nothing, if_neg (fun other => other rfl)]
    have mismatched : mismatch aaaSession packet (optionOffsets options) = true :=
      Bool.eq_true_of_not_eq_false (fun same =>
        agree ((mismatch_eq_false_iff located wellFormed known).mp same))
    -- The session keeps its link and its AAA session when it refuses.
    have kept : forall refused, refused = access.refuseState (adopt aaaSession session) ->
        refused.encap = session.encap ∧ refused.aaaSessionId = session.aaaSessionId := by
      rintro _ rfl
      unfold FsmAccess.refuseState
      split <;> exact ⟨rfl, rfl⟩
    rw [if_pos mismatched]
    generalize isRefused : access.refuseState (adopt aaaSession session) = refused
    rcases kept refused isRefused.symm with ⟨encap, named⟩
    have asks : getSession refused.aaaSessionId = some aaaSession := by rw [named, found]
    rcases @sendConfNak_of_carries hwaddr getSession
        { refused with ipcp := { refused.ipcp with nakCounter := refused.ipcp.nakCounter + 1 } }
        packet options aaaSession asks carries wellFormed known with ⟨reply, sent, naks⟩
    refine ⟨_, reply, sent, rfl, ?_, ⟨fun other => ?_, fun same => absurd same agree,
      fun _ _ => naks⟩⟩
    · unfold PPPOESession.queue PPPOESession.frame
      dsimp only
      rw [encap]
    · rcases other with ⟨option, member, isUnknown⟩
      exact absurd (known option member) isUnknown
  · have unknowns : encodeOptions (unknown options) ≠ [] := by
      intro nothing
      have none := List.filter_eq_nil_iff.mp (encodeOptions_eq_nil_iff.mp nothing)
      exact known (fun option member => by simpa using none option member)
    rw [if_pos unknowns]
    refine ⟨_, _, rfl, rfl, rfl, ⟨fun _ => ?_, fun agree => ?_, fun other => absurd other known⟩⟩
    · have fewer := length_encodeOptions_filter options (fun option => ¬ Known option)
      have length := carries.length
      exact configures_configurePacket session.ipcp.sessionId PPPProto.ipcp LCPCode.confRej
        packet.identifier (by unfold unknown; omega)
    · exact absurd (fun option member => (agree option member).known) known

/-- There is one reply to a request with at least one option.  And a request that
carries what a Configure-Nak carried is acknowledged. -/
theorem one_nak_suffices (hwaddr : Mac) {getSession : SessionLookup} {session : PPPOESession}
    {packet : Packet} {options : List PPPOption} {aaaSession : AAASession}
    (found : getSession session.aaaSessionId = some aaaSession) (carries : packet.Carries options)
    (wellFormed : WellFormed options) (filled : options ≠ [])
    (received : packet.bytes.length < 65536) :
    (∃ out reply, checkConf hwaddr getSession session packet = some out ∧ out.err = none ∧
      out.sent = [session.frame hwaddr reply] ∧
      Replies aaaSession session.ipcp.sessionId packet options reply) ∧
    ((∀ option ∈ options, Known option) -> forall (again : Packet) (later : PPPOESession),
      again.Carries (options.map (correct aaaSession)) -> again.bytes.length < 65536 ->
      getSession later.aaaSessionId = some aaaSession ->
        ∃ out, checkConf hwaddr getSession later again = some out ∧ out.err = none ∧
          out.sent = [later.frame hwaddr (again.bytes.set 8 LCPCode.confAck)]) := by
  refine ⟨checkConf_replies hwaddr found carries wellFormed filled received, ?_⟩
  intro known again later carriesAgain receivedAgain foundAgain
  have corrected : WellFormed (options.map (correct aaaSession)) := by
    intro option member isKnown
    rcases List.mem_map.mp member with ⟨old, isOld, same⟩
    rw [← same]
    exact size_correct (known old isOld)
  have agree : ∀ option ∈ options.map (correct aaaSession), Agrees aaaSession option := by
    intro option member
    rcases List.mem_map.mp member with ⟨old, isOld, same⟩
    rw [← same]
    exact agrees_correct (known old isOld)
  rcases checkConf_replies hwaddr foundAgain carriesAgain corrected
      (fun none => filled (List.map_eq_nil_iff.mp none)) receivedAgain with
    ⟨out, reply, checked, silent, sent, replies⟩
  exact ⟨out, checked, silent, by rw [sent, replies.accepts agree]⟩

/-- The AAA session of the peer of these requests, with the address 10. -/
def tenSession : AAASession := { sessionId := 0, username := [], address := 10, ifindex := 0 }

def negotiating : PPPOESession :=
  access.setState (.construct ⟨0, 0, 0, 0⟩
    ⟨⟨2, 0, 0, 0, 1, 1⟩, ⟨2, 0, 0, 0, 0, 1⟩, 0, 0, ethPppoeSession⟩ 1) .reqSent

/-- A request with the identifier 9 and the given options. -/
def requestOf (options : List PPPOption) : Packet where
  bytes := configurePacket 1 PPPProto.ipcp LCPCode.confReq 9 options
  behind := fun _ => 0

/-- A peer that asks for the address 99 is sent back the address 10. -/
theorem wrong_address_sent_back :
    ∃ out reply, checkConf ⟨2, 0, 0, 0, 0, 1⟩ (fun _ => some tenSession) negotiating
        (requestOf [.of32 IPCPOption.ipAddress 99]) = some out ∧
      out.sent = [negotiating.frame ⟨2, 0, 0, 0, 0, 1⟩ reply] ∧
      Packet.Carries ⟨reply, fun _ => 0⟩ [.of32 IPCPOption.ipAddress 10] := by
  have carries : (requestOf [.of32 IPCPOption.ipAddress 99]).Carries
      [.of32 IPCPOption.ipAddress 99] :=
    (configures_configurePacket 1 PPPProto.ipcp LCPCode.confReq 9 (by decide)).carries (fun _ => 0)
  have both := @one_nak_suffices ⟨2, 0, 0, 0, 0, 1⟩ (fun _ => some tenSession) negotiating _ _ tenSession
    rfl carries (by decide) (by decide) (by decide)
  rcases both.1 with ⟨out, reply, checked, _, sent, replies⟩
  exact ⟨out, reply, checked, sent,
    (replies.naks (by decide) (by decide)).2 (fun _ => 0)⟩

/-- A request without options gets no reply. -/
theorem empty_request_unanswered :
    ¬ forall (hwaddr : Mac) (getSession : SessionLookup) (session : PPPOESession) (packet : Packet)
        (options : List PPPOption) (aaaSession : AAASession),
      getSession session.aaaSessionId = some aaaSession -> packet.Carries options ->
      WellFormed options -> packet.bytes.length < 65536 ->
        ∃ out reply, checkConf hwaddr getSession session packet = some out ∧
          out.sent = [session.frame hwaddr reply] := by
  intro claim
  have carries : (requestOf []).Carries [] :=
    (configures_configurePacket 1 PPPProto.ipcp LCPCode.confReq 9 (by decide)).carries (fun _ => 0)
  rcases claim ⟨2, 0, 0, 0, 0, 1⟩ (fun _ => some tenSession) negotiating (requestOf []) [] tenSession rfl
    carries (by decide) (by decide) with ⟨out, reply, checked, sent⟩
  have refused : checkConf ⟨2, 0, 0, 0, 0, 1⟩ (fun _ => some tenSession) negotiating (requestOf []) =
      some (negotiating.fail "There is no options") := by
    unfold checkConf
    rw [if_pos (by decide)]
  rw [refused] at checked
  rw [← Option.some.inj checked] at sent
  cases sent

end IPCPFsm

end Pppcpd
