import Pppcpd.Ppp.OptionWalk

namespace Pppcpd

open Foundation

/-!
# The address in an IPCP reply

What IPCP acknowledges or sends back in an IP-Address option is the address of
the AAA session.  Options may overlap: the type byte of a later one can lie in
the value of an earlier one, and a value is written over only at a type that is
known.  A known type is not zero, so the value stays different from zero even
there.
-/

namespace IPCPFsm

/-- No IP-Address option at an offset has the value zero. -/
def Numbered (offsets : List Nat) (reply : Packet) : Prop :=
  ∀ offset ∈ offsets, reply.optionType offset = IPCPOption.ipAddress -> reply.optionVal32 offset ≠ 0

/-- Every frame of the reply to a Configure-Request is the frame of a packet,
and when that packet is a Configure-Ack or a Configure-Nak, it carries no
IP-Address option of value zero. -/
def NeverZero (hwaddr : Mac) (getSession : SessionLookup) (session : PPPOESession)
    (packet : Packet) : Prop :=
  ∀ out ∈ checkConf hwaddr getSession session packet, ∀ frame ∈ out.sent,
    ∃ reply : Packet, frame = session.frame hwaddr reply.bytes ∧
      (reply.code = LCPCode.confAck ∨ reply.code = LCPCode.confNak ->
        ∀ offsets ∈ parseIPCPOptions packet, Numbered offsets reply)

theorem wanted_ipAddress (aaaSession : AAASession) :
    wanted aaaSession IPCPOption.ipAddress = some aaaSession.address := by
  simp [wanted]

theorem ne_zero_of_wanted {aaaSession : AAASession} {kind : UInt8} {value : UInt32}
    (isWanted : wanted aaaSession kind = some value) : kind ≠ 0 := by
  rintro rfl
  revert isWanted
  simp [wanted, IPCPOption.ipAddress, IPCPOption.primaryDns, IPCPOption.secondaryDns]

/-! ## The offsets of known options -/

/-- A walk that stands still does not end. -/
theorem visited_of_still {next : Nat -> Nat} {limit offset : Nat} (still : next offset = offset)
    (below : offset < limit) (rounds : Nat) : visited next limit rounds offset = none := by
  induction rounds with
  | zero => rw [visited, if_pos below]
  | succ rounds inductionHypothesis =>
      rw [visited, if_pos below, still, inductionHypothesis]
      rfl

/-- No option that the walk lists is empty. -/
theorem optionLen_ne_zero {packet : Packet} {rounds start offset : Nat} {offsets : List Nat}
    (walked : visited (nextOption packet) (optionArea packet) rounds start = some offsets)
    (member : offset ∈ offsets) : packet.optionLen offset ≠ 0 := by
  induction rounds generalizing start offsets with
  | zero =>
      rw [visited] at walked
      split at walked
      · cases walked
      · rw [← Option.some.inj walked] at member
        cases member
  | succ rounds inductionHypothesis =>
      rw [visited] at walked
      split at walked
      · rename_i below
        rcases Option.map_eq_some_iff.mp walked with ⟨later, continued, equal⟩
        rw [← equal] at member
        rcases List.mem_cons.mp member with here | beyond
        · rw [here]
          intro empty
          have still : nextOption packet start = start := by
            rw [nextOption, empty]
            rfl
          rw [still, visited_of_still still below rounds] at continued
          cases continued
        · exact inductionHypothesis continued beyond
      · rw [← Option.some.inj walked] at member
        cases member

/-- Options of known types start at least two bytes apart: an option of one byte
would give its length, which is one, as the type of the next. -/
theorem apart_of_visited {packet : Packet} {aaaSession : AAASession} {rounds start : Nat}
    {offsets : List Nat}
    (walked : visited (nextOption packet) (optionArea packet) rounds start = some offsets)
    (known : ∀ offset ∈ offsets, wanted aaaSession (packet.optionType offset) ≠ none) :
    offsets.Pairwise (fun first second => first + 2 ≤ second) ∧
      (∀ offset ∈ offsets, start ≤ offset) ∧ (start ∉ offsets -> offsets = []) := by
  induction rounds generalizing start offsets with
  | zero =>
      rw [visited] at walked
      split at walked
      · cases walked
      · rw [← Option.some.inj walked]
        exact ⟨.nil, fun _ member => absurd member List.not_mem_nil, fun _ => rfl⟩
  | succ rounds inductionHypothesis =>
      have whole := walked
      rw [visited] at walked
      split at walked
      · rcases Option.map_eq_some_iff.mp walked with ⟨later, continued, equal⟩
        rw [← equal] at known whole ⊢
        have rest := inductionHypothesis continued
          (fun offset member => known offset (List.mem_cons_of_mem start member))
        have some_bytes := optionLen_ne_zero whole List.mem_cons_self
        have positive : (packet.optionLen start).toNat ≠ 0 :=
          fun zero => some_bytes (UInt8.toNat_inj.mp zero)
        have gap : ∀ offset ∈ later, start + 2 ≤ offset := by
          intro offset member
          have beyond := rest.2.1 offset member
          unfold nextOption at beyond
          by_contra close
          have single : packet.optionLen start = 1 := by
            apply UInt8.toNat_inj.mp
            have one : (1 : UInt8).toNat = 1 := rfl
            omega
          -- The walk goes on one byte behind, where the length stands.
          have head : nextOption packet start ∈ later := by
            by_contra missing
            rw [rest.2.2 missing] at member
            cases member
          have isKnown := known _ (List.mem_cons_of_mem start head)
          apply isKnown
          have same : packet.optionType (nextOption packet start) = 1 := by
            rw [nextOption, single]
            exact single
          rw [same]
          simp [wanted, IPCPOption.ipAddress, IPCPOption.primaryDns, IPCPOption.secondaryDns]
        refine ⟨List.pairwise_cons.mpr ⟨gap, rest.1⟩, ?_, fun missing => absurd List.mem_cons_self missing⟩
        intro offset member
        rcases List.mem_cons.mp member with here | beyond
        · exact Nat.le_of_eq here.symm
        · exact Nat.le_trans (Nat.le_add_right start 2) (gap offset beyond)
      · rw [← Option.some.inj walked]
        exact ⟨.nil, fun _ member => absurd member List.not_mem_nil, fun _ => rfl⟩

/-! ## Writing over the request -/

/-- An IP-Address option at the offset has a value that is not zero. -/
def NumberedAt (packet : Packet) (offset : Nat) : Prop :=
  packet.optionType offset = IPCPOption.ipAddress -> packet.optionVal32 offset ≠ 0

section

variable {aaaSession : AAASession} {packet : Packet} {offset other : Nat}

/-- The bytes in front of a value that is written stay. -/
theorem read_overwrite_of_lt {index : Nat} (before : index < Packet.optionBase + other + 2) :
    (overwrite aaaSession packet other).read index = packet.read index := by
  unfold overwrite
  split
  · rfl
  · exact Buffer.read_setBytes_of_lt _ _ before

theorem optionType_overwrite (before : offset < other + 2) :
    (overwrite aaaSession packet other).optionType offset = packet.optionType offset := by
  unfold Packet.optionType
  exact read_overwrite_of_lt (by omega)

/-- The value that is written is the address. -/
theorem numberedAt_overwrite_self (nonzero : aaaSession.address ≠ 0) :
    NumberedAt (overwrite aaaSession packet offset) offset := by
  intro isAddress
  rw [optionType_overwrite (by omega)] at isAddress
  have written : overwrite aaaSession packet offset =
      packet.setBytes (Packet.optionBase + offset + 2) (bytes32 aaaSession.address) := by
    unfold overwrite
    rw [isAddress, wanted_ipAddress]
  rw [written]
  unfold Packet.optionVal32
  rw [Buffer.field32_setBytes]
  exact nonzero

/-- A later value leaves an earlier one different from zero. -/
theorem numberedAt_overwrite (numbered : NumberedAt packet offset) (apart : offset + 2 ≤ other) :
    NumberedAt (overwrite aaaSession packet other) offset := by
  intro isAddress
  rw [optionType_overwrite (by omega)] at isAddress
  have before := numbered isAddress
  cases isWanted : wanted aaaSession (packet.optionType other) with
  | none =>
      have same : overwrite aaaSession packet other = packet := by
        unfold overwrite
        rw [isWanted]
      rw [same]
      exact before
  | some value =>
      unfold Packet.optionVal32 at before ⊢
      by_cases far : offset + 4 ≤ other
      · have reads : forall position, position < 4 ->
            (overwrite aaaSession packet other).read (Packet.optionBase + offset + 2 + position) =
              packet.read (Packet.optionBase + offset + 2 + position) :=
          fun position within => read_overwrite_of_lt (by omega)
        unfold Buffer.field32 at before ⊢
        rw [reads 1 (by decide), reads 2 (by decide), reads 3 (by decide)]
        have first := reads 0 (by decide)
        rw [Nat.add_zero] at first
        rw [first]
        exact before
      · -- The type of the later option lies in the value.
        have place : Packet.optionBase + offset + 2 + (other - offset - 2) =
            Packet.optionBase + other := by omega
        have kind : (overwrite aaaSession packet other).read
            (Packet.optionBase + offset + 2 + (other - offset - 2)) ≠ 0 := by
          rw [place, read_overwrite_of_lt (by omega)]
          exact ne_zero_of_wanted isWanted
        exact Buffer.field32_ne_zero (by omega) kind

/-- After the loop of `send_conf_nak` every IP-Address option has a value. -/
theorem numbered_foldl_overwrite {offsets : List Nat} (nonzero : aaaSession.address ≠ 0)
    (apart : offsets.Pairwise (fun first second => first + 2 ≤ second)) (packet : Packet) :
    Numbered offsets (offsets.foldl (overwrite aaaSession) packet) ∧
      forall earlier, (∀ offset ∈ offsets, earlier + 2 ≤ offset) -> NumberedAt packet earlier ->
        NumberedAt (offsets.foldl (overwrite aaaSession) packet) earlier := by
  induction offsets generalizing packet with
  | nil => exact ⟨fun _ member => absurd member List.not_mem_nil, fun _ _ numbered => numbered⟩
  | cons offset offsets inductionHypothesis =>
      rcases List.pairwise_cons.mp apart with ⟨gap, later⟩
      have rest := inductionHypothesis later (overwrite aaaSession packet offset)
      rw [List.foldl_cons]
      constructor
      · intro place member
        rcases List.mem_cons.mp member with here | beyond
        · rw [here]
          exact rest.2 offset gap (numberedAt_overwrite_self nonzero)
        · exact rest.1 place beyond
      · intro earlier before numbered
        refine rest.2 earlier (fun place member => before place (List.mem_cons_of_mem offset member)) ?_
        exact numberedAt_overwrite numbered (before offset List.mem_cons_self)

end

/-! ## The reply -/

section

variable {aaaSession : AAASession} {packet : Packet} {offsets : List Nat}

/-- When nothing is rejected, every option is known. -/
theorem known_of_rejectedOptions (parsed : parseIPCPOptions packet = some offsets)
    (nothing : rejectedOptions aaaSession packet offsets = []) :
    ∀ offset ∈ offsets, wanted aaaSession (packet.optionType offset) ≠ none := by
  intro offset member isNone
  have listed : offset ∈ offsets.filter
      (fun offset => (wanted aaaSession (packet.optionType offset)).isNone) :=
    List.mem_filter.mpr ⟨member, by rw [isNone]; rfl⟩
  have empty := List.flatMap_eq_nil_iff.mp nothing offset listed
  have length := congrArg List.length empty
  unfold Packet.optionBytes at length
  rw [Buffer.length_slice, List.length_nil] at length
  exact optionLen_ne_zero parsed member (UInt8.toNat_inj.mp length)

/-- When nothing differs, an acknowledged address is that of the AAA session. -/
theorem numbered_of_accepted (nonzero : aaaSession.address ≠ 0)
    (same : mismatch aaaSession packet offsets = false) :
    Numbered offsets (packet.setCode LCPCode.confAck) := by
  intro offset member isAddress
  rw [Packet.optionType_setCode] at isAddress
  rw [Packet.optionVal32_setCode]
  have agrees := List.any_eq_false.mp same offset member
  rw [isAddress, wanted_ipAddress] at agrees
  have equal : aaaSession.address = packet.optionVal32 offset := by simpa using agrees
  exact equal ▸ nonzero

/-- What is sent back has an address in every IP-Address option. -/
theorem numbered_of_nak (nonzero : aaaSession.address ≠ 0)
    (parsed : parseIPCPOptions packet = some offsets)
    (known : ∀ offset ∈ offsets, wanted aaaSession (packet.optionType offset) ≠ none) :
    Numbered offsets
      (offsets.foldl (overwrite aaaSession) (packet.setCode LCPCode.confNak)) :=
  (numbered_foldl_overwrite nonzero (apart_of_visited parsed known).1 _).1

theorem parseIPCPOptions_setCode (packet : Packet) (code : UInt8) :
    parseIPCPOptions (packet.setCode code) = parseIPCPOptions packet := by
  unfold parseIPCPOptions
  rw [nextOption_setCode, optionArea_setCode]

end

theorem link_refuseState (session : PPPOESession) :
    (access.refuseState session).encap = session.encap ∧
      (access.refuseState session).aaaSessionId = session.aaaSessionId := by
  unfold FsmAccess.refuseState
  split <;> exact ⟨rfl, rfl⟩

/-- IPCP neither acknowledges nor sends back 0.0.0.0 when the AAA session has an
address. -/
theorem neverZero_of_address (hwaddr : Mac) {getSession : SessionLookup} {session : PPPOESession}
    (packet : Packet)
    (addressed : ∀ aaaSession ∈ getSession session.aaaSessionId, aaaSession.address ≠ 0) :
    NeverZero hwaddr getSession session packet := by
  intro out checked frame sent
  unfold checkConf at checked
  by_cases empty : LCPFsm.optionArea packet = 0
  · rw [if_pos empty] at checked
    rw [← Option.some.inj checked] at sent
    cases sent
  rw [if_neg empty] at checked
  cases found : getSession session.aaaSessionId with
  | none =>
      rw [found] at checked
      rw [← Option.some.inj checked] at sent
      cases sent
  | some aaaSession =>
      have nonzero := addressed aaaSession found
      rw [found] at checked
      dsimp only at checked
      rcases Option.bind_eq_some_iff.mp checked with ⟨offsets, parsed, answered⟩
      have own : forall other, other ∈ parseIPCPOptions packet -> other = offsets :=
        fun other also => Option.some.inj (also.symm.trans parsed)
      by_cases nothing : rejectedOptions aaaSession packet offsets = []
      · rw [if_neg (fun some_rejected => some_rejected nothing)] at answered
        by_cases differs : mismatch aaaSession packet offsets = true
        · rw [if_pos differs] at answered
          -- The Configure-Nak looks the same AAA session up once more.
          have link := link_refuseState (adopt aaaSession session)
          unfold sendConfNak at answered
          dsimp only at answered
          rw [link.2] at answered
          have again : getSession (adopt aaaSession session).aaaSessionId = some aaaSession := found
          rw [again] at answered
          dsimp only at answered
          rw [parseIPCPOptions_setCode, parsed] at answered
          rw [← Option.some.inj answered] at sent
          have whole := List.mem_singleton.mp sent
          refine ⟨offsets.foldl (overwrite aaaSession) (packet.setCode LCPCode.confNak),
            whole.trans ?_, fun _ other also => ?_⟩
          · unfold PPPOESession.frame
            dsimp only
            rw [link.1]
            rfl
          · rw [own other also]
            exact numbered_of_nak nonzero parsed (known_of_rejectedOptions parsed nothing)
        · rw [if_neg differs] at answered
          rw [← Option.some.inj answered] at sent
          refine ⟨packet.setCode LCPCode.confAck, List.mem_singleton.mp sent, fun _ other also => ?_⟩
          rw [own other also]
          exact numbered_of_accepted nonzero (Bool.eq_false_iff.mpr differs)
      · rw [if_pos nothing] at answered
        rw [← Option.some.inj answered] at sent
        refine ⟨⟨_, fun _ => 0⟩, List.mem_singleton.mp sent, fun kinds => ?_⟩
        rcases kinds with isAck | isNak
        · cases isAck
        · cases isNak

end IPCPFsm

end Pppcpd
