import Pppcpd.Ppp.IpcpReply
import Pppcpd.Wire.Lengths

namespace Pppcpd

open Foundation

/-!
# Bytes that the handlers of a Configure-Request touch

The lengths of a Configure-Request are the peer's, so what a handler reads or
writes through the packet may lie behind its last byte.  `Touches` lists, for
each protocol, the indices of all bytes that `check_conf` and what it calls read
or write.  A run that touches only the packet does the same whatever lies behind
it.  Nothing outside is touched when the packet carries whole options with room
for their values, and other packets are mostly not refused.
-/

/-- The bytes of the length field of a PPP packet. -/
def lengthIndices : List Nat := [10, 11]

theorem optionBase_le_of_lengthIndices {packet : Packet}
    (inside : ∀ index ∈ lengthIndices, index < packet.bytes.length) :
    Packet.optionBase ≤ packet.bytes.length :=
  Nat.succ_le_of_lt (inside 11 (by decide))

/-- A packet whose length field counts its header only carries no option. -/
theorem carries_nil {packet : Packet} (header : Packet.optionBase ≤ packet.bytes.length)
    (short : packet.length.toNat = sizeofPPPLcp) : packet.Carries [] :=
  ⟨short, packet.bytes.take Packet.optionBase, packet.bytes.drop Packet.optionBase,
    List.length_take_of_le header, by simp⟩

/-- The handler returned an error. -/
def Refused (handled : Option FsmOut) : Prop := ∃ out, handled = some out ∧ out.err ≠ none

/-- Only bytes of the packet are touched, and a packet that is not consistent is
refused. -/
structure StaysInside (packet : Packet) (touches : Nat -> Prop) (consistent refused : Prop) :
    Prop where
  inside : forall index, touches index -> index < packet.bytes.length
  refuses : ¬ consistent -> refused

namespace LCPFsm

/-- The bytes that a round of `check_conf` reads: the length and the type of the
option, and then its value or the whole of it. -/
def optionTouches (packet : Packet) (offset : Nat) : List Nat :=
  let option := Packet.optionBase + offset
  [option + 1, option] ++
    if packet.optionType offset = LCPOption.mru then [option + 2, option + 3]
    else if packet.optionType offset = LCPOption.magicNumber then
      [option + 2, option + 3, option + 4, option + 5]
    else List.range' option (packet.optionLen offset).toNat

/-- The bytes that `LCP_FSM::check_conf` touches. -/
inductive Touches (packet : Packet) (index : Nat) : Prop
  | length : index ∈ lengthIndices -> Touches packet index
  | option {offset : Nat} : Boundary (nextOption packet) (optionArea packet) offset ->
      offset < optionArea packet -> index ∈ optionTouches packet offset -> Touches packet index
  /-- The reply overwrites the code or copies the identifier. -/
  | reply {offsets : List Nat} : optionArea packet ≠ 0 ->
      visited (nextOption packet) (optionArea packet) (optionArea packet) 0 = some offsets ->
      index = 8 ∨ index = 9 -> Touches packet index

/-- The packet carries whole options with room for their values. -/
def Consistent (packet : Packet) : Prop :=
  ∃ options, packet.Carries options ∧
    (∀ option ∈ options, option.kind = LCPOption.mru -> 4 ≤ option.size) ∧
    ∀ option ∈ options, option.kind = LCPOption.magicNumber -> 6 ≤ option.size

/-- What a round reads of an option that is there. -/
theorem lt_of_mem_optionTouches {packet : Packet} {offset index : Nat} {option : PPPOption}
    (located : packet.OptionAt offset option)
    (mru : option.kind = LCPOption.mru -> 4 ≤ option.size)
    (magicNumber : option.kind = LCPOption.magicNumber -> 6 ≤ option.size)
    (member : index ∈ optionTouches packet offset) : index < packet.bytes.length := by
  have inside := located.inside
  have size : 2 ≤ option.size := Nat.le_add_right 2 _
  unfold optionTouches at member
  dsimp only at member
  rw [located.kind, located.size] at member
  rcases List.mem_append.mp member with header | value
  · simp only [List.mem_cons, List.not_mem_nil, or_false] at header
    omega
  · split at value
    · rename_i isMru
      have room := mru isMru
      simp only [List.mem_cons, List.not_mem_nil, or_false] at value
      omega
    · split at value
      · rename_i isMagic
        have room := magicNumber isMagic
        simp only [List.mem_cons, List.not_mem_nil, or_false] at value
        omega
      · have within := List.mem_range'_1.mp value
        omega

/-- The handler of a consistent packet stays in it. -/
theorem lt_of_touches {packet : Packet} (consistent : Consistent packet) {index : Nat}
    (touched : Touches packet index) : index < packet.bytes.length := by
  rcases consistent with ⟨options, carries, mru, magicNumber⟩
  have fits : 12 + (encodeOptions options).length ≤ packet.bytes.length := carries.fits
  cases touched with
  | length member =>
      unfold lengthIndices at member
      simp only [List.mem_cons, List.not_mem_nil, or_false] at member
      omega
  | reply _ _ which => omega
  | @option offset boundary below member =>
      rw [optionArea_of_carries carries, length_encodeOptions] at boundary below
      have lands : Lands (nextOption packet) 0 (options.map PPPOption.size) := by
        refine carries.lands (fun start isStart => ?_)
        have small := carries.le_of_mem isStart
        have byte := (packet.optionLen start).toNat_lt
        unfold nextOption walkModulus
        exact Nat.mod_eq_of_lt (by omega)
      rcases lands.mem_of_boundary boundary with isStart | ended
      · rcases Packet.exists_optionAt carries.optionsAt isStart with ⟨option, isOption, located⟩
        exact lt_of_mem_optionTouches located (mru option isOption) (magicNumber option isOption) member
      · exact absurd ended (Nat.ne_of_lt below)

section

variable {bytes : Bytes} {behind : Nat -> UInt8} (other : Nat -> UInt8)

theorem length_eq (inside : ∀ index ∈ lengthIndices, index < bytes.length) :
    Packet.length ⟨bytes, behind⟩ = Packet.length ⟨bytes, other⟩ :=
  Buffer.field16_eq bytes behind other (inside 11 (by decide))

/-- A round whose reads lie in the packet does not depend on what lies behind it. -/
theorem checkOption_eq {offset : Nat}
    (inside : ∀ index ∈ optionTouches ⟨bytes, behind⟩ offset, index < bytes.length)
    (walk : PPPOESession × UInt8 × Bytes) :
    checkOption ⟨bytes, behind⟩ walk offset = checkOption ⟨bytes, other⟩ walk offset := by
  have type : Packet.optionType ⟨bytes, behind⟩ offset = Packet.optionType ⟨bytes, other⟩ offset :=
    Buffer.read_eq bytes behind other (inside _ (List.mem_append_left _ (by simp)))
  have size : Packet.optionLen ⟨bytes, behind⟩ offset = Packet.optionLen ⟨bytes, other⟩ offset :=
    Buffer.read_eq bytes behind other (inside _ (List.mem_append_left _ (by simp)))
  have value := fun index member => inside index (List.mem_append_right _ member)
  unfold checkOption
  dsimp only
  rw [← type]
  by_cases isMru : Packet.optionType ⟨bytes, behind⟩ offset = LCPOption.mru
  · rw [if_pos isMru] at value
    rw [if_pos isMru, if_pos isMru]
    unfold Packet.optionVal16
    rw [Buffer.field16_eq bytes behind other (value _ (by simp))]
  · rw [if_neg isMru] at value
    by_cases isMagic : Packet.optionType ⟨bytes, behind⟩ offset = LCPOption.magicNumber
    · rw [if_pos isMagic] at value
      rw [if_neg isMru, if_neg isMru, if_pos isMagic, if_pos isMagic]
      unfold Packet.optionVal32
      rw [Buffer.field32_eq bytes behind other (value _ (by simp))]
    · rw [if_neg isMagic] at value
      rw [if_neg isMru, if_neg isMru, if_neg isMagic, if_neg isMagic]
      unfold Packet.optionBytes
      rw [← size, Buffer.slice_eq bytes behind other value]

/-- The listed bytes are all that matters: when they lie in the packet, what lies
behind it makes no difference. -/
theorem checkConf_eq (context : LinkContext) (session : PPPOESession)
    (inside : forall index, Touches ⟨bytes, behind⟩ index -> index < bytes.length) :
    checkConf context session ⟨bytes, behind⟩ = checkConf context session ⟨bytes, other⟩ := by
  have area : optionArea ⟨bytes, behind⟩ = optionArea ⟨bytes, other⟩ := by
    unfold optionArea
    rw [length_eq other (fun index member => inside index (.length member))]
  have walked : forall rounds, visited (nextOption ⟨bytes, behind⟩) (optionArea ⟨bytes, behind⟩) rounds 0 =
      visited (nextOption ⟨bytes, other⟩) (optionArea ⟨bytes, behind⟩) rounds 0 := by
    intro rounds
    refine visited_congr (fun offset boundary below => ?_) .start
    unfold nextOption Packet.optionLen
    rw [Buffer.read_eq bytes behind other
      (inside _ (.option boundary below (List.mem_append_left _ (by simp))))]
  unfold checkConf
  dsimp only
  rw [← area, ← walked]
  by_cases empty : optionArea ⟨bytes, behind⟩ = 0
  · rw [if_pos empty, if_pos empty]
  · rw [if_neg empty, if_neg empty]
    cases isVisited : visited (nextOption ⟨bytes, behind⟩) (optionArea ⟨bytes, behind⟩)
      (optionArea ⟨bytes, behind⟩) 0 with
    | none => rfl
    | some offsets =>
        have rounds := List.foldl_ext (checkOption ⟨bytes, behind⟩) (checkOption ⟨bytes, other⟩)
          (session, LCPCode.confAck, []) (fun walk offset member =>
            have boundary := boundary_of_mem_visited .start isVisited member
            checkOption_eq other
              (fun index isTouched => inside index (.option boundary.1 boundary.2 isTouched)) walk)
        have replies : 9 < bytes.length := inside 9 (.reply empty isVisited (.inr rfl))
        have isIdentifier : Packet.identifier ⟨bytes, behind⟩ = Packet.identifier ⟨bytes, other⟩ :=
          Buffer.read_eq bytes behind other replies
        have isAck : forall session, access.acceptConf context.hwaddr session ⟨bytes, behind⟩ =
            access.acceptConf context.hwaddr session ⟨bytes, other⟩ := by
          intro session
          unfold FsmAccess.acceptConf FsmAccess.sendConfAck Packet.setCode
          rw [Buffer.set_eq bytes behind _ (Nat.lt_of_succ_lt replies),
            Buffer.set_eq bytes other _ (Nat.lt_of_succ_lt replies)]
        rw [Option.map_some, Option.map_some, rounds, isIdentifier, isAck]

end

/-- Only a packet without options is refused. -/
theorem optionArea_eq_zero_of_refused {context : LinkContext} {session : PPPOESession}
    {packet : Packet} (refused : Refused (checkConf context session packet)) :
    optionArea packet = 0 := by
  rcases refused with ⟨out, checked, failed⟩
  by_contra filled
  unfold checkConf at checked
  dsimp only at checked
  rw [if_neg filled] at checked
  rcases Option.map_eq_some_iff.mp checked with ⟨offsets, _, isOut⟩
  rw [← isOut] at failed
  split at failed
  · exact failed rfl
  · exact failed rfl

theorem length_of_optionArea_eq_zero {packet : Packet} (empty : optionArea packet = 0) :
    packet.length.toNat = sizeofPPPLcp := by
  have bound := packet.length.toNat_lt
  unfold optionArea walkModulus sizeofPPPLcp at *
  omega

/-- The handler stays in the packets that are consistent, and in no other. -/
theorem staysInside_iff (context : LinkContext) (session : PPPOESession) (packet : Packet) :
    StaysInside packet (Touches packet) (Consistent packet)
      (Refused (checkConf context session packet)) ↔ Consistent packet := by
  constructor
  · intro stays
    by_contra other
    have empty := optionArea_eq_zero_of_refused (stays.refuses other)
    have header := optionBase_le_of_lengthIndices
      (fun index member => stays.inside index (.length member))
    exact other ⟨[], carries_nil header (length_of_optionArea_eq_zero empty),
      fun _ member => absurd member List.not_mem_nil, fun _ member => absurd member List.not_mem_nil⟩
  · intro consistent
    exact ⟨fun _ touched => lt_of_touches consistent touched, fun other => absurd consistent other⟩

end LCPFsm

namespace IPCPFsm

/-- The bytes that `parseIPCPOptions` reads: the length field and the length of
every option. -/
inductive ParseTouches (packet : Packet) (index : Nat) : Prop
  | length : index ∈ lengthIndices -> ParseTouches packet index
  | option {offset : Nat} : Boundary (nextOption packet) (optionArea packet) offset ->
      offset < optionArea packet -> index = Packet.optionBase + offset + 1 -> ParseTouches packet index

/-- The bytes that the loop over unknown options reads: the type, and the length
and the whole of an option that it rejects. -/
def rejectTouches (aaaSession : AAASession) (packet : Packet) (offset : Nat) : List Nat :=
  let option := Packet.optionBase + offset
  option ::
    if (wanted aaaSession (packet.optionType offset)).isNone then
      (option + 1) :: List.range' option (packet.optionLen offset).toNat
    else []

/-- The bytes of a round that compares or overwrites: the type, and the value of
an option that it knows. -/
def valueTouches (aaaSession : AAASession) (packet : Packet) (offset : Nat) : List Nat :=
  let option := Packet.optionBase + offset
  option ::
    if (wanted aaaSession (packet.optionType offset)).isSome then
      [option + 2, option + 3, option + 4, option + 5]
    else []

/-- The bytes of the rounds that overwrite, each in the packet as the earlier ones
left it. -/
def overwriteTouches (aaaSession : AAASession) : Packet -> List Nat -> List Nat
  | _, [] => []
  | packet, offset :: rest =>
      valueTouches aaaSession packet offset ++
        overwriteTouches aaaSession (overwrite aaaSession packet offset) rest

/-- The bytes that `send_conf_nak` touches. -/
inductive NakTouches (aaaSession : AAASession) (packet : Packet) (index : Nat) : Prop
  | code : index = 8 -> NakTouches aaaSession packet index
  | parse : ParseTouches (packet.setCode LCPCode.confNak) index -> NakTouches aaaSession packet index
  | option {offsets : List Nat} :
      parseIPCPOptions (packet.setCode LCPCode.confNak) = some offsets ->
      index ∈ overwriteTouches aaaSession (packet.setCode LCPCode.confNak) offsets ->
      NakTouches aaaSession packet index

/-- The bytes that `IPCP_FSM::check_conf` touches once it has its AAA session. -/
inductive CheckTouches (aaaSession : AAASession) (packet : Packet) (index : Nat) : Prop
  | parse : ParseTouches packet index -> CheckTouches aaaSession packet index
  | reject {offsets : List Nat} {offset : Nat} : parseIPCPOptions packet = some offsets ->
      offset ∈ offsets -> index ∈ rejectTouches aaaSession packet offset ->
      CheckTouches aaaSession packet index
  | compare {offsets : List Nat} {offset : Nat} : parseIPCPOptions packet = some offsets ->
      rejectedOptions aaaSession packet offsets = [] -> offset ∈ offsets ->
      index ∈ valueTouches aaaSession packet offset -> CheckTouches aaaSession packet index
  /-- A reply other than a Configure-Nak overwrites the code or copies the identifier. -/
  | reply {offsets : List Nat} : parseIPCPOptions packet = some offsets -> index = 8 ∨ index = 9 ->
      CheckTouches aaaSession packet index
  | nak {offsets : List Nat} : parseIPCPOptions packet = some offsets ->
      rejectedOptions aaaSession packet offsets = [] -> mismatch aaaSession packet offsets = true ->
      NakTouches aaaSession packet index -> CheckTouches aaaSession packet index

/-- The bytes that `IPCP_FSM::check_conf` touches, given what `getSession` finds. -/
inductive Touches (found : Option AAASession) (packet : Packet) (index : Nat) : Prop
  | length : index ∈ lengthIndices -> Touches found packet index
  | check {aaaSession : AAASession} : LCPFsm.optionArea packet ≠ 0 -> found = some aaaSession ->
      CheckTouches aaaSession packet index -> Touches found packet index

/-- The packet carries whole options with room for their values. -/
def Consistent (packet : Packet) : Prop :=
  ∃ options, packet.Carries options ∧ ∀ option ∈ options, Known option -> 6 ≤ option.size

theorem isSome_wanted_iff (aaaSession : AAASession) (option : PPPOption) :
    (wanted aaaSession option.kind).isSome = true ↔ Known option := by
  rw [← Option.ne_none_iff_isSome, Ne, wanted_eq_none_iff, Classical.not_not]

section

variable {aaaSession : AAASession} {packet : Packet} {options : List PPPOption}

/-- The boundaries of a packet that carries options are the starts of the options. -/
theorem exists_optionAt_of_boundary (carries : packet.Carries options) {offset : Nat}
    (boundary : Boundary (nextOption packet) (optionArea packet) offset)
    (below : offset < optionArea packet) : ∃ option ∈ options, packet.OptionAt offset option := by
  have area : optionArea packet = (options.map PPPOption.size).sum := by
    unfold optionArea
    rw [carries.length, length_encodeOptions, Nat.add_sub_cancel_left]
  rw [area] at boundary below
  rcases (carries.lands (fun _ _ => rfl)).mem_of_boundary boundary with isStart | ended
  · exact Packet.exists_optionAt carries.optionsAt isStart
  · exact absurd ended (Nat.ne_of_lt below)

theorem lt_of_parseTouches (carries : packet.Carries options) {index : Nat}
    (touched : ParseTouches packet index) : index < packet.bytes.length := by
  have fits : 12 + (encodeOptions options).length ≤ packet.bytes.length := carries.fits
  cases touched with
  | length member =>
      unfold lengthIndices at member
      simp only [List.mem_cons, List.not_mem_nil, or_false] at member
      omega
  | option boundary below which =>
      rcases exists_optionAt_of_boundary carries boundary below with ⟨option, _, located⟩
      have inside := located.inside
      have size : 2 ≤ option.size := Nat.le_add_right 2 _
      omega

theorem lt_of_mem_rejectTouches {offset index : Nat} {option : PPPOption}
    (located : packet.OptionAt offset option)
    (member : index ∈ rejectTouches aaaSession packet offset) : index < packet.bytes.length := by
  have inside := located.inside
  have size : 2 ≤ option.size := Nat.le_add_right 2 _
  unfold rejectTouches at member
  dsimp only at member
  rw [located.size] at member
  rcases List.mem_cons.mp member with type | whole
  · omega
  · split at whole
    · rcases List.mem_cons.mp whole with length | within
      · omega
      · have bounds := List.mem_range'_1.mp within
        omega
    · exact absurd whole List.not_mem_nil

theorem lt_of_mem_valueTouches {offset index : Nat} {option : PPPOption}
    (kind : packet.optionType offset = option.kind)
    (inside : Packet.optionBase + offset + option.size ≤ packet.bytes.length)
    (room : Known option -> 6 ≤ option.size)
    (member : index ∈ valueTouches aaaSession packet offset) : index < packet.bytes.length := by
  have size : 2 ≤ option.size := Nat.le_add_right 2 _
  unfold valueTouches at member
  dsimp only at member
  rw [kind] at member
  rcases List.mem_cons.mp member with type | value
  · omega
  · split at value
    · rename_i isWanted
      have long := room ((isSome_wanted_iff aaaSession option).mp isWanted)
      simp only [List.mem_cons, List.not_mem_nil, or_false] at value
      omega
    · exact absurd value List.not_mem_nil

/-- The option starts at the offset, as far as its type and its end tell. -/
def TypeAt (packet : Packet) (offset : Nat) (option : PPPOption) : Prop :=
  packet.optionType offset = option.kind ∧
    Packet.optionBase + offset + option.size ≤ packet.bytes.length

/-- Changes in front of the options leave their types. -/
theorem typeAt_of_read {changed : Packet} {start : Nat}
    (located : List.Forall₂ (TypeAt packet) (startsOf start (options.map PPPOption.size)) options)
    (size : changed.bytes.length = packet.bytes.length)
    (reads : forall index, Packet.optionBase + start ≤ index ->
      changed.read index = packet.read index) :
    List.Forall₂ (TypeAt changed) (startsOf start (options.map PPPOption.size)) options := by
  induction options generalizing start with
  | nil => exact .nil
  | cons option options inductionHypothesis =>
      rcases List.forall₂_cons.mp located with ⟨⟨kind, inside⟩, later⟩
      refine .cons ⟨?_, size ▸ inside⟩ (inductionHypothesis later (fun index beyond =>
        reads index (by omega)))
      unfold Packet.optionType
      rw [reads _ (Nat.le_refl _)]
      exact kind

theorem overwrite_spec (aaaSession : AAASession) (packet : Packet) (offset : Nat) {option : PPPOption}
    (kind : packet.optionType offset = option.kind) (room : Known option -> 6 ≤ option.size) :
    (overwrite aaaSession packet offset).bytes.length = packet.bytes.length ∧
      forall index, Packet.optionBase + (offset + option.size) ≤ index ->
        (overwrite aaaSession packet offset).read index = packet.read index := by
  unfold overwrite
  rw [kind]
  cases isWanted : wanted aaaSession option.kind with
  | none => exact ⟨rfl, fun _ _ => rfl⟩
  | some value =>
      have long := room ((isSome_wanted_iff aaaSession option).mp (by rw [isWanted]; rfl))
      refine ⟨Buffer.length_setBytes _ _ _, fun index beyond => ?_⟩
      refine Buffer.read_setBytes_of_le packet _ ?_
      show Packet.optionBase + offset + 2 + 4 ≤ index
      omega

/-- What is overwritten belongs to the options. -/
theorem lt_of_mem_overwriteTouches {start index : Nat}
    (located : List.Forall₂ (TypeAt packet) (startsOf start (options.map PPPOption.size)) options)
    (room : ∀ option ∈ options, Known option -> 6 ≤ option.size)
    (member : index ∈ overwriteTouches aaaSession packet
      (startsOf start (options.map PPPOption.size))) : index < packet.bytes.length := by
  induction options generalizing packet start with
  | nil => exact absurd member List.not_mem_nil
  | cons option options inductionHypothesis =>
      rcases List.forall₂_cons.mp located with ⟨⟨kind, inside⟩, later⟩
      have ample := room option List.mem_cons_self
      have spec := overwrite_spec aaaSession packet start kind ample
      rcases List.mem_append.mp member with here | beyond
      · exact lt_of_mem_valueTouches kind inside ample here
      · rw [← spec.1]
        exact inductionHypothesis (typeAt_of_read later spec.1 spec.2)
          (fun other isOption => room other (List.mem_cons_of_mem option isOption)) beyond

theorem length_setCode_bytes (packet : Packet) (value : UInt8) :
    (packet.setCode value).bytes.length = packet.bytes.length :=
  Buffer.length_set packet 8 value

theorem lt_of_nakTouches (carries : packet.Carries options)
    (room : ∀ option ∈ options, Known option -> 6 ≤ option.size) {index : Nat}
    (touched : NakTouches aaaSession packet index) : index < packet.bytes.length := by
  have fits : 12 + (encodeOptions options).length ≤ packet.bytes.length := carries.fits
  have coded := carries.setCode LCPCode.confNak
  rw [← length_setCode_bytes packet LCPCode.confNak]
  cases touched with
  | code isCode =>
      rw [length_setCode_bytes]
      omega
  | parse isParse => exact lt_of_parseTouches coded isParse
  | option isParsed member =>
      rw [parseIPCPOptions_of_carries coded] at isParsed
      rw [← Option.some.inj isParsed] at member
      exact lt_of_mem_overwriteTouches
        (coded.optionsAt.imp (fun _ _ located => ⟨located.kind, located.inside⟩)) room member

/-- The handler of a consistent packet stays in it. -/
theorem lt_of_touches {found : Option AAASession} (consistent : Consistent packet) {index : Nat}
    (touched : Touches found packet index) : index < packet.bytes.length := by
  rcases consistent with ⟨options, carries, room⟩
  have fits : 12 + (encodeOptions options).length ≤ packet.bytes.length := carries.fits
  have visits : forall offsets offset, parseIPCPOptions packet = some offsets -> offset ∈ offsets ->
      ∃ option ∈ options, packet.OptionAt offset option := by
    intro offsets offset isParsed member
    rw [parseIPCPOptions_of_carries carries] at isParsed
    rw [← Option.some.inj isParsed] at member
    exact Packet.exists_optionAt carries.optionsAt member
  cases touched with
  | length member => exact lt_of_parseTouches carries (.length member)
  | check _ _ checked =>
      cases checked with
      | parse isParse => exact lt_of_parseTouches carries isParse
      | reject isParsed member isTouched =>
          rcases visits _ _ isParsed member with ⟨option, _, located⟩
          exact lt_of_mem_rejectTouches located isTouched
      | compare isParsed _ member isTouched =>
          rcases visits _ _ isParsed member with ⟨option, isOption, located⟩
          exact lt_of_mem_valueTouches located.kind located.inside (room option isOption) isTouched
      | reply _ which => omega
      | nak _ _ _ isNak => exact lt_of_nakTouches carries room isNak

end

section

variable {aaaSession : AAASession} {bytes : Bytes} {behind : Nat -> UInt8} (other : Nat -> UInt8)

theorem optionArea_eq (inside : ∀ index ∈ lengthIndices, index < bytes.length) :
    optionArea ⟨bytes, behind⟩ = optionArea ⟨bytes, other⟩ := by
  unfold optionArea
  rw [LCPFsm.length_eq other inside]

theorem parseIPCPOptions_eq
    (inside : forall index, ParseTouches ⟨bytes, behind⟩ index -> index < bytes.length) :
    parseIPCPOptions ⟨bytes, behind⟩ = parseIPCPOptions ⟨bytes, other⟩ := by
  unfold parseIPCPOptions
  rw [← optionArea_eq other (fun index member => inside index (.length member))]
  refine visited_congr (fun offset boundary below => ?_) .start
  unfold nextOption Packet.optionLen
  rw [Buffer.read_eq bytes behind other (inside _ (.option boundary below rfl))]

/-- The rounds that overwrite do the same to the packet whatever lies behind it. -/
theorem exists_foldl_overwrite_eq {offsets : List Nat}
    (inside : ∀ index ∈ overwriteTouches aaaSession ⟨bytes, behind⟩ offsets, index < bytes.length) :
    ∃ stored, offsets.foldl (overwrite aaaSession) ⟨bytes, behind⟩ = ⟨stored, behind⟩ ∧
      offsets.foldl (overwrite aaaSession) ⟨bytes, other⟩ = ⟨stored, other⟩ := by
  induction offsets generalizing bytes with
  | nil => exact ⟨bytes, rfl, rfl⟩
  | cons offset offsets inductionHypothesis =>
      have here := fun index member => inside index (List.mem_append_left _ member)
      have later := fun index member => inside index (List.mem_append_right _ member)
      have kind : Packet.optionType ⟨bytes, other⟩ offset = Packet.optionType ⟨bytes, behind⟩ offset :=
        Buffer.read_eq bytes other behind (here _ List.mem_cons_self)
      have round : ∃ once, once.length = bytes.length ∧
          overwrite aaaSession ⟨bytes, behind⟩ offset = ⟨once, behind⟩ ∧
          overwrite aaaSession ⟨bytes, other⟩ offset = ⟨once, other⟩ := by
        unfold valueTouches at here
        unfold overwrite
        rw [kind]
        cases isWanted : wanted aaaSession (Packet.optionType ⟨bytes, behind⟩ offset) with
        | none => exact ⟨bytes, rfl, rfl, rfl⟩
        | some value =>
            rw [isWanted] at here
            have last : Packet.optionBase + offset + 5 < bytes.length := here _ (by simp)
            rcases @Buffer.exists_setBytes_eq bytes (Packet.optionBase + offset + 2) (bytes32 value) last
              with ⟨once, sameLength, isOnce⟩
            exact ⟨once, sameLength, isOnce behind, isOnce other⟩
      rcases round with ⟨once, sameLength, isOnce, isOther⟩
      rw [isOnce, ← sameLength] at later
      rw [List.foldl_cons, List.foldl_cons, isOnce, isOther]
      exact inductionHypothesis later

theorem sendConfNak_eq (hwaddr : Mac) (getSession : SessionLookup) (session : PPPOESession)
    (found : getSession session.aaaSessionId = some aaaSession)
    (inside : forall index, NakTouches aaaSession ⟨bytes, behind⟩ index -> index < bytes.length) :
    sendConfNak hwaddr getSession session ⟨bytes, behind⟩ =
      sendConfNak hwaddr getSession session ⟨bytes, other⟩ := by
  have isCode := inside 8 (.code rfl)
  have coded : forall behind, Packet.setCode ⟨bytes, behind⟩ LCPCode.confNak =
      ⟨bytes.set 8 LCPCode.confNak, behind⟩ := fun behind =>
    Buffer.set_eq bytes behind LCPCode.confNak isCode
  have parses := fun index touched => inside index (.parse touched)
  rw [coded, ← @List.length_set _ bytes 8 LCPCode.confNak] at parses
  unfold sendConfNak
  rw [found]
  dsimp only
  rw [coded, coded, ← parseIPCPOptions_eq other parses]
  cases isParsed : parseIPCPOptions ⟨bytes.set 8 LCPCode.confNak, behind⟩ with
  | none => rfl
  | some offsets =>
      have written := fun index member => inside index (.option (coded behind ▸ isParsed) member)
      rw [coded, ← @List.length_set _ bytes 8 LCPCode.confNak] at written
      rcases exists_foldl_overwrite_eq other written with ⟨stored, isStored, isOther⟩
      rw [Option.map_some, Option.map_some, isStored, isOther]

theorem rejectedOptions_behind {offsets : List Nat}
    (inside : ∀ offset ∈ offsets, ∀ index ∈ rejectTouches aaaSession ⟨bytes, behind⟩ offset,
      index < bytes.length) :
    rejectedOptions aaaSession ⟨bytes, behind⟩ offsets =
      rejectedOptions aaaSession ⟨bytes, other⟩ offsets := by
  have type : ∀ offset ∈ offsets,
      Packet.optionType ⟨bytes, behind⟩ offset = Packet.optionType ⟨bytes, other⟩ offset :=
    fun offset member =>
      Buffer.read_eq bytes behind other (inside offset member _ List.mem_cons_self)
  have kept : offsets.filter (fun offset =>
        (wanted aaaSession (Packet.optionType ⟨bytes, behind⟩ offset)).isNone) =
      offsets.filter (fun offset =>
        (wanted aaaSession (Packet.optionType ⟨bytes, other⟩ offset)).isNone) :=
    List.filter_congr (fun offset member => by rw [type offset member])
  unfold rejectedOptions
  rw [← kept]
  refine List.flatMap_congr (fun offset member => ?_)
  rcases List.mem_filter.mp member with ⟨isOffset, isRejected⟩
  have whole := inside offset isOffset
  unfold rejectTouches at whole
  dsimp only at whole
  rw [if_pos isRejected] at whole
  have size : Packet.optionLen ⟨bytes, behind⟩ offset = Packet.optionLen ⟨bytes, other⟩ offset :=
    Buffer.read_eq bytes behind other (whole _ (by simp))
  unfold Packet.optionBytes
  rw [← size]
  exact Buffer.slice_eq bytes behind other (fun index within =>
    whole index (List.mem_cons_of_mem _ (List.mem_cons_of_mem _ within)))

theorem mismatch_behind {offsets : List Nat}
    (inside : ∀ offset ∈ offsets, ∀ index ∈ valueTouches aaaSession ⟨bytes, behind⟩ offset,
      index < bytes.length) :
    mismatch aaaSession ⟨bytes, behind⟩ offsets = mismatch aaaSession ⟨bytes, other⟩ offsets := by
  unfold mismatch
  rw [Bool.eq_iff_iff, List.any_eq_true, List.any_eq_true]
  refine exists_congr (fun offset => and_congr_right (fun member => ?_))
  have value := inside offset member
  have type : Packet.optionType ⟨bytes, behind⟩ offset = Packet.optionType ⟨bytes, other⟩ offset :=
    Buffer.read_eq bytes behind other (value _ List.mem_cons_self)
  unfold valueTouches at value
  rw [← type]
  cases isWanted : wanted aaaSession (Packet.optionType ⟨bytes, behind⟩ offset) with
  | none => rw [Option.any_none, Option.any_none]
  | some _ =>
      rw [isWanted] at value
      unfold Packet.optionVal32
      rw [Buffer.field32_eq bytes behind other (value _ (by simp))]

/-- The listed bytes are all that matters: when they lie in the packet, what lies
behind it makes no difference. -/
theorem checkConf_eq (hwaddr : Mac) (getSession : SessionLookup) (session : PPPOESession)
    (inside : forall index,
      Touches (getSession session.aaaSessionId) ⟨bytes, behind⟩ index -> index < bytes.length) :
    checkConf hwaddr getSession session ⟨bytes, behind⟩ =
      checkConf hwaddr getSession session ⟨bytes, other⟩ := by
  have area : LCPFsm.optionArea ⟨bytes, behind⟩ = LCPFsm.optionArea ⟨bytes, other⟩ := by
    unfold LCPFsm.optionArea
    rw [LCPFsm.length_eq other (fun index member => inside index (.length member))]
  unfold checkConf
  rw [← area]
  by_cases empty : LCPFsm.optionArea ⟨bytes, behind⟩ = 0
  · rw [if_pos empty, if_pos empty]
  · rw [if_neg empty, if_neg empty]
    cases found : getSession session.aaaSessionId with
    | none => rfl
    | some aaaSession =>
        have checks := fun index touched => inside index (.check empty found touched)
        dsimp only
        rw [← parseIPCPOptions_eq other (fun index touched => checks index (.parse touched))]
        cases isParsed : parseIPCPOptions ⟨bytes, behind⟩ with
        | none => rfl
        | some offsets =>
            have replies : 9 < bytes.length := checks 9 (.reply isParsed (.inr rfl))
            have isIdentifier : Packet.identifier ⟨bytes, behind⟩ = Packet.identifier ⟨bytes, other⟩ :=
              Buffer.read_eq bytes behind other replies
            have isRejected := rejectedOptions_behind other (fun _ member index touched =>
              checks index (.reject isParsed member touched))
            rw [Option.bind_some, Option.bind_some, isIdentifier, ← isRejected]
            by_cases nothing : rejectedOptions aaaSession ⟨bytes, behind⟩ offsets = []
            · rw [if_neg (not_not_intro nothing), if_neg (not_not_intro nothing),
                ← mismatch_behind other (fun _ member index touched =>
                  checks index (.compare isParsed nothing member touched))]
              cases differs : mismatch aaaSession ⟨bytes, behind⟩ offsets with
              | false =>
                  rw [if_neg Bool.false_ne_true, if_neg Bool.false_ne_true]
                  unfold FsmAccess.acceptConf FsmAccess.sendConfAck Packet.setCode
                  rw [Buffer.set_eq bytes behind _ (Nat.lt_of_succ_lt replies),
                    Buffer.set_eq bytes other _ (Nat.lt_of_succ_lt replies)]
              | true =>
                  rw [if_pos rfl, if_pos rfl]
                  refine sendConfNak_eq other hwaddr getSession _ ?_ (fun index touched =>
                    checks index (.nak isParsed nothing differs touched))
                  rw [← found]
                  unfold FsmAccess.refuseState
                  split <;> rfl
            · rw [if_pos nothing, if_pos nothing]

end

/-- A packet is refused when it has no options, or when there is no AAA session. -/
theorem of_refused {hwaddr : Mac} {getSession : SessionLookup} {session : PPPOESession}
    {packet : Packet} (refused : Refused (checkConf hwaddr getSession session packet)) :
    LCPFsm.optionArea packet = 0 ∨ getSession session.aaaSessionId = none := by
  rcases refused with ⟨out, checked, failed⟩
  by_contra neither
  rcases not_or.mp neither with ⟨filled, isFound⟩
  rcases Option.ne_none_iff_exists'.mp isFound with ⟨aaaSession, found⟩
  unfold checkConf at checked
  rw [if_neg filled, found] at checked
  rcases Option.bind_eq_some_iff.mp checked with ⟨offsets, _, isOut⟩
  dsimp only at isOut
  split at isOut
  · rw [← Option.some.inj isOut] at failed
    exact failed rfl
  · split at isOut
    · have asks : forall refused, refused = access.refuseState (adopt aaaSession session) ->
          getSession refused.aaaSessionId = some aaaSession := by
        rintro _ rfl
        rw [← found]
        unfold FsmAccess.refuseState
        split <;> rfl
      unfold sendConfNak at isOut
      rw [asks _ rfl] at isOut
      rcases Option.map_eq_some_iff.mp isOut with ⟨_, _, isQueued⟩
      rw [← isQueued] at failed
      exact failed rfl
    · rw [← Option.some.inj isOut] at failed
      exact failed rfl

/-- The handler stays in the packets that are consistent.  Without an AAA session
it stays in every packet that has its header, since it then looks no further. -/
theorem staysInside_iff (hwaddr : Mac) (getSession : SessionLookup) (session : PPPOESession)
    (packet : Packet) :
    StaysInside packet (Touches (getSession session.aaaSessionId) packet) (Consistent packet)
      (Refused (checkConf hwaddr getSession session packet)) ↔
        Consistent packet ∨
          (getSession session.aaaSessionId = none ∧ Packet.optionBase ≤ packet.bytes.length) := by
  constructor
  · intro stays
    have header := optionBase_le_of_lengthIndices
      (fun index member => stays.inside index (.length member))
    by_cases consistent : Consistent packet
    · exact .inl consistent
    · rcases of_refused (stays.refuses consistent) with empty | missing
      · exact .inl ⟨[], carries_nil header (LCPFsm.length_of_optionArea_eq_zero empty),
          fun _ member => absurd member List.not_mem_nil⟩
      · exact .inr ⟨missing, header⟩
  · intro either
    rcases either with consistent | ⟨missing, header⟩
    · exact ⟨fun _ touched => lt_of_touches consistent touched, fun other => absurd consistent other⟩
    · refine ⟨fun index touched => ?_, fun _ => ?_⟩
      · cases touched with
        | length member =>
            unfold lengthIndices at member
            unfold Packet.optionBase at header
            simp only [List.mem_cons, List.not_mem_nil, or_false] at member
            omega
        | check _ found _ => exact absurd (missing.symm.trans found).symm (Option.some_ne_none _)
      · unfold checkConf
        by_cases empty : LCPFsm.optionArea packet = 0
        · exact ⟨_, if_pos empty, Option.some_ne_none _⟩
        · rw [if_neg empty, missing]
          exact ⟨_, rfl, Option.some_ne_none _⟩

end IPCPFsm

/-- Both handlers of a Configure-Request stay in the packet exactly when it is
consistent, apart from IPCP without an AAA session. -/
theorem handlers_stay_inside_iff (context : LinkContext) (hwaddr : Mac)
    (getSession : IPCPFsm.SessionLookup) (session : PPPOESession) (packet : Packet) :
    (StaysInside packet (LCPFsm.Touches packet) (LCPFsm.Consistent packet)
        (Refused (LCPFsm.checkConf context session packet)) ↔ LCPFsm.Consistent packet) ∧
      (StaysInside packet (IPCPFsm.Touches (getSession session.aaaSessionId) packet)
          (IPCPFsm.Consistent packet)
          (Refused (IPCPFsm.checkConf hwaddr getSession session packet)) ↔
        IPCPFsm.Consistent packet ∨
          (getSession session.aaaSessionId = none ∧ Packet.optionBase ≤ packet.bytes.length)) :=
  ⟨LCPFsm.staysInside_iff context session packet,
    IPCPFsm.staysInside_iff hwaddr getSession session packet⟩

/-- A Configure-Request whose only option has the given type and no value. -/
def shortRequest (proto : UInt16) (kind : UInt8) : Packet where
  bytes := pppoeSessionHdr 1 8 proto ++ pppHdr LCPCode.confReq 1 6 ++ [kind, 2]
  behind := fun _ => 0

/-- The link and the session that such a request arrives for. -/
def shortLink : LinkContext := { hwaddr := ⟨2, 0, 0, 0, 0, 1⟩, lcpConf := {}, random := 7 }

def shortSession : PPPOESession :=
  .construct ⟨0, 0, 0, 0⟩ ⟨⟨2, 0, 0, 0, 1, 1⟩, ⟨2, 0, 0, 0, 0, 1⟩, 0, 0, ethPppoeSession⟩ 1

/-- The value of an MRU and that of an address are read behind such a request. -/
theorem shortRequest_left :
    ¬ StaysInside (shortRequest PPPProto.lcp LCPOption.mru)
        (LCPFsm.Touches (shortRequest PPPProto.lcp LCPOption.mru))
        (LCPFsm.Consistent (shortRequest PPPProto.lcp LCPOption.mru))
        (Refused (LCPFsm.checkConf shortLink shortSession
          (shortRequest PPPProto.lcp LCPOption.mru))) ∧
      ¬ StaysInside (shortRequest PPPProto.ipcp IPCPOption.ipAddress)
        (IPCPFsm.Touches (some IPCPFsm.tenSession) (shortRequest PPPProto.ipcp IPCPOption.ipAddress))
        (IPCPFsm.Consistent (shortRequest PPPProto.ipcp IPCPOption.ipAddress))
        (Refused (IPCPFsm.checkConf shortLink.hwaddr (fun _ => some IPCPFsm.tenSession) shortSession
          (shortRequest PPPProto.ipcp IPCPOption.ipAddress))) := by
  constructor
  · intro stays
    have touched : LCPFsm.Touches (shortRequest PPPProto.lcp LCPOption.mru) 14 :=
      .option .start (by decide) (by decide)
    exact absurd (stays.inside 14 touched) (by decide)
  · intro stays
    have touched : IPCPFsm.Touches (some IPCPFsm.tenSession)
        (shortRequest PPPProto.ipcp IPCPOption.ipAddress) 14 :=
      .check (by decide) rfl (@IPCPFsm.CheckTouches.compare _ _ _ [0] 0 (by decide) (by decide)
        (by decide) (by decide))
    exact absurd (stays.inside 14 touched) (by decide)

end Pppcpd
