import Pppcpd.Wire.Lengths
import Pppcpd.Runtime.TagBounds
import Pppcpd.Runtime.Service

namespace Pppcpd

open Foundation

/-!
# What follows the declared payload

The header of a discovery packet declares how long its payload is, and a link
may pad the frame behind it.  `parseTags` is handed the whole rest of the frame
and never compares an offset with the declared length.  The padding is of no
consequence exactly when the declared payload itself ends the loop.
-/

namespace Discovery

/-- The bytes end the loop of `parseTags` themselves: complete tags lead to the
end of the list or to the type of one of them. -/
inductive Closed : List UInt16 -> Bytes -> Prop
  | stop {seen : List UInt16} {tag : UInt16} {rest : Bytes} :
      tag = PPPOETag.endOfList ∨ tag ∈ seen -> Closed seen (bytes16 tag ++ rest)
  | tag {seen : List UInt16} {tag : UInt16} {value rest : Bytes} : value.length < 65536 ->
      Closed (tag :: seen) rest -> Closed seen (tagBytes tag value ++ rest)

theorem Closed.ne_nil {seen : List UInt16} {bytes : Bytes} (closed : Closed seen bytes) :
    bytes ≠ [] := by
  cases closed with
  | stop _ => exact List.cons_ne_nil _ _
  | tag _ _ => exact List.cons_ne_nil _ _

/-- The error for a type that the map has. -/
def cannotInsert (tag : UInt16) : String :=
  "Cannot insert tag " ++ toString tag.toNat ++ " in tag map"

theorem cannotInsert_inj {tag other : UInt16} (same : cannotInsert tag = cannotInsert other) :
    tag = other := by
  unfold cannotInsert at same
  have texts := congrArg String.toList same
  simp only [String.toList_append] at texts
  have digits := List.append_cancel_left (List.append_cancel_right texts)
  have codes : ascii (toString tag.toNat) = ascii (toString other.toNat) := by
    unfold ascii
    rw [digits]
  exact UInt16.toNat_inj.mp (ascii_toString_inj codes)

/-- A round that meets the end of the list or a type that the map has. -/
theorem parseTagsFrom_stop (front rest : Bytes) (behind : Nat -> UInt8) (rounds : Nat) {tags : Tags}
    {tag : UInt16} (stops : tag = PPPOETag.endOfList ∨ tag ∈ tags) :
    parseTagsFrom ⟨front ++ (bytes16 tag ++ rest), behind⟩ (rounds + 1) front.length tags =
      (tags, if tag = PPPOETag.endOfList then none else some (cannotInsert tag)) := by
  have isTag : (Buffer.mk (front ++ (bytes16 tag ++ rest)) behind).field16 front.length = tag := by
    have start := Buffer.field16_append front (bytes16 tag ++ rest) behind 0
    rw [Buffer.field16_bytes16] at start
    exact start
  rw [parseTagsFrom_succ, isTag]
  dsimp only
  by_cases ended : tag = PPPOETag.endOfList
  · rw [if_pos ended, if_pos ended]
  · rw [if_neg ended, if_neg ended, if_pos (stops.resolve_left ended)]
    rfl

/-- Bytes that end the loop end it alike, whatever follows them. -/
theorem Closed.parseTagsFrom_eq {seen : List UInt16} {bytes : Bytes} (closed : Closed seen bytes)
    (front padding other : Bytes) (behind another : Nat -> UInt8) {rounds more : Nat}
    (enough : bytes.length < rounds) (sufficient : bytes.length < more) {tags : Tags}
    (same : forall tag, tag ∈ seen ↔ tag ∈ tags) :
    parseTagsFrom ⟨front ++ (bytes ++ padding), behind⟩ rounds front.length tags =
      parseTagsFrom ⟨front ++ (bytes ++ other), another⟩ more front.length tags := by
  induction closed generalizing front rounds more tags with
  | @stop seen tag rest stops =>
      rcases Nat.exists_eq_succ_of_ne_zero (Nat.ne_zero_of_lt enough) with ⟨fewer, isRounds⟩
      rcases Nat.exists_eq_succ_of_ne_zero (Nat.ne_zero_of_lt sufficient) with ⟨less, isMore⟩
      have known := stops.imp_right (same tag).mp
      rw [isRounds, isMore, List.append_assoc, List.append_assoc, parseTagsFrom_stop _ _ _ _ known,
        parseTagsFrom_stop _ _ _ _ known]
  | @tag seen tag value rest fits closed inductionHypothesis =>
      rcases Nat.exists_eq_succ_of_ne_zero (Nat.ne_zero_of_lt enough) with ⟨fewer, isRounds⟩
      rcases Nat.exists_eq_succ_of_ne_zero (Nat.ne_zero_of_lt sufficient) with ⟨less, isMore⟩
      rw [isRounds, isMore, List.append_assoc, List.append_assoc]
      by_cases stops : tag = PPPOETag.endOfList ∨ tag ∈ tags
      · -- The loop stops at this tag already.
        have start : forall following : Bytes, tagBytes tag value ++ following =
            bytes16 tag ++ (bytes16 (UInt16.ofNat value.length) ++ value ++ following) := fun _ => rfl
        rw [start, start, parseTagsFrom_stop _ _ _ _ stops, parseTagsFrom_stop _ _ _ _ stops]
      · rcases not_or.mp stops with ⟨typed, fresh⟩
        have going : forall following : Bytes, rest ++ following ≠ [] := fun following nothing =>
          closed.ne_nil (List.append_eq_nil_iff.mp nothing).1
        rw [parseTagsFrom_tag _ _ _ _ typed fits fresh, parseTagsFrom_tag _ _ _ _ typed fits fresh,
          if_neg (going padding), if_neg (going other)]
        rw [List.length_append, length_tagBytes] at enough sufficient
        exact inductionHypothesis (front ++ tagBytes tag value) (by omega) (by omega)
          (fun known => by rw [List.mem_cons, AList.mem_insert, same])

/-! ## Padding that misleads -/

/-- Two empty tags of one type. -/
def twice (tag : UInt16) : Bytes := tagBytes tag [] ++ tagBytes tag []

/-- The loop reports the given type when these bytes are left of the frame. -/
structure Blames (tag : UInt16) (seen : List UInt16) (bytes : Bytes) : Prop where
  nonempty : bytes ≠ []
  reports : forall (front : Bytes) (behind : Nat -> UInt8) (rounds : Nat) (tags : Tags),
    bytes.length < rounds -> (forall known, known ∈ seen ↔ known ∈ tags) ->
      (parseTagsFrom ⟨front ++ bytes, behind⟩ rounds front.length tags).2 = some (cannotInsert tag)

/-- A type that came before is reported. -/
theorem blames_known {tag : UInt16} {seen : List UInt16} (typed : tag ≠ PPPOETag.endOfList)
    (known : tag ∈ seen) (rest : Bytes) : Blames tag seen (bytes16 tag ++ rest) where
  nonempty := List.cons_ne_nil _ _
  reports := by
    intro front behind rounds tags enough same
    rcases Nat.exists_eq_succ_of_ne_zero (Nat.ne_zero_of_lt enough) with ⟨fewer, isRounds⟩
    rw [isRounds, parseTagsFrom_stop _ _ _ _ (.inr ((same tag).mp known)), if_neg typed]

/-- A tag of a new type leaves it to the bytes behind it. -/
theorem Blames.behind_tag {blamed tag : UInt16} {seen : List UInt16} {value rest : Bytes}
    (blames : Blames blamed (tag :: seen) rest) (typed : tag ≠ PPPOETag.endOfList)
    (fresh : tag ∉ seen) (fits : value.length < 65536) :
    Blames blamed seen (tagBytes tag value ++ rest) where
  nonempty := List.cons_ne_nil _ _
  reports := by
    intro front behind rounds tags enough same
    rcases Nat.exists_eq_succ_of_ne_zero (Nat.ne_zero_of_lt enough) with ⟨fewer, isRounds⟩
    rw [isRounds, parseTagsFrom_tag _ _ _ _ typed fits (fun known => fresh ((same tag).mpr known)),
      if_neg blames.nonempty]
    rw [List.length_append, length_tagBytes] at enough
    exact blames.reports _ _ _ _ (by omega) (fun known => by rw [List.mem_cons, AList.mem_insert, same])

/-- The second of two tags of one type is reported, or the first one already. -/
theorem blames_twice {tag : UInt16} (typed : tag ≠ PPPOETag.endOfList) (seen : List UInt16) :
    Blames tag seen (twice tag) := by
  by_cases known : tag ∈ seen
  · exact blames_known typed known ([0, 0] ++ tagBytes tag [])
  · have second : Blames tag (tag :: seen) (tagBytes tag []) :=
      blames_known typed List.mem_cons_self [0, 0]
    exact second.behind_tag typed known (by decide)

/-- Bytes that begin with a type are a whole tag and what follows it, or a tag
that more bytes complete. -/
theorem whole_or_completed (tag : UInt16) (rest : Bytes) :
    (∃ value following, value.length < 65536 ∧
        bytes16 tag ++ rest = tagBytes tag value ++ following) ∨
      ∃ filler value, value.length < 65536 ∧ bytes16 tag ++ rest ++ filler = tagBytes tag value := by
  match rest with
  | [] => exact .inr ⟨[0, 0], [], by decide, rfl⟩
  | [high] =>
      have size : (List.replicate (be16 high 0).toNat (0 : UInt8)).length = (be16 high 0).toNat :=
        List.length_replicate
      have short : (List.replicate (be16 high 0).toNat (0 : UInt8)).length < 65536 := by
        rw [size]
        exact (be16 high 0).toNat_lt
      refine .inr ⟨0 :: List.replicate (be16 high 0).toNat 0, _, short, ?_⟩
      rw [tagBytes, size, UInt16.ofNat_toNat, bytes16_be16, List.append_assoc, List.append_assoc]
      rfl
  | high :: low :: rest =>
      have sized : forall value : Bytes, value.length = (be16 high low).toNat ->
          value.length < 65536 ∧ tagBytes tag value = bytes16 tag ++ ([high, low] ++ value) := by
        intro value size
        refine ⟨size ▸ (be16 high low).toNat_lt, ?_⟩
        rw [tagBytes, size, UInt16.ofNat_toNat, bytes16_be16, List.append_assoc]
      by_cases fits : (be16 high low).toNat ≤ rest.length
      · rcases sized (rest.take (be16 high low).toNat) (List.length_take_of_le fits) with ⟨short, isTag⟩
        refine .inl ⟨_, rest.drop (be16 high low).toNat, short, ?_⟩
        rw [isTag, List.append_assoc, List.append_assoc, List.take_append_drop]
        rfl
      · have size : (rest ++ List.replicate ((be16 high low).toNat - rest.length) 0).length =
            (be16 high low).toNat := by
          rw [List.length_append, List.length_replicate]
          omega
        rcases sized _ size with ⟨short, isTag⟩
        refine .inr ⟨List.replicate ((be16 high low).toNat - rest.length) 0, _, short, ?_⟩
        rw [isTag, List.append_assoc]
        rfl

theorem be16_ne_endOfList (high : UInt8) {low : UInt8} (nonzero : low ≠ 0) :
    be16 high low ≠ PPPOETag.endOfList := by
  intro ended
  have value := toNat_be16 high low
  rw [ended] at value
  have zero : PPPOETag.endOfList.toNat = 0 := rfl
  exact nonzero (UInt8.toNat_inj.mp (by rw [UInt8.toNat_zero]; omega))

/-- Bytes that do not end the loop leave it to the padding which type is reported. -/
theorem exists_blames {seen : List UInt16} {bytes : Bytes} (opened : ¬ Closed seen bytes) :
    ∃ high, forall low : UInt8, low ≠ 0 -> ∃ padding, Blames (be16 high low) seen (bytes ++ padding) := by
  induction isSize : bytes.length using Nat.strong_induction_on generalizing seen bytes with
  | h size inductionHypothesis => ?_
  match bytes with
  | [] => exact ⟨0, fun low nonzero => ⟨_, blames_twice (be16_ne_endOfList 0 nonzero) seen⟩⟩
  | [high] =>
      refine ⟨high, fun low nonzero => ?_⟩
      have blames := blames_twice (be16_ne_endOfList high nonzero) seen
      have start : twice (be16 high low) =
          [high] ++ ([low] ++ ([0, 0] ++ tagBytes (be16 high low) [])) := by
        rw [twice, tagBytes, bytes16_be16]
        rfl
      exact ⟨_, start ▸ blames⟩
  | first :: second :: rest =>
      have start : first :: second :: rest = bytes16 (be16 first second) ++ rest := by
        rw [bytes16_be16]
        rfl
      rw [start] at opened ⊢
      have typed : be16 first second ≠ PPPOETag.endOfList := fun ended => opened (.stop (.inl ended))
      have fresh : be16 first second ∉ seen := fun known => opened (.stop (.inr known))
      rcases whole_or_completed (be16 first second) rest with
        ⟨value, following, fits, whole⟩ | ⟨filler, value, fits, completed⟩
      · rw [whole] at opened ⊢
        have shorter : following.length < size := by
          rw [← isSize, start, whole, List.length_append, length_tagBytes]
          omega
        rcases inductionHypothesis _ shorter (fun closed => opened (.tag fits closed)) rfl with
          ⟨high, misled⟩
        refine ⟨high, fun low nonzero => ?_⟩
        rcases misled low nonzero with ⟨padding, blames⟩
        refine ⟨padding, ?_⟩
        rw [List.append_assoc]
        exact blames.behind_tag typed fresh fits
      · refine ⟨0, fun low nonzero => ⟨filler ++ twice (be16 0 low), ?_⟩⟩
        rw [← List.append_assoc, completed]
        exact (blames_twice (be16_ne_endOfList 0 nonzero) _).behind_tag typed fresh fits

/-! ## Frames that declare their payload -/

/-- A discovery packet as its header declares it. -/
structure Declared where
  header : Bytes
  payload : Bytes
  sized : header.length = sizeofPPPOEDiscHdr
  counted : (Packet.pppoeLength ⟨header, fun _ => 0⟩).toNat = payload.length

namespace Declared

/-- The packet in a frame that is padded behind the declared payload. -/
def padded (declared : Declared) (padding : Bytes) (behind : Nat -> UInt8) : Packet :=
  ⟨declared.header ++ (declared.payload ++ padding), behind⟩

/-- The code in the header. -/
def code (declared : Declared) : UInt8 := Packet.pppoeCode ⟨declared.header, fun _ => 0⟩

theorem pppoeCode_padded (declared : Declared) (padding : Bytes) (behind : Nat -> UInt8) :
    (declared.padded padding behind).pppoeCode = declared.code := by
  refine Buffer.read_inside _ _ _ _ ?_
  rw [declared.sized]
  decide

theorem payload_padded (declared : Declared) (padding : Bytes) (behind : Nat -> UInt8) :
    Discovery.payload (declared.padded padding behind) = .ok ⟨declared.payload ++ padding, behind⟩ := by
  have size : ¬ (declared.padded padding behind).bytes.length < sizeofPPPOEDiscHdr := by
    rw [padded, List.length_append, declared.sized]
    omega
  rw [Discovery.payload, if_neg size, Buffer.drop, padded, ← declared.sized, List.drop_left]

theorem tagsOf_padded (declared : Declared) (name : String) (padding : Bytes)
    (behind : Nat -> UInt8) : tagsOf name (declared.padded padding behind) =
      match (parseTags ⟨declared.payload ++ padding, behind⟩).2 with
      | none => .ok (parseTags ⟨declared.payload ++ padding, behind⟩).1
      | some err => .error ("Cannot process " ++ name ++ ": " ++ err) := by
  rw [tagsOf, payload_padded]
  rfl

/-- The tags of a payload that ends the loop are read alike in every frame. -/
theorem tagsOf_eq {declared : Declared} (closed : Closed [] declared.payload) (name : String)
    (padding other : Bytes) (behind another : Nat -> UInt8) :
    tagsOf name (declared.padded padding behind) = tagsOf name (declared.padded other another) := by
  have parsed : parseTags ⟨declared.payload ++ padding, behind⟩ =
      parseTags ⟨declared.payload ++ other, another⟩ := by
    refine closed.parseTagsFrom_eq [] padding other behind another ?_ ?_
      (fun tag => iff_of_false List.not_mem_nil (@AList.notMem_empty _ _ tag))
    · rw [List.length_append]
      omega
    · rw [List.length_append]
      omega
  rw [tagsOf_padded, tagsOf_padded, parsed]

/-- A payload that does not end the loop is reported with either of two types. -/
theorem misread_of_opened {declared : Declared} (opened : ¬ Closed [] declared.payload) :
    ∃ first second, first ≠ second ∧ forall tag, tag = first ∨ tag = second ->
      ∃ padding, forall name behind, tagsOf name (declared.padded padding behind) =
        .error ("Cannot process " ++ name ++ ": " ++ cannotInsert tag) := by
  rcases exists_blames opened with ⟨high, misled⟩
  have blamed : forall low : UInt8, low ≠ 0 -> ∃ padding, forall name behind,
      tagsOf name (declared.padded padding behind) =
        .error ("Cannot process " ++ name ++ ": " ++ cannotInsert (be16 high low)) := by
    intro low nonzero
    rcases misled low nonzero with ⟨padding, blames⟩
    refine ⟨padding, fun name behind => ?_⟩
    have reported : (parseTags ⟨declared.payload ++ padding, behind⟩).2 =
        some (cannotInsert (be16 high low)) :=
      blames.reports [] behind _ ∅ (Nat.lt_succ_self _)
        (fun tag => iff_of_false List.not_mem_nil (@AList.notMem_empty _ _ tag))
    rw [tagsOf_padded, reported]
  refine ⟨be16 high 1, be16 high 2, fun same => ?_, ?_⟩
  · have values := congrArg UInt16.toNat same
    rw [toNat_be16, toNat_be16] at values
    have one : (1 : UInt8).toNat = 1 := rfl
    have two : (2 : UInt8).toNat = 2 := rfl
    omega
  · rintro tag (isFirst | isSecond)
    · exact isFirst ▸ blamed 1 (by decide)
    · exact isSecond ▸ blamed 2 (by decide)

end Declared

end Discovery

namespace Runtime

open Discovery

/-- The packet is handled alike in every frame, whatever follows its declared
payload: with the same result, the same change of the state and the same reply. -/
def PaddingIgnored (runtime : Runtime) (env : Env) (encap : Encapsulation) (declared : Declared) : Prop :=
  forall (padding other : Bytes) (behind another : Nat -> UInt8),
    runtime.processPPPOE env encap (declared.padded padding behind) =
      runtime.processPPPOE env encap (declared.padded other another)

section

variable {runtime : Runtime} {env : Env} {encap : Encapsulation}

/-- Of a PADI and of a PADR nothing is read but the code and the tags. -/
theorem processPPPOE_congr {packet other : Packet} (sameCode : packet.pppoeCode = other.pppoeCode)
    (notPadt : packet.pppoeCode ≠ PPPOECode.padt)
    (sameTags : forall name, tagsOf name packet = tagsOf name other) :
    runtime.processPPPOE env encap packet = runtime.processPPPOE env encap other := by
  have sameOffer : runtime.processPadi env encap packet = runtime.processPadi env encap other := by
    rw [processPadi, processPadi, padoTags, padoTags, sameTags]
  have sameSession : runtime.processPadr env encap packet = runtime.processPadr env encap other := by
    rw [processPadr, processPadr, sameTags]
  rw [processPPPOE, processPPPOE, ← sameCode, sameOffer, sameSession, if_neg notPadt, if_neg notPadt]

/-- The name of a request in error texts. -/
def requestName (code : UInt8) : String := if code = PPPOECode.padi then "PADI" else "PADR"

/-- A request whose tags are in error changes nothing. -/
theorem processPPPOE_of_tags_error {packet : Packet} {err : String}
    (request : packet.pppoeCode = PPPOECode.padi ∨ packet.pppoeCode = PPPOECode.padr)
    (refused : tagsOf (requestName packet.pppoeCode) packet = .error err) :
    runtime.processPPPOE env encap packet = some (runtime, some err) := by
  rcases request with padi | padr
  · rw [padi] at refused
    have unbuilt : runtime.padoTags env encap packet = .error err := by
      rw [padoTags, show tagsOf "PADI" packet = .error err from refused]
      rfl
    rw [processPPPOE_of_padi padi, processPadi_of_error unbuilt]
    rfl
  · rw [padr] at refused
    rw [processPPPOE, padr, if_neg (by decide), if_pos rfl, processPadr,
      show tagsOf "PADR" packet = .error err from refused]
    rfl

end

/-- In every state, what follows the declared payload of a PADI or PADR is ignored
exactly when the payload itself ends the loop of `parseTags`. -/
theorem paddingIgnored_iff (runtime : Runtime) (env : Env) (encap : Encapsulation) {declared : Declared}
    (request : declared.code = PPPOECode.padi ∨ declared.code = PPPOECode.padr) :
    runtime.PaddingIgnored env encap declared ↔ Closed [] declared.payload := by
  constructor
  · intro ignored
    by_contra opened
    rcases declared.misread_of_opened opened with ⟨first, second, different, misread⟩
    rcases misread first (.inl rfl) with ⟨padding, refused⟩
    rcases misread second (.inr rfl) with ⟨other, refusedOther⟩
    have same := ignored padding other (fun _ => 0) (fun _ => 0)
    rw [processPPPOE_of_tags_error (by rw [declared.pppoeCode_padded]; exact request) (refused _ _),
      processPPPOE_of_tags_error (by rw [declared.pppoeCode_padded]; exact request)
        (refusedOther _ _), declared.pppoeCode_padded, declared.pppoeCode_padded] at same
    have texts := Option.some.inj (Prod.mk.inj (Option.some.inj same)).2
    exact different (cannotInsert_inj ((String.append_right_inj _).mp texts))
  · intro closed padding other behind another
    refine processPPPOE_congr ?_ ?_ (fun name => Declared.tagsOf_eq closed name _ _ _ _)
    · rw [declared.pppoeCode_padded, declared.pppoeCode_padded]
    · rw [declared.pppoeCode_padded]
      rcases request with padi | padr
      · rw [padi]
        decide
      · rw [padr]
        decide

/-- A PADI whose payload is the given one. -/
def declaredPadi (payload : Bytes) (small : payload.length < 65536) : Declared where
  header := [0x11, PPPOECode.padi, 0, 0] ++ bytes16 (UInt16.ofNat payload.length)
  payload := payload
  sized := rfl
  counted := by
    have field : Packet.pppoeLength
        ⟨[0x11, PPPOECode.padi, 0, 0] ++ bytes16 (UInt16.ofNat payload.length), fun _ => 0⟩ =
        UInt16.ofNat payload.length := be16_bytes16 _
    rw [field, UInt16.toNat_ofNat']
    exact Nat.mod_eq_of_lt small

theorem paddingIgnored_at_ended :
    (sampleDaemon [.none] papPolicy).PaddingIgnored {} (sampleLink 1)
      (declaredPadi (tagBytes PPPOETag.hostUniq [7] ++ bytes16 PPPOETag.endOfList) (by decide)) :=
  (paddingIgnored_iff _ _ _ (.inl rfl)).mpr (.tag (by decide) (.stop (.inl rfl)))

/-- A PADI with a Host-Uniq is answered, and gets an error when the padding repeats the tag. -/
theorem padding_is_parsed :
    ¬ (forall now : Runtime, Reachable happen (sampleDaemon [.none] papPolicy) now ->
      forall (env : Env) (encap : Encapsulation) (declared : Declared),
        declared.code = PPPOECode.padi ∨ declared.code = PPPOECode.padr ->
          now.PaddingIgnored env encap declared) := by
  intro ignored
  have same := ignored _ (.refl happen _) {} (sampleLink 1)
    (declaredPadi (tagBytes PPPOETag.hostUniq [7]) (by decide)) (.inl rfl) [0, 0, 0, 0]
    (tagBytes PPPOETag.hostUniq [7]) (fun _ => 0) (fun _ => 0)
  have errors := congrArg (Option.map (fun result => result.2.isNone)) same
  exact absurd errors (by decide +kernel)

end Runtime

end Pppcpd
