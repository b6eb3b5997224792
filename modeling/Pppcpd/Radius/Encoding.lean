import Pppcpd.Foundation.Md5
import Pppcpd.Radius.Attribute
import Pppcpd.Radius.Messages
import Mathlib.Data.List.Nodup

namespace Pppcpd

open Foundation

/-!
# What the requests put on the wire

`serialize` collects the attributes of a request in a set that is ordered by type
alone, and writes them one behind another.  A request is right on the wire when every
length byte counts its attribute and the bytes decode to one attribute for each
field, with the field's value.  Nothing is refused, so a name that stands for an
attribute of a vendor, a text that is too long for the length byte, or one that the
dictionary takes for a number, is sent all the same.
-/

/-- How a field becomes an attribute: a text as it is, a counter, or a text that
stands for a number of the dictionary.  Without that number such a field is left out,
or else its text is written. -/
inductive FieldValue
  | text (value : Bytes)
  | counter (value : UInt32)
  | number (text : Bytes) (leftOut : Bool)
  deriving DecidableEq, Repr

structure RequestField where
  attr : Bytes
  value : FieldValue
  deriving DecidableEq, Repr

namespace RequestField

/-- The attributes that `serialize` makes of a field. -/
def avps (dict : RadiusDict) (field : RequestField) : List AVP :=
  match field.value with
  | .text value => [AVP.ofString dict field.attr value]
  | .counter value => [AVP.ofBE32 dict field.attr value]
  | .number text true =>
      let number := dict.getValueByName field.attr text
      if number = 0 then [] else [AVP.ofBE32 dict field.attr number]
  | .number text false => [AVP.ofString dict field.attr text]

/-- The value that the attribute of a field should have, if there is one. -/
def wanted (dict : RadiusDict) (field : RequestField) : Option Bytes :=
  match field.value with
  | .text value => some value
  | .counter value => some (bytes32 value)
  | .number text _ =>
      let number := dict.getValueByName field.attr text
      if number = 0 then none else some (bytes32 number)

/-- The attribute that a field should be decoded to. -/
def onWire (dict : RadiusDict) (field : RequestField) : Option Attribute :=
  let id := dict.getIdByName field.attr
  (field.wanted dict).map (fun value => ⟨id.1, if id.2 = 0 then none else some id.2, value⟩)

end RequestField

/-- A field that is set when a text is not empty. -/
def fieldIf (text attr : Bytes) (value : FieldValue) : List RequestField :=
  if text = [] then [] else [⟨attr, value⟩]

theorem flatMap_avps_text (dict : RadiusDict) (attr text : Bytes) :
    (fieldIf text attr (.text text)).flatMap (RequestField.avps dict) = optionalText dict attr text := by
  unfold fieldIf optionalText
  split <;> rfl

theorem flatMap_avps_number (dict : RadiusDict) (attr text : Bytes) :
    (fieldIf text attr (.number text true)).flatMap (RequestField.avps dict) =
      optionalNumber dict attr text := by
  unfold fieldIf optionalNumber
  by_cases empty : text = []
  · rw [if_pos empty]
    exact (if_pos (.inl empty)).symm
  · rw [if_neg empty, List.flatMap_singleton]
    dsimp only [RequestField.avps]
    by_cases zero : dict.getValueByName attr text = 0
    · rw [if_pos zero, if_pos (.inr zero)]
    · rw [if_neg zero, if_neg (not_or.mpr ⟨empty, zero⟩)]

/-- The fields of a credential: the hidden password, or both parts of CHAP. -/
def Credential.fields (md5 : Bytes -> Bytes) (auth secret : Bytes) : Credential -> List RequestField
  | .pap password => [⟨ascii "User-Password", .text (passwordPapProcess md5 auth secret password)⟩]
  | .chap challenge response =>
      [⟨ascii "CHAP-Password", .text response⟩, ⟨ascii "CHAP-Challenge", .text challenge⟩]

/-- The fields of an access request that are set. -/
def RadiusRequest.fields (md5 : Bytes -> Bytes) (auth secret : Bytes) (request : RadiusRequest) :
    List RequestField :=
  [⟨ascii "User-Name", .text request.username⟩] ++ request.credential.fields md5 auth secret ++
    fieldIf request.nasId (ascii "NAS-Identifier") (.text request.nasId) ++
    fieldIf request.framedProtocol (ascii "Framed-Protocol") (.number request.framedProtocol true) ++
    fieldIf request.serviceType (ascii "Service-Type") (.number request.serviceType true) ++
    fieldIf request.callingStationId (ascii "Calling-Station-Id") (.text request.callingStationId) ++
    fieldIf request.nasPortId (ascii "NAS-Port-Id") (.text request.nasPortId)

theorem RadiusRequest.serialize_eq (md5 : Bytes -> Bytes) (dict : RadiusDict) (auth secret : Bytes)
    (request : RadiusRequest) : request.serialize md5 dict auth secret =
      AVP.serializeAll ((request.fields md5 auth secret).flatMap (RequestField.avps dict)) := by
  have credential : (request.credential.fields md5 auth secret).flatMap (RequestField.avps dict) =
      request.credential.avps md5 dict auth secret := by
    cases request.credential <;> rfl
  unfold serialize fields
  simp only [List.flatMap_append, flatMap_avps_text, flatMap_avps_number, credential]
  rfl

/-- `AcctRequest` with its six strings. -/
structure FullAcctRequest where
  sessionId : Bytes
  username : Bytes
  nasId : Bytes
  nasPortId : Bytes
  acctStatusType : Bytes
  callingStationId : Bytes
  inPkts : UInt32
  outPkts : UInt32
  inBytes : UInt32
  outBytes : UInt32
  deriving DecidableEq, Repr

namespace FullAcctRequest

/-- The fields of an accounting request that are set. -/
def fields (request : FullAcctRequest) : List RequestField :=
  [⟨ascii "Acct-Session-Id", .text request.sessionId⟩, ⟨ascii "User-Name", .text request.username⟩,
    ⟨ascii "Acct-Input-Packets", .counter request.inPkts⟩,
    ⟨ascii "Acct-Output-Packets", .counter request.outPkts⟩,
    ⟨ascii "Acct-Input-Octets", .counter request.inBytes⟩,
    ⟨ascii "Acct-Output-Octets", .counter request.outBytes⟩] ++
    fieldIf request.acctStatusType (ascii "Acct-Status-Type") (.number request.acctStatusType false) ++
    fieldIf request.nasId (ascii "NAS-Identifier") (.text request.nasId) ++
    fieldIf request.callingStationId (ascii "Calling-Station-Id") (.text request.callingStationId) ++
    fieldIf request.nasPortId (ascii "NAS-Port-Id") (.text request.nasPortId)

/-- `serialize<AcctRequest>` for any strings. -/
def serialize (dict : RadiusDict) (request : FullAcctRequest) : Bytes :=
  AVP.serializeAll
    ([AVP.ofString dict (ascii "Acct-Session-Id") request.sessionId,
      AVP.ofString dict (ascii "User-Name") request.username,
      AVP.ofBE32 dict (ascii "Acct-Input-Packets") request.inPkts,
      AVP.ofBE32 dict (ascii "Acct-Output-Packets") request.outPkts,
      AVP.ofBE32 dict (ascii "Acct-Input-Octets") request.inBytes,
      AVP.ofBE32 dict (ascii "Acct-Output-Octets") request.outBytes] ++
      optionalText dict (ascii "Acct-Status-Type") request.acctStatusType ++
      optionalText dict (ascii "NAS-Identifier") request.nasId ++
      optionalText dict (ascii "Calling-Station-Id") request.callingStationId ++
      optionalText dict (ascii "NAS-Port-Id") request.nasPortId)

theorem serialize_eq (dict : RadiusDict) (request : FullAcctRequest) :
    request.serialize dict =
      AVP.serializeAll (request.fields.flatMap (RequestField.avps dict)) := by
  have status : (fieldIf request.acctStatusType (ascii "Acct-Status-Type")
      (.number request.acctStatusType false)).flatMap (RequestField.avps dict) =
        optionalText dict (ascii "Acct-Status-Type") request.acctStatusType := by
    unfold fieldIf optionalText
    split <;> rfl
  unfold serialize fields
  simp only [List.flatMap_append, flatMap_avps_text, status]
  rfl

end FullAcctRequest

/-- The requests of the accounting leave two strings empty. -/
def AcctRequest.full (request : AcctRequest) : FullAcctRequest where
  sessionId := request.sessionId
  username := request.username
  nasId := request.nasId
  nasPortId := []
  acctStatusType := request.acctStatusType.text
  callingStationId := []
  inPkts := request.inPkts
  outPkts := request.outPkts
  inBytes := request.inBytes
  outBytes := request.outBytes

theorem AcctRequest.serialize_full (dict : RadiusDict) (request : AcctRequest) :
    request.full.serialize dict = request.serialize dict := by
  unfold FullAcctRequest.serialize serialize
  have empty : forall attr, optionalText dict attr [] = [] := fun _ => rfl
  simp only [full, empty, List.append_nil]

/-- A request right on the wire: its attributes count themselves, and they decode to
those of its fields, in any order. -/
structure Encoded (dict : RadiusDict) (fields : List RequestField) (bytes : Bytes) : Prop where
  counted : ∀ avp ∈ AVP.set (fields.flatMap (RequestField.avps dict)),
    Attribute.LengthCounts avp.serialize
  decoded : ∃ attributes, Attribute.decode bytes = some attributes ∧
    (attributes.map some).Perm (fields.map (RequestField.onWire dict))

/-! ## The set of attributes -/

namespace AVP

theorem mem_of_mem_emplace {avp other : AVP} {avps : List AVP} (member : other ∈ emplace avp avps) :
    other = avp ∨ other ∈ avps := by
  induction avps with
  | nil => exact .inl (List.mem_singleton.mp member)
  | cons first rest inductionHypothesis =>
      unfold emplace at member
      split at member
      · exact List.mem_cons.mp member
      · split at member
        · rcases List.mem_cons.mp member with same | later
          · exact .inr (List.mem_cons.mpr (.inl same))
          · exact (inductionHypothesis later).imp id (List.mem_cons_of_mem first)
        · exact .inr member

/-- An attribute of a new type is inserted. -/
theorem perm_emplace {avp : AVP} {avps : List AVP} (fresh : ∀ other ∈ avps, avp.type ≠ other.type) :
    (emplace avp avps).Perm (avp :: avps) := by
  induction avps with
  | nil => exact .refl _
  | cons first rest inductionHypothesis =>
      have later := inductionHypothesis (fun other member => fresh other (List.mem_cons_of_mem first member))
      have different := fresh first List.mem_cons_self
      unfold emplace
      split
      · exact .refl _
      · rename_i notLess
        have greater : first.type < avp.type :=
          UInt8.lt_of_le_of_ne (UInt8.not_lt.mp notLess) (Ne.symm different)
        rw [if_pos greater]
        exact (later.cons first).trans (.swap avp first rest)

theorem mem_of_mem_foldl {avp : AVP} {avps start : List AVP}
    (member : avp ∈ avps.foldl (fun set avp => emplace avp set) start) : avp ∈ start ∨ avp ∈ avps := by
  induction avps generalizing start with
  | nil => exact .inl member
  | cons first rest inductionHypothesis =>
      rcases inductionHypothesis member with before | later
      · exact (mem_of_mem_emplace before).elim (fun same => .inr (List.mem_cons.mpr (.inl same))) .inl
      · exact .inr (List.mem_cons_of_mem first later)

theorem mem_of_mem_set {avp : AVP} {avps : List AVP} (member : avp ∈ set avps) : avp ∈ avps :=
  (mem_of_mem_foldl member).resolve_left List.not_mem_nil

theorem perm_foldl {avps start : List AVP} (distinct : ((start ++ avps).map type).Nodup) :
    (avps.foldl (fun set avp => emplace avp set) start).Perm (start ++ avps) := by
  induction avps generalizing start with
  | nil => exact .of_eq (List.append_nil start).symm
  | cons first rest inductionHypothesis =>
      have moved : (start ++ first :: rest).Perm (first :: start ++ rest) := List.perm_middle
      have apart := (List.nodup_cons.mp ((moved.map type).nodup_iff.mp distinct)).1
      have inserted : (emplace first start).Perm (first :: start) := by
        refine perm_emplace (fun other member same => apart ?_)
        exact same ▸ List.mem_map_of_mem (List.mem_append_left rest member)
      have whole := (inserted.append_right rest).trans moved.symm
      have later := inductionHypothesis ((whole.map type).nodup_iff.mpr distinct)
      exact later.trans whole

/-- Attributes of different types are all in the set. -/
theorem perm_set {avps : List AVP} (distinct : (avps.map type).Nodup) : (set avps).Perm avps :=
  perm_foldl distinct

theorem serializeAll_eq (avps : List AVP) :
    serializeAll avps = ((set avps).map serialize).flatten := rfl

/-- The length of a standard attribute counts it as far as one byte can. -/
theorem lengthCounts_standard {avp : AVP} (standard : avp.vendor = 0) :
    Attribute.LengthCounts avp.serialize ↔ avp.length.toNat = 2 + avp.value.length := by
  have bytes : avp.serialize = avp.type :: avp.length :: avp.value := if_pos standard
  rw [bytes]
  constructor
  · rintro ⟨type, length, value, same, count⟩
    injection same with _ same
    injection same with isLength _
    rw [isLength, count]
    simp only [List.length_cons]
    omega
  · intro count
    refine ⟨avp.type, avp.length, avp.value, rfl, ?_⟩
    rw [count]
    simp only [List.length_cons]
    omega

theorem decodeOne_standard {avp : AVP} (standard : avp.vendor = 0) :
    Attribute.decodeOne avp.serialize = Attribute.ofParts avp.type avp.value := by
  have bytes : avp.serialize = avp.type :: avp.length :: avp.value := if_pos standard
  rw [bytes]
  rfl

/-- The first byte of an attribute of a vendor is its length, without the byte for the
type that is missing. -/
theorem head_vendor {avp : AVP} (vendor : avp.vendor ≠ 0) :
    avp.serialize.head? = some (UInt8.ofNat (8 + avp.value.length)) ∧
      avp.serialize.length = 7 + avp.value.length := by
  have bytes : avp.serialize = [UInt8.ofNat (8 + avp.value.length)] ++ hostBytes32 avp.vendor ++
      [avp.type, avp.length] ++ avp.value := if_neg vendor
  rw [bytes]
  refine ⟨rfl, ?_⟩
  simp only [List.length_append, List.length_cons, List.length_nil, hostBytes32,
    List.length_reverse, bytes32]

end AVP

namespace RequestField

variable {dict : RadiusDict} {field : RequestField} {avp : AVP}

/-- A name of an attribute of a vendor has no numbers. -/
theorem getValueByName_of_vendor {attr : Bytes} (vendor : (dict.getIdByName attr).2 ≠ 0)
    (text : Bytes) : dict.getValueByName attr text = 0 := by
  have unlisted : dict.attrs.find? (fun entry => entry.2.name == attr) = none := by
    unfold RadiusDict.getIdByName at vendor
    split at vendor
    · exact absurd rfl vendor
    · assumption
  unfold RadiusDict.getValueByName
  have nothing : (dict.attrs.filterMap fun entry =>
      if entry.2.name == attr then
        (entry.2.values.find? (fun value => value.2 == text)).map Prod.fst
      else none) = [] := by
    refine List.filterMap_eq_nil_iff.mpr (fun entry member => ?_)
    exact if_neg (List.find?_eq_none.mp unlisted entry member)
  rw [nothing]
  rfl

/-- The name stands for a standard attribute, other than the type set aside for
vendors. -/
def Standard (dict : RadiusDict) (field : RequestField) : Prop :=
  (dict.getIdByName field.attr).1 ≠ Attribute.vendorSpecific ∧ (dict.getIdByName field.attr).2 = 0

/-- A text is not taken for a number of the dictionary, and a text that stands for one
is found there. -/
def Kept (dict : RadiusDict) (field : RequestField) : Prop :=
  match field.value with
  | .text value =>
      dict.getValueByName field.attr value = 0 ∨
        bytes32 (dict.getValueByName field.attr value) = value
  | .counter _ => True
  | .number text _ => dict.getValueByName field.attr text ≠ 0

/-- A text has room behind the two bytes of an attribute. -/
def Short (field : RequestField) : Prop :=
  match field.value with
  | .text value => value.length ≤ 253
  | _ => True

/-- What the attributes of a field have from its name. -/
theorem avp_of_mem (member : avp ∈ field.avps dict) :
    avp.type = (dict.getIdByName field.attr).1 ∧ avp.vendor = (dict.getIdByName field.attr).2 ∧
      avp.length = UInt8.ofNat (2 + avp.value.length) := by
  have made : ∃ value, avp = AVP.ofValue dict field.attr value := by
    unfold avps at member
    split at member
    · exact ⟨_, List.mem_singleton.mp member⟩
    · exact ⟨_, List.mem_singleton.mp member⟩
    · dsimp only at member
      split at member
      · exact absurd member List.not_mem_nil
      · exact ⟨_, List.mem_singleton.mp member⟩
    · exact ⟨_, List.mem_singleton.mp member⟩
  rcases made with ⟨value, same⟩
  rw [same]
  exact ⟨rfl, rfl, rfl⟩

/-- A field that is kept becomes one attribute with its value. -/
theorem avps_of_kept (kept : field.Kept dict) :
    ∃ avp, field.avps dict = [avp] ∧ field.wanted dict = some avp.value := by
  unfold Kept at kept
  unfold avps wanted
  split at kept
  · rename_i value isText
    refine ⟨_, by rw [isText], ?_⟩
    dsimp only [AVP.ofString, AVP.ofValue]
    split
    · rfl
    · rename_i nonzero
      rw [kept.resolve_left nonzero]
  · rename_i value isCounter
    exact ⟨_, by rw [isCounter], rfl⟩
  · rename_i text leftOut isNumber
    rw [isNumber]
    dsimp only
    rw [if_neg kept]
    cases leftOut with
    | true => exact ⟨_, if_neg kept, rfl⟩
    | false =>
        refine ⟨_, rfl, ?_⟩
        dsimp only [AVP.ofString, AVP.ofValue]
        rw [if_neg kept]

/-- A field whose attribute has the wanted value is kept. -/
theorem kept_of_mem (member : avp ∈ field.avps dict) (value : field.wanted dict = some avp.value) :
    field.Kept dict := by
  unfold Kept
  unfold avps at member
  unfold wanted at value
  split
  · rename_i text isText
    rw [isText] at member value
    have same := List.mem_singleton.mp member
    rw [same] at value
    dsimp only [AVP.ofString, AVP.ofValue] at value
    split at value
    · rename_i zero
      exact .inl zero
    · exact .inr (Option.some.inj value).symm
  · trivial
  · rename_i text leftOut isNumber
    rw [isNumber] at value
    dsimp only at value
    intro zero
    rw [if_pos zero] at value
    cases value

/-- The attribute of a vendor has the wanted value. -/
theorem value_of_vendor (vendor : (dict.getIdByName field.attr).2 ≠ 0)
    (member : avp ∈ field.avps dict) {value : Bytes} (isWanted : field.wanted dict = some value) :
    avp.value = value := by
  have none := getValueByName_of_vendor vendor
  unfold avps at member
  unfold wanted at isWanted
  split at member
  · rename_i text isText
    rw [isText] at isWanted
    rw [List.mem_singleton.mp member, ← Option.some.inj isWanted]
    dsimp only [AVP.ofString, AVP.ofValue]
    exact if_pos (none text)
  · rename_i counter isCounter
    rw [isCounter] at isWanted
    rw [List.mem_singleton.mp member, ← Option.some.inj isWanted]
    rfl
  · rename_i text isNumber
    rw [isNumber] at isWanted
    dsimp only at isWanted
    rw [if_pos (none text)] at isWanted
    cases isWanted
  · rename_i text isNumber
    rw [isNumber] at isWanted
    dsimp only at isWanted
    rw [if_pos (none text)] at isWanted
    cases isWanted

theorem wanted_short (short : field.Short) {value : Bytes} (isWanted : field.wanted dict = some value) :
    value.length ≤ 253 := by
  unfold Short at short
  unfold wanted at isWanted
  split at isWanted
  · rename_i text isText
    rw [isText] at short
    exact (Option.some.inj isWanted) ▸ short
  · exact (Option.some.inj isWanted) ▸ (by decide : 4 ≤ 253)
  · dsimp only at isWanted
    split at isWanted
    · cases isWanted
    · exact (Option.some.inj isWanted) ▸ (by decide : 4 ≤ 253)

theorem short_of_wanted (fits : forall value, field.wanted dict = some value -> value.length ≤ 253) :
    field.Short := by
  unfold Short
  split
  · rename_i text isText
    refine fits text ?_
    unfold wanted
    rw [isText]
  · trivial

end RequestField

/-! ## Which requests are right on the wire -/

section

variable {dict : RadiusDict} {fields : List RequestField}

/-- Each name stands for an attribute of its own. -/
def Distinct (dict : RadiusDict) (fields : List RequestField) : Prop :=
  (fields.map (fun field => dict.getIdByName field.attr)).Nodup

instance : Decidable (Distinct dict fields) := inferInstanceAs (Decidable (List.Nodup _))

/-- Each field stands for a standard attribute, has room in it, and is not taken for
something else. -/
def Encodable (dict : RadiusDict) (fields : List RequestField) : Prop :=
  ∀ field ∈ fields, field.Standard dict ∧ field.Kept dict ∧ field.Short

theorem Distinct.eq (distinct : Distinct dict fields) {first second : RequestField}
    (isFirst : first ∈ fields) (isSecond : second ∈ fields)
    (same : dict.getIdByName first.attr = dict.getIdByName second.attr) : first = second :=
  List.inj_on_of_nodup_map distinct isFirst isSecond same

/-- The attributes that are decoded, when all count themselves. -/
theorem decode_serializeAll {avps : List AVP}
    (counted : ∀ avp ∈ AVP.set avps, Attribute.LengthCounts avp.serialize)
    (attributes : List Attribute) :
    Attribute.decode (AVP.serializeAll avps) = some attributes ↔
      List.Forall₂ (fun avp found => Attribute.decodeOne avp.serialize = some found) (AVP.set avps)
        attributes := by
  rw [AVP.serializeAll_eq, Attribute.decode_flatten (List.forall_mem_map.mpr counted),
    List.forall₂_map_left_iff]

/-- The field becomes one standard attribute that has the wanted value and counts
itself. -/
structure Becomes (dict : RadiusDict) (field : RequestField) (avp : AVP) : Prop where
  only : field.avps dict = [avp]
  value : field.wanted dict = some avp.value
  type : avp.type = (dict.getIdByName field.attr).1
  vendor : avp.vendor = 0
  length : avp.length.toNat = 2 + avp.value.length

theorem Encodable.becomes (encodable : Encodable dict fields) {field : RequestField}
    (member : field ∈ fields) : ∃ avp, Becomes dict field avp := by
  rcases encodable field member with ⟨standard, kept, short⟩
  rcases RequestField.avps_of_kept kept with ⟨avp, only, isWanted⟩
  rcases RequestField.avp_of_mem (only ▸ List.mem_singleton_self avp) with ⟨type, vendor, length⟩
  refine ⟨avp, only, isWanted, type, vendor.trans standard.2, ?_⟩
  have size := RequestField.wanted_short short isWanted
  rw [length, UInt8.toNat_ofNat']
  omega

/-- One attribute is chosen for each field. -/
theorem Encodable.exists_avps (encodable : Encodable dict fields) :
    ∃ avps : RequestField -> AVP, ∀ field ∈ fields, Becomes dict field (avps field) := by
  have one : forall field, ∃ avp, field ∈ fields -> Becomes dict field avp := by
    intro field
    by_cases member : field ∈ fields
    · rcases encodable.becomes member with ⟨avp, becomes⟩
      exact ⟨avp, fun _ => becomes⟩
    · exact ⟨AVP.ofValue dict [] [], fun inside => absurd inside member⟩
  exact Classical.skolem.mp one

/-- The fields that can be encoded are. -/
theorem encoded_of_encodable (distinct : Distinct dict fields) (encodable : Encodable dict fields) :
    Encoded dict fields (AVP.serializeAll (fields.flatMap (RequestField.avps dict))) := by
  rcases encodable.exists_avps with ⟨avps, becomes⟩
  have listed : fields.flatMap (RequestField.avps dict) = fields.map avps := by
    rw [List.flatMap_congr (fun field member => (becomes field member).only), ← List.map_eq_flatMap]
  have counted : ∀ avp ∈ AVP.set (fields.flatMap (RequestField.avps dict)),
      Attribute.LengthCounts avp.serialize := by
    intro avp member
    have inside := AVP.mem_of_mem_set member
    rw [listed] at inside
    rcases List.mem_map.mp inside with ⟨field, isField, same⟩
    rw [← same]
    exact (AVP.lengthCounts_standard (becomes field isField).vendor).mpr (becomes field isField).length
  have types : ((fields.map avps).map AVP.type).Nodup := by
    rw [List.map_map]
    refine (List.nodup_map_iff_inj_on (List.Nodup.of_map _ distinct)).mpr
      (fun first isFirst second isSecond same => ?_)
    have sameType : (dict.getIdByName first.attr).1 = (dict.getIdByName second.attr).1 := by
      rw [← (becomes first isFirst).type, ← (becomes second isSecond).type]
      exact same
    refine distinct.eq isFirst isSecond (Prod.ext sameType ?_)
    rw [(encodable first isFirst).1.2, (encodable second isSecond).1.2]
  have order : (AVP.set (fields.map avps)).Perm (fields.map avps) := AVP.perm_set types
  refine ⟨counted, (AVP.set (fields.map avps)).map (fun avp => ⟨avp.type, none, avp.value⟩), ?_, ?_⟩
  · rw [decode_serializeAll counted, listed, List.forall₂_map_right_iff, List.forall₂_same]
    intro avp member
    rcases List.mem_map.mp (AVP.mem_of_mem_set member) with ⟨field, isField, same⟩
    rw [← same, AVP.decodeOne_standard (becomes field isField).vendor]
    have notVendor : (avps field).type ≠ Attribute.vendorSpecific := by
      rw [(becomes field isField).type]
      exact (encodable field isField).1.1
    exact if_neg notVendor
  · have mapped := (order.map (fun avp => Attribute.mk avp.type none avp.value)).map some
    refine mapped.trans (.of_eq ?_)
    rw [List.map_map, List.map_map]
    refine List.map_congr_left (fun field member => ?_)
    unfold RequestField.onWire
    dsimp only
    rw [(becomes field member).value, if_pos (encodable field member).1.2, Option.map_some]
    simp only [Function.comp_apply, (becomes field member).type]

/-- A decoded attribute of a vendor came from one whose length byte took the place of
the type. -/
theorem value_of_vendorSpecific {avp : AVP} {found : Attribute} {vendor : UInt32}
    (counted : Attribute.LengthCounts avp.serialize)
    (notSetAside : avp.vendor = 0 -> avp.type ≠ Attribute.vendorSpecific)
    (decoded : Attribute.decodeOne avp.serialize = some found) (isVendor : found.vendor = some vendor) :
    avp.vendor ≠ 0 ∧ avp.value.length = 18 ∧ found.value.length = 17 := by
  rcases Attribute.vendorSpecific_of_decodeOne decoded with ⟨none, _⟩ | ⟨_, _, head, size⟩
  · rw [none] at isVendor
    cases isVendor
  · have other : avp.vendor ≠ 0 := by
      intro standard
      have bytes : avp.serialize = avp.type :: avp.length :: avp.value := if_pos standard
      rw [bytes] at head
      exact notSetAside standard (Option.some.inj head)
    rcases AVP.head_vendor other with ⟨first, length⟩
    have whole := counted.length_le
    have type := congrArg UInt8.toNat (Option.some.inj (first.symm.trans head))
    have twentySix : Attribute.vendorSpecific.toNat = 26 := rfl
    rw [UInt8.toNat_ofNat', twentySix] at type
    exact ⟨other, by omega, by omega⟩

/-! ## What is right on the wire can be encoded -/

/-- Every field is decoded from an attribute that some field was encoded to. -/
theorem Encoded.source
    (encoded : Encoded dict fields (AVP.serializeAll (fields.flatMap (RequestField.avps dict))))
    {field : RequestField} (member : field ∈ fields) :
    ∃ found avp, field.onWire dict = some found ∧
      Attribute.decodeOne avp.serialize = some found ∧ Attribute.LengthCounts avp.serialize ∧
        ∃ other ∈ fields, avp ∈ other.avps dict := by
  rcases encoded with ⟨counted, attributes, decoded, order⟩
  have pieces := (decode_serializeAll counted attributes).mp decoded
  have listed := order.symm.subset (List.mem_map_of_mem member)
  rcases List.mem_map.mp listed with ⟨found, inside, same⟩
  rcases Attribute.exists_piece pieces inside with ⟨avp, inSet, isFound⟩
  exact ⟨found, avp, same.symm, isFound, counted avp inSet,
    List.mem_flatMap.mp (AVP.mem_of_mem_set inSet)⟩

/-- No name stands for the type that is set aside for vendors. -/
theorem Encoded.notSetAside
    (encoded : Encoded dict fields (AVP.serializeAll (fields.flatMap (RequestField.avps dict))))
    {field : RequestField} (member : field ∈ fields)
    (standard : (dict.getIdByName field.attr).2 = 0) :
    (dict.getIdByName field.attr).1 ≠ Attribute.vendorSpecific := by
  rcases encoded.source member with ⟨found, avp, onWire, isFound, _⟩
  rcases Option.map_eq_some_iff.mp onWire with ⟨value, _, same⟩
  rw [if_pos standard] at same
  rcases Attribute.vendorSpecific_of_decodeOne isFound with ⟨_, other⟩ | ⟨vendor, isVendor, _⟩
  · rw [← same] at other
    exact other
  · rw [← same] at isVendor
    cases isVendor

/-- What is decoded for a vendor has 17 bytes, and comes from a field of a vendor
with 18. -/
theorem Encoded.vendorValue
    (encoded : Encoded dict fields (AVP.serializeAll (fields.flatMap (RequestField.avps dict))))
    {field : RequestField} (member : field ∈ fields)
    (vendor : (dict.getIdByName field.attr).2 ≠ 0) :
    (∃ value, field.wanted dict = some value ∧ value.length = 17) ∧
      ∃ other ∈ fields, (dict.getIdByName other.attr).2 ≠ 0 ∧
        ∃ avp ∈ other.avps dict, avp.value.length = 18 := by
  rcases encoded.source member with ⟨found, avp, onWire, isFound, counted, other, isOther, made⟩
  rcases Option.map_eq_some_iff.mp onWire with ⟨value, isWanted, same⟩
  rw [if_neg vendor] at same
  rcases RequestField.avp_of_mem made with ⟨type, isVendor, _⟩
  rcases value_of_vendorSpecific counted
    (fun zero => type ▸ encoded.notSetAside isOther (isVendor ▸ zero)) isFound
    (congrArg Attribute.vendor same).symm with ⟨otherVendor, eighteen, seventeen⟩
  have length : value.length = 17 := by
    rw [← same] at seventeen
    exact seventeen
  exact ⟨⟨value, isWanted, length⟩, other, isOther, isVendor ▸ otherVendor, avp, made, eighteen⟩

theorem Encoded.standard
    (encoded : Encoded dict fields (AVP.serializeAll (fields.flatMap (RequestField.avps dict))))
    {field : RequestField} (member : field ∈ fields) : (dict.getIdByName field.attr).2 = 0 := by
  by_contra vendor
  rcases (encoded.vendorValue member vendor).2 with ⟨other, isOther, otherVendor, avp, made, eighteen⟩
  rcases (encoded.vendorValue isOther otherVendor).1 with ⟨value, isWanted, seventeen⟩
  rw [RequestField.value_of_vendor otherVendor made isWanted, seventeen] at eighteen
  exact absurd eighteen (by decide)

theorem encodable_of_encoded (distinct : Distinct dict fields)
    (encoded : Encoded dict fields (AVP.serializeAll (fields.flatMap (RequestField.avps dict)))) :
    Encodable dict fields := by
  intro field member
  rcases encoded.source member with ⟨found, avp, onWire, isFound, counted, other, isOther, made⟩
  rcases Option.map_eq_some_iff.mp onWire with ⟨value, isWanted, same⟩
  rcases RequestField.avp_of_mem made with ⟨type, vendor, _⟩
  have avpStandard : avp.vendor = 0 := vendor.trans (encoded.standard isOther)
  have notVendor : avp.type ≠ Attribute.vendorSpecific :=
    type ▸ encoded.notSetAside isOther (encoded.standard isOther)
  rw [AVP.decodeOne_standard avpStandard, Attribute.ofParts, if_neg notVendor] at isFound
  rw [← Option.some.inj isFound] at same
  have sameType : (dict.getIdByName field.attr).1 = avp.type := congrArg Attribute.type same
  have sameValue : value = avp.value := congrArg Attribute.value same
  have isField : other = field := by
    refine distinct.eq isOther member (Prod.ext (type.symm.trans sameType.symm) ?_)
    rw [encoded.standard isOther, encoded.standard member]
  rw [isField] at made
  rw [sameValue] at isWanted
  refine ⟨⟨encoded.notSetAside member (encoded.standard member), encoded.standard member⟩,
    RequestField.kept_of_mem made isWanted,
    @RequestField.short_of_wanted dict field (fun text isText => ?_)⟩
  have length := (AVP.lengthCounts_standard avpStandard).mp counted
  have byte := avp.length.toNat_lt
  rw [← Option.some.inj (isWanted.symm.trans isText)]
  omega

end

/-- A request of the RADIUS client. -/
inductive ClientRequest
  | access (request : RadiusRequest)
  | accounting (request : FullAcctRequest)

namespace ClientRequest

variable (md5 : Bytes -> Bytes) (dict : RadiusDict) (auth secret : Bytes)

def fields : ClientRequest -> List RequestField
  | .access request => request.fields md5 auth secret
  | .accounting request => request.fields

def serialize : ClientRequest -> Bytes
  | .access request => request.serialize md5 dict auth secret
  | .accounting request => request.serialize dict

/-- A request is right on the wire exactly when its fields can be encoded. -/
theorem encoded_iff (request : ClientRequest)
    (distinct : Distinct dict (request.fields md5 auth secret)) :
    Encoded dict (request.fields md5 auth secret) (request.serialize md5 dict auth secret) ↔
      Encodable dict (request.fields md5 auth secret) := by
  have bytes : request.serialize md5 dict auth secret =
      AVP.serializeAll ((request.fields md5 auth secret).flatMap (RequestField.avps dict)) := by
    cases request with
    | access request => exact request.serialize_eq md5 dict auth secret
    | accounting request => exact request.serialize_eq dict
  rw [bytes]
  exact ⟨encodable_of_encoded distinct, encoded_of_encodable distinct⟩

/-- A dictionary with the names that a bare PAP request uses. -/
def papDict : RadiusDict where
  attrs := [(1, { name := ascii "User-Name" }), (2, { name := ascii "User-Password" })]

/-- A PAP request with nothing but a name and a password. -/
def papOnly (username password : Bytes) : ClientRequest :=
  .access
    { username := username, credential := .pap password, nasId := [], serviceType := []
      framedProtocol := [], callingStationId := [], nasPortId := [] }

/-- A password as it is hidden with one authenticator and one secret. -/
def hidden (password : Bytes) : Bytes :=
  passwordPapProcess MD5.digest (List.replicate 16 7) (ascii "secret") password

/-- The password is hidden with MD5, and both attributes are read back. -/
theorem encoded_iff_at_papOnly :
    (hidden (ascii "pass")).length = 16 ∧ hidden (ascii "pass") ≠ hidden (ascii "word") ∧
      Encoded papDict
        ((papOnly (ascii "user") (ascii "pass")).fields MD5.digest (List.replicate 16 7) (ascii "secret"))
        ((papOnly (ascii "user") (ascii "pass")).serialize MD5.digest papDict (List.replicate 16 7)
          (ascii "secret")) := by
  have length : (hidden (ascii "pass")).length = 16 := by decide +kernel
  refine ⟨length, by decide +kernel, (encoded_iff MD5.digest papDict (List.replicate 16 7)
    (ascii "secret") (papOnly (ascii "user") (ascii "pass")) (by decide)).mpr ?_⟩
  intro field member
  have either : field = ⟨ascii "User-Name", .text (ascii "user")⟩ ∨
      field = ⟨ascii "User-Password", .text (hidden (ascii "pass"))⟩ := by
    rcases List.mem_cons.mp member with name | later
    · exact .inl name
    · exact .inr (List.mem_singleton.mp later)
  rcases either with name | password
  · rw [name]
    exact ⟨⟨by decide, by decide⟩, .inl (by decide), (by decide : (ascii "user").length ≤ 253)⟩
  · rw [password]
    refine ⟨⟨by decide, by decide⟩, .inl (by decide), ?_⟩
    show (hidden (ascii "pass")).length ≤ 253
    rw [length]
    decide

/-- The length byte of a name with 254 letters is zero. -/
theorem longName_malformed :
    ¬ forall md5 dict auth secret (request : ClientRequest),
      Distinct dict (request.fields md5 auth secret) ->
        Encoded dict (request.fields md5 auth secret) (request.serialize md5 dict auth secret) := by
  intro claim
  let name : Bytes := List.replicate 254 97
  have encoded := claim (fun _ => []) papDict [] [] (papOnly name []) (by decide)
  have inside : AVP.ofString papDict (ascii "User-Name") name ∈
      AVP.set (((papOnly name []).fields (fun _ => []) [] []).flatMap (RequestField.avps papDict)) :=
    List.mem_cons_self
  have counted := (AVP.lengthCounts_standard rfl).mp (encoded.counted _ inside)
  have length : forall name, (AVP.ofString papDict (ascii "User-Name") name).length =
      UInt8.ofNat (2 + name.length) := fun _ => rfl
  have value : forall name, (AVP.ofString papDict (ascii "User-Name") name).value = name := fun _ => rfl
  rw [length, value, List.length_replicate] at counted
  exact absurd counted (by decide)

end ClientRequest

end Pppcpd
