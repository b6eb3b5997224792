import Pppcpd.Foundation.Latest
import Pppcpd.Radius.Messages

namespace Pppcpd

open Foundation

/-!
# What is read from a response

The attributes of a response are standard ones and ones of a vendor, with one
sub-attribute each.  Each field of `RadiusResponse` should have the value of the
last attribute that the dictionary maps to its name.  An attribute of a vendor is
looked up with its vendor.  A standard one should be looked up with vendor zero,
but the parsing constructor leaves its vendor to the memory.
-/

/-- An attribute of a response. -/
inductive ReplyAttribute
  | standard (type : UInt8) (value : Bytes)
  | vendorSpecific (vendor : UInt32) (type : UInt8) (value : Bytes)
  deriving DecidableEq, Repr

namespace ReplyAttribute

/-- The length of the attribute fits its length byte, and 26 is set aside for
vendors. -/
def WellFormed : ReplyAttribute -> Prop
  | .standard type value => type ≠ AVP.radiusVsa ∧ value.length ≤ 253
  | .vendorSpecific _ _ value => value.length ≤ 247

instance (item : ReplyAttribute) : Decidable item.WellFormed := by
  cases item with
  | standard type value => exact inferInstanceAs (Decidable (_ ∧ _))
  | vendorSpecific vendor type value => exact inferInstanceAs (Decidable (_ ≤ _))

/-- The length in the first length byte. -/
def size : ReplyAttribute -> Nat
  | .standard _ value => 2 + value.length
  | .vendorSpecific _ _ value => 8 + value.length

def bytes : ReplyAttribute -> Bytes
  | .standard type value => [type, .ofNat (2 + value.length)] ++ value
  | .vendorSpecific vendor type value =>
      [AVP.radiusVsa, .ofNat (8 + value.length)] ++
        (bytes32 vendor ++ ([type, .ofNat (2 + value.length)] ++ value))

def type : ReplyAttribute -> UInt8
  | .standard type _ => type
  | .vendorSpecific _ type _ => type

def value : ReplyAttribute -> Bytes
  | .standard _ value => value
  | .vendorSpecific _ _ value => value

/-- The vendor of an attribute, when a standard one is taken for the given. -/
def vendorUnder (vendor : UInt32) : ReplyAttribute -> UInt32
  | .standard _ _ => vendor
  | .vendorSpecific own _ _ => own

/-- What the parsing constructor makes of an attribute. -/
def parsed (stale : UInt32) (item : ReplyAttribute) : AVP where
  type := item.type
  length := .ofNat (2 + item.value.length)
  value := item.value
  vendor := item.vendorUnder stale

/-- What an attribute carries for the field of a name, when a standard one is
looked up with the given vendor. -/
def carried {Value : Type} (dict : RadiusDict) (name : Bytes) (accept : Bytes -> Option Value)
    (vendor : UInt32) (item : ReplyAttribute) : Option Value :=
  if dict.getAttrById item.type (item.vendorUnder vendor) = name then
    accept item.value
  else none

/-- An address has four bytes. -/
def address : Bytes -> Option UInt32
  | [first, second, third, fourth] => some (be32 first second third fourth)
  | _ => none

theorem length_bytes (item : ReplyAttribute) : item.bytes.length = item.size := by
  cases item with
  | standard type value =>
      unfold bytes size
      rw [List.length_append]
      rfl
  | vendorSpecific vendor type value =>
      unfold bytes size
      simp only [List.length_append, List.length_cons, List.length_nil, bytes32]
      omega

theorem size_pos (item : ReplyAttribute) : 2 ≤ item.size := by
  cases item with
  | standard type value => exact Nat.le_add_right 2 _
  | vendorSpecific vendor type value => exact Nat.le_trans (by decide) (Nat.le_add_right 8 _)

theorem size_small {item : ReplyAttribute} (wellFormed : item.WellFormed) :
    item.size < 256 := by
  cases item with
  | standard type value =>
      have short : value.length ≤ 253 := wellFormed.2
      show 2 + value.length < 256
      omega
  | vendorSpecific vendor type value =>
      have short : value.length ≤ 247 := wellFormed
      show 8 + value.length < 256
      omega

/-- The inner length byte. -/
theorem toNat_length {count : Nat} (small : count ≤ 253) :
    (UInt8.ofNat (2 + count)).toNat = 2 + count := by
  rw [UInt8.toNat_ofNat']
  omega

/-- The value behind the type and length bytes. -/
theorem slice_value (type : UInt8) (value rest : Bytes) (behind : Nat -> UInt8)
    (small : value.length ≤ 253) :
    (Buffer.mk ([type, UInt8.ofNat (2 + value.length)] ++ (value ++ rest)) behind).slice 2
      ((UInt8.ofNat (2 + value.length)).toNat - 2) = value := by
  refine Buffer.slice_of_cut rfl rfl ?_ behind
  rw [toNat_length small, Nat.add_sub_cancel_left]

/-- What is parsed behind a front is parsed in the rest. -/
theorem parseAt_append (front rest : Bytes) (behind : Nat -> UInt8) (stale : UInt32) :
    AVP.parseAt ⟨front ++ rest, behind⟩ front.length stale = AVP.parseAt ⟨rest, behind⟩ 0 stale := by
  have reads := Buffer.read_append front rest behind
  have fields : (Buffer.mk (front ++ rest) behind).field32 (front.length + 2) =
      (Buffer.mk rest behind).field32 2 := by
    unfold Buffer.field32
    rw [Nat.add_assoc, Nat.add_assoc, Nat.add_assoc, reads, reads, reads, reads]
  have first : (Buffer.mk (front ++ rest) behind).read front.length =
      (Buffer.mk rest behind).read 0 := reads 0
  have room : (front ++ rest).length < front.length + 2 ↔ rest.length < 0 + 2 := by
    rw [List.length_append]
    omega
  unfold AVP.parseAt
  simp only [room, first, reads, fields, Nat.zero_add]
  by_cases vsa : (Buffer.mk rest behind).read 0 = AVP.radiusVsa
  · simp only [vsa, if_true, Nat.add_assoc, reads, Buffer.slice_append]
  · simp only [vsa, if_false, reads, first, Buffer.slice_append]

/-- A well-formed attribute is read as it was written, but for the vendor of a
standard one. -/
theorem parseAt_bytes {item : ReplyAttribute} (wellFormed : item.WellFormed)
    (front rest : Bytes) (behind : Nat -> UInt8) (stale : UInt32) :
    AVP.parseAt ⟨front ++ (item.bytes ++ rest), behind⟩ front.length stale =
      some (item.parsed stale, .ofNat item.size) := by
  rw [parseAt_append]
  have room : ¬ (item.bytes ++ rest).length < 0 + 2 := by
    have size := item.size_pos
    rw [List.length_append, length_bytes]
    omega
  unfold AVP.parseAt
  rw [if_neg room]
  dsimp only
  cases item with
  | standard type value =>
      have other : ¬ type = AVP.radiusVsa := wellFormed.1
      have long : ¬ UInt8.ofNat (2 + value.length) < 2 := by
        rw [UInt8.lt_iff_toNat_lt, toNat_length wellFormed.2]
        exact Nat.not_lt.mpr (Nat.le_add_right 2 _)
      have isType : (Buffer.mk ((ReplyAttribute.standard type value).bytes ++ rest) behind).read 0 =
          type := rfl
      have isLength : (Buffer.mk ((ReplyAttribute.standard type value).bytes ++ rest) behind).read
          (0 + 1) = UInt8.ofNat (2 + value.length) := rfl
      have isValue : (Buffer.mk ((ReplyAttribute.standard type value).bytes ++ rest) behind).slice
          (0 + 2) ((UInt8.ofNat (2 + value.length)).toNat - 2) = value := by
        unfold bytes
        rw [List.append_assoc]
        exact slice_value type value rest behind wellFormed.2
      rw [isType, if_neg other, if_neg other, isLength, if_neg long, isType, isValue]
      rfl
  | vendorSpecific vendor type value =>
      have small : value.length ≤ 253 := Nat.le_trans wellFormed (by decide)
      have long : ¬ UInt8.ofNat (2 + value.length) < 2 := by
        rw [UInt8.lt_iff_toNat_lt, toNat_length small]
        exact Nat.not_lt.mpr (Nat.le_add_right 2 _)
      have isVsa : (Buffer.mk ((ReplyAttribute.vendorSpecific vendor type value).bytes ++ rest)
          behind).read 0 = AVP.radiusVsa := rfl
      have isVendor : (Buffer.mk ((ReplyAttribute.vendorSpecific vendor type value).bytes ++ rest)
          behind).field32 (0 + 2) = vendor := be32_bytes32 vendor
      have isLength : (Buffer.mk ((ReplyAttribute.vendorSpecific vendor type value).bytes ++ rest)
          behind).read (0 + 6 + 1) = UInt8.ofNat (2 + value.length) := rfl
      have isValue : (Buffer.mk ((ReplyAttribute.vendorSpecific vendor type value).bytes ++ rest)
          behind).slice (0 + 6 + 2) ((UInt8.ofNat (2 + value.length)).toNat - 2) = value := by
        have inner := Buffer.slice_append
          ([AVP.radiusVsa, UInt8.ofNat (8 + value.length)] ++ bytes32 vendor)
          ([type, UInt8.ofNat (2 + value.length)] ++ (value ++ rest)) behind 2
          ((UInt8.ofNat (2 + value.length)).toNat - 2)
        unfold bytes
        rw [List.append_assoc, List.append_assoc, List.append_assoc, ← List.append_assoc]
        exact inner.trans (slice_value type value rest behind small)
      rw [isVsa, if_pos rfl, if_pos rfl, isLength, if_neg long, isVendor, isValue]
      rfl

/-- The bytes of several attributes. -/
def area (items : List ReplyAttribute) : Bytes := items.flatMap bytes

/-- The loop of `parseAVP` over well-formed attributes. -/
theorem parseFrom_area {items : List ReplyAttribute} (wellFormed : ∀ item ∈ items, item.WellFormed)
    (front : Bytes) (behind : Nat -> UInt8) (uninitialised : Nat -> UInt32) {fuel : Nat}
    (enough : items.length < fuel) (index : Nat) :
    AVP.parseFrom ⟨front ++ area items, behind⟩ uninitialised fuel index front.length =
      some (items.mapIdx (fun position item => item.parsed (uninitialised (index + position)))) := by
  induction items generalizing front fuel index with
  | nil =>
      cases fuel with
      | zero => exact absurd enough (Nat.not_lt_zero _)
      | succ fuel =>
          unfold area
          rw [List.flatMap_nil, List.append_nil, AVP.parseFrom, if_pos rfl]
          rfl
  | cons item rest inductionHypothesis =>
      cases fuel with
      | zero => exact absurd enough (Nat.not_lt_zero _)
      | succ fuel =>
          have isItem := wellFormed item List.mem_cons_self
          have whole : area (item :: rest) = item.bytes ++ area rest := List.flatMap_cons
          have read := parseAt_bytes isItem front (area rest) behind (uninitialised index)
          have isSize : (UInt8.ofNat item.size).toNat = item.size := by
            rw [UInt8.toNat_ofNat', Nat.mod_eq_of_lt (size_small isItem)]
          have next : front.length + (UInt8.ofNat item.size).toNat = (front ++ item.bytes).length := by
            rw [isSize, List.length_append, length_bytes]
          have size := item.size_pos
          have inside : ¬ front.length = (front ++ (item.bytes ++ area rest)).length := by
            rw [List.length_append, List.length_append, length_bytes]
            omega
          have moves : ¬ UInt8.ofNat item.size = 0 := by
            intro zero
            rw [zero] at isSize
            rw [← isSize] at size
            exact absurd size (by decide)
          have later := inductionHypothesis
            (fun other member => wellFormed other (List.mem_cons_of_mem item member))
            (front ++ item.bytes) (Nat.lt_of_succ_lt_succ enough) (index + 1)
          rw [List.append_assoc] at later
          rw [whole, AVP.parseFrom, if_neg inside, read]
          dsimp only
          rw [if_neg moves, next, later, List.mapIdx_cons]
          simp only [Option.map_some, Nat.add_zero, Nat.add_comm, Nat.add_left_comm]

theorem length_le_area (items : List ReplyAttribute) : items.length ≤ (area items).length := by
  induction items with
  | nil => exact Nat.le_refl _
  | cons item rest inductionHypothesis =>
      have size := item.size_pos
      unfold area at inductionHypothesis ⊢
      rw [List.flatMap_cons, List.length_append, List.length_cons, length_bytes]
      omega

/-- A well-formed area is read to its end. -/
theorem parse_area {items : List ReplyAttribute} (wellFormed : ∀ item ∈ items, item.WellFormed)
    (behind : Nat -> UInt8) (uninitialised : Nat -> UInt32) :
    AVP.parse ⟨area items, behind⟩ uninitialised =
      some (items.mapIdx (fun position item => item.parsed (uninitialised position))) := by
  have enough : items.length < (area items).length + 2 :=
    Nat.lt_succ_of_le (Nat.le_succ_of_le (length_le_area items))
  have read := parseFrom_area wellFormed [] behind uninitialised enough 0
  simp only [Nat.zero_add] at read
  exact read

theorem getBE32_parsed (stale : UInt32) (item : ReplyAttribute) :
    (item.parsed stale).getBE32 = address item.value := rfl

end ReplyAttribute

namespace RadiusResponse

open ReplyAttribute

/-- The response whose fields are the latest ones of attributes with vendors. -/
def latestOf (dict : RadiusDict) (chosen : List (UInt32 × ReplyAttribute)) : RadiusResponse where
  framedIp := latest 0 (fun pair => carried dict (ascii "Framed-IP-Address") address pair.1 pair.2) chosen
  dns1 := latest 0 (fun pair => carried dict (ascii "Client-DNS-Pri") address pair.1 pair.2) chosen
  dns2 := latest 0 (fun pair => carried dict (ascii "Client-DNS-Sec") address pair.1 pair.2) chosen
  framedPool := latest [] (fun pair => carried dict (ascii "Framed-Pool") some pair.1 pair.2) chosen
  pppoeTemplate :=
    latest [] (fun pair => carried dict (ascii "Subscriber-Profile-Name") some pair.1 pair.2) chosen

/-- One round gives each field what the attribute carries for it. -/
theorem read_parsed (dict : RadiusDict) (response : RadiusResponse) (stale : UInt32)
    (item : ReplyAttribute) :
    read dict response (item.parsed stale) =
      { framedIp := (carried dict (ascii "Framed-IP-Address") address stale item).getD response.framedIp
        dns1 := (carried dict (ascii "Client-DNS-Pri") address stale item).getD response.dns1
        dns2 := (carried dict (ascii "Client-DNS-Sec") address stale item).getD response.dns2
        framedPool := (carried dict (ascii "Framed-Pool") some stale item).getD response.framedPool
        pppoeTemplate :=
          (carried dict (ascii "Subscriber-Profile-Name") some stale item).getD response.pppoeTemplate } := by
  have isAttr : dict.getAttrById (item.parsed stale).type (item.parsed stale).vendor =
      dict.getAttrById item.type (item.vendorUnder stale) := rfl
  unfold read carried
  dsimp only
  rw [isAttr, getBE32_parsed]
  by_cases ip : dict.getAttrById item.type (item.vendorUnder stale) = ascii "Framed-IP-Address"
  · simp +decide only [ip, if_true, if_false, Option.getD_none]
  by_cases pri : dict.getAttrById item.type (item.vendorUnder stale) = ascii "Client-DNS-Pri"
  · simp +decide only [pri, if_true, if_false, Option.getD_none]
  by_cases sec : dict.getAttrById item.type (item.vendorUnder stale) = ascii "Client-DNS-Sec"
  · simp +decide only [sec, if_true, if_false, Option.getD_none]
  by_cases pool : dict.getAttrById item.type (item.vendorUnder stale) = ascii "Framed-Pool"
  · simp +decide only [pool, if_true, if_false, Option.getD_none, Option.getD_some]
    rfl
  by_cases profile : dict.getAttrById item.type (item.vendorUnder stale) =
      ascii "Subscriber-Profile-Name"
  · simp +decide only [profile, if_true, if_false, Option.getD_none, Option.getD_some]
    rfl
  · simp only [ip, pri, sec, pool, profile, if_false, Option.getD_none]

/-- The loop of `deserialize` gives each field its latest value. -/
theorem foldl_read (dict : RadiusDict) (chosen : List (UInt32 × ReplyAttribute)) :
    (chosen.map (fun pair => pair.2.parsed pair.1)).foldl (read dict) {} = latestOf dict chosen := by
  induction chosen using List.reverseRecOn with
  | nil => rfl
  | append_singleton chosen pair inductionHypothesis =>
      rw [List.map_append, List.foldl_append, inductionHypothesis]
      show read dict (latestOf dict chosen) (pair.2.parsed pair.1) = _
      rw [read_parsed]
      unfold latestOf
      simp only [latest_concat]

/-- What is read from a well-formed area, when the memory holds the given
vendors. -/
theorem deserialize_area (dict : RadiusDict) {items : List ReplyAttribute}
    (wellFormed : ∀ item ∈ items, item.WellFormed) (behind : Nat -> UInt8)
    (uninitialised : Nat -> UInt32) :
    deserialize dict ⟨area items, behind⟩ uninitialised =
      some (latestOf dict (items.mapIdx (fun position item => (uninitialised position, item)))) := by
  unfold deserialize
  rw [parse_area wellFormed, ← foldl_read, map_mapIdx]
  rfl

/-- The response whose fields are those of the last attributes that the dictionary
maps to their names, where a standard attribute has vendor zero. -/
def expected (dict : RadiusDict) (items : List ReplyAttribute) : RadiusResponse where
  framedIp := latest 0 (carried dict (ascii "Framed-IP-Address") address 0) items
  dns1 := latest 0 (carried dict (ascii "Client-DNS-Pri") address 0) items
  dns2 := latest 0 (carried dict (ascii "Client-DNS-Sec") address 0) items
  framedPool := latest [] (carried dict (ascii "Framed-Pool") some 0) items
  pppoeTemplate := latest [] (carried dict (ascii "Subscriber-Profile-Name") some 0) items

/-- The expected response is read from the attributes, whatever lies behind them
and whatever the memory holds. -/
def Reads (dict : RadiusDict) (items : List ReplyAttribute) : Prop :=
  forall (behind : Nat -> UInt8) (uninitialised : Nat -> UInt32),
    deserialize dict ⟨area items, behind⟩ uninitialised = some (expected dict items)

/-- The field of a name has one value only, whatever vendors standard attributes are
looked up with. -/
def Settled {Value : Type} (dict : RadiusDict) (name : Bytes) (accept : Bytes -> Option Value)
    (default : Value) (items : List ReplyAttribute) : Prop :=
  forall value, Attains default (carried dict name accept) items value ->
    value = latest default (carried dict name accept 0) items

/-- A field is settled when the memory does not matter to it. -/
theorem settled_iff {Value : Type} (dict : RadiusDict) (name : Bytes)
    (accept : Bytes -> Option Value) (default : Value) (items : List ReplyAttribute) :
    Settled dict name accept default items ↔ forall uninitialised : Nat -> UInt32,
      latest default (fun pair => carried dict name accept pair.1 pair.2)
          (items.mapIdx (fun position item => (uninitialised position, item))) =
        latest default (carried dict name accept 0) items := by
  constructor
  · intro settled uninitialised
    exact settled _ (attains_iff.mpr ⟨_, map_snd_mapIdx uninitialised items, rfl⟩)
  · intro same value attains
    rcases attains_iff.mp attains with ⟨chosen, are, isValue⟩
    rcases exists_choices are with ⟨uninitialised, isChosen⟩
    rw [← isValue, ← isChosen]
    exact same uninitialised

/-- The expected response is read exactly when each of the five fields is
settled. -/
theorem reads_iff (dict : RadiusDict) {items : List ReplyAttribute}
    (wellFormed : ∀ item ∈ items, item.WellFormed) :
    Reads dict items ↔
      Settled dict (ascii "Framed-IP-Address") address 0 items ∧
        Settled dict (ascii "Client-DNS-Pri") address 0 items ∧
        Settled dict (ascii "Client-DNS-Sec") address 0 items ∧
        Settled dict (ascii "Framed-Pool") some [] items ∧
        Settled dict (ascii "Subscriber-Profile-Name") some [] items := by
  simp only [settled_iff]
  constructor
  · intro reads
    have fields (uninitialised : Nat -> UInt32) :
        latestOf dict (items.mapIdx (fun position item => (uninitialised position, item))) =
          expected dict items := by
      have read := reads (fun _ => 0) uninitialised
      rw [deserialize_area dict wellFormed] at read
      exact Option.some.inj read
    exact ⟨fun uninitialised => congrArg framedIp (fields uninitialised),
      fun uninitialised => congrArg dns1 (fields uninitialised),
      fun uninitialised => congrArg dns2 (fields uninitialised),
      fun uninitialised => congrArg framedPool (fields uninitialised),
      fun uninitialised => congrArg pppoeTemplate (fields uninitialised)⟩
  · rintro ⟨ip, pri, sec, pool, profile⟩ behind uninitialised
    rw [deserialize_area dict wellFormed]
    unfold latestOf expected
    rw [ip uninitialised, pri uninitialised, sec uninitialised, pool uninitialised,
      profile uninitialised]

/-- A dictionary with a standard address, and with an address and a pool of vendor 9. -/
def addressDict : RadiusDict where
  attrs := [(8, { name := ascii "Framed-IP-Address" })]
  vsa := [(9, [(1, { name := ascii "Framed-IP-Address" }), (8, { name := ascii "Framed-Pool" })])]

/-- A standard address, and the address and the pool of the vendor behind it. -/
def overridden : List ReplyAttribute :=
  [.standard 8 [10, 0, 0, 5], .vendorSpecific 9 1 [10, 0, 0, 6], .vendorSpecific 9 8 (ascii "home")]

/-- What the standard address is taken for depends on the memory. -/
theorem name_of_standard (vendor : UInt32) :
    addressDict.getAttrById 8 vendor = ascii "Framed-IP-Address" ∨
      addressDict.getAttrById 8 vendor = ascii "Framed-Pool" ∨ addressDict.getAttrById 8 vendor = [] := by
  by_cases zero : vendor = 0
  · rw [zero]
    exact .inl rfl
  · by_cases nine : vendor = 9
    · rw [nine]
      exact .inr (.inl rfl)
    · have missing : addressDict.vsa.lookup vendor = none := by
        show (match vendor == 9 with | true => _ | false => _) = _
        rw [beq_false_of_ne nine]
        rfl
      refine .inr (.inr ?_)
      unfold RadiusDict.getAttrById
      rw [if_neg zero, missing]
      rfl

/-- Whatever it is taken for, the attributes behind it decide. -/
theorem reads_iff_at_overridden : Reads addressDict overridden ∧
    (expected addressDict overridden).framedIp = 0x0A000006 ∧
      (expected addressDict overridden).framedPool = ascii "home" := by
  have silent {Value : Type} (name : Bytes) (accept : Bytes -> Option Value) (default : Value)
      (other : name ≠ ascii "Framed-IP-Address" ∧ name ≠ ascii "Framed-Pool" ∧ name ≠ []) :
      Settled addressDict name accept default overridden := by
    have none (vendor : UInt32) (item : ReplyAttribute) (member : item ∈ overridden) :
        carried addressDict name accept vendor item = none := by
      refine if_neg (fun same => ?_)
      rcases List.mem_cons.mp member with standard | rest
      · rw [standard] at same
        rcases name_of_standard vendor with isName | isName | isName
        · exact other.1 (same.symm.trans isName)
        · exact other.2.1 (same.symm.trans isName)
        · exact other.2.2 (same.symm.trans isName)
      · rcases List.mem_cons.mp rest with ip | pool
        · rw [ip] at same
          exact other.1 same.symm
        · rw [List.mem_singleton.mp pool] at same
          exact other.2.1 same.symm
    rintro value (⟨earlier, item, later, vendor, parts, carries, _⟩ | ⟨same, _⟩)
    · rw [none vendor item (parts ▸ List.mem_append_right _ List.mem_cons_self)] at carries
      cases carries
    · rw [same]
      unfold latest
      rw [List.filterMap_eq_nil_iff.mpr (none 0)]
      rfl
  refine ⟨(reads_iff addressDict (by decide)).mpr ⟨?_, silent _ _ _ (by decide),
    silent _ _ _ (by decide), ?_, silent _ _ _ (by decide)⟩, by decide +kernel, by decide +kernel⟩
  · refine (settled_iff _ _ _ _ _).mpr (fun uninitialised => ?_)
    show latest _ _ ([(uninitialised 0, ReplyAttribute.standard 8 [10, 0, 0, 5])] ++
      [(uninitialised 1, ReplyAttribute.vendorSpecific 9 1 [10, 0, 0, 6])] ++
        [(uninitialised 2, ReplyAttribute.vendorSpecific 9 8 (ascii "home"))]) = _
    rw [latest_concat, latest_concat]
    rfl
  · refine (settled_iff _ _ _ _ _).mpr (fun uninitialised => ?_)
    show latest _ _ ([(uninitialised 0, ReplyAttribute.standard 8 [10, 0, 0, 5]),
      (uninitialised 1, ReplyAttribute.vendorSpecific 9 1 [10, 0, 0, 6])] ++
        [(uninitialised 2, ReplyAttribute.vendorSpecific 9 8 (ascii "home"))]) = _
    rw [latest_concat]
    rfl

/-- A dictionary with a standard attribute and one of vendor 9 of the same number. -/
def sampleDict : RadiusDict where
  attrs := [(8, { name := ascii "Framed-IP-Address" })]
  vsa := [(9, [(8, { name := ascii "Framed-Pool" })])]

/-- A standard address is lost when the memory holds a vendor the dictionary does
not know, and is the name of a pool when it holds vendor 9. -/
theorem address_strays :
    ¬ (forall (dict : RadiusDict) (items : List ReplyAttribute),
      (∀ item ∈ items, item.WellFormed) -> Reads dict items) := by
  intro claim
  have reads := claim sampleDict [.standard 8 [10, 0, 0, 5]] (by decide) (fun _ => 0) (fun _ => 1)
  revert reads
  decide +kernel

end RadiusResponse

end Pppcpd
