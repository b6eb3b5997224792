import Pppcpd.Radius.DictionaryLines

namespace Pppcpd

open Foundation

/-!
# What a dictionary means

`DictMeaning` is the meaning of a list of entries, read from the first to the
last: which names the attribute numbers have, and which texts the values of each
attribute have.  A VALUE line belongs to the attributes that have exactly the
name it gives.  The parser attaches it to every attribute whose name the given
one begins with.  Until a VALUE line adds something in this way to another
attribute, the parser holds exactly the meaning of what it has read.
-/

/-- The meaning of the entries so far.  `vendor` is the vendor whose block is
open, or zero, and the names and the values are kept for every vendor. -/
structure DictMeaning where
  vendors : Bytes -> Option UInt32 := fun _ => none
  vendor : UInt32 := 0
  names : UInt32 -> UInt8 -> Option Bytes := fun _ _ => none
  values : UInt32 -> UInt8 -> Nat -> Option Bytes := fun _ _ _ => none

namespace DictMeaning

/-- The meaning with one more entry.  What a number already stands for it keeps. -/
def read (meaning : DictMeaning) : DictEntry -> DictMeaning
  | .attributeLine name id =>
      { meaning with
        names := fun vendor number =>
          if vendor = meaning.vendor ∧ number = .ofNat id ∧ meaning.names vendor number = none then
            some name
          else meaning.names vendor number }
  | .valueLine attr text number =>
      { meaning with
        values := fun vendor id other =>
          if vendor = meaning.vendor ∧ meaning.names vendor id = some attr ∧ other = number ∧
              meaning.values vendor id other = none then
            some text
          else meaning.values vendor id other }
  | .vendorLine name id =>
      { meaning with
        vendors := fun other =>
          if other = name ∧ meaning.vendors other = none then some (.ofNat id)
          else meaning.vendors other }
  | .beginVendor name => { meaning with vendor := (meaning.vendors name).getD meaning.vendor }
  | .endVendor => { meaning with vendor := 0 }
  | .nothing => meaning

/-- A VALUE line would add its text to an attribute that it does not name: one
of the open block whose name it only begins with, and which has no value of this
number. -/
def Strays (meaning : DictMeaning) (attr : Bytes) (number : Nat) : Prop :=
  ∃ id name, meaning.names meaning.vendor id = some name ∧ name <+: attr ∧ name ≠ attr ∧
    meaning.values meaning.vendor id number = none

end DictMeaning

def meaningOf (entries : List DictEntry) : DictMeaning := entries.foldl DictMeaning.read {}

theorem meaningOf_concat (entries : List DictEntry) (entry : DictEntry) :
    meaningOf (entries ++ [entry]) = (meaningOf entries).read entry := by
  unfold meaningOf
  rw [List.foldl_append]
  rfl

/-- No VALUE line strays. -/
def NoneStrays (entries : List DictEntry) : Prop :=
  forall earlier attr text number later,
    entries = earlier ++ .valueLine attr text number :: later ->
      ¬ (meaningOf earlier).Strays attr number

/-! ## The attributes of the parser -/

namespace RadiusDict

theorem attributesOf_alterAttributes (vendor other : UInt32)
    (change : List (UInt8 × RadiusAttribute) -> List (UInt8 × RadiusAttribute)) (dict : RadiusDict) :
    (dict.alterAttributes vendor change).attributesOf other =
      if other = vendor then change (dict.attributesOf vendor) else dict.attributesOf other := by
  unfold alterAttributes attributesOf
  by_cases standard : vendor = 0
  · rw [if_pos standard, if_pos standard]
    by_cases same : other = vendor
    · rw [if_pos (same.trans standard), if_pos same]
    · rw [if_neg same]
      by_cases zero : other = 0
      · exact absurd (zero.trans standard.symm) same
      · rw [if_neg zero, if_neg zero]
  · rw [if_neg standard, if_neg standard]
    by_cases zero : other = 0
    · rw [if_pos zero, if_pos zero, if_neg (fun same => standard (same.symm.trans zero))]
    · rw [if_neg zero, if_neg zero]
      dsimp only
      rw [OrderedMap.lookup_alter]
      by_cases same : other = vendor
      · rw [if_pos same, if_pos same]
        rfl
      · rw [if_neg same, if_neg same]

theorem attachValue_fst (attr text : Bytes) (number : UInt32) (entry : UInt8 × RadiusAttribute) :
    (attachValue attr text number entry).1 = entry.1 ∧
      (attachValue attr text number entry).2.name = entry.2.name := by
  unfold attachValue
  split <;> exact ⟨rfl, rfl⟩

/-- Attaching a value changes no names. -/
theorem named_map_attachValue (attr text : Bytes) (number : UInt32)
    (attributes : List (UInt8 × RadiusAttribute)) (id : UInt8) (name : Bytes) :
    (∃ record, (id, record) ∈ attributes.map (attachValue attr text number) ∧ record.name = name) ↔
      ∃ record, (id, record) ∈ attributes ∧ record.name = name := by
  constructor
  · rintro ⟨record, member, isName⟩
    rcases List.mem_map.mp member with ⟨entry, there, attached⟩
    have kept := attachValue_fst attr text number entry
    rw [attached] at kept
    refine ⟨entry.2, ?_, kept.2.symm.trans isName⟩
    rw [show id = entry.1 from kept.1]
    exact there
  · rintro ⟨record, member, isName⟩
    have kept := attachValue_fst attr text number (id, record)
    refine ⟨_, List.mem_map.mpr ⟨(id, record), member, ?_⟩, kept.2.trans isName⟩
    exact Prod.ext kept.1 rfl

/-- An attribute is left alone when the given name does not begin with its own,
or it has a value of the number. -/
theorem attachValue_eq_self {attr text : Bytes} {number : UInt32} {entry : UInt8 × RadiusAttribute}
    (keeps : entry.2.name <+: attr -> ∃ old, (number, old) ∈ entry.2.values) :
    attachValue attr text number entry = entry := by
  unfold attachValue
  split
  · rename_i begins
    rcases keeps (List.isPrefixOf_iff_prefix.mp begins) with ⟨old, member⟩
    rw [OrderedMap.emplace_of_mem member]
  · rfl

/-- The values of an attribute that is named. -/
theorem mem_values_attachValue {attr text : Bytes} {number : UInt32}
    {entry : UInt8 × RadiusAttribute} (named : entry.2.name = attr) {value : UInt32 × Bytes} :
    value ∈ (attachValue attr text number entry).2.values ↔
      value ∈ entry.2.values ∨ value = (number, text) ∧ forall old, (number, old) ∉ entry.2.values := by
  unfold attachValue
  rw [if_pos (List.isPrefixOf_iff_prefix.mpr (named ▸ List.prefix_refl _))]
  exact OrderedMap.mem_emplace_iff

end RadiusDict

/-! ## The parser holds the meaning -/

/-- The parser holds what the entries mean. -/
structure DictParser.Holds (parser : DictParser) (meaning : DictMeaning) : Prop where
  vendors : forall name, parser.vendors.lookup name = meaning.vendors name
  vendor : parser.currentVendor = meaning.vendor
  names : forall vendor id name, meaning.names vendor id = some name ↔
    ∃ record, (id, record) ∈ parser.dict.attributesOf vendor ∧ record.name = name
  values : forall vendor id record, (id, record) ∈ parser.dict.attributesOf vendor ->
    forall number text, (number, text) ∈ record.values ↔
      meaning.values vendor id number.toNat = some text
  small : forall vendor id number text, meaning.values vendor id number = some text ->
    number < intLimit ∧ meaning.names vendor id ≠ none

namespace DictParser.Holds

variable {parser : DictParser} {meaning : DictMeaning}

theorem start : ({} : DictParser).Holds {} where
  vendors := fun _ => rfl
  vendor := rfl
  names := by
    intro vendor id name
    refine ⟨fun impossible => (nomatch impossible), ?_⟩
    rintro ⟨record, member, _⟩
    unfold RadiusDict.attributesOf at member
    split at member
    · cases member
    · cases member
  values := by
    intro vendor id record member
    unfold RadiusDict.attributesOf at member
    split at member
    · cases member
    · cases member
  small := fun _ _ _ _ impossible => nomatch impossible

/-- A number that is taken by no name is taken by no attribute. -/
theorem fresh_of_unnamed (holds : parser.Holds meaning) {vendor : UInt32} {id : UInt8}
    (unnamed : meaning.names vendor id = none) (record : RadiusAttribute) :
    (id, record) ∉ parser.dict.attributesOf vendor := by
  intro member
  have named := (holds.names vendor id record.name).mpr ⟨record, member, rfl⟩
  rw [unnamed] at named
  cases named

theorem addAttribute (holds : parser.Holds meaning) (name : Bytes) (id : Nat) :
    (parser.addAttribute name (.ofNat id)).Holds (meaning.read (.attributeLine name id)) where
  vendors := holds.vendors
  vendor := holds.vendor
  names := by
    intro vendor number other
    dsimp only [DictMeaning.read, DictParser.addAttribute]
    rw [RadiusDict.attributesOf_alterAttributes, holds.vendor]
    by_cases here : vendor = meaning.vendor ∧ number = .ofNat id ∧ meaning.names vendor number = none
    · rcases here with ⟨open_block, isNumber, unnamed⟩
      rw [if_pos ⟨open_block, isNumber, unnamed⟩, if_pos open_block]
      rw [open_block] at unnamed
      have fresh := holds.fresh_of_unnamed unnamed
      constructor
      · intro same
        refine ⟨{ name := name }, OrderedMap.mem_emplace_iff.mpr (.inr ⟨?_, ?_⟩), Option.some.inj same⟩
        · rw [isNumber]
        · exact isNumber ▸ fresh
      · rintro ⟨record, member, isName⟩
        rcases OrderedMap.mem_emplace_iff.mp member with old | ⟨new, _⟩
        · exact absurd old (fresh record)
        · rw [← isName, (Prod.mk.inj new).2]
    · rw [if_neg here, holds.names]
      by_cases open_block : vendor = meaning.vendor
      · rw [if_pos open_block, open_block]
        constructor
        · rintro ⟨record, member, isName⟩
          exact ⟨record, OrderedMap.mem_emplace_iff.mpr (.inl member), isName⟩
        · rintro ⟨record, member, isName⟩
          rcases OrderedMap.mem_emplace_iff.mp member with old | ⟨new, fresh⟩
          · exact ⟨record, old, isName⟩
          · refine absurd ⟨open_block, (Prod.mk.inj new).1, ?_⟩ here
            cases named : meaning.names vendor number with
            | none => rfl
            | some taken =>
                rcases (holds.names vendor number taken).mp named with ⟨old, there, _⟩
                rw [open_block, (Prod.mk.inj new).1] at there
                exact absurd there (fresh old)
      · rw [if_neg open_block]
  values := by
    intro vendor number record member value text
    dsimp only [DictMeaning.read, DictParser.addAttribute] at member ⊢
    rw [RadiusDict.attributesOf_alterAttributes, holds.vendor] at member
    by_cases open_block : vendor = meaning.vendor
    · rw [if_pos open_block] at member
      rcases OrderedMap.mem_emplace_iff.mp member with old | ⟨new, fresh⟩
      · exact holds.values vendor number record (open_block ▸ old) value text
      · rw [(Prod.mk.inj new).2]
        refine ⟨fun impossible => absurd impossible List.not_mem_nil, fun given => ?_⟩
        rcases Option.ne_none_iff_exists'.mp (holds.small _ _ _ _ given).2 with ⟨taken, named⟩
        rcases (holds.names vendor number taken).mp named with ⟨old, there, _⟩
        rw [open_block, (Prod.mk.inj new).1] at there
        exact absurd there (fresh old)
    · rw [if_neg open_block] at member
      exact holds.values vendor number record member value text
  small := by
    intro vendor number value text given
    have before := holds.small vendor number value text given
    refine ⟨before.1, ?_⟩
    dsimp only [DictMeaning.read]
    rw [if_neg (fun here => before.2 here.2.2)]
    exact before.2

theorem toNat_ofNat_small {number : Nat} (small : number < intLimit) :
    (UInt32.ofNat number).toNat = number :=
  UInt32.toNat_ofNat_of_lt' (Nat.lt_trans small (by decide))

/-- An attribute of the open block that a VALUE line does not name is left alone. -/
theorem attachValue_of_other (holds : parser.Holds meaning) {attr : Bytes} {number : Nat}
    (small : number < intLimit) (stays : ¬ meaning.Strays attr number) (text : Bytes)
    {entry : UInt8 × RadiusAttribute} (there : entry ∈ parser.dict.attributesOf meaning.vendor)
    (other : entry.2.name ≠ attr) :
    RadiusDict.attachValue attr text (.ofNat number) entry = entry := by
  refine RadiusDict.attachValue_eq_self (fun begins => ?_)
  have named := (holds.names meaning.vendor entry.1 entry.2.name).mpr ⟨entry.2, there, rfl⟩
  cases taken : meaning.values meaning.vendor entry.1 number with
  | none => exact absurd ⟨entry.1, entry.2.name, named, begins, other, taken⟩ stays
  | some old =>
      refine ⟨old, (holds.values meaning.vendor entry.1 entry.2 there _ _).mpr ?_⟩
      rw [toNat_ofNat_small small]
      exact taken

/-- The values of an attribute that the line names: those it had, and the new one
when it had none of the number. -/
theorem values_of_named (holds : parser.Holds meaning) {attr : Bytes} {number : Nat}
    (small : number < intLimit) (text : Bytes) {entry : UInt8 × RadiusAttribute}
    (there : entry ∈ parser.dict.attributesOf meaning.vendor) (isAttr : entry.2.name = attr)
    (value : UInt32) (other : Bytes) :
    (value, other) ∈ (RadiusDict.attachValue attr text (.ofNat number) entry).2.values ↔
      (meaning.read (.valueLine attr text number)).values meaning.vendor entry.1 value.toNat =
        some other := by
  have named := (holds.names meaning.vendor entry.1 attr).mpr ⟨entry.2, there, isAttr⟩
  have held := fun value => holds.values meaning.vendor entry.1 entry.2 there value
  dsimp only [DictMeaning.read]
  rw [RadiusDict.mem_values_attachValue isAttr, held value other]
  by_cases isNumber : value.toNat = number
  · have same : value = .ofNat number := by
      apply UInt32.toNat_inj.mp
      rw [isNumber, toNat_ofNat_small small]
    cases taken : meaning.values meaning.vendor entry.1 value.toNat with
    | none =>
        rw [if_pos ⟨rfl, named, isNumber, rfl⟩]
        constructor
        · rintro (impossible | ⟨new, _⟩)
          · cases impossible
          · rw [(Prod.mk.inj new).2]
        · intro isText
          refine .inr ⟨by rw [same, Option.some.inj isText], fun old member => ?_⟩
          have found := (held _ old).mp member
          rw [← same, taken] at found
          cases found
    | some old =>
        rw [if_neg (fun here => by cases here.2.2.2)]
        constructor
        · rintro (found | ⟨_, fresh⟩)
          · exact found
          · exact absurd ((held _ old).mpr (same ▸ taken)) (fresh old)
        · exact .inl
  · rw [if_neg (fun here => isNumber here.2.2.1)]
    refine ⟨fun either => either.resolve_right (fun new => ?_), .inl⟩
    rw [(Prod.mk.inj new.1).1, toNat_ofNat_small small] at isNumber
    exact isNumber rfl

/-- The values of an attribute of the open block, after a line that does not stray. -/
theorem values_of_attached (holds : parser.Holds meaning) {attr : Bytes} {number : Nat}
    (small : number < intLimit) (stays : ¬ meaning.Strays attr number) (text : Bytes)
    {entry : UInt8 × RadiusAttribute} (there : entry ∈ parser.dict.attributesOf meaning.vendor)
    (value : UInt32) (other : Bytes) :
    (value, other) ∈ (RadiusDict.attachValue attr text (.ofNat number) entry).2.values ↔
      (meaning.read (.valueLine attr text number)).values meaning.vendor entry.1 value.toNat =
        some other := by
  by_cases isAttr : entry.2.name = attr
  · exact holds.values_of_named small text there isAttr value other
  · have named := (holds.names meaning.vendor entry.1 entry.2.name).mpr ⟨entry.2, there, rfl⟩
    dsimp only [DictMeaning.read]
    rw [holds.attachValue_of_other small stays text there isAttr,
      holds.values meaning.vendor entry.1 entry.2 there, if_neg (fun here => isAttr ?_)]
    exact Option.some.inj (named.symm.trans here.2.1)

theorem addValue (holds : parser.Holds meaning) {attr : Bytes} {number : Nat}
    (small : number < intLimit) (stays : ¬ meaning.Strays attr number) (text : Bytes) :
    (parser.addValue attr text (.ofNat number)).Holds (meaning.read (.valueLine attr text number)) where
  vendors := holds.vendors
  vendor := holds.vendor
  names := by
    intro vendor id name
    refine (holds.names vendor id name).trans ?_
    dsimp only [DictParser.addValue]
    rw [RadiusDict.attributesOf_alterAttributes, holds.vendor]
    by_cases open_block : vendor = meaning.vendor
    · rw [if_pos open_block, open_block, RadiusDict.named_map_attachValue]
    · rw [if_neg open_block]
  values := by
    intro vendor id record member value other
    dsimp only [DictParser.addValue] at member
    rw [RadiusDict.attributesOf_alterAttributes, holds.vendor] at member
    by_cases open_block : vendor = meaning.vendor
    · rw [if_pos open_block] at member
      rcases List.mem_map.mp member with ⟨entry, there, attached⟩
      have now := holds.values_of_attached small stays text there value other
      have kept := RadiusDict.attachValue_fst attr text (.ofNat number) entry
      rw [attached] at now kept
      rw [open_block, show id = entry.1 from kept.1]
      exact now
    · rw [if_neg open_block] at member
      dsimp only [DictMeaning.read]
      rw [if_neg (fun here => open_block here.1)]
      exact holds.values vendor id record member value other
  small := by
    intro vendor id value other given
    dsimp only [DictMeaning.read] at given ⊢
    split at given
    · rename_i here
      rw [here.2.2.1, here.2.1]
      exact ⟨small, fun impossible => nomatch impossible⟩
    · exact holds.small vendor id value other given

theorem addVendor (holds : parser.Holds meaning) (name : Bytes) (id : Nat) :
    (parser.addVendor name (.ofNat id)).Holds (meaning.read (.vendorLine name id)) where
  vendors := by
    intro other
    dsimp only [DictMeaning.read, DictParser.addVendor]
    unfold Table.emplace
    by_cases known : name ∈ parser.vendors
    · rw [if_pos known, holds.vendors, if_neg]
      rintro ⟨same, unknown⟩
      rw [same, ← holds.vendors] at unknown
      exact Table.not_mem_iff_lookup.mpr unknown known
    · rw [if_neg known, Table.lookup_insert_eq, holds.vendors]
      have unknown := Table.not_mem_iff_lookup.mp known
      rw [holds.vendors] at unknown
      by_cases same : other = name
      · rw [if_pos same, if_pos ⟨same, same ▸ unknown⟩]
      · rw [if_neg same, if_neg (fun both => same both.1)]
  vendor := holds.vendor
  names := holds.names
  values := holds.values
  small := holds.small

theorem beginVendor (holds : parser.Holds meaning) (name : Bytes) :
    (parser.beginVendor name).Holds (meaning.read (.beginVendor name)) where
  vendors := holds.vendors
  vendor := by
    dsimp only [DictMeaning.read, DictParser.beginVendor]
    rw [holds.vendors, holds.vendor]
  names := holds.names
  values := holds.values
  small := holds.small

theorem endVendor (holds : parser.Holds meaning) :
    parser.endVendor.Holds (meaning.read .endVendor) where
  vendors := holds.vendors
  vendor := rfl
  names := holds.names
  values := holds.values
  small := holds.small

/-- An entry that does not stray has the effect that it means. -/
theorem enter (holds : parser.Holds meaning) {entry : DictEntry} {next : DictParser}
    (stays : forall attr text number, entry = .valueLine attr text number ->
      ¬ meaning.Strays attr number)
    (entered : parser.enter entry = some next) : next.Holds (meaning.read entry) := by
  cases entry with
  | attributeLine name id =>
      dsimp only [DictParser.enter] at entered
      split at entered
      · exact Option.some.inj entered ▸ holds.addAttribute name id
      · cases entered
  | valueLine attr text number =>
      dsimp only [DictParser.enter] at entered
      split at entered
      · rename_i small
        exact Option.some.inj entered ▸ holds.addValue small (stays attr text number rfl) text
      · cases entered
  | vendorLine name id =>
      dsimp only [DictParser.enter] at entered
      split at entered
      · exact Option.some.inj entered ▸ holds.addVendor name id
      · cases entered
  | beginVendor name => exact Option.some.inj entered ▸ holds.beginVendor name
  | endVendor => exact Option.some.inj entered ▸ holds.endVendor
  | nothing => exact Option.some.inj entered ▸ holds

end DictParser.Holds

namespace DictParser

theorem enterAll_concat (parser : DictParser) (entries : List DictEntry) (entry : DictEntry) :
    parser.enterAll (entries ++ [entry]) =
      (parser.enterAll entries).bind (fun next => next.enter entry) := by
  unfold enterAll
  rw [List.foldlM_append]
  refine congrArg (Option.bind _) (funext (fun next => ?_))
  simp only [List.foldlM_cons, List.foldlM_nil, bind_pure]

theorem NoneStrays.earlier {entries more : List DictEntry} (none_strays : NoneStrays (entries ++ more)) :
    NoneStrays entries := by
  intro earlier attr text number later parts
  refine none_strays earlier attr text number (later ++ more) ?_
  rw [parts, List.append_assoc, List.cons_append]

/-- While no VALUE line strays, the parser holds the meaning of what it has read. -/
theorem holds_of_enterAll {entries : List DictEntry} (none_strays : NoneStrays entries)
    {parser : DictParser} (entered : ({} : DictParser).enterAll entries = some parser) :
    parser.Holds (meaningOf entries) := by
  induction entries using List.reverseRecOn generalizing parser with
  | nil =>
      rw [← Option.some.inj entered]
      exact .start
  | append_singleton entries entry inductionHypothesis =>
      rw [enterAll_concat] at entered
      rcases Option.bind_eq_some_iff.mp entered with ⟨now, before, last⟩
      have holds := inductionHypothesis (NoneStrays.earlier none_strays) before
      rw [meaningOf_concat]
      refine holds.enter (fun attr text number isValue => ?_) last
      rw [isValue] at none_strays
      exact none_strays entries attr text number [] rfl

end DictParser

end Pppcpd
