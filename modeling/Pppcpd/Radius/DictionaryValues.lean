import Pppcpd.Foundation.Latest
import Pppcpd.Radius.DictionaryMeaning
import Mathlib.Data.Fintype.EquivFin

namespace Pppcpd

open Foundation

/-!
# The values of a dictionary

`getValueByName` should return the number of every VALUE line that stands behind
the ATTRIBUTE line of its attribute, and tell it from a text that no line lists.
It does for the dictionaries whose VALUE lines do not stray, have no number zero
and are all kept: the parser drops a value whose number is taken.
-/

/-- The number of an entry is in the range of `int`. -/
def DictEntry.InRange : DictEntry -> Prop
  | .attributeLine _ id => id < intLimit
  | .valueLine _ _ number => number < intLimit
  | .vendorLine _ id => id < intLimit
  | .beginVendor _ | .endVendor | .nothing => True

/-- Behind an ATTRIBUTE line outside the vendor blocks there is a VALUE line of
that name. -/
def Declares (entries : List DictEntry) (attr text : Bytes) (number : Nat) : Prop :=
  ∃ earlier id middle later, entries =
      earlier ++ .attributeLine attr id :: (middle ++ .valueLine attr text number :: later) ∧
    (meaningOf earlier).vendor = 0

/-- A VALUE line outside the vendor blocks stands behind an ATTRIBUTE line that
got its number, and is the first of its own number there. -/
def Keeps (entries : List DictEntry) (attr text : Bytes) (number : Nat) : Prop :=
  ∃ earlier later id, entries = earlier ++ .valueLine attr text number :: later ∧
    (meaningOf earlier).vendor = 0 ∧ (meaningOf earlier).names 0 id = some attr ∧
      (meaningOf earlier).values 0 id number = none

/-- The condition on a dictionary. -/
structure Plain (entries : List DictEntry) : Prop where
  in_range : ∀ entry ∈ entries, entry.InRange
  none_strays : NoneStrays entries
  kept : forall attr text number, Declares entries attr text number ->
    number ≠ 0 ∧ Keeps entries attr text number ∧
      forall other, Keeps entries attr text other -> other = number

/-- What is asked of the parser: the declared values are found and are told from
texts that no line lists, and a VALUE line changes no other attribute. -/
structure DictParser.Understands (parser : DictParser) (leftover : Nat -> Nat -> Bytes)
    (entries : List DictEntry) (text : Bytes) : Prop where
  found : forall attr value number, Declares entries attr value number ->
    (parser.dict.getValueByName attr value).toNat = number
  apart : forall attr value number other, Declares entries attr value number ->
    (forall number, .valueLine attr other number ∉ entries) ->
      parser.dict.getValueByName attr value ≠ parser.dict.getValueByName attr other
  own : forall earlier attr value number later,
    entries = earlier ++ .valueLine attr value number :: later -> forall now next : DictParser,
      parseLines leftover 0 {} ((linesOf newline text).take earlier.length) = some now ->
      parseLines leftover 0 {} ((linesOf newline text).take (earlier.length + 1)) = some next ->
      forall vendor, ∀ entry ∈ now.dict.attributesOf vendor, entry.2.name ≠ attr ->
        entry ∈ next.dict.attributesOf vendor

/-! ## The meaning along a text -/

namespace DictMeaning

variable {meaning : DictMeaning} {entry : DictEntry} {vendor : UInt32} {id : UInt8} {name text : Bytes}
  {number : Nat}

/-- A number keeps its name. -/
theorem names_read (named : meaning.names vendor id = some name) :
    (meaning.read entry).names vendor id = some name := by
  cases entry with
  | attributeLine other raw =>
      dsimp only [read]
      rw [if_neg (fun new => by rw [named] at new; cases new.2.2)]
      exact named
  | valueLine _ _ _ => exact named
  | vendorLine _ _ => exact named
  | beginVendor _ => exact named
  | endVendor => exact named
  | nothing => exact named

/-- A value keeps its text. -/
theorem values_read (given : meaning.values vendor id number = some text) :
    (meaning.read entry).values vendor id number = some text := by
  cases entry with
  | attributeLine _ _ => exact given
  | valueLine attr other raw =>
      dsimp only [read]
      rw [if_neg (fun new => by rw [given] at new; cases new.2.2.2)]
      exact given
  | vendorLine _ _ => exact given
  | beginVendor _ => exact given
  | endVendor => exact given
  | nothing => exact given

/-- A new name comes from an ATTRIBUTE line of the open block. -/
theorem names_of_read (named : (meaning.read entry).names vendor id = some name) :
    meaning.names vendor id = some name ∨
      ∃ raw, entry = .attributeLine name raw ∧ vendor = meaning.vendor := by
  cases entry with
  | attributeLine other raw =>
      dsimp only [read] at named
      split at named
      · rename_i new
        exact .inr ⟨raw, by rw [Option.some.inj named], new.1⟩
      · exact .inl named
  | valueLine _ _ _ => exact .inl named
  | vendorLine _ _ => exact .inl named
  | beginVendor _ => exact .inl named
  | endVendor => exact .inl named
  | nothing => exact .inl named

/-- A new value comes from a VALUE line of the open block. -/
theorem values_of_read (given : (meaning.read entry).values vendor id number = some text) :
    meaning.values vendor id number = some text ∨
      ∃ attr, entry = .valueLine attr text number ∧ vendor = meaning.vendor ∧
        meaning.names vendor id = some attr ∧ meaning.values vendor id number = none := by
  cases entry with
  | attributeLine _ _ => exact .inl given
  | valueLine attr other raw =>
      dsimp only [read] at given
      split at given
      · rename_i new
        refine .inr ⟨attr, ?_, new.1, new.2.1, new.2.2.2⟩
        rw [Option.some.inj given, new.2.2.1]
      · exact .inl given
  | vendorLine _ _ => exact .inl given
  | beginVendor _ => exact .inl given
  | endVendor => exact .inl given
  | nothing => exact .inl given

end DictMeaning

section

variable {entries : List DictEntry} {vendor : UInt32} {id : UInt8} {attr text : Bytes} {number : Nat}

theorem names_append (named : (meaningOf entries).names vendor id = some attr)
    (later : List DictEntry) : (meaningOf (entries ++ later)).names vendor id = some attr := by
  induction later using List.reverseRecOn with
  | nil =>
      rw [List.append_nil]
      exact named
  | append_singleton later entry inductionHypothesis =>
      rw [← List.append_assoc, meaningOf_concat]
      exact DictMeaning.names_read inductionHypothesis

theorem values_append (given : (meaningOf entries).values vendor id number = some text)
    (later : List DictEntry) : (meaningOf (entries ++ later)).values vendor id number = some text := by
  induction later using List.reverseRecOn with
  | nil =>
      rw [List.append_nil]
      exact given
  | append_singleton later entry inductionHypothesis =>
      rw [← List.append_assoc, meaningOf_concat]
      exact DictMeaning.values_read inductionHypothesis

/-- A name comes from an ATTRIBUTE line in a block of its vendor. -/
theorem names_split (named : (meaningOf entries).names vendor id = some attr) :
    ∃ earlier raw later, entries = earlier ++ .attributeLine attr raw :: later ∧
      (meaningOf earlier).vendor = vendor := by
  induction entries using List.reverseRecOn with
  | nil => cases named
  | append_singleton entries entry inductionHypothesis =>
      rw [meaningOf_concat] at named
      rcases DictMeaning.names_of_read named with old | ⟨raw, isLine, open_block⟩
      · rcases inductionHypothesis old with ⟨earlier, raw, later, parts, block⟩
        exact ⟨earlier, raw, later ++ [entry], by rw [parts, List.append_assoc, List.cons_append], block⟩
      · exact ⟨entries, raw, [], by rw [isLine], open_block.symm⟩

/-- A value comes from the first VALUE line of its number behind a name. -/
theorem values_split (given : (meaningOf entries).values vendor id number = some text) :
    ∃ earlier attr later, entries = earlier ++ .valueLine attr text number :: later ∧
      (meaningOf earlier).vendor = vendor ∧ (meaningOf earlier).names vendor id = some attr ∧
        (meaningOf earlier).values vendor id number = none := by
  induction entries using List.reverseRecOn with
  | nil => cases given
  | append_singleton entries entry inductionHypothesis =>
      rw [meaningOf_concat] at given
      rcases DictMeaning.values_of_read given with old | ⟨attr, isLine, open_block, named, untaken⟩
      · rcases inductionHypothesis old with ⟨earlier, attr, later, parts, rest⟩
        exact ⟨earlier, attr, later ++ [entry],
          by rw [parts, List.append_assoc, List.cons_append], rest⟩
      · exact ⟨entries, attr, [], by rw [isLine], open_block.symm, named, untaken⟩

/-- The kept VALUE lines are the values of the meaning. -/
theorem keeps_iff : Keeps entries attr text number ↔
    ∃ id, (meaningOf entries).names 0 id = some attr ∧
      (meaningOf entries).values 0 id number = some text := by
  constructor
  · rintro ⟨earlier, later, id, parts, block, named, untaken⟩
    have isPrefix : entries = (earlier ++ [.valueLine attr text number]) ++ later := by
      rw [parts, List.append_assoc, List.singleton_append]
    rw [isPrefix]
    refine ⟨id, names_append ?_ later, values_append ?_ later⟩
    · rw [meaningOf_concat]
      exact DictMeaning.names_read named
    · rw [meaningOf_concat]
      exact if_pos ⟨block.symm, named, rfl, untaken⟩
  · rintro ⟨id, named, given⟩
    rcases values_split given with ⟨earlier, other, later, parts, block, before, untaken⟩
    have after := names_append before (.valueLine other text number :: later)
    rw [← parts, named] at after
    rw [← Option.some.inj after] at parts before
    exact ⟨earlier, later, id, parts, block, before, untaken⟩

/-- A kept line is a declared one. -/
theorem Keeps.declares (keeps : Keeps entries attr text number) :
    Declares entries attr text number := by
  rcases keeps with ⟨earlier, later, id, parts, _, named, _⟩
  rcases names_split named with ⟨first, raw, middle, before, block⟩
  exact ⟨first, raw, middle, later, by rw [parts, before, List.append_assoc, List.cons_append], block⟩

/-- A declared line is one of the entries. -/
theorem Declares.mem (declares : Declares entries attr text number) :
    .valueLine attr text number ∈ entries := by
  rcases declares with ⟨earlier, id, middle, later, parts, _⟩
  rw [parts]
  refine List.mem_append_right _ (List.mem_cons_of_mem _ (List.mem_append_right _ ?_))
  exact List.mem_cons_self

end

/-! ## What the parser returns -/

/-- `getValueByName` returns a number that an attribute of the name has under the
text, or zero when there is none. -/
theorem RadiusDict.getValueByName_cases (dict : RadiusDict) (attr text : Bytes) :
    (∃ entry ∈ dict.attrs, entry.2.name = attr ∧
        (dict.getValueByName attr text, text) ∈ entry.2.values) ∨
      (∀ entry ∈ dict.attrs, entry.2.name = attr -> forall number, (number, text) ∉ entry.2.values) ∧
        dict.getValueByName attr text = 0 := by
  unfold getValueByName
  dsimp only
  cases found : dict.attrs.filterMap (fun entry =>
      if entry.2.name == attr then
        (entry.2.values.find? (fun value => value.2 == text)).map Prod.fst
      else none) with
  | nil =>
      refine .inr ⟨fun entry member named number listed => ?_, rfl⟩
      have nothing := List.filterMap_eq_nil_iff.mp found entry member
      rw [if_pos (beq_iff_eq.mpr named), Option.map_eq_none_iff, List.find?_eq_none] at nothing
      exact nothing (number, text) listed (beq_self_eq_true text)
  | cons first rest =>
      have member : first ∈ dict.attrs.filterMap (fun entry =>
          if entry.2.name == attr then
            (entry.2.values.find? (fun value => value.2 == text)).map Prod.fst
          else none) := by
        rw [found]
        exact List.mem_cons_self
      rcases List.mem_filterMap.mp member with ⟨entry, there, given⟩
      refine .inl ⟨entry, there, ?_⟩
      split at given
      · rename_i named
        rcases Option.map_eq_some_iff.mp given with ⟨value, isValue, same⟩
        refine ⟨beq_iff_eq.mp named, ?_⟩
        have passes := List.find?_some isValue
        have isText : value.2 = text := beq_iff_eq.mp passes
        have whole : (first, text) = value := by rw [← same, ← isText]
        rw [List.headD_cons, whole]
        exact List.mem_of_find?_eq_some isValue
      · cases given

namespace DictParser

variable {parser : DictParser} {entries : List DictEntry}

/-- Where the parser holds the meaning, it returns the number of a kept line or
zero. -/
theorem Holds.getValueByName (holds : parser.Holds (meaningOf entries)) (attr text : Bytes) :
    Keeps entries attr text (parser.dict.getValueByName attr text).toNat ∨
      (forall number, ¬ Keeps entries attr text number) ∧ parser.dict.getValueByName attr text = 0 := by
  have standard : parser.dict.attributesOf 0 = parser.dict.attrs := if_pos rfl
  rcases parser.dict.getValueByName_cases attr text with ⟨entry, member, named, listed⟩ |
    ⟨nothing, zero⟩
  · refine .inl (keeps_iff.mpr ⟨entry.1, ?_, ?_⟩)
    · exact (holds.names 0 entry.1 attr).mpr ⟨entry.2, standard.symm ▸ member, named⟩
    · exact (holds.values 0 entry.1 entry.2 (standard.symm ▸ member) _ text).mp listed
  · refine .inr ⟨fun number keeps => ?_, zero⟩
    rcases keeps_iff.mp keeps with ⟨id, named, given⟩
    rcases (holds.names 0 id attr).mp named with ⟨record, member, isName⟩
    have small := (holds.small 0 id number text given).1
    refine nothing (id, record) (standard ▸ member) isName (.ofNat number) ?_
    refine (holds.values 0 id record member _ text).mpr ?_
    rw [Holds.toNat_ofNat_small small]
    exact given

/-- A text that no line lists is not found. -/
theorem Holds.absent (holds : parser.Holds (meaningOf entries)) {attr text : Bytes}
    (unlisted : forall number, .valueLine attr text number ∉ entries) :
    parser.dict.getValueByName attr text = 0 := by
  rcases holds.getValueByName attr text with keeps | ⟨_, zero⟩
  · exact absurd keeps.declares.mem (unlisted _)
  · exact zero

/-- The entries of a dictionary that is read are in range. -/
theorem enter_isSome_iff (parser : DictParser) (entry : DictEntry) :
    (parser.enter entry).isSome = true ↔ entry.InRange := by
  cases entry with
  | attributeLine name id => exact Option.isSome_ite
  | valueLine attr text number => exact Option.isSome_ite
  | vendorLine name id => exact Option.isSome_ite
  | beginVendor name => exact ⟨fun _ => trivial, fun _ => rfl⟩
  | endVendor => exact ⟨fun _ => trivial, fun _ => rfl⟩
  | nothing => exact ⟨fun _ => trivial, fun _ => rfl⟩

theorem enterAll_isSome_iff (parser : DictParser) (entries : List DictEntry) :
    (parser.enterAll entries).isSome = true ↔ ∀ entry ∈ entries, entry.InRange := by
  induction entries generalizing parser with
  | nil => exact ⟨fun _ _ member => absurd member List.not_mem_nil, fun _ => rfl⟩
  | cons entry rest inductionHypothesis =>
      have both : (parser.enterAll (entry :: rest)).isSome = true ↔
          ∃ next, parser.enter entry = some next ∧ (next.enterAll rest).isSome = true := by
        unfold enterAll
        rw [List.foldlM_cons]
        show (Option.bind _ _).isSome = true ↔ _
        rw [Option.isSome_bind, Option.any_eq_true]
      rw [both, List.forall_mem_cons, ← parser.enter_isSome_iff, Option.isSome_iff_exists]
      constructor
      · rintro ⟨next, first, others⟩
        exact ⟨⟨next, first⟩, (inductionHypothesis next).mp others⟩
      · rintro ⟨⟨next, first⟩, others⟩
        exact ⟨next, first, (inductionHypothesis next).mpr others⟩

/-- The state after the first lines is that after their entries. -/
theorem parseLines_take {text : Bytes} (written : WrittenText entries text)
    (leftover : Nat -> Nat -> Bytes) (count : Nat) :
    parseLines leftover 0 {} ((linesOf newline text).take count) =
      ({} : DictParser).enterAll (entries.take count) :=
  parseLines_of_written (List.forall₂_take count written) leftover 0 {}

theorem attributesOf_addValue (parser : DictParser) (attr text : Bytes) (number : UInt32)
    (vendor : UInt32) : (parser.addValue attr text number).dict.attributesOf vendor =
      if vendor = parser.currentVendor then
        (parser.dict.attributesOf parser.currentVendor).map (RadiusDict.attachValue attr text number)
      else parser.dict.attributesOf vendor :=
  RadiusDict.attributesOf_alterAttributes _ _ _ _

/-- A VALUE line changes no attribute that it does not name exactly when it does
not stray. -/
theorem Holds.changes_own_iff {meaning : DictMeaning} (holds : parser.Holds meaning) {attr : Bytes}
    {number : Nat} (small : number < intLimit) (text : Bytes) :
    (forall vendor, ∀ entry ∈ parser.dict.attributesOf vendor, entry.2.name ≠ attr ->
        entry ∈ (parser.addValue attr text (.ofNat number)).dict.attributesOf vendor) ↔
      ¬ meaning.Strays attr number := by
  constructor
  · rintro own ⟨id, name, named, begins, other, untaken⟩
    rcases (holds.names meaning.vendor id name).mp named with ⟨record, member, isName⟩
    have kept := own meaning.vendor (id, record) member (by rw [isName]; exact other)
    rw [attributesOf_addValue, holds.vendor, if_pos rfl] at kept
    rcases List.mem_map.mp kept with ⟨entry, _, attached⟩
    have same := RadiusDict.attachValue_fst attr text (.ofNat number) entry
    rw [attached] at same
    have prefixed : entry.2.name.isPrefixOf attr = true := by
      rw [List.isPrefixOf_iff_prefix, ← same.2, isName]
      exact begins
    unfold RadiusDict.attachValue at attached
    rw [if_pos prefixed] at attached
    rcases @OrderedMap.key_mem_emplace _ _ _ RadiusDict.signedBefore (UInt32.ofNat number) text
      entry.2.values with ⟨held, listed⟩
    have inRecord : (UInt32.ofNat number, held) ∈ record.values := by
      rw [← (Prod.mk.inj attached).2]
      exact listed
    have given := (holds.values meaning.vendor id record member _ held).mp inRecord
    rw [toNat_ofNat_small small, untaken] at given
    cases given
  · intro stays vendor entry member other
    rw [attributesOf_addValue, holds.vendor]
    by_cases open_block : vendor = meaning.vendor
    · rw [if_pos open_block]
      rw [open_block] at member
      exact List.mem_map.mpr ⟨entry, member, holds.attachValue_of_other small stays text member other⟩
    · rw [if_neg open_block]
      exact member

end DictParser

/-- Some text is listed by no VALUE line. -/
theorem exists_unlisted (entries : List DictEntry) :
    ∃ text, forall attr number, .valueLine attr text number ∉ entries := by
  let texts := entries.filterMap (fun entry =>
    match entry with
    | .valueLine _ text _ => some text
    | _ => none)
  rcases Infinite.exists_notMem_finset texts.toFinset with ⟨text, unlisted⟩
  refine ⟨text, fun attr number member => unlisted ?_⟩
  exact List.mem_toFinset.mpr (List.mem_filterMap.mpr ⟨_, member, rfl⟩)

namespace DictParser

variable {parser : DictParser} {entries : List DictEntry} {text : Bytes}
  {leftover : Nat -> Nat -> Bytes}

/-- The first entries of a dictionary that is read. -/
theorem enterAll_earlier {earlier later : List DictEntry}
    (entered : ({} : DictParser).enterAll (earlier ++ later) = some parser) :
    ∃ now : DictParser, ({} : DictParser).enterAll earlier = some now ∧
      now.enterAll later = some parser := by
  unfold enterAll at entered ⊢
  rw [List.foldlM_append] at entered
  exact Option.bind_eq_some_iff.mp entered

theorem noneStrays_of_understands (written : WrittenText entries text)
    (entered : ({} : DictParser).enterAll entries = some parser)
    (understands : parser.Understands leftover entries text) : NoneStrays entries := by
  have every : forall early later, entries = early ++ later -> NoneStrays early := by
    intro early
    induction early using List.reverseRecOn with
    | nil =>
        intro later _ earlier attr value number rest impossible
        cases earlier <;> cases impossible
    | append_singleton early entry inductionHypothesis =>
        intro later parts earlier attr value number rest split
        have whole : entries = early ++ entry :: later := by
          rw [parts, List.append_assoc, List.singleton_append]
        have before := inductionHypothesis (entry :: later) whole
        rcases concat_eq_append_cons split with ⟨_, same, isValue⟩ | ⟨tail, _, same⟩
        · rw [whole] at entered
          rcases enterAll_earlier entered with ⟨now, first, others⟩
          rw [← same]
          have holds := holds_of_enterAll before first
          rcases Option.bind_eq_some_iff.mp (show (now.enter entry).bind _ = some parser from others)
            with ⟨next, last, _⟩
          have small : number < intLimit := by
            have inRange := (now.enter_isSome_iff entry).mp (Option.isSome_iff_exists.mpr ⟨next, last⟩)
            rw [isValue] at inRange
            exact inRange
          refine (holds.changes_own_iff small value).mp ?_
          have isNext : now.addValue attr value (.ofNat number) = next := by
            rw [isValue] at last
            exact Option.some.inj ((if_pos small).symm.trans last)
          rw [isNext]
          refine understands.own early attr value number later (by rw [whole, isValue]) now next ?_ ?_
          · rw [parseLines_take written, whole, List.take_left]
            exact first
          · have cut : (early ++ [entry] ++ later).take (early.length + 1) = early ++ [entry] :=
              List.take_left' List.length_append
            rw [parseLines_take written, parts, cut, enterAll_concat, first]
            exact last
        · exact before earlier attr value number tail same
  exact every entries [] (List.append_nil entries).symm

/-- The declared lines of a dictionary that is understood are kept. -/
theorem kept_of_understands (holds : parser.Holds (meaningOf entries))
    (understands : parser.Understands leftover entries text) {attr value : Bytes} {number : Nat}
    (declares : Declares entries attr value number) :
    number ≠ 0 ∧ Keeps entries attr value number ∧
      forall other, Keeps entries attr value other -> other = number := by
  have found := understands.found attr value number declares
  have nonzero : parser.dict.getValueByName attr value ≠ 0 := by
    rcases exists_unlisted entries with ⟨other, unlisted⟩
    have absent := holds.absent (unlisted attr)
    intro zero
    exact understands.apart attr value number other declares (unlisted attr) (zero.trans absent.symm)
  refine ⟨fun zero => nonzero (UInt32.toNat_inj.mp (found.trans zero)), ?_, fun other keeps => ?_⟩
  · rcases holds.getValueByName attr value with keeps | ⟨_, zero⟩
    · rw [found] at keeps
      exact keeps
    · exact absurd zero nonzero
  · exact (understands.found attr value other keeps.declares).symm.trans found

/-- A plain dictionary is understood. -/
theorem understands_of_plain (written : WrittenText entries text) (plain : Plain entries)
    (entered : ({} : DictParser).enterAll entries = some parser) :
    parser.Understands leftover entries text := by
  have holds := holds_of_enterAll plain.none_strays entered
  have found : forall attr value number, Declares entries attr value number ->
      (parser.dict.getValueByName attr value).toNat = number := by
    intro attr value number declares
    rcases plain.kept attr value number declares with ⟨_, keeps, only⟩
    rcases holds.getValueByName attr value with kept | ⟨nothing, _⟩
    · exact only _ kept
    · exact absurd keeps (nothing number)
  refine ⟨found, ?_, ?_⟩
  · intro attr value number other declares unlisted same
    have isNumber := found attr value number declares
    rw [same, holds.absent unlisted] at isNumber
    exact (plain.kept attr value number declares).1 isNumber.symm
  · intro earlier attr value number later parts now next before after
    have small : number < intLimit :=
      plain.in_range (.valueLine attr value number)
        (parts ▸ List.mem_append_right _ List.mem_cons_self)
    have whole : entries = earlier ++ [.valueLine attr value number] ++ later := by
      rw [parts, List.append_assoc, List.singleton_append]
    have cut : (earlier ++ [DictEntry.valueLine attr value number] ++ later).take (earlier.length + 1) =
        earlier ++ [DictEntry.valueLine attr value number] := List.take_left' List.length_append
    rw [parseLines_take written, parts, List.take_left] at before
    rw [parseLines_take written, whole, cut, enterAll_concat, before] at after
    have isNext : now.addValue attr value (.ofNat number) = next :=
      Option.some.inj ((if_pos small).symm.trans after)
    have none_strays := plain.none_strays
    rw [parts] at none_strays
    have holdsNow := holds_of_enterAll (NoneStrays.earlier none_strays) before
    rw [← isNext]
    exact (holdsNow.changes_own_iff small value).mpr (plain.none_strays earlier attr value number later parts)

/-- A well-formed dictionary is read and understood if and only if it is plain,
whatever the fields behind the words hold. -/
theorem understands_iff (leftover : Nat -> Nat -> Bytes) (entries : List DictEntry) (text : Bytes)
    (written : WrittenText entries text) :
    (∃ parser, parseFreeradDict leftover {} text = some parser ∧
        parser.Understands leftover entries text) ↔ Plain entries := by
  rw [parseFreeradDict_of_written written]
  constructor
  · rintro ⟨parser, entered, understands⟩
    have none_strays := noneStrays_of_understands written entered understands
    have holds := holds_of_enterAll none_strays entered
    refine ⟨?_, none_strays, fun _ _ _ declares => kept_of_understands holds understands declares⟩
    exact (enterAll_isSome_iff _ entries).mp (Option.isSome_iff_exists.mpr ⟨parser, entered⟩)
  · intro plain
    have read := (enterAll_isSome_iff {} entries).mpr plain.in_range
    rcases Option.isSome_iff_exists.mp read with ⟨parser, entered⟩
    exact ⟨parser, entered, understands_of_plain written plain entered⟩

/-- Two attributes, the name of one beginning with that of the other, and a value
of the longer one. -/
def portDictionary : Bytes :=
  ascii "# ports\n\nATTRIBUTE\tNAS-Port\t5\tinteger\n ATTRIBUTE NAS-Port-Type  61 integer\nVALUE NAS-Port-Type\tEthernet 15"

def portEntries : List DictEntry :=
  [.nothing, .nothing, .attributeLine (ascii "NAS-Port") 5, .attributeLine (ascii "NAS-Port-Type") 61,
    .valueLine (ascii "NAS-Port-Type") (ascii "Ethernet") 15]

theorem portDictionary_written : WrittenText portEntries portDictionary := by
  have lines : linesOf newline portDictionary =
      [[] ++ hash :: ascii " ports", [], ascii "ATTRIBUTE\tNAS-Port\t5\tinteger",
        ascii " ATTRIBUTE NAS-Port-Type  61 integer",
        ascii "VALUE NAS-Port-Type\tEthernet 15"] := by decide +kernel
  have first : Spaced isFieldBlank [ascii "ATTRIBUTE", ascii "NAS-Port", ascii "5", ascii "integer"]
      (ascii "ATTRIBUTE\tNAS-Port\t5\tinteger") := by decide +kernel
  have second : Spaced isFieldBlank
      [ascii "ATTRIBUTE", ascii "NAS-Port-Type", ascii "61", ascii "integer"]
      (ascii " ATTRIBUTE NAS-Port-Type  61 integer") := by decide +kernel
  have third : Spaced isFieldBlank
      [ascii "VALUE", ascii "NAS-Port-Type", ascii "Ethernet", ascii "15"]
      (ascii "VALUE NAS-Port-Type\tEthernet 15") := by decide +kernel
  have no_blanks : ∀ letter ∈ ([] : Bytes), isFieldBlank letter = true :=
    fun _ member => absurd member List.not_mem_nil
  unfold WrittenText portEntries
  rw [lines]
  refine .cons (.comment no_blanks) (.cons (.blank no_blanks) (.cons (.attributeLine first ?_)
    (.cons (.attributeLine second ?_) (.cons (.valueLine third ?_) .nil))))
  · exact ⟨by decide +kernel, by decide +kernel, by decide +kernel⟩
  · exact ⟨by decide +kernel, by decide +kernel, by decide +kernel⟩
  · exact ⟨by decide +kernel, by decide +kernel, by decide +kernel⟩

theorem understands_iff_at_ports :
    (∃ parser, parseFreeradDict (fun _ _ => []) {} portDictionary = some parser ∧
        parser.Understands (fun _ _ => []) portEntries portDictionary) ↔ Plain portEntries :=
  understands_iff _ portEntries portDictionary portDictionary_written

/-- The value of the one is added to the other. -/
theorem value_strays : WrittenText portEntries portDictionary ∧
    ¬ ∃ parser, parseFreeradDict (fun _ _ => []) {} portDictionary = some parser ∧
      parser.Understands (fun _ _ => []) portEntries portDictionary := by
  refine ⟨portDictionary_written, ?_⟩
  rintro ⟨parser, _, understands⟩
  let port : UInt8 × RadiusAttribute := (5, { name := ascii "NAS-Port" })
  have changed : (parseLines (fun _ _ => []) 0 {} ((linesOf newline portDictionary).take 4)).any
      (fun now => (parseLines (fun _ _ => []) 0 {} ((linesOf newline portDictionary).take 5)).any
        (fun next => decide (port ∈ now.dict.attributesOf 0) &&
          !decide (port ∈ next.dict.attributesOf 0))) = true := by decide +kernel
  rcases (Option.any_eq_true _ _).mp changed with ⟨now, before, others⟩
  rcases (Option.any_eq_true _ _).mp others with ⟨next, after, both⟩
  rw [Bool.and_eq_true, Bool.not_eq_true', decide_eq_true_eq, decide_eq_false_iff_not] at both
  exact both.2 (understands.own (portEntries.take 4) (ascii "NAS-Port-Type") (ascii "Ethernet") 15 []
    rfl now next before after 0 port both.1 (by decide +kernel))

end DictParser

end Pppcpd
