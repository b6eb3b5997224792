import Pppcpd.Radius.Dictionary
import Mathlib.Data.List.TakeWhile

namespace Pppcpd

open Foundation

/-!
# The lines of a dictionary

A well-formed dictionary is a list of entries, each written on one line with any
spacing and anything behind what its kind of line needs.  The parser has the
effect of the entries one after the other, whatever it finds behind the words,
unless a number is out of the range of `int`.
-/

/-- What a line says. -/
inductive DictEntry
  | attributeLine (name : Bytes) (id : Nat)
  | valueLine (attr text : Bytes) (number : Nat)
  | vendorLine (name : Bytes) (id : Nat)
  | beginVendor (name : Bytes)
  | endVendor
  | nothing
  deriving DecidableEq, Repr

/-- A word is the decimal digits of a number. -/
structure Digits (word : Bytes) (number : Nat) : Prop where
  some_digit : word ≠ []
  are_digits : ∀ letter ∈ word, isDigit letter = true
  value : digitsValue word = number

/-- The well-formed lines of an entry. -/
inductive DictEntry.WrittenAs : DictEntry -> Bytes -> Prop
  | attributeLine {name digits type line : Bytes} {more : List Bytes} {id : Nat} :
      Spaced isFieldBlank (ascii "ATTRIBUTE" :: name :: digits :: type :: more) line ->
      Digits digits id -> WrittenAs (.attributeLine name id) line
  | valueLine {attr text digits line : Bytes} {more : List Bytes} {number : Nat} :
      Spaced isFieldBlank (ascii "VALUE" :: attr :: text :: digits :: more) line ->
      Digits digits number -> WrittenAs (.valueLine attr text number) line
  | vendorLine {name digits line : Bytes} {more : List Bytes} {id : Nat} :
      Spaced isFieldBlank (ascii "VENDOR" :: name :: digits :: more) line ->
      Digits digits id -> WrittenAs (.vendorLine name id) line
  | beginVendor {name line : Bytes} {more : List Bytes} :
      Spaced isFieldBlank (ascii "BEGIN-VENDOR" :: name :: more) line ->
      WrittenAs (.beginVendor name) line
  | endVendor {line : Bytes} {more : List Bytes} :
      Spaced isFieldBlank (ascii "END-VENDOR" :: more) line -> WrittenAs .endVendor line
  | comment {spacing rest : Bytes} : (∀ letter ∈ spacing, isFieldBlank letter = true) ->
      WrittenAs .nothing (spacing ++ hash :: rest)
  | blank {spacing : Bytes} : (∀ letter ∈ spacing, isFieldBlank letter = true) ->
      WrittenAs .nothing spacing

/-- A text has exactly these entries, one on each line. -/
def WrittenText (entries : List DictEntry) (text : Bytes) : Prop :=
  List.Forall₂ DictEntry.WrittenAs entries (linesOf newline text)

namespace DictParser

/-- The effect of an entry. -/
def enter (parser : DictParser) : DictEntry -> Option DictParser
  | .attributeLine name id =>
      if id < intLimit then some (parser.addAttribute name (.ofNat id)) else none
  | .valueLine attr text number =>
      if number < intLimit then some (parser.addValue attr text (.ofNat number)) else none
  | .vendorLine name id => if id < intLimit then some (parser.addVendor name (.ofNat id)) else none
  | .beginVendor name => some (parser.beginVendor name)
  | .endVendor => some parser.endVendor
  | .nothing => some parser

/-- The effect of several entries. -/
def enterAll (parser : DictParser) (entries : List DictEntry) : Option DictParser :=
  entries.foldlM enter parser

/-! ## Numbers -/

theorem takeWhile_digits {word : Bytes} (digits : ∀ letter ∈ word, isDigit letter = true) :
    word.takeWhile isDigit = word :=
  List.takeWhile_eq_self_iff.mpr digits

theorem not_special_of_digit {letter : UInt8} (digit : isDigit letter = true) :
    isSpace letter = false ∧ letter ≠ 45 ∧ letter ≠ 43 := by
  unfold isDigit at digit
  unfold isSpace
  rw [Bool.and_eq_true, decide_eq_true_eq, decide_eq_true_eq, UInt8.le_iff_toNat_le,
    UInt8.le_iff_toNat_le] at digit
  have low : 48 ≤ letter.toNat := digit.1
  refine ⟨?_, ?_, ?_⟩
  · rw [Bool.or_eq_false_iff, Bool.and_eq_false_iff, decide_eq_false_iff_not, decide_eq_false_iff_not,
      UInt8.le_iff_toNat_le, UInt8.le_iff_toNat_le]
    refine ⟨beq_eq_false_iff_ne.mpr (fun same => ?_), .inr (fun small => ?_)⟩
    · rw [same] at low
      exact absurd low (by decide)
    · exact absurd (Nat.le_trans low small) (by decide)
  · intro same
    rw [same] at low
    exact absurd low (by decide)
  · intro same
    rw [same] at low
    exact absurd low (by decide)

/-- Decimal digits are read as their number. -/
theorem stoi_of_digits {word : Bytes} {number : Nat} (digits : Digits word number) :
    stoi word = if number < intLimit then some (number : Int) else none := by
  rcases digits with ⟨some_digit, are, value⟩
  rcases List.exists_cons_of_ne_nil some_digit with ⟨first, rest, parts⟩
  have isFirst := not_special_of_digit (are first (parts ▸ List.mem_cons_self))
  have trimmed : word.dropWhile isSpace = word := by
    rw [parts]
    exact List.dropWhile_cons_of_neg (by rw [isFirst.1]; decide)
  have minus : (word.head? == some 45) = false := by
    rw [parts]
    exact beq_eq_false_iff_ne.mpr (fun same => isFirst.2.1 (Option.some.inj same))
  have plus : (word.head? == some 43) = false := by
    rw [parts]
    exact beq_eq_false_iff_ne.mpr (fun same => isFirst.2.2 (Option.some.inj same))
  unfold stoi
  dsimp only
  rw [trimmed, minus, plus]
  simp only [Bool.or_self, Bool.false_eq_true, if_false]
  rw [takeWhile_digits are, value, if_neg some_digit]
  by_cases small : number < intLimit
  · rw [if_pos small, if_pos (by omega)]
  · rw [if_neg small, if_neg (by omega)]

/-! ## One line -/

theorem fieldsOf_of_spaced {words : List Bytes} {line : Bytes}
    (spaced : Spaced isFieldBlank words line) (leftover : Nat -> Bytes) :
    ∃ more, fieldsOf leftover line = words ++ more := by
  unfold fieldsOf
  rw [spaced.wordsOf]
  exact ⟨_, rfl⟩

theorem keywords_head : ∀ keyword ∈ keywords, keyword.head? ≠ some hash := by decide

/-- A line that begins with a keyword is not skipped. -/
theorem not_skipped {keyword : Bytes} {words : List Bytes} {line : Bytes}
    (spaced : Spaced isFieldBlank (keyword :: words) line) (known : keyword ∈ keywords) :
    line.headD 0 ≠ hash ∧ ¬ keywords.all (fun keyword => !decide (keyword <:+: line)) = true := by
  constructor
  · cases line with
    | nil => decide
    | cons first rest =>
        intro same
        have isHash : first = hash := same
        rcases spaced.head? (show (first :: rest).head? = some hash by rw [isHash]; rfl) with
          isBlank | begins
        · exact absurd isBlank (by decide)
        · exact keywords_head keyword known begins
  · intro every
    have absent := List.all_eq_true.mp every keyword known
    rw [Bool.not_eq_true', decide_eq_false_iff_not] at absent
    exact absent spaced.infix

/-- What one round does with a line of words that begin with a keyword. -/
theorem parseLine_of_spaced {keyword : Bytes} {words : List Bytes} {line : Bytes}
    (spaced : Spaced isFieldBlank (keyword :: words) line) (known : keyword ∈ keywords)
    (leftover : Nat -> Bytes) (parser : DictParser) :
    ∃ more, parseLine leftover parser line = parseFields parser (keyword :: (words ++ more)) := by
  rcases fieldsOf_of_spaced spaced leftover with ⟨more, fields⟩
  refine ⟨more, ?_⟩
  unfold parseLine
  rw [if_neg (not_skipped spaced known).1, if_neg (not_skipped spaced known).2, fields]
  rfl

/-- A comment is skipped, also behind blanks and with a keyword in it. -/
theorem parseLine_comment {spacing : Bytes} (blanks : ∀ letter ∈ spacing, isFieldBlank letter = true)
    (rest : Bytes) (leftover : Nat -> Bytes) (parser : DictParser) :
    parseLine leftover parser (spacing ++ hash :: rest) = some parser := by
  rcases wordsOf_letter blanks (show isFieldBlank hash = false by decide) rest with
    ⟨word, words, read⟩
  unfold parseLine
  split
  · rfl
  · split
    · rfl
    · unfold fieldsOf
      rw [read]
      rfl

/-- A blank line is skipped. -/
theorem parseLine_blank {spacing : Bytes} (blanks : ∀ letter ∈ spacing, isFieldBlank letter = true)
    (leftover : Nat -> Bytes) (parser : DictParser) :
    parseLine leftover parser spacing = some parser := by
  have lettered : ∀ keyword ∈ keywords, ∃ letter ∈ keyword, isFieldBlank letter = false := by decide
  unfold parseLine
  split
  · rfl
  · rw [if_pos]
    rw [List.all_eq_true]
    intro keyword known
    rcases lettered keyword known with ⟨letter, member, isLetter⟩
    rw [decide_eq_false (not_infix_of_blanks blanks member isLetter)]
    rfl

theorem ofInt8 (id : Nat) : UInt8.ofInt (id : Int) = UInt8.ofNat id := by
  apply UInt8.toNat_inj.mp
  rw [UInt8.toNat_ofNat']
  show (UInt8.ofNat ((id : Int) % 2 ^ 8).toNat).toNat = _
  rw [UInt8.toNat_ofNat']
  omega

theorem ofInt32 (number : Nat) : UInt32.ofInt (number : Int) = UInt32.ofNat number := by
  apply UInt32.toNat_inj.mp
  rw [UInt32.toNat_ofNat']
  show (UInt32.ofNat ((number : Int) % 2 ^ 32).toNat).toNat = _
  rw [UInt32.toNat_ofNat']
  omega

theorem parseFields_attribute (parser : DictParser) (name digits type : Bytes) (rest : List Bytes) :
    parser.parseFields (ascii "ATTRIBUTE" :: name :: digits :: type :: rest) =
      (stoi digits).map (fun id => parser.addAttribute name (.ofInt id)) := by
  have isKeyword : (ascii "ATTRIBUTE").isPrefixOf (ascii "ATTRIBUTE") = true := by decide
  have long : ¬ (ascii "ATTRIBUTE" :: name :: digits :: type :: rest).length < 4 :=
    Nat.not_lt_of_le (Nat.le_add_left 4 rest.length)
  unfold parseFields
  simp only [List.getD_cons_zero, List.getD_cons_succ]
  rw [if_pos isKeyword, if_neg long]

theorem parseFields_value (parser : DictParser) (attr text digits : Bytes) (rest : List Bytes) :
    parser.parseFields (ascii "VALUE" :: attr :: text :: digits :: rest) =
      (stoi digits).map (fun number => parser.addValue attr text (.ofInt number)) := by
  have isKeyword : (ascii "VALUE").isPrefixOf (ascii "VALUE") = true := by decide
  have long : ¬ (ascii "VALUE" :: attr :: text :: digits :: rest).length < 4 :=
    Nat.not_lt_of_le (Nat.le_add_left 4 rest.length)
  unfold parseFields
  simp only [List.getD_cons_zero, List.getD_cons_succ]
  rw [if_neg (show ¬ (ascii "ATTRIBUTE").isPrefixOf (ascii "VALUE") = true by decide), if_pos isKeyword,
    if_neg long]

theorem parseFields_vendor (parser : DictParser) (name digits : Bytes) (rest : List Bytes) :
    parser.parseFields (ascii "VENDOR" :: name :: digits :: rest) =
      (stoi digits).map (fun id => parser.addVendor name (.ofInt id)) := by
  have isKeyword : (ascii "VENDOR").isPrefixOf (ascii "VENDOR") = true := by decide
  have long : ¬ (ascii "VENDOR" :: name :: digits :: rest).length < 3 :=
    Nat.not_lt_of_le (Nat.le_add_left 3 rest.length)
  unfold parseFields
  simp only [List.getD_cons_zero, List.getD_cons_succ]
  rw [if_neg (show ¬ (ascii "ATTRIBUTE").isPrefixOf (ascii "VENDOR") = true by decide),
    if_neg (show ¬ (ascii "VALUE").isPrefixOf (ascii "VENDOR") = true by decide), if_pos isKeyword,
    if_neg long]

theorem parseFields_beginVendor (parser : DictParser) (name : Bytes) (rest : List Bytes) :
    parser.parseFields (ascii "BEGIN-VENDOR" :: name :: rest) = some (parser.beginVendor name) := by
  have isKeyword : (ascii "BEGIN-VENDOR").isPrefixOf (ascii "BEGIN-VENDOR") = true := by decide
  have long : ¬ (ascii "BEGIN-VENDOR" :: name :: rest).length < 2 :=
    Nat.not_lt_of_le (Nat.le_add_left 2 rest.length)
  unfold parseFields
  simp only [List.getD_cons_zero, List.getD_cons_succ]
  rw [if_neg (show ¬ (ascii "ATTRIBUTE").isPrefixOf (ascii "BEGIN-VENDOR") = true by decide),
    if_neg (show ¬ (ascii "VALUE").isPrefixOf (ascii "BEGIN-VENDOR") = true by decide),
    if_neg (show ¬ (ascii "VENDOR").isPrefixOf (ascii "BEGIN-VENDOR") = true by decide), if_pos isKeyword,
    if_neg long]

theorem parseFields_endVendor (parser : DictParser) (rest : List Bytes) :
    parser.parseFields (ascii "END-VENDOR" :: rest) = some parser.endVendor := by
  have isKeyword : (ascii "END-VENDOR").isPrefixOf (ascii "END-VENDOR") = true := by decide
  unfold parseFields
  simp only [List.getD_cons_zero, List.getD_cons_succ]
  rw [if_neg (show ¬ (ascii "ATTRIBUTE").isPrefixOf (ascii "END-VENDOR") = true by decide),
    if_neg (show ¬ (ascii "VALUE").isPrefixOf (ascii "END-VENDOR") = true by decide),
    if_neg (show ¬ (ascii "VENDOR").isPrefixOf (ascii "END-VENDOR") = true by decide),
    if_neg (show ¬ (ascii "BEGIN-VENDOR").isPrefixOf (ascii "END-VENDOR") = true by decide),
    if_pos isKeyword]

/-- What becomes of a number in the range of `int`. -/
theorem map_stoi {Out : Type} {word : Bytes} {number : Nat} (digits : Digits word number)
    (change : Int -> Out) :
    (stoi word).map change = if number < intLimit then some (change number) else none := by
  rw [stoi_of_digits digits]
  by_cases small : number < intLimit
  · rw [if_pos small, if_pos small]
    rfl
  · rw [if_neg small, if_neg small]
    rfl

/-- A line has the effect of its entry. -/
theorem parseLine_of_written {entry : DictEntry} {line : Bytes} (written : entry.WrittenAs line)
    (leftover : Nat -> Bytes) (parser : DictParser) :
    parseLine leftover parser line = parser.enter entry := by
  cases written with
  | attributeLine spaced digits =>
      rcases parseLine_of_spaced spaced (by decide) leftover parser with ⟨more, same⟩
      rw [same, List.cons_append, List.cons_append, List.cons_append, parseFields_attribute,
        map_stoi digits, ofInt8]
      rfl
  | valueLine spaced digits =>
      rcases parseLine_of_spaced spaced (by decide) leftover parser with ⟨more, same⟩
      rw [same, List.cons_append, List.cons_append, List.cons_append, parseFields_value,
        map_stoi digits, ofInt32]
      rfl
  | vendorLine spaced digits =>
      rcases parseLine_of_spaced spaced (by decide) leftover parser with ⟨more, same⟩
      rw [same, List.cons_append, List.cons_append, parseFields_vendor, map_stoi digits, ofInt32]
      rfl
  | beginVendor spaced =>
      rcases parseLine_of_spaced spaced (by decide) leftover parser with ⟨more, same⟩
      rw [same, List.cons_append, parseFields_beginVendor]
      rfl
  | endVendor spaced =>
      rcases parseLine_of_spaced spaced (by decide) leftover parser with ⟨more, same⟩
      rw [same, parseFields_endVendor]
      rfl
  | comment blanks => exact parseLine_comment blanks _ leftover parser
  | blank blanks => exact parseLine_blank blanks leftover parser

theorem parseLines_of_written {entries : List DictEntry} {lines : List Bytes}
    (written : List.Forall₂ DictEntry.WrittenAs entries lines) (leftover : Nat -> Nat -> Bytes)
    (number : Nat) (parser : DictParser) :
    parseLines leftover number parser lines = parser.enterAll entries := by
  induction written generalizing number parser with
  | nil => rfl
  | @cons entry line entries lines first _ inductionHypothesis =>
      unfold parseLines enterAll
      rw [parseLine_of_written first, List.foldlM_cons]
      exact congrArg (Option.bind (parser.enter entry)) (funext (fun next =>
        inductionHypothesis (number + 1) next))

/-- A dictionary has the effect of its entries. -/
theorem parseFreeradDict_of_written {entries : List DictEntry} {text : Bytes}
    (written : WrittenText entries text) (leftover : Nat -> Nat -> Bytes) (parser : DictParser) :
    parseFreeradDict leftover parser text = parser.endVendor.enterAll entries :=
  parseLines_of_written written leftover 0 _

end DictParser

end Pppcpd
