import Mathlib.Data.List.Basic
import Mathlib.Data.List.Induction
import Mathlib.Data.List.Infix

namespace Pppcpd
namespace Foundation

/-!
# Words of a line

A line is cut at every blank, which leaves empty fields between blanks that
follow each other.  Its words are the fields that are not empty.  `Spaced` says
from the other side how words are written with any spacing, and the words that
are read are the words that were written.
-/

variable {Letter : Type*}

/-- The lines that `getline` returns, up to a separator or to the end. -/
def linesOf [DecidableEq Letter] (separator : Letter) : List Letter -> List (List Letter)
  | [] => []
  | letter :: rest =>
      if letter = separator then [] :: linesOf separator rest
      else
        match linesOf separator rest with
        | [] => [[letter]]
        | line :: more => (letter :: line) :: more

/-- Cut a line at every blank. -/
def splitAtBlanks (blank : Letter -> Bool) : List Letter -> List (List Letter)
  | [] => [[]]
  | letter :: rest =>
      if blank letter then [] :: splitAtBlanks blank rest
      else
        match splitAtBlanks blank rest with
        | [] => [[letter]]
        | field :: more => (letter :: field) :: more

/-- The fields that are not empty. -/
def wordsOf (blank : Letter -> Bool) (line : List Letter) : List (List Letter) :=
  (splitAtBlanks blank line).filter (fun field => !field.isEmpty)

/-- A line with these words and any spacing: before and behind a word there are
blanks, and behind it at least one unless the line ends. -/
inductive Spaced (blank : Letter -> Bool) : List (List Letter) -> List Letter -> Prop
  | blanks {spacing : List Letter} : (∀ letter ∈ spacing, blank letter = true) ->
      Spaced blank [] spacing
  | word {spacing word rest : List Letter} {words : List (List Letter)} :
      (∀ letter ∈ spacing, blank letter = true) -> word ≠ [] ->
      (∀ letter ∈ word, blank letter = false) -> (∀ letter ∈ rest.head?, blank letter = true) ->
      Spaced blank words rest -> Spaced blank (word :: words) (spacing ++ (word ++ rest))

variable {blank : Letter -> Bool}

theorem splitAtBlanks_ne_nil (line : List Letter) : splitAtBlanks blank line ≠ [] := by
  cases line with
  | nil => exact List.cons_ne_nil _ _
  | cons letter rest =>
      unfold splitAtBlanks
      split
      · exact List.cons_ne_nil _ _
      · split <;> exact List.cons_ne_nil _ _

theorem splitAtBlanks_blank {letter : Letter} (isBlank : blank letter = true) (rest : List Letter) :
    splitAtBlanks blank (letter :: rest) = [] :: splitAtBlanks blank rest :=
  if_pos isBlank

/-- A letter that is no blank begins the first field. -/
theorem splitAtBlanks_letter {letter : Letter} (isLetter : blank letter = false)
    {rest field : List Letter} {more : List (List Letter)}
    (behind : splitAtBlanks blank rest = field :: more) :
    splitAtBlanks blank (letter :: rest) = (letter :: field) :: more := by
  unfold splitAtBlanks
  rw [if_neg (by rw [isLetter]; decide), behind]

theorem wordsOf_blanks {spacing : List Letter} (isBlank : ∀ letter ∈ spacing, blank letter = true)
    (line : List Letter) : wordsOf blank (spacing ++ line) = wordsOf blank line := by
  induction spacing with
  | nil => rfl
  | cons letter rest inductionHypothesis =>
      have first := isBlank letter List.mem_cons_self
      have others := inductionHypothesis (fun other member => isBlank other (List.mem_cons_of_mem _ member))
      unfold wordsOf at others ⊢
      rw [List.cons_append, splitAtBlanks_blank first]
      exact others

/-- The fields of a word with a blank or the end behind it. -/
theorem splitAtBlanks_word {word : List Letter} (isWord : ∀ letter ∈ word, blank letter = false)
    {rest : List Letter} (ends : ∀ letter ∈ rest.head?, blank letter = true) :
    ∃ more, splitAtBlanks blank (word ++ rest) = word :: more ∧
      more.filter (fun field => !field.isEmpty) = wordsOf blank rest := by
  induction word with
  | nil =>
      cases rest with
      | nil => exact ⟨[], rfl, rfl⟩
      | cons letter rest =>
          have first := ends letter rfl
          refine ⟨splitAtBlanks blank rest, splitAtBlanks_blank first rest, ?_⟩
          unfold wordsOf
          rw [splitAtBlanks_blank first]
          rfl
  | cons letter word inductionHypothesis =>
      rcases inductionHypothesis (fun other member => isWord other (List.mem_cons_of_mem _ member)) with
        ⟨more, fields, others⟩
      exact ⟨more, splitAtBlanks_letter (isWord letter List.mem_cons_self) fields, others⟩

/-- The words that are read are the words that were written. -/
theorem Spaced.wordsOf {words : List (List Letter)} {line : List Letter}
    (spaced : Spaced blank words line) : wordsOf blank line = words := by
  induction spaced with
  | blanks isBlank =>
      have read := wordsOf_blanks isBlank []
      rw [List.append_nil] at read
      exact read
  | word isBlank some_letter isWord ends _ inductionHypothesis =>
      rw [wordsOf_blanks isBlank]
      rcases splitAtBlanks_word isWord ends with ⟨more, fields, others⟩
      unfold Foundation.wordsOf
      rw [fields, List.filter_cons_of_pos, others, inductionHypothesis]
      rw [Bool.not_eq_true', List.isEmpty_eq_false_iff]
      exact some_letter

/-- The first field of a line and what stands behind it. -/
theorem splitAtBlanks_eq_cons {line field : List Letter} {more : List (List Letter)}
    (fields : splitAtBlanks blank line = field :: more) :
    ∃ rest, line = field ++ rest ∧ (∀ letter ∈ field, blank letter = false) ∧
      (∀ letter ∈ rest.head?, blank letter = true) := by
  induction line generalizing field more with
  | nil =>
      have parts := List.cons.inj fields
      rw [← parts.1]
      exact ⟨[], rfl, fun _ member => absurd member List.not_mem_nil, fun _ member => nomatch member⟩
  | cons letter rest inductionHypothesis =>
      by_cases isBlank : blank letter = true
      · rw [splitAtBlanks_blank isBlank] at fields
        rw [← (List.cons.inj fields).1]
        refine ⟨letter :: rest, rfl, fun _ member => absurd member List.not_mem_nil, ?_⟩
        intro other first
        exact Option.some.inj first ▸ isBlank
      · have isLetter : blank letter = false := Bool.eq_false_iff.mpr isBlank
        rcases List.exists_cons_of_ne_nil (splitAtBlanks_ne_nil rest) with ⟨tail, others, behind⟩
        rw [splitAtBlanks_letter isLetter behind] at fields
        rw [← (List.cons.inj fields).1]
        rcases inductionHypothesis behind with ⟨later, parts, isWord, ends⟩
        refine ⟨later, by rw [List.cons_append, ← parts], fun other member => ?_, ends⟩
        rcases List.mem_cons.mp member with same | inTail
        · exact same ▸ isLetter
        · exact isWord other inTail

/-- Blanks in front of a line do not matter. -/
theorem Spaced.cons {words : List (List Letter)} {line : List Letter} {letter : Letter}
    (isBlank : blank letter = true) (spaced : Spaced blank words line) :
    Spaced blank words (letter :: line) := by
  have longer : forall spacing, (∀ other ∈ spacing, blank other = true) ->
      ∀ other ∈ letter :: spacing, blank other = true := by
    intro spacing are other member
    rcases List.mem_cons.mp member with same | before
    · exact same ▸ isBlank
    · exact are other before
  cases spaced with
  | blanks are => exact .blanks (longer _ are)
  | word are some_letter isWord ends rest =>
      rw [← List.cons_append]
      exact .word (longer _ are) some_letter isWord ends rest

/-- Every line is written with its words. -/
theorem spaced_wordsOf (line : List Letter) : Spaced blank (Foundation.wordsOf blank line) line := by
  induction small : line.length using Nat.strong_induction_on generalizing line with
  | _ length inductionHypothesis =>
      cases line with
      | nil => exact .blanks (fun _ member => absurd member List.not_mem_nil)
      | cons letter rest =>
          by_cases isBlank : blank letter = true
          · have later := inductionHypothesis rest.length (by rw [← small]; exact Nat.lt_succ_self _)
              rest rfl
            have same : Foundation.wordsOf blank (letter :: rest) = Foundation.wordsOf blank rest := by
              unfold Foundation.wordsOf
              rw [splitAtBlanks_blank isBlank]
              rfl
            rw [same]
            exact later.cons isBlank
          · rcases List.exists_cons_of_ne_nil (@splitAtBlanks_ne_nil _ blank (letter :: rest)) with
              ⟨field, more, fields⟩
            rcases splitAtBlanks_eq_cons fields with ⟨tail, parts, isWord, ends⟩
            have some_letter : field ≠ [] := by
              intro empty
              rw [empty, List.nil_append] at parts
              rw [← parts] at ends
              exact isBlank (ends letter rfl)
            have shorter : tail.length < length := by
              rw [← small, parts, List.length_append]
              exact Nat.lt_add_of_pos_left (List.length_pos_of_ne_nil some_letter)
            have later := inductionHypothesis tail.length shorter tail rfl
            have spaced : Spaced blank (field :: Foundation.wordsOf blank tail) ([] ++ (field ++ tail)) :=
              .word (fun _ member => absurd member List.not_mem_nil) some_letter isWord ends later
            rw [List.nil_append, ← parts] at spaced
            rw [spaced.wordsOf]
            exact spaced

theorem spaced_iff {words : List (List Letter)} {line : List Letter} :
    Spaced blank words line ↔ Foundation.wordsOf blank line = words :=
  ⟨Spaced.wordsOf, fun same => same ▸ spaced_wordsOf line⟩

instance [DecidableEq Letter] (words : List (List Letter)) (line : List Letter) :
    Decidable (Spaced blank words line) :=
  decidable_of_iff' _ spaced_iff

/-- The first word stands in the line. -/
theorem Spaced.infix {word : List Letter} {words : List (List Letter)} {line : List Letter}
    (spaced : Spaced blank (word :: words) line) : word <:+: line := by
  cases spaced with
  | @word spacing _ rest _ _ _ _ _ _ => exact ⟨spacing, rest, List.append_assoc _ _ _⟩

/-- A line begins with a blank or with its first word. -/
theorem Spaced.head? {word : List Letter} {words : List (List Letter)} {line : List Letter}
    (spaced : Spaced blank (word :: words) line) {letter : Letter} (first : line.head? = some letter) :
    blank letter = true ∨ word.head? = some letter := by
  cases spaced with
  | @word spacing _ rest _ isBlank some_letter _ _ _ =>
      cases spacing with
      | nil =>
          refine .inr ?_
          cases word with
          | nil => exact absurd rfl some_letter
          | cons _ _ => exact first
      | cons other spacing =>
          have same : other = letter := Option.some.inj first
          exact .inl (same ▸ isBlank other List.mem_cons_self)

/-- The first word of a line begins with its first letter that is no blank. -/
theorem wordsOf_letter {spacing : List Letter} (isBlank : ∀ letter ∈ spacing, blank letter = true)
    {letter : Letter} (isLetter : blank letter = false) (rest : List Letter) :
    ∃ word words, wordsOf blank (spacing ++ letter :: rest) = (letter :: word) :: words := by
  rw [wordsOf_blanks isBlank]
  rcases List.exists_cons_of_ne_nil (@splitAtBlanks_ne_nil _ blank rest) with ⟨field, more, behind⟩
  refine ⟨field, more.filter (fun field => !field.isEmpty), ?_⟩
  unfold wordsOf
  rw [splitAtBlanks_letter isLetter behind]
  rfl

/-- Nothing that has a letter stands in a line of blanks. -/
theorem not_infix_of_blanks {spacing text : List Letter}
    (isBlank : ∀ letter ∈ spacing, blank letter = true) {letter : Letter} (member : letter ∈ text)
    (isLetter : blank letter = false) : ¬ text <:+: spacing := by
  intro stands
  rw [isBlank letter (stands.subset member)] at isLetter
  cases isLetter

/-- No letter of a word is a blank. -/
theorem Spaced.plain {words : List (List Letter)} {line : List Letter} (spaced : Spaced blank words line) :
    ∀ word ∈ words, ∀ letter ∈ word, blank letter = false := by
  induction spaced with
  | blanks _ => exact fun word member => absurd member List.not_mem_nil
  | word _ _ isWord _ _ inductionHypothesis =>
      intro word member
      rcases List.mem_cons.mp member with same | later
      · exact same ▸ isWord
      · exact inductionHypothesis word later

/-- A blank parts the fields before it from those behind it. -/
theorem splitAtBlanks_append (line : List Letter) {letter : Letter} (isBlank : blank letter = true)
    (rest : List Letter) :
    splitAtBlanks blank (line ++ letter :: rest) = splitAtBlanks blank line ++ splitAtBlanks blank rest := by
  induction line with
  | nil => exact splitAtBlanks_blank isBlank rest
  | cons first line inductionHypothesis =>
      by_cases firstBlank : blank first = true
      · rw [List.cons_append, splitAtBlanks_blank firstBlank, splitAtBlanks_blank firstBlank,
          inductionHypothesis]
        rfl
      · have isLetter : blank first = false := Bool.eq_false_iff.mpr firstBlank
        rcases List.exists_cons_of_ne_nil (@splitAtBlanks_ne_nil _ blank line) with ⟨field, more, fields⟩
        rw [fields] at inductionHypothesis
        rw [List.cons_append, splitAtBlanks_letter isLetter inductionHypothesis,
          splitAtBlanks_letter isLetter fields]
        rfl

theorem wordsOf_append (line : List Letter) {letter : Letter} (isBlank : blank letter = true)
    (rest : List Letter) :
    wordsOf blank (line ++ letter :: rest) = wordsOf blank line ++ wordsOf blank rest := by
  unfold wordsOf
  rw [splitAtBlanks_append line isBlank, List.filter_append]

theorem wordsOf_word {word : List Letter} (some_letter : word ≠ [])
    (isWord : ∀ letter ∈ word, blank letter = false) : wordsOf blank word = [word] := by
  have spaced : Spaced blank [word] ([] ++ (word ++ [])) :=
    .word (fun _ member => absurd member List.not_mem_nil) some_letter isWord
      (fun _ first => nomatch first) (.blanks (fun _ member => absurd member List.not_mem_nil))
  rw [List.nil_append, List.append_nil] at spaced
  exact spaced.wordsOf

/-- What is written at the end of a line goes on with its last word, which is empty
behind a blank. -/
theorem exists_last_word (line : List Letter) :
    ∃ words last, (last = [] -> wordsOf blank line = words) ∧
      forall more, (∀ letter ∈ more, blank letter = false) -> last ++ more ≠ [] ->
        wordsOf blank (line ++ more) = words ++ [last ++ more] := by
  induction line using List.reverseRecOn with
  | nil => exact ⟨[], [], fun _ => rfl, fun more isWord some_letter => wordsOf_word some_letter isWord⟩
  | append_singleton line letter inductionHypothesis =>
      by_cases isBlank : blank letter = true
      · have before := wordsOf_append line isBlank []
        refine ⟨wordsOf blank line, [], fun _ => ?_, fun more isWord some_letter => ?_⟩
        · rw [before]
          exact List.append_nil _
        · rw [List.append_assoc, List.singleton_append, wordsOf_append line isBlank more]
          exact congrArg _ (wordsOf_word some_letter isWord)
      · rcases inductionHypothesis with ⟨words, last, _, goes⟩
        refine ⟨words, last ++ [letter], fun empty => absurd empty (by simp), fun more isWord _ => ?_⟩
        rw [List.append_assoc, List.append_assoc]
        refine goes ([letter] ++ more) (fun other member => ?_) (by simp)
        rcases List.mem_cons.mp member with same | later
        · exact same ▸ Bool.eq_false_iff.mpr isBlank
        · exact isWord other later

end Foundation
end Pppcpd
