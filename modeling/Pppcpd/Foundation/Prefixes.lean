import Mathlib.Data.List.Infix
import Mathlib.Data.List.Nodup

namespace Pppcpd
namespace Foundation

/-!
# Words with common beginnings

Entries are words with a value each.  `under` keeps the entries under a path and
takes the path off their words.  A reader that follows a sequence of tokens may take
those that continue no entry as if they were not there: `Strays` says which word is
then left of the sequence, and `reach` which entries are left under it.
-/

variable {Token Value : Type*} [DecidableEq Token]

/-- The entries under a path, without the path. -/
def under (path : List Token) (entries : List (List Token × Value)) : List (List Token × Value) :=
  entries.filterMap (fun entry =>
    if path <+: entry.1 then some (entry.1.drop path.length, entry.2) else none)

theorem mem_under_iff {path word : List Token} {value : Value} {entries : List (List Token × Value)} :
    (word, value) ∈ under path entries ↔ (path ++ word, value) ∈ entries := by
  unfold under
  rw [List.mem_filterMap]
  constructor
  · rintro ⟨entry, member, found⟩
    split at found
    · rename_i begins
      rcases begins with ⟨rest, isWord⟩
      cases found
      rw [← isWord, List.drop_left, isWord]
      exact member
    · cases found
  · intro member
    refine ⟨_, member, ?_⟩
    rw [if_pos (List.prefix_append path word), List.drop_left]

theorem under_nil (entries : List (List Token × Value)) : under [] entries = entries := by
  unfold under
  refine (List.filterMap_congr (fun entry _ => ?_)).trans List.filterMap_some
  rw [if_pos List.nil_prefix]
  rfl

theorem under_append (path : List Token) (entries more : List (List Token × Value)) :
    under path (entries ++ more) = under path entries ++ under path more :=
  List.filterMap_append

/-- One token more. -/
theorem under_under (path : List Token) (token : Token) (entries : List (List Token × Value)) :
    under [token] (under path entries) = under (path ++ [token]) entries := by
  unfold under
  rw [List.filterMap_filterMap]
  refine List.filterMap_congr (fun entry _ => ?_)
  by_cases begins : path <+: entry.1
  · rcases begins with ⟨rest, isWord⟩
    rw [if_pos ⟨rest, isWord⟩, Option.bind_some]
    dsimp only
    rw [← isWord, List.drop_left]
    by_cases next : [token] <+: rest
    · rw [if_pos next, if_pos ((List.prefix_append_right_inj path).mpr next), List.length_append,
        ← List.drop_drop, List.drop_left]
    · rw [if_neg next, if_neg (fun whole => next ((List.prefix_append_right_inj path).mp whole))]
  · rw [if_neg begins, if_neg (fun whole => begins ((List.prefix_append path [token]).trans whole))]
    rfl

/-- Some entry goes on with the token behind the path. -/
def Continues (entries : List (List Token × Value)) (path : List Token) (token : Token) : Prop :=
  ∃ entry ∈ entries, path ++ [token] <+: entry.1

theorem under_eq_nil_iff {path : List Token} {entries : List (List Token × Value)} :
    under path entries = [] ↔ ∀ entry ∈ entries, ¬ path <+: entry.1 := by
  unfold under
  rw [List.filterMap_eq_nil_iff]
  refine forall₂_congr (fun entry _ => ?_)
  constructor
  · intro nothing begins
    rw [if_pos begins] at nothing
    cases nothing
  · exact fun apart => if_neg apart

theorem not_continues_iff {path : List Token} {token : Token} {entries : List (List Token × Value)} :
    ¬ Continues entries path token ↔ under (path ++ [token]) entries = [] := by
  rw [under_eq_nil_iff]
  unfold Continues
  constructor
  · exact fun none entry member begins => none ⟨entry, member, begins⟩
  · rintro apart ⟨entry, member, begins⟩
    exact apart entry member begins

/-- A sequence of tokens is a word with others strewn in, each of which continues no
entry where it stands. -/
inductive Strays (entries : List (List Token × Value)) :
    List Token -> List Token -> List Token -> Prop
  | done {path : List Token} : Strays entries path [] []
  | keep {path word tokens : List Token} {token : Token} : Continues entries path token ->
      Strays entries (path ++ [token]) word tokens ->
      Strays entries path (token :: word) (token :: tokens)
  | stray {path word tokens : List Token} {token : Token} : ¬ Continues entries path token ->
      Strays entries path word tokens -> Strays entries path word (token :: tokens)

omit [DecidableEq Token] in
/-- The word that is left of a sequence is its own. -/
theorem Strays.unique {entries : List (List Token × Value)} {path word other tokens : List Token}
    (strays : Strays entries path word tokens) (again : Strays entries path other tokens) :
    word = other := by
  induction strays generalizing other with
  | done =>
      cases again
      rfl
  | keep continues _ inductionHypothesis =>
      cases again with
      | keep _ rest => exact congrArg (List.cons _) (inductionHypothesis rest)
      | stray stops _ => exact absurd continues stops
  | stray stops _ inductionHypothesis =>
      cases again with
      | keep continues _ => exact absurd continues stops
      | stray _ rest => exact inductionHypothesis rest

omit [DecidableEq Token] in
/-- A word that leads to an entry has no stray token. -/
theorem strays_self {entries : List (List Token × Value)} {path word : List Token}
    (leads : ∃ entry ∈ entries, path ++ word <+: entry.1) : Strays entries path word word := by
  induction word generalizing path with
  | nil => exact .done
  | cons token rest inductionHypothesis =>
      rcases leads with ⟨entry, member, begins⟩
      have split : path ++ token :: rest = path ++ [token] ++ rest := List.append_cons path token rest
      rw [split] at begins
      exact .keep ⟨entry, member, (List.prefix_append _ rest).trans begins⟩
        (inductionHypothesis ⟨entry, member, begins⟩)

/-- The entries that are left under a sequence of tokens. -/
def reach : List Token -> List (List Token × Value) -> List (List Token × Value)
  | [], entries => entries
  | token :: tokens, entries =>
      if (under [token] entries).isEmpty then reach tokens entries
      else reach tokens (under [token] entries)

/-- They are the entries under the word that is left. -/
theorem exists_strays (entries : List (List Token × Value)) (path tokens : List Token) :
    ∃ word, Strays entries path word tokens ∧
      reach tokens (under path entries) = under (path ++ word) entries := by
  induction tokens generalizing path with
  | nil => exact ⟨[], .done, by rw [List.append_nil]; rfl⟩
  | cons token rest inductionHypothesis =>
      unfold reach
      rw [under_under]
      by_cases nothing : under (path ++ [token]) entries = []
      · rcases inductionHypothesis path with ⟨word, strays, reached⟩
        refine ⟨word, .stray (not_continues_iff.mpr nothing) strays, ?_⟩
        rw [if_pos (List.isEmpty_iff.mpr nothing)]
        exact reached
      · rcases inductionHypothesis (path ++ [token]) with ⟨word, strays, reached⟩
        have continues : Continues entries path token := by
          by_contra stops
          exact nothing (not_continues_iff.mp stops)
        refine ⟨token :: word, .keep continues strays, ?_⟩
        rw [if_neg (fun empty => nothing (List.isEmpty_iff.mp empty)), reached, List.append_assoc]
        rfl

theorem Strays.reach_eq {entries : List (List Token × Value)} {word tokens : List Token}
    (strays : Strays entries [] word tokens) : reach tokens entries = under word entries := by
  rcases exists_strays entries [] tokens with ⟨other, again, reached⟩
  rw [under_nil, List.nil_append] at reached
  rw [reached, strays.unique again]

/-- No other entry begins with the word of this one. -/
def Leaf (entries : List (List Token × Value)) (entry : List Token × Value) : Prop :=
  ∀ other ∈ entries, entry.1 <+: other.1 -> other = entry

/-- The word of a leaf has its own entry under it, and nothing else. -/
theorem under_eq_singleton_iff {entries : List (List Token × Value)}
    (distinct : (entries.map Prod.fst).Nodup) {word : List Token} {value : Value} :
    under word entries = [([], value)] ↔ (word, value) ∈ entries ∧ Leaf entries (word, value) := by
  constructor
  · intro only
    have member : ([], value) ∈ under word entries := only ▸ List.mem_singleton_self _
    rw [mem_under_iff, List.append_nil] at member
    refine ⟨member, fun other isEntry begins => ?_⟩
    rcases begins with ⟨rest, isWord⟩
    have here : (rest, other.2) ∈ under word entries :=
      mem_under_iff.mpr (by rw [show word ++ rest = other.1 from isWord]; exact isEntry)
    rw [only] at here
    have same := Prod.mk.inj (List.mem_singleton.mp here)
    rw [same.1, List.append_nil] at isWord
    exact Prod.ext isWord.symm same.2
  · rintro ⟨member, leaf⟩
    rcases List.append_of_mem member with ⟨front, back, parts⟩
    rw [parts, List.map_append, List.map_cons] at distinct
    have apart := List.nodup_middle.mp distinct
    have nothing : forall part : List (List Token × Value),
        (∀ entry ∈ part, entry ∈ entries ∧ entry.1 ≠ word) -> under word part = [] := by
      intro part others
      refine under_eq_nil_iff.mpr (fun entry isPart begins => ?_)
      rcases others entry isPart with ⟨isEntry, different⟩
      exact different (congrArg Prod.fst (leaf entry isEntry begins))
    have fresh := (List.nodup_cons.mp apart).1
    have inFront := nothing front (fun entry isFront => ⟨parts ▸ List.mem_append_left _ isFront,
      fun same => fresh (List.mem_append_left _ (List.mem_map.mpr ⟨entry, isFront, same⟩))⟩)
    have inBack := nothing back (fun entry isBack =>
      ⟨parts ▸ List.mem_append_right _ (List.mem_cons_of_mem _ isBack),
        fun same => fresh (List.mem_append_right _ (List.mem_map.mpr ⟨entry, isBack, same⟩))⟩)
    rw [parts, under_append, inFront, List.nil_append, ← List.singleton_append, under_append, inBack]
    unfold under
    simp

theorem under_word (token : Token) (value : Value) (first : Token) (rest : List Token) :
    under [token] [(first :: rest, value)] = if first = token then [(rest, value)] else [] := by
  by_cases same : first = token
  · rw [if_pos same]
    simp [under, same]
  · rw [if_neg same]
    simp [under, Ne.symm same]

theorem under_empty_word (token : Token) (value : Value) : under [token] [([], value)] = [] := by
  simp [under]

/-! ## Changing the first element with a property -/

section

variable {Item : Type*}

/-- Change the first element with a property. -/
def modifyFirst (test : Item -> Bool) (change : Item -> Item) : List Item -> List Item
  | [] => []
  | item :: rest => if test item then change item :: rest else item :: modifyFirst test change rest

variable {test other : Item -> Bool} {change : Item -> Item}

/-- The changed element is the first with the property still. -/
theorem find?_modifyFirst (keeps : forall item, test (change item) = test item) (items : List Item) :
    (modifyFirst test change items).find? test = (items.find? test).map change := by
  induction items with
  | nil => rfl
  | cons item rest inductionHypothesis =>
      unfold modifyFirst
      cases passes : test item with
      | true =>
          rw [if_pos rfl, List.find?_cons_of_pos passes,
            List.find?_cons_of_pos ((keeps item).trans passes)]
          rfl
      | false =>
          rw [if_neg Bool.false_ne_true, List.find?_cons_of_neg (Bool.eq_false_iff.mp passes),
            List.find?_cons_of_neg (Bool.eq_false_iff.mp passes), inductionHypothesis]

/-- A search that does not see the change finds the same. -/
theorem find?_modifyFirst_of_ne (blind : forall item, test item = true ->
      other item = false ∧ other (change item) = false) (items : List Item) :
    (modifyFirst test change items).find? other = items.find? other := by
  induction items with
  | nil => rfl
  | cons item rest inductionHypothesis =>
      unfold modifyFirst
      split
      · rename_i passes
        rcases blind item passes with ⟨before, after⟩
        rw [List.find?_cons_of_neg (Bool.eq_false_iff.mp before),
          List.find?_cons_of_neg (Bool.eq_false_iff.mp after)]
      · rw [List.find?_cons, List.find?_cons, inductionHypothesis]

/-- A view that does not see the change is the same. -/
theorem map_modifyFirst {View : Type*} {view : Item -> View}
    (blind : forall item, view (change item) = view item) (items : List Item) :
    (modifyFirst test change items).map view = items.map view := by
  induction items with
  | nil => rfl
  | cons item rest inductionHypothesis =>
      unfold modifyFirst
      split
      · rw [List.map_cons, List.map_cons, blind]
      · rw [List.map_cons, List.map_cons, inductionHypothesis]

/-- So does a filter that drops the element before and after the change. -/
theorem filter_modifyFirst {items : List Item} (blind : ∀ item ∈ items, test item = true ->
      other item = false ∧ other (change item) = false) :
    (modifyFirst test change items).filter other = items.filter other := by
  induction items with
  | nil => rfl
  | cons item rest inductionHypothesis =>
      unfold modifyFirst
      split
      · rename_i passes
        rcases blind item List.mem_cons_self passes with ⟨before, after⟩
        rw [List.filter_cons_of_neg (Bool.eq_false_iff.mp before),
          List.filter_cons_of_neg (Bool.eq_false_iff.mp after)]
      · have others := inductionHypothesis (fun later member =>
          blind later (List.mem_cons_of_mem _ member))
        rw [List.filter_cons, List.filter_cons, others]

theorem mem_modifyFirst {items : List Item} {item : Item}
    (member : item ∈ modifyFirst test change items) :
    item ∈ items ∨ ∃ old ∈ items, test old = true ∧ item = change old := by
  induction items with
  | nil => exact absurd member List.not_mem_nil
  | cons first rest inductionHypothesis =>
      unfold modifyFirst at member
      split at member
      · rename_i passes
        rcases List.mem_cons.mp member with same | later
        · exact .inr ⟨first, List.mem_cons_self, passes, same⟩
        · exact .inl (List.mem_cons_of_mem _ later)
      · rcases List.mem_cons.mp member with same | later
        · exact .inl (same ▸ List.mem_cons_self)
        · rcases inductionHypothesis later with old | ⟨old, isOld, changed⟩
          · exact .inl (List.mem_cons_of_mem _ old)
          · exact .inr ⟨old, List.mem_cons_of_mem _ isOld, changed⟩

end

end Foundation
end Pppcpd
