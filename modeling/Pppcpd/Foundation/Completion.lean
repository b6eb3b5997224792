import Pppcpd.Foundation.Prefixes
import Mathlib.Data.List.Induction

namespace Pppcpd
namespace Foundation

/-!
# Completions

Entries are words with a value each.  What comes next under a path are the tokens that
some entry goes on with, each once, and an end for each entry that ends there.  A reader
completes a sequence of tokens: those that continue an entry lead on, each other one
offers what comes next and begins with it, and when nothing was offered all that comes
next is.
-/

variable {Token Value : Type*} [DecidableEq Token]

/-- Add what comes next in an entry. -/
def addHead (heads : List (Option Token)) (entry : List Token × Value) : List (Option Token) :=
  match entry.1 with
  | [] => heads ++ [none]
  | token :: _ => if heads.contains (some token) then heads else heads ++ [some token]

/-- What comes next in the entries, in the order in which it comes first. -/
def heads (entries : List (List Token × Value)) : List (Option Token) := entries.foldl addHead []

theorem heads_append (entries : List (List Token × Value)) (entry : List Token × Value) :
    heads (entries ++ [entry]) = addHead (heads entries) entry := by
  unfold heads
  rw [List.foldl_append]
  rfl

theorem heads_append_end (entries : List (List Token × Value)) (value : Value) :
    heads (entries ++ [([], value)]) = heads entries ++ [none] := heads_append entries _

theorem heads_append_known {entries : List (List Token × Value)} {first : Token}
    (known : some first ∈ heads entries) (rest : List Token) (value : Value) :
    heads (entries ++ [(first :: rest, value)]) = heads entries := by
  rw [heads_append]
  exact if_pos (List.contains_iff_mem.mpr known)

theorem heads_append_new {entries : List (List Token × Value)} {first : Token}
    (new : some first ∉ heads entries) (rest : List Token) (value : Value) :
    heads (entries ++ [(first :: rest, value)]) = heads entries ++ [some first] := by
  rw [heads_append]
  exact if_neg (fun known => new (List.contains_iff_mem.mp known))

theorem mem_heads_some {entries : List (List Token × Value)} {token : Token} :
    some token ∈ heads entries ↔ under [token] entries ≠ [] := by
  induction entries using List.reverseRecOn with
  | nil => exact ⟨fun member => absurd member List.not_mem_nil, fun some_entry => absurd rfl some_entry⟩
  | append_singleton entries entry inductionHypothesis =>
      rw [under_append]
      rcases entry with ⟨word, value⟩
      cases word with
      | nil =>
          rw [heads_append_end, under_empty_word, List.append_nil, ← inductionHypothesis]
          simp
      | cons first rest =>
          rw [under_word]
          by_cases known : some first ∈ heads entries
          · rw [heads_append_known known, inductionHypothesis]
            by_cases same : first = token
            · have something := inductionHypothesis.mp (same ▸ known)
              exact iff_of_true something (List.append_ne_nil_of_left_ne_nil something _)
            · rw [if_neg same, List.append_nil]
          · rw [heads_append_new known, List.mem_append, inductionHypothesis]
            by_cases same : first = token
            · simp [same]
            · simp [same, Ne.symm same]

theorem mem_heads_none {entries : List (List Token × Value)} :
    none ∈ heads entries ↔ ∃ value, ([], value) ∈ entries := by
  induction entries using List.reverseRecOn with
  | nil =>
      refine ⟨fun member => absurd member List.not_mem_nil, ?_⟩
      rintro ⟨value, member⟩
      exact absurd member List.not_mem_nil
  | append_singleton entries entry inductionHypothesis =>
      rcases entry with ⟨word, value⟩
      cases word with
      | nil =>
          rw [heads_append_end]
          refine iff_of_true (List.mem_append_right _ (List.mem_singleton_self _)) ?_
          exact ⟨value, List.mem_append_right _ (List.mem_singleton_self _)⟩
      | cons first rest =>
          have same : none ∈ heads (entries ++ [(first :: rest, value)]) ↔ none ∈ heads entries := by
            by_cases known : some first ∈ heads entries
            · rw [heads_append_known known]
            · rw [heads_append_new known]
              simp
          rw [same, inductionHypothesis]
          simp

/-- A token comes once. -/
theorem count_heads_le (entries : List (List Token × Value)) (token : Token) :
    (heads entries).count (some token) ≤ 1 := by
  induction entries using List.reverseRecOn with
  | nil => exact Nat.zero_le 1
  | append_singleton entries entry inductionHypothesis =>
      rcases entry with ⟨word, value⟩
      cases word with
      | nil =>
          rw [heads_append_end, List.count_append]
          simpa using inductionHypothesis
      | cons first rest =>
          by_cases known : some first ∈ heads entries
          · rw [heads_append_known known]
            exact inductionHypothesis
          · rw [heads_append_new known, List.count_append]
            by_cases same : first = token
            · rw [← same, List.count_eq_zero.mpr known]
              simp
            · rw [List.count_singleton, if_neg (by simp [same])]
              exact inductionHypothesis

/-- A search among the heads finds one token only. -/
theorem filter_heads_eq_singleton_iff {entries : List (List Token × Value)} {token : Token}
    {test : Option Token -> Bool} (member : some token ∈ heads entries)
    (passes : test (some token) = true) :
    (heads entries).filter test = [some token] ↔
      ∀ head ∈ heads entries, test head = true -> head = some token := by
  constructor
  · intro only head isHead found
    exact List.mem_singleton.mp (only ▸ List.mem_filter.mpr ⟨isHead, found⟩)
  · intro alone
    have all : ∀ head ∈ (heads entries).filter test, head = some token := fun head isHead =>
      alone head (List.mem_filter.mp isHead).1 (List.mem_filter.mp isHead).2
    have copies := List.eq_replicate_of_mem all
    have once : ((heads entries).filter test).length = 1 := by
      refine Nat.le_antisymm ?_ (List.length_pos_of_mem (List.mem_filter.mpr ⟨member, passes⟩))
      rw [← List.count_eq_length.mpr (fun head isHead => (all head isHead).symm)]
      exact (List.filter_sublist.count_le (some token)).trans (count_heads_le entries token)
    rw [copies, once]
    rfl

theorem continues_iff {path : List Token} {token : Token} {entries : List (List Token × Value)} :
    Continues entries path token ↔ under (path ++ [token]) entries ≠ [] :=
  (not_iff_comm.mp not_continues_iff).symm

/-- What comes next under a path, of some entry. -/
def Follows (entries : List (List Token × Value)) (path : List Token) : Option Token -> Prop
  | some token => Continues entries path token
  | none => ∃ value, (path, value) ∈ entries

theorem mem_heads_iff {entries : List (List Token × Value)} {path : List Token} {head : Option Token} :
    head ∈ heads (under path entries) ↔ Follows entries path head := by
  cases head with
  | some token =>
      rw [mem_heads_some, under_under]
      exact continues_iff.symm
  | none =>
      rw [mem_heads_none]
      refine exists_congr (fun value => ?_)
      rw [mem_under_iff, List.append_nil]

/-- The completions of a sequence of tokens behind a path, after those that are given: a
path and what comes next there. -/
def complete (begins : Token -> Option Token -> Bool) (entries : List (List Token × Value)) :
    List Token -> List Token -> List (List Token × Option Token) -> List (List Token × Option Token)
  | path, [], offered =>
      if offered.isEmpty then (heads (under path entries)).map (fun head => (path, head))
      else offered
  | path, token :: rest, offered =>
      if (under (path ++ [token]) entries).isEmpty then
        complete begins entries path rest (offered ++
          ((heads (under path entries)).filter (begins token)).map (fun head => (path, head)))
      else complete begins entries (path ++ [token]) rest offered

variable {begins : Token -> Option Token -> Bool} {entries : List (List Token × Value)}
  {path tokens : List Token} {offered : List (List Token × Option Token)}

/-- A token that continues no entry offers what comes next and begins with it. -/
inductive Offers (begins : Token -> Option Token -> Bool) (entries : List (List Token × Value)) :
    List Token -> List Token -> List Token × Option Token -> Prop
  | here {path rest : List Token} {token : Token} {head : Option Token} :
      ¬ Continues entries path token -> Follows entries path head -> begins token head = true ->
      Offers begins entries path (token :: rest) (path, head)
  | keep {path rest : List Token} {token : Token} {offer : List Token × Option Token} :
      Continues entries path token -> Offers begins entries (path ++ [token]) rest offer ->
      Offers begins entries path (token :: rest) offer
  | stray {path rest : List Token} {token : Token} {offer : List Token × Option Token} :
      ¬ Continues entries path token -> Offers begins entries path rest offer ->
      Offers begins entries path (token :: rest) offer

theorem complete_keep {token : Token} {rest : List Token} (continues : Continues entries path token) :
    complete begins entries path (token :: rest) offered =
      complete begins entries (path ++ [token]) rest offered :=
  if_neg (fun empty => continues_iff.mp continues (List.isEmpty_iff.mp empty))

theorem complete_stray {token : Token} {rest : List Token} (stops : ¬ Continues entries path token) :
    complete begins entries path (token :: rest) offered =
      complete begins entries path rest (offered ++
        ((heads (under path entries)).filter (begins token)).map (fun head => (path, head))) :=
  if_pos (List.isEmpty_iff.mpr (not_continues_iff.mp stops))

theorem mem_offers_iff {token : Token} {offer : List Token × Option Token} :
    offer ∈ ((heads (under path entries)).filter (begins token)).map (fun head => (path, head)) ↔
      offer.1 = path ∧ Follows entries path offer.2 ∧ begins token offer.2 = true := by
  rw [List.mem_map]
  constructor
  · rintro ⟨head, member, same⟩
    rw [← same]
    exact ⟨rfl, mem_heads_iff.mp (List.mem_filter.mp member).1, (List.mem_filter.mp member).2⟩
  · rintro ⟨isPath, follows, matching⟩
    refine ⟨offer.2, List.mem_filter.mpr ⟨mem_heads_iff.mpr follows, matching⟩, ?_⟩
    rw [← isPath]

/-- The completions of a sequence are those that a token offers, and when none does so,
all that comes next behind the word that is left of the sequence. -/
theorem mem_complete_iff {offer : List Token × Option Token} :
    offer ∈ complete begins entries path tokens offered ↔
      offer ∈ offered ∨ Offers begins entries path tokens offer ∨
        offered = [] ∧ (forall other, ¬ Offers begins entries path tokens other) ∧
          ∃ word, Strays entries path word tokens ∧ offer.1 = path ++ word ∧
            Follows entries offer.1 offer.2 := by
  induction tokens generalizing path offered with
  | nil =>
      have silent : forall other, ¬ Offers begins entries path [] other := fun other offers => nomatch offers
      unfold complete
      by_cases nothing : offered = []
      · rw [nothing, if_pos List.isEmpty_nil, List.mem_map]
        constructor
        · rintro ⟨head, member, same⟩
          rw [← same]
          exact .inr (.inr ⟨rfl, silent, [], .done, (List.append_nil path).symm, mem_heads_iff.mp member⟩)
        · rintro (none | offers | ⟨_, _, word, strays, isPath, follows⟩)
          · exact absurd none List.not_mem_nil
          · exact absurd offers (silent offer)
          · cases strays
            rw [List.append_nil] at isPath
            rw [isPath] at follows
            refine ⟨offer.2, mem_heads_iff.mpr follows, ?_⟩
            rw [← isPath]
      · rw [if_neg (fun empty => nothing (List.isEmpty_iff.mp empty))]
        constructor
        · exact .inl
        · rintro (member | offers | ⟨none, _⟩)
          · exact member
          · exact absurd offers (silent offer)
          · exact absurd none nothing
  | cons token rest inductionHypothesis =>
      by_cases continues : Continues entries path token
      · rw [complete_keep continues, inductionHypothesis]
        have step (other : List Token × Option Token) : Offers begins entries (path ++ [token]) rest other ↔
            Offers begins entries path (token :: rest) other := by
          refine ⟨.keep continues, fun offers => ?_⟩
          cases offers with
          | here stops _ _ => exact absurd continues stops
          | keep _ later => exact later
          | stray stops _ => exact absurd continues stops
        refine or_congr Iff.rfl (or_congr (step offer) (and_congr Iff.rfl (and_congr ?_ ?_)))
        · exact forall_congr' (fun other => not_congr (step other))
        · constructor
          · rintro ⟨word, strays, isPath, follows⟩
            exact ⟨token :: word, .keep continues strays, by rw [isPath, List.append_assoc]; rfl, follows⟩
          · rintro ⟨word, strays, isPath, follows⟩
            cases strays with
            | keep _ later => exact ⟨_, later, by rw [isPath, List.append_assoc]; rfl, follows⟩
            | stray stops _ => exact absurd continues stops
      · rw [complete_stray continues, inductionHypothesis, List.mem_append, mem_offers_iff]
        have step (other : List Token × Option Token) : Offers begins entries path (token :: rest) other ↔
            (other.1 = path ∧ Follows entries path other.2 ∧ begins token other.2 = true) ∨
              Offers begins entries path rest other := by
          constructor
          · intro offers
            cases offers with
            | here _ follows matching => exact .inl ⟨rfl, follows, matching⟩
            | keep goes _ => exact absurd goes continues
            | stray _ later => exact .inr later
          · rcases other with ⟨otherPath, head⟩
            rintro (⟨isPath, follows, matching⟩ | later)
            · cases isPath
              exact .here continues follows matching
            · exact .stray continues later
        have nothing : offered ++ ((heads (under path entries)).filter (begins token)).map
              (fun head => (path, head)) = [] ↔
            offered = [] ∧ forall other : List Token × Option Token,
              ¬ (other.1 = path ∧ Follows entries path other.2 ∧ begins token other.2 = true) := by
          rw [List.append_eq_nil_iff]
          refine and_congr Iff.rfl (List.eq_nil_iff_forall_not_mem.trans ?_)
          exact forall_congr' (fun other => not_congr mem_offers_iff)
        have words (word : List Token) : Strays entries path word (token :: rest) ↔
            Strays entries path word rest := by
          constructor
          · intro strays
            cases strays with
            | keep goes _ => exact absurd goes continues
            | stray _ later => exact later
          · exact .stray continues
        simp only [step, nothing, words, not_or, forall_and]
        tauto

/-- A word that leads to an entry is followed. -/
theorem complete_of_leads {word : List Token} (leads : ∃ entry ∈ entries, path ++ word <+: entry.1) :
    complete begins entries path (word ++ tokens) offered =
      complete begins entries (path ++ word) tokens offered := by
  induction word generalizing path with
  | nil => rw [List.append_nil, List.nil_append]
  | cons token rest inductionHypothesis =>
      rcases leads with ⟨entry, member, begun⟩
      rw [List.append_cons path token rest] at begun
      rw [List.cons_append, complete_keep ⟨entry, member, (List.prefix_append _ rest).trans begun⟩,
        inductionHypothesis ⟨entry, member, begun⟩, ← List.append_cons]

end Foundation
end Pppcpd
