import Mathlib.Data.List.Sort

namespace Pppcpd
namespace Foundation

/-!
# Ordered maps as lists

The entries of an ordered map container in the order of their keys.  `emplace`
keeps the entry of a key that is already there, and `alter` first makes an
empty one where there is none, as indexing such a container does.
-/

namespace OrderedMap

variable {Key Value : Type*} [DecidableEq Key] (before : Key -> Key -> Bool)

/-- Insert an entry in front of the keys it comes before, unless its key is
already there. -/
def emplace (key : Key) (value : Value) (entries : List (Key × Value)) : List (Key × Value) :=
  if entries.any (fun entry => entry.1 == key) then entries
  else entries.orderedInsert (fun first second => before first.1 second.1 = true) (key, value)

/-- Change the value of a key, which is made when it is not there. -/
def alter (key : Key) (made : Value) (change : Value -> Value) (entries : List (Key × Value)) :
    List (Key × Value) :=
  (emplace before key made entries).map (fun entry =>
    if entry.1 = key then (entry.1, change entry.2) else entry)

variable {before}

/-- A key is there. -/
theorem any_key_iff {key : Key} {entries : List (Key × Value)} :
    (entries.any (fun entry => entry.1 == key)) = true ↔ ∃ value, (key, value) ∈ entries := by
  rw [List.any_eq_true]
  constructor
  · rintro ⟨entry, member, same⟩
    exact ⟨entry.2, beq_iff_eq.mp same ▸ member⟩
  · rintro ⟨value, member⟩
    exact ⟨_, member, beq_self_eq_true key⟩

/-- An entry whose key is there is not inserted. -/
theorem emplace_of_mem {key : Key} {old : Value} {entries : List (Key × Value)}
    (member : (key, old) ∈ entries) (value : Value) : emplace before key value entries = entries :=
  if_pos (any_key_iff.mpr ⟨old, member⟩)

theorem mem_emplace_iff {key : Key} {value : Value} {entries : List (Key × Value)}
    {entry : Key × Value} : entry ∈ emplace before key value entries ↔
      entry ∈ entries ∨ entry = (key, value) ∧ forall old, (key, old) ∉ entries := by
  unfold emplace
  by_cases there : (entries.any (fun entry => entry.1 == key)) = true
  · rw [if_pos there]
    rcases any_key_iff.mp there with ⟨old, member⟩
    exact ⟨.inl, fun either => either.resolve_right (fun new => new.2 old member)⟩
  · rw [if_neg there, List.mem_orderedInsert]
    have fresh : forall old, (key, old) ∉ entries :=
      fun old member => there (any_key_iff.mpr ⟨old, member⟩)
    constructor
    · rintro (new | old)
      · exact .inr ⟨new, fresh⟩
      · exact .inl old
    · rintro (old | ⟨new, _⟩)
      · exact .inr old
      · exact .inl new

/-- The key of an insertion is there afterwards. -/
theorem key_mem_emplace (key : Key) (value : Value) (entries : List (Key × Value)) :
    ∃ held, (key, held) ∈ emplace before key value entries := by
  by_cases there : ∃ old, (key, old) ∈ entries
  · rcases there with ⟨old, member⟩
    exact ⟨old, mem_emplace_iff.mpr (.inl member)⟩
  · exact ⟨value, mem_emplace_iff.mpr (.inr ⟨rfl, fun old member => there ⟨old, member⟩⟩)⟩

theorem lookup_cons_eq (key : Key) (value : Value) (entries : List (Key × Value)) (other : Key) :
    ((key, value) :: entries).lookup other =
      if other = key then some value else entries.lookup other := by
  rw [List.lookup_cons]
  by_cases same : other = key
  · rw [if_pos same, same, beq_self_eq_true]
  · rw [if_neg same, beq_eq_false_iff_ne.mpr same]

theorem lookup_eq_none_of_fresh {key : Key} {entries : List (Key × Value)}
    (fresh : forall old, (key, old) ∉ entries) : entries.lookup key = none := by
  induction entries with
  | nil => rfl
  | cons first rest inductionHypothesis =>
      have different : key ≠ first.1 := by
        intro same
        exact fresh first.2 (same ▸ List.mem_cons_self)
      rw [lookup_cons_eq, if_neg different]
      exact inductionHypothesis (fun old member => fresh old (List.mem_cons_of_mem _ member))

theorem lookup_orderedInsert {key : Key} {value : Value} {entries : List (Key × Value)}
    (fresh : forall old, (key, old) ∉ entries) (other : Key) :
    (entries.orderedInsert (fun first second => before first.1 second.1 = true) (key, value)).lookup
        other = if other = key then some value else entries.lookup other := by
  induction entries with
  | nil =>
      rw [List.orderedInsert_nil]
      exact lookup_cons_eq key value [] other
  | cons first rest inductionHypothesis =>
      have later := inductionHypothesis (fun old member => fresh old (List.mem_cons_of_mem _ member))
      have different : key ≠ first.1 := by
        intro same
        exact fresh first.2 (same ▸ List.mem_cons_self)
      rw [List.orderedInsert_cons]
      split
      · exact lookup_cons_eq key value _ other
      · rw [lookup_cons_eq first.1 first.2, lookup_cons_eq first.1 first.2, later]
        by_cases isFirst : other = first.1
        · rw [if_pos isFirst, if_pos isFirst, isFirst, if_neg (Ne.symm different)]
        · rw [if_neg isFirst, if_neg isFirst]

/-- What is found after an insertion. -/
theorem lookup_emplace (key : Key) (value : Value) (entries : List (Key × Value)) (other : Key) :
    (emplace before key value entries).lookup other =
      if other = key then some ((entries.lookup key).getD value) else entries.lookup other := by
  unfold emplace
  by_cases there : (entries.any (fun entry => entry.1 == key)) = true
  · rw [if_pos there]
    by_cases same : other = key
    · have found : (entries.lookup key).isSome = true := by
        rw [List.lookup_isSome_iff]
        rcases any_key_iff.mp there with ⟨old, member⟩
        exact ⟨_, member, beq_self_eq_true key⟩
      rcases Option.isSome_iff_exists.mp found with ⟨old, isOld⟩
      rw [if_pos same, same, isOld]
      rfl
    · rw [if_neg same]
  · rw [if_neg there]
    have fresh : forall old, (key, old) ∉ entries :=
      fun old member => there (any_key_iff.mpr ⟨old, member⟩)
    rw [lookup_orderedInsert fresh, lookup_eq_none_of_fresh fresh]
    rfl

theorem lookup_map (key : Key) (change : Value -> Value) (entries : List (Key × Value))
    (other : Key) :
    (entries.map (fun entry => if entry.1 = key then (entry.1, change entry.2) else entry)).lookup
        other = if other = key then (entries.lookup key).map change else entries.lookup other := by
  induction entries with
  | nil => simp
  | cons first rest inductionHypothesis =>
      rw [List.map_cons]
      by_cases changed : first.1 = key
      · rw [if_pos changed, lookup_cons_eq, inductionHypothesis, changed, lookup_cons_eq first.1 first.2,
          lookup_cons_eq first.1 first.2, changed]
        by_cases same : other = key
        · rw [if_pos same, if_pos same, if_pos rfl]
          rfl
        · rw [if_neg same, if_neg same, if_neg same, if_neg same]
      · rw [if_neg changed, lookup_cons_eq first.1 first.2, inductionHypothesis,
          lookup_cons_eq first.1 first.2, lookup_cons_eq first.1 first.2, if_neg (Ne.symm changed)]
        by_cases same : other = key
        · rw [if_pos same, if_pos same, same, if_neg (Ne.symm changed)]
        · rw [if_neg same, if_neg same]

/-- What is found after a change of one key. -/
theorem lookup_alter (key : Key) (made : Value) (change : Value -> Value)
    (entries : List (Key × Value)) (other : Key) :
    (alter before key made change entries).lookup other =
      if other = key then some (change ((entries.lookup key).getD made))
      else entries.lookup other := by
  unfold alter
  rw [lookup_map, lookup_emplace, lookup_emplace, if_pos rfl]
  by_cases same : other = key
  · rw [if_pos same, if_pos same]
    rfl
  · rw [if_neg same, if_neg same, if_neg same]

end OrderedMap

end Foundation
end Pppcpd
