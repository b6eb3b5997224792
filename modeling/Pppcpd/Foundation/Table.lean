import Mathlib.Data.List.AList

namespace Pppcpd
namespace Foundation

/-!
# Finite tables

Mathlib's `AList` is a list of entries with pairwise distinct keys.  `Table`
is its non-dependent case.  The operations added here are those of an ordered
map container that `AList` does not name: insertion that never overwrites,
the first entry with a property, and the first index that is not a key.
-/

abbrev Table (Key Value : Type) := AList (fun _ : Key => Value)

namespace Table

variable {Key Value : Type} [DecidableEq Key]

/-- Insert an entry unless the key is already present.  The flag tells whether
the entry was inserted. -/
def emplace (key : Key) (value : Value) (table : Table Key Value) : Table Key Value × Bool :=
  if key ∈ table then (table, false) else (table.insert key value, true)

/-- The first entry with a property of its key and value. -/
def findEntry (test : Key -> Value -> Bool) (table : Table Key Value) : Option (Key × Value) :=
  (table.entries.find? (fun entry => test entry.1 entry.2)).map (fun entry => (entry.1, entry.2))

/-- Apply a function to the value of a key, if there is one. -/
def modify (key : Key) (change : Value -> Value) (table : Table Key Value) : Table Key Value :=
  match table.lookup key with
  | none => table
  | some value => table.insert key (change value)

/-- A value occurs in the table. -/
def Holds (table : Table Key Value) (value : Value) : Prop :=
  ∃ key, table.lookup key = some value

/-- The values of the table, in the order of its entries. -/
def values (table : Table Key Value) : List Value := table.entries.map Sigma.snd

/-- The table with a function applied to every value. -/
def mapValues {Other : Type} (change : Value -> Other) (table : Table Key Value) :
    Table Key Other where
  entries := table.entries.map (fun entry => ⟨entry.1, change entry.2⟩)
  nodupKeys := by
    have same : (table.entries.map (fun entry => (⟨entry.1, change entry.2⟩ : Sigma fun _ : Key =>
        Other))).keys = table.entries.keys := by
      rw [List.keys, List.map_map]
      rfl
    rw [List.NodupKeys, same]
    exact table.nodupKeys

omit [DecidableEq Key] in
theorem mapValues_mapValues {Other Last : Type} (change : Value -> Other) (again : Other -> Last)
    (table : Table Key Value) :
    (table.mapValues change).mapValues again = table.mapValues (fun value => again (change value)) := by
  apply AList.ext
  simp [mapValues]

omit [DecidableEq Key] in
/-- A function that keeps every value keeps the table, and only such a function does. -/
theorem mapValues_eq_self_iff {change : Value -> Value} {table : Table Key Value} :
    table.mapValues change = table ↔ ∀ value ∈ table.values, change value = value := by
  constructor
  · intro same value member
    rcases List.mem_map.mp member with ⟨entry, listed, equal⟩
    have entries : table.entries.map (fun entry => (⟨entry.1, change entry.2⟩ : Sigma fun _ : Key =>
        Value)) = table.entries.map id := by
      rw [List.map_id]
      exact congrArg AList.entries same
    have kept := List.map_inj_left.mp entries entry listed
    rw [← equal]
    exact eq_of_heq (Sigma.mk.inj kept).2
  · intro kept
    apply AList.ext
    refine (List.map_congr_left fun entry listed => ?_).trans (List.map_id _)
    have same := kept entry.2 (List.mem_map.mpr ⟨entry, listed, rfl⟩)
    simp [same]

theorem lookup_eq_some_iff_mem_entries {table : Table Key Value} {key : Key} {value : Value} :
    table.lookup key = some value ↔ (⟨key, value⟩ : Sigma fun _ : Key => Value) ∈ table.entries :=
  AList.mem_lookup_iff

theorem mem_values_iff {table : Table Key Value} {value : Value} :
    value ∈ table.values ↔ table.Holds value := by
  constructor
  · intro member
    rcases List.mem_map.mp member with ⟨entry, listed, equal⟩
    refine ⟨entry.1, lookup_eq_some_iff_mem_entries.mpr ?_⟩
    rw [← equal]
    exact listed
  · rintro ⟨key, found⟩
    exact List.mem_map.mpr ⟨⟨key, value⟩, lookup_eq_some_iff_mem_entries.mp found, rfl⟩

/-- Where no value has two keys, the values are distinct. -/
theorem nodup_values {table : Table Key Value} (unique : forall key other value,
    table.lookup key = some value -> table.lookup other = some value -> key = other) :
    table.values.Nodup := by
  refine List.Nodup.map_on ?_ table.nodupKeys.nodup
  rintro ⟨key, value⟩ listed ⟨other, same⟩ otherListed equal
  cases equal
  rw [unique key other value (lookup_eq_some_iff_mem_entries.mpr listed)
    (lookup_eq_some_iff_mem_entries.mpr otherListed)]

instance [DecidableEq Value] (table : Table Key Value) (value : Value) :
    Decidable (table.Holds value) :=
  decidable_of_iff (value ∈ table.values) mem_values_iff

/-- What `findEntry` returns is an entry with the property. -/
theorem lookup_of_findEntry {test : Key -> Value -> Bool} {table : Table Key Value}
    {key : Key} {value : Value} (found : findEntry test table = some (key, value)) :
    table.lookup key = some value ∧ test key value = true := by
  rcases Option.map_eq_some_iff.mp found with ⟨entry, first, equal⟩
  have parts := Prod.mk.inj equal
  have member := List.mem_of_find?_eq_some first
  have passes := List.find?_some first
  rw [← parts.1, ← parts.2]
  exact ⟨lookup_eq_some_iff_mem_entries.mpr member, passes⟩

/-- An entry with the property is enough for `findEntry` to return one. -/
theorem findEntry_isSome {test : Key -> Value -> Bool} {table : Table Key Value}
    {key : Key} {value : Value} (found : table.lookup key = some value)
    (passes : test key value = true) : ∃ entry, findEntry test table = some entry := by
  have member := lookup_eq_some_iff_mem_entries.mp found
  have present : (table.entries.find? (fun entry => test entry.1 entry.2)).isSome = true :=
    List.find?_isSome.mpr ⟨⟨key, value⟩, member, passes⟩
  rcases Option.isSome_iff_exists.mp present with ⟨entry, first⟩
  exact ⟨(entry.1, entry.2), by rw [findEntry, first]; rfl⟩

theorem lookup_empty (key : Key) : (∅ : Table Key Value).lookup key = none := rfl

theorem mem_iff_lookup {table : Table Key Value} {key : Key} :
    key ∈ table ↔ ∃ value, table.lookup key = some value := by
  rw [← AList.lookup_isSome, Option.isSome_iff_exists]

theorem not_mem_iff_lookup {table : Table Key Value} {key : Key} :
    key ∉ table ↔ table.lookup key = none :=
  AList.lookup_eq_none.symm

/-- Looking up after an insertion. -/
theorem lookup_insert_eq (key other : Key) (value : Value) (table : Table Key Value) :
    (table.insert key value).lookup other =
      if other = key then some value else table.lookup other := by
  by_cases same : other = key
  · rw [if_pos same, same]
    exact AList.lookup_insert table
  · rw [if_neg same]
    exact AList.lookup_insert_ne same

/-- Looking up after an insertion that does not overwrite. -/
theorem lookup_emplace (table : Table Key Value) (key other : Key) (value : Value) :
    (table.emplace key value).1.lookup other =
      (table.lookup other).or (if other = key then some value else none) := by
  unfold emplace
  by_cases present : key ∈ table
  · rw [if_pos present]
    by_cases same : other = key
    · rcases mem_iff_lookup.mp present with ⟨held, found⟩
      rw [same, found]
      rfl
    · rw [if_neg same, Option.or_none]
  · rw [if_neg present, lookup_insert_eq]
    by_cases same : other = key
    · rw [if_pos same, if_pos same, same, not_mem_iff_lookup.mp present]
      rfl
    · rw [if_neg same, if_neg same, Option.or_none]

/-- The values after an insertion under a new key. -/
theorem holds_insert_of_not_mem {key : Key} {table : Table Key Value} (fresh : key ∉ table)
    (value other : Value) :
    Holds (table.insert key value) other ↔ other = value ∨ table.Holds other := by
  constructor
  · rintro ⟨place, found⟩
    rw [lookup_insert_eq] at found
    split at found
    · exact .inl (Option.some.inj found).symm
    · exact .inr ⟨place, found⟩
  · rintro (same | ⟨place, found⟩)
    · rw [same]
      exact ⟨key, AList.lookup_insert table⟩
    · refine ⟨place, ?_⟩
      have different : place ≠ key := by
        intro same
        rw [same] at found
        exact fresh (mem_iff_lookup.mpr ⟨other, found⟩)
      rw [lookup_insert_eq, if_neg different]
      exact found

/-- Looking up after an erasure. -/
theorem lookup_erase_eq (key other : Key) (table : Table Key Value) :
    (table.erase key).lookup other = if other = key then none else table.lookup other := by
  by_cases same : other = key
  · rw [if_pos same, same]
    exact AList.lookup_erase key table
  · rw [if_neg same]
    exact AList.lookup_erase_ne same

/-- An erasure adds nothing. -/
theorem lookup_of_erase {key other : Key} {value : Value} {table : Table Key Value}
    (found : (table.erase key).lookup other = some value) : table.lookup other = some value := by
  rw [lookup_erase_eq] at found
  split at found
  · cases found
  · exact found

/-- Looking up after a modification. -/
theorem lookup_modify_eq (key other : Key) (change : Value -> Value) (table : Table Key Value) :
    (modify key change table).lookup other =
      if other = key then (table.lookup other).map change else table.lookup other := by
  unfold modify
  cases found : table.lookup key with
  | none =>
      by_cases same : other = key
      · rw [if_pos same, same, found]
        rfl
      · rw [if_neg same]
  | some value =>
      dsimp only
      rw [lookup_insert_eq]
      by_cases same : other = key
      · rw [if_pos same, if_pos same, same, found]
        rfl
      · rw [if_neg same, if_neg same]

end Table

/-- The first number from `start` on, among `rounds` of them, with a property. -/
def firstFrom (test : Nat -> Bool) : Nat -> Nat -> Option Nat
  | 0, _ => none
  | rounds + 1, start => if test start then some start else firstFrom test rounds (start + 1)

/-- What the search returns has the property and lies in the searched range. -/
theorem firstFrom_spec {test : Nat -> Bool} {rounds start found : Nat}
    (search : firstFrom test rounds start = some found) :
    test found = true ∧ start ≤ found ∧ found < start + rounds := by
  induction rounds generalizing start with
  | zero => cases search
  | succ rounds inductionHypothesis =>
      by_cases passes : test start = true
      · rw [firstFrom, if_pos passes] at search
        have equal := Option.some.inj search
        rw [← equal]
        exact ⟨passes, Nat.le_refl _, by omega⟩
      · rw [firstFrom, if_neg passes] at search
        have later := inductionHypothesis search
        exact ⟨later.1, by omega, by omega⟩

/-- Nothing before what the search returns has the property. -/
theorem firstFrom_least {test : Nat -> Bool} {rounds start found number : Nat}
    (search : firstFrom test rounds start = some found) (least : start ≤ number)
    (before : number < found) : test number = false := by
  induction rounds generalizing start with
  | zero => cases search
  | succ rounds inductionHypothesis =>
      by_cases passes : test start = true
      · rw [firstFrom, if_pos passes] at search
        have equal := Option.some.inj search
        omega
      · rw [firstFrom, if_neg passes] at search
        rcases Nat.eq_or_lt_of_le least with same | later
        · rw [← same]
          exact Bool.eq_false_iff.mpr passes
        · exact inductionHypothesis search later

/-- The search fails exactly when nothing in the range has the property. -/
theorem firstFrom_eq_none_iff {test : Nat -> Bool} {rounds start : Nat} :
    firstFrom test rounds start = none ↔
      forall number, start ≤ number -> number < start + rounds -> test number = false := by
  induction rounds generalizing start with
  | zero => exact ⟨fun _ number least below => by omega, fun _ => rfl⟩
  | succ rounds inductionHypothesis =>
      rw [firstFrom]
      by_cases passes : test start = true
      · rw [if_pos passes]
        constructor
        · intro impossible
          cases impossible
        · intro fails
          rw [fails start (Nat.le_refl _) (by omega)] at passes
          cases passes
      · rw [if_neg passes, inductionHypothesis]
        constructor
        · intro fails number least below
          rcases Nat.eq_or_lt_of_le least with same | later
          · rw [← same]
            exact Bool.eq_false_iff.mpr passes
          · exact fails number later (by omega)
        · intro fails number least below
          exact fails number (by omega) (by omega)

end Foundation
end Pppcpd
