import Mathlib.Algebra.BigOperators.Fin
import Mathlib.Data.List.FinRange
import Pppcpd.Foundation.Table

namespace Pppcpd
namespace Foundation

/-!
# Rows of values written into a table

Each row holds one value for each index, and every value is written into the
table entry of its index, which is made when it is missing.  When a write
replaces what an earlier one left, the entry shows the last row only, and that
is the sum of the column exactly when the other rows have nothing in it.
-/

variable {Key Entry Value Other : Type}

namespace Table

variable [DecidableEq Key]

/-- Write to the entry of a key, which starts as `fresh` when there is none. -/
def write (fresh : Entry) (key : Key) (change : Entry -> Entry) (table : Table Key Entry) :
    Table Key Entry :=
  table.insert key (change ((table.lookup key).getD fresh))

/-- Write the values of a row, from an index on. -/
def writeRow (fresh : Entry) (keyOf : Nat -> Key) (store : Value -> Entry -> Entry) :
    Nat -> List Value -> Table Key Entry -> Table Key Entry
  | _, [], table => table
  | index, value :: rest, table =>
      writeRow fresh keyOf store (index + 1) rest (write fresh (keyOf index) (store value) table)

/-- Write the values of all rows, row after row. -/
def writeRows (fresh : Entry) (keyOf : Nat -> Key) (store : Value -> Entry -> Entry)
    (rows : List (List Value)) (table : Table Key Entry) : Table Key Entry :=
  rows.foldl (fun table row => writeRow fresh keyOf store 0 row table) table

end Table

/-- The values at an index, row after row. -/
def column (rows : List (List Value)) (index : Nat) : List Value :=
  rows.filterMap (fun row => row[index]?)

/-- What the writes of some values make of one entry. -/
def afterWrites (fresh : Entry) (store : Value -> Entry -> Entry) (values : List Value)
    (entry : Option Entry) : Option Entry :=
  values.foldl (fun entry value => some (store value (entry.getD fresh))) entry

section

variable [DecidableEq Key] {fresh : Entry} {keyOf : Nat -> Key} {bound index : Nat}

/-- A row writes its value of an index to the entry of that index. -/
theorem lookup_writeRow (distinct : forall other, other < bound -> keyOf other = keyOf index ->
      other = index) (store : Value -> Entry -> Entry) {row : List Value} {start : Nat}
    (fits : start + row.length ≤ bound) (behind : start ≤ index) (table : Table Key Entry) :
    (Table.writeRow fresh keyOf store start row table).lookup (keyOf index) =
      afterWrites fresh store (row[index - start]?.toList) (table.lookup (keyOf index)) := by
  have skip : forall (row : List Value) (start : Nat) (table : Table Key Entry),
      start + row.length ≤ bound -> index < start ->
      (Table.writeRow fresh keyOf store start row table).lookup (keyOf index) =
        table.lookup (keyOf index) := by
    intro row
    induction row with
    | nil => exact fun _ _ _ _ => rfl
    | cons value rest inductionHypothesis =>
        intro start table fits ahead
        rw [List.length_cons] at fits
        have other : keyOf index ≠ keyOf start := fun same =>
          Nat.ne_of_gt ahead (distinct start (by omega) same.symm)
        rw [Table.writeRow, inductionHypothesis _ _ (by omega) (by omega), Table.write,
          Table.lookup_insert_eq, if_neg other]
  induction row generalizing start table with
  | nil => rfl
  | cons value rest inductionHypothesis =>
      rw [List.length_cons] at fits
      rw [Table.writeRow]
      rcases Nat.eq_or_lt_of_le behind with here | later
      · rw [skip _ _ _ (by omega) (by omega), ← here, Nat.sub_self, Table.write,
          Table.lookup_insert_eq, if_pos rfl]
        rfl
      · have other : keyOf index ≠ keyOf start := fun same =>
          Nat.ne_of_lt later (distinct start (by omega) same.symm)
        have next : index - start = (index - (start + 1)) + 1 := by omega
        rw [inductionHypothesis (by omega) later, Table.write, Table.lookup_insert_eq, if_neg other,
          next, List.getElem?_cons_succ]

/-- The rows write the column of an index to the entry of that index. -/
theorem lookup_writeRows (distinct : forall other, other < bound -> keyOf other = keyOf index ->
      other = index) (store : Value -> Entry -> Entry) {rows : List (List Value)}
    (fits : forall row, row ∈ rows -> row.length ≤ bound) (table : Table Key Entry) :
    (Table.writeRows fresh keyOf store rows table).lookup (keyOf index) =
      afterWrites fresh store (column rows index) (table.lookup (keyOf index)) := by
  induction rows generalizing table with
  | nil => rfl
  | cons row rest inductionHypothesis =>
      have first := @lookup_writeRow _ _ _ _ fresh keyOf bound index distinct store row 0
        (by rw [Nat.zero_add]; exact fits row List.mem_cons_self) (Nat.zero_le _) table
      have later := inductionHypothesis (fun other member => fits other (List.mem_cons_of_mem _ member))
        (Table.writeRow fresh keyOf store 0 row table)
      have joined : column (row :: rest) index = row[index]?.toList ++ column rest index := by
        unfold column
        rw [List.filterMap_cons]
        cases row[index]? with
        | none => rfl
        | some value => rfl
      rw [joined, afterWrites, List.foldl_append]
      rw [Table.writeRows] at later
      rw [Table.writeRows, List.foldl_cons, later, first]
      rfl

end

/-- When a write replaces what the one before it left, the last one counts. -/
theorem afterWrites_concat {fresh : Entry} {store : Value -> Entry -> Entry}
    (overwrites : forall value earlier entry, store value (store earlier entry) = store value entry)
    (values : List Value) (value : Value) (entry : Option Entry) :
    afterWrites fresh store (values ++ [value]) entry = some (store value (entry.getD fresh)) := by
  induction values generalizing entry with
  | nil => rfl
  | cons earlier rest inductionHypothesis =>
      have later := inductionHypothesis (some (store earlier (entry.getD fresh)))
      rw [Option.getD_some, overwrites] at later
      exact later

/-- Writes to different parts of an entry may be exchanged. -/
theorem afterWrites_comm {fresh : Entry} {store : Value -> Entry -> Entry}
    {storeOther : Other -> Entry -> Entry}
    (apart : forall value other entry,
      store value (storeOther other entry) = storeOther other (store value entry))
    (values : List Value) (others : List Other) (entry : Option Entry) :
    afterWrites fresh store values (afterWrites fresh storeOther others entry) =
      afterWrites fresh storeOther others (afterWrites fresh store values entry) := by
  have one : forall value (entry : Option Entry),
      some (store value ((afterWrites fresh storeOther others entry).getD fresh)) =
        afterWrites fresh storeOther others (some (store value (entry.getD fresh))) := by
    intro value
    induction others with
    | nil => exact fun _ => rfl
    | cons other rest inductionHypothesis =>
        intro entry
        have later := inductionHypothesis (some (storeOther other (entry.getD fresh)))
        rw [Option.getD_some, apart] at later
        exact later
  induction values generalizing entry with
  | nil => rfl
  | cons value rest inductionHypothesis =>
      have later := inductionHypothesis (some (store value (entry.getD fresh)))
      rw [← one] at later
      exact later

/-- The column of a table of values that has all rows complete. -/
theorem column_ofFn {rows width : Nat} (values : Fin rows -> Fin width -> Value) (index : Fin width) :
    column (List.ofFn (fun row => List.ofFn (values row))) index =
      List.ofFn (fun row => values row index) := by
  unfold column
  rw [List.ofFn_eq_map, List.ofFn_eq_map, List.filterMap_map]
  refine List.filterMap_eq_map_iff_forall_eq_some.mpr (fun row _ => ?_)
  simp

/-- The last of some numbers is their sum exactly when the others are zero. -/
theorem last_eq_sum_iff {count : Nat} (values : Fin (count + 1) -> Nat) :
    values (Fin.last count) = ∑ row, values row ↔ forall row : Fin count, values row.castSucc = 0 := by
  rw [Fin.sum_univ_castSucc]
  constructor
  · intro same row
    have nothing : ∑ other : Fin count, values other.castSucc = 0 := by omega
    exact Finset.sum_eq_zero_iff.mp nothing row (Finset.mem_univ row)
  · intro zero
    rw [Finset.sum_eq_zero (fun row _ => zero row), Nat.zero_add]

end Foundation
end Pppcpd
