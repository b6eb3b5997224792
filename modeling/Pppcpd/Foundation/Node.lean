import Mathlib.Data.List.Nodup
import Pppcpd.Foundation.Bytes
import Pppcpd.Foundation.Table

namespace Pppcpd
namespace Foundation

/-!
# Trees of scalars, sequences and maps

A record is written as a map whose keys are the names of its fields, and read
back field by field.  A field that is left out reads as absent, which only an
optional field may be.  Vectors become sequences and tables become maps.

Each conversion is a pair of an encoder and a decoder.  What the decoder makes
of an encoded value is the value up to a function of it, the part that is kept.
-/

/-- A node.  The keys of a map are scalars. -/
inductive Node
  | null
  | scalar (text : Bytes)
  | sequence (items : List Node)
  | map (entries : List (Bytes × Node))

namespace Node

/-- The text of a scalar. -/
def text : Node -> Option Bytes
  | .scalar text => some text
  | _ => none

@[simp] theorem text_scalar (written : Bytes) : (Node.scalar written).text = some written := rfl

/-- The node under a key, when the node is a map that has it. -/
def get (key : String) : Node -> Option Node
  | .map entries => (entries.find? (fun entry => entry.1 == ascii key)).map Prod.snd
  | _ => none

/-- A map with named fields, of which some may be left out. -/
def object (fields : List (String × Option Node)) : Node :=
  .map (fields.filterMap (fun field => field.2.map (fun node => (ascii field.1, node))))

/-- The names of fields differ as keys. -/
def Distinct (names : List String) : Prop := (names.map ascii).Nodup

instance (names : List String) : Decidable (Distinct names) :=
  inferInstanceAs (Decidable (names.map ascii).Nodup)

/-- A key that no field has. -/
theorem get_object_of_not_mem {fields : List (String × Option Node)} {key : String}
    (other : ascii key ∉ (fields.map Prod.fst).map ascii) : (object fields).get key = none := by
  unfold get object
  apply Option.map_eq_none_iff.mpr
  apply List.find?_eq_none.mpr
  intro entry member equal
  rcases List.mem_filterMap.mp member with ⟨field, isField, written⟩
  rcases Option.map_eq_some_iff.mp written with ⟨node, _, isEntry⟩
  rw [← isEntry] at equal
  refine other (List.mem_map.mpr ⟨field.1, List.mem_map.mpr ⟨field, isField, rfl⟩, ?_⟩)
  exact eq_of_beq equal

/-- A field reads as it was written. -/
theorem get_object {fields : List (String × Option Node)} {key : String} {value : Option Node}
    (distinct : Distinct (fields.map Prod.fst)) (member : (key, value) ∈ fields) :
    (object fields).get key = value := by
  induction fields with
  | nil => exact absurd member List.not_mem_nil
  | cons field fields inductionHypothesis =>
      rcases field with ⟨name, written⟩
      have parts := List.nodup_cons.mp distinct
      have rest : (object ((name, none) :: fields)).get key = (object fields).get key := rfl
      rcases List.mem_cons.mp member with here | later
      · have same := Prod.mk.inj here
        rw [same.1] at rest ⊢
        rw [same.2]
        cases written with
        | none => exact rest.trans (get_object_of_not_mem parts.1)
        | some node =>
            simp only [get, object, List.filterMap_cons, Option.map_some, List.find?_cons, beq_self_eq_true]
      · have different : ascii name ≠ ascii key := by
          intro equal
          refine parts.1 (List.mem_map.mpr ⟨key, List.mem_map.mpr ⟨(key, value), later, rfl⟩, ?_⟩)
          exact equal.symm
        have found := inductionHypothesis parts.2 later
        cases written with
        | none => exact rest.trans found
        | some node =>
            rw [← found]
            have skipped : (ascii name == ascii key) = false := beq_eq_false_iff_ne.mpr different
            simp only [get, object, List.filterMap_cons, Option.map_some, List.find?_cons, skipped]

/-! ## Fields -/

variable {Value : Type}

/-- A field that has to be there. -/
def required (node : Node) (key : String) (decode : Node -> Option Value) : Option Value :=
  (node.get key).bind decode

/-- A field that keeps its default when it is absent. -/
def optional (node : Node) (key : String) (default : Value) (decode : Node -> Option Value) :
    Option Value :=
  match node.get key with
  | none => some default
  | some child => decode child

/-- A text that is only written when there is one. -/
def textUnlessEmpty (text : Bytes) : Option Node := if text = [] then none else some (.scalar text)

section

variable {fields : List (String × Option Node)} {key : String}

/-- The field at a place of the list reads as it was written. -/
theorem get_object_at {value : Option Node} (distinct : Distinct (fields.map Prod.fst)) (index : Nat)
    (here : fields[index]? = some (key, value)) : (object fields).get key = value :=
  get_object distinct (List.mem_of_getElem? here)

theorem required_object {node : Node} {kept : Value} {decode : Node -> Option Value}
    (distinct : Distinct (fields.map Prod.fst)) (index : Nat)
    (here : fields[index]? = some (key, some node)) (decoded : decode node = some kept) :
    (object fields).required key decode = some kept := by
  rw [required, get_object_at distinct index here, Option.bind_some, decoded]

theorem optional_object {node : Node} {default kept : Value} {decode : Node -> Option Value}
    (distinct : Distinct (fields.map Prod.fst)) (index : Nat)
    (here : fields[index]? = some (key, some node)) (decoded : decode node = some kept) :
    (object fields).optional key default decode = some kept := by
  rw [optional, get_object_at distinct index here]
  exact decoded

theorem optional_textUnlessEmpty {written : Bytes}
    (distinct : Distinct (fields.map Prod.fst)) (index : Nat)
    (here : fields[index]? = some (key, textUnlessEmpty written)) :
    (object fields).optional key [] text = some written := by
  rw [optional, get_object_at distinct index here, textUnlessEmpty]
  by_cases empty : written = []
  · rw [if_pos empty, empty]
  · rw [if_neg empty]
    rfl

/-- A value that is only written when there is one. -/
theorem optional_map {written : Option Value} {encode : Value -> Node} {decode : Node -> Option Value}
    (distinct : Distinct (fields.map Prod.fst)) (index : Nat)
    (here : fields[index]? = some (key, written.map encode))
    (decoded : forall value, decode (encode value) = some value) :
    (object fields).optional key none (fun child => (decode child).map some) = some written := by
  rw [optional, get_object_at distinct index here]
  cases written with
  | none => rfl
  | some value =>
      rw [Option.map_some]
      dsimp only
      rw [decoded, Option.map_some]

end

/-! ## Vectors and tables -/

/-- A vector is a sequence. -/
def ofList (encode : Value -> Node) (values : List Value) : Node := .sequence (values.map encode)

def toList (decode : Node -> Option Value) : Node -> Option (List Value)
  | .sequence items => items.mapM decode
  | _ => none

theorem toList_ofList {encode : Value -> Node} {decode : Node -> Option Value} {kept : Value -> Value}
    (decoded : forall value, decode (encode value) = some (kept value)) (values : List Value) :
    toList decode (ofList encode values) = some (values.map kept) := by
  unfold toList ofList
  dsimp only
  induction values with
  | nil => rfl
  | cons value values inductionHypothesis =>
      rw [List.map_cons, List.mapM_cons, decoded, inductionHypothesis]
      rfl

/-- A vector whose items are read as they were written. -/
theorem toList_ofList_self {encode : Value -> Node} {decode : Node -> Option Value}
    (decoded : forall value, decode (encode value) = some value) (values : List Value) :
    toList decode (ofList encode values) = some values := by
  have read := @toList_ofList Value encode decode id decoded values
  rw [List.map_id] at read
  exact read

variable {Key : Type} [DecidableEq Key]

/-- A table is a map. -/
def ofTable (encodeKey : Key -> Bytes) (encode : Value -> Node) (table : Table Key Value) : Node :=
  .map (table.entries.map (fun entry => (encodeKey entry.1, encode entry.2)))

/-- The entries are read in their order.  When a key occurs twice, the later entry
holds. -/
def toEntries (decodeKey : Bytes -> Option Key) (decode : Node -> Option Value) :
    List (Bytes × Node) -> Option (Table Key Value)
  | [] => some ∅
  | (text, child) :: entries => do
      let key <- decodeKey text
      let value <- decode child
      let rest <- toEntries decodeKey decode entries
      return if key ∈ rest then rest else rest.insert key value

def toTable (decodeKey : Bytes -> Option Key) (decode : Node -> Option Value) :
    Node -> Option (Table Key Value)
  | .map entries => toEntries decodeKey decode entries
  | _ => none

/-- Every value of a table was read from a node. -/
theorem decode_of_mem_toEntries {decodeKey : Bytes -> Option Key} {decode : Node -> Option Value}
    {entries : List (Bytes × Node)} {table : Table Key Value}
    (read : toEntries decodeKey decode entries = some table) {value : Value}
    (member : value ∈ table.values) : ∃ child, decode child = some value := by
  induction entries generalizing table with
  | nil =>
      rw [← Option.some.inj read] at member
      exact absurd member List.not_mem_nil
  | cons entry entries inductionHypothesis =>
      rw [toEntries] at read
      rcases Option.bind_eq_some_iff.mp read with ⟨key, _, valued⟩
      rcases Option.bind_eq_some_iff.mp valued with ⟨first, isFirst, rested⟩
      rcases Option.bind_eq_some_iff.mp rested with ⟨rest, isRest, equal⟩
      rw [← Option.some.inj equal] at member
      split at member
      · exact inductionHypothesis isRest member
      · rename_i absent
        rw [Table.values, AList.entries_insert_of_notMem absent, List.map_cons] at member
        rcases List.mem_cons.mp member with here | later
        · exact ⟨entry.2, here ▸ isFirst⟩
        · exact inductionHypothesis isRest later

theorem decode_of_mem_toTable {decodeKey : Bytes -> Option Key} {decode : Node -> Option Value}
    {node : Node} {table : Table Key Value} (read : toTable decodeKey decode node = some table)
    {value : Value} (member : value ∈ table.values) : ∃ child, decode child = some value := by
  cases node with
  | map entries => exact decode_of_mem_toEntries read member
  | null | scalar | sequence => cases read

section

variable {encodeKey : Key -> Bytes} {decodeKey : Bytes -> Option Key}
  {encode : Value -> Node} {decode : Node -> Option Value} {kept : Value -> Value}

theorem toEntries_map (lossless : forall key, decodeKey (encodeKey key) = some key)
    (decoded : forall value, decode (encode value) = some (kept value))
    {entries : List (Sigma fun _ : Key => Value)} (distinct : entries.NodupKeys) :
    ∃ table, toEntries decodeKey decode
        (entries.map (fun entry => (encodeKey entry.1, encode entry.2))) = some table ∧
      table.entries = entries.map (fun entry => ⟨entry.1, kept entry.2⟩) := by
  induction entries with
  | nil => exact ⟨∅, rfl, rfl⟩
  | cons entry entries inductionHypothesis =>
      have parts := List.nodupKeys_cons.mp distinct
      rcases inductionHypothesis parts.2 with ⟨table, read, same⟩
      have absent : entry.1 ∉ table := by
        intro member
        have isKey : entry.1 ∈ table.entries.keys := member
        rw [same, List.keys, List.map_map] at isKey
        rcases List.mem_map.mp isKey with ⟨other, isOther, equal⟩
        exact parts.1 (List.mem_map.mpr ⟨other, isOther, equal⟩)
      refine ⟨table.insert entry.1 (kept entry.2), ?_, ?_⟩
      · rw [List.map_cons, toEntries, lossless, decoded, read]
        exact congrArg some (if_neg absent)
      · rw [AList.entries_insert_of_notMem absent, same, List.map_cons]

/-- A table reads as it was written. -/
theorem toTable_ofTable (lossless : forall key, decodeKey (encodeKey key) = some key)
    (decoded : forall value, decode (encode value) = some (kept value)) (table : Table Key Value) :
    toTable decodeKey decode (ofTable encodeKey encode table) = some (table.mapValues kept) := by
  rcases toEntries_map lossless decoded table.nodupKeys with ⟨read, isRead, same⟩
  refine isRead.trans (congrArg some ?_)
  exact AList.ext same

/-- A table whose values are read as they were written. -/
theorem toTable_ofTable_self (lossless : forall key, decodeKey (encodeKey key) = some key)
    (decoded : forall value, decode (encode value) = some value) (table : Table Key Value) :
    toTable decodeKey decode (ofTable encodeKey encode table) = some table := by
  rcases @toEntries_map Value Key _ encodeKey decodeKey encode decode id lossless decoded _
    table.nodupKeys with ⟨read, isRead, same⟩
  refine isRead.trans (congrArg some (AList.ext ?_))
  rw [same]
  exact List.map_id _

end

end Node

end Foundation
end Pppcpd
