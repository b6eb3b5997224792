import Mathlib.Data.List.Basic

namespace Pppcpd
namespace Foundation

/-!
# Heaps of counted objects

Objects held by counted references are numbered in the order they were made,
and a reference is that number.  An object whose last reference is given up is
destroyed: its cell stays in the heap with what the object held, but it is no
longer alive.  The memory of a destroyed object is not used again, so a call
through a dangling reference reads and writes what the object left and reaches
no other object.
-/

structure Cell (Object : Type) where
  object : Object
  alive : Bool := true
  deriving DecidableEq, Repr

abbrev Heap (Object : Type) := List (Cell Object)

namespace Heap

variable {Object : Type}

/-- The object behind a reference. -/
def deref (heap : Heap Object) (ref : Nat) : Option Object := heap[ref]?.map Cell.object

/-- The object behind a reference is not destroyed. -/
def isAlive (heap : Heap Object) (ref : Nat) : Bool := heap[ref]?.any Cell.alive

/-- Make an object.  Its reference is the length of the heap before. -/
def make (heap : Heap Object) (object : Object) : Heap Object := heap ++ [{ object := object }]

/-- Change the object behind a reference. -/
def update (heap : Heap Object) (ref : Nat) (change : Object -> Object) : Heap Object :=
  heap.modify ref (fun cell => { cell with object := change cell.object })

/-- Destroy the object behind a reference. -/
def destroy (heap : Heap Object) (ref : Nat) : Heap Object :=
  heap.modify ref (fun cell => { cell with alive := false })

theorem length_update (heap : Heap Object) (ref : Nat) (change : Object -> Object) :
    (heap.update ref change).length = heap.length := List.length_modify _ _ _

theorem length_destroy (heap : Heap Object) (ref : Nat) :
    (heap.destroy ref).length = heap.length := List.length_modify _ _ _

theorem length_make (heap : Heap Object) (object : Object) :
    (heap.make object).length = heap.length + 1 := by
  simp [make]

/-- Reading after a change. -/
theorem deref_update (heap : Heap Object) (ref other : Nat) (change : Object -> Object) :
    (heap.update ref change).deref other =
      if other = ref then (heap.deref other).map change else heap.deref other := by
  unfold deref update
  rw [List.getElem?_modify]
  by_cases same : other = ref
  · rw [if_pos same]
    simp [same, Function.comp_def]
  · rw [if_neg same]
    simp [Ne.symm same]

/-- A change that leaves its object alone changes nothing. -/
theorem update_of_deref {heap : Heap Object} {ref : Nat} {object : Object}
    {change : Object -> Object} (found : heap.deref ref = some object)
    (same : change object = object) : heap.update ref change = heap := by
  refine List.ext_getElem? (fun other => ?_)
  unfold update
  rw [List.getElem?_modify]
  by_cases here : ref = other
  · rcases Option.map_eq_some_iff.mp found with ⟨cell, present, holds⟩
    simp only [if_pos here]
    rw [← here, present, Option.map_eq_map, Option.map_some, holds, same, ← holds]
  · simp only [if_neg here]
    exact Option.map_id'

/-- Destroying an object leaves what every object holds. -/
theorem deref_destroy (heap : Heap Object) (ref other : Nat) :
    (heap.destroy ref).deref other = heap.deref other := by
  unfold deref destroy
  rw [List.getElem?_modify]
  by_cases same : ref = other
  · simp [same, Function.comp_def]
  · simp [same]

theorem deref_make_of_lt {heap : Heap Object} {ref : Nat} (object : Object)
    (old : ref < heap.length) : (heap.make object).deref ref = heap.deref ref := by
  unfold deref make
  rw [List.getElem?_append_left old]

theorem deref_make_self (heap : Heap Object) (object : Object) :
    (heap.make object).deref heap.length = some object := by
  simp [deref, make]

theorem lt_length_of_deref {heap : Heap Object} {ref : Nat} {object : Object}
    (found : heap.deref ref = some object) : ref < heap.length := by
  rcases Option.map_eq_some_iff.mp found with ⟨cell, present, _⟩
  exact (List.getElem?_eq_some_iff.mp present).1

/-- Reading after making an object. -/
theorem deref_make (heap : Heap Object) (object : Object) (ref : Nat) :
    (heap.make object).deref ref = if ref = heap.length then some object else heap.deref ref := by
  by_cases same : ref = heap.length
  · rw [if_pos same, same, deref_make_self]
  · rw [if_neg same]
    rcases Nat.lt_or_gt_of_ne same with old | beyond
    · exact deref_make_of_lt object old
    · unfold deref make
      rw [List.getElem?_eq_none (by rw [List.length_append]; exact beyond),
        List.getElem?_eq_none (Nat.le_of_lt beyond)]

/-- The next object is not made yet. -/
theorem deref_length (heap : Heap Object) : heap.deref heap.length = none :=
  Option.map_eq_none_iff.mpr (List.getElem?_eq_none (Nat.le_refl _))

/-- What is read after making an object is the new object, or an old one. -/
theorem deref_make_cases {heap : Heap Object} {object found : Object} {ref : Nat}
    (present : (heap.make object).deref ref = some found) :
    ref = heap.length ∧ found = object ∨ ref ≠ heap.length ∧ heap.deref ref = some found := by
  rw [deref_make] at present
  split at present
  · rename_i new
    exact .inl ⟨new, (Option.some.inj present).symm⟩
  · rename_i old
    exact .inr ⟨old, present⟩

/-- Being alive after a change. -/
theorem isAlive_update (heap : Heap Object) (ref other : Nat) (change : Object -> Object) :
    (heap.update ref change).isAlive other = heap.isAlive other := by
  unfold isAlive update
  rw [List.getElem?_modify]
  by_cases same : ref = other
  · cases found : heap[other]? <;> simp [same]
  · simp [same]

/-- Being alive after a destruction. -/
theorem isAlive_destroy (heap : Heap Object) (ref other : Nat) :
    (heap.destroy ref).isAlive other = if other = ref then false else heap.isAlive other := by
  unfold isAlive destroy
  rw [List.getElem?_modify]
  by_cases same : other = ref
  · rw [if_pos same]
    cases found : heap[other]? <;> simp [same]
  · rw [if_neg same]
    simp [Ne.symm same]

/-- Being alive after making an object. -/
theorem isAlive_make (heap : Heap Object) (object : Object) (ref : Nat) :
    (heap.make object).isAlive ref = if ref = heap.length then true else heap.isAlive ref := by
  unfold isAlive make
  by_cases same : ref = heap.length
  · simp [same]
  · rw [if_neg same]
    rcases Nat.lt_or_gt_of_ne same with old | beyond
    · rw [List.getElem?_append_left old]
    · rw [List.getElem?_eq_none (by rw [List.length_append]; exact beyond),
        List.getElem?_eq_none (Nat.le_of_lt beyond)]

/-- A live object can be read. -/
theorem deref_of_isAlive {heap : Heap Object} {ref : Nat} (alive : heap.isAlive ref = true) :
    ∃ object, heap.deref ref = some object := by
  unfold isAlive at alive
  unfold deref
  cases found : heap[ref]? with
  | none => rw [found] at alive; cases alive
  | some cell => exact ⟨cell.object, rfl⟩

end Heap

end Foundation
end Pppcpd
