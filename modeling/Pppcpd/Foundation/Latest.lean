import Mathlib.Data.List.Basic
import Mathlib.Data.List.Induction

namespace Pppcpd
namespace Foundation

/-!
# The latest value

A reader goes through items and keeps, for one of its fields, the value of the
latest item that carries one.  What an item carries may depend on a choice that
is made for each item on its own.  The values that some choices lead to are then
those that an item carries under some choice, where every later item carries
nothing under some choice, and the default where that holds of all items.
-/

variable {Item Choice Value : Type*}

/-- A place in items with one more at the end is the end, or it lies before the
end. -/
theorem concat_eq_append_cons {items earlier later : List Item} {item other : Item}
    (parts : items ++ [item] = earlier ++ other :: later) :
    later = [] ∧ items = earlier ∧ item = other ∨
      ∃ rest, later = rest ++ [item] ∧ items = earlier ++ other :: rest := by
  rcases List.eq_nil_or_concat later with empty | ⟨rest, last, isLater⟩
  · rw [empty] at parts
    have both := List.append_inj' parts rfl
    exact .inl ⟨empty, both.1, (List.cons.inj both.2).1⟩
  · rw [isLater, List.concat_eq_append, ← List.cons_append, ← List.append_assoc] at parts
    have both := List.append_inj' parts rfl
    refine .inr ⟨rest, ?_, both.1⟩
    rw [isLater, List.concat_eq_append, (List.cons.inj both.2).1]

/-- The value of the latest item that carries one, or the default. -/
def latest (default : Value) (carried : Item -> Option Value) (items : List Item) : Value :=
  ((items.filterMap carried).getLast?).getD default

theorem latest_concat (default : Value) (carried : Item -> Option Value) (items : List Item)
    (item : Item) :
    latest default carried (items ++ [item]) = (carried item).getD (latest default carried items) := by
  unfold latest
  rw [List.filterMap_append]
  cases carries : carried item with
  | none =>
      rw [List.filterMap_cons_none carries, List.filterMap_nil, List.append_nil]
      rfl
  | some value =>
      rw [List.filterMap_cons_some carries, List.filterMap_nil, List.getLast?_concat]
      rfl

/-- A value that some choices lead to, read off the items. -/
def Attains (default : Value) (carried : Choice -> Item -> Option Value) (items : List Item)
    (value : Value) : Prop :=
  (∃ earlier item later choice, items = earlier ++ item :: later ∧
      carried choice item = some value ∧ ∀ other ∈ later, ∃ choice, carried choice other = none) ∨
    value = default ∧ ∀ item ∈ items, ∃ choice, carried choice item = none

/-- An item at the end either carries the value or carries nothing. -/
theorem attains_concat {default value : Value} {carried : Choice -> Item -> Option Value}
    {items : List Item} {item : Item} :
    Attains default carried (items ++ [item]) value ↔
      (∃ choice, carried choice item = some value) ∨
        (∃ choice, carried choice item = none) ∧ Attains default carried items value := by
  constructor
  · rintro (⟨earlier, first, later, choice, parts, carries, silent⟩ | ⟨same, silent⟩)
    · rcases concat_eq_append_cons parts with ⟨_, _, isItem⟩ | ⟨rest, isLater, isItems⟩
      · exact .inl ⟨choice, isItem ▸ carries⟩
      · rw [isLater] at silent
        refine .inr ⟨silent item (List.mem_append_right _ List.mem_cons_self), .inl ?_⟩
        exact ⟨earlier, first, rest, choice, isItems, carries,
          fun other member => silent other (List.mem_append_left _ member)⟩
    · refine .inr ⟨silent item (List.mem_append_right _ List.mem_cons_self), .inr ⟨same, ?_⟩⟩
      exact fun other member => silent other (List.mem_append_left _ member)
  · rintro (⟨choice, carries⟩ | ⟨quiet, ⟨earlier, first, later, choice, parts, carries, silent⟩ |
      ⟨same, silent⟩⟩)
    · exact .inl ⟨items, item, [], choice, rfl, carries, fun _ member => absurd member List.not_mem_nil⟩
    · refine .inl ⟨earlier, first, later ++ [item], choice, ?_, carries, fun other member => ?_⟩
      · rw [parts, List.append_assoc, List.cons_append]
      · rcases List.mem_append.mp member with before | last
        · exact silent other before
        · exact List.mem_singleton.mp last ▸ quiet
    · refine .inr ⟨same, fun other member => ?_⟩
      rcases List.mem_append.mp member with before | last
      · exact silent other before
      · exact List.mem_singleton.mp last ▸ quiet

/-- The values that are attained are the latest ones of the items with choices. -/
theorem attains_iff {default value : Value} {carried : Choice -> Item -> Option Value}
    {items : List Item} : Attains default carried items value ↔
      ∃ chosen : List (Choice × Item), chosen.map Prod.snd = items ∧
        latest default (fun pair => carried pair.1 pair.2) chosen = value := by
  induction items using List.reverseRecOn generalizing value with
  | nil =>
      constructor
      · rintro (⟨earlier, _, _, _, impossible, _⟩ | ⟨same, _⟩)
        · cases earlier <;> cases impossible
        · exact ⟨[], rfl, same.symm⟩
      · rintro ⟨chosen, isNil, same⟩
        rw [List.map_eq_nil_iff.mp isNil] at same
        exact .inr ⟨same.symm, fun _ member => absurd member List.not_mem_nil⟩
  | append_singleton items item inductionHypothesis =>
      rw [attains_concat]
      constructor
      · rintro (⟨choice, carries⟩ | ⟨⟨choice, quiet⟩, attains⟩)
        · refine ⟨items.map (fun other => (choice, other)) ++ [(choice, item)], ?_, ?_⟩
          · rw [List.map_append, List.map_map]
            exact congrArg (fun front => front ++ [item]) (List.map_id items)
          · rw [latest_concat, carries]
            rfl
        · rcases inductionHypothesis.mp attains with ⟨chosen, are, same⟩
          refine ⟨chosen ++ [(choice, item)], by rw [List.map_append, are]; rfl, ?_⟩
          rw [latest_concat, quiet]
          exact same
      · rintro ⟨chosen, are, same⟩
        rcases List.map_eq_append_iff.mp are with ⟨front, back, parts, isFront, isBack⟩
        rcases List.map_eq_cons_iff.mp isBack with ⟨last, rest, isLast, lastItem, isRest⟩
        rw [parts, isLast, List.map_eq_nil_iff.mp isRest, latest_concat, lastItem] at same
        cases carries : carried last.1 item with
        | none =>
            rw [carries] at same
            exact .inr ⟨⟨last.1, carries⟩, inductionHypothesis.mpr ⟨front, isFront, same⟩⟩
        | some held =>
            rw [carries] at same
            have isValue : held = value := same
            exact .inl ⟨last.1, isValue ▸ carries⟩

/-- Choices that are made one by one are a function of the position. -/
theorem exists_choices [Inhabited Choice] {items : List Item} {chosen : List (Choice × Item)}
    (are : chosen.map Prod.snd = items) :
    ∃ choices : Nat -> Choice, items.mapIdx (fun position item => (choices position, item)) = chosen := by
  refine ⟨fun position => ((chosen[position]?).map Prod.fst).getD default, ?_⟩
  refine List.ext_getElem? (fun position => ?_)
  rw [List.getElem?_mapIdx, ← are, List.getElem?_map]
  cases found : chosen[position]? with
  | none => rfl
  | some pair =>
      dsimp only [Option.map_some]
      rw [found]
      rfl

theorem map_mapIdx {Result : Type*} (give : Choice × Item -> Result) (choices : Nat -> Choice)
    (items : List Item) :
    (items.mapIdx (fun position item => (choices position, item))).map give =
      items.mapIdx (fun position item => give (choices position, item)) := by
  rw [List.mapIdx_eq_zipIdx_map, List.mapIdx_eq_zipIdx_map, List.map_map]
  rfl

theorem map_snd_mapIdx (choices : Nat -> Choice) (items : List Item) :
    (items.mapIdx (fun position item => (choices position, item))).map Prod.snd = items := by
  rw [map_mapIdx, List.mapIdx_eq_zipIdx_map]
  exact List.zipIdx_map_fst 0 items

end Foundation
end Pppcpd
