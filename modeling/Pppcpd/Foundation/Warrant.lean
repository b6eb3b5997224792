import Mathlib.Data.List.Infix

namespace Pppcpd
namespace Foundation

/-!
# Warranted lists

A list grows at its end, and each item of it may need a warrant among the items before
it.  A warrant is never lost when the list grows, so a list stays warranted when each
item that is added finds a warrant in the list as it was.
-/

variable {Item : Type*}

/-- Every item is warranted by the items before it. -/
def Warranted (warrants : List Item -> Item -> Prop) (items : List Item) : Prop :=
  forall before item after, items = before ++ item :: after -> warrants before item

theorem warranted_nil (warrants : List Item -> Item -> Prop) : Warranted warrants [] := by
  intro before item after parts
  exact absurd parts.symm (List.append_ne_nil_of_right_ne_nil before (List.cons_ne_nil _ _))

/-- One more item, which has its warrant. -/
theorem Warranted.concat {warrants : List Item -> Item -> Prop} {items : List Item} {item : Item}
    (warranted : Warranted warrants items) (last : warrants items item) :
    Warranted warrants (items ++ [item]) := by
  intro before other after parts
  rcases List.append_eq_append_iff.mp parts with ⟨between, isBefore, inLast⟩ | ⟨rest, isItems, inRest⟩
  · rcases List.append_eq_singleton_iff.mp inLast.symm with ⟨none, isOther⟩ | ⟨_, none⟩
    · rw [isBefore, none, List.append_nil, (List.cons.inj isOther).1]
      exact last
    · cases none
  · cases rest with
    | nil =>
        rw [isItems, List.append_nil] at last
        exact (List.cons.inj inRest).1 ▸ last
    | cons first rest =>
        rw [← (List.cons.inj inRest).1] at isItems
        exact warranted before other rest isItems

theorem Warranted.append {warrants : List Item -> Item -> Prop} {items more : List Item}
    (keeps : forall before longer item, before <+: longer -> warrants before item ->
      warrants longer item)
    (warranted : Warranted warrants items) (added : ∀ item ∈ more, warrants items item) :
    Warranted warrants (items ++ more) := by
  intro before item after parts
  have later (between : List Item) (inMore : more = between ++ item :: after)
      (isBefore : before = items ++ between) : warrants before item := by
    have member : item ∈ more := inMore ▸ List.mem_append_right _ List.mem_cons_self
    exact isBefore ▸ keeps _ _ _ (List.prefix_append items between) (added item member)
  rcases List.append_eq_append_iff.mp parts with ⟨between, isBefore, inMore⟩ | ⟨rest, isItems, inRest⟩
  · exact later between inMore isBefore
  · cases rest with
    | nil => exact later [] inRest.symm (by rw [List.append_nil] at isItems ⊢; exact isItems.symm)
    | cons first rest =>
        rw [← (List.cons.inj inRest).1] at isItems
        exact warranted before item rest isItems

end Foundation
end Pppcpd
