import Mathlib.Data.List.Basic

namespace Pppcpd
namespace Foundation

/-!
# Deciding by a list of methods

Methods are asked in order.  One that is unavailable passes the decision to the
next, and the first that is available decides.
-/

inductive Verdict
  | accepts
  | rejects
  | unavailable
  deriving DecidableEq, Repr

variable {Method : Type} {verdict : Method -> Verdict}

/-- The method that accepts, or `none` when one rejects before, or none is
available. -/
def decision (verdict : Method -> Verdict) : List Method -> Option Method
  | [] => none
  | method :: rest =>
      match verdict method with
      | .accepts => some method
      | .rejects => none
      | .unavailable => decision verdict rest

/-- Unavailable methods in front do not count. -/
theorem decision_append_of_unavailable {before : List Method} (rest : List Method)
    (unavailable : forall method, method ∈ before -> verdict method = .unavailable) :
    decision verdict (before ++ rest) = decision verdict rest := by
  induction before with
  | nil => rfl
  | cons method before inductionHypothesis =>
      have here := unavailable method List.mem_cons_self
      rw [List.cons_append, decision, here]
      exact inductionHypothesis (fun other member => unavailable other (List.mem_cons_of_mem _ member))

/-- When no method is available, nothing is decided. -/
theorem decision_eq_none_of_unavailable {methods : List Method}
    (unavailable : forall method, method ∈ methods -> verdict method = .unavailable) :
    decision verdict methods = none := by
  have skipped := decision_append_of_unavailable [] unavailable
  rw [List.append_nil] at skipped
  exact skipped

/-- The only available method decides wherever it stands. -/
theorem decision_eq_some_of_mem {methods : List Method} {chosen : Method}
    (accepts : verdict chosen = .accepts)
    (others : forall method, method ∈ methods -> method ≠ chosen -> verdict method = .unavailable)
    (member : chosen ∈ methods) : decision verdict methods = some chosen := by
  induction methods with
  | nil => cases member
  | cons method rest inductionHypothesis =>
      rw [decision]
      by_cases same : method = chosen
      · rw [same, accepts]
      · rw [others method List.mem_cons_self same]
        rcases List.mem_cons.mp member with here | later
        · exact absurd here.symm same
        · exact inductionHypothesis (fun other found => others other (List.mem_cons_of_mem _ found))
            later

end Foundation
end Pppcpd
