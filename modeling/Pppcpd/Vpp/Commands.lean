import Pppcpd.Vpp.Vpp

namespace Pppcpd

open Foundation

/-!
# The add and delete commands

`provision_dp` and `deprovision_dp` make several calls, but only one of them
adds or deletes a PPPoE session.  When all calls succeed, the command of that
call is noted and the session it names enters or leaves what VPP holds.
-/

namespace VPP

/-- The add or delete command of a session object in a call, if it is one. -/
def command (owner : Nat) (call : VPPCall) : Option Bool :=
  match call.request with
  | .addDelSession who _ _ _ _ isAdd => if who = owner then some isAdd else none
  | _ => none

/-- The commands issued for a session object, oldest first: `true` for add. -/
def commands (vpp : VPP) (owner : Nat) : List Bool := vpp.calls.filterMap (command owner)

/-- Every call made so far succeeded. -/
def AllOk (vpp : VPP) : Prop := ∀ call ∈ vpp.calls, call.ok = true

instance (vpp : VPP) : Decidable vpp.AllOk :=
  inferInstanceAs (Decidable (∀ call ∈ vpp.calls, call.ok = true))

/-- Calls that neither add nor delete a session. -/
structure Aside (before after : VPP) : Prop where
  commands : forall owner, after.commands owner = before.commands owner
  held : after.held = before.held
  allOk : after.AllOk -> before.AllOk

namespace Aside

theorem refl (vpp : VPP) : Aside vpp vpp := ⟨fun _ => rfl, rfl, id⟩

theorem trans {first second third : VPP} (left : Aside first second) (right : Aside second third) :
    Aside first third :=
  ⟨fun owner => (right.commands owner).trans (left.commands owner), right.held.trans left.held,
    fun ok => left.allOk (right.allOk ok)⟩

/-- One call that is not an add or delete command. -/
theorem called (vpp : VPP) {request : VPPRequest} (ok : Bool)
    (aside : forall owner, command owner { request := request, ok := ok } = none) :
    Aside vpp (vpp.called request ok) := by
  refine ⟨?_, rfl, ?_⟩
  · intro owner
    unfold VPP.commands VPP.called
    dsimp only
    rw [List.filterMap_append, List.filterMap_cons, aside owner]
    exact List.append_nil _
  · intro succeeded call member
    exact succeeded call (List.mem_append_left _ member)

theorem setUnnumbered (unnumbered iface : UInt32) (isAdd : Bool) (vpp : VPP) :
    Aside vpp (vpp.setUnnumbered unnumbered iface isAdd).1 := called vpp _ (fun _ => rfl)

theorem dumpUnnumbered (ifindex : UInt32) (vpp : VPP) : Aside vpp (vpp.dumpUnnumbered ifindex).1 :=
  called vpp _ (fun _ => rfl)

theorem foldl_setUnnumbered (entries : List (UInt32 × UInt32)) (vpp : VPP) :
    Aside vpp (entries.foldl (fun vpp entry => (vpp.setUnnumbered entry.1 entry.2 false).1) vpp) := by
  induction entries generalizing vpp with
  | nil => exact refl vpp
  | cons entry rest inductionHypothesis =>
      exact (setUnnumbered entry.1 entry.2 false vpp).trans (inductionHypothesis _)

theorem settings : Settings Aside where
  refl := refl
  trans := trans
  setTable := fun vpp _ _ ok => called vpp ok (fun _ => rfl)
  dumpIfaces := fun vpp ok => called vpp ok (fun _ => rfl)
  addUnnumbered := fun vpp _ _ ok => called vpp ok (fun _ => rfl)

end Aside

/-- What one add or delete command does when it and the calls before succeed. -/
structure Commanded (owner : Nat) (session : PPPOESession) (isAdd : Bool) (before after : VPP) :
    Prop where
  commands : forall who, after.commands who =
    if who = owner then before.commands who ++ [isAdd] else before.commands who
  held : after.held =
    if isAdd then insert (session.encap.sourceMac, session.sessionId) before.held
    else before.held.erase (session.encap.sourceMac, session.sessionId)
  allOk : after.AllOk -> before.AllOk

theorem Commanded.of_aside {owner : Nat} {session : PPPOESession} {isAdd : Bool}
    {first second third : VPP} (aside : Aside first second)
    (commanded : Commanded owner session isAdd second third) :
    Commanded owner session isAdd first third := by
  refine ⟨fun who => ?_, ?_, fun ok => aside.allOk (commanded.allOk ok)⟩
  · rw [commanded.commands, aside.commands]
  · rw [commanded.held, aside.held]

theorem Commanded.aside {owner : Nat} {session : PPPOESession} {isAdd : Bool}
    {first second third : VPP} (commanded : Commanded owner session isAdd first second)
    (aside : Aside second third) : Commanded owner session isAdd first third := by
  refine ⟨fun who => ?_, ?_, fun ok => commanded.allOk (aside.allOk ok)⟩
  · rw [aside.commands, commanded.commands]
  · rw [aside.held, commanded.held]

/-- `add_pppoe_session` that succeeds returns an interface and commands. -/
theorem addPppoeSession_spec {owner : Nat} {session : PPPOESession} {isAdd : Bool} {vpp : VPP}
    (ok : (vpp.addPppoeSession owner session isAdd).1.AllOk) :
    (∃ ifindex, (vpp.addPppoeSession owner session isAdd).2 = some ifindex) ∧
      Commanded owner session isAdd vpp (vpp.addPppoeSession owner session isAdd).1 := by
  unfold addPppoeSession at ok ⊢
  dsimp only at ok ⊢
  split at ok
  · have failed := ok _ (List.mem_append_right _ (List.mem_singleton_self _))
    cases failed
  · rename_i vrfId found
    by_cases answered : vpp.reply.swIfIndex ≠ uint32Max
    · rw [if_pos answered]
      refine ⟨⟨_, rfl⟩, ?_, rfl, fun ok call member => ok call (List.mem_append_left _ member)⟩
      intro who
      unfold commands called
      dsimp only
      rw [List.filterMap_append]
      by_cases own : who = owner
      · rw [if_pos own, own]
        simp [command]
      · rw [if_neg own]
        simp [command, Ne.symm own]
    · rw [if_neg answered] at ok
      have failed := ok _ (List.mem_append_right _ (List.mem_singleton_self _))
      exact absurd (of_decide_eq_true failed) answered

/-- `provision_dp` adds the session. -/
theorem provisionDp_spec {owner : Nat} {session : PPPOESession} {vpp : VPP}
    (ok : (vpp.provisionDp owner session).1.AllOk) :
    Commanded owner session true vpp (vpp.provisionDp owner session).1 := by
  unfold provisionDp at ok ⊢
  dsimp only at ok ⊢
  split at ok
  · rename_i failed
    rcases (addPppoeSession_spec ok).1 with ⟨ifindex, succeeded⟩
    rw [failed] at succeeded
    cases succeeded
  · rename_i ifindex _
    have configured := Aside.settings.configure ifindex session (vpp.addPppoeSession owner session true).1
    exact (addPppoeSession_spec (configured.allOk ok)).2.aside configured

/-- `deprovision_dp` deletes the session. -/
theorem deprovisionDp_spec {owner : Nat} {session : PPPOESession} {vpp : VPP}
    (ok : (vpp.deprovisionDp owner session).AllOk) :
    Commanded owner session false vpp (vpp.deprovisionDp owner session) := by
  unfold deprovisionDp at ok ⊢
  dsimp only at ok ⊢
  exact (addPppoeSession_spec ok).2.of_aside
    ((Aside.dumpUnnumbered _ vpp).trans (Aside.foldl_setUnnumbered _ _))

end VPP

end Pppcpd
