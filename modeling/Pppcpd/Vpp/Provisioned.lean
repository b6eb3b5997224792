import Pppcpd.Foundation.Latest
import Pppcpd.Vpp.Commands

namespace Pppcpd

open Foundation

/-!
# Addresses in the data plane

An add command gives VPP the address of a session, and the delete command that
takes it away names the hardware address and the id of the session.  Neither is
sent for a session with a VRF that VPP does not know.
-/

namespace VPP

/-- The request adds a session with an address for a session object. -/
def adds (owner : Nat) (mac : Mac) (sid : UInt16) (address : UInt32) : VPPRequest -> Bool
  | .addDelSession who source number given _ isAdd =>
      isAdd && who == owner && source == mac && number == sid && given == address
  | _ => false

/-- The request deletes the session of a hardware address and an id. -/
def deletes (mac : Mac) (sid : UInt16) : VPPRequest -> Bool
  | .addDelSession _ source number _ _ isAdd => !isAdd && source == mac && number == sid
  | _ => false

/-- An add command with the address was issued for the object, and no matching
delete command after it. -/
def ProvisionedFor (vpp : VPP) (owner : Nat) (mac : Mac) (sid : UInt16) (address : UInt32) : Prop :=
  ∃ early call late, vpp.calls = early ++ call :: late ∧
    adds owner mac sid address call.request = true ∧
    ∀ later ∈ late, deletes mac sid later.request = false

/-- VPP has a number for the VRF. -/
def Knows (vpp : VPP) (vrf : Bytes) : Prop := vrf = [] ∨ vpp.vrfs.lookup vrf ≠ none

instance (vpp : VPP) (vrf : Bytes) : Decidable (vpp.Knows vrf) :=
  inferInstanceAs (Decidable (_ ∨ _))

/-- What is provisioned after a call was so before, unless the call added it, and
the call has not deleted it. -/
theorem ProvisionedFor.of_called {vpp : VPP} {request : VPPRequest} {ok : Bool} {owner : Nat}
    {mac : Mac} {sid : UInt16} {address : UInt32}
    (provisioned : (vpp.called request ok).ProvisionedFor owner mac sid address) :
    vpp.ProvisionedFor owner mac sid address ∧ deletes mac sid request = false ∨
      adds owner mac sid address request = true := by
  rcases provisioned with ⟨early, call, late, split, added, undeleted⟩
  have whole : vpp.calls ++ [{ request := request, ok := ok }] = early ++ call :: late := split
  rcases concat_eq_append_cons whole with ⟨_, _, isCall⟩ | ⟨rest, isLate, calls⟩
  · rw [← isCall] at added
    exact .inr added
  · rw [isLate] at undeleted
    refine .inl ⟨⟨early, call, rest, calls, added, fun later member => ?_⟩, ?_⟩
    · exact undeleted later (List.mem_append_left _ member)
    · exact undeleted _ (List.mem_append_right _ (List.mem_singleton_self _))

/-- Calls after which no more is provisioned, with the VRFs as they are. -/
structure Dwindles (before after : VPP) : Prop where
  vrfs : after.vrfs = before.vrfs
  provisioned : forall owner mac sid address, after.ProvisionedFor owner mac sid address ->
    before.ProvisionedFor owner mac sid address

namespace Dwindles

theorem refl (vpp : VPP) : Dwindles vpp vpp := ⟨rfl, fun _ _ _ _ => id⟩

theorem trans {first second third : VPP} (left : Dwindles first second)
    (right : Dwindles second third) : Dwindles first third :=
  ⟨right.vrfs.trans left.vrfs, fun owner mac sid address after =>
    left.provisioned owner mac sid address (right.provisioned owner mac sid address after)⟩

/-- One call that adds nothing. -/
theorem called (vpp : VPP) {request : VPPRequest} (ok : Bool)
    (aside : forall owner mac sid address, adds owner mac sid address request = false) :
    Dwindles vpp (vpp.called request ok) := by
  refine ⟨rfl, fun owner mac sid address after => ?_⟩
  rcases after.of_called with ⟨before, _⟩ | added
  · exact before
  · rw [aside] at added
    cases added

theorem foldl_setUnnumbered (entries : List (UInt32 × UInt32)) (vpp : VPP) :
    Dwindles vpp
      (entries.foldl (fun vpp entry => (vpp.setUnnumbered entry.1 entry.2 false).1) vpp) := by
  induction entries generalizing vpp with
  | nil => exact refl vpp
  | cons entry rest inductionHypothesis =>
      exact (called vpp _ (fun _ _ _ _ => rfl)).trans (inductionHypothesis _)

theorem settings : Settings Dwindles where
  refl := refl
  trans := trans
  setTable := fun vpp _ _ ok => called vpp ok (fun _ _ _ _ => rfl)
  dumpIfaces := fun vpp ok => called vpp ok (fun _ _ _ _ => rfl)
  addUnnumbered := fun vpp _ _ ok => called vpp ok (fun _ _ _ _ => rfl)

end Dwindles

theorem knows_of_vrfs {before after : VPP} (same : after.vrfs = before.vrfs) (vrf : Bytes) :
    after.Knows vrf ↔ before.Knows vrf := by
  unfold Knows
  rw [same]

theorem addPppoeSession_vrfs (owner : Nat) (session : PPPOESession) (isAdd : Bool) (vpp : VPP) :
    (vpp.addPppoeSession owner session isAdd).1.vrfs = vpp.vrfs := by
  unfold addPppoeSession
  dsimp only
  split
  · rfl
  · split <;> rfl

/-- An add or delete command is issued when VPP knows the VRF, whatever comes of
it. -/
theorem addPppoeSession_calls (owner : Nat) (session : PPPOESession) (isAdd : Bool) (vpp : VPP) :
    (¬ vpp.Knows session.vrf ∧ ∃ ok, (vpp.addPppoeSession owner session isAdd).1 =
        vpp.called (.unknownVrf owner isAdd) ok) ∨
      vpp.Knows session.vrf ∧ ∃ vrfId ok, (vpp.addPppoeSession owner session isAdd).1.calls =
        (vpp.called (.addDelSession owner session.encap.sourceMac session.sessionId session.address
          vrfId isAdd) ok).calls := by
  unfold addPppoeSession
  dsimp only
  split
  · rename_i unknown
    refine .inl ⟨?_, false, rfl⟩
    rintro (empty | known)
    · rw [if_pos empty] at unknown
      cases unknown
    · split at unknown
      · cases unknown
      · exact known unknown
  · rename_i vrfId found
    refine .inr ⟨?_, vrfId, ?_⟩
    · by_cases empty : session.vrf = []
      · exact .inl empty
      · rw [if_neg empty] at found
        refine .inr ?_
        rw [found]
        exact Option.some_ne_none vrfId
    · split
      · exact ⟨_, rfl⟩
      · exact ⟨_, rfl⟩

theorem ProvisionedFor.of_calls {before after : VPP} (same : after.calls = before.calls) {owner : Nat}
    {mac : Mac} {sid : UInt16} {address : UInt32}
    (provisioned : after.ProvisionedFor owner mac sid address) :
    before.ProvisionedFor owner mac sid address := by
  unfold ProvisionedFor at provisioned ⊢
  rw [← same]
  exact provisioned

/-- `provision_dp` provisions its own session alone. -/
theorem ProvisionedFor.of_provisionDp {who : Nat} {session : PPPOESession} {vpp : VPP} {owner : Nat}
    {mac : Mac} {sid : UInt16} {address : UInt32}
    (provisioned : (vpp.provisionDp who session).1.ProvisionedFor owner mac sid address) :
    vpp.ProvisionedFor owner mac sid address ∨
      owner = who ∧ mac = session.encap.sourceMac ∧ sid = session.sessionId ∧
        address = session.address ∧ vpp.Knows session.vrf := by
  have added : (vpp.addPppoeSession who session true).1.ProvisionedFor owner mac sid address := by
    unfold provisionDp at provisioned
    dsimp only at provisioned
    split at provisioned
    · exact provisioned
    · exact (Dwindles.settings.configure _ session _).provisioned owner mac sid address provisioned
  rcases addPppoeSession_calls who session true vpp with ⟨_, ok, unknown⟩ | ⟨known, vrfId, ok, issued⟩
  · rw [unknown] at added
    rcases added.of_called with ⟨before, _⟩ | impossible
    · exact .inl before
    · cases impossible
  · rcases (added.of_calls issued).of_called with ⟨before, _⟩ | own
    · exact .inl before
    · refine .inr ?_
      simp only [adds, Bool.and_eq_true, beq_iff_eq] at own
      exact ⟨own.1.1.1.2.symm, own.1.1.2.symm, own.1.2.symm, own.2.symm, known⟩

theorem provisionDp_vrfs (owner : Nat) (session : PPPOESession) (vpp : VPP) :
    (vpp.provisionDp owner session).1.vrfs = vpp.vrfs := by
  have added := addPppoeSession_vrfs owner session true vpp
  unfold provisionDp
  dsimp only
  split
  · exact added
  · exact (Dwindles.settings.configure _ session _).vrfs.trans added

theorem deprovisionDp_vrfs (owner : Nat) (session : PPPOESession) (vpp : VPP) :
    (vpp.deprovisionDp owner session).vrfs = vpp.vrfs :=
  (addPppoeSession_vrfs owner session false _).trans (Dwindles.foldl_setUnnumbered _ _).vrfs

/-- `deprovision_dp` deletes the session, if VPP knows its VRF. -/
theorem ProvisionedFor.of_deprovisionDp {who : Nat} {session : PPPOESession} {vpp : VPP} {owner : Nat}
    {mac : Mac} {sid : UInt16} {address : UInt32}
    (provisioned : (vpp.deprovisionDp who session).ProvisionedFor owner mac sid address) :
    vpp.ProvisionedFor owner mac sid address ∧
      (vpp.Knows session.vrf -> ¬ (mac = session.encap.sourceMac ∧ sid = session.sessionId)) := by
  unfold deprovisionDp at provisioned
  dsimp only at provisioned
  have dumped : Dwindles vpp (vpp.dumpUnnumbered session.ifindex).1 :=
    .called vpp _ (fun _ _ _ _ => rfl)
  have cleared := dumped.trans (.foldl_setUnnumbered (vpp.dumpUnnumbered session.ifindex).2 _)
  generalize List.foldl _ _ _ = middle at provisioned cleared
  rcases addPppoeSession_calls who session false middle with
    ⟨unknown, ok, equal⟩ | ⟨_, vrfId, ok, issued⟩
  · rw [equal] at provisioned
    rcases provisioned.of_called with ⟨before, _⟩ | impossible
    · exact ⟨cleared.provisioned owner mac sid address before,
        fun known => absurd ((knows_of_vrfs cleared.vrfs _).mpr known) unknown⟩
    · cases impossible
  · rcases (provisioned.of_calls issued).of_called with ⟨before, spared⟩ | impossible
    · refine ⟨cleared.provisioned owner mac sid address before, ?_⟩
      rintro _ ⟨sameMac, sameSid⟩
      rw [sameMac, sameSid] at spared
      simp [deletes] at spared
    · simp [adds] at impossible

end VPP

end Pppcpd
