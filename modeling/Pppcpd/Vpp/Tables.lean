import Pppcpd.Vpp.Vpp

namespace Pppcpd

open Foundation

/-!
# Routing tables

`set_vrf` both adds and deletes a table of VPP, and after either success it
inserts the name and the id into `vrfs` without overwriting.  The map therefore
keeps for a name what its first successful call carried, and a delete command
enters a name as well.
-/

/-- The `Ip_table_add_del` request of `set_vrf`.  Only an add command has a name. -/
structure TableRequest where
  isIp6 : Bool := false
  tableId : UInt32
  name : Option Bytes
  isAdd : Bool
  deriving DecidableEq, Repr

/-- A call of `set_vrf` and VPP's reply to it. -/
structure VRFCall where
  name : Bytes
  tableId : UInt32
  isAdd : Bool := true
  reply : VPPReply := {}
  deriving DecidableEq, Repr

namespace VPP

/-- `set_vrf`, with the request it sends and the value it returns. -/
def setVrf (name : Bytes) (id : UInt32) (isAdd : Bool) (reply : VPPReply) (vpp : VPP) :
    VPP × TableRequest × Bool :=
  let request : TableRequest :=
    if isAdd then { tableId := id, name := some name, isAdd := true }
    else { tableId := id, name := none, isAdd := false }
  if reply.executed = false then (vpp, request, false)
  else if reply.retval < 0 then (vpp, request, false)
  else ({ vpp with vrfs := (vpp.vrfs.emplace name id).1 }, request, true)

/-- The data plane after calls of `set_vrf`, made from the first on. -/
def setVrfs (calls : List VRFCall) (vpp : VPP) : VPP :=
  calls.foldl (fun vpp call => (vpp.setVrf call.name call.tableId call.isAdd call.reply).1) vpp

end VPP

namespace VRFCall

/-- VPP did what the call asked for. -/
def succeeds (call : VRFCall) : Bool := call.reply.executed && decide (0 ≤ call.reply.retval)

/-- The successful calls for a name, in their order. -/
def successes (calls : List VRFCall) (name : Bytes) : List VRFCall :=
  calls.filter (fun call => call.succeeds && decide (call.name = name))

/-- The last successful call for the name is an add command with the id. -/
def IsTable (calls : List VRFCall) (name : Bytes) (id : UInt32) : Prop :=
  ∃ last, (successes calls name).getLast? = some last ∧ last.isAdd = true ∧ last.tableId = id

/-- The last successful call for the name, if there is one, is an add command with
the id of the first successful call for the name. -/
def KeepsFirst (calls : List VRFCall) (name : Bytes) : Prop :=
  ∀ first ∈ (successes calls name).head?, ∀ last ∈ (successes calls name).getLast?,
    last.isAdd = true ∧ last.tableId = first.tableId

instance (calls : List VRFCall) (name : Bytes) : Decidable (KeepsFirst calls name) :=
  inferInstanceAs (Decidable (∀ _ ∈ _, ∀ _ ∈ _, _))

theorem successes_cons (call : VRFCall) (rest : List VRFCall) (name : Bytes) :
    successes (call :: rest) name =
      if call.succeeds = true ∧ call.name = name then call :: successes rest name
      else successes rest name := by
  unfold successes
  by_cases passes : call.succeeds = true ∧ call.name = name
  · rw [if_pos passes, List.filter_cons_of_pos (by rw [passes.1, decide_eq_true passes.2]; rfl)]
  · rw [if_neg passes, List.filter_cons_of_neg]
    intro both
    rw [Bool.and_eq_true, decide_eq_true_iff] at both
    exact passes both

theorem IsTable.unique {calls : List VRFCall} {name : Bytes} {id other : UInt32}
    (first : IsTable calls name id) (second : IsTable calls name other) : id = other := by
  rcases first with ⟨last, isLast, _, isId⟩
  rcases second with ⟨again, isAgain, _, isOther⟩
  rw [← isId, ← isOther, Option.some.inj (isLast.symm.trans isAgain)]

end VRFCall

namespace VPP

open VRFCall

theorem setVrf_ok (name : Bytes) (id : UInt32) (isAdd : Bool) (reply : VPPReply) (vpp : VPP) :
    (vpp.setVrf name id isAdd reply).2.2 = VRFCall.succeeds ⟨name, id, isAdd, reply⟩ := by
  unfold setVrf VRFCall.succeeds
  dsimp only
  cases reply.executed with
  | false => rfl
  | true =>
      by_cases negative : reply.retval < 0
      · rw [if_neg (by decide), if_pos negative, decide_eq_false (not_le.mpr negative)]
        rfl
      · rw [if_neg (by decide), if_neg negative, decide_eq_true (not_lt.mp negative)]
        rfl

/-- One call enters its name when it succeeds, whatever it asked for. -/
theorem setVrf_vrfs (call : VRFCall) (vpp : VPP) :
    (vpp.setVrf call.name call.tableId call.isAdd call.reply).1.vrfs =
      if call.succeeds then (vpp.vrfs.emplace call.name call.tableId).1 else vpp.vrfs := by
  have ok := setVrf_ok call.name call.tableId call.isAdd call.reply vpp
  rw [← ok]
  unfold setVrf
  dsimp only
  split
  · rfl
  · split
    · rfl
    · rfl

/-- The map keeps for a name the id of its first successful call. -/
theorem lookup_setVrfs (calls : List VRFCall) (vpp : VPP) (name : Bytes) :
    (vpp.setVrfs calls).vrfs.lookup name =
      (vpp.vrfs.lookup name).or ((successes calls name).head?.map VRFCall.tableId) := by
  induction calls generalizing vpp with
  | nil => exact (Option.or_none).symm
  | cons call rest inductionHypothesis =>
      have step := inductionHypothesis (vpp.setVrf call.name call.tableId call.isAdd call.reply).1
      rw [setVrf_vrfs] at step
      rw [successes_cons]
      refine step.trans ?_
      by_cases succeeded : call.succeeds = true
      · rw [if_pos succeeded, Table.lookup_emplace, Option.or_assoc]
        by_cases same : call.name = name
        · rw [if_pos same.symm, if_pos ⟨succeeded, same⟩]
          rfl
        · rw [if_neg (Ne.symm same), if_neg (fun both => same both.2)]
          rfl
      · rw [if_neg succeeded, if_neg (fun both => succeeded both.1)]

/-- What the daemon knows of the tables agrees with the calls that made them: the map,
the requests of `add_pppoe_session` and those of `set_interface_table`. -/
structure TablesAgree (calls : List VRFCall) (vpp : VPP) : Prop where
  vrfs : forall name id, vpp.vrfs.lookup name = some id ↔ IsTable calls name id
  sessions : forall owner (session : PPPOESession) isAdd mac sid address id added ok,
    session.vrf ≠ [] ->
    (vpp.addPppoeSession owner session isAdd).1.calls =
      vpp.calls ++ [⟨.addDelSession owner mac sid address id added, ok⟩] ->
    IsTable calls session.vrf id
  interfaces : forall ifindex vrf id ok,
    (vpp.setInterfaceTable ifindex vrf).1.calls = vpp.calls ++ [⟨.setTable ifindex id, ok⟩] ->
    IsTable calls vrf id ∨ id = 0 ∧ ∀ other, ¬ IsTable calls vrf other

/-- A session with a VRF is added and deleted in the table the map has for it. -/
theorem lookup_of_addPppoeSession {vpp : VPP} {owner other : Nat} {session : PPPOESession}
    {isAdd added ok : Bool} {mac : Mac} {sid : UInt16} {address id : UInt32}
    (named : session.vrf ≠ [])
    (sent : (vpp.addPppoeSession owner session isAdd).1.calls =
      vpp.calls ++ [⟨.addDelSession other mac sid address id added, ok⟩]) :
    vpp.vrfs.lookup session.vrf = some id := by
  unfold addPppoeSession at sent
  rw [if_neg named] at sent
  cases found : vpp.vrfs.lookup session.vrf with
  | none =>
      rw [found] at sent
      cases (List.cons.inj (List.append_cancel_left sent)).1
  | some vrfId =>
      rw [found] at sent
      dsimp only at sent
      split at sent
      · cases (List.cons.inj (List.append_cancel_left sent)).1
        rfl
      · cases (List.cons.inj (List.append_cancel_left sent)).1
        rfl

/-- Where the map agrees with the calls, so do the requests that use it. -/
theorem TablesAgree.of_vrfs {calls : List VRFCall} {vpp : VPP}
    (agrees : forall name id, vpp.vrfs.lookup name = some id ↔ IsTable calls name id) :
    TablesAgree calls vpp := by
  refine ⟨agrees, fun owner session isAdd mac sid address id added ok named sent => ?_,
    fun ifindex vrf id ok sent => ?_⟩
  · exact (agrees _ _).mp (lookup_of_addPppoeSession named sent)
  · have parts := List.cons.inj (List.append_cancel_left sent)
    have isId : (vpp.vrfs.lookup vrf).getD 0 = id :=
      (VPPRequest.setTable.inj (VPPCall.mk.inj parts.1).1).2
    cases found : vpp.vrfs.lookup vrf with
    | some held =>
        rw [found] at isId
        exact .inl ((agrees _ _).mp (found.trans (congrArg some isId)))
    | none =>
        rw [found] at isId
        refine .inr ⟨isId.symm, fun other isTable => ?_⟩
        cases found.symm.trans ((agrees _ _).mpr isTable)

/-- The tables agree with the calls exactly when, for every name, the last successful
call is an add command with the id of the first. -/
theorem setVrfs_agree_iff (calls : List VRFCall) (replies : Nat -> VPPReply) :
    TablesAgree calls (setVrfs calls { replies := replies }) ↔
      ∀ name, KeepsFirst calls name := by
  have found (name : Bytes) :
      (setVrfs calls { replies := replies }).vrfs.lookup name =
        (successes calls name).head?.map VRFCall.tableId :=
    lookup_setVrfs calls { replies := replies } name
  constructor
  · intro agrees name first isFirst last isLast
    have held : (setVrfs calls { replies := replies }).vrfs.lookup name = some first.tableId := by
      rw [found, Option.mem_def.mp isFirst]
      rfl
    rcases (agrees.vrfs name _).mp held with ⟨again, isAgain, isAdd, sameId⟩
    cases Option.some.inj (isAgain.symm.trans isLast)
    exact ⟨isAdd, sameId⟩
  · intro keeps
    refine TablesAgree.of_vrfs (fun name id => ?_)
    rw [found]
    constructor
    · intro held
      rcases Option.map_eq_some_iff.mp held with ⟨first, isFirst, isId⟩
      have present : successes calls name ≠ [] := by
        intro empty
        rw [empty] at isFirst
        cases isFirst
      have isLast := List.getLast?_eq_some_getLast present
      have kept := keeps name first isFirst _ isLast
      exact ⟨_, isLast, kept.1, kept.2.trans isId⟩
    · rintro ⟨last, isLast, _, isId⟩
      have present : successes calls name ≠ [] := by
        intro empty
        rw [empty] at isLast
        cases isLast
      have isFirst := List.head?_eq_some_head present
      rw [isFirst, ← isId]
      exact congrArg some (keeps name _ isFirst last isLast).2.symm

/-- A table that is deleted and made again under another id keeps its old id. -/
theorem setVrfs_remade :
    ¬ TablesAgree
      [⟨ascii "RED", 10, true, {}⟩, ⟨ascii "RED", 10, false, {}⟩, ⟨ascii "RED", 20, true, {}⟩]
      (setVrfs
        [⟨ascii "RED", 10, true, {}⟩, ⟨ascii "RED", 10, false, {}⟩, ⟨ascii "RED", 20, true, {}⟩]
        { replies := fun _ => {} }) := by
  intro agrees
  rcases (agrees.vrfs (ascii "RED") 10).mp (by decide +kernel) with ⟨last, isLast, _, isId⟩
  cases Option.some.inj (isLast.symm.trans (by decide +kernel :
    (successes [⟨ascii "RED", 10, true, {}⟩, ⟨ascii "RED", 10, false, {}⟩,
      ⟨ascii "RED", 20, true, {}⟩] (ascii "RED")).getLast? = some ⟨ascii "RED", 20, true, {}⟩))
  cases isId

end VPP

end Pppcpd
