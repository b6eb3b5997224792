import Pppcpd.Vpp.Plane

namespace Pppcpd

open Foundation

/-!
# The exchanges of `provision_dp` and `deprovision_dp`

`provision_dp` begins with an add command and goes on with calls that concern no
session.  `deprovision_dp` asks for the entries of an interface, removes what it
is told, and ends with a delete command.
-/

namespace VPP

/-- The calls so far with their replies. -/
def exchanges (vpp : VPP) : List VPPExchange :=
  vpp.calls.mapIdx (fun number call => ⟨call, vpp.replies number⟩)

/-- What VPP has after these calls, when it began with a plane. -/
def plane (units : Plane) (vpp : VPP) : Plane := units.follow vpp.exchanges

theorem exchanges_called (vpp : VPP) (request : VPPRequest) (ok : Bool) :
    (vpp.called request ok).exchanges = vpp.exchanges ++ [⟨⟨request, ok⟩, vpp.reply⟩] := by
  unfold exchanges called reply
  exact List.mapIdx_concat

/-- Calls that concern no session. -/
def Asides (before after : VPP) : Prop :=
  ∃ asides, after.exchanges = before.exchanges ++ asides ∧
    ∀ exchange ∈ asides, exchange.call.request.isAside = true

namespace Asides

theorem refl (vpp : VPP) : Asides vpp vpp :=
  ⟨[], (List.append_nil _).symm, fun _ member => absurd member List.not_mem_nil⟩

theorem trans {first second third : VPP} (left : Asides first second) (right : Asides second third) :
    Asides first third := by
  rcases left with ⟨earlier, is, aside⟩
  rcases right with ⟨later, isLater, laterAside⟩
  refine ⟨earlier ++ later, by rw [isLater, is, List.append_assoc], fun exchange member => ?_⟩
  rcases List.mem_append.mp member with old | new
  · exact aside exchange old
  · exact laterAside exchange new

theorem called (vpp : VPP) {request : VPPRequest} (ok : Bool) (aside : request.isAside = true) :
    Asides vpp (vpp.called request ok) := by
  refine ⟨_, exchanges_called vpp request ok, fun exchange member => ?_⟩
  rw [List.mem_singleton.mp member]
  exact aside

theorem settings : Settings Asides where
  refl := refl
  trans := trans
  setTable := fun vpp _ _ ok => called vpp ok rfl
  dumpIfaces := fun vpp ok => called vpp ok rfl
  addUnnumbered := fun vpp _ _ ok => called vpp ok rfl

end Asides

/-- `add_pppoe_session` makes one call, and returns the interface of the reply
when the call succeeds. -/
theorem addPppoeSession_issues (owner : Nat) (session : PPPOESession) (isAdd : Bool) (vpp : VPP) :
    ∃ exchange,
      (vpp.addPppoeSession owner session isAdd).1.exchanges = vpp.exchanges ++ [exchange] ∧
        (exchange.call.request = .unknownVrf owner isAdd ∧
            (vpp.addPppoeSession owner session isAdd).2 = none ∨
          ∃ vrfId, exchange.call.request = .addDelSession owner session.encap.sourceMac
              session.sessionId session.address vrfId isAdd ∧
            (vpp.addPppoeSession owner session isAdd).2 =
              if exchange.call.ok then some exchange.reply.swIfIndex else none) := by
  unfold addPppoeSession
  dsimp only
  split
  · exact ⟨_, exchanges_called vpp _ _, .inl ⟨rfl, rfl⟩⟩
  · rename_i vrfId _
    split
    · rename_i answered
      refine ⟨_, exchanges_called vpp _ _, .inr ⟨vrfId, rfl, ?_⟩⟩
      rw [if_pos (decide_eq_true answered)]
    · rename_i refused
      refine ⟨_, exchanges_called vpp _ _, .inr ⟨vrfId, rfl, ?_⟩⟩
      rw [if_neg (fun answered => refused (of_decide_eq_true answered))]

/-- The removals of `deprovision_dp` are those of a list of entries. -/
theorem foldl_setUnnumbered_issues (entries : List (UInt32 × UInt32)) (vpp : VPP) :
    ∃ removals, (entries.foldl (fun vpp entry =>
        (vpp.setUnnumbered entry.1 entry.2 false).1) vpp).exchanges = vpp.exchanges ++ removals ∧
      ∀ exchange ∈ removals, ∃ entry ∈ entries,
        exchange.call.request = .setUnnumbered entry.1 entry.2 false := by
  induction entries generalizing vpp with
  | nil => exact ⟨[], (List.append_nil _).symm, fun _ member => absurd member List.not_mem_nil⟩
  | cons entry rest inductionHypothesis =>
      rcases inductionHypothesis (vpp.setUnnumbered entry.1 entry.2 false).1 with
        ⟨removals, issued, removes⟩
      have first : (vpp.setUnnumbered entry.1 entry.2 false).1.exchanges =
          vpp.exchanges ++ [_] := exchanges_called vpp _ _
      refine ⟨_, issued.trans (by rw [first, List.append_assoc]), fun exchange member => ?_⟩
      rcases List.mem_cons.mp member with same | later
      · rw [same]
        exact ⟨entry, List.mem_cons_self, rfl⟩
      · rcases removes exchange later with ⟨other, isEntry, removal⟩
        exact ⟨other, List.mem_cons_of_mem _ isEntry, removal⟩

theorem deprovisionDp_issues (owner : Nat) (session : PPPOESession) (vpp : VPP) :
    ∃ dump removals deletion,
      (vpp.deprovisionDp owner session).exchanges =
          vpp.exchanges ++ (dump :: (removals ++ [deletion])) ∧
        dump.call.request = .dumpUnnumbered session.ifindex ∧
        (∀ exchange ∈ removals, dump.reply.executed = true ∧ ∃ entry ∈ dump.reply.unnumbered,
          exchange.call.request = .setUnnumbered entry.1 entry.2 false) ∧
        (deletion.call.request = .unknownVrf owner false ∨
          ∃ vrfId, deletion.call.request = .addDelSession owner session.encap.sourceMac
            session.sessionId session.address vrfId false) := by
  have dumped : (vpp.dumpUnnumbered session.ifindex).1.exchanges = vpp.exchanges ++
      [⟨⟨.dumpUnnumbered session.ifindex, vpp.reply.executed⟩, vpp.reply⟩] := exchanges_called vpp _ _
  rcases foldl_setUnnumbered_issues (vpp.dumpUnnumbered session.ifindex).2
    (vpp.dumpUnnumbered session.ifindex).1 with ⟨removals, cleared, removes⟩
  rcases addPppoeSession_issues owner session false
    ((vpp.dumpUnnumbered session.ifindex).2.foldl (fun vpp entry =>
      (vpp.setUnnumbered entry.1 entry.2 false).1) (vpp.dumpUnnumbered session.ifindex).1) with
    ⟨deletion, deleted, request⟩
  refine ⟨⟨⟨.dumpUnnumbered session.ifindex, vpp.reply.executed⟩, vpp.reply⟩, removals, deletion,
    ?_, rfl, ?_, ?_⟩
  · unfold deprovisionDp
    dsimp only
    rw [deleted, cleared, dumped]
    simp
  · intro exchange member
    rcases removes exchange member with ⟨entry, isEntry, removal⟩
    unfold dumpUnnumbered at isEntry
    dsimp only at isEntry
    split at isEntry
    · rename_i executed
      exact ⟨executed, entry, isEntry, removal⟩
    · cases isEntry
  · rcases request with ⟨unknown, _⟩ | ⟨vrfId, delete, _⟩
    · exact .inl unknown
    · exact .inr ⟨vrfId, delete⟩

/-! ## What they do to the interfaces -/

end VPP

namespace Plane

/-- No index and no session is there twice. -/
structure Distinct (plane : Plane) : Prop where
  indices : ∀ first ∈ plane.interfaces, ∀ second ∈ plane.interfaces,
    first.index = second.index -> first = second
  sessions : ∀ first ∈ plane.interfaces, ∀ second ∈ plane.interfaces, forall mac sid,
    first.Serves mac sid -> second.Serves mac sid -> first = second

theorem Distinct.of_subset {before after : Plane} (distinct : before.Distinct)
    (fewer : ∀ interface ∈ after.interfaces, interface ∈ before.interfaces) : after.Distinct :=
  ⟨fun first isFirst second isSecond =>
      distinct.indices first (fewer first isFirst) second (fewer second isSecond),
    fun first isFirst second isSecond =>
      distinct.sessions first (fewer first isFirst) second (fewer second isSecond)⟩

/-- An interface that VPP has belongs to the session object alone. -/
theorem Distinct.owned {plane : Plane} (distinct : plane.Distinct) {index : UInt32} {owner : Nat}
    {mac : Mac} {sid : UInt16}
    (member : ⟨index, some (owner, mac, sid)⟩ ∈ plane.interfaces) : plane.Owned index owner := by
  refine ⟨⟨_, member, rfl⟩, fun interface isInterface same => ?_⟩
  rw [distinct.indices interface isInterface _ member same]
  rfl

/-- A lawful add command gives the session object an interface or fails. -/
theorem next_add {plane : Plane} (distinct : plane.Distinct) {exchange : VPPExchange} {owner : Nat}
    {mac : Mac} {sid : UInt16} {address vrfId : UInt32} (allowed : plane.Allows exchange)
    (request : exchange.call.request = .addDelSession owner mac sid address vrfId true) :
    (plane.next exchange).Distinct ∧ (plane.next exchange).interfaces =
      if exchange.call.ok then ⟨exchange.reply.swIfIndex, some (owner, mac, sid)⟩ :: plane.interfaces
      else plane.interfaces := by
  unfold Allows at allowed
  unfold next
  rw [request] at allowed ⊢
  dsimp only at allowed ⊢
  split
  · rename_i ok
    have fresh := allowed ok
    refine ⟨⟨?_, ?_⟩, rfl⟩
    · intro first isFirst second isSecond same
      rcases List.mem_cons.mp isFirst with new | old
      · rcases List.mem_cons.mp isSecond with also | other
        · rw [new, also]
        · rw [new] at same
          exact absurd same.symm (fresh second other).1
      · rcases List.mem_cons.mp isSecond with also | other
        · rw [also] at same
          exact absurd same (fresh first old).1
        · exact distinct.indices first old second other same
    · intro first isFirst second isSecond other number serves alsoServes
      have own : forall interface : Interface,
          interface = ⟨exchange.reply.swIfIndex, some (owner, mac, sid)⟩ ->
            interface.Serves other number -> (mac, sid) = (other, number) := by
        intro interface is served
        rw [is] at served
        exact Option.some.inj served
      rcases List.mem_cons.mp isFirst with new | old
      · rcases List.mem_cons.mp isSecond with also | elder
        · rw [new, also]
        · have key := Prod.mk.inj (own first new serves)
          rw [← key.1, ← key.2] at alsoServes
          exact absurd alsoServes (fresh second elder).2
      · rcases List.mem_cons.mp isSecond with also | elder
        · have key := Prod.mk.inj (own second also alsoServes)
          rw [← key.1, ← key.2] at serves
          exact absurd serves (fresh first old).2
        · exact distinct.sessions first old second elder other number serves alsoServes
  · exact ⟨distinct, rfl⟩

/-- A deletion takes away at most the interfaces of the session. -/
theorem next_deletion (plane : Plane) {exchange : VPPExchange} {owner : Nat} {mac : Mac} {sid : UInt16}
    {address : UInt32}
    (request : exchange.call.request = .unknownVrf owner false ∨
      ∃ vrfId, exchange.call.request = .addDelSession owner mac sid address vrfId false) :
    (∀ interface ∈ (plane.next exchange).interfaces, interface ∈ plane.interfaces) ∧
      ∀ interface ∈ plane.interfaces, ¬ interface.Serves mac sid ->
        interface ∈ (plane.next exchange).interfaces := by
  unfold next
  rcases request with unknown | ⟨vrfId, delete⟩
  · rw [unknown]
    exact ⟨fun _ member => member, fun _ member _ => member⟩
  · rw [delete]
    dsimp only
    refine ⟨fun _ member => (List.mem_filter.mp member).1, fun interface member other => ?_⟩
    exact List.mem_filter.mpr ⟨member, decide_eq_true other⟩

end Plane

namespace VPP

variable {units : Plane}

theorem provisionDp_issues (owner : Nat) (session : PPPOESession) (vpp : VPP) :
    ∃ exchange asides,
      (vpp.provisionDp owner session).1.exchanges = vpp.exchanges ++ exchange :: asides ∧
        (∀ aside ∈ asides, aside.call.request.isAside = true) ∧
        (exchange.call.request = .unknownVrf owner true ∧
            (vpp.provisionDp owner session).2.2 = session.ifindex ∨
          ∃ vrfId, exchange.call.request = .addDelSession owner session.encap.sourceMac
              session.sessionId session.address vrfId true ∧
            (vpp.provisionDp owner session).2.2 =
              if exchange.call.ok then exchange.reply.swIfIndex else session.ifindex) := by
  rcases addPppoeSession_issues owner session true vpp with ⟨exchange, added, request⟩
  unfold provisionDp
  dsimp only
  split
  · rename_i failed
    refine ⟨exchange, [], added, fun _ member => absurd member List.not_mem_nil, ?_⟩
    rcases request with ⟨unknown, _⟩ | ⟨vrfId, add, returned⟩
    · exact .inl ⟨unknown, rfl⟩
    · refine .inr ⟨vrfId, add, ?_⟩
      rw [returned] at failed
      split at failed
      · cases failed
      · rename_i refused
        rw [if_neg refused]
  · rename_i ifindex succeeded
    rcases Asides.settings.configure ifindex session (vpp.addPppoeSession owner session true).1 with
      ⟨asides, issued, aside⟩
    refine ⟨exchange, asides, by rw [issued, added, List.append_assoc]; rfl, aside, ?_⟩
    rcases request with ⟨_, none⟩ | ⟨vrfId, add, returned⟩
    · rw [none] at succeeded
      cases succeeded
    · refine .inr ⟨vrfId, add, ?_⟩
      rw [returned] at succeeded
      split at succeeded
      · rename_i ok
        rw [if_pos ok]
        exact (Option.some.inj succeeded).symm
      · cases succeeded

theorem lawful_of_provisionDp {owner : Nat} {session : PPPOESession} {vpp : VPP}
    (lawful : units.Lawful (vpp.provisionDp owner session).1.exchanges) :
    units.Lawful vpp.exchanges := by
  rcases provisionDp_issues owner session vpp with ⟨_, _, issued, _⟩
  rw [issued] at lawful
  exact (Plane.lawful_append.mp lawful).1

/-- `provision_dp` removes nothing, and the session object has the interface of
its new index, unless it has the index that it had. -/
theorem plane_provisionDp {owner : Nat} {session : PPPOESession} {vpp : VPP}
    (lawful : units.Lawful (vpp.provisionDp owner session).1.exchanges)
    (removes : units.RemovesOwn vpp.exchanges) (distinct : (vpp.plane units).Distinct) :
    units.RemovesOwn (vpp.provisionDp owner session).1.exchanges ∧
      ((vpp.provisionDp owner session).1.plane units).Distinct ∧
      (((vpp.provisionDp owner session).1.plane units).interfaces = (vpp.plane units).interfaces ∧
          (vpp.provisionDp owner session).2.2 = session.ifindex ∨
        ((vpp.provisionDp owner session).1.plane units).interfaces =
          ⟨(vpp.provisionDp owner session).2.2,
            some (owner, session.encap.sourceMac, session.sessionId)⟩ ::
              (vpp.plane units).interfaces) := by
  rcases provisionDp_issues owner session vpp with ⟨exchange, asides, issued, aside, request⟩
  unfold plane
  rw [issued] at lawful ⊢
  have parts := Plane.lawful_append.mp lawful
  have kept : (Plane.follow ((vpp.plane units).next exchange) asides).interfaces =
      ((vpp.plane units).next exchange).interfaces :=
    Plane.interfaces_follow_aside (fun other member => .inl (aside other member))
  have whole : (units.follow (vpp.exchanges ++ exchange :: asides)).interfaces =
      ((vpp.plane units).next exchange).interfaces := by
    rw [Plane.follow_append]
    exact kept
  have noRemoval : exchange.call.request.isRemoval = false := by
    rcases request with ⟨unknown, _⟩ | ⟨vrfId, add, _⟩
    · rw [unknown]
      rfl
    · rw [add]
      rfl
  have removesAll : units.RemovesOwn (vpp.exchanges ++ exchange :: asides) := by
    refine Plane.removesOwn_append removes (Plane.removesOwn_of_none (fun other member => ?_))
    rcases List.mem_cons.mp member with same | later
    · rw [same]
      exact noRemoval
    · have isAside := aside other later
      cases of : other.call.request with
      | setUnnumbered unnumbered iface isAdd =>
          rw [of] at isAside
          cases isAdd
          · cases isAside
          · rfl
      | _ => rfl
  have same : forall other : Plane, other.interfaces = ((vpp.plane units).next exchange).interfaces ->
      ((vpp.plane units).next exchange).Distinct -> other.Distinct := by
    intro other equal isDistinct
    refine isDistinct.of_subset (fun interface member => ?_)
    rw [← equal]
    exact member
  refine ⟨removesAll, ?_⟩
  rw [whole]
  rcases request with ⟨unknown, index⟩ | ⟨vrfId, add, index⟩
  · have unchanged : (vpp.plane units).next exchange = vpp.plane units := by
      unfold Plane.next
      rw [unknown]
    rw [unchanged] at same whole ⊢
    exact ⟨same _ whole distinct, .inl ⟨rfl, index⟩⟩
  · have next := Plane.next_add distinct parts.2.1 add
    refine ⟨same _ whole next.1, ?_⟩
    rw [next.2, index]
    split
    · exact .inr rfl
    · exact .inl ⟨rfl, rfl⟩

/-- What VPP has after `deprovision_dp`: the dump changes nothing. -/
theorem plane_of_issues {before after : VPP} {dump deletion : VPPExchange}
    {removals : List VPPExchange} {ifindex : UInt32}
    (issued : after.exchanges = before.exchanges ++ (dump :: (removals ++ [deletion])))
    (isDump : dump.call.request = .dumpUnnumbered ifindex) :
    after.plane units = ((before.plane units).follow removals).next deletion := by
  have dumped : (before.plane units).next dump = before.plane units := by
    unfold Plane.next
    rw [isDump]
  have started : (units.follow before.exchanges).follow (dump :: (removals ++ [deletion])) =
      ((before.plane units).next dump).follow (removals ++ [deletion]) := rfl
  unfold plane at dumped ⊢
  rw [issued, Plane.follow_append, started, plane, dumped, Plane.follow_append]
  rfl

/-- Removals leave the interfaces, and add no entry. -/
theorem follow_removals {plane : Plane} {removals : List VPPExchange}
    (removes : ∀ exchange ∈ removals, exchange.call.request.isRemoval = true) :
    (plane.follow removals).interfaces = plane.interfaces ∧
      (plane.unnumbered = [] -> (plane.follow removals).unnumbered = []) := by
  refine ⟨Plane.interfaces_follow_aside (fun exchange member => .inr (removes exchange member)), ?_⟩
  intro empty
  induction removals generalizing plane with
  | nil => exact empty
  | cons exchange rest inductionHypothesis =>
      refine inductionHypothesis (fun other member => removes other (List.mem_cons_of_mem _ member)) ?_
      have removal := removes exchange List.mem_cons_self
      unfold Plane.next
      split
      · split <;> exact empty
      · exact empty
      · rename_i request
        rw [request] at removal
        cases removal
      · split
        · dsimp only
          rw [empty]
          rfl
        · exact empty
      · exact empty

theorem isRemoval_of_issues {dump : VPPExchange} {removals : List VPPExchange}
    (removes : ∀ exchange ∈ removals, dump.reply.executed = true ∧
      ∃ entry ∈ dump.reply.unnumbered,
        exchange.call.request = .setUnnumbered entry.1 entry.2 false) :
    ∀ exchange ∈ removals, exchange.call.request.isRemoval = true := by
  intro exchange member
  rcases removes exchange member with ⟨_, entry, _, removal⟩
  rw [removal]
  rfl

/-- `deprovision_dp` gives VPP no interface and no entry. -/
theorem deprovisionDp_loses (owner : Nat) (session : PPPOESession) (vpp : VPP) :
    (units.Lawful (vpp.deprovisionDp owner session).exchanges -> units.Lawful vpp.exchanges) ∧
      (∀ interface ∈ ((vpp.deprovisionDp owner session).plane units).interfaces,
        interface ∈ (vpp.plane units).interfaces) ∧
      ((vpp.plane units).unnumbered = [] ->
        ((vpp.deprovisionDp owner session).plane units).unnumbered = []) := by
  rcases deprovisionDp_issues owner session vpp with
    ⟨dump, removals, deletion, issued, isDump, removes, isDeletion⟩
  have cleared := @follow_removals (vpp.plane units) removals (isRemoval_of_issues removes)
  rw [plane_of_issues issued isDump, issued]
  refine ⟨fun lawful => (Plane.lawful_append.mp lawful).1, ?_, fun empty => ?_⟩
  · intro interface member
    have before := (Plane.next_deletion ((vpp.plane units).follow removals) isDeletion).1 interface member
    rw [cleared.1] at before
    exact before
  · have none := cleared.2 empty
    unfold Plane.next
    rcases isDeletion with unknown | ⟨vrfId, delete⟩
    · rw [unknown]
      exact none
    · rw [delete]
      exact none

/-- `deprovision_dp` of a session object that has an interface, or when VPP has
no entry, removes entries of its own alone. -/
theorem plane_deprovisionDp {owner : Nat} {session : PPPOESession} {vpp : VPP}
    (lawful : units.Lawful (vpp.deprovisionDp owner session).exchanges)
    (removes : units.RemovesOwn vpp.exchanges) (distinct : (vpp.plane units).Distinct)
    (own : session.ifindex ≠ uint32Max ->
      ⟨session.ifindex, some (owner, session.encap.sourceMac, session.sessionId)⟩ ∈
        (vpp.plane units).interfaces)
    (harmless : session.ifindex = uint32Max -> (vpp.plane units).unnumbered = []) :
    units.RemovesOwn (vpp.deprovisionDp owner session).exchanges ∧
      ∀ interface ∈ (vpp.plane units).interfaces,
        ¬ interface.Serves session.encap.sourceMac session.sessionId ->
          interface ∈ ((vpp.deprovisionDp owner session).plane units).interfaces := by
  rcases deprovisionDp_issues owner session vpp with
    ⟨dump, removals, deletion, issued, isDump, isRemoval, isDeletion⟩
  rw [plane_of_issues issued isDump]
  rw [issued] at lawful ⊢
  have listed := (Plane.lawful_append.mp lawful).2.1
  unfold Plane.Allows at listed
  rw [isDump] at listed
  have dumped : (vpp.plane units).next dump = vpp.plane units := by
    unfold Plane.next
    rw [isDump]
  have owned : ∀ exchange ∈ removals, ∃ index iface,
      exchange.call.request = .setUnnumbered index iface false ∧
        (vpp.plane units).Owned index owner := by
    intro exchange member
    rcases isRemoval exchange member with ⟨executed, entry, isEntry, removal⟩
    refine ⟨entry.1, entry.2, removal, ?_⟩
    have known := (listed executed entry (List.mem_append_left _ isEntry)).mp isEntry
    by_cases unset : session.ifindex = uint32Max
    · have member : entry ∈ (vpp.plane units).unnumbered := known.1
      rw [harmless unset] at member
      cases member
    · rw [known.2.resolve_left unset]
      exact distinct.owned (own unset)
  have deleted : deletion.call.request.deletedFor = some owner := by
    rcases isDeletion with unknown | ⟨vrfId, delete⟩
    · rw [unknown]
      rfl
    · rw [delete]
      rfl
  refine ⟨Plane.removesOwn_append removes ⟨fun _ _ removal => ?_, ?_⟩, ?_⟩
  · rw [isDump] at removal
    cases removal
  · have tail := Plane.removesOwn_of_owned deleted owned
    rw [← dumped] at tail
    exact tail
  · have spared := (Plane.next_deletion ((vpp.plane units).follow removals) isDeletion).2
    rw [(follow_removals (isRemoval_of_issues isRemoval)).1] at spared
    exact spared

end VPP

end Pppcpd
