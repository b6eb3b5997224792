import Pppcpd.Vpp.Router

namespace Pppcpd

open Foundation

/-!
# The calls of the start

Each function of `VPPAPI` that the start uses sends one request.  There is one rule for
each: what VPP has afterwards and what the function returns, when VPP carries the request
out and when it refuses it.  The proofs about the start use these rules alone.
-/

namespace Router

/-! ## Changes of the interfaces -/

theorem lookup_insertPort {router : Router} {index : UInt32} {port : Port}
    (fresh : index ≠ uint32Max ∧ index ∉ router.ports) (free : router.Free port.name)
    (other : UInt32) : (router.insertPort index port).ports.lookup other =
      if other = index then some port else router.ports.lookup other := by
  unfold insertPort
  rw [dif_pos ⟨fresh.1, fresh.2, free⟩]
  exact Table.lookup_insert_eq index other port router.ports

theorem SameTables.insertPort (router : Router) (index : UInt32) (port : Port) :
    SameTables router (router.insertPort index port) := by
  unfold Router.insertPort
  split <;> exact ⟨rfl, rfl⟩

theorem lookup_modifyPort (router : Router) (index other : UInt32) {change : Port -> Port}
    (keeps : forall port, (change port).name = port.name) :
    (router.modifyPort index change keeps).ports.lookup other =
      if other = index then (router.ports.lookup other).map change else router.ports.lookup other :=
  Table.lookup_modify_eq index other change router.ports

theorem has_iff_mem {router : Router} {index : UInt32} :
    router.Has index (fun _ => True) ↔ index ∈ router.ports := by
  rw [Table.mem_iff_lookup]
  exact exists_congr (fun port => and_iff_left trivial)

/-- A change of an interface that VPP does not have changes nothing. -/
theorem modifyPort_of_absent {router : Router} {index : UInt32} {change : Port -> Port}
    (keeps : forall port, (change port).name = port.name)
    (absent : ¬ router.Has index (fun _ => True)) :
    router.modifyPort index change keeps = router := by
  rw [has_iff_mem, Table.not_mem_iff_lookup] at absent
  have same : Table.modify index change router.ports = router.ports := by
    unfold Table.modify
    rw [absent]
  exact Router.ext same rfl rfl

/-- One interface is as given, and all else is as before. -/
structure Only (index : UInt32) (before : Router) (port : Port) (after : Router) : Prop where
  same : SameTables before after
  ports : forall other, after.ports.lookup other =
    if other = index then some port else before.ports.lookup other

variable {router : Router} {index : UInt32} {before after : Router} {port : Port}

theorem Only.found (only : Only index before port after) :
    after.ports.lookup index = some port :=
  (only.ports index).trans (if_pos rfl)

theorem Only.refl (found : router.ports.lookup index = some port) :
    Only index router port router := by
  refine ⟨.refl router, fun other => ?_⟩
  split
  · rename_i same
    rw [same]
    exact found
  · rfl

theorem Only.insert (fresh : index ≠ uint32Max ∧ index ∉ router.ports)
    (free : router.Free port.name) : Only index router port (router.insertPort index port) :=
  ⟨.insertPort router index port, lookup_insertPort fresh free⟩

theorem Only.modify {place : UInt32} (only : Only index before port after) (here : place = index)
    (change : Port -> Port) (keeps : forall port, (change port).name = port.name) :
    Only index before (change port) (after.modifyPort place change keeps) := by
  rw [here]
  refine ⟨only.same.trans ⟨rfl, rfl⟩, fun other => ?_⟩
  rw [lookup_modifyPort, only.ports]
  split <;> rfl

end Router

namespace SetupReply

variable {reply : SetupReply}

theorem succeeded_iff : reply.succeeded = true ↔
    reply.available = true ∧ reply.executed = true ∧ reply.retval = 0 := by
  unfold succeeded
  rw [Bool.and_eq_true, Bool.and_eq_true, decide_eq_true_iff, and_assoc]

theorem nonneg_of_succeeded (succeeded : reply.succeeded = true) : 0 ≤ reply.retval :=
  le_of_eq (succeeded_iff.mp succeeded).2.2.symm

theorem Refuses.negative (refuses : reply.Refuses) : ¬ 0 ≤ reply.retval :=
  not_le.mpr refuses.retval

end SetupReply

namespace VPPAPI

open Router SetupReply VppServer

variable {State : Type} {peer : VppServer State} {router : Router}

/-! ## Taps -/

theorem meets_getTapInterfaces {goal : List UInt32 -> Router -> Prop}
    (lists : forall taps, (forall index, index ∈ taps ↔
      router.Has index (fun port => port.kind = .tap)) -> goal taps router)
    (refuses : ¬ peer.Willing -> goal [] router) : peer.Meets getTapInterfaces goal router := by
  refine meets_request (fun state reply permitted succeeded looks => ?_)
    (fun reply refused unable => ?_)
  · rcases peer.tapDump state _ reply permitted succeeded with ⟨same, listed⟩
    have sent := succeeded_iff.mp succeeded
    rw [same, looks, if_pos ⟨sent.1, sent.2.1⟩]
    refine lists _ (fun index => ?_)
    rw [List.mem_insertionSort, List.mem_dedup, ← looks]
    exact listed index
  · rw [refused.taps]
    have none := refuses (fun willing => unable willing trivial)
    split <;> exact none

theorem meets_deleteTap {index : UInt32} {goal : Bool -> Router -> Prop}
    (does : forall after, router.Has index (fun port => port.kind = .tap) ->
      Lost index router after -> goal true after)
    (refuses : (peer.Willing -> ¬ router.Has index (fun port => port.kind = .tap)) ->
      goal false router) : peer.Meets (deleteTap index) goal router := by
  refine meets_request (fun state reply permitted succeeded looks => ?_)
    (fun reply refused unable => ?_)
  · rcases peer.tapDelete state index reply permitted succeeded with ⟨isTap, lost⟩
    have sent := succeeded_iff.mp succeeded
    rw [looks] at isTap lost
    rw [decide_eq_true (⟨sent.1, sent.2.1, nonneg_of_succeeded succeeded⟩ : _ ∧ _ ∧ _)]
    exact does _ isTap lost
  · rw [decide_eq_false (fun all : _ ∧ _ ∧ _ => refused.negative all.2.2)]
    exact refuses unable

theorem meets_createTap {hostName : Bytes} {goal : Option UInt32 -> Router -> Prop}
    (does : forall index name, index ≠ uint32Max ∧ index ∉ router.ports -> router.Free name ->
      goal (some index) (router.insertPort index { name := name, kind := .tap }))
    (refuses : ¬ peer.Willing -> goal none router) :
    peer.Meets (createTap hostName) goal router := by
  refine meets_request (fun state reply permitted succeeded looks => ?_)
    (fun reply refused unable => ?_)
  · rcases peer.tapCreate state _ reply permitted succeeded with ⟨proper, fresh, name, free, made⟩
    have sent := succeeded_iff.mp succeeded
    rw [looks] at fresh free made
    rw [made, if_pos ⟨sent.1, sent.2.1, nonneg_of_succeeded succeeded⟩]
    exact does reply.swIfIndex name ⟨proper, fresh⟩ free
  · rw [if_neg (fun all : _ ∧ _ ∧ _ => refused.negative all.2.2)]
    exact refuses (fun willing => unable willing trivial)

theorem meets_addPppoeCp {index : UInt32} {toDel : Bool} {goal : Bool -> Router -> Prop}
    (reached : forall ok, goal ok router) : peer.Meets (addPppoeCp index toDel) goal router := by
  refine meets_request (fun state reply permitted succeeded looks => ?_) (fun _ _ _ => reached _)
  rw [peer.addDelCp state index true reply permitted succeeded, looks]
  exact reached _

/-! ## Changes of one interface -/

/-- A request that returns whether VPP has changed an interface. -/
theorem meets_change {request : SetupRequest} {index : UInt32} {change : Port -> Port}
    {keeps : forall port, (change port).name = port.name} {read : SetupReply -> Bool}
    {goal : Bool -> Router -> Prop}
    (effect : forall state reply, peer.permits state request reply -> reply.succeeded = true ->
      peer.has (peer.next state request reply) = (peer.has state).modifyPort index change keeps)
    (reads : forall reply, reply.succeeded = true -> read reply = true)
    (does : goal true (router.modifyPort index change keeps))
    (refuses : forall ok, (peer.Willing -> ¬ router.Able request) -> goal ok router) :
    peer.Meets (.call request read) goal router := by
  refine meets_request (fun state reply permitted succeeded looks => ?_)
    (fun reply _ unable => refuses _ unable)
  rw [effect state reply permitted succeeded, looks, reads reply succeeded]
  exact does

theorem meets_setState {index : UInt32} {adminState : Bool} {goal : Bool -> Router -> Prop}
    (does : goal true
      (router.modifyPort index (fun port => { port with up := adminState }) (fun _ => rfl)))
    (refuses : forall ok, (peer.Willing -> ¬ router.Has index (fun _ => True)) -> goal ok router) :
    peer.Meets (setState index adminState) goal router :=
  meets_change (fun state => peer.setFlags state index adminState)
    (fun _ succeeded => decide_eq_true (nonneg_of_succeeded succeeded)) does refuses

theorem meets_setMtu {index : UInt32} {mtu : UInt16} {goal : Bool -> Router -> Prop}
    (does : goal true
      (router.modifyPort index (fun port => { port with mtu := some mtu }) (fun _ => rfl)))
    (refuses : forall ok, (peer.Willing -> ¬ router.Has index (fun _ => True)) -> goal ok router) :
    peer.Meets (setMtu index mtu) goal router :=
  meets_change (fun state => peer.setMtu state index mtu)
    (fun _ succeeded => decide_eq_true (nonneg_of_succeeded succeeded)) does refuses

theorem meets_setIp {index : UInt32} {address : Yaml.Network} {isAdd : Bool}
    {goal : Bool -> Router -> Prop}
    (does : goal true (router.modifyPort index (Port.setAddress address isAdd) (fun _ => rfl)))
    (refuses : forall ok, (peer.Willing -> ¬ router.Able (.addressAddDel index address isAdd)) ->
      goal ok router) : peer.Meets (setIp index address isAdd) goal router :=
  meets_change (fun state => peer.addressAddDel state index address isAdd)
    (fun _ succeeded => decide_eq_true (nonneg_of_succeeded succeeded)) does refuses

theorem meets_setUnnumbered {index iface : UInt32} {isAdd : Bool} {goal : Bool -> Router -> Prop}
    (does : goal true (router.modifyPort index
      (fun port => { port with lender := if isAdd then some iface else none }) (fun _ => rfl)))
    (refuses : forall ok, (peer.Willing -> ¬ router.Able (.setUnnumbered index iface isAdd)) ->
      goal ok router) : peer.Meets (setUnnumbered index iface isAdd) goal router :=
  meets_change (fun state => peer.setUnnumbered state index iface isAdd)
    (fun _ succeeded => decide_eq_true (succeeded_iff.mp succeeded).2) does refuses

theorem meets_setInterfaceTable {index : UInt32} {vrf : Bytes} {vpp : VPP}
    {goal : Bool -> Router -> Prop}
    (does : goal true (router.modifyPort index
      (fun port => { port with table := (vpp.vrfs.lookup vrf).getD 0 }) (fun _ => rfl)))
    (refuses : forall ok, (peer.Willing ->
      ¬ router.Able (.setTable index ((vpp.vrfs.lookup vrf).getD 0))) -> goal ok router) :
    peer.Meets (setInterfaceTable index vrf vpp) goal router := by
  refine meets_change (fun state => peer.setTable state index _)
    (fun reply succeeded => decide_eq_true ?_) does refuses
  rw [(succeeded_iff.mp succeeded).2.2]
  decide

/-! ## Tables and routes -/

/-- The object after a successful call of `set_vrf`. -/
def entered (name : Bytes) (id : UInt32) (vpp : VPP) : VPP :=
  { vpp with vrfs := (vpp.vrfs.emplace name id).1 }

/-- `set_vrf` enters the name when VPP has done its part, and does nothing otherwise. -/
theorem meets_setVrf {name : Bytes} {id : UInt32} {isAdd : Bool} {vpp : VPP}
    {goal : VPP × Bool -> Router -> Prop}
    (does : goal (entered name id vpp, true)
      (if isAdd then router.addTable id name else router.deleteTable id))
    (refuses : ¬ peer.Willing -> goal (vpp, false) router) :
    peer.Meets (setVrf name id isAdd vpp) goal router := by
  refine meets_request (fun state reply permitted succeeded looks => ?_)
    (fun reply refused unable => ?_)
  · have sent := succeeded_iff.mp succeeded
    rw [sent.2.1, sent.2.2]
    cases isAdd with
    | true =>
        rw [peer.tableAdd state _ reply rfl permitted succeeded, looks]
        exact does
    | false =>
        rw [peer.tableDel state _ reply rfl permitted succeeded, looks]
        exact does
  · have failed (reply : VPPReply) (negative : reply.retval < 0) :
        (vpp.setVrf name id isAdd reply).1 = vpp ∧ (vpp.setVrf name id isAdd reply).2.2 = false := by
      unfold VPP.setVrf
      dsimp only
      rw [if_pos negative]
      exact ⟨by split <;> rfl, by split <;> rfl⟩
    rcases failed { executed := reply.executed, retval := reply.retval } refused.retval with ⟨same, no⟩
    dsimp only
    rw [same, no]
    exact refuses (fun willing => unable willing trivial)

theorem length_fieldOf (name : Bytes) : (fieldOf name).length = 63 := by
  unfold fieldOf
  rw [List.length_take, List.length_append, List.length_replicate]
  omega

/-- The names that are read have 63 bytes. -/
theorem meets_dumpVrfs {goal : List (Bytes × UInt32) -> Router -> Prop}
    (lists : forall vrfs, (forall id table, id ≠ 0 -> router.tables.lookup id = some table ->
      (fieldOf table.name, id) ∈ vrfs) -> (∀ vrf ∈ vrfs, vrf.1.length = 63) -> goal vrfs router)
    (refuses : ¬ peer.Willing -> goal [] router) : peer.Meets dumpVrfs goal router := by
  refine meets_request (fun state reply permitted succeeded looks => ?_)
    (fun reply refused unable => ?_)
  · rcases peer.tableDump state reply permitted succeeded with ⟨same, listed⟩
    rw [same, looks, if_pos (succeeded_iff.mp succeeded).2.1]
    refine lists _ (fun id table other found => ?_) (fun vrf member => ?_)
    · rw [← looks] at found
      exact List.mem_map.mpr ⟨_, listed id table other found, rfl⟩
    · rcases List.mem_map.mp member with ⟨table, _, same⟩
      rw [← same]
      exact length_fieldOf table.2
  · rw [refused.tables, List.map_nil, ite_self]
    exact refuses (fun willing => unable willing trivial)

theorem meets_addRoute {destination : Yaml.Network} {nexthop id : UInt32}
    {goal : Option UInt32 -> Router -> Prop}
    (does : forall result, goal result (router.addRoute id destination nexthop))
    (refuses : forall result, (peer.Willing -> ¬ router.HasTable id) -> goal result router) :
    peer.Meets (addRoute destination nexthop id) goal router := by
  refine meets_request (fun state reply permitted succeeded looks => ?_)
    (fun reply _ unable => refuses _ unable)
  rw [peer.routeAddDel state _ reply rfl permitted succeeded, looks]
  exact does _

/-! ## Lists of interfaces -/

/-- The interfaces of a dump are those that VPP has. -/
structure Lists (router : Router) (ifaces : List VPPInterface) : Prop where
  nodup : (ifaces.map VPPInterface.swIfIndex).Nodup
  all : forall index port, router.ports.lookup index = some port ->
    index ∈ ifaces.map VPPInterface.swIfIndex
  there : ∀ iface ∈ ifaces, router.Has iface.swIfIndex (fun port =>
    iface.name = port.name ∧ (port.kind.isSub = true -> iface.type = IfaceType.subif))

theorem meets_getIfaces {stale : UInt32 -> UInt8} {goal : List VPPInterface -> Router -> Prop}
    (lists : forall ifaces, Lists router ifaces -> goal ifaces router)
    (refuses : ¬ peer.Willing -> goal [] router) : peer.Meets (getIfaces stale) goal router := by
  refine meets_request (fun state reply permitted succeeded looks => ?_)
    (fun reply refused unable => ?_)
  · rcases peer.interfaceDump state reply permitted succeeded with ⟨unchanged, nodup, listed⟩
    rw [looks] at unchanged listed
    rw [unchanged]
    have indices : (reply.ifaces.map (ifaceOf stale)).map VPPInterface.swIfIndex =
        reply.ifaces.map InterfaceDetails.swIfIndex := by
      rw [List.map_map]
      rfl
    refine lists _ ⟨?_, fun index port found => ?_, fun iface member => ?_⟩
    · rw [indices]
      exact nodup
    · rcases listed index (.inl (Table.mem_iff_lookup.mpr ⟨port, found⟩)) with
        ⟨details, member, isIndex, _⟩
      rw [indices]
      exact List.mem_map.mpr ⟨details, member, isIndex⟩
    · rcases List.mem_map.mp member with ⟨details, isDetails, same⟩
      rcases listed details.swIfIndex (.inr (List.mem_map.mpr ⟨details, isDetails, rfl⟩)) with
        ⟨other, isOther, sameIndex, port, found, isName, isSub⟩
      have equal : other = details :=
        List.inj_on_of_nodup_map nodup isOther isDetails sameIndex
      rw [equal] at isName isSub
      rw [← same]
      refine ⟨port, found, isName, fun sub => ?_⟩
      exact if_pos (isSub.trans sub)
  · rw [refused.ifaces]
    exact refuses (fun willing => unable willing trivial)

/-- The addresses of one interface. -/
theorem meets_dumpIp {index : UInt32} {goal : List (UInt32 × Yaml.Network) -> Router -> Prop}
    (lists : forall entries : List (UInt32 × Yaml.Network), (forall entry, entry ∈ entries ↔
      entry.1 = index ∧ router.Has index (fun port => entry.2 ∈ port.addresses)) ->
        goal entries router)
    (refuses : ¬ peer.Willing -> goal [] router) : peer.Meets (dumpIp index) goal router := by
  refine meets_request (fun state reply permitted succeeded looks => ?_)
    (fun reply refused unable => ?_)
  · rcases peer.addressDump state index reply permitted succeeded with ⟨same, listed⟩
    rw [looks] at same listed
    rw [same, if_pos (succeeded_iff.mp succeeded).2.1]
    exact lists _ listed
  · rw [refused.addresses, ite_self]
    exact refuses (fun willing => unable willing trivial)

/-- The unnumbered entries of one interface. -/
theorem meets_dumpUnnumbered {index : UInt32} {goal : List (UInt32 × UInt32) -> Router -> Prop}
    (lists : forall entries : List (UInt32 × UInt32), (forall entry, entry ∈ entries ↔
      entry.1 = index ∧ router.Has index (fun port => port.lender = some entry.2)) ->
        goal entries router)
    (refuses : ¬ peer.Willing -> goal [] router) : peer.Meets (dumpUnnumbered index) goal router := by
  refine meets_request (fun state reply permitted succeeded looks => ?_)
    (fun reply refused unable => ?_)
  · rcases peer.unnumberedDump state index reply permitted succeeded with ⟨same, listed⟩
    rw [looks] at same listed
    rw [same, if_pos (succeeded_iff.mp succeeded).2.1]
    exact lists _ listed
  · rw [refused.unnumbered, ite_self]
    exact refuses (fun willing => unable willing trivial)

/-! ## Subinterfaces -/

theorem meets_delSubif {index : UInt32} {goal : Bool -> Router -> Prop}
    (does : forall after, router.Has index (fun port => port.kind.isSub = true) ->
      Lost index router after -> goal true after)
    (refuses : (peer.Willing -> ¬ router.Has index (fun port => port.kind.isSub = true)) ->
      goal false router) : peer.Meets (delSubif index) goal router := by
  refine meets_request (fun state reply permitted succeeded looks => ?_)
    (fun reply refused unable => ?_)
  · rcases peer.deleteSubif state index reply permitted succeeded with ⟨isSub, lost⟩
    rw [looks] at isSub lost
    rw [decide_eq_true (nonneg_of_succeeded succeeded)]
    exact does _ isSub lost
  · rw [decide_eq_false refused.negative]
    exact refuses unable

/-- Where VPP refuses the new interface, the result is none or the index ~0. -/
theorem meets_addSubif {parent : UInt32} {subId outerVlan innerVlan : UInt16}
    {goal : Option UInt32 -> Router -> Prop}
    (does : forall index port, router.ports.lookup parent = some port ->
      index ≠ uint32Max ∧ index ∉ router.ports -> router.Free (subName port.name subId) ->
        goal (some index) (router.insertPort index
          { name := subName port.name subId
            kind := .sub parent subId outerVlan innerVlan (subIfFlags outerVlan innerVlan) }))
    (refuses : forall result, (peer.Willing -> ¬ router.Has parent (fun port =>
      router.Free (subName port.name subId))) -> (∀ index ∈ result, index = uint32Max) ->
        goal result router) :
    peer.Meets (addSubif parent subId outerVlan innerVlan) goal router := by
  refine meets_request (fun state reply permitted succeeded looks => ?_)
    (fun reply refused unable => ?_)
  · rcases peer.createSubif state parent subId _ _ _ reply permitted succeeded with
      ⟨proper, fresh, port, found, free, made⟩
    have done : reply.retval ≠ -1 := by
      rw [(succeeded_iff.mp succeeded).2.2]
      decide
    rw [looks] at fresh found free made
    rw [made, if_neg done]
    exact does reply.swIfIndex port found ⟨proper, fresh⟩ free
  · refine refuses _ unable (fun index isIndex => ?_)
    split at isIndex
    · cases isIndex
    · rw [← Option.some.inj isIndex]
      exact refused.swIfIndex

end VPPAPI

end Pppcpd
