import Pppcpd.Vpp.Vrfs

namespace Pppcpd

open Foundation

/-!
# The interfaces of the configuration

`setup_interfaces` goes by indices, and the configuration by names.  The two agree as
long as every index that VPP refers to is one of an interface that it has: then a
change of one interface, and a new one, change the layout at one name alone.
-/

namespace Router

/-! ## One name of the layout -/

/-- What the interfaces refer to is there. -/
def Closed (router : Router) : Prop :=
  forall index port, router.ports.lookup index = some port ->
    (forall lender, port.lender = some lender -> lender ∈ router.ports) ∧
      forall parent subId outerVlan innerVlan flags,
        port.kind = .sub parent subId outerVlan innerVlan flags -> parent ∈ router.ports

theorem nameOf_of_lookup {router : Router} {index : UInt32} {port : Port}
    (found : router.ports.lookup index = some port) : router.nameOf index = some port.name := by
  unfold nameOf
  rw [found]
  rfl

theorem nameOf_modifyPort (router : Router) (index place : UInt32) {change : Port -> Port}
    (keeps : forall port, (change port).name = port.name) :
    (router.modifyPort index change keeps).nameOf place = router.nameOf place := by
  unfold nameOf
  rw [lookup_modifyPort]
  split
  · rw [Option.map_map]
    exact congrArg (fun read => Option.map read (router.ports.lookup place)) (funext keeps)
  · rfl

/-- The view of an interface is the same wherever its references have the same names. -/
theorem view_congr {one other : Router} {port : Port}
    (lender : forall index, port.lender = some index -> one.nameOf index = other.nameOf index)
    (parent : forall index subId outerVlan innerVlan flags,
      port.kind = .sub index subId outerVlan innerVlan flags ->
        one.nameOf index = other.nameOf index) : one.view port = other.view port := by
  have sameKind : one.viewKind port.kind = other.viewKind port.kind := by
    cases isKind : port.kind with
    | device => rfl
    | tap => rfl
    | sub index subId outerVlan innerVlan flags =>
        exact congrArg (fun name => ViewKind.sub name subId outerVlan innerVlan flags)
          (parent index subId outerVlan innerVlan flags isKind)
  have sameLender : port.lender.bind one.nameOf = port.lender.bind other.nameOf := by
    cases isLender : port.lender with
    | none => rfl
    | some index => exact lender index isLender
  unfold view
  rw [sameKind, sameLender]

/-- After a step that gives one interface its place, the layout differs at the name of
that interface alone. -/
theorem ports_of_only {index : UInt32} {before after : Router} {port : Port}
    (only : Only index before port after) (closed : before.Closed)
    (keeps : forall old, before.ports.lookup index = some old -> old.name = port.name) :
    after.layout.ports = Function.update before.layout.ports port.name (some (after.view port)) := by
  have named (place : UInt32) (member : place ∈ before.ports) :
      after.nameOf place = before.nameOf place := by
    unfold nameOf
    rw [only.ports]
    split
    · rename_i same
      rcases Table.mem_iff_lookup.mp member with ⟨old, found⟩
      rw [same] at found
      rw [same, found]
      exact congrArg some (keeps old found).symm
    · rfl
  funext name
  unfold layout
  dsimp only
  rw [Function.update_apply]
  by_cases isName : name = port.name
  · rw [if_pos isName, isName, named_iff.mpr ⟨index, only.found, rfl⟩]
    rfl
  · rw [if_neg isName]
    cases found : before.named name with
    | none =>
        have free := named_eq_none_iff.mp found
        rw [free_iff] at free
        have absent : after.named name = none := by
          rw [named_eq_none_iff, free_iff]
          intro place other isOther
          rw [only.ports] at isOther
          split at isOther
          · rw [← Option.some.inj isOther]
            exact Ne.symm isName
          · exact free place other isOther
        rw [absent]
        rfl
    | some other =>
        rcases named_iff.mp found with ⟨place, isPlace, isOther⟩
        have different : place ≠ index := by
          intro same
          rw [same] at isPlace
          exact isName (isOther.symm.trans (keeps other isPlace))
        have still : after.ports.lookup place = some other := by
          rw [only.ports, if_neg different]
          exact isPlace
        rw [named_iff.mpr ⟨place, still, isOther⟩, Option.map_some, Option.map_some]
        have refers := closed place other isPlace
        exact congrArg some (view_congr (fun lender isLender => named lender (refers.1 lender isLender))
          (fun parent _ _ _ _ isKind => named parent (refers.2 parent _ _ _ _ isKind)))

theorem closed_of_only {index : UInt32} {before after : Router} {port : Port}
    (only : Only index before port after) (closed : before.Closed)
    (lender : forall place, port.lender = some place -> place ∈ after.ports)
    (parent : forall place subId outerVlan innerVlan flags,
      port.kind = .sub place subId outerVlan innerVlan flags -> place ∈ after.ports) :
    after.Closed := by
  have still (place : UInt32) (member : place ∈ before.ports) : place ∈ after.ports := by
    rw [Table.mem_iff_lookup] at member ⊢
    rw [only.ports]
    split
    · exact ⟨port, rfl⟩
    · exact member
  intro place other found
  rw [only.ports] at found
  split at found
  · rw [← Option.some.inj found]
    exact ⟨lender, parent⟩
  · exact ⟨fun lender isLender => still lender ((closed place other found).1 lender isLender),
      fun parent _ _ _ _ isKind => still parent ((closed place other found).2 parent _ _ _ _ isKind)⟩

/-- The interfaces of a state are in a later one, under their names. -/
def Persist (before after : Router) : Prop :=
  forall index port, before.ports.lookup index = some port ->
    ∃ later, after.ports.lookup index = some later ∧ later.name = port.name

theorem Persist.trans {first second third : Router} (left : Persist first second)
    (right : Persist second third) : Persist first third := by
  intro index port found
  rcases left index port found with ⟨middle, isMiddle, same⟩
  rcases right index middle isMiddle with ⟨later, isLater, again⟩
  exact ⟨later, isLater, again.trans same⟩

theorem persist_of_only {index : UInt32} {before after : Router} {port : Port}
    (only : Only index before port after)
    (keeps : forall old, before.ports.lookup index = some old -> old.name = port.name) :
    Persist before after := by
  intro place old found
  rw [only.ports]
  split
  · rename_i same
    rw [same] at found
    exact ⟨port, rfl, (keeps old found).symm⟩
  · exact ⟨old, found, rfl⟩

theorem Persist.mem {before after : Router} (persist : Persist before after) {index : UInt32}
    (member : index ∈ before.ports) : index ∈ after.ports := by
  rcases Table.mem_iff_lookup.mp member with ⟨port, found⟩
  rcases persist index port found with ⟨later, isLater, _⟩
  exact Table.mem_iff_lookup.mpr ⟨later, isLater⟩

end Router

namespace Yaml.PPPOEGlobalConf

theorem settle_concat (ifaces : List InterfaceConf) (iface : InterfaceConf) (name : Bytes)
    (view : PortView) : settle (ifaces ++ [iface]) name view =
      if iface.device = name then
        { settle ifaces name view with
          up := iface.adminState, mtu := iface.mtu.or (settle ifaces name view).mtu }
      else settle ifaces name view := by
  unfold settle
  rw [List.foldl_append]
  rfl

theorem planned_concat (there : Bytes -> Bool) (ifaces : List InterfaceConf)
    (iface : InterfaceConf) : planned there (ifaces ++ [iface]) = planned there ifaces ++
      if there iface.device then
        (VPPAPI.unitsOf iface).map (fun unit => (iface.device, unit))
      else [] := by
  unfold planned
  rw [List.filter_append, List.flatMap_append]
  by_cases isThere : there iface.device = true
  · simp [isThere]
  · simp [isThere]

end Yaml.PPPOEGlobalConf

namespace VPPAPI

open Router VppServer Yaml.PPPOEGlobalConf

variable {State : Type} {peer : VppServer State} {router : Router}

/-! ## One unit -/

/-- What `get_iface_by_name` finds has the name. -/
theorem meets_getIfaceByName {name : Bytes} {goal : Option UInt32 -> Router -> Prop}
    (reached : forall found, (forall index, found = some index -> router.nameOf index = some name) ->
      (peer.Willing -> found = none -> router.Free name) -> goal found router) :
    peer.Meets (getIfaceByName name) goal router := by
  refine Server.shows_bind (meets_getIfaces (fun ifaces lists => ?_) (fun unwilling => ?_))
  · refine Server.shows_done (reached _ (fun index found => ?_) (fun _ none => ?_))
    · rcases Option.map_eq_some_iff.mp found with ⟨iface, first, isIndex⟩
      have carries := List.find?_some first
      rcases lists.there iface (List.mem_of_find?_eq_some first) with ⟨port, isPort, isName, _⟩
      rw [← isIndex, nameOf_of_lookup isPort, ← isName, beq_iff_eq.mp carries]
    · rw [free_iff]
      intro index port found isName
      rcases List.mem_map.mp (lists.all index port found) with ⟨iface, member, isIndex⟩
      rcases lists.there iface member with ⟨other, isOther, sameName, _⟩
      rw [isIndex, found] at isOther
      have missed := List.find?_eq_none.mp (Option.map_eq_none_iff.mp none) iface member
      refine missed (beq_iff_eq.mpr ?_)
      rw [sameName, ← Option.some.inj isOther]
      exact isName
  · exact Server.shows_done (reached none nofun (fun willing => absurd willing unwilling))

/-- The settings of an interface that VPP does not have change nothing. -/
theorem meets_setupUnit_absent {vpp : VPP} {index : UInt32} (unit : Yaml.InterfaceUnit)
    (absent : index ∉ router.ports) :
    peer.Meets (setupUnit vpp index unit) (fun _ after => after = router) router := by
  have hasNot := fun has => absent (has_iff_mem.mp has)
  have state : peer.Meets (setState index unit.adminState) (fun _ after => after = router) router :=
    meets_setState (modifyPort_of_absent _ hasNot) (fun _ _ => rfl)
  have table : peer.Meets (setUnitTable vpp index unit.vrf) (fun _ after => after = router)
      router := by
    unfold setUnitTable
    split
    · exact Server.shows_done rfl
    · exact meets_setInterfaceTable (modifyPort_of_absent _ hasNot) (fun _ _ => rfl)
  have address : peer.Meets (setUnitAddress index unit.address) (fun _ after => after = router)
      router := by
    cases unit.address with
    | none => exact Server.shows_done rfl
    | some address => exact meets_setIp (modifyPort_of_absent _ hasNot) (fun _ _ => rfl)
  have lender : peer.Meets (setUnitLender index unit.unnumbered) (fun _ after => after = router)
      router := by
    unfold setUnitLender
    split
    · exact Server.shows_done rfl
    · refine Server.shows_bind (meets_getIfaceByName (fun found _ _ => ?_))
      cases found with
      | none => exact Server.shows_done rfl
      | some lender => exact meets_setUnnumbered (modifyPort_of_absent _ hasNot) (fun _ _ => rfl)
  refine Server.Shows.bind state ?_
  rintro _ _ rfl
  refine Server.Shows.bind table ?_
  rintro _ _ rfl
  refine Server.Shows.bind address ?_
  rintro _ _ rfl
  exact lender

/-- The lender is the interface with the name, and there is none where nothing has it. -/
structure Lends (router : Router) (name : Bytes) (lender : Option UInt32) : Prop where
  named : forall place, lender = some place -> name ≠ [] ∧ router.nameOf place = some name
  absent : lender = none -> name = [] ∨ router.Free name

section

variable {vpp : VPP} {index : UInt32} {before start : Router} {port : Port}

theorem meets_setUnitTable (willing : peer.Willing) {vrf : Bytes} (only : Only index before port start)
    (bare : port.addresses = []) (default : port.table = 0)
    (table : vrf ≠ [] -> start.HasTable ((vpp.vrfs.lookup vrf).getD 0)) :
    peer.Meets (setUnitTable vpp index vrf) (fun _ after => Only index before
      { port with table := if vrf = [] then 0 else (vpp.vrfs.lookup vrf).getD 0 } after) start := by
  unfold setUnitTable
  by_cases unnamed : vrf = []
  · rw [if_pos unnamed, if_pos unnamed, ← default]
    exact Server.shows_done only
  · rw [if_neg unnamed, if_neg unnamed]
    refine meets_setInterfaceTable ?_ (fun _ unable => ?_)
    · exact only.modify rfl
        (fun port => { port with table := (vpp.vrfs.lookup vrf).getD 0 }) (fun _ => rfl)
    · exact absurd ⟨⟨_, only.found, bare⟩, table unnamed⟩ (unable willing)

theorem meets_setUnitAddress (willing : peer.Willing) {address : Option Yaml.Network} (only : Only index before port start)
    (bare : port.addresses = []) :
    peer.Meets (setUnitAddress index address) (fun _ after => Only index before
      { port with addresses := address.toList } after) start := by
  cases address with
  | none =>
      rw [Option.toList_none, ← bare]
      exact Server.shows_done only
  | some address =>
      have numbered : port.setAddress address true = { port with addresses := [address] } := by
        unfold Port.setAddress
        rw [bare]
        rfl
      rw [Option.toList_some, ← numbered]
      exact meets_setIp (only.modify rfl (Port.setAddress address true) (fun _ => rfl))
        (fun _ unable => absurd ⟨_, only.found, trivial⟩ (unable willing))

theorem meets_setUnitLender (willing : peer.Willing) {unnumbered : Bytes} (only : Only index before port start)
    (alone : port.lender = none) :
    peer.Meets (setUnitLender index unnumbered) (fun _ after => ∃ lender,
      Only index before { port with lender := lender } after ∧ Lends after unnumbered lender)
      start := by
  have unlent : Only index before { port with lender := none } start := by
    rw [← alone]
    exact only
  unfold setUnitLender
  split
  · rename_i unnamed
    exact Server.shows_done ⟨none, unlent, nofun, fun _ => .inl unnamed⟩
  · rename_i borrows
    refine Server.shows_bind (meets_getIfaceByName (fun found named absent => ?_))
    cases found with
    | none => exact Server.shows_done ⟨none, unlent, nofun, fun _ => .inr (absent willing rfl)⟩
    | some place =>
        have isNamed := named place rfl
        refine meets_setUnnumbered ⟨some place, ?_, ?_, nofun⟩ (fun _ unable => ?_)
        · exact only.modify rfl (fun port => { port with lender := some place }) (fun _ => rfl)
        · rintro other same
          rw [← Option.some.inj same]
          refine ⟨borrows, ?_⟩
          show (start.modifyPort index (fun port => { port with lender := some place })
            (fun _ => rfl)).nameOf place = some unnumbered
          exact (nameOf_modifyPort start index place _).trans isNamed
        · rcases Option.map_eq_some_iff.mp isNamed with ⟨lender, isLender, _⟩
          exact absurd ⟨⟨_, only.found, trivial⟩, lender, isLender, trivial⟩ (unable willing)

/-- The settings of a new interface. -/
theorem meets_setupUnit (willing : peer.Willing) {name : Bytes} {kind : PortKind} (unit : Yaml.InterfaceUnit)
    (only : Only index before { name := name, kind := kind } start)
    (table : unit.vrf ≠ [] -> start.HasTable ((vpp.vrfs.lookup unit.vrf).getD 0)) :
    peer.Meets (setupUnit vpp index unit) (fun _ after => ∃ lender,
      Only index before
        { name := name
          kind := kind
          up := unit.adminState
          table := if unit.vrf = [] then 0 else (vpp.vrfs.lookup unit.vrf).getD 0
          addresses := unit.address.toList
          lender := lender } after ∧ Lends after unit.unnumbered lender) start := by
  refine Server.shows_bind (meets_setState ?_ (fun _ unable => ?_))
  · have raised := only.modify rfl (fun port => { port with up := unit.adminState }) (fun _ => rfl)
    refine Server.Shows.bind (meets_setUnitTable willing raised rfl rfl table)
      (fun _ moved isMoved => ?_)
    refine Server.Shows.bind (meets_setUnitAddress willing isMoved rfl)
      (fun _ numbered isNumbered => ?_)
    exact meets_setUnitLender willing isNumbered rfl
  · exact absurd ⟨_, only.found, trivial⟩ (unable willing)

end

/-! ## The loops -/

/-- The state of `setup_interfaces` after some interfaces and some units, on the
interfaces that were there when it began. -/
structure Built (conf : Yaml.PPPOEGlobalConf) (start : Router) (ifaces : List Yaml.InterfaceConf)
    (units : List (Bytes × UInt16 × Yaml.InterfaceUnit)) (router : Router) : Prop where
  same : SameTables start router
  persist : Persist start router
  closed : router.Closed
  ports : forall name, router.layout.ports name =
    match start.layout.ports name with
    | some view => some (settle ifaces name view)
    | none => conf.unitPorts (fun name => (start.layout.ports name).isSome) units name

/-- The name is one of the interfaces that were there, or of a unit. -/
theorem Built.isSome_ports {conf : Yaml.PPPOEGlobalConf} {start : Router}
    {ifaces : List Yaml.InterfaceConf} {units : List (Bytes × UInt16 × Yaml.InterfaceUnit)}
    (built : Built conf start ifaces units router) (name : Bytes) :
    (router.layout.ports name).isSome = ((start.layout.ports name).isSome ||
      (conf.unitPorts (fun name => (start.layout.ports name).isSome) units name).isSome) := by
  rw [built.ports]
  cases start.layout.ports name <;> rfl

theorem isSome_ports_iff {name : Bytes} :
    (router.layout.ports name).isSome = true ↔ ¬ router.Free name := by
  rw [← named_eq_none_iff, Option.isSome_iff_ne_none]
  exact not_congr Option.map_eq_none_iff

/-- A unit that is left out. -/
theorem Built.skip {conf : Yaml.PPPOEGlobalConf} {start : Router} {ifaces : List Yaml.InterfaceConf}
    {units : List (Bytes × UInt16 × Yaml.InterfaceUnit)}
    (built : Built conf start ifaces units router) (unit : Bytes × UInt16 × Yaml.InterfaceUnit)
    (taken : ¬ router.Free (subName unit.1 unit.2.1)) :
    Built conf start ifaces (units ++ [unit]) router := by
  refine ⟨built.same, built.persist, built.closed, ?_⟩
  have inUse := isSome_ports_iff.mpr taken
  rw [built.isSome_ports] at inUse
  have left : conf.unitPorts (fun name => (start.layout.ports name).isSome) (units ++ [unit]) =
      conf.unitPorts (fun name => (start.layout.ports name).isSome) units := by
    unfold unitPorts
    rw [List.foldl_append]
    exact if_pos inUse
  rw [left]
  exact built.ports

/-- The interface of a unit as it is set up. -/
def unitPort (vpp : VPP) (parent : UInt32) (device : Bytes) (subId : UInt16)
    (unit : Yaml.InterfaceUnit) (lender : Option UInt32) : Port where
  name := subName device subId
  kind := .sub parent subId unit.vlan 0 (subIfFlags unit.vlan 0)
  up := unit.adminState
  table := if unit.vrf = [] then 0 else (vpp.vrfs.lookup unit.vrf).getD 0
  addresses := unit.address.toList
  lender := lender

section

variable {conf : Yaml.PPPOEGlobalConf} {vpp : VPP} {start after : Router}
  {ifaces : List Yaml.InterfaceConf} {units : List (Bytes × UInt16 × Yaml.InterfaceUnit)}
  {index parent : UInt32} {device : Bytes} {subId : UInt16} {unit : Yaml.InterfaceUnit}
  {lender : Option UInt32}

/-- The view of a new unit is the one that is configured. -/
theorem view_unitPort (there : Bytes -> Bool) (isParent : router.nameOf parent = some device)
    (tables : unit.vrf ≠ [] -> vpp.vrfs.lookup unit.vrf = conf.tableOf unit.vrf)
    (lends : Lends router unit.unnumbered lender)
    (isThere : forall name, there name = true ↔ ¬ router.Free name) :
    router.view (unitPort vpp parent device subId unit lender) =
      conf.unitView there device subId unit := by
  have isLender : lender.bind router.nameOf =
      if unit.unnumbered ≠ [] ∧ there unit.unnumbered = true then some unit.unnumbered else none := by
    cases lender with
    | none =>
        refine (if_neg (fun both => ?_)).symm
        rcases lends.absent rfl with unnamed | free
        · exact both.1 unnamed
        · exact (isThere _).mp both.2 free
    | some place =>
        rcases lends.named place rfl with ⟨borrows, isNamed⟩
        rcases Option.map_eq_some_iff.mp isNamed with ⟨port, found, isName⟩
        have used : there unit.unnumbered = true := by
          rw [isThere, free_iff]
          exact fun free => free place port found isName
        rw [if_pos ⟨borrows, used⟩]
        exact isNamed
  have isTable : (if unit.vrf = [] then 0 else (vpp.vrfs.lookup unit.vrf).getD 0) =
      if unit.vrf = [] then 0 else (conf.tableOf unit.vrf).getD 0 := by
    split
    · rfl
    · rename_i named
      rw [tables named]
  unfold Router.view unitView unitPort viewKind
  dsimp only
  rw [isParent, isTable, isLender]

/-- A unit that is made. -/
theorem Built.make (built : Built conf start ifaces units router)
    (isParent : router.nameOf parent = some device)
    (tables : unit.vrf ≠ [] -> vpp.vrfs.lookup unit.vrf = conf.tableOf unit.vrf)
    (free : router.Free (subName device subId)) (fresh : index ∉ router.ports)
    (only : Only index router (unitPort vpp parent device subId unit lender) after)
    (lends : Lends after unit.unnumbered lender) :
    Built conf start ifaces (units ++ [(device, subId, unit)]) after := by
  have noOld : forall old, router.ports.lookup index = some old -> old.name = subName device subId :=
    fun old found => absurd (Table.mem_iff_lookup.mpr ⟨old, found⟩) fresh
  have persist := persist_of_only only noOld
  have stillParent : after.nameOf parent = some device := by
    rcases Option.map_eq_some_iff.mp isParent with ⟨port, found, isName⟩
    rcases persist parent port found with ⟨later, isLater, same⟩
    rw [nameOf_of_lookup isLater, same, isName]
  have mem_of_nameOf {place : UInt32} {name : Bytes} (isNamed : after.nameOf place = some name) :
      place ∈ after.ports := by
    rcases Option.map_eq_some_iff.mp isNamed with ⟨port, found, _⟩
    exact Table.mem_iff_lookup.mpr ⟨port, found⟩
  have changed : after.layout.ports = Function.update router.layout.ports (subName device subId)
      (some (after.view (unitPort vpp parent device subId unit lender))) :=
    ports_of_only only built.closed noOld
  have unused : ¬ (router.layout.ports (subName device subId)).isSome = true :=
    fun used => isSome_ports_iff.mp used free
  refine ⟨built.same.trans only.same, built.persist.trans persist, ?_, fun name => ?_⟩
  · refine closed_of_only only built.closed (fun place isLender => ?_) (fun place _ _ _ _ isKind => ?_)
    · exact mem_of_nameOf (lends.named place isLender).2
    · rw [← (PortKind.sub.inj isKind).1]
      exact mem_of_nameOf stillParent
  · rw [built.isSome_ports, Bool.or_eq_true, not_or] at unused
    have isView : after.view (unitPort vpp parent device subId unit lender) =
        conf.unitView (fun other => (start.layout.ports other).isSome ||
          (conf.unitPorts (fun name => (start.layout.ports name).isSome) units other).isSome ||
            other == subName device subId) device subId unit := by
      refine view_unitPort _ stillParent tables lends (fun other => ?_)
      rw [← isSome_ports_iff, changed, Function.update_apply, Bool.or_eq_true, beq_iff_eq,
        ← built.isSome_ports]
      by_cases here : other = subName device subId
      · rw [if_pos here]
        exact iff_of_true (.inr here) rfl
      · rw [if_neg here]
        exact or_iff_left here
    have more : conf.unitPorts (fun name => (start.layout.ports name).isSome)
        (units ++ [(device, subId, unit)]) = Function.update
          (conf.unitPorts (fun name => (start.layout.ports name).isSome) units)
            (subName device subId) (some (after.view (unitPort vpp parent device subId unit lender))) := by
      rw [isView]
      unfold unitPorts
      rw [List.foldl_append]
      refine if_neg ?_
      rw [Bool.or_eq_true, not_or]
      exact unused
    rw [changed, more, Function.update_apply, Function.update_apply, built.ports]
    by_cases here : name = subName device subId
    · rw [if_pos here, if_pos here, here, Option.not_isSome_iff_eq_none.mp unused.1]
    · rw [if_neg here, if_neg here]

/-- One unit of the loop. -/
theorem meets_makeUnit (willing : peer.Willing) (built : Built conf start ifaces units router)
    (isParent : router.nameOf parent = some device)
    (tables : unit.vrf ≠ [] -> vpp.vrfs.lookup unit.vrf = conf.tableOf unit.vrf)
    (there : start.HasTable ((conf.tableOf unit.vrf).getD 0)) :
    peer.Meets (makeUnit vpp parent (subId, unit))
      (fun _ after => Built conf start ifaces (units ++ [(device, subId, unit)]) after) router := by
  rcases Option.map_eq_some_iff.mp isParent with ⟨port, found, isName⟩
  refine Server.shows_bind (meets_addSubif (fun index same isSame fresh free => ?_)
    (fun result unable none => ?_))
  · rw [found] at isSame
    rw [← Option.some.inj isSame, isName] at free ⊢
    refine (meets_setupUnit willing unit (.insert fresh free) (fun named => ?_)).mono
      (fun _ after built' => ?_)
    · unfold HasTable
      rw [(SameTables.insertPort router _ _).tables, tables named, built.same.tables]
      exact there
    · rcases built' with ⟨lender, isUnit, lends⟩
      exact built.make isParent tables free fresh.2 isUnit lends
  · have taken : ¬ router.Free (subName device subId) := by
      intro free
      rw [← isName] at free
      exact unable willing ⟨port, found, free⟩
    have skipped := built.skip (device, subId, unit) taken
    cases result with
    | none => exact Server.shows_done skipped
    | some index =>
        rw [none index rfl]
        refine (meets_setupUnit_absent unit router.reserved).mono (fun _ after same => ?_)
        rw [same]
        exact skipped

/-! ## Interfaces -/

/-- The interface of a name is settled. -/
theorem Built.raise {iface : Yaml.InterfaceConf} {port : Port}
    (built : Built conf start ifaces units router)
    (found : router.ports.lookup index = some port) (isName : port.name = iface.device)
    (there : (start.layout.ports iface.device).isSome = true)
    (only : Only index router
      { port with up := iface.adminState, mtu := iface.mtu.or port.mtu } after) :
    Built conf start (ifaces ++ [iface]) units after := by
  have keeps : forall old, router.ports.lookup index = some old -> old.name = port.name := by
    intro old isOld
    rw [found] at isOld
    rw [Option.some.inj isOld]
  have persist := persist_of_only only keeps
  have refers := built.closed index port found
  have sameName (place : UInt32) (member : place ∈ router.ports) :
      after.nameOf place = router.nameOf place := by
    rcases Table.mem_iff_lookup.mp member with ⟨old, isOld⟩
    rcases persist place old isOld with ⟨later, isLater, same⟩
    rw [nameOf_of_lookup isOld, nameOf_of_lookup isLater, same]
  have sameView : after.view port = router.view port :=
    view_congr (fun lender isLender => sameName lender (refers.1 lender isLender))
      (fun parent _ _ _ _ isKind => sameName parent (refers.2 parent _ _ _ _ isKind))
  rcases Option.isSome_iff_exists.mp there with ⟨view, isView⟩
  have settled : settle ifaces iface.device view = router.view port := by
    have here := built.ports iface.device
    rw [isView] at here
    have named : router.layout.ports iface.device = some (router.view port) :=
      congrArg (Option.map router.view) (named_iff.mpr ⟨index, found, isName⟩)
    exact Option.some.inj (here.symm.trans named)
  refine ⟨built.same.trans only.same, built.persist.trans persist, ?_, fun name => ?_⟩
  · refine closed_of_only only built.closed (fun place isLender => ?_) (fun place _ _ _ _ isKind => ?_)
    · exact persist.mem (refers.1 place isLender)
    · exact persist.mem (refers.2 place _ _ _ _ isKind)
  · have changed : after.layout.ports = Function.update router.layout.ports iface.device
        (some { router.view port with
          up := iface.adminState, mtu := iface.mtu.or (router.view port).mtu }) := by
      rw [ports_of_only only built.closed keeps, ← sameView]
      rw [← isName]
      rfl
    rw [changed, Function.update_apply]
    by_cases here : name = iface.device
    · rw [if_pos here, here, isView]
      dsimp only
      rw [settle_concat, if_pos rfl, settled]
    · rw [if_neg here, built.ports]
      cases start.layout.ports name with
      | none => rfl
      | some other =>
          dsimp only
          rw [settle_concat, if_neg (Ne.symm here)]

/-- The configuration and the daemon agree on the tables of the units. -/
structure Equipped (conf : Yaml.PPPOEGlobalConf) (vpp : VPP) (router : Router)
    (ifaces : List Yaml.InterfaceConf) : Prop where
  vrfs : ∀ iface ∈ ifaces, ∀ unit ∈ unitsOf iface, unit.2.vrf ≠ [] ->
    vpp.vrfs.lookup unit.2.vrf = conf.tableOf unit.2.vrf
  tables : forall name, router.HasTable ((conf.tableOf name).getD 0)

theorem meets_setupInterface (willing : peer.Willing) {iface : Yaml.InterfaceConf}
    (built : Built conf start ifaces units router) (isStart : start.nameOf index = some iface.device)
    (equipped : Equipped conf vpp start [iface]) :
    peer.Meets (setupInterface vpp index iface) (fun _ after =>
      Built conf start (ifaces ++ [iface])
        (units ++ (unitsOf iface).map (fun unit => (iface.device, unit))) after) router := by
  rcases Option.map_eq_some_iff.mp isStart with ⟨old, isOld, isName⟩
  rcases built.persist index old isOld with ⟨port, found, same⟩
  have isDevice : port.name = iface.device := same.trans isName
  have there : (start.layout.ports iface.device).isSome = true := by
    rw [isSome_ports_iff, free_iff]
    exact fun free => free index old isOld isName
  refine Server.shows_bind (meets_setState ?_
    (fun _ unable => absurd ⟨_, found, trivial⟩ (unable willing)))
  have raised := (Only.refl found).modify rfl (fun port => { port with up := iface.adminState })
    (fun _ => rfl)
  have settle : peer.Meets (setInterfaceMtu index iface.mtu) (fun _ after => Only index router
      { port with up := iface.adminState, mtu := iface.mtu.or port.mtu } after)
      (router.modifyPort index (fun port => { port with up := iface.adminState }) (fun _ => rfl)) := by
    cases iface.mtu with
    | none => exact Server.shows_done raised
    | some mtu =>
        exact meets_setMtu
          (raised.modify rfl (fun port => { port with mtu := some mtu }) (fun _ => rfl))
          (fun _ unable => absurd ⟨_, raised.found, trivial⟩ (unable willing))
  refine Server.Shows.bind settle (fun _ settled only => ?_)
  have isSettled := built.raise found isDevice there only
  refine Server.Shows.each_along (fun done router => Built conf start (ifaces ++ [iface])
    (units ++ done.map (fun unit => (iface.device, unit))) router) (fun done unit router member built => ?_) ?_
  · rw [List.map_append, ← List.append_assoc]
    rcases built.persist index old isOld with ⟨later, isLater, sameLater⟩
    refine meets_makeUnit willing built ?_
      (equipped.vrfs iface (List.mem_singleton_self iface) unit member) (equipped.tables _)
    rw [nameOf_of_lookup isLater, sameLater, isName]
  · rw [List.map_nil, List.append_nil]
    exact isSettled

theorem Built.absent {iface : Yaml.InterfaceConf} (built : Built conf start ifaces units router)
    (absent : ¬ (start.layout.ports iface.device).isSome = true) :
    Built conf start (ifaces ++ [iface]) units router := by
  refine ⟨built.same, built.persist, built.closed, fun name => ?_⟩
  rw [built.ports]
  cases found : start.layout.ports name with
  | none => rfl
  | some view =>
      have different : iface.device ≠ name := by
        intro same
        rw [same, found] at absent
        exact absent rfl
      dsimp only
      rw [settle_concat, if_neg different]

/-- All interfaces of the configuration. -/
theorem meets_setupInterfaces (willing : peer.Willing) (all : List Yaml.InterfaceConf) (closed : start.Closed)
    (equipped : Equipped conf vpp start all) :
    peer.Meets (setupInterfaces vpp all) (fun _ after => Built conf start all
      (planned (fun name => (start.layout.ports name).isSome) all) after) start := by
  unfold setupInterfaces
  refine Server.shows_bind (meets_getIfaces (fun vppIfs lists => ?_) (absurd willing))
  refine Server.Shows.each_along (fun done router => Built conf start done
    (planned (fun name => (start.layout.ports name).isSome) done) router)
    (fun done iface router member built => ?_) ?_
  · have here : Equipped conf vpp start [iface] := by
      refine ⟨fun other isIface => ?_, equipped.tables⟩
      rw [List.mem_singleton.mp isIface]
      exact equipped.vrfs iface member
    rw [planned_concat]
    split
    · rename_i missed
      have absent : ¬ (start.layout.ports iface.device).isSome = true := by
        rw [isSome_ports_iff, not_not, free_iff]
        intro index port found isName
        rcases List.mem_map.mp (lists.all index port found) with ⟨vppIf, isListed, isIndex⟩
        rcases lists.there vppIf isListed with ⟨other, isOther, sameName, _⟩
        rw [isIndex, found] at isOther
        refine List.find?_eq_none.mp missed vppIf isListed (beq_iff_eq.mpr ?_)
        rw [sameName, ← Option.some.inj isOther, isName]
      rw [if_neg absent, List.append_nil]
      exact Server.shows_done (built.absent absent)
    · rename_i vppIf first
      have carries := List.find?_some first
      rcases lists.there vppIf (List.mem_of_find?_eq_some first) with ⟨port, found, sameName, _⟩
      have isName : port.name = iface.device := by
        rw [← sameName, beq_iff_eq.mp carries]
      have there : (start.layout.ports iface.device).isSome = true := by
        rw [isSome_ports_iff, free_iff]
        exact fun free => free vppIf.swIfIndex port found isName
      rw [if_pos there]
      refine meets_setupInterface willing built ?_ here
      rw [nameOf_of_lookup found, isName]
  · refine ⟨.refl start, fun index port found => ⟨port, found, rfl⟩, closed, fun name => ?_⟩
    cases start.layout.ports name <;> rfl

end

end VPPAPI

end Pppcpd
