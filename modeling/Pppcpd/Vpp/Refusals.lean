import Pppcpd.Vpp.Units

namespace Pppcpd

open Foundation

/-!
# A start of which VPP refuses parts

VPP may refuse any request of the start, and the daemon goes on all the same.  What
it leaves then is still explained: an interface is one of before, with nothing added
to it, the new tap, or the interface of a configured unit with some of its settings.
The tables and the routes are those of before or configured ones.
-/

namespace Yaml.PPPOEGlobalConf

open Router

variable (conf : PPPOEGlobalConf)

/-- What an interface has that was there before: nothing more, except for its state and
its MTU, which the configuration may set. -/
structure Remains (former port : Port) : Prop where
  name : port.name = former.name
  kind : port.kind = former.kind
  table : port.table = former.table
  addresses : ∀ address ∈ port.addresses, address ∈ former.addresses
  lender : port.lender = none ∨ port.lender = former.lender
  up : port.up = former.up ∨
    ∃ iface ∈ conf.interfaces, iface.device = port.name ∧ port.up = iface.adminState
  mtu : port.mtu = former.mtu ∨
    ∃ iface ∈ conf.interfaces, iface.device = port.name ∧ port.mtu = iface.mtu

/-- What the tap of the daemon has. -/
structure IsTap (port : Port) : Prop where
  kind : port.kind = .tap
  table : port.table = 0
  addresses : port.addresses = []
  lender : port.lender = none
  mtu : port.mtu = none ∨
    ∃ iface ∈ conf.interfaces, iface.device = port.name ∧ port.mtu = iface.mtu

/-- An interface that does not come from a unit. -/
def Spared (before : Router) (index : UInt32) (port : Port) : Prop :=
  (∃ former, before.ports.lookup index = some former ∧ conf.Remains former port) ∨ conf.IsTap port

/-- What the interface of a configured unit has.  Its table is that of its VRF, or the
default one where VPP has not made that table.  A name of 63 bytes may also stand for a
table that the daemon has deleted. -/
structure IsUnit (nameOf : UInt32 -> Option Bytes) (device : Bytes) (subId : UInt16)
    (unit : InterfaceUnit) (port : Port) : Prop where
  configured : ∃ iface ∈ conf.interfaces, iface.device = device ∧ (subId, unit) ∈ VPPAPI.unitsOf iface
  name : port.name = subName device subId
  kind : ∃ parent, nameOf parent = some device ∧
    port.kind = .sub parent subId unit.vlan 0 (VPPAPI.subIfFlags unit.vlan 0)
  table : port.table = 0 ∨ (∃ vrf ∈ conf.vrfs, vrf.name = unit.vrf ∧ port.table = vrf.tableId) ∨
    unit.vrf.length = 63
  addresses : ∀ address ∈ port.addresses, unit.address = some address
  lender : ∀ place ∈ port.lender, nameOf place = some unit.unnumbered
  up : port.up = true -> unit.adminState = true
  mtu : port.mtu = none

/-- The tables and the routes are those of before or configured ones. -/
structure Confined (before after : Router) : Prop where
  tables : forall id name, after.layout.tables id = some name ->
    before.layout.tables id = some name ∨ ∃ vrf ∈ conf.vrfs, vrf.tableId = id ∧ vrf.name = name
  routes : forall id network hop, after.layout.routes id network = some hop ->
    before.layout.routes id network = some hop ∨
      ∃ route ∈ conf.routesOf id, route.destination.subnet = network ∧ route.nexthop = hop

/-- What VPP has when parts of the start were refused. -/
structure Within (before after : Router) : Prop extends Confined conf before after where
  ports : forall index port, after.ports.lookup index = some port ->
    conf.Spared before index port ∨
      ∃ device subId unit, conf.IsUnit after.nameOf device subId unit port

/-- So it is before the first unit is made. -/
structure Bare (before after : Router) : Prop extends Confined conf before after where
  ports : forall index port, after.ports.lookup index = some port -> conf.Spared before index port

variable {conf} {before router after : Router}

theorem Confined.of_same (confined : conf.Confined before router)
    (same : SameTables router after) : conf.Confined before after := by
  refine ⟨?_, ?_⟩
  · rw [same.layout_tables]
    exact confined.tables
  · rw [same.layout_routes]
    exact confined.routes

/-- A route of the configuration. -/
theorem Confined.addRoute (confined : conf.Confined before router) {id : UInt32}
    {route : StaticRIBEntry} (listed : route ∈ conf.routesOf id) :
    conf.Confined before (router.addRoute id route.destination route.nexthop) := by
  by_cases there : router.HasTable id
  · refine ⟨?_, fun other network hop found => ?_⟩
    · rw [tables_addRoute]
      exact confined.tables
    · rw [routes_addRoute there] at found
      split at found
      · rename_i here
        rw [here.1]
        exact .inr ⟨route, listed, here.2.symm, Option.some.inj found⟩
      · exact confined.routes other network hop found
  · rw [addRoute_of_absent there]
    exact confined

/-- A table of the configuration. -/
theorem Confined.addTable (confined : conf.Confined before router) {vrf : VRFConf}
    (listed : vrf ∈ conf.vrfs) : conf.Confined before (router.addTable vrf.tableId vrf.name) := by
  refine ⟨fun id name found => ?_, ?_⟩
  · rw [tables_addTable, Option.or_eq_some_iff] at found
    rcases found with old | ⟨_, new⟩
    · exact confined.tables id name old
    · split at new
      · rename_i here
        exact .inr ⟨vrf, listed, here.1.symm, Option.some.inj new⟩
      · cases new
  · rw [routes_addTable]
    exact confined.routes

theorem Confined.deleteTable (confined : conf.Confined before router) (id : UInt32) :
    conf.Confined before (router.deleteTable id) := by
  unfold Router.deleteTable
  split
  · exact confined
  · rename_i other
    refine ⟨fun place name found => ?_, fun place network hop found => ?_⟩
    · refine confined.tables place name ?_
      unfold Router.layout at found ⊢
      dsimp only at found ⊢
      split
      · rename_i isDefault
        rw [if_pos isDefault] at found
        cases found
      · rename_i notDefault
        rw [if_neg notDefault, Option.map_eq_some_iff] at found
        rcases found with ⟨table, isTable, isName⟩
        rw [Table.lookup_of_erase isTable, Option.map_some, isName]
    · refine confined.routes place network hop ?_
      unfold Router.layout at found ⊢
      dsimp only at found ⊢
      split
      · rename_i isDefault
        rw [if_pos isDefault] at found
        exact found
      · rename_i notDefault
        rw [if_neg notDefault, Option.bind_eq_some_iff] at found
        rcases found with ⟨table, isTable, isHop⟩
        rw [Table.lookup_of_erase isTable]
        exact isHop

theorem Spared.of_less {index : UInt32} {former port : Port} (spared : conf.Spared before index former)
    (less : Less former port) : conf.Spared before index port := by
  rcases spared with ⟨first, found, remains⟩ | tap
  · refine .inl ⟨first, found, less.name.trans remains.name, less.kind.trans remains.kind,
      less.table.trans remains.table,
      fun address member => remains.addresses address (less.addresses address member), ?_, ?_, ?_⟩
    · rcases less.lender with alone | same
      · exact .inl alone
      · rw [same]
        exact remains.lender
    · rw [less.up, less.name]
      exact remains.up
    · rw [less.mtu, less.name]
      exact remains.mtu
  · refine .inr ⟨less.kind.trans tap.kind, less.table.trans tap.table,
      List.eq_nil_iff_forall_not_mem.mpr (fun address member => ?_), ?_, ?_⟩
    · have listed := less.addresses address member
      rw [tap.addresses] at listed
      cases listed
    · rcases less.lender with alone | same
      · exact alone
      · exact same.trans tap.lender
    · rw [less.mtu, less.name]
      exact tap.mtu

/-- Removing requests leave nothing that was not there. -/
theorem Bare.fewer {stays : PortKind -> Prop} (bare : conf.Bare before router)
    (fewer : Fewer stays router after) : conf.Bare before after := by
  refine ⟨bare.toConfined.of_same fewer.toSameTables, fun index port found => ?_⟩
  rcases fewer.less index port found with ⟨former, isFormer, less⟩
  exact (bare.ports index former isFormer).of_less less

end Yaml.PPPOEGlobalConf

namespace VPPAPI

open Router Yaml.PPPOEGlobalConf

variable {conf : Yaml.PPPOEGlobalConf} {router : Router} {vpp : VPP}

/-- The entries of the map: names of 63 bytes may come from deletions, and all the others
are those of configured VRFs whose tables are there. -/
def Entered (conf : Yaml.PPPOEGlobalConf) (router : Router) (vpp : VPP) : Prop :=
  forall name id, name.length ≠ 63 -> vpp.vrfs.lookup name = some id ->
    router.HasTable id ∧ ∃ vrf ∈ conf.vrfs, vrf.name = name ∧ vrf.tableId = id

theorem Entered.of_tables {after : Router} (entered : Entered conf router vpp)
    (kept : forall id, router.HasTable id -> after.HasTable id) : Entered conf after vpp :=
  fun name id other found => (entered name id other found).imp_left (kept id)

end VPPAPI

namespace PPPOERuntime

open Router VPPAPI VppServer Yaml.PPPOEGlobalConf

variable {State : Type} {peer : VppServer State} {conf : Yaml.PPPOEGlobalConf}
  {before router : Router}

/-! ## Before the units -/

theorem any_setupTap (tapName : Bytes) (bare : conf.Bare before router) :
    peer.Meets (setupTap tapName) (fun _ after => conf.Bare before after) router := by
  unfold setupTap
  refine Server.Shows.bind (meets_removes isSub_of_isDevice (asks_getTapInterfaces isDevice)) ?_
  intro taps listed fewer
  refine Server.Shows.bind (meets_removes isSub_of_isDevice (asks_deleteTaps taps)) ?_
  intro _ emptied less
  have left := bare.fewer (fewer.trans less)
  refine Server.shows_bind (meets_createTap (fun tap name fresh free => ?_)
    (fun _ => Server.shows_done left))
  have isTap (up : Bool) : conf.IsTap { name := name, kind := .tap, up := up } :=
    ⟨rfl, rfl, rfl, rfl, .inl rfl⟩
  have isBare {after : Router} {up : Bool}
      (only : Only tap emptied { name := name, kind := .tap, up := up } after) :
      conf.Bare before after := by
    refine ⟨left.toConfined.of_same only.same, fun index port found => ?_⟩
    rw [only.ports] at found
    split at found
    · rw [← Option.some.inj found]
      exact .inr (isTap up)
    · exact left.ports index port found
  have made : Only tap emptied { name := name, kind := .tap } _ := .insert fresh free
  have raised := made.modify rfl (fun port => { port with up := true }) (fun _ => rfl)
  have registers {start : Router} (here : conf.Bare before start) :
      peer.Meets (do let _ <- addPppoeCp tap false; pure ()) (fun _ after => conf.Bare before after)
        start := Server.shows_bind (meets_addPppoeCp (fun _ => Server.shows_done here))
  exact Server.shows_bind (meets_setState (registers (isBare raised))
    (fun _ _ => registers (isBare made)))

theorem ports_deleteTable (router : Router) (id : UInt32) :
    (router.deleteTable id).ports = router.ports := by
  unfold Router.deleteTable
  split <;> rfl

/-- What the deletions enter has a name of 63 bytes. -/
theorem any_deleteVrfs (replies : Nat -> VPPReply) (bare : conf.Bare before router) :
    peer.Meets (deleteVrfs { replies := replies }) (fun vpp after => conf.Bare before after ∧
      (forall name, name.length ≠ 63 -> vpp.vrfs.lookup name = none) ∧
        vpp = { replies := replies, vrfs := vpp.vrfs }) router := by
  have fields : peer.Meets dumpVrfs (fun vrfs after => conf.Bare before after ∧
      ∀ vrf ∈ vrfs, vrf.1.length = 63) router :=
    meets_dumpVrfs (fun vrfs _ fields => ⟨bare, fields⟩) (fun _ => ⟨bare, nofun⟩)
  unfold deleteVrfs
  refine Server.Shows.bind fields (fun vrfs listed here => ?_)
  refine Server.Shows.loop_along (fun _ (vpp : VPP) router => conf.Bare before router ∧
    (forall name : Bytes, name.length ≠ 63 -> vpp.vrfs.lookup name = none) ∧
      vpp = { replies := replies, vrfs := vpp.vrfs }) (fun done vrf vpp router member kept => ?_) ?_
  · split
    · exact Server.shows_done kept
    · refine Server.shows_bind (meets_setVrf
        (Server.shows_done ⟨⟨kept.1.toConfined.deleteTable vrf.2, ?_⟩, ?_, ?_⟩)
        (fun _ => Server.shows_done kept))
      · show forall index port, (router.deleteTable vrf.2).ports.lookup index = some port -> _
        rw [ports_deleteTable]
        exact kept.1.ports
      · intro name other
        show (vpp.vrfs.emplace vrf.1 vrf.2).1.lookup name = none
        rw [Table.lookup_emplace, kept.2.1 name other, Option.none_or]
        refine if_neg (fun same => other ?_)
        rw [same]
        exact here.2 vrf member
      · show entered vrf.1 vrf.2 vpp = _
        rw [kept.2.2]
        rfl
  · exact ⟨here.1, fun _ _ => rfl, rfl⟩

theorem hasTable_addTable {id other : UInt32} (name : Bytes) (there : router.HasTable other) :
    (router.addTable id name).HasTable other := by
  rw [hasTable_iff] at there ⊢
  rcases there with isDefault | isSome
  · exact .inl isDefault
  · refine .inr ?_
    rw [tables_addTable, Option.isSome_or, isSome, Bool.true_or]

theorem hasTable_added (id : UInt32) (name : Bytes) : (router.addTable id name).HasTable id := by
  rw [hasTable_iff, tables_addTable]
  refine or_iff_not_imp_left.mpr (fun other => ?_)
  rw [if_pos ⟨rfl, other⟩, Option.isSome_or, Option.isSome_some, Bool.or_true]

/-- Routes of the configuration for a table. -/
theorem any_addRoutes {id : UInt32} {routes : List Yaml.StaticRIBEntry}
    (listed : ∀ route ∈ routes, route ∈ conf.routesOf id) (start : Router)
    (confined : conf.Confined before start) :
    peer.Meets (Dialogue.each (fun route : Yaml.StaticRIBEntry =>
        addRoute route.destination route.nexthop id) routes)
      (fun _ after => conf.Confined before after ∧ after.ports = start.ports ∧
        after.layout.tables = start.layout.tables) start := by
  refine Server.Shows.each_along (fun _ router => conf.Confined before router ∧
    router.ports = start.ports ∧ router.layout.tables = start.layout.tables)
    (fun done route router member kept => ?_) ⟨confined, rfl, rfl⟩
  refine meets_addRoute (fun _ => ⟨kept.1.addRoute (listed route member), ?_, ?_⟩)
    (fun _ _ => kept)
  · exact (ports_addRoute router id _ _).trans kept.2.1
  · exact (tables_addRoute router id _ _).trans kept.2.2

theorem mem_routesOf {vrf : Yaml.VRFConf} (listed : vrf ∈ conf.vrfs) {route : Yaml.StaticRIBEntry}
    (member : route ∈ vrf.rib.entries) : route ∈ conf.routesOf vrf.tableId :=
  List.mem_append_left _ (List.mem_flatMap.mpr
    ⟨vrf, List.mem_filter.mpr ⟨listed, beq_self_eq_true _⟩, member⟩)

theorem any_setupVrfs {replies : Nat -> VPPReply} {vpp : VPP} (bare : conf.Bare before router)
    (entered : Entered conf router vpp) (object : vpp = { replies := replies, vrfs := vpp.vrfs }) :
    peer.Meets (setupVrfs conf.vrfs vpp) (fun vpp after => conf.Bare before after ∧
      Entered conf after vpp ∧ vpp = { replies := replies, vrfs := vpp.vrfs }) router := by
  refine Server.Shows.loop_along (fun _ (vpp : VPP) router => conf.Bare before router ∧
    Entered conf router vpp ∧ vpp = { replies := replies, vrfs := vpp.vrfs })
    (fun done vrf vpp router member kept => ?_) ⟨bare, entered, object⟩
  refine Server.shows_bind (meets_setVrf ?_ (fun _ => Server.shows_done kept))
  rw [if_pos rfl, if_pos rfl]
  refine Server.Shows.bind (any_addRoutes (fun _ => mem_routesOf member)
    (router.addTable vrf.tableId vrf.name) (kept.1.toConfined.addTable member)) ?_
  rintro _ after ⟨confined, ports, tables⟩
  have still (id : UInt32) (there : (router.addTable vrf.tableId vrf.name).HasTable id) :
      after.HasTable id := by
    rw [hasTable_iff, tables]
    exact hasTable_iff.mp there
  refine Server.shows_done ⟨⟨confined, ?_⟩, fun name id other found => ?_, ?_⟩
  · rw [ports, ports_addTable]
    exact kept.1.ports
  · change (vpp.vrfs.emplace vrf.name vrf.tableId).1.lookup name = some id at found
    rw [Table.lookup_emplace, Option.or_eq_some_iff] at found
    rcases found with old | ⟨_, new⟩
    · rcases kept.2.1 name id other old with ⟨there, configured⟩
      exact ⟨still id (hasTable_addTable vrf.name there), configured⟩
    · split at new
      · rename_i same
        rw [← Option.some.inj new]
        exact ⟨still vrf.tableId (hasTable_added _ _), vrf, member, same.symm, rfl⟩
      · cases new
  · show VPPAPI.entered vrf.name vrf.tableId vpp = _
    rw [kept.2.2]
    rfl

theorem any_clearInterfaces (stale : UInt32 -> UInt8) (bare : conf.Bare before router) :
    peer.Meets (clearInterfaces stale)
      (fun _ after => conf.Bare before after ∧ SameTables router after) router :=
  (meets_removes isSub_of_isMain (asks_clearInterfaces isMain stale)).mono
    (fun _ _ fewer => ⟨bare.fewer fewer, fewer.toSameTables⟩)

end PPPOERuntime

namespace Yaml.PPPOEGlobalConf

open Router

variable {conf : PPPOEGlobalConf} {before start router : Router} {index : UInt32} {device : Bytes}
  {subId : UInt16} {unit : InterfaceUnit}

/-! ## The units -/

theorem IsUnit.of_named {nameOf other : UInt32 -> Option Bytes} {port : Port}
    (isUnit : conf.IsUnit nameOf device subId unit port)
    (kept : forall place name, nameOf place = some name -> other place = some name) :
    conf.IsUnit other device subId unit port := by
  rcases isUnit.kind with ⟨parent, isParent, isKind⟩
  exact { isUnit with
    kind := ⟨parent, kept parent device isParent, isKind⟩
    lender := fun place lends => kept place unit.unnumbered (isUnit.lender place lends) }

/-- Without its settings. -/
theorem IsUnit.fresh {nameOf : UInt32 -> Option Bytes} {parent : UInt32}
    (configured : ∃ iface ∈ conf.interfaces,
      iface.device = device ∧ (subId, unit) ∈ VPPAPI.unitsOf iface)
    (isParent : nameOf parent = some device) :
    conf.IsUnit nameOf device subId unit
      { name := subName device subId
        kind := .sub parent subId unit.vlan 0 (VPPAPI.subIfFlags unit.vlan 0) } :=
  ⟨configured, rfl, ⟨parent, isParent, rfl⟩, .inl rfl, nofun, nofun, nofun, rfl⟩

/-- While the units are made, the interfaces that were there at the start of it stay
spared, and the others come from units. -/
structure Laid (conf : PPPOEGlobalConf) (before start router : Router) : Prop where
  same : SameTables start router
  persist : Persist start router
  spared : forall index port, index ∈ start.ports -> router.ports.lookup index = some port ->
    conf.Spared before index port
  units : forall index port, index ∉ start.ports -> router.ports.lookup index = some port ->
    ∃ device subId unit, conf.IsUnit router.nameOf device subId unit port

/-- One of the interfaces is that of the unit at hand. -/
structure Making (conf : PPPOEGlobalConf) (before start : Router) (index : UInt32) (device : Bytes)
    (subId : UInt16) (unit : InterfaceUnit) (router : Router) : Prop
    extends Laid conf before start router where
  outside : index ∉ start.ports
  isUnit : router.Has index (fun port => conf.IsUnit router.nameOf device subId unit port)

theorem persist_modifyPort (router : Router) (index : UInt32) {change : Port -> Port}
    (keeps : forall port, (change port).name = port.name) :
    Persist router (router.modifyPort index change keeps) := by
  intro place port found
  rw [lookup_modifyPort, found]
  split
  · exact ⟨change port, rfl, keeps port⟩
  · exact ⟨port, rfl, rfl⟩

/-- A change of one interface. -/
theorem Laid.modify (laid : Laid conf before start router) (change : Port -> Port)
    (keeps : forall port, (change port).name = port.name)
    (spares : forall port, index ∈ start.ports -> router.ports.lookup index = some port ->
      conf.Spared before index port -> conf.Spared before index (change port))
    (units : forall port, index ∉ start.ports -> router.ports.lookup index = some port ->
      ∃ device subId unit, conf.IsUnit router.nameOf device subId unit (change port)) :
    Laid conf before start (router.modifyPort index change keeps) := by
  have sameName : (router.modifyPort index change keeps).nameOf = router.nameOf :=
    funext (fun place => nameOf_modifyPort router index place keeps)
  refine ⟨laid.same.trans ⟨rfl, rfl⟩, laid.persist.trans (persist_modifyPort router index keeps),
    fun other port inside found => ?_, fun other port outside found => ?_⟩
  · rw [lookup_modifyPort] at found
    split at found
    · rename_i here
      rcases Option.map_eq_some_iff.mp found with ⟨old, isOld, changed⟩
      rw [here] at inside isOld ⊢
      rw [← changed]
      exact spares old inside isOld (laid.spared index old inside isOld)
    · exact laid.spared other port inside found
  · rw [sameName]
    rw [lookup_modifyPort] at found
    split at found
    · rename_i here
      rcases Option.map_eq_some_iff.mp found with ⟨old, isOld, changed⟩
      rw [here] at outside isOld
      rw [← changed]
      exact units old outside isOld
    · exact laid.units other port outside found

/-- A setting of the unit at hand. -/
theorem Making.modify (making : Making conf before start index device subId unit router)
    (change : Port -> Port) (keeps : forall port, (change port).name = port.name)
    (settles : forall port, conf.IsUnit router.nameOf device subId unit port ->
      conf.IsUnit router.nameOf device subId unit (change port)) :
    Making conf before start index device subId unit (router.modifyPort index change keeps) := by
  rcases making.isUnit with ⟨port, found, isUnit⟩
  have sameName : (router.modifyPort index change keeps).nameOf = router.nameOf :=
    funext (fun place => nameOf_modifyPort router index place keeps)
  refine ⟨making.toLaid.modify change keeps (fun _ inside _ _ => absurd inside making.outside) ?_,
    making.outside, change port, ?_, ?_⟩
  · intro old _ isOld
    rw [found] at isOld
    rw [← Option.some.inj isOld]
    exact ⟨device, subId, unit, settles port isUnit⟩
  · rw [lookup_modifyPort, if_pos rfl, found]
    rfl
  · rw [sameName]
    exact settles port isUnit

/-- The interface of a unit, when it is made. -/
theorem Laid.make (laid : Laid conf before start router) {port : Port}
    (fresh : index ≠ uint32Max ∧ index ∉ router.ports) (free : router.Free port.name)
    (isUnit : conf.IsUnit router.nameOf device subId unit port) :
    Making conf before start index device subId unit (router.insertPort index port) := by
  have lookups := lookup_insertPort fresh free
  have persist : Persist router (router.insertPort index port) := by
    intro place old found
    refine ⟨old, ?_, rfl⟩
    rw [lookups, if_neg (fun same => fresh.2 ?_)]
    · exact found
    · rw [← same]
      exact Table.mem_iff_lookup.mpr ⟨old, found⟩
  have named (place : UInt32) (name : Bytes) (isName : router.nameOf place = some name) :
      (router.insertPort index port).nameOf place = some name := by
    rcases Option.map_eq_some_iff.mp isName with ⟨old, found, same⟩
    rcases persist place old found with ⟨later, isLater, still⟩
    rw [nameOf_of_lookup isLater, still, same]
  have outside : index ∉ start.ports := fun inside => fresh.2 (laid.persist.mem inside)
  refine ⟨⟨laid.same.trans (.insertPort router index port), laid.persist.trans persist,
    fun other old inside found => ?_, fun other old apart found => ?_⟩, outside, port, ?_, ?_⟩
  · have different : other ≠ index := by
      intro same
      rw [same] at inside
      exact outside inside
    rw [lookups, if_neg different] at found
    exact laid.spared other old inside found
  · rw [lookups] at found
    split at found
    · rw [← Option.some.inj found]
      exact ⟨device, subId, unit, isUnit.of_named named⟩
    · rcases laid.units other old apart found with ⟨device, subId, unit, isUnit⟩
      exact ⟨device, subId, unit, isUnit.of_named named⟩
  · rw [lookups, if_pos rfl]
  · exact isUnit.of_named named

end Yaml.PPPOEGlobalConf

namespace VPPAPI

open Router VppServer Yaml.PPPOEGlobalConf

variable {State : Type} {peer : VppServer State} {conf : Yaml.PPPOEGlobalConf}
  {before start router : Router} {index : UInt32} {device : Bytes} {subId : UInt16}
  {unit : Yaml.InterfaceUnit} {vpp : VPP}

/-- What a unit of the configuration takes from the map. -/
theorem table_of_entered {start : Router} (entered : Entered conf start vpp) (name : Bytes) :
    (vpp.vrfs.lookup name).getD 0 = 0 ∨
      (∃ vrf ∈ conf.vrfs, vrf.name = name ∧ (vpp.vrfs.lookup name).getD 0 = vrf.tableId) ∨
        name.length = 63 := by
  by_cases long : name.length = 63
  · exact .inr (.inr long)
  · cases found : vpp.vrfs.lookup name with
    | none => exact .inl rfl
    | some id =>
        rcases (entered name id long found).2 with ⟨vrf, listed, isName, isId⟩
        exact .inr (.inl ⟨vrf, listed, isName, isId.symm⟩)

/-- The settings of a unit, each of which may be refused. -/
theorem any_setupUnit (making : Making conf before start index device subId unit router)
    (entered : Entered conf start vpp) : peer.Meets (setupUnit vpp index unit)
      (fun _ after => Laid conf before start after) router := by
  have raised : peer.Meets (setState index unit.adminState)
      (fun _ after => Making conf before start index device subId unit after) router :=
    meets_setState (making.modify (fun port => { port with up := unit.adminState })
      (fun _ => rfl) (fun _ isUnit => { isUnit with up := id })) (fun _ _ => making)
  refine Server.Shows.bind raised (fun _ router making => ?_)
  have tabled : peer.Meets (setUnitTable vpp index unit.vrf)
      (fun _ after => Making conf before start index device subId unit after) router := by
    unfold setUnitTable
    split
    · exact Server.shows_done making
    · exact meets_setInterfaceTable (making.modify
        (fun port => { port with table := (vpp.vrfs.lookup unit.vrf).getD 0 }) (fun _ => rfl)
        (fun _ isUnit => { isUnit with table := table_of_entered entered unit.vrf }))
        (fun _ _ => making)
  refine Server.Shows.bind tabled (fun _ router making => ?_)
  have addressed : peer.Meets (setUnitAddress index unit.address)
      (fun _ after => Making conf before start index device subId unit after) router := by
    cases isAddress : unit.address with
    | none => exact Server.shows_done making
    | some address =>
        refine meets_setIp (making.modify (Port.setAddress address true) (fun _ => rfl)
          (fun port isUnit => ?_)) (fun _ _ => making)
        refine { isUnit with addresses := fun held member => ?_ }
        rcases List.mem_cons.mp (show held ∈ address :: _ from member) with same | other
        · rw [isAddress, same]
        · exact isUnit.addresses held (List.mem_filter.mp other).1
  refine Server.Shows.bind addressed (fun _ router making => ?_)
  unfold setUnitLender
  split
  · exact Server.shows_done making.toLaid
  · refine Server.shows_bind (meets_getIfaceByName (fun found isLender _ => ?_))
    cases found with
    | none => exact Server.shows_done making.toLaid
    | some lender =>
        refine meets_setUnnumbered ?_ (fun _ _ => making.toLaid)
        refine (making.modify (fun port => { port with lender := some lender }) (fun _ => rfl)
          (fun port isUnit => ?_)).toLaid
        refine { isUnit with lender := fun place lends => ?_ }
        rw [← Option.some.inj lends]
        exact isLender lender rfl

/-- One unit of an interface. -/
theorem any_makeUnit {parent : UInt32} {iface : Yaml.InterfaceConf} (laid : Laid conf before start router)
    (isParent : start.nameOf parent = some iface.device) (listed : iface ∈ conf.interfaces)
    (member : (subId, unit) ∈ unitsOf iface) (entered : Entered conf start vpp) :
    peer.Meets (makeUnit vpp parent (subId, unit))
      (fun _ after => Laid conf before start after) router := by
  refine Server.shows_bind (meets_addSubif (fun index port found fresh free => ?_)
    (fun result _ none => ?_))
  · have isDevice : port.name = iface.device := by
      rcases Option.map_eq_some_iff.mp isParent with ⟨old, isOld, same⟩
      rcases laid.persist parent old isOld with ⟨later, isLater, still⟩
      rw [found] at isLater
      rw [Option.some.inj isLater, still, same]
    rw [isDevice] at free ⊢
    have isUnit := IsUnit.fresh ⟨iface, listed, rfl, member⟩
      ((nameOf_of_lookup found).trans (congrArg some isDevice))
    exact any_setupUnit (laid.make fresh free isUnit) entered
  · cases result with
    | none => exact Server.shows_done laid
    | some index =>
        -- The error code is taken for a success, and what follows changes nothing.
        rw [none index rfl]
        refine (meets_setupUnit_absent unit router.reserved).mono (fun _ after same => ?_)
        rw [same]
        exact laid

/-- One interface with its units. -/
theorem any_setupInterface {parent : UInt32} {iface : Yaml.InterfaceConf}
    (laid : Laid conf before start router) (isParent : start.nameOf parent = some iface.device)
    (listed : iface ∈ conf.interfaces) (entered : Entered conf start vpp) :
    peer.Meets (setupInterface vpp parent iface)
      (fun _ after => Laid conf before start after) router := by
  rcases Option.map_eq_some_iff.mp isParent with ⟨old, isOld, isDevice⟩
  have inside : parent ∈ start.ports := Table.mem_iff_lookup.mpr ⟨old, isOld⟩
  have named {router : Router} (laid : Laid conf before start router) {port : Port}
      (found : router.ports.lookup parent = some port) : iface.device = port.name := by
    rcases laid.persist parent old isOld with ⟨later, isLater, still⟩
    rw [found] at isLater
    rw [Option.some.inj isLater, still, isDevice]
  have raised : peer.Meets (setState parent iface.adminState)
      (fun _ after => Laid conf before start after) router := by
    refine meets_setState (laid.modify (fun port => { port with up := iface.adminState })
      (fun _ => rfl) (fun port _ found spared => ?_) (fun _ outside => absurd inside outside))
      (fun _ _ => laid)
    have isName := named laid found
    rcases spared with ⟨former, isFormer, remains⟩ | tap
    · exact .inl ⟨former, isFormer, { remains with up := .inr ⟨iface, listed, isName, rfl⟩ }⟩
    · exact .inr { tap with }
  refine Server.Shows.bind raised (fun _ router laid => ?_)
  have sized : peer.Meets (setInterfaceMtu parent iface.mtu)
      (fun _ after => Laid conf before start after) router := by
    cases isMtu : iface.mtu with
    | none => exact Server.shows_done laid
    | some mtu =>
        refine meets_setMtu (laid.modify (fun port => { port with mtu := some mtu })
          (fun _ => rfl) (fun port _ found spared => ?_) (fun _ outside => absurd inside outside))
          (fun _ _ => laid)
        have isName := named laid found
        have sets : some mtu = iface.mtu := isMtu.symm
        rcases spared with ⟨former, isFormer, remains⟩ | tap
        · exact .inl ⟨former, isFormer,
            { remains with mtu := .inr ⟨iface, listed, isName, sets⟩ }⟩
        · exact .inr { tap with mtu := .inr ⟨iface, listed, isName, sets⟩ }
  refine Server.Shows.bind sized (fun _ router laid => ?_)
  exact Server.Shows.each_along (fun _ => Laid conf before start)
    (fun _ unit _ member laid => any_makeUnit laid isParent listed member entered)
    laid

theorem any_setupInterfaces (bare : conf.Bare before start) (entered : Entered conf start vpp) :
    peer.Meets (setupInterfaces vpp conf.interfaces)
      (fun _ after => Laid conf before start after) start := by
  unfold setupInterfaces
  have initial : Laid conf before start start := by
    refine ⟨.refl start, fun index port found => ⟨port, found, rfl⟩,
      fun index port _ found => bare.ports index port found, fun index port outside found => ?_⟩
    exact absurd (Table.mem_iff_lookup.mpr ⟨port, found⟩) outside
  have named : peer.Meets (getIfaces (fun _ => 0)) (fun vppIfs after => after = start ∧
      ∀ vppIf ∈ vppIfs, start.nameOf vppIf.swIfIndex = some vppIf.name) start := by
    refine meets_getIfaces (fun vppIfs lists => ⟨rfl, fun vppIf member => ?_⟩) (fun _ => ⟨rfl, nofun⟩)
    rcases lists.there vppIf member with ⟨port, found, isName, _⟩
    rw [nameOf_of_lookup found, isName]
  refine Server.Shows.bind named ?_
  rintro vppIfs _ ⟨rfl, named⟩
  refine Server.Shows.each_along (fun _ => Laid conf before _) (fun _ iface router listed laid => ?_)
    initial
  cases found : vppIfs.find? (fun vppIf => iface.device == vppIf.name) with
  | none => exact Server.shows_done laid
  | some vppIf =>
      have carries := List.find?_some found
      refine any_setupInterface laid ?_ listed entered
      rw [named vppIf (List.mem_of_find?_eq_some found), beq_iff_eq.mp carries]

end VPPAPI

namespace PPPOERuntime

open Router VPPAPI Yaml.PPPOEGlobalConf

/-- The parts of a start of which any may be refused. -/
theorem any_start {State : Type} {peer : VppServer State} {conf : Yaml.PPPOEGlobalConf}
    (stale : UInt32 -> UInt8) (replies : Nat -> VPPReply) (before : Router) :
    peer.Meets (start conf stale replies) (fun vpp after => conf.Within before after ∧
      Entered conf after vpp ∧ vpp = { replies := replies, vrfs := vpp.vrfs }) before := by
  have initial : conf.Bare before before := by
    refine ⟨⟨fun _ _ found => .inl found, fun _ _ _ found => .inl found⟩, fun index port found => ?_⟩
    exact .inl ⟨port, found, rfl, rfl, rfl, fun _ member => member, .inr rfl, .inl rfl, .inl rfl⟩
  unfold start
  refine Server.Shows.bind (any_setupTap conf.tapName initial) (fun _ tapped bare => ?_)
  refine Server.Shows.bind (any_deleteVrfs replies bare) (fun emptied router deleted => ?_)
  have none : Entered conf router emptied := by
    intro name id other found
    rw [deleted.2.1 name other] at found
    cases found
  refine Server.Shows.bind (any_setupVrfs deleted.1 none deleted.2.2) (fun vpp tabled made => ?_)
  refine Server.Shows.bind (any_clearInterfaces stale made.1) (fun _ cleared clear => ?_)
  have entered : Entered conf cleared vpp := made.2.1.of_tables (fun id there => by
    unfold HasTable at there ⊢
    rw [clear.2.tables]
    exact there)
  refine Server.Shows.bind (any_setupInterfaces clear.1 entered) (fun _ router laid => ?_)
  have listed : ∀ route ∈ conf.globalRib.entries, route ∈ conf.routesOf 0 :=
    fun route member => List.mem_append_right _ member
  refine Server.Shows.bind
    (any_addRoutes listed router (clear.1.toConfined.of_same laid.same)) ?_
  rintro _ after ⟨confined, ports, tables⟩
  have sameName : after.nameOf = router.nameOf := by
    funext index
    unfold nameOf
    rw [ports]
  refine Server.shows_done ⟨⟨confined, fun index port found => ?_⟩, ?_, made.2.2⟩
  · rw [ports] at found
    rw [sameName]
    by_cases inside : index ∈ cleared.ports
    · exact .inl (laid.spared index port inside found)
    · exact .inr (laid.units index port inside found)
  · refine entered.of_tables (fun id there => ?_)
    rw [hasTable_iff] at there ⊢
    rw [tables, laid.same.layout_tables]
    exact there

end PPPOERuntime

end Pppcpd
