import Pppcpd.Vpp.Clearing

namespace Pppcpd

open Foundation

/-!
# The tables of the configuration

Each VRF of the configuration becomes a table of VPP and an entry in the map of
`VPPAPI`, and its routes follow.  Where two VRFs share an id or a name, the table
keeps the name and the map keeps the id of the first, and the last route to a network
wins.
-/

namespace Yaml.PPPOEGlobalConf

theorem nextHop_append (earlier later : List StaticRIBEntry) (network : Network) :
    nextHop (earlier ++ later) network = (nextHop later network).or (nextHop earlier network) := by
  unfold nextHop
  rw [List.reverse_append, List.find?_append, Option.map_or]

theorem nextHop_singleton (route : StaticRIBEntry) (network : Network) :
    nextHop [route] network =
      if network = route.destination.subnet then some route.nexthop else none := by
  unfold nextHop
  by_cases same : network = route.destination.subnet
  · simp [same]
  · simp [same, Ne.symm same]

end Yaml.PPPOEGlobalConf

namespace Router

open Yaml.PPPOEGlobalConf

/-! ## Tables and routes -/

theorem SameTables.layout_tables {before after : Router} (same : SameTables before after) :
    after.layout.tables = before.layout.tables := by
  unfold layout
  rw [same.tables]

theorem SameTables.layout_routes {before after : Router} (same : SameTables before after) :
    after.layout.routes = before.layout.routes := by
  unfold layout
  rw [same.tables, same.defaultRoutes]

theorem hasTable_iff {router : Router} {id : UInt32} :
    router.HasTable id ↔ id = 0 ∨ (router.layout.tables id).isSome = true := by
  unfold HasTable layout
  dsimp only
  by_cases isDefault : id = 0
  · exact ⟨fun _ => .inl isDefault, fun _ => .inl isDefault⟩
  · rw [if_neg isDefault, Option.isSome_map, AList.lookup_isSome]

theorem tables_addTable (router : Router) (id : UInt32) (name : Bytes) (other : UInt32) :
    (router.addTable id name).layout.tables other =
      (router.layout.tables other).or (if other = id ∧ id ≠ 0 then some name else none) := by
  unfold addTable layout
  dsimp only
  by_cases isDefault : id = 0
  · rw [if_pos isDefault, if_neg (fun both : other = id ∧ id ≠ 0 => both.2 isDefault),
      Option.or_none]
  · rw [if_neg isDefault]
    dsimp only
    rw [Table.lookup_emplace]
    by_cases otherDefault : other = 0
    · rw [if_pos otherDefault, if_pos otherDefault, otherDefault,
        if_neg (fun both => isDefault both.1.symm)]
      rfl
    · rw [if_neg otherDefault, if_neg otherDefault, Option.map_or]
      by_cases same : other = id
      · rw [if_pos same, if_pos ⟨same, isDefault⟩]
        rfl
      · rw [if_neg same, if_neg (fun both => same both.1)]
        rfl

theorem routes_addTable (router : Router) (id : UInt32) (name : Bytes) :
    (router.addTable id name).layout.routes = router.layout.routes := by
  unfold addTable layout
  dsimp only
  by_cases isDefault : id = 0
  · rw [if_pos isDefault]
  · rw [if_neg isDefault]
    funext other network
    dsimp only
    rw [Table.lookup_emplace]
    split
    · rfl
    · cases router.tables.lookup other with
      | some table => rfl
      | none =>
          split
          · rfl
          · rfl

theorem ports_addTable (router : Router) (id : UInt32) (name : Bytes) :
    (router.addTable id name).ports = router.ports := by
  unfold addTable
  split <;> rfl

theorem ports_addRoute (router : Router) (id : UInt32) (destination : Yaml.Network)
    (nexthop : UInt32) : (router.addRoute id destination nexthop).ports = router.ports := by
  unfold addRoute
  split <;> rfl

theorem tables_addRoute (router : Router) (id : UInt32) (destination : Yaml.Network)
    (nexthop : UInt32) :
    (router.addRoute id destination nexthop).layout.tables = router.layout.tables := by
  unfold addRoute layout
  dsimp only
  split
  · rfl
  · funext other
    dsimp only
    rw [Table.lookup_modify_eq]
    split
    · rfl
    · split
      · rw [Option.map_map]
        rfl
      · rfl

/-- A route of a table that VPP does not have changes nothing. -/
theorem addRoute_of_absent {router : Router} {id : UInt32} (absent : ¬ router.HasTable id)
    (destination : Yaml.Network) (nexthop : UInt32) :
    router.addRoute id destination nexthop = router := by
  unfold HasTable at absent
  rw [not_or, Table.not_mem_iff_lookup] at absent
  unfold addRoute
  rw [if_neg absent.1]
  refine Router.ext rfl ?_ rfl
  show Table.modify id _ router.tables = router.tables
  unfold Table.modify
  rw [absent.2]

theorem routes_addRoute {router : Router} {id : UInt32} (there : router.HasTable id)
    (destination : Yaml.Network) (nexthop other : UInt32) (network : Yaml.Network) :
    (router.addRoute id destination nexthop).layout.routes other network =
      if other = id ∧ network = destination.subnet then some nexthop
      else router.layout.routes other network := by
  unfold addRoute layout
  dsimp only
  by_cases isDefault : id = 0
  · rw [if_pos isDefault]
    dsimp only
    by_cases same : other = 0
    · rw [if_pos same, if_pos same, Table.lookup_insert_eq]
      by_cases here : network = destination.subnet
      · rw [if_pos here, if_pos ⟨same.trans isDefault.symm, here⟩]
      · rw [if_neg here, if_neg (fun both => here both.2)]
    · rw [if_neg same, if_neg same, if_neg (fun both => same (both.1.trans isDefault))]
  · rw [if_neg isDefault]
    dsimp only
    by_cases otherDefault : other = 0
    · rw [if_pos otherDefault, if_pos otherDefault,
        if_neg (fun both => isDefault (both.1.symm.trans otherDefault))]
    · rw [if_neg otherDefault, if_neg otherDefault, Table.lookup_modify_eq]
      by_cases same : other = id
      · rcases Table.mem_iff_lookup.mp (there.resolve_left isDefault) with ⟨table, found⟩
        rw [if_pos same, same, found, Option.map_some, Option.bind_some, Option.bind_some]
        dsimp only
        rw [Table.lookup_insert_eq]
        by_cases here : network = destination.subnet
        · rw [if_pos here, if_pos ⟨rfl, here⟩]
        · rw [if_neg here, if_neg (fun both => here both.2)]
      · rw [if_neg same, if_neg (fun both => same both.1)]

end Router

namespace VPPAPI

open Router Yaml.PPPOEGlobalConf

variable {State : Type} {peer : VppServer State}

/-- Routes of one table. -/
theorem meets_addRoutes (willing : peer.Willing) {id : UInt32} {start : Router}
    (there : start.HasTable id) (routes : List Yaml.StaticRIBEntry) :
    peer.Meets (Dialogue.each (fun route : Yaml.StaticRIBEntry =>
        addRoute route.destination route.nexthop id) routes)
      (fun _ after => after.ports = start.ports ∧ after.layout.tables = start.layout.tables ∧
        forall other network, after.layout.routes other network =
          (if other = id then nextHop routes network else none).or
            (start.layout.routes other network)) start := by
  refine Server.Shows.each_along (fun done (router : Router) => router.ports = start.ports ∧
    router.layout.tables = start.layout.tables ∧ forall other network,
      router.layout.routes other network = (if other = id then nextHop done network else none).or
        (start.layout.routes other network)) ?_ ?_
  · rintro done route router _ ⟨ports, tables, routes⟩
    have still : router.HasTable id := by
      rw [hasTable_iff, tables]
      exact hasTable_iff.mp there
    refine meets_addRoute (fun _ => ⟨?_, ?_, fun other network => ?_⟩)
      (fun _ unable => absurd still (unable willing))
    · exact (ports_addRoute router id _ _).trans ports
    · exact (tables_addRoute router id _ _).trans tables
    · rw [routes_addRoute still, routes, nextHop_append, nextHop_singleton]
      by_cases same : other = id
      · rw [if_pos same, if_pos same]
        by_cases here : network = route.destination.subnet
        · rw [if_pos ⟨same, here⟩, if_pos here]
          rfl
        · rw [if_neg (fun both => here both.2), if_neg here]
          rfl
      · rw [if_neg same, if_neg same, if_neg (fun both => same both.1)]
  · refine ⟨rfl, rfl, fun other network => ?_⟩
    split <;> rfl

end VPPAPI

namespace PPPOERuntime

open Router VPPAPI Yaml.PPPOEGlobalConf

variable {State : Type} {peer : VppServer State}

/-- The routes of the tables with an id. -/
def routesIn (vrfs : List Yaml.VRFConf) (id : UInt32) : List Yaml.StaticRIBEntry :=
  (vrfs.filter (fun vrf => vrf.tableId == id)).flatMap (fun vrf => vrf.rib.entries)

theorem routesIn_concat (vrfs : List Yaml.VRFConf) (vrf : Yaml.VRFConf) (id : UInt32) :
    routesIn (vrfs ++ [vrf]) id =
      routesIn vrfs id ++ if id = vrf.tableId then vrf.rib.entries else [] := by
  unfold routesIn
  rw [List.filter_append, List.flatMap_append]
  by_cases same : id = vrf.tableId
  · simp [same]
  · simp [same, Ne.symm same]

/-- The tables of some VRFs are there, with their routes and with the entries of the map. -/
structure VrfsMade (start : Router) (first : VPP) (vrfs : List Yaml.VRFConf) (vpp : VPP)
    (router : Router) : Prop where
  ports : router.ports = start.ports
  tables : forall id, router.layout.tables id =
    if id = 0 then none else (vrfs.find? (fun vrf => vrf.tableId == id)).map Yaml.VRFConf.name
  routes : forall id network, router.layout.routes id network =
    (nextHop (routesIn vrfs id) network).or (start.layout.routes id network)
  entered : forall name, vpp.vrfs.lookup name = (first.vrfs.lookup name).or
    ((vrfs.find? (fun vrf => vrf.name == name)).map Yaml.VRFConf.tableId)
  object : vpp = { first with vrfs := vpp.vrfs }

theorem VrfsMade.next {start router after : Router} {first vpp : VPP} {vrfs : List Yaml.VRFConf}
    {vrf : Yaml.VRFConf} (made : VrfsMade start first vrfs vpp router)
    (ports : after.ports = (router.addTable vrf.tableId vrf.name).ports)
    (tables : after.layout.tables = (router.addTable vrf.tableId vrf.name).layout.tables)
    (routes : forall other network, after.layout.routes other network =
      (if other = vrf.tableId then nextHop vrf.rib.entries network else none).or
        ((router.addTable vrf.tableId vrf.name).layout.routes other network)) :
    VrfsMade start first (vrfs ++ [vrf]) (VPPAPI.entered vrf.name vrf.tableId vpp) after := by
  refine ⟨?_, fun id => ?_, fun id network => ?_, fun name => ?_, ?_⟩
  · rw [ports, ports_addTable]
    exact made.ports
  · rw [tables, tables_addTable, made.tables, List.find?_append, Option.map_or]
    by_cases isDefault : id = 0
    · rw [if_pos isDefault, if_pos isDefault,
        if_neg (fun both => both.2 (both.1.symm.trans isDefault))]
      rfl
    · rw [if_neg isDefault, if_neg isDefault]
      by_cases same : id = vrf.tableId
      · rw [if_pos ⟨same, fun zero => isDefault (same.trans zero)⟩]
        simp [same]
      · rw [if_neg (fun both => same both.1)]
        simp [Ne.symm same]
  · rw [routes, routes_addTable, made.routes, routesIn_concat, nextHop_append, Option.or_assoc]
    by_cases same : id = vrf.tableId
    · rw [if_pos same, if_pos same]
    · rw [if_neg same, if_neg same]
      rfl
  · show (vpp.vrfs.emplace vrf.name vrf.tableId).1.lookup name = _
    rw [Table.lookup_emplace, made.entered, List.find?_append, Option.map_or, Option.or_assoc]
    by_cases same : name = vrf.name
    · simp [same]
    · simp [same, Ne.symm same]
  · rw [made.object]
    rfl

theorem meets_setupVrfs (willing : peer.Willing) {start : Router} {vpp : VPP}
    (vrfs : List Yaml.VRFConf) (bare : forall id, start.layout.tables id = none) :
    peer.Meets (setupVrfs vrfs vpp) (fun result after => VrfsMade start vpp vrfs result after)
      start := by
  refine Server.Shows.loop_along (VrfsMade start vpp) ?_ ?_
  · intro done vrf vpp router _ made
    refine Server.shows_bind (meets_setVrf ?_ (absurd willing))
    rw [if_pos rfl, if_pos rfl]
    have there : (router.addTable vrf.tableId vrf.name).HasTable vrf.tableId := by
      rw [hasTable_iff, tables_addTable]
      by_cases isDefault : vrf.tableId = 0
      · exact .inl isDefault
      · refine .inr ?_
        rw [if_pos ⟨rfl, isDefault⟩, Option.or_some]
        rfl
    exact Server.Shows.bind (meets_addRoutes willing there vrf.rib.entries)
      (fun _ after added => Server.shows_done (made.next added.1 added.2.1 added.2.2))
  · refine ⟨rfl, fun id => ?_, fun id network => rfl, fun name => ?_, rfl⟩
    · rw [bare]
      split <;> rfl
    · exact Option.or_none.symm

end PPPOERuntime

end Pppcpd
