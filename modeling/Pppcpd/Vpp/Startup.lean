import Pppcpd.Vpp.Units

namespace Pppcpd

open Foundation

/-!
# What VPP has after the start

The parts of the start follow each other: what VPP had before is reduced to its
devices and its default routes, and the configuration is laid out on them.  So a
willing VPP ends in the layout of the configuration whatever it had before, and a
restart leaves it as it is.
-/

namespace Router

/-- The layout of the interfaces depends on the interfaces alone. -/
theorem layout_ports_congr {one other : Router} (same : one.ports = other.ports) :
    one.layout.ports = other.layout.ports := by
  have sameName : one.nameOf = other.nameOf := by
    funext index
    unfold nameOf
    rw [same]
  funext name
  unfold layout named view
  have sameKind : one.viewKind = other.viewKind := by
    funext kind
    cases kind with
    | device => rfl
    | tap => rfl
    | sub => exact congrArg (fun names : UInt32 -> Option Bytes => ViewKind.sub (names _) _ _ _ _) sameName
  rw [same, sameName, sameKind]

end Router

namespace PPPOERuntime

open Router VPPAPI Yaml.PPPOEGlobalConf

variable {State : Type} {peer : VppServer State}

/-- What is left of the interfaces when they have been cleared: the tap, and the devices
without what they had. -/
theorem Tapped.lookup_cleared {before emptied tapped after : Router} {tap : UInt32} {name : Bytes}
    (isTapped : Tapped before tap name emptied tapped)
    (ports : forall index, after.ports.lookup index = (tapped.ports.lookup index).bind cleared)
    {index : UInt32} (other : index ≠ tap) {port : Port} :
    after.ports.lookup index = some port ↔ ∃ old, before.ports.lookup index = some old ∧
      old.kind = .device ∧ port = { old with addresses := [], lender := none } := by
  rw [ports, isTapped.only.ports, if_neg other, Option.bind_eq_some_iff]
  constructor
  · rintro ⟨left, isLeft, isPort⟩
    rcases isTapped.fewer.less index left isLeft with ⟨old, isOld, less⟩
    unfold cleared at isPort
    split at isPort
    · cases isPort
    · rename_i main
      refine ⟨old, isOld, ?_, ?_⟩
      · rw [← less.kind]
        cases isKind : left.kind with
        | device => rfl
        | tap => exact absurd ⟨left, isLeft, isKind⟩ (isTapped.untapped index)
        | sub =>
            rw [isKind] at main
            exact absurd rfl main
      · rw [← Option.some.inj isPort]
        cases left
        cases less
        simp_all only
  · rintro ⟨old, isOld, device, isPort⟩
    rcases Table.mem_iff_lookup.mp (isTapped.fewer.kept index old isOld device) with ⟨left, isLeft⟩
    rcases isTapped.fewer.less index left isLeft with ⟨same, isSame, less⟩
    rw [isOld] at isSame
    rw [← Option.some.inj isSame] at less
    have main : ¬ left.kind.isSub = true := by
      rw [less.kind, device]
      exact Bool.false_ne_true
    refine ⟨left, isLeft, (if_neg main).trans (congrArg some ?_)⟩
    rw [isPort]
    cases left
    cases less
    simp_all only

theorem Tapped.lookup_tap {before emptied tapped after : Router} {tap : UInt32} {name : Bytes}
    (isTapped : Tapped before tap name emptied tapped)
    (ports : forall index, after.ports.lookup index = (tapped.ports.lookup index).bind cleared) :
    after.ports.lookup tap = some { name := name, kind := .tap, up := true } := by
  rw [ports, isTapped.only.found]
  rfl

/-- The interfaces that are there before a unit is made. -/
theorem Tapped.ports_of_cleared {before emptied tapped after : Router} {tap : UInt32} {name : Bytes}
    (isTapped : Tapped before tap name emptied tapped)
    (ports : forall index, after.ports.lookup index = (tapped.ports.lookup index).bind cleared) :
    after.layout.ports = base name before.layout := by
  have isTap := isTapped.lookup_tap ports
  have isOther {index : UInt32} (other : index ≠ tap) {port : Port} :=
    @Tapped.lookup_cleared before emptied tapped after tap name isTapped ports index other port
  funext key
  unfold base
  by_cases isName : key = name
  · rw [if_pos isName, isName]
    show (after.named name).map after.view = _
    rw [named_iff.mpr ⟨tap, isTap, rfl⟩]
    rfl
  · rw [if_neg isName]
    show (after.named key).map after.view = ((before.named key).map before.view).bind kept
    cases found : before.named key with
    | none =>
        have absent : after.named key = none := by
          rw [named_eq_none_iff, free_iff] at found ⊢
          intro index port isPort same
          by_cases here : index = tap
          · rw [here, isTap] at isPort
            rw [← Option.some.inj isPort] at same
            exact isName same.symm
          · rcases (isOther here).mp isPort with ⟨old, isOld, _, isLeft⟩
            rw [isLeft] at same
            exact found index old isOld same
        rw [absent]
        rfl
    | some old =>
        rcases named_iff.mp found with ⟨index, isOld, same⟩
        rw [Option.map_some, Option.bind_some]
        by_cases device : old.kind = .device
        · have here : index ≠ tap := by
            intro here
            rw [here] at isOld
            exact isTapped.unused (isTapped.fewer.kept tap old isOld device)
          have isLeft := (isOther here).mpr ⟨old, isOld, device, rfl⟩
          rw [named_iff.mpr ⟨index, isLeft, same⟩]
          unfold Router.view kept
          rw [device]
          rfl
        · have absent : after.named key = none := by
            rw [named_eq_none_iff, free_iff]
            intro place port isPort isKey
            by_cases here : place = tap
            · rw [here, isTap] at isPort
              rw [← Option.some.inj isPort] at isKey
              exact isName isKey.symm
            · rcases (isOther here).mp isPort with ⟨other, isThere, isDevice, isLeft⟩
              rw [isLeft] at isKey
              have equal := before.distinct place index other old isThere isOld (isKey.trans same.symm)
              rw [equal, isOld] at isThere
              rw [Option.some.inj isThere] at device
              exact device isDevice
          rw [absent]
          unfold kept
          refine (if_neg ?_).symm
          unfold Router.view
          cases isKind : old.kind with
          | device => exact absurd isKind device
          | tap => exact nofun
          | sub => exact nofun

/-- An interface that is left refers to no other. -/
theorem closed_of_cleared {before after : Router}
    (ports : forall index, after.ports.lookup index = (before.ports.lookup index).bind cleared) :
    after.Closed := by
  intro index port found
  rw [ports] at found
  rcases Option.bind_eq_some_iff.mp found with ⟨old, _, left⟩
  unfold cleared at left
  split at left
  · cases left
  · rename_i whole
    rw [← Option.some.inj left]
    refine ⟨nofun, fun parent _ _ _ _ isKind => ?_⟩
    have isSub : old.kind.isSub = true := by
      rw [show old.kind = _ from isKind]
      rfl
    exact absurd isSub whole

/-- Every table that a VRF of the configuration stands for is there. -/
theorem hasTable_of_made {conf : Yaml.PPPOEGlobalConf} {start router : Router} {first vpp : VPP}
    (made : VrfsMade start first conf.vrfs vpp router) (name : Bytes) :
    router.HasTable ((conf.tableOf name).getD 0) := by
  rw [hasTable_iff, made.tables]
  unfold tableOf
  cases found : conf.vrfs.find? (fun vrf => vrf.name == name) with
  | none => exact .inl rfl
  | some vrf =>
      refine or_iff_not_imp_left.mpr (fun other => ?_)
      rw [if_neg other, Option.isSome_map, List.find?_isSome]
      exact ⟨vrf, List.mem_of_find?_eq_some found, beq_self_eq_true _⟩

/-- The parts of the start. -/
theorem meets_start (willing : peer.Willing) {conf : Yaml.PPPOEGlobalConf} (stale : UInt32 -> UInt8)
    (replies : Nat -> VPPReply) (before : Router)
    (named : ∀ iface ∈ conf.interfaces, ∀ unit ∈ unitsOf iface, unit.2.vrf.length ≠ 63) :
    peer.Meets (start conf stale replies) (fun vpp after =>
      (∃ tap, after.layout = conf.layout tap before.layout) ∧
        (forall name, name.length ≠ 63 -> vpp.vrfs.lookup name = conf.tableOf name) ∧
          vpp = { replies := replies, vrfs := vpp.vrfs }) before := by
  unfold start
  refine Server.Shows.bind (meets_setupTap willing conf.tapName before) ?_
  rintro _ tapped ⟨tap, name, emptied, isTapped⟩
  refine Server.Shows.bind (meets_deleteVrfs willing tapped { replies := replies }) ?_
  intro emptied router deleted
  have bare (id : UInt32) : router.layout.tables id = none := by
    unfold Router.layout
    dsimp only
    by_cases isDefault : id = 0
    · rw [if_pos isDefault]
    · rw [if_neg isDefault]
      cases found : router.tables.lookup id with
      | none => rfl
      | some table =>
          rcases deleted.tables id table isDefault found with ⟨_, member, _⟩
          cases member
  refine Server.Shows.bind (meets_setupVrfs willing conf.vrfs bare) (fun vpp tabled made => ?_)
  refine Server.Shows.bind (meets_clearInterfaces willing stale tabled) ?_
  rintro _ cleared ⟨sameCleared, clearedPorts⟩
  have vrfs (name : Bytes) (short : name.length ≠ 63) :
      vpp.vrfs.lookup name = conf.tableOf name := by
    rw [made.entered, deleted.entered name short]
    rfl
  have equipped : Equipped conf vpp cleared conf.interfaces := by
    refine ⟨fun iface member unit isUnit _ => vrfs _ (named iface member unit isUnit), fun name => ?_⟩
    unfold HasTable
    rw [sameCleared.tables]
    exact hasTable_of_made made name
  refine Server.Shows.bind
    (meets_setupInterfaces willing conf.interfaces (closed_of_cleared clearedPorts) equipped) ?_
  intro _ laid built
  refine Server.Shows.bind (meets_addRoutes willing (.inl rfl) conf.globalRib.entries) ?_
  rintro _ after ⟨samePorts, sameTables, routes⟩
  refine Server.shows_done ⟨⟨name, Layout.ext ?_ ?_ ?_⟩, vrfs, ?_⟩
  · have isBase : cleared.layout.ports = base name before.layout := by
      refine isTapped.ports_of_cleared (fun index => ?_)
      rw [clearedPorts, made.ports, deleted.ports]
    rw [layout_ports_congr samePorts]
    funext key
    rw [built.ports, isBase]
    rfl
  · funext id
    rw [sameTables, built.same.layout_tables, sameCleared.layout_tables, made.tables]
    rfl
  · funext id network
    have old : router.layout.routes id network =
        if id = 0 then before.layout.routes 0 network else none := by
      by_cases isDefault : id = 0
      · rw [if_pos isDefault, isDefault]
        unfold Router.layout
        dsimp only
        rw [if_pos rfl, if_pos rfl, deleted.defaultRoutes, isTapped.same.defaultRoutes]
      · have none := bare id
        unfold Router.layout at none ⊢
        dsimp only at none ⊢
        rw [if_neg isDefault] at none ⊢
        rw [Option.map_eq_none_iff.mp none, if_neg isDefault]
        rfl
    have listed : conf.routesOf id = routesIn conf.vrfs id ++
        if id = 0 then conf.globalRib.entries else [] := rfl
    rw [routes, built.same.layout_routes, sameCleared.layout_routes, made.routes, old,
      ← Option.or_assoc]
    show _ = (nextHop (conf.routesOf id) network).or _
    rw [listed, nextHop_append]
    by_cases isDefault : id = 0
    · rw [if_pos isDefault, if_pos isDefault, if_pos isDefault]
    · rw [if_neg isDefault, if_neg isDefault, if_neg isDefault]
      rfl
  · rw [made.object, deleted.object]

end PPPOERuntime

end Pppcpd
