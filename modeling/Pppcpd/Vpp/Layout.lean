import Mathlib.Logic.Function.Basic
import Pppcpd.Vpp.Router

namespace Pppcpd

open Foundation

/-!
# The layout that a configuration describes

Which index VPP gives to an interface is its own affair.  A layout is what VPP has
with interfaces seen by their names.  A configuration describes a layout on the
devices that are there: `conf.layout` says what it is without saying how it is made.
It looks at nothing of an old layout but its devices and its default routes.
-/

inductive ViewKind
  | device
  | tap
  | sub (parent : Option Bytes) (subId outerVlan innerVlan : UInt16) (flags : SubIfFlags)
  deriving DecidableEq, Repr

/-- An interface without its index, and with names where it refers to others. -/
structure PortView where
  kind : ViewKind := .device
  up : Bool := false
  mtu : Option UInt16 := none
  table : UInt32 := 0
  addresses : List Yaml.Network := []
  lender : Option Bytes := none
  deriving DecidableEq, Repr

/-- Interfaces by name, the names of the tables that VPP does not have by itself, and
routes by table. -/
@[ext] structure Layout where
  ports : Bytes -> Option PortView
  tables : UInt32 -> Option Bytes
  routes : UInt32 -> Yaml.Network -> Option UInt32

/-- There is a tap with the name. -/
def Layout.Taps (layout : Layout) (name : Bytes) : Prop :=
  ∃ view, layout.ports name = some view ∧ view.kind = .tap

namespace Router

def nameOf (router : Router) (index : UInt32) : Option Bytes :=
  (router.ports.lookup index).map Port.name

def viewKind (router : Router) : PortKind -> ViewKind
  | .device => .device
  | .tap => .tap
  | .sub parent subId outerVlan innerVlan flags =>
      .sub (router.nameOf parent) subId outerVlan innerVlan flags

def view (router : Router) (port : Port) : PortView where
  kind := router.viewKind port.kind
  up := port.up
  mtu := port.mtu
  table := port.table
  addresses := port.addresses
  lender := port.lender.bind router.nameOf

/-- The interface with a name. -/
def named (router : Router) (name : Bytes) : Option Port :=
  (router.ports.entries.find? (fun entry => entry.2.name == name)).map Sigma.snd

def layout (router : Router) : Layout where
  ports := fun name => (router.named name).map router.view
  tables := fun id => if id = 0 then none else (router.tables.lookup id).map RoutingTable.name
  routes := fun id network =>
    if id = 0 then router.defaultRoutes.lookup network
    else (router.tables.lookup id).bind (fun table => table.routes.lookup network)

theorem named_iff {router : Router} {name : Bytes} {port : Port} :
    router.named name = some port ↔
      ∃ index, router.ports.lookup index = some port ∧ port.name = name := by
  unfold named
  constructor
  · intro found
    rcases Option.map_eq_some_iff.mp found with ⟨entry, first, isPort⟩
    have carries := List.find?_some first
    rw [← isPort]
    exact ⟨entry.1, Table.lookup_eq_some_iff_mem_entries.mpr (List.mem_of_find?_eq_some first),
      beq_iff_eq.mp carries⟩
  · rintro ⟨index, found, isName⟩
    have member := Table.lookup_eq_some_iff_mem_entries.mp found
    cases first : router.ports.entries.find? (fun entry => entry.2.name == name) with
    | none =>
        have other := List.find?_eq_none.mp first _ member
        exact absurd (beq_iff_eq.mpr isName) other
    | some entry =>
        have isEntry := Table.lookup_eq_some_iff_mem_entries.mpr (List.mem_of_find?_eq_some first)
        have carries := List.find?_some first
        have same := router.distinct entry.1 index entry.2 port isEntry found
          ((beq_iff_eq.mp carries).trans isName.symm)
        rw [same, found] at isEntry
        exact isEntry.symm

theorem named_eq_none_iff {router : Router} {name : Bytes} :
    router.named name = none ↔ router.Free name := by
  rw [free_iff]
  constructor
  · intro absent index port found isName
    rw [named_iff.mpr ⟨index, found, isName⟩] at absent
    cases absent
  · intro free
    cases found : router.named name with
    | none => rfl
    | some port =>
        rcases named_iff.mp found with ⟨index, isPort, isName⟩
        exact absurd isName (free index port isPort)

end Router

namespace Yaml.PPPOEGlobalConf

variable (conf : PPPOEGlobalConf) (tap : Bytes) (old : Layout)

/-- The id of the first table with a name. -/
def tableOf (name : Bytes) : Option UInt32 :=
  (conf.vrfs.find? (fun vrf => vrf.name == name)).map VRFConf.tableId

/-- The routes that are configured for a table, in the order in which they are made. -/
def routesOf (id : UInt32) : List StaticRIBEntry :=
  (conf.vrfs.filter (fun vrf => vrf.tableId == id)).flatMap (fun vrf => vrf.rib.entries) ++
    if id = 0 then conf.globalRib.entries else []

/-- The next hop of the last route to a network. -/
def nextHop (routes : List StaticRIBEntry) (network : Network) : Option UInt32 :=
  (routes.reverse.find? (fun route => route.destination.subnet == network)).map StaticRIBEntry.nexthop

/-- A device that is kept, without what it had from an earlier configuration. -/
def kept (view : PortView) : Option PortView :=
  if view.kind = .device then some { view with addresses := [], lender := none } else none

/-- The interfaces that are there before a unit is made. -/
def base (name : Bytes) : Option PortView :=
  if name = tap then some { kind := .tap, up := true } else (old.ports name).bind kept

/-- What the interfaces of a configuration set on the one with the name. -/
def settle (ifaces : List InterfaceConf) (name : Bytes) (view : PortView) : PortView :=
  ifaces.foldl (fun view iface =>
    if iface.device = name then
      { view with up := iface.adminState, mtu := iface.mtu.or view.mtu }
    else view) view

/-- The units of the interfaces that are there, in the order in which they are made. -/
def planned (there : Bytes -> Bool) (ifaces : List InterfaceConf) :
    List (Bytes × UInt16 × InterfaceUnit) :=
  (ifaces.filter (fun iface => there iface.device)).flatMap (fun iface =>
    (VPPAPI.unitsOf iface).map (fun unit => (iface.device, unit)))

/-- The interface of a unit.  A lender has to be there before. -/
def unitView (there : Bytes -> Bool) (device : Bytes) (subId : UInt16) (unit : InterfaceUnit) :
    PortView where
  kind := .sub (some device) subId unit.vlan 0 (VPPAPI.subIfFlags unit.vlan 0)
  up := unit.adminState
  table := if unit.vrf = [] then 0 else (conf.tableOf unit.vrf).getD 0
  addresses := unit.address.toList
  lender := if unit.unnumbered ≠ [] ∧ there unit.unnumbered then some unit.unnumbered else none

/-- One unit more.  A unit whose name is in use is left out. -/
def addUnit (there : Bytes -> Bool) (made : Bytes -> Option PortView)
    (unit : Bytes × UInt16 × InterfaceUnit) : Bytes -> Option PortView :=
  let name := subName unit.1 unit.2.1
  if there name || (made name).isSome then made
  else
    Function.update made name (some (conf.unitView
      (fun other => there other || (made other).isSome || other == name) unit.1 unit.2.1 unit.2.2))

/-- The interfaces of the units. -/
def unitPorts (there : Bytes -> Bool) (units : List (Bytes × UInt16 × InterfaceUnit)) :
    Bytes -> Option PortView :=
  units.foldl (conf.addUnit there) (fun _ => none)

/-- The layout that the configuration describes, with a tap of the name. -/
def layout : Layout where
  ports := fun name =>
    let there := fun name => (base tap old name).isSome
    match base tap old name with
    | some view => some (settle conf.interfaces name view)
    | none => conf.unitPorts there (planned there conf.interfaces) name
  tables := fun id =>
    if id = 0 then none else (conf.vrfs.find? (fun vrf => vrf.tableId == id)).map VRFConf.name
  routes := fun id network =>
    (nextHop (conf.routesOf id) network).or (if id = 0 then old.routes 0 network else none)

/-! ## What it depends on -/

/-- Layouts with the same devices and default routes. -/
structure Alike (one other : Layout) : Prop where
  devices : forall name, (one.ports name).bind kept = (other.ports name).bind kept
  routes : one.routes 0 = other.routes 0

variable {conf tap old}

theorem layout_eq_of_alike {other : Layout} (alike : Alike old other) :
    conf.layout tap old = conf.layout tap other := by
  have same : base tap old = base tap other := by
    funext name
    unfold base
    rw [alike.devices name]
  refine Layout.ext ?_ rfl ?_
  · unfold layout
    rw [same]
  · funext id network
    unfold layout
    rw [alike.routes]

/-! ## Once more -/

theorem settle_kind (ifaces : List InterfaceConf) (name : Bytes) (view : PortView) :
    (settle ifaces name view).kind = view.kind := by
  unfold settle
  induction ifaces generalizing view with
  | nil => rfl
  | cons iface rest inductionHypothesis =>
      rw [List.foldl_cons, inductionHypothesis]
      split <;> rfl

/-- What is set is the same whatever was set before, or nothing is set. -/
theorem settle_up (ifaces : List InterfaceConf) (name : Bytes) :
    (forall view, (settle ifaces name view).up = view.up) ∨
      ∃ up, forall view, (settle ifaces name view).up = up := by
  unfold settle
  induction ifaces with
  | nil => exact .inl (fun _ => rfl)
  | cons iface rest inductionHypothesis =>
      simp only [List.foldl_cons]
      rcases inductionHypothesis with untouched | ⟨up, isUp⟩
      · by_cases same : iface.device = name
        · refine .inr ⟨iface.adminState, fun view => ?_⟩
          rw [if_pos same]
          exact untouched _
        · refine .inl (fun view => ?_)
          rw [if_neg same]
          exact untouched _
      · exact .inr ⟨up, fun view => isUp _⟩

theorem settle_mtu (ifaces : List InterfaceConf) (name : Bytes) :
    (forall view, (settle ifaces name view).mtu = view.mtu) ∨
      ∃ mtu, forall view, (settle ifaces name view).mtu = some mtu := by
  unfold settle
  induction ifaces with
  | nil => exact .inl (fun _ => rfl)
  | cons iface rest inductionHypothesis =>
      simp only [List.foldl_cons]
      rcases inductionHypothesis with untouched | ⟨mtu, isMtu⟩
      · cases sets : iface.mtu with
        | none =>
            refine .inl (fun view => ?_)
            rw [untouched]
            split <;> rfl
        | some mtu =>
            by_cases same : iface.device = name
            · refine .inr ⟨mtu, fun view => ?_⟩
              rw [untouched, if_pos same]
              rfl
            · refine .inl (fun view => ?_)
              rw [untouched, if_neg same]
      · exact .inr ⟨mtu, fun view => isMtu _⟩

/-- The rest of an interface is as it was. -/
theorem settle_eq (ifaces : List InterfaceConf) (name : Bytes) (view : PortView) :
    settle ifaces name view =
      { view with up := (settle ifaces name view).up, mtu := (settle ifaces name view).mtu } := by
  unfold settle
  induction ifaces generalizing view with
  | nil => rfl
  | cons iface rest inductionHypothesis =>
      rw [List.foldl_cons, inductionHypothesis]
      split <;> rfl

theorem settle_settle (ifaces : List InterfaceConf) (name : Bytes) (view : PortView) :
    settle ifaces name (settle ifaces name view) = settle ifaces name view := by
  have up : (settle ifaces name (settle ifaces name view)).up = (settle ifaces name view).up := by
    rcases settle_up ifaces name with untouched | ⟨up, isUp⟩
    · exact untouched _
    · rw [isUp, isUp]
  have mtu : (settle ifaces name (settle ifaces name view)).mtu = (settle ifaces name view).mtu := by
    rcases settle_mtu ifaces name with untouched | ⟨mtu, isMtu⟩
    · exact untouched _
    · rw [isMtu, isMtu]
  rw [settle_eq ifaces name (settle ifaces name view), up, mtu]

theorem unitPorts_kind {there : Bytes -> Bool} {units : List (Bytes × UInt16 × InterfaceUnit)}
    {name : Bytes} {view : PortView} (made : conf.unitPorts there units name = some view) :
    view.kind ≠ .device ∧ view.kind ≠ .tap := by
  unfold unitPorts at made
  induction units using List.reverseRecOn with
  | nil => cases made
  | append_singleton earlier unit inductionHypothesis =>
      rw [List.foldl_append, List.foldl_cons, List.foldl_nil] at made
      unfold addUnit at made
      dsimp only at made
      split at made
      · exact inductionHypothesis made
      · rw [Function.update_apply] at made
        split at made
        · rw [← Option.some.inj made]
          exact ⟨nofun, nofun⟩
        · exact inductionHypothesis made

/-- A kept device has nothing that could go. -/
theorem kept_settle {name : Bytes} {view cleared : PortView} (ifaces : List InterfaceConf)
    (isKept : kept view = some cleared) :
    kept (settle ifaces name cleared) = some (settle ifaces name cleared) := by
  unfold kept at isKept
  split at isKept
  · rename_i device
    rw [settle_eq, ← Option.some.inj isKept]
    exact if_pos device
  · cases isKept

/-- On the layout that it describes, a configuration finds the devices that it has
settled, and no others. -/
theorem base_layout (name : Bytes) (other : name ≠ tap) :
    base tap (conf.layout tap old) name =
      (base tap old name).map (settle conf.interfaces name) := by
  have here : base tap (conf.layout tap old) name = ((conf.layout tap old).ports name).bind kept :=
    if_neg other
  rw [here]
  unfold layout
  dsimp only
  cases found : base tap old name with
  | some view =>
      unfold base at found
      rw [if_neg other] at found
      rcases Option.bind_eq_some_iff.mp found with ⟨whole, _, isKept⟩
      exact kept_settle conf.interfaces isKept
  | none =>
      dsimp only
      cases made : conf.unitPorts (fun name => (base tap old name).isSome)
        (planned (fun name => (base tap old name).isSome) conf.interfaces) name with
      | none => rfl
      | some view => exact if_neg (unitPorts_kind made).1

/-- A configuration describes the same layout on the one that it describes. -/
theorem layout_layout : conf.layout tap (conf.layout tap old) = conf.layout tap old := by
  have tapped (layout : Layout) : base tap layout tap = some { kind := .tap, up := true } :=
    if_pos rfl
  have there : (fun name => (base tap (conf.layout tap old) name).isSome) =
      fun name => (base tap old name).isSome := by
    funext name
    by_cases isTap : name = tap
    · rw [isTap, tapped, tapped]
    · rw [base_layout name isTap, Option.isSome_map]
  refine Layout.ext ?_ rfl ?_
  · funext name
    show (match base tap (conf.layout tap old) name with
      | some view => some (settle conf.interfaces name view)
      | none => conf.unitPorts (fun name => (base tap (conf.layout tap old) name).isSome)
          (planned (fun name => (base tap (conf.layout tap old) name).isSome) conf.interfaces) name) =
      (match base tap old name with
      | some view => some (settle conf.interfaces name view)
      | none => conf.unitPorts (fun name => (base tap old name).isSome)
          (planned (fun name => (base tap old name).isSome) conf.interfaces) name)
    rw [there]
    by_cases isTap : name = tap
    · rw [isTap, tapped, tapped]
    · rw [base_layout name isTap]
      cases base tap old name with
      | none => rfl
      | some view => exact congrArg some (settle_settle conf.interfaces name view)
  · funext id network
    unfold layout
    dsimp only
    by_cases isDefault : id = 0
    · rw [isDefault]
      simp only [if_true]
      rw [← Option.or_assoc, Option.or_self]
    · rw [if_neg isDefault, if_neg isDefault]

/-- The only tap is the one that the configuration was laid out with. -/
theorem taps_layout_iff {name : Bytes} : (conf.layout tap old).Taps name ↔ name = tap := by
  unfold Layout.Taps layout
  dsimp only
  constructor
  · rintro ⟨view, found, isTap⟩
    by_contra other
    cases isBase : base tap old name with
    | some former =>
        rw [isBase] at found
        rw [← Option.some.inj found, settle_kind] at isTap
        unfold base kept at isBase
        rw [if_neg other] at isBase
        rcases Option.bind_eq_some_iff.mp isBase with ⟨whole, _, isKept⟩
        split at isKept
        · rename_i device
          rw [← Option.some.inj isKept, show whole.kind = _ from device] at isTap
          cases isTap
        · cases isKept
    | none =>
        rw [isBase] at found
        exact (unitPorts_kind found).2 isTap
  · intro same
    have tapped : base tap old name = some { kind := .tap, up := true } := if_pos same
    rw [tapped]
    exact ⟨_, rfl, settle_kind conf.interfaces name _⟩

end Yaml.PPPOEGlobalConf

end Pppcpd
