import Pppcpd.Vpp.Setup

namespace Pppcpd

open Foundation

/-!
# VPP

VPP is not part of the daemon, and nothing is known about its states but what the
daemon relies on.  A `Router` is what one sees of a state: interfaces, tables and
routes.  A `VppServer` is any server with such a view that keeps to VPP's API: it may
refuse any request, and then nothing changes, what it carries out has the effect that
the API documents, and its dumps list what it has.
-/

/-- The kinds of interfaces.  A device is hardware, a loopback interface or the
interface of a PPPoE session. -/
inductive PortKind
  | device
  | tap
  | sub (parent : UInt32) (subId outerVlan innerVlan : UInt16) (flags : SubIfFlags)
  deriving DecidableEq, Repr

def PortKind.isSub : PortKind -> Bool
  | sub .. => true
  | _ => false

/-- An interface of VPP.  The MTU is absent until it is set, and the lender is the
interface whose address an unnumbered interface uses. -/
structure Port where
  name : Bytes
  kind : PortKind := .device
  up : Bool := false
  mtu : Option UInt16 := none
  table : UInt32 := 0
  addresses : List Yaml.Network := []
  lender : Option UInt32 := none
  deriving DecidableEq, Repr

/-- The interface with or without an address. -/
def Port.setAddress (address : Yaml.Network) (isAdd : Bool) (port : Port) : Port :=
  let others := port.addresses.filter (fun held => held ≠ address)
  { port with addresses := if isAdd then address :: others else others }

/-- A table other than the default one. -/
structure RoutingTable where
  name : Bytes
  routes : Table Yaml.Network UInt32 := ∅

/-! None of the changes that are made to an interface renames it. -/

namespace Port

theorem name_setAddress (address : Yaml.Network) (isAdd : Bool) (port : Port) :
    (port.setAddress address isAdd).name = port.name := rfl

theorem name_setUp (up : Bool) (port : Port) : { port with up := up }.name = port.name := rfl

theorem name_setMtu (mtu : UInt16) (port : Port) : { port with mtu := some mtu }.name = port.name :=
  rfl

theorem name_setTable (id : UInt32) (port : Port) : { port with table := id }.name = port.name := rfl

theorem name_setLender (iface : UInt32) (isAdd : Bool) (port : Port) :
    { port with lender := if isAdd then some iface else none }.name = port.name := rfl

end Port

/-- What VPP has.  The index ~0 stands for no interface, and no two interfaces have
the same name.  The tables are those that were made through the API. -/
@[ext] structure Router where
  ports : Table UInt32 Port := ∅
  tables : Table UInt32 RoutingTable := ∅
  defaultRoutes : Table Yaml.Network UInt32 := ∅
  reserved : uint32Max ∉ ports := by decide
  distinct : forall index other port same, ports.lookup index = some port ->
    ports.lookup other = some same -> port.name = same.name -> index = other := by
      intro _ _ _ _ found
      cases found

/-- The network that an address with a length lies in. -/
def Yaml.Network.subnet (network : Yaml.Network) : Yaml.Network :=
  { network with address :=
      UInt32.ofNat (network.address.toNat -
        network.address.toNat % 2 ^ (32 - network.prefixLength.val)) }

/-- The name of a subinterface. -/
def subName (parent : Bytes) (subId : UInt16) : Bytes :=
  parent ++ [46] ++ Yaml.writeNumber subId.toNat

namespace Router

/-- The name is not in use. -/
def Free (router : Router) (name : Bytes) : Prop :=
  ∀ entry ∈ router.ports.entries, entry.2.name ≠ name

instance (router : Router) (name : Bytes) : Decidable (router.Free name) :=
  inferInstanceAs (Decidable (∀ _ ∈ _, _))

theorem free_iff {router : Router} {name : Bytes} : router.Free name ↔
    forall index port, router.ports.lookup index = some port -> port.name ≠ name := by
  constructor
  · intro free index port found
    exact free _ (Table.lookup_eq_some_iff_mem_entries.mp found)
  · intro other entry member
    exact other entry.1 entry.2 (Table.lookup_eq_some_iff_mem_entries.mpr member)

/-! ## Changes of the interfaces -/

/-- A new interface, where the index and the name are free. -/
def insertPort (index : UInt32) (port : Port) (router : Router) : Router :=
  if fresh : index ≠ uint32Max ∧ index ∉ router.ports ∧ router.Free port.name then
    { router with
      ports := router.ports.insert index port
      reserved := by
        rw [AList.mem_insert]
        rintro (same | member)
        · exact fresh.1 same.symm
        · exact router.reserved member
      distinct := by
        have apart := free_iff.mp fresh.2.2
        intro first second one two isOne isTwo sameName
        rw [Table.lookup_insert_eq] at isOne isTwo
        by_cases isFirst : first = index
        · by_cases isSecond : second = index
          · rw [isFirst, isSecond]
          · rw [if_pos isFirst] at isOne
            rw [if_neg isSecond] at isTwo
            rw [← Option.some.inj isOne] at sameName
            exact absurd sameName.symm (apart second two isTwo)
        · rw [if_neg isFirst] at isOne
          by_cases isSecond : second = index
          · rw [if_pos isSecond] at isTwo
            rw [← Option.some.inj isTwo] at sameName
            exact absurd sameName (apart first one isOne)
          · rw [if_neg isSecond] at isTwo
            exact router.distinct first second one two isOne isTwo sameName }
  else router

/-- A change of an interface that has no influence on its name. -/
def modifyPort (index : UInt32) (change : Port -> Port)
    (keeps : forall port, (change port).name = port.name) (router : Router) : Router where
  ports := Table.modify index change router.ports
  tables := router.tables
  defaultRoutes := router.defaultRoutes
  reserved := by
    rw [Table.not_mem_iff_lookup, Table.lookup_modify_eq, Table.not_mem_iff_lookup.mp router.reserved]
    exact ite_self _
  distinct := by
    have named : forall place port, (Table.modify index change router.ports).lookup place = some port ->
        ∃ old, router.ports.lookup place = some old ∧ old.name = port.name := by
      intro place port found
      rw [Table.lookup_modify_eq] at found
      split at found
      · rcases Option.map_eq_some_iff.mp found with ⟨old, isOld, changed⟩
        exact ⟨old, isOld, by rw [← changed, keeps]⟩
      · exact ⟨port, found, rfl⟩
    intro first second one two isOne isTwo sameName
    rcases named first one isOne with ⟨oldOne, wasOne, sameOne⟩
    rcases named second two isTwo with ⟨oldTwo, wasTwo, sameTwo⟩
    exact router.distinct first second oldOne oldTwo wasOne wasTwo
      (sameOne.trans (sameName.trans sameTwo.symm))

/-- A route of a table, which replaces the one to the same network. -/
def addRoute (id : UInt32) (destination : Yaml.Network) (nexthop : UInt32) (router : Router) :
    Router :=
  if id = 0 then
    { router with defaultRoutes := router.defaultRoutes.insert destination.subnet nexthop }
  else
    { router with tables := Table.modify id (fun table =>
        { table with routes := table.routes.insert destination.subnet nexthop }) router.tables }

/-- A table that is there keeps its name and its routes. -/
def addTable (id : UInt32) (name : Bytes) (router : Router) : Router :=
  if id = 0 then router
  else { router with tables := (router.tables.emplace id { name := name }).1 }

/-- A table goes with its routes.  The default table stays. -/
def deleteTable (id : UInt32) (router : Router) : Router :=
  if id = 0 then router else { router with tables := router.tables.erase id }

/-- A table of VPP.  The default table is always there. -/
def HasTable (router : Router) (id : UInt32) : Prop := id = 0 ∨ id ∈ router.tables

instance (router : Router) (id : UInt32) : Decidable (router.HasTable id) :=
  inferInstanceAs (Decidable (_ ∨ _))

/-- VPP has an interface with the index and the property. -/
def Has (router : Router) (index : UInt32) (property : Port -> Prop) : Prop :=
  ∃ port, router.ports.lookup index = some port ∧ property port

instance (router : Router) (index : UInt32) (property : Port -> Prop) [DecidablePred property] :
    Decidable (router.Has index property) :=
  inferInstanceAs (Decidable (∃ port, port ∈ router.ports.lookup index ∧ property port))

/-- The interfaces aside, nothing has changed. -/
structure SameTables (before after : Router) : Prop where
  tables : after.tables = before.tables
  defaultRoutes : after.defaultRoutes = before.defaultRoutes

theorem SameTables.refl (router : Router) : SameTables router router := ⟨rfl, rfl⟩

theorem SameTables.trans {first second third : Router} (left : SameTables first second)
    (right : SameTables second third) : SameTables first third :=
  ⟨right.tables.trans left.tables, right.defaultRoutes.trans left.defaultRoutes⟩

/-- The same interface, which may have lost addresses or its lender. -/
structure Less (former port : Port) : Prop where
  name : port.name = former.name
  kind : port.kind = former.kind
  up : port.up = former.up
  mtu : port.mtu = former.mtu
  table : port.table = former.table
  addresses : ∀ address ∈ port.addresses, address ∈ former.addresses
  lender : port.lender = none ∨ port.lender = former.lender

/-- An interface is gone.  Subinterfaces may go with it, and the others may lose the
addresses and the lender that they have had from it. -/
structure Lost (index : UInt32) (before after : Router) : Prop extends SameTables before after where
  gone : index ∉ after.ports
  less : forall other port, after.ports.lookup other = some port ->
    before.Has other (fun former => Less former port)
  kept : forall other former, before.ports.lookup other = some former -> other ≠ index ->
    former.kind.isSub = false -> other ∈ after.ports

end Router

namespace SetupReply

/-- VPP has carried out the request. -/
def succeeded (reply : SetupReply) : Bool :=
  reply.available && reply.executed && decide (reply.retval = 0)

/-- A reply that is not a success has an error code, names no interface and lists
nothing. -/
structure Refuses (reply : SetupReply) : Prop where
  failed : reply.succeeded = false
  retval : reply.retval < 0
  swIfIndex : reply.swIfIndex = uint32Max
  taps : reply.taps = []
  tables : reply.tables = []
  ifaces : reply.ifaces = []
  addresses : reply.addresses = []
  unnumbered : reply.unnumbered = []

end SetupReply

/-! ## The server -/

/-- VPP: a server with unknown states, and what is assumed about it.  The fields say
what its API documents of the requests of a start: what a request that is carried out
finds and leaves, and what a dump lists. -/
structure VppServer (State : Type) extends Server SetupRequest SetupReply State where
  has : State -> Router
  refused : forall state request reply, permits state request reply -> reply.succeeded = false ->
    reply.Refuses ∧ has (next state request reply) = has state
  tapDump : forall state ifindex reply, permits state (.tapDump ifindex) reply ->
    reply.succeeded = true -> has (next state (.tapDump ifindex) reply) = has state ∧
      forall index, index ∈ reply.taps ↔ (has state).Has index (fun port => port.kind = .tap)
  tapDelete : forall state index reply, permits state (.tapDelete index) reply ->
    reply.succeeded = true -> (has state).Has index (fun port => port.kind = .tap) ∧
      Router.Lost index (has state) (has (next state (.tapDelete index) reply))
  tapCreate : forall state tap reply, permits state (.tapCreate tap) reply ->
    reply.succeeded = true -> reply.swIfIndex ≠ uint32Max ∧ reply.swIfIndex ∉ (has state).ports ∧
      ∃ name, (has state).Free name ∧ has (next state (.tapCreate tap) reply) =
        (has state).insertPort reply.swIfIndex { name := name, kind := .tap }
  setFlags : forall state index adminUp reply, permits state (.setFlags index adminUp) reply ->
    reply.succeeded = true -> has (next state (.setFlags index adminUp) reply) =
      (has state).modifyPort index (fun port => { port with up := adminUp }) (Port.name_setUp adminUp)
  addDelCp : forall state index isAdd reply, permits state (.addDelCp index isAdd) reply ->
    reply.succeeded = true -> has (next state (.addDelCp index isAdd) reply) = has state
  tableDump : forall state reply, permits state .tableDump reply -> reply.succeeded = true ->
    has (next state .tableDump reply) = has state ∧ forall id table, id ≠ 0 ->
      (has state).tables.lookup id = some table -> (id, table.name) ∈ reply.tables
  tableAdd : forall state (table : TableRequest) reply, table.isAdd = true ->
    permits state (.tableAddDel table) reply -> reply.succeeded = true ->
      has (next state (.tableAddDel table) reply) =
        (has state).addTable table.tableId (table.name.getD [])
  tableDel : forall state (table : TableRequest) reply, table.isAdd = false ->
    permits state (.tableAddDel table) reply -> reply.succeeded = true ->
      has (next state (.tableAddDel table) reply) = (has state).deleteTable table.tableId
  routeAddDel : forall state (route : RouteRequest) reply, route.isAdd = true ->
    permits state (.routeAddDel route) reply -> reply.succeeded = true ->
      has (next state (.routeAddDel route) reply) =
        (has state).addRoute route.tableId route.destination route.nexthop
  interfaceDump : forall state reply, permits state .interfaceDump reply ->
    reply.succeeded = true -> has (next state .interfaceDump reply) = has state ∧
      (reply.ifaces.map InterfaceDetails.swIfIndex).Nodup ∧
        forall index, index ∈ (has state).ports ∨ index ∈ reply.ifaces.map InterfaceDetails.swIfIndex ->
          ∃ details ∈ reply.ifaces, details.swIfIndex = index ∧ (has state).Has index (fun port =>
            details.name = port.name ∧ details.isSub = port.kind.isSub)
  addressDump : forall state index reply, permits state (.addressDump index) reply ->
    reply.succeeded = true -> has (next state (.addressDump index) reply) = has state ∧
      forall entry, entry ∈ reply.addresses ↔
        entry.1 = index ∧ (has state).Has index (fun port => entry.2 ∈ port.addresses)
  addressAddDel : forall state index address isAdd reply,
    permits state (.addressAddDel index address isAdd) reply -> reply.succeeded = true ->
      has (next state (.addressAddDel index address isAdd) reply) =
        (has state).modifyPort index (Port.setAddress address isAdd) (Port.name_setAddress address isAdd)
  unnumberedDump : forall state index reply, permits state (.unnumberedDump index) reply ->
    reply.succeeded = true -> has (next state (.unnumberedDump index) reply) = has state ∧
      forall entry, entry ∈ reply.unnumbered ↔
        entry.1 = index ∧ (has state).Has index (fun port => port.lender = some entry.2)
  setUnnumbered : forall state index iface isAdd reply,
    permits state (.setUnnumbered index iface isAdd) reply -> reply.succeeded = true ->
      has (next state (.setUnnumbered index iface isAdd) reply) = (has state).modifyPort index
        (fun port => { port with lender := if isAdd then some iface else none })
        (Port.name_setLender iface isAdd)
  deleteSubif : forall state index reply, permits state (.deleteSubif index) reply ->
    reply.succeeded = true -> (has state).Has index (fun port => port.kind.isSub = true) ∧
      Router.Lost index (has state) (has (next state (.deleteSubif index) reply))
  createSubif : forall state index subId outerVlan innerVlan flags reply,
    permits state (.createSubif index subId outerVlan innerVlan flags) reply ->
      reply.succeeded = true ->
        reply.swIfIndex ≠ uint32Max ∧ reply.swIfIndex ∉ (has state).ports ∧
          (has state).Has index (fun parent => (has state).Free (subName parent.name subId) ∧
            has (next state (.createSubif index subId outerVlan innerVlan flags) reply) =
              (has state).insertPort reply.swIfIndex
                { name := subName parent.name subId
                  kind := .sub index subId outerVlan innerVlan flags })
  setMtu : forall state index mtu reply, permits state (.setMtu index mtu) reply ->
    reply.succeeded = true -> has (next state (.setMtu index mtu) reply) =
      (has state).modifyPort index (fun port => { port with mtu := some mtu }) (Port.name_setMtu mtu)
  setTable : forall state index id reply, permits state (.setTable index id) reply ->
    reply.succeeded = true -> has (next state (.setTable index id) reply) =
      (has state).modifyPort index (fun port => { port with table := id }) (Port.name_setTable id)

/-- VPP has what the request names, and nothing that it would collide with.  The table
of an interface is not changed while the interface has addresses. -/
def Router.Able (router : Router) : SetupRequest -> Prop
  | .tapDelete index => router.Has index (fun port => port.kind = .tap)
  | .setFlags index _ | .setMtu index _ | .addDelCp index _ => router.Has index (fun _ => True)
  | .routeAddDel route => router.HasTable route.tableId
  | .addressAddDel index _ true => router.Has index (fun _ => True)
  | .addressAddDel index address false => router.Has index (fun port => address ∈ port.addresses)
  | .setUnnumbered index iface true =>
      router.Has index (fun _ => True) ∧ router.Has iface (fun _ => True)
  | .setUnnumbered index iface false => router.Has index (fun port => port.lender = some iface)
  | .deleteSubif index => router.Has index (fun port => port.kind.isSub = true)
  | .createSubif index subId _ _ _ =>
      router.Has index (fun parent => router.Free (subName parent.name subId))
  | .setTable index id => router.Has index (fun port => port.addresses = []) ∧ router.HasTable id
  | _ => True

namespace VppServer

variable {State : Type} {peer : VppServer State}

/-- Whatever VPP replies, the program reaches the goal. -/
abbrev Meets {Result : Type} (peer : VppServer State) (program : Setup Result)
    (goal : Result -> Router -> Prop) (router : Router) : Prop :=
  peer.toServer.Shows peer.has program goal router

/-- VPP refuses only what it is not able to do. -/
def Willing (peer : VppServer State) : Prop :=
  forall state request reply, peer.permits state request reply ->
    (peer.has state).Able request -> reply.succeeded = true

/-- VPP as far as it is willing.  Its runs are those in which no request is refused that
VPP is able to carry out. -/
def willing (peer : VppServer State) : VppServer State where
  toServer := peer.toServer.only (fun state request reply =>
    (peer.has state).Able request -> reply.succeeded = true)
  has := peer.has
  refused := fun state request reply permitted => peer.refused state request reply permitted.1
  tapDump := fun state index reply permitted => peer.tapDump state index reply permitted.1
  tapDelete := fun state index reply permitted => peer.tapDelete state index reply permitted.1
  tapCreate := fun state tap reply permitted => peer.tapCreate state tap reply permitted.1
  setFlags := fun state index up reply permitted => peer.setFlags state index up reply permitted.1
  addDelCp := fun state index isAdd reply permitted =>
    peer.addDelCp state index isAdd reply permitted.1
  tableDump := fun state reply permitted => peer.tableDump state reply permitted.1
  tableAdd := fun state table reply isAdd permitted =>
    peer.tableAdd state table reply isAdd permitted.1
  tableDel := fun state table reply isAdd permitted =>
    peer.tableDel state table reply isAdd permitted.1
  routeAddDel := fun state route reply isAdd permitted =>
    peer.routeAddDel state route reply isAdd permitted.1
  interfaceDump := fun state reply permitted => peer.interfaceDump state reply permitted.1
  addressDump := fun state index reply permitted => peer.addressDump state index reply permitted.1
  addressAddDel := fun state index address isAdd reply permitted =>
    peer.addressAddDel state index address isAdd reply permitted.1
  unnumberedDump := fun state index reply permitted =>
    peer.unnumberedDump state index reply permitted.1
  setUnnumbered := fun state index iface isAdd reply permitted =>
    peer.setUnnumbered state index iface isAdd reply permitted.1
  deleteSubif := fun state index reply permitted => peer.deleteSubif state index reply permitted.1
  createSubif := fun state index subId outerVlan innerVlan flags reply permitted =>
    peer.createSubif state index subId outerVlan innerVlan flags reply permitted.1
  setMtu := fun state index mtu reply permitted => peer.setMtu state index mtu reply permitted.1
  setTable := fun state index id reply permitted => peer.setTable state index id reply permitted.1

theorem willing_willing (peer : VppServer State) : peer.willing.Willing :=
  fun _ _ _ permitted able => permitted.2 able

/-- One request.  It is carried out, or it is refused, which a willing VPP does only
where it is not able to carry it out. -/
theorem meets_request {Result : Type} {router : Router} {request : SetupRequest}
    {read : SetupReply -> Result} {goal : Result -> Router -> Prop}
    (does : forall state reply, peer.permits state request reply -> reply.succeeded = true ->
      peer.has state = router -> goal (read reply) (peer.has (peer.next state request reply)))
    (refuses : forall reply, reply.Refuses -> (peer.Willing -> ¬ router.Able request) ->
      goal (read reply) router) :
    peer.Meets (.call request read) goal router := by
  refine Server.shows_call (fun state reply looks permitted => ?_)
  cases outcome : reply.succeeded with
  | true => exact does state reply permitted outcome looks
  | false =>
      rcases peer.refused state request reply permitted outcome with ⟨refused, same⟩
      rw [same, looks]
      refine refuses reply refused (fun willing able => ?_)
      rw [← looks] at able
      exact absurd (willing state request reply permitted able) (Bool.eq_false_iff.mp outcome)

end VppServer

end Pppcpd
