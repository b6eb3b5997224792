import Pppcpd.Cli.Messages
import Pppcpd.Config.Conf
import Pppcpd.Foundation.Dialogue
import Pppcpd.Vpp.Tables

namespace Pppcpd

open Foundation

/-!
# The start of the data plane

Before it serves anyone, the daemon brings VPP into the shape of its
configuration: it removes what an earlier run has left, and then makes the tables,
the interfaces of the units and the routes.  All of this is one program that sends
requests to VPP and reads the replies, and a request that fails is logged and
passed over.
-/

/-- The flags of `Create_subif`. -/
structure SubIfFlags where
  noTags : Bool := false
  oneTag : Bool := false
  twoTags : Bool := false
  exactMatch : Bool := false
  deriving DecidableEq, Repr

/-- The `Ip_route_add_del` request of `add_route`, with its one path. -/
structure RouteRequest where
  isAdd : Bool := true
  isMultipath : Bool := false
  destination : Yaml.Network
  tableId : UInt32
  nPaths : UInt8 := 1
  nexthop : UInt32
  pathIfindex : UInt32 := uint32Max
  pathTableId : UInt32
  deriving DecidableEq, Repr

/-- The `Tap_create_v2` request of `create_tap`. -/
structure TapRequest where
  id : UInt32 := uint32Max
  useRandomMac : Bool := true
  hostIfName : Option Bytes
  numRxQueues : UInt8 := 1
  txRingSz : UInt16 := 256
  rxRingSz : UInt16 := 256
  tapFlags : UInt32 := 0
  deriving DecidableEq, Repr

/-- The requests that VPP gets when the daemon starts. -/
inductive SetupRequest
  | tapDump (ifindex : UInt32)
  | tapDelete (ifindex : UInt32)
  | tapCreate (tap : TapRequest)
  | setFlags (ifindex : UInt32) (adminUp : Bool)
  | addDelCp (ifindex : UInt32) (isAdd : Bool)
  | tableDump
  | tableAddDel (table : TableRequest)
  | routeAddDel (route : RouteRequest)
  | interfaceDump
  | addressDump (ifindex : UInt32)
  | addressAddDel (ifindex : UInt32) (address : Yaml.Network) (isAdd : Bool)
  | unnumberedDump (ifindex : UInt32)
  | setUnnumbered (unnumbered iface : UInt32) (isAdd : Bool)
  | deleteSubif (ifindex : UInt32)
  | createSubif (ifindex : UInt32) (subId outerVlan innerVlan : UInt16) (flags : SubIfFlags)
  | setMtu (ifindex : UInt32) (mtu : UInt16)
  | setTable (ifindex vrfId : UInt32)
  deriving DecidableEq, Repr

/-- An interface as VPP lists it. -/
structure InterfaceDetails where
  name : Bytes
  device : Bytes := []
  mac : Mac := ⟨0, 0, 0, 0, 0, 0⟩
  swIfIndex : UInt32
  linkSpeed : UInt32 := 0
  mtu : UInt16 := 0
  isSub : Bool := false
  deriving DecidableEq, Repr

/-- A reply to such a request.  `available` is false when VPP does not know the
message, which is not sent then, and `executed` when it could not be sent. -/
structure SetupReply where
  available : Bool := true
  executed : Bool := true
  retval : Int := 0
  swIfIndex : UInt32 := 0
  statsIndex : UInt32 := 0
  taps : List UInt32 := []
  tables : List (UInt32 × Bytes) := []
  ifaces : List InterfaceDetails := []
  addresses : List (UInt32 × Yaml.Network) := []
  unnumbered : List (UInt32 × UInt32) := []
  deriving DecidableEq, Repr

/-- `IfaceType`. -/
def IfaceType.loopback : UInt8 := 0
def IfaceType.hwIface : UInt8 := 1
def IfaceType.subif : UInt8 := 3

abbrev Setup := Dialogue SetupRequest SetupReply

namespace VPPAPI

/-! ## Taps -/

/-- `get_tap_interfaces`: an ordered set. -/
def getTapInterfaces : Setup (List UInt32) :=
  .call (.tapDump uint32Max) (fun reply =>
    if reply.available ∧ reply.executed then
      reply.taps.dedup.insertionSort (fun first second => first ≤ second)
    else [])

/-- `delete_tap`. -/
def deleteTap (id : UInt32) : Setup Bool :=
  .call (.tapDelete id) (fun reply =>
    decide (reply.available = true ∧ reply.executed = true ∧ 0 ≤ reply.retval))

/-- `create_tap`.  The name is cut to what its field of 64 bytes has room for. -/
def createTap (hostName : Bytes) : Setup (Option UInt32) :=
  .call (.tapCreate { hostIfName := if hostName = [] then none else some (hostName.take 63) })
    (fun reply =>
      if reply.available = true ∧ reply.executed = true ∧ 0 ≤ reply.retval then
        some reply.swIfIndex
      else none)

/-- `set_state`. -/
def setState (ifi : UInt32) (adminState : Bool) : Setup Bool :=
  .call (.setFlags ifi adminState) (fun reply => decide (0 ≤ reply.retval))

/-- `add_pppoe_cp`, which does not look at its second argument. -/
def addPppoeCp (swIfIndex : UInt32) (_toDel : Bool) : Setup Bool :=
  .call (.addDelCp swIfIndex true) (fun reply => decide (reply.retval = 0))

/-! ## Tables and routes -/

/-- The first 63 bytes of the field of a table's name, with those behind the name. -/
def fieldOf (name : Bytes) : Bytes := (name ++ List.replicate 63 0).take 63

/-- `dump_vrfs`. -/
def dumpVrfs : Setup (List (Bytes × UInt32)) :=
  .call .tableDump (fun reply =>
    if reply.executed then reply.tables.map (fun table => (fieldOf table.2, table.1)) else [])

/-- `set_vrf`, with the value it returns. -/
def setVrf (name : Bytes) (id : UInt32) (isAdd : Bool) (vpp : VPP) : Setup (VPP × Bool) :=
  .call (.tableAddDel (vpp.setVrf name id isAdd {}).2.1) (fun reply =>
    let set := vpp.setVrf name id isAdd { executed := reply.executed, retval := reply.retval }
    (set.1, set.2.2))

/-- `add_route`. -/
def addRoute (destination : Yaml.Network) (nexthop tableId : UInt32) : Setup (Option UInt32) :=
  .call (.routeAddDel
      { destination := destination, tableId := tableId, nexthop := nexthop, pathTableId := tableId })
    (fun reply =>
      if reply.executed = true ∧ reply.retval = 0 then some reply.statsIndex else none)

/-! ## Interfaces -/

/-- An interface of the list.  The type of one that is neither of the two devices nor a
subinterface is never set: `stale` is what is found in it. -/
def ifaceOf (stale : UInt32 -> UInt8) (details : InterfaceDetails) : VPPInterface where
  name := details.name
  device := details.device
  mac := details.mac
  swIfIndex := details.swIfIndex
  speed := details.linkSpeed
  mtu := details.mtu
  type :=
    if details.isSub then IfaceType.subif
    else if details.device = ascii "Loopback" then IfaceType.loopback
    else if details.device = ascii "dpdk" then IfaceType.hwIface
    else stale details.swIfIndex

/-- `get_ifaces`. -/
def getIfaces (stale : UInt32 -> UInt8) : Setup (List VPPInterface) :=
  .call .interfaceDump (fun reply => reply.ifaces.map (ifaceOf stale))

/-- `get_iface_by_name`, which does not look at the types. -/
def getIfaceByName (name : Bytes) : Setup (Option UInt32) := do
  let ifaces <- getIfaces (fun _ => 0)
  return (ifaces.find? (fun iface => iface.name == name)).map VPPInterface.swIfIndex

/-- `set_ip`. -/
def setIp (id : UInt32) (address : Yaml.Network) (isAdd : Bool) : Setup Bool :=
  .call (.addressAddDel id address isAdd) (fun reply => decide (0 ≤ reply.retval))

/-- `dump_ip`. -/
def dumpIp (id : UInt32) : Setup (List (UInt32 × Yaml.Network)) :=
  .call (.addressDump id) (fun reply => if reply.executed then reply.addresses else [])

/-- `set_unnumbered`. -/
def setUnnumbered (unnumbered iface : UInt32) (isAdd : Bool) : Setup Bool :=
  .call (.setUnnumbered unnumbered iface isAdd)
    (fun reply => decide (reply.executed = true ∧ reply.retval = 0))

/-- `dump_unnumbered`. -/
def dumpUnnumbered (id : UInt32) : Setup (List (UInt32 × UInt32)) :=
  .call (.unnumberedDump id) (fun reply => if reply.executed then reply.unnumbered else [])

/-- `del_subif`. -/
def delSubif (swIfIndex : UInt32) : Setup Bool :=
  .call (.deleteSubif swIfIndex) (fun reply => decide (0 ≤ reply.retval))

/-- The flags that `add_subif` sets. -/
def subIfFlags (outerVlan innerVlan : UInt16) : SubIfFlags :=
  if outerVlan = 0 then { exactMatch := true, noTags := true }
  else if innerVlan ≠ 0 then { exactMatch := true, twoTags := true }
  else { exactMatch := true, oneTag := true }

/-- `add_subif`.  Only one of VPP's error codes is taken for a failure. -/
def addSubif (interface : UInt32) (unit outerVlan innerVlan : UInt16) : Setup (Option UInt32) :=
  .call (.createSubif interface unit outerVlan innerVlan (subIfFlags outerVlan innerVlan))
    (fun reply => if reply.retval = -1 then none else some reply.swIfIndex)

/-- `set_mtu`, the same for all protocols. -/
def setMtu (ifi : UInt32) (mtu : UInt16) : Setup Bool :=
  .call (.setMtu ifi mtu) (fun reply => decide (0 ≤ reply.retval))

/-- `set_interface_table`. -/
def setInterfaceTable (ifi : UInt32) (vrf : Bytes) (vpp : VPP) : Setup Bool :=
  .call (.setTable ifi ((vpp.vrfs.lookup vrf).getD 0)) (fun reply => decide (reply.retval ≠ -1))

/-! ## `setup_interfaces` -/

/-- The units of an interface, in the order of their ids. -/
def unitsOf (iface : Yaml.InterfaceConf) : List (UInt16 × Yaml.InterfaceUnit) :=
  (iface.units.entries.map (fun entry => (entry.1, entry.2))).insertionSort
    (fun first second => first.1 ≤ second.1)

/-- The table of a unit. -/
def setUnitTable (vpp : VPP) (ifindex : UInt32) (vrf : Bytes) : Setup Bool :=
  if vrf = [] then .done true else setInterfaceTable ifindex vrf vpp

/-- The address of a unit. -/
def setUnitAddress (ifindex : UInt32) : Option Yaml.Network -> Setup Bool
  | none => .done true
  | some address => setIp ifindex address true

/-- The interface whose address a unit uses. -/
def setUnitLender (ifindex : UInt32) (unnumbered : Bytes) : Setup Bool :=
  if unnumbered = [] then .done true
  else (getIfaceByName unnumbered).bind (fun found =>
    match found with
    | none => .done false
    | some ipIface => setUnnumbered ifindex ipIface true)

/-- What `setup_interfaces` does with a unit for which there is an interface. -/
def setupUnit (vpp : VPP) (ifindex : UInt32) (unit : Yaml.InterfaceUnit) : Setup Bool := do
  let _ <- setState ifindex unit.adminState
  let _ <- setUnitTable vpp ifindex unit.vrf
  let _ <- setUnitAddress ifindex unit.address
  setUnitLender ifindex unit.unnumbered

/-- The MTU of an interface. -/
def setInterfaceMtu (ifindex : UInt32) : Option UInt16 -> Setup Bool
  | none => .done true
  | some mtu => setMtu ifindex mtu

/-- The body of the loop over the units. -/
def makeUnit (vpp : VPP) (ifindex : UInt32) (unit : UInt16 × Yaml.InterfaceUnit) : Setup Bool :=
  (addSubif ifindex unit.1 unit.2.vlan 0).bind (fun made =>
    match made with
    | none => .done false
    | some subif => setupUnit vpp subif unit.2)

/-- What `setup_interfaces` does with an interface that VPP has. -/
def setupInterface (vpp : VPP) (ifindex : UInt32) (iface : Yaml.InterfaceConf) : Setup Unit := do
  let _ <- setState ifindex iface.adminState
  let _ <- setInterfaceMtu ifindex iface.mtu
  Dialogue.each (makeUnit vpp ifindex) (unitsOf iface)

/-- `setup_interfaces`. -/
def setupInterfaces (vpp : VPP) (ifaces : List Yaml.InterfaceConf) : Setup Unit := do
  let vppIfs <- getIfaces (fun _ => 0)
  Dialogue.each (fun iface : Yaml.InterfaceConf =>
    match vppIfs.find? (fun vppIf => iface.device == vppIf.name) with
    | none => pure ()
    | some vppIf => setupInterface vpp vppIf.swIfIndex iface) ifaces

end VPPAPI

/-! ## The constructor of `PPPOERuntime` -/

namespace PPPOERuntime

open VPPAPI

/-- The taps of an earlier run go, and a new one is made. -/
def setupTap (tapName : Bytes) : Setup Unit := do
  let taps <- getTapInterfaces
  Dialogue.each deleteTap taps
  let tap <- createTap tapName
  match tap with
  | none => pure ()
  | some ifi => do
      let _ <- setState ifi true
      let _ <- addPppoeCp ifi false
      pure ()

/-- The tables of an earlier run go, except the default table. -/
def deleteVrfs (vpp : VPP) : Setup VPP := do
  let vrfs <- dumpVrfs
  Dialogue.loop (fun vpp (vrf : Bytes × UInt32) =>
    if vrf.2 = 0 then pure vpp
    else do
      let set <- setVrf vrf.1 vrf.2 false vpp
      pure set.1) vpp vrfs

/-- The configured tables and their routes.  Without the table there are no routes. -/
def setupVrfs (vrfs : List Yaml.VRFConf) (vpp : VPP) : Setup VPP :=
  Dialogue.loop (fun vpp (vrf : Yaml.VRFConf) => do
    let set <- setVrf vrf.name vrf.tableId true vpp
    if set.2 then do
      Dialogue.each (fun route : Yaml.StaticRIBEntry =>
        addRoute route.destination route.nexthop vrf.tableId) vrf.rib.entries
      pure set.1
    else pure set.1) vpp vrfs

/-- The body of the loop of `clearInterfaces`. -/
def clearInterface (iface : VPPInterface) : Setup Bool := do
  let addresses <- dumpIp iface.swIfIndex
  Dialogue.each (fun entry : UInt32 × Yaml.Network => setIp entry.1 entry.2 false) addresses
  let entries <- dumpUnnumbered iface.swIfIndex
  Dialogue.each (fun entry : UInt32 × UInt32 => setUnnumbered entry.1 entry.2 false) entries
  if iface.type = IfaceType.subif then delSubif iface.swIfIndex else pure true

/-- The addresses of every interface go, the unnumbered entries, and the
subinterfaces themselves. -/
def clearInterfaces (stale : UInt32 -> UInt8) : Setup Unit := do
  let ifaces <- getIfaces stale
  Dialogue.each clearInterface ifaces

/-- What the constructor does with VPP.  The result is `VPPAPI` afterwards, and
`replies` are those to its later calls. -/
def start (conf : Yaml.PPPOEGlobalConf) (stale : UInt32 -> UInt8) (replies : Nat -> VPPReply) :
    Setup VPP := do
  setupTap conf.tapName
  let cleared <- deleteVrfs { replies := replies }
  let vpp <- setupVrfs conf.vrfs cleared
  clearInterfaces stale
  setupInterfaces vpp conf.interfaces
  Dialogue.each (fun route : Yaml.StaticRIBEntry =>
    addRoute route.destination route.nexthop 0) conf.globalRib.entries
  pure vpp

end PPPOERuntime

end Pppcpd
