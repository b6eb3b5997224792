import Pppcpd.Foundation.Node
import Pppcpd.Ppp.Session
import Pppcpd.Runtime.State

namespace Pppcpd
namespace Yaml

open Foundation

/-!
# The configuration as it is written to a file

The structures of `config.hpp`, with all fields that are configured.  The
daemon's state holds the part that it reads after its start, `running` here.
The members `sw_if_index` and `rid_in_vpp` are no part of the file, and neither
written nor read by its conversions.
-/

/-- `LOGL`. -/
inductive LogLevel
  | trace
  | debug
  | info
  | warn
  | error
  | alert
  deriving DecidableEq, Repr

/-- `network_v4_t`. -/
structure Network where
  address : UInt32
  prefixLength : Fin 33
  deriving DecidableEq, Repr

/-- `LCPPolicy` adds the flag that no automaton reads. -/
structure LCPPolicy extends Pppcpd.LCPPolicy where
  insertMagicNumber : Bool := true
  deriving DecidableEq, Repr

/-- `AAARadConf`. -/
structure AAARadConf where
  address : UInt32
  port : UInt16
  secret : Bytes
  deriving DecidableEq, Repr

/-- `AAAConf` adds the dictionaries and the servers. -/
structure AAAConf extends Pppcpd.AAAConf where
  dictionaries : List Bytes := []
  authServers : Table Bytes AAARadConf := ∅
  acctServers : Table Bytes AAARadConf := ∅

/-- `InterfaceUnit`. -/
structure InterfaceUnit where
  address : Option Network := none
  vlan : UInt16
  adminState : Bool := true
  vrf : Bytes := []
  unnumbered : Bytes := []
  deriving DecidableEq, Repr

/-- `InterfaceConf`. -/
structure InterfaceConf where
  device : Bytes
  adminState : Bool := true
  mtu : Option UInt16 := none
  units : Table UInt16 InterfaceUnit := ∅

/-- `StaticRIBEntry`. -/
structure StaticRIBEntry where
  destination : Network
  nexthop : UInt32
  description : Option Bytes := none
  deriving DecidableEq, Repr

/-- `StaticRIB`. -/
structure StaticRIB where
  entries : List StaticRIBEntry := []
  deriving DecidableEq, Repr

/-- `VRFConf`. -/
structure VRFConf where
  name : Bytes
  tableId : UInt32
  rib : StaticRIB
  deriving DecidableEq, Repr

/-- `PPPOEGlobalConf`. -/
structure PPPOEGlobalConf where
  tapName : Bytes
  logLevel : LogLevel
  logFile : Bytes := []
  interfaces : List InterfaceConf := []
  defaultPppoeConf : PPPOEPolicy := {}
  pppoeConfs : Table UInt16 PPPOEPolicy := ∅
  pppoeTemplates : Table Bytes PPPOELocalTemplate := ∅
  aaaConf : AAAConf
  lcpConf : LCPPolicy := {}
  globalRib : StaticRIB := {}
  vrfs : List VRFConf := []

/-- What the daemon reads after its start. -/
def PPPOEGlobalConf.running (conf : PPPOEGlobalConf) : Pppcpd.PPPOEGlobalConf where
  defaultPppoeConf := conf.defaultPppoeConf
  pppoeConfs := conf.pppoeConfs
  pppoeTemplates := conf.pppoeTemplates
  aaaConf := conf.aaaConf.toAAAConf

/-! ## What is configured -/

/-- A configuration of AAA with nothing in use. -/
def AAAConf.configured (conf : AAAConf) : AAAConf :=
  { conf with pools := conf.pools.mapValues (fun pool => { pool with ips := ∅ }) }

/-- The configured fields: no address of a pool is in use. -/
def PPPOEGlobalConf.configured (conf : PPPOEGlobalConf) : PPPOEGlobalConf :=
  { conf with aaaConf := conf.aaaConf.configured }

end Yaml
end Pppcpd
