import Pppcpd.Config.Conf

namespace Pppcpd
namespace Yaml

open Foundation

/-!
# Writing and reading the configuration

The pairs `YAML::convert<T>::encode` and `decode`, in the order of the source.
The texts of numbers, flags and addresses are those of the libraries, of which
only the round trip is known: `Scalars` is a choice of such texts.  A decoder
answers `none` where the library throws.
-/

/-- A type of scalars whose texts are read without loss. -/
structure Scalar (Value : Type) where
  write : Value -> Bytes
  read : Bytes -> Option Value
  lossless : forall value, read (write value) = some value

namespace Scalar

variable {Value : Type} (scalar : Scalar Value)

def encode (value : Value) : Node := .scalar (scalar.write value)

def decode (node : Node) : Option Value := node.text.bind scalar.read

@[simp] theorem decode_encode (value : Value) : scalar.decode (scalar.encode value) = some value :=
  scalar.lossless value

end Scalar

/-- The scalars of yaml-cpp, and the texts of addresses of Boost. -/
structure Scalars where
  bool : Scalar Bool
  uint16 : Scalar UInt16
  uint32 : Scalar UInt32
  address : Scalar UInt32
  network : Scalar Network

variable (scalars : Scalars)

namespace PPPOEPolicy

def fields (policy : PPPOEPolicy) : List (String × Option Node) :=
  [("ac_name", some (.scalar policy.acName)),
    ("service_name", some (.ofList .scalar policy.serviceName)),
    ("insert_cookie", some (scalars.bool.encode policy.insertCookie)),
    ("ignore_service_name", some (scalars.bool.encode policy.ignoreServiceName))]

def encode (policy : PPPOEPolicy) : Node := .object (fields scalars policy)

def decode (node : Node) : Option PPPOEPolicy := do
  let acName <- node.required "ac_name" Node.text
  let serviceName <- node.required "service_name" (Node.toList Node.text)
  let insertCookie <- node.required "insert_cookie" scalars.bool.decode
  let ignoreServiceName <- node.required "ignore_service_name" scalars.bool.decode
  return { acName, serviceName, insertCookie, ignoreServiceName }

end PPPOEPolicy

namespace LCPPolicy

def fields (policy : LCPPolicy) : List (String × Option Node) :=
  [("insert_magic_number", some (scalars.bool.encode policy.insertMagicNumber)),
    ("mru", some (scalars.uint16.encode policy.mru)),
    ("auth_chap", some (scalars.bool.encode policy.authCHAP)),
    ("auth_pap", some (scalars.bool.encode policy.authPAP))]

def encode (policy : LCPPolicy) : Node := .object (fields scalars policy)

def decode (node : Node) : Option LCPPolicy := do
  let insertMagicNumber <- node.optional "insert_magic_number" true scalars.bool.decode
  let mru <- node.optional "mru" 1492 scalars.uint16.decode
  let authCHAP <- node.optional "auth_chap" true scalars.bool.decode
  let authPAP <- node.optional "auth_pap" false scalars.bool.decode
  return { insertMagicNumber, mru, authCHAP, authPAP }

end LCPPolicy

namespace FramedPool

def fields (pool : FramedPool) : List (String × Option Node) :=
  [("start_ip", some (scalars.address.encode pool.startIp)),
    ("stop_ip", some (scalars.address.encode pool.stopIp))]

def encode (pool : FramedPool) : Node := .object (fields scalars pool)

def decode (node : Node) : Option FramedPool := do
  let startIp <- node.required "start_ip" scalars.address.decode
  let stopIp <- node.required "stop_ip" scalars.address.decode
  return { startIp, stopIp }

end FramedPool

namespace AAAMethod

def name : AAAMethod -> String
  | .none => "NONE"
  | .local => "LOCAL"
  | .radius => "RADIUS"

def encode (method : AAAMethod) : Node := .scalar (ascii (name method))

def decode (node : Node) : Option AAAMethod := do
  let text <- node.text
  if text = ascii "NONE" then some .none
  else if text = ascii "LOCAL" then some .local
  else if text = ascii "RADIUS" then some .radius
  else Option.none

end AAAMethod

namespace PPPOELocalTemplate

def fields (localTemplate : PPPOELocalTemplate) : List (String × Option Node) :=
  [("framed_pool", some (.scalar localTemplate.framedPool)),
    ("dns1", some (scalars.address.encode localTemplate.dns1)),
    ("dns2", some (scalars.address.encode localTemplate.dns2)),
    ("vrf", Node.textUnlessEmpty localTemplate.vrf),
    ("unnumbered", Node.textUnlessEmpty localTemplate.unnumbered)]

def encode (localTemplate : PPPOELocalTemplate) : Node := .object (fields scalars localTemplate)

def decode (node : Node) : Option PPPOELocalTemplate := do
  let framedPool <- node.required "framed_pool" Node.text
  let dns1 <- node.required "dns1" scalars.address.decode
  let dns2 <- node.required "dns2" scalars.address.decode
  let vrf <- node.optional "vrf" [] Node.text
  let unnumbered <- node.optional "unnumbered" [] Node.text
  return { framedPool, dns1, dns2, vrf, unnumbered }

end PPPOELocalTemplate

namespace AAARadConf

def fields (conf : AAARadConf) : List (String × Option Node) :=
  [("address", some (scalars.address.encode conf.address)),
    ("port", some (scalars.uint16.encode conf.port)),
    ("secret", some (.scalar conf.secret))]

def encode (conf : AAARadConf) : Node := .object (fields scalars conf)

def decode (node : Node) : Option AAARadConf := do
  let address <- node.required "address" scalars.address.decode
  let port <- node.required "port" scalars.uint16.decode
  let secret <- node.required "secret" Node.text
  return { address, port, secret }

end AAARadConf

namespace AAAConf

def fields (conf : AAAConf) : List (String × Option Node) :=
  [("pools", some (.ofTable id (FramedPool.encode scalars) conf.pools)),
    ("method", some (.ofList AAAMethod.encode conf.method)),
    ("local_template", Node.textUnlessEmpty conf.localTemplate),
    ("dictionaries", some (.ofList .scalar conf.dictionaries)),
    ("auth_servers", some (.ofTable id (AAARadConf.encode scalars) conf.authServers)),
    ("acct_servers", some (.ofTable id (AAARadConf.encode scalars) conf.acctServers))]

def encode (conf : AAAConf) : Node := .object (fields scalars conf)

def decode (node : Node) : Option AAAConf := do
  let pools <- node.required "pools" (Node.toTable some (FramedPool.decode scalars))
  let method <- node.required "method" (Node.toList AAAMethod.decode)
  let localTemplate <- node.optional "local_template" [] Node.text
  let dictionaries <- node.optional "dictionaries" [] (Node.toList Node.text)
  let authServers <- node.optional "auth_servers" ∅ (Node.toTable some (AAARadConf.decode scalars))
  let acctServers <- node.optional "acct_servers" ∅ (Node.toTable some (AAARadConf.decode scalars))
  return { method, pools, localTemplate, dictionaries, authServers, acctServers }

end AAAConf

namespace InterfaceUnit

def fields (unit : InterfaceUnit) : List (String × Option Node) :=
  [("admin_state", some (scalars.bool.encode unit.adminState)),
    ("address", unit.address.map scalars.network.encode),
    ("vlan", some (scalars.uint16.encode unit.vlan)),
    ("vrf", Node.textUnlessEmpty unit.vrf)]

def encode (unit : InterfaceUnit) : Node := .object (fields scalars unit)

def decode (node : Node) : Option InterfaceUnit := do
  let adminState <- node.optional "admin_state" true scalars.bool.decode
  let address <- node.optional "address" none (fun child => (scalars.network.decode child).map some)
  let vlan <- node.required "vlan" scalars.uint16.decode
  let vrf <- node.optional "vrf" [] Node.text
  return { address, vlan, adminState, vrf }

end InterfaceUnit

namespace InterfaceConf

def fields (conf : InterfaceConf) : List (String × Option Node) :=
  [("device", some (.scalar conf.device)),
    ("admin_state", some (scalars.bool.encode conf.adminState)),
    ("mtu", conf.mtu.map scalars.uint16.encode),
    ("units", some (.ofTable scalars.uint16.write (InterfaceUnit.encode scalars) conf.units))]

def encode (conf : InterfaceConf) : Node := .object (fields scalars conf)

def decode (node : Node) : Option InterfaceConf := do
  let device <- node.required "device" Node.text
  let adminState <- node.required "admin_state" scalars.bool.decode
  let mtu <- node.optional "mtu" none (fun child => (scalars.uint16.decode child).map some)
  let units <- node.required "units" (Node.toTable scalars.uint16.read (InterfaceUnit.decode scalars))
  return { device, adminState, mtu, units }

end InterfaceConf

namespace StaticRIBEntry

def fields (entry : StaticRIBEntry) : List (String × Option Node) :=
  [("destination", some (scalars.network.encode entry.destination)),
    ("nexthop", some (scalars.address.encode entry.nexthop)),
    ("description", entry.description.map .scalar)]

def encode (entry : StaticRIBEntry) : Node := .object (fields scalars entry)

def decode (node : Node) : Option StaticRIBEntry := do
  let destination <- node.required "destination" scalars.network.decode
  let nexthop <- node.required "nexthop" scalars.address.decode
  let description <- node.optional "description" none (fun child => child.text.map some)
  return { destination, nexthop, description }

end StaticRIBEntry

namespace StaticRIB

def fields (rib : StaticRIB) : List (String × Option Node) :=
  [("entries", some (.ofList (StaticRIBEntry.encode scalars) rib.entries))]

def encode (rib : StaticRIB) : Node := .object (fields scalars rib)

def decode (node : Node) : Option StaticRIB := do
  let entries <- node.required "entries" (Node.toList (StaticRIBEntry.decode scalars))
  return { entries }

end StaticRIB

namespace VRFConf

def fields (conf : VRFConf) : List (String × Option Node) :=
  [("name", some (.scalar conf.name)),
    ("table_id", some (scalars.uint32.encode conf.tableId)),
    ("rib", some (StaticRIB.encode scalars conf.rib))]

def encode (conf : VRFConf) : Node := .object (fields scalars conf)

def decode (node : Node) : Option VRFConf := do
  let name <- node.required "name" Node.text
  let tableId <- node.required "table_id" scalars.uint32.decode
  let rib <- node.required "rib" (StaticRIB.decode scalars)
  return { name, tableId, rib }

end VRFConf

namespace LogLevel

def name : LogLevel -> String
  | .trace => "TRACE"
  | .debug => "DEBUG"
  | .info => "INFO"
  | .warn => "WARNING"
  | .error => "ERROR"
  | .alert => "CRITICAL"

def encode (level : LogLevel) : Node := .scalar (ascii (name level))

def decode (node : Node) : Option LogLevel := do
  let text <- node.text
  if text = ascii "TRACE" then some .trace
  else if text = ascii "DEBUG" then some .debug
  else if text = ascii "INFO" then some .info
  else if text = ascii "WARNING" then some .warn
  else if text = ascii "ERROR" then some .error
  else if text = ascii "CRITICAL" then some .alert
  else none

end LogLevel

namespace PPPOEGlobalConf

def fields (conf : PPPOEGlobalConf) : List (String × Option Node) :=
  [("tap_name", some (.scalar conf.tapName)),
    ("log_level", some (LogLevel.encode conf.logLevel)),
    ("log_file", Node.textUnlessEmpty conf.logFile),
    ("interfaces", some (.ofList (InterfaceConf.encode scalars) conf.interfaces)),
    ("default_pppoe_conf", some (PPPOEPolicy.encode scalars conf.defaultPppoeConf)),
    ("pppoe_confs",
      some (.ofTable scalars.uint16.write (PPPOEPolicy.encode scalars) conf.pppoeConfs)),
    ("pppoe_templates",
      some (.ofTable id (PPPOELocalTemplate.encode scalars) conf.pppoeTemplates)),
    ("aaa_conf", some (AAAConf.encode scalars conf.aaaConf)),
    ("lcp_conf", some (LCPPolicy.encode scalars conf.lcpConf)),
    ("global_rib", some (StaticRIB.encode scalars conf.globalRib)),
    ("vrfs", some (.ofList (VRFConf.encode scalars) conf.vrfs))]

def encode (conf : PPPOEGlobalConf) : Node := .object (fields scalars conf)

def decode (node : Node) : Option PPPOEGlobalConf := do
  let tapName <- node.required "tap_name" Node.text
  let logLevel <- node.optional "log_level" .info LogLevel.decode
  let logFile <- node.optional "log_file" [] Node.text
  let interfaces <- node.required "interfaces" (Node.toList (InterfaceConf.decode scalars))
  let defaultPppoeConf <- node.required "default_pppoe_conf" (PPPOEPolicy.decode scalars)
  let pppoeConfs <- node.required "pppoe_confs"
    (Node.toTable scalars.uint16.read (PPPOEPolicy.decode scalars))
  let pppoeTemplates <- node.required "pppoe_templates"
    (Node.toTable some (PPPOELocalTemplate.decode scalars))
  let aaaConf <- node.required "aaa_conf" (AAAConf.decode scalars)
  let lcpConf <- node.optional "lcp_conf" {} (LCPPolicy.decode scalars)
  let globalRib <- node.required "global_rib" (StaticRIB.decode scalars)
  let vrfs <- node.required "vrfs" (Node.toList (VRFConf.decode scalars))
  return { tapName, logLevel, logFile, interfaces, defaultPppoeConf, pppoeConfs, pppoeTemplates,
           aaaConf, lcpConf, globalRib, vrfs }

end PPPOEGlobalConf

end Yaml
end Pppcpd
