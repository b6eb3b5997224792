import Pppcpd.Config.Generated
import Pppcpd.Foundation.Archive
import Pppcpd.Runtime.State

namespace Pppcpd

open Foundation

/-!
# The messages of the command line interface

A message has a command and a string with serialized data.  How values are
serialized is the library's matter: `Archives` is what the daemon and its
control utility use of it, and `binaryArchives` follows its binary format.
-/

namespace CLICmdType

def request : UInt8 := 0
def response : UInt8 := 1

end CLICmdType

namespace CLICmd

def getVersion : UInt8 := 0
def getPppoeSessions : UInt8 := 1
def getAaaSessions : UInt8 := 2
def getVppIfaces : UInt8 := 3

end CLICmd

/-- `CLI_MSG`. -/
structure CLIMsg where
  type : UInt8
  cmd : UInt8
  data : Bytes := []
  error : Bytes := []
  deriving DecidableEq, Repr

/-- `PPPOE_SESSION_DUMP`. -/
structure PPPOESessionDump where
  aaaSessionId : UInt32
  sessionId : UInt16
  cookie : Bytes
  username : Bytes
  address : UInt32
  ifindex : UInt32
  vrf : Bytes
  unnumbered : Bytes
  deriving DecidableEq, Repr

/-- `AAA_SESSION_DUMP`. -/
structure AAASessionDump where
  sessionId : UInt32
  username : Bytes
  address : Bytes
  dns1 : Bytes
  dns2 : Bytes
  framedPool : Bytes
  vrf : Bytes
  unnumbered : Bytes
  deriving DecidableEq, Repr

/-- `VPPInterface`. -/
structure VPPInterface where
  name : Bytes
  device : Bytes
  mac : Mac
  swIfIndex : UInt32
  speed : UInt32
  mtu : UInt16
  type : UInt8

/-- How the messages and the data in them are serialized. -/
structure Archives where
  message : Codec CLIMsg
  version : Bytes -> Bytes
  pppoeSessions : List PPPOESessionDump -> Bytes
  aaaSessions : List AAASessionDump -> Bytes
  ifaces : List VPPInterface -> Bytes

/-! ## What the daemon answers -/

/-- The session as it is shown.  The cookie of a session is never set. -/
def PPPOESession.dump (session : PPPOESession) : PPPOESessionDump where
  aaaSessionId := session.aaaSessionId
  sessionId := session.sessionId
  cookie := []
  username := session.username
  address := session.address
  ifindex := session.ifindex
  vrf := session.vrf
  unnumbered := session.unnumbered

def AAASession.dump (session : AAASession) : AAASessionDump where
  sessionId := session.sessionId
  username := session.username
  address := Yaml.writeAddress session.address
  dns1 := Yaml.writeAddress session.dns1
  dns2 := Yaml.writeAddress session.dns2
  framedPool := session.framedPool
  vrf := session.vrf
  unnumbered := session.unnumbered

namespace Runtime

/-- The active sessions, in the order of their table. -/
def activeSessions (runtime : Runtime) : List PPPOESession :=
  runtime.store.activeSessions.values.filterMap runtime.sessions.deref

/-- `run_cmd`, up to the serialized message.  The interfaces are what VPP lists. -/
def runCmd (archives : Archives) (runtime : Runtime) (ifaces : List VPPInterface) (inMsg : CLIMsg) :
    CLIMsg :=
  let outMsg : CLIMsg := { type := CLICmdType.response, cmd := inMsg.cmd }
  if inMsg.cmd = CLICmd.getVersion then
    { outMsg with data := archives.version (ascii "v1.0") }
  else if inMsg.cmd = CLICmd.getVppIfaces then
    { outMsg with data := archives.ifaces ifaces }
  else if inMsg.cmd = CLICmd.getPppoeSessions then
    { outMsg with data := archives.pppoeSessions (runtime.activeSessions.map PPPOESession.dump) }
  else if inMsg.cmd = CLICmd.getAaaSessions then
    { outMsg with data := archives.aaaSessions (runtime.activeSessions.filterMap (fun session =>
        (runtime.aaa.getSession session.aaaSessionId).map AAASession.dump)) }
  else { outMsg with error := ascii "Can't process this command" }

end Runtime

/-! ## The binary format -/

namespace BinaryArchive

open Codec (littleEndian)

/-- The tracking flag and the version that are written before the first object of a
class. -/
def classInfo : Bytes := [0, 0, 0, 0, 0]

/-- A vector: its length, the version of its items and the items. -/
def vector {Value : Type} (put : Value -> Bytes) (values : List Value) : Bytes :=
  littleEndian 8 values.length ++ littleEndian 4 0 ++
    (if values.isEmpty then [] else classInfo) ++ values.flatMap put

def putPppoeSession (dump : PPPOESessionDump) : Bytes :=
  littleEndian 4 dump.aaaSessionId.toNat ++ littleEndian 2 dump.sessionId.toNat ++
    Codec.string.put dump.cookie ++ Codec.string.put dump.username ++
    littleEndian 4 dump.address.toNat ++ littleEndian 4 dump.ifindex.toNat ++
    Codec.string.put dump.vrf ++ Codec.string.put dump.unnumbered

def putAaaSession (dump : AAASessionDump) : Bytes :=
  littleEndian 4 dump.sessionId.toNat ++ [dump.username, dump.address, dump.dns1, dump.dns2,
    dump.framedPool, dump.vrf, dump.unnumbered].flatMap Codec.string.put

def putIface (iface : VPPInterface) : Bytes :=
  Codec.string.put iface.name ++ Codec.string.put iface.device ++ iface.mac.bytes ++
    littleEndian 4 iface.swIfIndex.toNat ++ littleEndian 4 iface.speed.toNat ++
    littleEndian 2 iface.mtu.toNat ++ littleEndian 4 iface.type.toNat

/-- A message.  An enumeration is written as an integer of four bytes. -/
def message : Codec CLIMsg :=
  .image (.pair (.constant classInfo) (.pair (.number 4) (.pair (.number 4) (.pair .string .string))))
    (fun (_, type, cmd, data, error) =>
      { type := UInt8.ofNat type, cmd := UInt8.ofNat cmd, data := data, error := error })
    (fun msg => ((), msg.type.toNat, msg.cmd.toNat, msg.data, msg.error))

/-- A message whose strings have a length is lossless. -/
theorem lossless_message {msg : CLIMsg} (data : msg.data.length < 256 ^ 8)
    (error : msg.error.length < 256 ^ 8) : message.Lossless msg := by
  have small : forall byte : UInt8, byte.toNat < 256 ^ 4 := fun byte =>
    Nat.lt_trans byte.toNat_lt (by decide)
  refine Codec.lossless_image ?_ ?_
  · exact Codec.lossless_pair (Codec.lossless_constant classInfo)
      (Codec.lossless_pair (Codec.lossless_number (small msg.type))
        (Codec.lossless_pair (Codec.lossless_number (small msg.cmd))
          (Codec.lossless_pair (Codec.lossless_string data) (Codec.lossless_string error))))
  · simp

end BinaryArchive

/-- The binary format of the library. -/
def binaryArchives : Archives where
  message := BinaryArchive.message
  version := fun version => BinaryArchive.classInfo ++ Codec.string.put version
  pppoeSessions := fun dumps =>
    BinaryArchive.classInfo ++ BinaryArchive.vector BinaryArchive.putPppoeSession dumps
  aaaSessions := fun dumps =>
    BinaryArchive.classInfo ++ BinaryArchive.vector BinaryArchive.putAaaSession dumps
  ifaces := fun ifaces => BinaryArchive.classInfo ++ BinaryArchive.vector BinaryArchive.putIface ifaces

end Pppcpd
