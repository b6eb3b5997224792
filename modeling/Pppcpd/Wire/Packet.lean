import Pppcpd.Foundation.Bytes

namespace Pppcpd

open Foundation

/-!
# Packet layout

Constants and field offsets of PPPoE and PPP packets.  A session packet handed
to the protocol code starts at its PPPoE header: eight bytes of
`PPPOESESSION_HDR`, then the PPP packet, whose header is `PPP_LCP`,
`PPP_AUTH_HDR` or `PPP_CHAP_HDR`.  A discovery packet starts at its six bytes
of `PPPOEDISC_HDR`.  Codes are kept as the bytes they are on the wire, since a
peer may send any byte.
-/

namespace PPPOECode
def sessionData : UInt8 := 0x00
def padi : UInt8 := 0x09
def pado : UInt8 := 0x07
def padr : UInt8 := 0x19
def pads : UInt8 := 0x65
def padt : UInt8 := 0xa7
end PPPOECode

namespace PPPProto
def lcp : UInt16 := 0xc021
def pap : UInt16 := 0xc023
def chap : UInt16 := 0xc223
def ipcp : UInt16 := 0x8021
end PPPProto

namespace PPPOETag
def endOfList : UInt16 := 0x0000
def serviceName : UInt16 := 0x0101
def acName : UInt16 := 0x0102
def hostUniq : UInt16 := 0x0103
def acCookie : UInt16 := 0x0104
end PPPOETag

namespace LCPCode
def confReq : UInt8 := 1
def confAck : UInt8 := 2
def confNak : UInt8 := 3
def confRej : UInt8 := 4
def termReq : UInt8 := 5
def termAck : UInt8 := 6
def codeRej : UInt8 := 7
def echoReq : UInt8 := 9
def echoReply : UInt8 := 10
end LCPCode

namespace PAPCode
def authenticateReq : UInt8 := 1
def authenticateAck : UInt8 := 2
def authenticateNak : UInt8 := 3
end PAPCode

namespace CHAPCode
def challenge : UInt8 := 1
def response : UInt8 := 2
def success : UInt8 := 3
def failure : UInt8 := 4
end CHAPCode

namespace LCPOption
def mru : UInt8 := 1
def authProto : UInt8 := 3
def magicNumber : UInt8 := 5
end LCPOption

namespace IPCPOption
def ipAddress : UInt8 := 3
def primaryDns : UInt8 := 129
def secondaryDns : UInt8 := 131
end IPCPOption

/-- `ETH_PPPOE_DISCOVERY`, `ETH_PPPOE_SESSION` and `ETH_VLAN`. -/
def ethPppoeDiscovery : UInt16 := 0x8863
def ethPppoeSession : UInt16 := 0x8864
def ethVlan : UInt16 := 0x8100

/-- `sizeof` of the packed header structures. -/
def sizeofEthernetHdr : Nat := 14
def sizeofPPPOEDiscHdr : Nat := 6
def sizeofPPPOESessionHdr : Nat := 8
def sizeofPPPLcp : Nat := 4
def sizeofPPPChapHdr : Nat := 21

/-- `mac_t`, six bytes. -/
structure Mac where
  b0 : UInt8
  b1 : UInt8
  b2 : UInt8
  b3 : UInt8
  b4 : UInt8
  b5 : UInt8
  deriving DecidableEq, Repr

def Mac.bytes (mac : Mac) : Bytes := [mac.b0, mac.b1, mac.b2, mac.b3, mac.b4, mac.b5]

/-- The two lower-case hexadecimal digits of a byte. -/
def hexDigits (byte : UInt8) : Bytes :=
  let digits := ascii "0123456789abcdef"
  [digits.getD (byte.toNat / 16) 0, digits.getD (byte.toNat % 16) 0]

/-- The text that `operator<<` prints for an address. -/
def Mac.text (mac : Mac) : Bytes :=
  (mac.bytes.map hexDigits).intersperse (ascii ":") |>.flatten

/-! ## Reading a session packet -/

/-- A received packet, from its PPPoE header on. -/
abbrev Packet := Buffer

namespace Packet

/-- The code byte of either PPPoE header. -/
def pppoeCode (packet : Packet) : UInt8 := packet.read 1

/-- The session id of either PPPoE header. -/
def pppoeSessionId (packet : Packet) : UInt16 := packet.field16 2

def pppProtocol (packet : Packet) : UInt16 := packet.field16 6

/-- Code, identifier and length of the PPP packet.  The three headers
`PPP_LCP`, `PPP_AUTH_HDR` and `PPP_CHAP_HDR` agree on these fields. -/
def code (packet : Packet) : UInt8 := packet.read 8

def identifier (packet : Packet) : UInt8 := packet.read 9

def length (packet : Packet) : UInt16 := packet.field16 10

/-- Overwrite the code of the PPP packet. -/
def setCode (packet : Packet) (value : UInt8) : Packet := packet.set 8 value

/-- Index of `PPP_LCP::data`, where the options start. -/
def optionBase : Nat := 12

/-- Type and length byte of the option at an offset of the option area. -/
def optionType (packet : Packet) (offset : Nat) : UInt8 := packet.read (optionBase + offset)

def optionLen (packet : Packet) (offset : Nat) : UInt8 := packet.read (optionBase + offset + 1)

/-- The 16-bit and 32-bit value fields of an option. -/
def optionVal16 (packet : Packet) (offset : Nat) : UInt16 := packet.field16 (optionBase + offset + 2)

def optionVal32 (packet : Packet) (offset : Nat) : UInt32 := packet.field32 (optionBase + offset + 2)

/-- The bytes of a whole option, as many as its length byte says. -/
def optionBytes (packet : Packet) (offset : Nat) : Bytes :=
  packet.slice (optionBase + offset) (packet.optionLen offset).toNat

/-- Changing the code touches no option. -/
theorem optionLen_setCode (packet : Packet) (value : UInt8) (offset : Nat) :
    (packet.setCode value).optionLen offset = packet.optionLen offset := by
  unfold optionLen setCode optionBase
  exact Buffer.read_set_of_ne packet value (by omega)

theorem optionType_setCode (packet : Packet) (value : UInt8) (offset : Nat) :
    (packet.setCode value).optionType offset = packet.optionType offset := by
  unfold optionType setCode optionBase
  exact Buffer.read_set_of_ne packet value (by omega)

theorem optionVal32_setCode (packet : Packet) (value : UInt8) (offset : Nat) :
    (packet.setCode value).optionVal32 offset = packet.optionVal32 offset := by
  have reads : forall behind, 8 < behind -> (packet.setCode value).read behind = packet.read behind :=
    fun behind later => Buffer.read_set_of_ne packet value (by omega)
  unfold optionVal32 Buffer.field32 optionBase
  rw [reads _ (by omega), reads _ (by omega), reads _ (by omega), reads _ (by omega)]

theorem length_setCode (packet : Packet) (value : UInt8) :
    (packet.setCode value).length = packet.length := by
  unfold length Buffer.field16 setCode
  rw [Buffer.read_set_of_ne packet value (by omega), Buffer.read_set_of_ne packet value (by omega)]

end Packet

/-! ## Building a session packet -/

/-- The eight bytes of a `PPPOESESSION_HDR` with type and version one. -/
def pppoeSessionHdr (sessionId : UInt16) (length : UInt16) (proto : UInt16) : Bytes :=
  [0x11, PPPOECode.sessionData] ++ bytes16 sessionId ++ bytes16 length ++ bytes16 proto

/-- The four bytes of a `PPP_LCP` or `PPP_AUTH_HDR` header. -/
def pppHdr (code identifier : UInt8) (length : UInt16) : Bytes :=
  [code, identifier] ++ bytes16 length

/-- `LCP_OPT_2B::set`, `LCP_OPT_3B::set` and `LCP_OPT_4B::set`. -/
def opt2B (kind : UInt8) (value : UInt16) : Bytes := [kind, 4] ++ bytes16 value

def opt3B (kind : UInt8) (value : UInt16) (additional : UInt8) : Bytes :=
  [kind, 5] ++ bytes16 value ++ [additional]

def opt4B (kind : UInt8) (value : UInt32) : Bytes := [kind, 6] ++ bytes32 value

end Pppcpd
