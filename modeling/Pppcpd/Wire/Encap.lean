import Pppcpd.Wire.Packet

namespace Pppcpd

open Foundation

/-!
# Link encapsulation of a subscriber

`encapsulation_t` holds the addresses and VLAN ids a frame was received with.
Replies are built for the same link: the subscriber's source address becomes
the destination, and each nonzero VLAN id adds a tag.
-/

structure Encapsulation where
  sourceMac : Mac
  destinationMac : Mac
  outerVlan : UInt16
  innerVlan : UInt16
  type : UInt16
  deriving DecidableEq, Repr

namespace Encapsulation

/-- `generate_header`.  The vector is sized from both VLAN ids first, so an
inner id without an outer one leaves four zero bytes behind the ethertype. -/
def generateHeader (encap : Encapsulation) (mac : Mac) (ethertype : UInt16) : Bytes :=
  let addresses := encap.sourceMac.bytes ++ mac.bytes
  if encap.outerVlan = 0 then
    addresses ++ bytes16 ethertype ++ (if encap.innerVlan = 0 then [] else [0, 0, 0, 0])
  else if encap.innerVlan = 0 then
    addresses ++ bytes16 ethVlan ++ bytes16 encap.outerVlan ++ bytes16 ethertype
  else
    addresses ++ bytes16 ethVlan ++ bytes16 encap.outerVlan ++ bytes16 ethVlan ++
      bytes16 encap.innerVlan ++ bytes16 ethertype

/-- The six bytes of an address in a frame. -/
def macAt (frame : Buffer) (index : Nat) : Mac :=
  ⟨frame.read index, frame.read (index + 1), frame.read (index + 2), frame.read (index + 3),
    frame.read (index + 4), frame.read (index + 5)⟩

/-- The VLAN id of a tag, without its priority bits. -/
def vlanId (frame : Buffer) (index : Nat) : UInt16 := 0x0fff &&& frame.field16 index

/-- What the constructor finds in a frame with its Ethernet header: how many
bytes the headers take, both VLAN ids, and the type of what follows. -/
def parseHeaders (outer inner : UInt16) (frame : Buffer) : Nat × UInt16 × UInt16 × UInt16 :=
  if frame.field16 12 = ethVlan then
    if frame.field16 16 = ethVlan then (22, vlanId frame 14, vlanId frame 18, frame.field16 20)
    else (18, vlanId frame 14, inner, frame.field16 16)
  else (14, outer, inner, frame.field16 12)

/-- The constructor `encapsulation_t( pkt, o, i )`: the encapsulation and what is
left of the packet.  A frame without an Ethernet header leaves `type`
uninitialised, and erasing more bytes than there are has no meaning. -/
def construct (type outer inner : UInt16) (frame : Buffer) : Option (Encapsulation × Buffer) :=
  if frame.bytes.length < sizeofEthernetHdr then
    some (⟨⟨0, 0, 0, 0, 0, 0⟩, ⟨0, 0, 0, 0, 0, 0⟩, outer, inner, type⟩, frame)
  else
    let found := parseHeaders outer inner frame
    if found.1 ≤ frame.bytes.length then
      some (⟨macAt frame 6, macAt frame 0, found.2.1, found.2.2.1, found.2.2.2⟩, frame.drop found.1)
    else none

end Encapsulation

/-- `pppoe_key_t`, the key of an active session. -/
structure PPPOEKey where
  mac : Mac
  sessionId : UInt16
  outerVlan : UInt16
  innerVlan : UInt16
  deriving DecidableEq, Repr

/-- The key of a session id on an encapsulation. -/
def PPPOEKey.ofEncap (encap : Encapsulation) (sessionId : UInt16) : PPPOEKey :=
  ⟨encap.sourceMac, sessionId, encap.outerVlan, encap.innerVlan⟩

/-- The key lies on the link of an encapsulation: same source address and the
same two VLAN ids. -/
def PPPOEKey.OnLink (key : PPPOEKey) (encap : Encapsulation) : Prop :=
  key.mac = encap.sourceMac ∧ key.outerVlan = encap.outerVlan ∧ key.innerVlan = encap.innerVlan

instance (key : PPPOEKey) (encap : Encapsulation) : Decidable (key.OnLink encap) :=
  inferInstanceAs (Decidable (_ ∧ _ ∧ _))

/-- `pppoe_conn_t`, the key of a pending session. -/
structure PPPOEConn where
  mac : Mac
  outerVlan : UInt16
  innerVlan : UInt16
  cookie : Bytes
  deriving DecidableEq, Repr

end Pppcpd
