import Pppcpd.Foundation.Bytes

namespace Pppcpd

open Foundation

/-!
# RADIUS dictionary and attributes

`RadiusDict` maps attribute names to numbers and back.  `AVP` is one attribute.
The constructor that parses an attribute sets the member `vendor` only for a
vendor-specific one, so for the others the model takes the value from a list of
whatever the memory held.  Parsing can read past the end of the vector, and it
does not end when it meets a length byte of zero.
-/

/-- `radius_attribute_t`.  The type of an attribute is used only for printing. -/
structure RadiusAttribute where
  name : Bytes
  values : List (UInt32 × Bytes) := []
  deriving DecidableEq, Repr

/-- `RadiusDict`, with the entries of its maps in key order. -/
structure RadiusDict where
  attrs : List (UInt8 × RadiusAttribute) := []
  vsa : List (UInt32 × List (UInt8 × RadiusAttribute)) := []
  deriving DecidableEq, Repr

namespace RadiusDict

/-- `getIdByName`. -/
def getIdByName (dict : RadiusDict) (attr : Bytes) : UInt8 × UInt32 :=
  match dict.attrs.find? (fun entry => entry.2.name == attr) with
  | some entry => (entry.1, 0)
  | none =>
      let vendorIds := dict.vsa.filterMap (fun vendor =>
        (vendor.2.find? (fun entry => entry.2.name == attr)).map (fun entry => (entry.1, vendor.1)))
      vendorIds.headD (0, 0)

/-- The name part of `getAttrById`. -/
def getAttrById (dict : RadiusDict) (id : UInt8) (vendor : UInt32) : Bytes :=
  let attributes := if vendor = 0 then dict.attrs else (dict.vsa.lookup vendor).getD []
  ((attributes.lookup id).map RadiusAttribute.name).getD []

/-- `getValueByName`, where zero means that there is no such value. -/
def getValueByName (dict : RadiusDict) (attr text : Bytes) : UInt32 :=
  let values := dict.attrs.filterMap (fun entry =>
    if entry.2.name == attr then
      (entry.2.values.find? (fun value => value.2 == text)).map Prod.fst
    else none)
  values.headD 0

end RadiusDict

/-- `AVP`. -/
structure AVP where
  type : UInt8
  length : UInt8
  value : Bytes
  vendor : UInt32
  deriving DecidableEq, Repr

namespace AVP

def radiusVsa : UInt8 := 26

/-- An attribute of a name with the given value bytes. -/
def ofValue (dict : RadiusDict) (attr value : Bytes) : AVP :=
  let id := dict.getIdByName attr
  { type := id.1, vendor := id.2, value := value, length := UInt8.ofNat (2 + value.length) }

/-- The constructor from a `BE32`. -/
def ofBE32 (dict : RadiusDict) (attr : Bytes) (value : UInt32) : AVP :=
  ofValue dict attr (bytes32 value)

/-- The constructor from a `BE16`. -/
def ofBE16 (dict : RadiusDict) (attr : Bytes) (value : UInt16) : AVP :=
  ofValue dict attr (bytes16 value)

/-- The constructor from a string.  A string that the dictionary lists as a
value of the attribute is replaced by its number. -/
def ofString (dict : RadiusDict) (attr text : Bytes) : AVP :=
  let number := dict.getValueByName attr text
  ofValue dict attr (if number = 0 then text else bytes32 number)

/-- A 32-bit number in the byte order of the host. -/
def hostBytes32 (value : UInt32) : Bytes := (bytes32 value).reverse

/-- `AVP::serialize`. -/
def serialize (avp : AVP) : Bytes :=
  if avp.vendor = 0 then [avp.type, avp.length] ++ avp.value
  else
    [UInt8.ofNat (8 + avp.value.length)] ++ hostBytes32 avp.vendor ++ [avp.type, avp.length] ++
      avp.value

/-- Insertion into `std::set<AVP>`, which is ordered by type alone. -/
def emplace (avp : AVP) : List AVP -> List AVP
  | [] => [avp]
  | first :: rest =>
      if avp.type < first.type then avp :: first :: rest
      else if first.type < avp.type then first :: emplace avp rest
      else first :: rest

/-- The set with attributes inserted one after the other. -/
def set (avps : List AVP) : List AVP := avps.foldl (fun set avp => emplace avp set) []

/-- `serializeAVP`. -/
def serializeAll (avps : List AVP) : Bytes := ((set avps).map serialize).flatten

/-- `getVal<BE32>`. -/
def getBE32 (avp : AVP) : Option UInt32 :=
  match avp.value with
  | [first, second, third, fourth] => some (be32 first second third fourth)
  | _ => none

/-- `getVal<BE16>`, which asks for four bytes and reads the first two. -/
def getBE16 (avp : AVP) : Option UInt16 :=
  match avp.value with
  | [first, second, _, _] => some (be16 first second)
  | _ => none

/-- `getVal<std::string>`. -/
def getString (avp : AVP) : Option Bytes := some avp.value

/-- The parsing constructor at an offset of a vector: the attribute and its
`original_len`.  It throws, here `none`, when fewer than two bytes remain or
the length byte is less than two. -/
def parseAt (buffer : Buffer) (offset : Nat) (uninitialised : UInt32) : Option (AVP × UInt8) :=
  if buffer.bytes.length < offset + 2 then none
  else
    let originalLen := buffer.read (offset + 1)
    let inner := if buffer.read offset = radiusVsa then offset + 6 else offset
    let vendor := if buffer.read offset = radiusVsa then buffer.field32 (offset + 2) else uninitialised
    let length := buffer.read (inner + 1)
    if length < 2 then none
    else
      some ({ type := buffer.read inner, length := length, vendor := vendor
              value := buffer.slice (inner + 2) (length.toNat - 2) }, originalLen)

/-- The loop of `parseAVP`.  An exception ends it and keeps what was parsed.
Each round that goes on moves by at least one byte, so the length of the vector
is enough fuel, and a round that does not move is the endless loop. -/
def parseFrom (buffer : Buffer) (uninitialised : Nat -> UInt32) :
    Nat -> Nat -> Nat -> Option (List AVP)
  | 0, _, _ => none
  | fuel + 1, index, offset =>
      if offset = buffer.bytes.length then some []
      else
        match parseAt buffer offset (uninitialised index) with
        | none => some []
        | some (avp, originalLen) =>
            if originalLen = 0 then none
            else
              (parseFrom buffer uninitialised fuel (index + 1) (offset + originalLen.toNat)).map
                (avp :: ·)

/-- `parseAVP`. -/
def parse (buffer : Buffer) (uninitialised : Nat -> UInt32) : Option (List AVP) :=
  parseFrom buffer uninitialised (buffer.bytes.length + 2) 0 0

end AVP

end Pppcpd
