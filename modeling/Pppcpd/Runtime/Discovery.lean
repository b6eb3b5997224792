import Pppcpd.Runtime.State

namespace Pppcpd

open Foundation

/-!
# PPPoE discovery

The handling of PADI, PADR and PADT.  Tags are parsed by offsets found in the
packet, which always advance, so the loop ends.  `insertTag` returns the size
of a tag in eight bits, and a reply is cut to the length these sizes add up to.
-/

namespace Discovery

abbrev Tags := Table UInt16 Bytes

/-- The loop of `parseTags`.  Every round moves by at least four bytes, so a
vector is done after as many rounds as it has bytes, and one. -/
def parseTagsFrom (packet : Buffer) : Nat -> Nat -> Tags -> Tags × Option String
  | 0, _, tags => (tags, none)
  | rounds + 1, offset, tags =>
      let tag := packet.field16 offset
      let len := (packet.field16 (offset + 2)).toNat
      if tag = PPPOETag.endOfList then (tags, none)
      else
        let emplaced := Table.emplace tag (packet.slice (offset + 4) len) tags
        if emplaced.2 then
          let next := offset + 4 + len
          if packet.bytes.length ≤ next then (emplaced.1, none)
          else parseTagsFrom packet rounds next emplaced.1
        else (tags, some ("Cannot insert tag " ++ toString tag.toNat ++ " in tag map"))

/-- `parseTags`. -/
def parseTags (packet : Buffer) : Tags × Option String :=
  parseTagsFrom packet (packet.bytes.length + 1) 0 ∅

/-- The bytes of a tag. -/
def tagBytes (tag : UInt16) (value : Bytes) : Bytes :=
  bytes16 tag ++ bytes16 (UInt16.ofNat value.length) ++ value

/-- A reply under construction: the tags so far and `taglen`. -/
structure Reply where
  tags : Bytes := []
  taglen : UInt16 := 0
  deriving DecidableEq, Repr

/-- `taglen += insertTag( ... )`. -/
def Reply.insertTag (reply : Reply) (tag : UInt16) (value : Bytes) : Reply :=
  { tags := reply.tags ++ tagBytes tag value
    taglen := reply.taglen + (UInt8.ofNat (4 + value.length)).toUInt16 }

/-- Insert a tag when there is a value for it. -/
def Reply.insertOptional (reply : Reply) (tag : UInt16) (value : Option Bytes) : Reply :=
  match value with
  | none => reply
  | some value => reply.insertTag tag value

/-- A discovery packet with the tags of a reply, resized to `taglen`. -/
def Reply.packet (reply : Reply) (code : UInt8) (sessionId : UInt16) : Bytes :=
  let length := reply.taglen.toNat
  [0x11, code] ++ bytes16 sessionId ++ bytes16 reply.taglen ++
    (reply.tags ++ List.replicate (length - reply.tags.length) 0).take length

/-- The service name that a PADO carries for a requested one. -/
def selectService (policy : PPPOEPolicy) (requested : Bytes) : Except String Bytes :=
  let selected := if requested ∈ policy.serviceName then requested else []
  if selected = [] then
    if policy.ignoreServiceName then .ok requested else .error "Wrong service name"
  else .ok selected

/-- The pending key of a cookie on a link. -/
def connOf (encap : Encapsulation) (cookie : Bytes) : PPPOEConn :=
  ⟨encap.sourceMac, encap.outerVlan, encap.innerVlan, cookie⟩

/-- The payload of a discovery packet, from its tags on. -/
def payload (packet : Packet) : Except String Buffer :=
  if packet.bytes.length < sizeofPPPOEDiscHdr then .error "Too small packet"
  else .ok (packet.drop sizeofPPPOEDiscHdr)

/-- The tags of a packet whose type has the given name in error texts. -/
def tagsOf (name : String) (packet : Packet) : Except String Tags :=
  (payload packet).bind (fun rest =>
    let parsed := parseTags rest
    match parsed.2 with
    | none => .ok parsed.1
    | some err => .error ("Cannot process " ++ name ++ ": " ++ err))

end Discovery

namespace Runtime

open Discovery

/-- The tags of a PADO, and the cookie it is answered with. -/
def padoTags (runtime : Runtime) (env : Env) (encap : Encapsulation) (packet : Packet) :
    Except String (Reply × Bytes) :=
  (tagsOf "PADI" packet).bind (fun tags =>
    let policy := runtime.policy encap.outerVlan
    let named := ({} : Reply).insertTag PPPOETag.acName policy.acName
    let echoed := named.insertOptional PPPOETag.hostUniq (tags.lookup PPPOETag.hostUniq)
    let serviced : Except String Reply :=
      match tags.lookup PPPOETag.serviceName with
      | none => .ok echoed
      | some requested =>
          (selectService policy requested).map (echoed.insertTag PPPOETag.serviceName)
    serviced.map (fun reply =>
      if policy.insertCookie then (reply.insertTag PPPOETag.acCookie env.cookie, env.cookie)
      else (reply, [])))

/-- `process_padi`.  The second component is the reply or the error. -/
def processPadi (env : Env) (encap : Encapsulation) (packet : Packet) (runtime : Runtime) :
    Runtime × Except String Bytes :=
  match runtime.padoTags env encap packet with
  | .error err => (runtime, .error err)
  | .ok (reply, cookie) =>
      let pended := runtime.pendeSession (connOf encap cookie)
      match pended.2 with
      | some err => (pended.1, .error ("Cannot pende session: " ++ err))
      | none => (pended.1, .ok (reply.packet PPPOECode.pado 0))

/-- The tags of a PADS. -/
def padsTags (tags : Tags) : Reply :=
  (({} : Reply).insertOptional PPPOETag.serviceName (tags.lookup PPPOETag.serviceName)).insertOptional
    PPPOETag.hostUniq (tags.lookup PPPOETag.hostUniq)

/-- `process_padr`. -/
def processPadr (env : Env) (encap : Encapsulation) (packet : Packet) (runtime : Runtime) :
    Option (Runtime × Except String Bytes) :=
  match tagsOf "PADR" packet with
  | .error err => some (runtime, .error err)
  | .ok tags =>
      let cookie := (tags.lookup PPPOETag.acCookie).getD []
      let checked := runtime.checkSession (connOf encap cookie)
      if checked.2 then
        (checked.1.allocateSession env encap).map (fun allocated =>
          match allocated.2.2 with
          | some err => (allocated.1, .error ("Cannot process PADR: " ++ err))
          | none => (allocated.1, .ok ((padsTags tags).packet PPPOECode.pads allocated.2.1)))
      else some (checked.1, .error "We don't expect this session")

/-- Queue a discovery reply, or return the error. -/
def reply (encap : Encapsulation) (processed : Runtime × Except String Bytes) :
    Runtime × Option String :=
  match processed.2 with
  | .error err => (processed.1, some err)
  | .ok packet =>
      ({ processed.1 with
          pppoeOutcoming := processed.1.pppoeOutcoming ++
            [encap.generateHeader processed.1.hwaddr ethPppoeDiscovery ++ packet] }, none)

/-- `processPPPOE`. -/
def processPPPOE (env : Env) (encap : Encapsulation) (packet : Packet) (runtime : Runtime) :
    Option (Runtime × Option String) :=
  if packet.pppoeCode = PPPOECode.padi then
    some (reply encap (runtime.processPadi env encap packet))
  else if packet.pppoeCode = PPPOECode.padr then
    (runtime.processPadr env encap packet).map (reply encap)
  else if packet.pppoeCode = PPPOECode.padt then
    some ((runtime.deallocateSession packet.pppoeSessionId).1, none)
  else some (runtime, some "Incorrect code for packet")

end Runtime

end Pppcpd
