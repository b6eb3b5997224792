import Pppcpd.Radius.Avp

namespace Pppcpd

open Foundation

/-!
# RADIUS requests and responses

The requests the daemon sends and the part of a response it reads, with their
translation to and from attributes.  `md5` is taken as any function on byte
strings.
-/

/-- `RadiusRequest` and `RadiusRequestChap`, which differ only in how the
subscriber proves who he is. -/
inductive Credential
  | pap (password : Bytes)
  | chap (challenge response : Bytes)
  deriving DecidableEq, Repr

structure RadiusRequest where
  username : Bytes
  credential : Credential
  nasId : Bytes
  serviceType : Bytes
  framedProtocol : Bytes
  callingStationId : Bytes
  nasPortId : Bytes
  deriving DecidableEq, Repr

/-- `RadiusResponse`. -/
structure RadiusResponse where
  framedIp : UInt32 := 0
  dns1 : UInt32 := 0
  dns2 : UInt32 := 0
  framedPool : Bytes := []
  pppoeTemplate : Bytes := []
  deriving DecidableEq, Repr

/-- The values of `acct_status_type`. -/
inductive AcctStatus
  | start
  | alive
  | stop
  deriving DecidableEq, Repr

def AcctStatus.text : AcctStatus -> Bytes
  | .start => ascii "Start"
  | .alive => ascii "Alive"
  | .stop => ascii "Stop"

/-- `AcctRequest`.  The code leaves `nas_port_id` and `calling_station_id`
empty. -/
structure AcctRequest where
  sessionId : Bytes
  username : Bytes
  nasId : Bytes
  acctStatusType : AcctStatus
  inPkts : UInt32 := 0
  outPkts : UInt32 := 0
  inBytes : UInt32 := 0
  outBytes : UInt32 := 0
  deriving DecidableEq, Repr

/-- The blocks of `password_pap_process`, each hidden with the digest made from
the block before it. -/
def hideBlocks (md5 : Bytes -> Bytes) (secret : Bytes) : Nat -> Bytes -> Bytes -> Bytes
  | 0, _, _ => []
  | blocks + 1, digest, pass =>
      let hidden := List.zipWith (· ^^^ ·) (digest.take 16) (pass.take 16)
      hidden ++ hideBlocks md5 secret blocks (md5 (secret ++ hidden)) (pass.drop 16)

/-- `password_pap_process`. -/
def passwordPapProcess (md5 : Bytes -> Bytes) (auth secret pass : Bytes) : Bytes :=
  let blocks := (pass.length + 15) / 16
  let padded := pass ++ List.replicate (16 * blocks - pass.length) 0
  hideBlocks md5 secret blocks (md5 (secret ++ auth)) padded

/-- An attribute that is present when its text is not empty. -/
def optionalText (dict : RadiusDict) (attr text : Bytes) : List AVP :=
  if text = [] then [] else [AVP.ofString dict attr text]

/-- An attribute that is present when the dictionary has a number for its text. -/
def optionalNumber (dict : RadiusDict) (attr text : Bytes) : List AVP :=
  let number := dict.getValueByName attr text
  if text = [] ∨ number = 0 then [] else [AVP.ofBE32 dict attr number]

/-- The attributes that carry the credential. -/
def Credential.avps (md5 : Bytes -> Bytes) (dict : RadiusDict) (auth secret : Bytes) :
    Credential -> List AVP
  | .pap password =>
      [AVP.ofString dict (ascii "User-Password") (passwordPapProcess md5 auth secret password)]
  | .chap challenge response =>
      [AVP.ofString dict (ascii "CHAP-Password") response,
        AVP.ofString dict (ascii "CHAP-Challenge") challenge]

/-- `serialize<RadiusRequest>` and `serialize<RadiusRequestChap>`. -/
def RadiusRequest.serialize (md5 : Bytes -> Bytes) (dict : RadiusDict) (request : RadiusRequest)
    (auth secret : Bytes) : Bytes :=
  AVP.serializeAll
    ([AVP.ofString dict (ascii "User-Name") request.username] ++
      request.credential.avps md5 dict auth secret ++
      optionalText dict (ascii "NAS-Identifier") request.nasId ++
      optionalNumber dict (ascii "Framed-Protocol") request.framedProtocol ++
      optionalNumber dict (ascii "Service-Type") request.serviceType ++
      optionalText dict (ascii "Calling-Station-Id") request.callingStationId ++
      optionalText dict (ascii "NAS-Port-Id") request.nasPortId)

/-- `serialize<AcctRequest>`. -/
def AcctRequest.serialize (dict : RadiusDict) (request : AcctRequest) : Bytes :=
  AVP.serializeAll
    ([AVP.ofString dict (ascii "Acct-Session-Id") request.sessionId,
      AVP.ofString dict (ascii "User-Name") request.username,
      AVP.ofBE32 dict (ascii "Acct-Input-Packets") request.inPkts,
      AVP.ofBE32 dict (ascii "Acct-Output-Packets") request.outPkts,
      AVP.ofBE32 dict (ascii "Acct-Input-Octets") request.inBytes,
      AVP.ofBE32 dict (ascii "Acct-Output-Octets") request.outBytes] ++
      optionalText dict (ascii "Acct-Status-Type") request.acctStatusType.text ++
      optionalText dict (ascii "NAS-Identifier") request.nasId)

namespace RadiusResponse

/-- One round of `deserialize<RadiusResponse>`. -/
def read (dict : RadiusDict) (response : RadiusResponse) (avp : AVP) : RadiusResponse :=
  let attr := dict.getAttrById avp.type avp.vendor
  if attr = ascii "Framed-IP-Address" then
    { response with framedIp := avp.getBE32.getD response.framedIp }
  else if attr = ascii "Client-DNS-Pri" then
    { response with dns1 := avp.getBE32.getD response.dns1 }
  else if attr = ascii "Client-DNS-Sec" then
    { response with dns2 := avp.getBE32.getD response.dns2 }
  else if attr = ascii "Framed-Pool" then { response with framedPool := avp.value }
  else if attr = ascii "Subscriber-Profile-Name" then { response with pppoeTemplate := avp.value }
  else response

/-- `deserialize<RadiusResponse>`. -/
def deserialize (dict : RadiusDict) (attributes : Buffer) (uninitialised : Nat -> UInt32) :
    Option RadiusResponse :=
  (AVP.parse attributes uninitialised).map (fun avps => avps.foldl (read dict) {})

end RadiusResponse

/-- `deserialize<AcctResponse>`: the attributes are parsed and then ignored, so
all that is left of it is whether it ends. -/
def acctResponseEnds (attributes : Buffer) (uninitialised : Nat -> UInt32) : Option Unit :=
  (AVP.parse attributes uninitialised).map (fun _ => ())

end Pppcpd
