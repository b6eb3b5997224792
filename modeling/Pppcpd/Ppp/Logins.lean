import Pppcpd.Ppp.Auth
import Pppcpd.Radius.Messages

namespace Pppcpd

open Foundation

/-!
# Logins

A peer proves who it is with a PAP Authenticate-Request or with a CHAP Response.
In the first the name and the password have a length byte each.  In the second
the name is what the length field leaves for it, and `recv_auth_req` keeps this
number in eight bits.
-/

/-- What a peer states in a request: the identifier, its name, and the password of
PAP or the value of CHAP. -/
structure Login where
  identifier : UInt8
  username : Bytes
  secret : Bytes
  deriving DecidableEq, Repr

namespace AuthProtocol

/-- The protocol number of a packet of the protocol. -/
def number : AuthProtocol -> UInt16
  | .pap => PPPProto.pap
  | .chap => PPPProto.chap

/-- The code of a packet that `receive` hands to `recv_auth_req`. -/
def requestCode : AuthProtocol -> UInt8
  | .pap => PAPCode.authenticateReq
  | .chap => CHAPCode.response

/-- What `recv_auth_req` reads: the name, which it stores in the session, and the
credential. -/
def read (protocol : AuthProtocol) (session : PPPOESession) (packet : Packet) :
    Bytes × Credential :=
  match protocol with
  | .pap =>
      let request := PAPRequest.parse packet
      (request.username, .pap request.password)
  | .chap =>
      let response := CHAPResponse.parse packet
      (response.username, .chap session.chap.challenge response.response)

/-- The data of a request, behind its header. -/
def requestData (login : Login) : AuthProtocol -> Bytes
  | .pap => (UInt8.ofNat login.username.length :: login.username) ++
      UInt8.ofNat login.secret.length :: login.secret
  | .chap => (UInt8.ofNat chapValueSize :: login.secret) ++ login.username

/-- A login that a request of the protocol can carry: names and passwords of PAP fit
their length bytes, the value of CHAP has its size, and the packet its length
fields. -/
def Carries (login : Login) : AuthProtocol -> Prop
  | .pap => login.username.length < 256 ∧ login.secret.length < 256
  | .chap => login.secret.length = chapValueSize ∧
      sizeofPPPChapHdr + login.username.length + 2 < 65536

instance (login : Login) (protocol : AuthProtocol) : Decidable (protocol.Carries login) := by
  cases protocol <;> exact inferInstanceAs (Decidable (_ ∧ _))

/-- The headers of a request. -/
def requestHeader (protocol : AuthProtocol) (sid : UInt16) (identifier : UInt8) (length : Nat) :
    Bytes :=
  pppoeSessionHdr sid (UInt16.ofNat (length + 2)) protocol.number ++
    pppHdr protocol.requestCode identifier (UInt16.ofNat length)

/-- A request as a peer sends it. -/
def request (protocol : AuthProtocol) (sid : UInt16) (login : Login) : Bytes :=
  protocol.requestHeader sid login.identifier (sizeofPPPLcp + (protocol.requestData login).length) ++
    protocol.requestData login

/-- The credential that the request states, for the challenge of the session. -/
def credential (session : PPPOESession) (login : Login) : AuthProtocol -> Credential
  | .pap => .pap login.secret
  | .chap => .chap session.chap.challenge (login.identifier :: login.secret)

/-- The part of the name that `recv_auth_req` keeps. -/
def keptName (name : Bytes) : AuthProtocol -> Bytes
  | .pap => name
  | .chap => name.take (name.length % 256)

theorem length_request (protocol : AuthProtocol) (sid : UInt16) (login : Login)
    (padding : Bytes) (behind : Nat -> UInt8) :
    Packet.length ⟨protocol.request sid login ++ padding, behind⟩ =
      UInt16.ofNat (sizeofPPPLcp + (protocol.requestData login).length) :=
  be16_bytes16 _

/-- A request of PAP is read as it was written. -/
theorem parse_pap {login : Login} (carries : AuthProtocol.pap.Carries login) (sid : UInt16)
    (padding : Bytes) (behind : Nat -> UInt8) :
    PAPRequest.parse ⟨AuthProtocol.pap.request sid login ++ padding, behind⟩ =
      ⟨login.username, login.secret⟩ := by
  rcases carries with ⟨nameFits, secretFits⟩
  generalize isHeader : AuthProtocol.pap.requestHeader sid login.identifier
    (sizeofPPPLcp + (AuthProtocol.pap.requestData login).length) = header
  have size : header.length = papDataIndex := by
    rw [← isHeader]
    rfl
  have nameLen : (UInt8.ofNat login.username.length).toNat = login.username.length := by
    rw [UInt8.toNat_ofNat', Nat.mod_eq_of_lt nameFits]
  have secretLen : (UInt8.ofNat login.secret.length).toNat = login.secret.length := by
    rw [UInt8.toNat_ofNat', Nat.mod_eq_of_lt secretFits]
  -- The packet, cut in front of the name, behind it, and in front of the password.
  have toName : AuthProtocol.pap.request sid login ++ padding =
      (header ++ [UInt8.ofNat login.username.length]) ++ (login.username ++
        (UInt8.ofNat login.secret.length :: (login.secret ++ padding))) := by
    unfold request
    rw [isHeader]
    simp [requestData]
  have toLength : AuthProtocol.pap.request sid login ++ padding =
      (header ++ [UInt8.ofNat login.username.length] ++ login.username) ++
        (UInt8.ofNat login.secret.length :: (login.secret ++ padding)) := by
    rw [toName, List.append_assoc (header ++ _)]
  have toSecret : AuthProtocol.pap.request sid login ++ padding =
      (header ++ [UInt8.ofNat login.username.length] ++ login.username ++
        [UInt8.ofNat login.secret.length]) ++ (login.secret ++ padding) := by
    rw [toLength]
    simp
  have readName : Buffer.read ⟨AuthProtocol.pap.request sid login ++ padding, behind⟩ papDataIndex =
      UInt8.ofNat login.username.length :=
    Buffer.read_of_cut (toName.trans (List.append_assoc _ _ _)) size behind
  have name : Buffer.slice ⟨AuthProtocol.pap.request sid login ++ padding, behind⟩
      (papDataIndex + 1) login.username.length = login.username := by
    refine Buffer.slice_of_cut toName ?_ rfl behind
    rw [List.length_append, size]
    rfl
  have readSecret : Buffer.read ⟨AuthProtocol.pap.request sid login ++ padding, behind⟩
      (papDataIndex + 1 + login.username.length) = UInt8.ofNat login.secret.length := by
    refine Buffer.read_of_cut toLength ?_ behind
    rw [List.length_append, List.length_append, size]
    rfl
  have secret : Buffer.slice ⟨AuthProtocol.pap.request sid login ++ padding, behind⟩
      (papDataIndex + 1 + login.username.length + 1) login.secret.length = login.secret := by
    refine Buffer.slice_of_cut toSecret ?_ rfl behind
    rw [List.length_append, List.length_append, List.length_append, size]
    rfl
  unfold PAPRequest.parse
  dsimp only
  rw [readName, nameLen, readSecret, secretLen, name, secret]

/-- The length of the name that is left after eight bits of it were kept. -/
theorem keptLength {login : Login} (carries : AuthProtocol.chap.Carries login) :
    (UInt8.ofNat ((UInt16.ofNat (sizeofPPPLcp + (AuthProtocol.chap.requestData login).length)).toNat +
      65536 - sizeofPPPChapHdr)).toNat = login.username.length % 256 := by
  rcases carries with ⟨valueSize, fits⟩
  have size : (AuthProtocol.chap.requestData login).length = 17 + login.username.length := by
    simp [requestData, valueSize, chapValueSize, Nat.add_comm, Nat.add_left_comm]
  rw [size, UInt16.toNat_ofNat', UInt8.toNat_ofNat']
  unfold sizeofPPPChapHdr at fits ⊢
  unfold sizeofPPPLcp
  omega

/-- A response of CHAP is read as it was written, but for the end of a long name. -/
theorem parse_chap {login : Login} (carries : AuthProtocol.chap.Carries login) (sid : UInt16)
    (padding : Bytes) (behind : Nat -> UInt8) :
    CHAPResponse.parse ⟨AuthProtocol.chap.request sid login ++ padding, behind⟩ =
      ⟨AuthProtocol.chap.keptName login.username, login.identifier :: login.secret⟩ := by
  have length := length_request .chap sid login padding behind
  have kept := keptLength carries
  rcases carries with ⟨valueSize, fits⟩
  generalize isHeader : AuthProtocol.chap.requestHeader sid login.identifier
    (sizeofPPPLcp + (AuthProtocol.chap.requestData login).length) = header
  have size : header.length = Packet.optionBase := by
    rw [← isHeader]
    rfl
  have toValue : AuthProtocol.chap.request sid login ++ padding =
      (header ++ [UInt8.ofNat chapValueSize]) ++ (login.secret ++ (login.username ++ padding)) := by
    unfold request
    rw [isHeader]
    simp [requestData]
  have toName : AuthProtocol.chap.request sid login ++ padding =
      (header ++ [UInt8.ofNat chapValueSize] ++ login.secret) ++ (login.username ++ padding) := by
    rw [toValue, List.append_assoc (header ++ _)]
  have value : Buffer.slice ⟨AuthProtocol.chap.request sid login ++ padding, behind⟩
      chapValueIndex chapValueSize = login.secret := by
    refine Buffer.slice_of_cut toValue ?_ valueSize behind
    rw [List.length_append, size]
    rfl
  have name : Buffer.slice ⟨AuthProtocol.chap.request sid login ++ padding, behind⟩
      chapDataIndex (login.username.length % 256) = AuthProtocol.chap.keptName login.username := by
    have start := Buffer.slice_append (header ++ [UInt8.ofNat chapValueSize] ++ login.secret)
      (login.username ++ padding) behind 0 (login.username.length % 256)
    have inside := @Buffer.slice_inside login.username padding behind 0 (login.username.length % 256)
      (by rw [Nat.zero_add]; exact Nat.mod_le _ _)
    rw [List.length_append, List.length_append, size, valueSize, inside] at start
    rw [toName]
    exact start
  unfold CHAPResponse.parse
  dsimp only
  rw [length, kept, name, value]
  rfl

/-- What is read of a request. -/
theorem read_request {protocol : AuthProtocol} {login : Login} (carries : protocol.Carries login)
    (session : PPPOESession) (sid : UInt16) (padding : Bytes) (behind : Nat -> UInt8) :
    protocol.read session ⟨protocol.request sid login ++ padding, behind⟩ =
      (protocol.keptName login.username, protocol.credential session login) := by
  cases protocol with
  | pap =>
      unfold read
      dsimp only
      rw [parse_pap carries]
      rfl
  | chap =>
      unfold read
      dsimp only
      rw [parse_chap carries]
      rfl

/-- A name is kept whole by PAP, and by CHAP when its length fits in a byte. -/
theorem keptName_eq_iff {protocol : AuthProtocol} (name : Bytes) :
    protocol.keptName name = name ↔ protocol = .pap ∨ name.length < 256 := by
  cases protocol with
  | pap => exact ⟨fun _ => .inl rfl, fun _ => rfl⟩
  | chap =>
      unfold keptName
      rw [List.take_eq_self_iff]
      have bound := Nat.mod_lt name.length (show 0 < 256 by decide)
      constructor
      · exact fun whole => .inr (Nat.lt_of_le_of_lt whole bound)
      · rintro (impossible | short)
        · cases impossible
        · exact (Nat.mod_eq_of_lt short).ge

/-! ## Bytes that are read -/

/-- The packet is handed to AAA: its code is that of a request, and the session has
not been authenticated. -/
def Requests (protocol : AuthProtocol) (session : PPPOESession) (packet : Packet) : Prop :=
  packet.code = protocol.requestCode ∧ protocol.started session = false

instance (protocol : AuthProtocol) (session : PPPOESession) (packet : Packet) :
    Decidable (protocol.Requests session packet) := inferInstanceAs (Decidable (_ ∧ _))

/-- The indices that `recv_auth_req` reads when it does not repeat a success. -/
def fieldIndices (packet : Packet) : AuthProtocol -> List Nat
  | .pap =>
      let userLen := (packet.read papDataIndex).toNat
      let passIndex := papDataIndex + 1 + userLen
      papDataIndex :: List.range' (papDataIndex + 1) userLen ++
        passIndex :: List.range' (passIndex + 1) (packet.read passIndex).toNat
  | .chap =>
      let userLen := UInt8.ofNat (packet.length.toNat + 65536 - sizeofPPPChapHdr)
      [9, 10, 11] ++ List.range' chapValueIndex chapValueSize ++
        List.range' chapDataIndex userLen.toNat

/-- The indices that `receive` reads: the code, and the fields of a request. -/
def Touches (protocol : AuthProtocol) (session : PPPOESession) (packet : Packet) (index : Nat) :
    Prop :=
  index = 8 ∨ protocol.Requests session packet ∧ index ∈ protocol.fieldIndices packet

/-- The length field counts the header at least and the bytes received at most, and
the fields of PAP end where it says. -/
def Consistent (packet : Packet) : AuthProtocol -> Prop
  | .pap =>
      let userLen := (packet.read papDataIndex).toNat
      let passLen := (packet.read (papDataIndex + 1 + userLen)).toNat
      sizeofPPPOESessionHdr + packet.length.toNat ≤ packet.bytes.length ∧
        sizeofPPPLcp + 1 + userLen + 1 + passLen ≤ packet.length.toNat
  | .chap =>
      sizeofPPPOESessionHdr + packet.length.toNat ≤ packet.bytes.length ∧
        sizeofPPPChapHdr ≤ packet.length.toNat

instance (packet : Packet) (protocol : AuthProtocol) : Decidable (protocol.Consistent packet) := by
  cases protocol <;> exact inferInstanceAs (Decidable (_ ∧ _))

/-- The fields of a consistent packet lie inside it. -/
theorem lt_of_mem_fieldIndices {protocol : AuthProtocol} {packet : Packet}
    (consistent : protocol.Consistent packet) {index : Nat}
    (member : index ∈ protocol.fieldIndices packet) : index < packet.bytes.length := by
  cases protocol with
  | pap =>
      rcases consistent with ⟨received, fields⟩
      unfold sizeofPPPOESessionHdr at received
      unfold sizeofPPPLcp at fields
      unfold fieldIndices at member
      dsimp only at member
      generalize isUser : (packet.read papDataIndex).toNat = userLen at member fields
      generalize isPass : (packet.read (papDataIndex + 1 + userLen)).toNat = passLen at member fields
      unfold papDataIndex at member
      rcases List.mem_append.mp member with front | back
      · rcases List.mem_cons.mp front with first | name
        · omega
        · have within := List.mem_range'_1.mp name
          omega
      · rcases List.mem_cons.mp back with first | password
        · omega
        · have within := List.mem_range'_1.mp password
          omega
  | chap =>
      rcases consistent with ⟨received, header⟩
      have bound := packet.length.toNat_lt
      have kept : (UInt8.ofNat (packet.length.toNat + 65536 - sizeofPPPChapHdr)).toNat ≤
          packet.length.toNat - sizeofPPPChapHdr := by
        rw [UInt8.toNat_ofNat']
        omega
      unfold sizeofPPPOESessionHdr at received
      unfold fieldIndices at member
      dsimp only at member
      generalize (UInt8.ofNat (packet.length.toNat + 65536 - sizeofPPPChapHdr)).toNat = userLen
        at member kept
      unfold sizeofPPPChapHdr at header kept
      rcases List.mem_append.mp member with front | name
      · rcases List.mem_append.mp front with fixed | value
        · simp only [List.mem_cons, List.not_mem_nil, or_false] at fixed
          omega
        · have within := List.mem_range'_1.mp value
          unfold chapValueIndex chapValueSize at within
          omega
      · have within := List.mem_range'_1.mp name
        unfold chapDataIndex at within
        omega

/-- When the fields lie inside the vector, what is read does not depend on the memory
behind it. -/
theorem read_eq_of_inside {protocol : AuthProtocol} {bytes : Bytes} {behind : Nat -> UInt8}
    (inside : ∀ index ∈ protocol.fieldIndices ⟨bytes, behind⟩, index < bytes.length)
    (session : PPPOESession) (other : Nat -> UInt8) :
    protocol.read session ⟨bytes, behind⟩ = protocol.read session ⟨bytes, other⟩ := by
  cases protocol with
  | pap =>
      unfold fieldIndices at inside
      dsimp only at inside
      have userLen := Buffer.read_eq bytes behind other (inside papDataIndex List.mem_cons_self)
      have passLen := Buffer.read_eq bytes behind other
        (inside _ (List.mem_append_right _ List.mem_cons_self))
      have name := Buffer.slice_eq bytes behind other (fun index within => inside index
        (List.mem_append_left _ (List.mem_cons_of_mem _ within)))
      have password := Buffer.slice_eq bytes behind other (fun index within => inside index
        (List.mem_append_right _ (List.mem_cons_of_mem _ within)))
      unfold read PAPRequest.parse
      dsimp only
      rw [name, password, passLen, userLen]
  | chap =>
      unfold fieldIndices at inside
      dsimp only at inside
      have fixed (index : Nat) (isFixed : index ∈ [9, 10, 11]) : index < bytes.length :=
        inside index (List.mem_append_left _ (List.mem_append_left _ isFixed))
      have identifier := Buffer.read_eq bytes behind other (fixed 9 (by decide))
      have length : Packet.length ⟨bytes, behind⟩ = Packet.length ⟨bytes, other⟩ :=
        Buffer.field16_eq bytes behind other (fixed 11 (by decide))
      have value := Buffer.slice_eq bytes behind other (fun index within => inside index
        (List.mem_append_left _ (List.mem_append_right _ within)))
      have name := Buffer.slice_eq bytes behind other (fun index within => inside index
        (List.mem_append_right _ within))
      unfold read CHAPResponse.parse
      dsimp only
      rw [name, value, length]
      unfold Packet.identifier
      rw [identifier]

end AuthProtocol

end Pppcpd
