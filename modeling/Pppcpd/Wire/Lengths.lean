import Pppcpd.Wire.Options

namespace Pppcpd

open Foundation

/-!
# The lengths in a session packet

A session packet has two lengths: that of the PPPoE header counts the protocol
number and the PPP packet, and the PPP packet has its own.  In a packet that is
consistent with itself they agree, the bytes are there, and the options of a
Configure packet fill the PPP packet.
-/

namespace Packet

/-- The length field of the PPPoE header. -/
def pppoeLength (packet : Packet) : UInt16 := packet.field16 4

/-- A Configure-Request, -Ack, -Nak or -Reject of LCP or IPCP. -/
def IsConfigure (packet : Packet) : Prop :=
  (packet.pppProtocol = PPPProto.lcp ∨ packet.pppProtocol = PPPProto.ipcp) ∧
    packet.code ∈ [LCPCode.confReq, LCPCode.confAck, LCPCode.confNak, LCPCode.confRej]

instance (packet : Packet) : Decidable packet.IsConfigure := inferInstanceAs (Decidable (_ ∧ _))

/-- A code that a Configure packet does not have. -/
theorem not_isConfigure_of_code {packet : Packet} {code : UInt8} (isCode : packet.code = code)
    (other : code ∉ [LCPCode.confReq, LCPCode.confAck, LCPCode.confNak, LCPCode.confRej]) :
    ¬ packet.IsConfigure := fun isConfigure => other (isCode ▸ isConfigure.2)

theorem code_setCode {packet : Packet} (value : UInt8) (header : optionBase ≤ packet.bytes.length) :
    (packet.setCode value).code = value := by
  have inside : 8 < packet.bytes.length := Nat.lt_of_lt_of_le (by decide) header
  simp [code, setCode, Buffer.set, Buffer.read, inside, List.getD]

structure SelfConsistent (packet : Packet) : Prop where
  header : optionBase ≤ packet.bytes.length
  lengths : packet.pppoeLength.toNat = packet.length.toNat + 2
  within : packet.pppoeLength.toNat + 6 ≤ packet.bytes.length
  tiled : packet.IsConfigure -> ∃ options, packet.Carries options

/-- What a packet and a changed one have in common when the change is to the code
and behind the header. -/
structure SameHeader (packet changed : Packet) : Prop where
  size : changed.bytes.length = packet.bytes.length
  reads : forall index, index < optionBase -> index ≠ 8 -> changed.read index = packet.read index

theorem SameHeader.refl (packet : Packet) : SameHeader packet packet := ⟨rfl, fun _ _ _ => rfl⟩

theorem SameHeader.trans {first second third : Packet} (left : SameHeader first second)
    (right : SameHeader second third) : SameHeader first third :=
  ⟨right.size.trans left.size, fun index inside other =>
    (right.reads index inside other).trans (left.reads index inside other)⟩

theorem sameHeader_setCode (packet : Packet) (value : UInt8) :
    SameHeader packet (packet.setCode value) :=
  ⟨Buffer.length_set packet 8 value, fun _ _ other => Buffer.read_set_of_ne packet value other⟩

theorem sameHeader_setBytes (packet : Packet) {index : Nat} (values : Bytes)
    (behind : optionBase ≤ index) : SameHeader packet (packet.setBytes index values) :=
  ⟨Buffer.length_setBytes packet index values, fun _ inside _ =>
    Buffer.read_setBytes_of_lt packet values (Nat.lt_of_lt_of_le inside behind)⟩

namespace SameHeader

variable {packet changed : Packet}

theorem field16 (same : SameHeader packet changed) {index : Nat} (inside : index + 1 < optionBase)
    (here : index ≠ 8) (next : index + 1 ≠ 8) : changed.field16 index = packet.field16 index := by
  unfold Buffer.field16
  rw [same.reads index (Nat.lt_of_succ_lt inside) here, same.reads (index + 1) inside next]

theorem pppoeSessionId (same : SameHeader packet changed) :
    changed.pppoeSessionId = packet.pppoeSessionId :=
  same.field16 (by decide) (by decide) (by decide)

theorem pppoeLength (same : SameHeader packet changed) : changed.pppoeLength = packet.pppoeLength :=
  same.field16 (by decide) (by decide) (by decide)

theorem pppProtocol (same : SameHeader packet changed) : changed.pppProtocol = packet.pppProtocol :=
  same.field16 (by decide) (by decide) (by decide)

theorem length (same : SameHeader packet changed) : changed.length = packet.length :=
  same.field16 (by decide) (by decide) (by decide)

/-- The lengths still agree, so only the options are left to look at. -/
theorem selfConsistent (same : SameHeader packet changed) (consistent : packet.SelfConsistent)
    (tiled : changed.IsConfigure -> ∃ options, changed.Carries options) : changed.SelfConsistent where
  header := same.size ▸ consistent.header
  lengths := by
    rw [same.pppoeLength, same.length]
    exact consistent.lengths
  within := by
    rw [same.pppoeLength, same.size]
    exact consistent.within
  tiled := tiled

end SameHeader

/-- A packet with another code carries the same options. -/
theorem Carries.setCode {packet : Packet} {options : List PPPOption} (carries : packet.Carries options)
    (value : UInt8) : (packet.setCode value).Carries options := by
  rcases carries.bytes with ⟨header, rest, base, isBytes⟩
  refine ⟨?_, header.set 8 value, rest, List.length_set.trans base, ?_⟩
  · rw [length_setCode, carries.length]
  · have isPacket : packet = ⟨header ++ (encodeOptions options ++ rest), packet.behind⟩ := by
      rw [← isBytes]
    rw [isPacket, setCode_append base]

end Packet

/-- A packet that configures and nothing else is consistent. -/
theorem Configures.selfConsistent {packet : Bytes} {sid proto : UInt16} {code identifier : UInt8}
    {options : List PPPOption} (configures : Configures packet sid proto code identifier options) (behind : Nat -> UInt8) :
    Packet.SelfConsistent ⟨packet, behind⟩ := by
  have carries := configures.carries behind
  have whole := configures.whole behind
  have pppoeLength : (Packet.pppoeLength ⟨packet, behind⟩).toNat + 6 = packet.length :=
    configures.pppoeLength behind
  have fits := carries.fits
  exact ⟨Nat.le_of_add_right_le fits, by omega, Nat.le_of_eq pppoeLength, fun _ => ⟨options, carries⟩⟩

/-! ## Packets built with computed lengths -/

/-- A session packet with a body, whose lengths are computed from it, and bytes
behind it. -/
def builtPacket (sid proto : UInt16) (code identifier : UInt8) (body padding : Bytes) : Bytes :=
  let length := UInt16.ofNat (sizeofPPPLcp + body.length)
  pppoeSessionHdr sid (length + 2) proto ++ pppHdr code identifier length ++ body ++ padding

section

variable (sid proto : UInt16) (code identifier : UInt8) (body padding : Bytes)
  (behind : Nat -> UInt8)

theorem builtPacket_fields :
    Packet.pppoeSessionId ⟨builtPacket sid proto code identifier body padding, behind⟩ = sid ∧
      Packet.pppProtocol ⟨builtPacket sid proto code identifier body padding, behind⟩ = proto ∧
      Packet.code ⟨builtPacket sid proto code identifier body padding, behind⟩ = code ∧
      Packet.pppoeLength ⟨builtPacket sid proto code identifier body padding, behind⟩ =
        UInt16.ofNat (sizeofPPPLcp + body.length) + 2 ∧
      Packet.length ⟨builtPacket sid proto code identifier body padding, behind⟩ =
        UInt16.ofNat (sizeofPPPLcp + body.length) :=
  ⟨be16_bytes16 sid, be16_bytes16 proto, rfl, be16_bytes16 _, be16_bytes16 _⟩

theorem length_builtPacket :
    (builtPacket sid proto code identifier body padding).length = 12 + body.length + padding.length := by
  simp [builtPacket, pppoeSessionHdr, pppHdr, bytes16]
  omega

/-- A packet that is built is consistent when its body is not too long, and one
that configures is built from options. -/
theorem selfConsistent_builtPacket (fits : body.length + 6 < 65536)
    (tiled : (proto = PPPProto.lcp ∨ proto = PPPProto.ipcp) ->
      code ∈ [LCPCode.confReq, LCPCode.confAck, LCPCode.confNak, LCPCode.confRej] ->
        ∃ options, body = encodeOptions options) :
    Packet.SelfConsistent ⟨builtPacket sid proto code identifier body padding, behind⟩ := by
  rcases builtPacket_fields sid proto code identifier body padding behind with
    ⟨_, isProto, isCode, isPppoeLength, isLength⟩
  have size := length_builtPacket sid proto code identifier body padding
  have length : (UInt16.ofNat (sizeofPPPLcp + body.length)).toNat = sizeofPPPLcp + body.length := by
    rw [UInt16.toNat_ofNat']
    exact Nat.mod_eq_of_lt (by unfold sizeofPPPLcp; omega)
  have pppoeLength : (UInt16.ofNat (sizeofPPPLcp + body.length) + 2).toNat =
      sizeofPPPLcp + body.length + 2 := by
    rw [UInt16.toNat_add, length]
    show (sizeofPPPLcp + body.length + 2) % 65536 = _
    exact Nat.mod_eq_of_lt (by unfold sizeofPPPLcp; omega)
  refine ⟨?_, ?_, ?_, ?_⟩
  · show 12 ≤ (builtPacket sid proto code identifier body padding).length
    omega
  · rw [isPppoeLength, isLength, pppoeLength, length]
  · rw [isPppoeLength, pppoeLength]
    show sizeofPPPLcp + body.length + 2 + 6 ≤ (builtPacket sid proto code identifier body padding).length
    unfold sizeofPPPLcp
    omega
  · rintro ⟨configures, isConfigure⟩
    rw [isProto] at configures
    rw [isCode] at isConfigure
    rcases tiled configures isConfigure with ⟨options, isBody⟩
    refine ⟨options, ?_, pppoeSessionHdr sid (UInt16.ofNat (sizeofPPPLcp + body.length) + 2) proto ++
      pppHdr code identifier (UInt16.ofNat (sizeofPPPLcp + body.length)), padding, rfl, ?_⟩
    · rw [isLength, length, isBody]
    · rw [← isBody, ← List.append_assoc]
      rfl

end

end Pppcpd
