import Pppcpd.Aaa.AuthClient

namespace Pppcpd

open Foundation

/-!
# The receive buffer is used again

`on_rcv` is told how many bytes arrived, but goes by the length field of the
packet.  The buffer still holds what earlier answers left there, so more than the
datagram can be read.  `DatagramOnly` says what a receiver owes to its callers: the
outcome is the same for every hash function and every earlier content, and the hash
is taken of the bytes that the length field counts.
-/

namespace AuthClient

variable {Request Handler : Type}

/-- The bytes of a datagram that get into the buffer. -/
def arrived (datagram : Bytes) : Bytes := datagram.take bufferSize

/-- They alone, with zeros behind them. -/
def arrivedPacket (datagram : Bytes) : Buffer := ⟨arrived datagram, fun _ => 0⟩

def lengthField (datagram : Bytes) : Nat := ((arrivedPacket datagram).field16 2).toNat

/-- The header arrived, and the length field lies between its size and what arrived. -/
structure Whole (datagram : Bytes) : Prop where
  header : sizeofRadiusPacket ≤ (arrived datagram).length
  enough : sizeofRadiusPacket ≤ lengthField datagram
  within : lengthField datagram ≤ (arrived datagram).length

instance (datagram : Bytes) : Decidable (Whole datagram) :=
  decidable_of_iff (sizeofRadiusPacket ≤ (arrived datagram).length ∧
      sizeofRadiusPacket ≤ lengthField datagram ∧ lengthField datagram ≤ (arrived datagram).length)
    ⟨fun parts => ⟨parts.1, parts.2.1, parts.2.2⟩,
      fun whole => ⟨whole.header, whole.enough, whole.within⟩⟩

/-- What is to be made of a datagram: it is discarded unless it is whole, for a
request that is outstanding, and has the right authenticator.  The hash is taken of
its first bytes, as many as the length field says. -/
def expected (md5 : Bytes -> Bytes) (client : AuthClient Request Handler) (datagram : Bytes) :
    Option (Answer Handler) :=
  if Whole datagram then
    let packet := (arrived datagram).take (lengthField datagram)
    let attributes := packet.drop sizeofRadiusPacket
    (client.callbacks.lookup ((arrivedPacket datagram).read 1)).bind (fun entry =>
      if (md5 (packet.take 4 ++ entry.auth ++ attributes ++ client.secret)).take 16 =
          (packet.drop 4).take 16 then
        some { id := (arrivedPacket datagram).read 1, handler := entry.handler
               code := (arrivedPacket datagram).read 0, attributes := attributes }
      else none)
  else none

/-- Whatever the buffer and the memory behind it held before, the datagram is
received without an exception, the table stays as it is, and the answer is the
expected one. -/
def DatagramOnly (client : AuthClient Request Handler) (datagram : Bytes) : Prop :=
  forall md5 : Bytes -> Bytes, (forall text, (md5 text).length = 16) ->
    forall behind buf receives, buf.length = bufferSize -> ∃ filled,
      onRcv md5 behind datagram { client with buf := buf, receives := receives + 1 } =
        some ({ client with buf := filled, receives := receives }, expected md5 client datagram)

/-- No request is outstanding. -/
def Idle (client : AuthClient Request Handler) : Prop :=
  forall id, client.callbacks.lookup id = none

/-- The identifier arrived, and no request is outstanding under it. -/
def Unasked (client : AuthClient Request Handler) (datagram : Bytes) : Prop :=
  2 ≤ (arrived datagram).length ∧ client.callbacks.lookup ((arrivedPacket datagram).read 1) = none

/-! ## What lies in the buffer -/

theorem fill_eq (client : AuthClient Request Handler) (datagram : Bytes) :
    client.fill datagram = arrived datagram ++ client.buf.drop (arrived datagram).length := rfl

section

variable (datagram stale : Bytes) (behind : Nat -> UInt8)

/-- A byte that arrived is read as such. -/
theorem read_arrived {index : Nat} (inside : index < (arrived datagram).length) :
    (Buffer.mk (arrived datagram ++ stale) behind).read index = (arrivedPacket datagram).read index :=
  Buffer.read_inside (arrived datagram) stale (fun _ => 0) behind inside

theorem lengthField_arrived (header : 4 ≤ (arrived datagram).length) :
    ((Buffer.mk (arrived datagram ++ stale) behind).field16 2).toNat = lengthField datagram := by
  unfold lengthField Buffer.field16
  rw [read_arrived datagram stale behind (by omega), read_arrived datagram stale behind (by omega)]

/-- A whole datagram is checked over the bytes that its length field counts. -/
theorem checkRadiusAnswer_of_whole {md5 : Bytes -> Bytes} {secret auth : Bytes}
    (whole : Whole datagram) :
    let packet := (arrived datagram).take (lengthField datagram)
    let attributes := packet.drop sizeofRadiusPacket
    (Buffer.mk (arrived datagram ++ stale) behind).slice sizeofRadiusPacket
        (lengthField datagram - sizeofRadiusPacket) = attributes ∧
      (checkRadiusAnswer md5 secret auth ⟨arrived datagram ++ stale, behind⟩ attributes = true ↔
        (md5 (packet.take 4 ++ auth ++ attributes ++ secret)).take 16 = (packet.drop 4).take 16) := by
  have enough := whole.enough
  have within := whole.within
  unfold sizeofRadiusPacket at enough
  have packet : arrived datagram ++ stale = (arrived datagram).take (lengthField datagram) ++
      ((arrived datagram).drop (lengthField datagram) ++ stale) := by
    rw [← List.append_assoc, List.take_append_drop]
  have size : ((arrived datagram).take (lengthField datagram)).length = lengthField datagram :=
    List.length_take_of_le within
  have copies := fun index count => @Buffer.slice_inside ((arrived datagram).take (lengthField datagram))
    ((arrived datagram).drop (lengthField datagram) ++ stale) behind index count
  rw [size, ← packet] at copies
  constructor
  · rw [copies _ _ (by unfold sizeofRadiusPacket; omega)]
    refine List.take_of_length_le ?_
    rw [List.length_drop, size]
  · unfold checkRadiusAnswer
    rw [beq_iff_eq, copies 0 4 (by omega), copies 4 16 (by omega), List.drop_zero]

end

theorem expected_of_not_whole {md5 : Bytes -> Bytes} {client : AuthClient Request Handler}
    {datagram : Bytes} (cut : ¬ Whole datagram) : expected md5 client datagram = none := if_neg cut

theorem expected_of_missing {md5 : Bytes -> Bytes} {client : AuthClient Request Handler}
    {datagram : Bytes} (missing : client.callbacks.lookup ((arrivedPacket datagram).read 1) = none) :
    expected md5 client datagram = none := by
  unfold expected
  split
  · rw [missing]
    rfl
  · rfl

section

variable (md5 : Bytes -> Bytes) (behind : Nat -> UInt8) (datagram buf : Bytes) (receives : Nat)
  (client : AuthClient Request Handler)

/-- What `on_rcv` reads: the datagram in the buffer, with stale bytes behind it. -/
def stalePacket : Buffer := ⟨arrived datagram ++ buf.drop (arrived datagram).length, behind⟩

/-- `on_rcv` on a datagram that is read as one for no request. -/
theorem onRcv_of_missing
    (missing : client.callbacks.lookup ((stalePacket behind datagram buf).read 1) = none) :
    ∃ filled, onRcv md5 behind datagram { client with buf := buf, receives := receives + 1 } =
      some ({ client with buf := filled, receives := receives }, none) := by
  refine ⟨(stalePacket behind datagram buf).bytes, ?_⟩
  unfold onRcv
  dsimp only
  rw [fill_eq]
  unfold stalePacket at missing
  dsimp only
  rw [missing]
  rfl

/-- `on_rcv` on a datagram that is read as one for a request. -/
theorem onRcv_of_found {entry : Outstanding Handler}
    (found : client.callbacks.lookup ((stalePacket behind datagram buf).read 1) = some entry) :
    let packet := stalePacket behind datagram buf
    let length := (packet.field16 2).toNat
    let attributes := packet.slice sizeofRadiusPacket (length - sizeofRadiusPacket)
    onRcv md5 behind datagram { client with buf := buf, receives := receives + 1 } =
      if length < sizeofRadiusPacket then none
      else some ({ client with buf := packet.bytes, receives := receives },
        if checkRadiusAnswer md5 client.secret entry.auth packet attributes then
          some { id := packet.read 1, handler := entry.handler, code := packet.read 0
                 attributes := attributes }
        else none) := by
  unfold onRcv
  dsimp only
  rw [fill_eq]
  unfold stalePacket at found ⊢
  dsimp only
  rw [found]
  dsimp only
  split
  · rfl
  · split <;> rfl

end

/-- A whole datagram that is read as one for a request is received as it should be. -/
theorem onRcv_of_whole (md5 : Bytes -> Bytes) (behind : Nat -> UInt8) (buf : Bytes) (receives : Nat)
    {client : AuthClient Request Handler} {datagram : Bytes} {entry : Outstanding Handler}
    (whole : Whole datagram)
    (found : client.callbacks.lookup ((arrivedPacket datagram).read 1) = some entry) :
    ∃ filled, onRcv md5 behind datagram { client with buf := buf, receives := receives + 1 } =
      some ({ client with buf := filled, receives := receives }, expected md5 client datagram) := by
  have header : 20 ≤ (arrived datagram).length := whole.header
  have isId : (stalePacket behind datagram buf).read 1 = (arrivedPacket datagram).read 1 :=
    read_arrived datagram _ behind (by omega)
  have isLength : ((stalePacket behind datagram buf).field16 2).toNat = lengthField datagram :=
    lengthField_arrived datagram _ behind (by omega)
  have isCode : (stalePacket behind datagram buf).read 0 = (arrivedPacket datagram).read 0 :=
    read_arrived datagram _ behind (by omega)
  rcases @checkRadiusAnswer_of_whole datagram (buf.drop (arrived datagram).length) behind md5
    client.secret entry.auth whole with ⟨isAttributes, checked⟩
  refine ⟨(stalePacket behind datagram buf).bytes, ?_⟩
  rw [onRcv_of_found md5 behind datagram buf receives client (isId ▸ found)]
  rw [isLength, if_neg (Nat.not_lt.mpr whole.enough), isId, isCode]
  unfold stalePacket
  rw [isAttributes]
  unfold expected
  rw [if_pos whole]
  dsimp only
  rw [found, Option.bind_some]
  by_cases right : (md5 (((arrived datagram).take (lengthField datagram)).take 4 ++ entry.auth ++
      ((arrived datagram).take (lengthField datagram)).drop sizeofRadiusPacket ++
      client.secret)).take 16 =
    (((arrived datagram).take (lengthField datagram)).drop 4).take 16
  · rw [if_pos (checked.mpr right), if_pos right]
  · rw [if_neg (fun passes => right (checked.mp passes)), if_neg right]

/-! ## A packet that fits the buffer -/

section

variable {authenticator attributes : Bytes} (sixteen : authenticator.length = 16) (code id : UInt8)

/-- The header of a packet up to its authenticator. -/
def packetStart (code id : UInt8) (attributes : Bytes) : Bytes :=
  [code, id] ++ bytes16 (UInt16.ofNat (sizeofRadiusPacket + attributes.length))

theorem packet_eq : packet code id authenticator attributes =
    packetStart code id attributes ++ (authenticator ++ attributes) :=
  List.append_assoc _ _ _

theorem take_four_packet :
    (packet code id authenticator attributes).take 4 = packetStart code id attributes := by
  rw [packet_eq]
  rfl

include sixteen

theorem length_packet :
    (packet code id authenticator attributes).length = sizeofRadiusPacket + attributes.length := by
  rw [packet_eq, List.length_append, List.length_append, sixteen, ← Nat.add_assoc]
  rfl

/-- The authenticator and the attributes lie behind the first four bytes. -/
theorem authenticator_packet :
    ((packet code id authenticator attributes).drop 4).take 16 = authenticator := by
  have behind : (packet code id authenticator attributes).drop 4 = authenticator ++ attributes := by
    rw [packet_eq]
    rfl
  rw [behind, ← sixteen]
  exact List.take_left

theorem attributes_packet :
    (packet code id authenticator attributes).drop sizeofRadiusPacket = attributes := by
  have size : sizeofRadiusPacket = (packetStart code id attributes ++ authenticator).length := by
    rw [List.length_append, sixteen]
    rfl
  rw [packet_eq, ← List.append_assoc, size]
  exact List.drop_left

variable (fits : sizeofRadiusPacket + attributes.length ≤ bufferSize)

include fits

theorem arrived_packet :
    arrived (packet code id authenticator attributes) = packet code id authenticator attributes := by
  unfold arrived
  refine List.take_of_length_le ?_
  rw [length_packet sixteen]
  exact fits

theorem lengthField_packet :
    lengthField (packet code id authenticator attributes) = sizeofRadiusPacket + attributes.length := by
  have fields : (arrivedPacket (packet code id authenticator attributes)).field16 2 =
      UInt16.ofNat (sizeofRadiusPacket + attributes.length) := by
    unfold arrivedPacket
    rw [arrived_packet sixteen code id fits]
    exact be16_bytes16 _
  unfold lengthField
  rw [fields, UInt16.toNat_ofNat', Nat.mod_eq_of_lt]
  exact Nat.lt_of_le_of_lt fits (by decide)

theorem whole_packet : Whole (packet code id authenticator attributes) := by
  have length := @length_packet _ attributes sixteen code id
  have field := lengthField_packet sixteen code id fits
  refine ⟨?_, ?_, ?_⟩
  · rw [arrived_packet sixteen code id fits, length]
    exact Nat.le_add_right _ _
  · rw [field]
    exact Nat.le_add_right _ _
  · rw [field, arrived_packet sixteen code id fits, length]

/-- Its identifier and its code are the first two bytes. -/
theorem read_packet :
    (arrivedPacket (packet code id authenticator attributes)).read 1 = id ∧
      (arrivedPacket (packet code id authenticator attributes)).read 0 = code := by
  unfold arrivedPacket
  rw [arrived_packet sixteen code id fits]
  exact ⟨rfl, rfl⟩

/-- A packet with the right authenticator is taken for an answer to the request
whose entry has its identifier. -/
theorem expected_packet {md5 : Bytes -> Bytes} {client : AuthClient Request Handler}
    {entry : Outstanding Handler} (found : client.callbacks.lookup id = some entry)
    (right : authenticator =
      md5 (packetStart code id attributes ++ entry.auth ++ attributes ++ client.secret)) :
    expected md5 client (packet code id authenticator attributes) =
      some { id := id, handler := entry.handler, code := code, attributes := attributes } := by
  rcases read_packet sixteen code id fits with ⟨isId, isCode⟩
  have length := @length_packet _ attributes sixteen code id
  unfold expected
  rw [if_pos (whole_packet sixteen code id fits), isId, isCode, found,
    lengthField_packet sixteen code id fits, arrived_packet sixteen code id fits,
    List.take_of_length_le (Nat.le_of_eq length)]
  dsimp only
  rw [Option.bind_some, attributes_packet sixteen, take_four_packet, authenticator_packet sixteen,
    ← right, if_pos]
  exact List.take_of_length_le (Nat.le_of_eq sixteen)

end

/-- A datagram that is no answer, or a whole one, is received as it should be. -/
theorem datagramOnly_of {client : AuthClient Request Handler} {datagram : Bytes}
    (safe : client.Idle ∨ client.Unasked datagram ∨ Whole datagram) :
    client.DatagramOnly datagram := by
  intro md5 _ behind buf receives _
  have discards := fun missing other =>
    (@expected_of_missing _ _ md5 client datagram missing).symm ▸
      onRcv_of_missing md5 behind datagram buf receives client other
  rcases safe with idle | unasked | whole
  · exact discards (idle _) (idle _)
  · rcases unasked with ⟨id, missing⟩
    refine discards missing ?_
    unfold stalePacket
    rw [read_arrived datagram _ behind id]
    exact missing
  · have header : 20 ≤ (arrived datagram).length := whole.header
    have isId : (stalePacket behind datagram buf).read 1 = (arrivedPacket datagram).read 1 :=
      read_arrived datagram _ behind (by omega)
    cases found : client.callbacks.lookup ((arrivedPacket datagram).read 1) with
    | none => exact discards found (isId ▸ found)
    | some entry => exact onRcv_of_whole md5 behind buf receives whole found

/-- A datagram is received without regard to what the buffer held exactly when no
request is outstanding, or none under its identifier, or it is whole. -/
theorem datagramOnly_iff (client : AuthClient Request Handler) (datagram : Bytes) :
    client.DatagramOnly datagram ↔ client.Idle ∨ client.Unasked datagram ∨ Whole datagram := by
  refine ⟨fun only => ?_, datagramOnly_of⟩
  by_contra breaks
  have asked : ¬ client.Idle := fun idle => breaks (.inl idle)
  have known : ¬ client.Unasked datagram := fun unasked => breaks (.inr (.inl unasked))
  have cut : ¬ Whole datagram := fun whole => breaks (.inr (.inr whole))
  rcases not_forall.mp asked with ⟨id, outstanding⟩
  rcases Option.ne_none_iff_exists'.mp outstanding with ⟨_, isOutstanding⟩
  -- Behind a datagram without an identifier, one that is outstanding is left.
  let buf : Bytes := [id, id] ++ List.replicate 1498 0
  have size : buf.length = bufferSize := by
    rw [List.length_append, List.length_replicate]
    rfl
  have entered : ∃ entry, client.callbacks.lookup
      ((stalePacket (fun _ => 0) datagram buf).read 1) = some entry := by
    by_cases identified : 2 ≤ (arrived datagram).length
    · have isId : (stalePacket (fun _ => 0) datagram buf).read 1 = (arrivedPacket datagram).read 1 :=
        read_arrived datagram _ _ identified
      rw [isId]
      exact Option.ne_none_iff_exists'.mp (fun missing => known ⟨identified, missing⟩)
    · have isId : (stalePacket (fun _ => 0) datagram buf).read 1 = id := by
        unfold stalePacket
        cases few : arrived datagram with
        | nil => rfl
        | cons first rest =>
            cases rest with
            | nil => rfl
            | cons second rest =>
                rw [few] at identified
                exact absurd (Nat.le_add_left 2 _) identified
      exact ⟨_, isId ▸ isOutstanding⟩
  rcases entered with ⟨entry, found⟩
  -- The hash function that gives just what stands for the authenticator.
  let packet := stalePacket (fun _ => 0) datagram buf
  have lawful := only (fun _ => packet.slice 4 16) (fun _ => Buffer.length_slice _ _ _) (fun _ => 0)
    buf 0 size
  rcases lawful with ⟨filled, received⟩
  rw [expected_of_not_whole cut, onRcv_of_found _ _ _ _ _ _ found] at received
  split at received
  · cases received
  · have passes : forall attributes, checkRadiusAnswer (fun _ => packet.slice 4 16) client.secret
        entry.auth (stalePacket (fun _ => 0) datagram buf) attributes = true := by
      intro attributes
      unfold checkRadiusAnswer
      rw [beq_iff_eq]
      exact List.take_of_length_le (Nat.le_of_eq (Buffer.length_slice _ _ _))
    rw [if_pos (passes _)] at received
    cases (Prod.mk.inj (Option.some.inj received)).2

/-- A client that waits for the answer to its first request. -/
def waiting : AuthClient RadiusRequest Nat where
  lastId := 1
  callbacks := (∅ : Table UInt8 (Outstanding Nat)).insert 1
    { handler := 7, auth := List.replicate 16 0, wait := .armed }

/-- A header whose length field is zero is not discarded: the exception leaves
`on_rcv`. -/
theorem zeroLength_throws :
    ¬ forall (client : AuthClient RadiusRequest Nat) datagram, client.DatagramOnly datagram := by
  intro claim
  rcases claim waiting ([2, 1, 0, 0] ++ List.replicate 16 0) (fun _ => List.replicate 16 0)
    (fun _ => List.length_replicate) (fun _ => 0) (List.replicate 1500 0) 0 List.length_replicate with
    ⟨filled, received⟩
  have thrown : onRcv (fun _ => List.replicate 16 0) (fun _ => 0)
      ([2, 1, 0, 0] ++ List.replicate 16 0)
      { waiting with buf := List.replicate 1500 0, receives := 0 + 1 } = none := by
    rfl
  rw [thrown] at received
  cases received

end AuthClient

end Pppcpd
