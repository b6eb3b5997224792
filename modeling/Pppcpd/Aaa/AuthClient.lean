import Pppcpd.Foundation.Bytes
import Pppcpd.Foundation.Table
import Pppcpd.Foundation.Timer
import Pppcpd.Radius.Messages

namespace Pppcpd

open Foundation

/-!
# The RADIUS client

`AuthClient` sends requests over UDP and keeps, for each of them, a pair of
handlers and a timer of five seconds under an 8-bit identifier.  The response
handler and the error handler of a request are always made as a pair for one
purpose, so the model keeps one value of type `Handler` for both and leaves
their bodies to the owner of the client.

An entry of `callbacks` is erased only when the handler of its timer runs,
whether the timer expired or was cancelled by an answer.
-/

namespace RadiusCode
def accessRequest : UInt8 := 1
def accessAccept : UInt8 := 2
def accessReject : UInt8 := 3
def accountingRequest : UInt8 := 4
end RadiusCode

/-- `response_t`, an entry of `callbacks`. -/
structure Outstanding (Handler : Type) where
  handler : Handler
  auth : Bytes
  wait : Wait
  deriving DecidableEq, Repr

/-- A datagram given to the socket, with the request it was made from and the
handlers of that request. -/
structure SentRequest (Request Handler : Type) where
  request : Request
  handler : Handler
  bytes : Bytes
  deriving DecidableEq, Repr

structure AuthClient (Request Handler : Type) where
  lastId : UInt8 := 0
  secret : Bytes := []
  callbacks : Table UInt8 (Outstanding Handler) := ∅
  buf : Bytes := List.replicate 1500 0
  /-- The number of receives started on the socket and not completed. -/
  receives : Nat := 0
  /-- Everything sent so far, oldest first. -/
  sent : List (SentRequest Request Handler) := []

namespace AuthClient

variable {Request Handler : Type}

def sizeofRadiusPacket : Nat := 20

def bufferSize : Nat := 1500

/-- A RADIUS packet: header and attributes. -/
def packet (code id : UInt8) (authenticator attributes : Bytes) : Bytes :=
  [code, id] ++ bytes16 (UInt16.ofNat (sizeofRadiusPacket + attributes.length)) ++ authenticator ++
    attributes

/-- `acct_auth_process`: the authenticator of an accounting request, made with
a zero authenticator in its place. -/
def acctAuthProcess (md5 : Bytes -> Bytes) (code id : UInt8) (attributes secret : Bytes) : Bytes :=
  md5 (packet code id (List.replicate 16 0) attributes ++ secret)

/-- The end that `request` and `acct_request` have in common: register the
handlers under the new identifier and send.  When the identifier is in use the
request is dropped without a word. -/
def register (client : AuthClient Request Handler) (request : Request) (handler : Handler)
    (authenticator bytes : Bytes) : AuthClient Request Handler :=
  let id := client.lastId + 1
  let entry : Outstanding Handler := { handler := handler, auth := authenticator, wait := .armed }
  let emplaced := Table.emplace id entry client.callbacks
  if emplaced.2 then
    { client with
      lastId := id, callbacks := emplaced.1, receives := client.receives + 1
      sent := client.sent ++ [{ request := request, handler := handler, bytes := bytes }] }
  else { client with lastId := id }

/-- `AuthClient::request`. -/
def request (md5 : Bytes -> Bytes) (dict : RadiusDict) (authenticator : Bytes)
    (request : RadiusRequest) (handler : Handler) (client : AuthClient RadiusRequest Handler) :
    AuthClient RadiusRequest Handler :=
  let attributes := request.serialize md5 dict authenticator client.secret
  client.register request handler authenticator
    (packet RadiusCode.accessRequest (client.lastId + 1) authenticator attributes)

/-- `AuthClient::acct_request`.  The authenticator is stored from the packet
after it was computed. -/
def acctRequest (md5 : Bytes -> Bytes) (dict : RadiusDict) (request : AcctRequest)
    (handler : Handler) (client : AuthClient AcctRequest Handler) :
    AuthClient AcctRequest Handler :=
  let id := client.lastId + 1
  let attributes := request.serialize dict
  let authenticator := acctAuthProcess md5 RadiusCode.accountingRequest id attributes client.secret
  client.register request handler authenticator
    (packet RadiusCode.accountingRequest id authenticator attributes)

/-- `buf` after a datagram was received into it. -/
def fill (client : AuthClient Request Handler) (datagram : Bytes) : Bytes :=
  let stored := datagram.take bufferSize
  stored ++ client.buf.drop stored.length

/-- `checkRadiusAnswer` on a packet in `buf`. -/
def checkRadiusAnswer (md5 : Bytes -> Bytes) (secret auth : Bytes) (received : Buffer)
    (attributes : Bytes) : Bool :=
  (md5 (received.slice 0 4 ++ auth ++ attributes ++ secret)).take 16 == received.slice 4 16

/-- What `on_rcv` hands to the response handler. -/
structure Answer (Handler : Type) where
  id : UInt8
  handler : Handler
  code : UInt8
  attributes : Bytes
  deriving DecidableEq, Repr

/-- `on_rcv` up to the call of the response handler: the client with the
datagram in its buffer and, unless the datagram is discarded, the answer.  The
length field of the packet, not the size of the datagram, says how much is
copied: a length below the header size makes the copy throw, and a greater
length than the buffer copies the memory behind it. -/
def onRcv (md5 : Bytes -> Bytes) (behind : Nat -> UInt8) (datagram : Bytes)
    (client : AuthClient Request Handler) :
    Option (AuthClient Request Handler × Option (Answer Handler)) :=
  match client.receives with
  | 0 => none
  | receives + 1 =>
      let received : Buffer := { bytes := client.fill datagram, behind := behind }
      let client := { client with buf := received.bytes, receives := receives }
      let id := received.read 1
      match client.callbacks.lookup id with
      | none => some (client, none)
      | some entry =>
          let length := (received.field16 2).toNat
          if length < sizeofRadiusPacket then none
          else
            let attributes := received.slice sizeofRadiusPacket (length - sizeofRadiusPacket)
            if checkRadiusAnswer md5 client.secret entry.auth received attributes then
              some (client, some { id := id, handler := entry.handler, code := received.read 0,
                                   attributes := attributes })
            else some (client, none)

/-- `it->second.timer.cancel()`, after the response handler has returned. -/
def cancelTimer (id : UInt8) (client : AuthClient Request Handler) : AuthClient Request Handler :=
  { client with
    callbacks := Table.modify id (fun entry => { entry with wait := entry.wait.cancel })
      client.callbacks }

/-- The five seconds of a request are over. -/
def timerExpires (id : UInt8) (client : AuthClient Request Handler) : AuthClient Request Handler :=
  { client with
    callbacks := Table.modify id (fun entry => { entry with wait := entry.wait.expire })
      client.callbacks }

/-- The end of `expire_check`: the entry is erased, and the socket is cancelled
when it was the last one. -/
def eraseEntry (id : UInt8) (client : AuthClient Request Handler) : AuthClient Request Handler :=
  let callbacks := client.callbacks.erase id
  { client with
    callbacks := callbacks
    receives := if callbacks.keys = [] then 0 else client.receives }

/-- Some outstanding request has this handler. -/
def Holds (client : AuthClient Request Handler) (handler : Handler) : Prop :=
  ∃ id entry, client.callbacks.lookup id = some entry ∧ entry.handler = handler

/-- What `register` does: it takes the new identifier when it is free, or it
only counts. -/
theorem register_cases (client : AuthClient Request Handler) (request : Request)
    (handler : Handler) (authenticator bytes : Bytes) :
    (client.callbacks.lookup (client.lastId + 1) = none ∧
      client.register request handler authenticator bytes =
        { client with
          lastId := client.lastId + 1
          callbacks := client.callbacks.insert (client.lastId + 1)
            { handler := handler, auth := authenticator, wait := .armed }
          receives := client.receives + 1
          sent := client.sent ++ [{ request := request, handler := handler, bytes := bytes }] }) ∨
      client.register request handler authenticator bytes =
        { client with lastId := client.lastId + 1 } := by
  by_cases used : client.lastId + 1 ∈ client.callbacks
  · exact .inr (by simp [register, Table.emplace, used])
  · exact .inl ⟨Table.not_mem_iff_lookup.mp used, by simp [register, Table.emplace, used]⟩

/-- The same for an accounting request. -/
theorem acctRequest_cases (md5 : Bytes -> Bytes) (dict : RadiusDict) (request : AcctRequest)
    (handler : Handler) (client : AuthClient AcctRequest Handler) :
    (∃ auth bytes, client.callbacks.lookup (client.lastId + 1) = none ∧
      client.acctRequest md5 dict request handler =
        { client with
          lastId := client.lastId + 1
          callbacks := client.callbacks.insert (client.lastId + 1)
            { handler := handler, auth := auth, wait := .armed }
          receives := client.receives + 1
          sent := client.sent ++ [{ request := request, handler := handler, bytes := bytes }] }) ∨
      client.acctRequest md5 dict request handler = { client with lastId := client.lastId + 1 } := by
  unfold acctRequest
  dsimp only
  rcases register_cases client request handler _ _ with ⟨free, entered⟩ | dropped
  · exact .inl ⟨_, _, free, entered⟩
  · exact .inr dropped

/-- A request whose identifier is free is entered. -/
theorem lookup_acctRequest_of_free (md5 : Bytes -> Bytes) (dict : RadiusDict) (request : AcctRequest)
    (handler : Handler) {client : AuthClient AcctRequest Handler}
    (free : client.lastId + 1 ∉ client.callbacks) :
    ∃ auth, (client.acctRequest md5 dict request handler).callbacks.lookup (client.lastId + 1) =
      some { handler := handler, auth := auth, wait := .armed } := by
  refine ⟨acctAuthProcess md5 RadiusCode.accountingRequest (client.lastId + 1)
    (request.serialize dict) client.secret, ?_⟩
  simp only [acctRequest, register, Table.emplace, free, if_false, if_true]
  exact AList.lookup_insert _

/-- What a received datagram does to the client: it fills the buffer and ends
one receive.  An answer is for an outstanding request. -/
theorem onRcv_cases {md5 : Bytes -> Bytes} {behind : Nat -> UInt8} {datagram : Bytes}
    {client after : AuthClient Request Handler} {answer : Option (Answer Handler)}
    (received : client.onRcv md5 behind datagram = some (after, answer)) :
    (∃ buf receives, after = { client with buf := buf, receives := receives }) ∧
      forall given, answer = some given ->
        ∃ entry, client.callbacks.lookup given.id = some entry ∧ entry.handler = given.handler := by
  unfold onRcv at received
  split at received
  · cases received
  · dsimp only at received
    split at received
    · have parts := Prod.mk.inj (Option.some.inj received)
      refine ⟨⟨_, _, parts.1.symm⟩, ?_⟩
      intro given answered
      rw [← parts.2] at answered
      cases answered
    · rename_i entry found
      split at received
      · cases received
      · split at received
        · have parts := Prod.mk.inj (Option.some.inj received)
          refine ⟨⟨_, _, parts.1.symm⟩, ?_⟩
          intro given answered
          rw [← parts.2] at answered
          rw [← Option.some.inj answered]
          exact ⟨entry, found, rfl⟩
        · have parts := Prod.mk.inj (Option.some.inj received)
          refine ⟨⟨_, _, parts.1.symm⟩, ?_⟩
          intro given answered
          rw [← parts.2] at answered
          cases answered

/-- A datagram, whatever it is, ends one receive and starts none. -/
theorem onRcv_receives {md5 : Bytes -> Bytes} {behind : Nat -> UInt8} {datagram : Bytes}
    {client after : AuthClient Request Handler} {answer : Option (Answer Handler)}
    (received : client.onRcv md5 behind datagram = some (after, answer)) :
    client.receives = after.receives + 1 := by
  unfold onRcv at received
  split at received
  · cases received
  · rename_i armed
    rw [armed]
    dsimp only at received
    split at received
    · rw [← (Prod.mk.inj (Option.some.inj received)).1]
    · split at received
      · cases received
      · split at received
        · rw [← (Prod.mk.inj (Option.some.inj received)).1]
        · rw [← (Prod.mk.inj (Option.some.inj received)).1]

/-- `buf` with a datagram in it, and the memory behind it. -/
def received (behind : Nat -> UInt8) (datagram : Bytes) (client : AuthClient Request Handler) :
    Buffer :=
  { bytes := client.fill datagram, behind := behind }

/-- The checks of `on_rcv` on a packet for an entry of the table: its length
field and its authenticator. -/
def Genuine (md5 : Bytes -> Bytes) (secret auth : Bytes) (received : Buffer) : Prop :=
  let length := (received.field16 2).toNat
  sizeofRadiusPacket ≤ length ∧ checkRadiusAnswer md5 secret auth received
    (received.slice sizeofRadiusPacket (length - sizeofRadiusPacket)) = true

instance (md5 : Bytes -> Bytes) (secret auth : Bytes) (received : Buffer) :
    Decidable (Genuine md5 secret auth received) :=
  inferInstanceAs (Decidable (_ ∧ _))

section

variable {md5 : Bytes -> Bytes} {behind : Nat -> UInt8} {datagram : Bytes}
  {client after : AuthClient Request Handler}

/-- An answer passed the checks for the entry of its identifier. -/
theorem genuine_of_onRcv {given : Answer Handler}
    (accepted : client.onRcv md5 behind datagram = some (after, some given)) :
    given.id = (client.received behind datagram).read 1 ∧
      ∃ entry, client.callbacks.lookup given.id = some entry ∧ entry.handler = given.handler ∧
        Genuine md5 client.secret entry.auth (client.received behind datagram) := by
  unfold onRcv at accepted
  split at accepted
  · cases accepted
  · dsimp only at accepted
    split at accepted
    · cases (Prod.mk.inj (Option.some.inj accepted)).2
    · rename_i entry found
      split at accepted
      · cases accepted
      · rename_i enough
        split at accepted
        · rename_i checked
          rw [← Option.some.inj (Prod.mk.inj (Option.some.inj accepted)).2]
          exact ⟨rfl, entry, found, rfl, Nat.le_of_not_lt enough, checked⟩
        · cases (Prod.mk.inj (Option.some.inj accepted)).2

/-- While a receive is armed, what passes the checks is handed to the response
handler. -/
theorem onRcv_of_genuine {entry : Outstanding Handler} (armed : 0 < client.receives)
    (found : client.callbacks.lookup ((client.received behind datagram).read 1) = some entry)
    (genuine : Genuine md5 client.secret entry.auth (client.received behind datagram)) :
    ∃ filled given, client.onRcv md5 behind datagram = some (filled, some given) ∧
      given.id = (client.received behind datagram).read 1 ∧ given.handler = entry.handler := by
  rcases Nat.exists_eq_succ_of_ne_zero (Nat.ne_of_gt armed) with ⟨receives, started⟩
  unfold received at found genuine
  unfold onRcv
  rw [started]
  dsimp only
  rw [found]
  dsimp only
  rw [if_neg (Nat.not_lt.mpr genuine.1), if_pos genuine.2]
  exact ⟨_, _, rfl, by rfl, rfl⟩

end

end AuthClient

end Pppcpd
