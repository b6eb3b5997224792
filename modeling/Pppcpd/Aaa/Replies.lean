import Pppcpd.Aaa.Exchange
import Pppcpd.Aaa.Reuse

namespace Pppcpd

open Foundation

/-!
# Replies to what was sent

The two functions of the client compute the authenticator of a request at different
moments, patch it into the packet, and store a copy beside the handlers.  A server
hashes its reply together with the authenticator that it finds in the datagram.  In
every run the stored copy is the one in the datagram that was sent for the call, so
the reply is taken, and its bytes go to the handler of the call.
-/

namespace ClientCall

def code : ClientCall -> UInt8
  | .request _ _ => RadiusCode.accessRequest
  | .acctRequest _ => RadiusCode.accountingRequest

def attributes (md5 : Bytes -> Bytes) (dict : RadiusDict) (secret : Bytes) : ClientCall -> Bytes
  | .request authenticator asked => asked.serialize md5 dict authenticator secret
  | .acctRequest asked => asked.serialize dict

def authenticator (md5 : Bytes -> Bytes) (dict : RadiusDict) (secret : Bytes) (id : UInt8) :
    ClientCall -> Bytes
  | .request authenticator _ => authenticator
  | .acctRequest asked =>
      AuthClient.acctAuthProcess md5 RadiusCode.accountingRequest id (asked.serialize dict) secret

/-- The packet of a call under an identifier. -/
def datagram (md5 : Bytes -> Bytes) (dict : RadiusDict) (secret : Bytes) (id : UInt8)
    (call : ClientCall) : Bytes :=
  AuthClient.packet call.code id (call.authenticator md5 dict secret id)
    (call.attributes md5 dict secret)

/-- The authenticator that is given to a request is an `authenticator_t`. -/
def Typed : ClientCall -> Prop
  | .request authenticator _ => authenticator.length = 16
  | .acctRequest _ => True

instance (call : ClientCall) : Decidable call.Typed := by
  induction call using ClientCall.casesOn <;> unfold Typed <;> infer_instance

theorem length_authenticator {md5 : Bytes -> Bytes} (digests : forall text, (md5 text).length = 16)
    (dict : RadiusDict) (secret : Bytes) (id : UInt8) {call : ClientCall} (typed : call.Typed) :
    (call.authenticator md5 dict secret id).length = 16 := by
  cases call with
  | request authenticator request => exact typed
  | acctRequest request => exact digests _

end ClientCall

/-- Both functions register the handlers with the authenticator of the packet they
send. -/
theorem AuthClient.call_eq {Handler : Type} (md5 : Bytes -> Bytes) (dict : RadiusDict)
    (call : ClientCall) (handler : Handler) (client : AuthClient Unit Handler) :
    client.call md5 dict call handler =
      client.register () handler (call.authenticator md5 dict client.secret (client.lastId + 1))
        (call.datagram md5 dict client.secret (client.lastId + 1)) := by
  cases call with
  | request authenticator request => rfl
  | acctRequest request => rfl

namespace Exchange

/-- A client as its constructor leaves it, with any memory in its buffer. -/
def constructed (endpoint : Endpoint) (secret buf : Bytes) : Exchange where
  client := { secret := secret, buf := buf }
  endpoint := endpoint

/-- Authenticators are given to requests with the size of their type. -/
def Typed (_ : Exchange) : ExchangeEvent -> Prop
  | .call call => call.Typed
  | _ => True

instance (now : Exchange) (event : ExchangeEvent) : Decidable (Typed now event) := by
  induction event using ExchangeEvent.casesOn <;> unfold Typed <;> infer_instance

/-- What was sent for a call. -/
def sentFor (now : Exchange) (call : Nat) : List Bytes :=
  (now.client.sent.filter (fun sent => sent.handler == call)).map SentRequest.bytes

/-- The authenticator of a datagram. -/
def wireAuthenticator (datagram : Bytes) : Bytes := (datagram.drop 4).take 16

def wireAttributes (datagram : Bytes) : Bytes := datagram.drop AuthClient.sizeofRadiusPacket

/-- A reply to a datagram, made by a server with the same secret. -/
def replyTo (md5 : Bytes -> Bytes) (secret sent : Bytes) (id code : UInt8) (attributes : Bytes) :
    Bytes :=
  AuthClient.packet code id
    (md5 (AuthClient.packetStart code id attributes ++ wireAuthenticator sent ++ attributes ++ secret))
    attributes

/-- A datagram was sent for a call under an identifier.  When the call was for
accounting, its authenticator is the hash of itself with zeros in its place.  Every
reply to it that fits the buffer goes to the handler of the call with its code and
its attributes, whatever lies in the memory behind the buffer. -/
structure Served (md5 : Bytes -> Bytes) (secret : Bytes) (now : Exchange) (call : ClientCall)
    (id : UInt8) (handler : Nat) (sent : Bytes) : Prop where
  identifier : sent[1]? = some id
  accounting : forall request, call = .acctRequest request ->
    wireAuthenticator sent =
      md5 (sent.take 4 ++ List.replicate 16 0 ++ wireAttributes sent ++ secret)
  handed : forall (code : UInt8) (attributes : Bytes),
    AuthClient.sizeofRadiusPacket + attributes.length ≤ AuthClient.bufferSize ->
      forall (behind : Nat -> UInt8) (receives : Nat), ∃ filled,
        AuthClient.onRcv md5 behind (replyTo md5 secret sent id code attributes)
            { now.client with receives := receives + 1 } =
          some ({ now.client with buf := filled, receives := receives },
            some { id := id, handler := handler, code := code, attributes := attributes })

/-! ## What every step keeps -/

/-- The step is no call: nothing is sent, and the entries that stay keep their
handlers and authenticators. -/
structure Keeps (now after : Exchange) : Prop where
  calls : after.calls = now.calls
  secret : after.client.secret = now.client.secret
  sent : after.client.sent = now.client.sent
  entries : forall id later, after.client.callbacks.lookup id = some later ->
    ∃ entry, now.client.callbacks.lookup id = some entry ∧ later.handler = entry.handler ∧
      later.auth = entry.auth

section

variable {md5 : Bytes -> Bytes} {dict : RadiusDict} {now after : Exchange}

/-- The table where the wait of an entry changed. -/
theorem entries_modify {id place : UInt8} {change : Wait -> Wait}
    {callbacks : Table UInt8 (Outstanding Nat)} {later : Outstanding Nat}
    (found : (Table.modify id (fun entry => { entry with wait := change entry.wait })
      callbacks).lookup place = some later) :
    ∃ entry, callbacks.lookup place = some entry ∧ later.handler = entry.handler ∧
      later.auth = entry.auth := by
  rw [Table.lookup_modify_eq] at found
  split at found
  · rcases Option.map_eq_some_iff.mp found with ⟨entry, was, changed⟩
    rw [← changed]
    exact ⟨entry, was, rfl, rfl⟩
  · exact ⟨later, found, rfl, rfl⟩

theorem keeps_of_step {event : ExchangeEvent} (other : forall call, event ≠ .call call)
    (taken : now.step md5 dict event = some after) : Keeps now after := by
  cases event with
  | call call => exact absurd rfl (other call)
  | datagram source behind datagram =>
      rcases receiveDatagram_cases taken with ⟨filled, answer, received, _, _, outcome⟩
      rcases AuthClient.onRcv_cases received with ⟨⟨buf, receives, isFilled⟩, _⟩
      rcases outcome with ⟨_, equal⟩ | ⟨given, entry, _, _, _, _, equal⟩
      · rw [equal, isFilled]
        exact ⟨rfl, rfl, rfl, fun _ later found => ⟨later, found, rfl, rfl⟩⟩
      · rw [equal, isFilled]
        exact ⟨rfl, rfl, rfl, fun _ _ found => entries_modify found⟩
  | socketError =>
      rcases receiveError_cases taken with ⟨receives, _, equal⟩
      rw [equal]
      exact ⟨rfl, rfl, rfl, fun _ later found => ⟨later, found, rfl, rfl⟩⟩
  | expires id =>
      rw [← Option.some.inj taken]
      exact ⟨rfl, rfl, rfl, fun _ _ found => entries_modify found⟩
  | timer id =>
      rcases expireCheck_cases taken with ⟨entry, _, ⟨_, equal⟩ | ⟨_, equal⟩⟩
      all_goals
        rw [equal]
        refine ⟨rfl, rfl, rfl, fun place later found => ⟨later, ?_, rfl, rfl⟩⟩
        have still : (now.client.callbacks.erase id).lookup place = some later := found
        rw [Table.lookup_erase_eq] at still
        split at still
        · cases still
        · exact still

/-- The invariant of runs.  Calls are numbered, and an entry for a call holds the
authenticator of the one datagram that was sent for it. -/
structure Outgoing (md5 : Bytes -> Bytes) (dict : RadiusDict) (secret : Bytes)
    (past : List (Exchange × ExchangeEvent)) (now : Exchange) : Prop where
  shared : now.client.secret = secret
  made : forall before call, (before, .call call) ∈ past -> before.calls < now.calls
  entered : forall id entry, now.client.callbacks.lookup id = some entry -> entry.handler < now.calls
  recorded : ∀ sent ∈ now.client.sent, sent.handler < now.calls
  backed : forall before call id entry, (before, .call call) ∈ past ->
    now.client.callbacks.lookup id = some entry -> entry.handler = before.calls ->
      call.Typed ∧ entry.auth = call.authenticator md5 dict secret id ∧
        now.sentFor before.calls = [call.datagram md5 dict secret id]

variable {secret : Bytes} {past : List (Exchange × ExchangeEvent)}

theorem outgoing_constructed (endpoint : Endpoint) (buf : Bytes) :
    Outgoing md5 dict secret [] (constructed endpoint secret buf) where
  shared := rfl
  made := fun _ _ member => absurd member List.not_mem_nil
  entered := fun _ _ found => nomatch found
  recorded := fun _ member => absurd member List.not_mem_nil
  backed := fun _ _ _ _ member => absurd member List.not_mem_nil

/-- Steps that are no calls. -/
theorem Outgoing.keep (outgoing : Outgoing md5 dict secret past now) {event : ExchangeEvent}
    (other : forall call, event ≠ .call call) (keeps : Keeps now after) :
    Outgoing md5 dict secret ((now, event) :: past) after := by
  have earlier : forall before call, (before, .call call) ∈ (now, event) :: past ->
      (before, .call call) ∈ past := by
    intro before call member
    rcases List.mem_cons.mp member with same | older
    · exact absurd (Prod.mk.inj same).2.symm (other call)
    · exact older
  constructor
  · rw [keeps.secret]
    exact outgoing.shared
  · intro before call member
    rw [keeps.calls]
    exact outgoing.made before call (earlier before call member)
  · intro id later found
    rcases keeps.entries id later found with ⟨entry, was, handler, _⟩
    rw [keeps.calls, handler]
    exact outgoing.entered id entry was
  · rw [keeps.sent, keeps.calls]
    exact outgoing.recorded
  · intro before call id later member found still
    rcases keeps.entries id later found with ⟨entry, was, handler, auth⟩
    rw [auth]
    unfold sentFor
    rw [keeps.sent]
    exact outgoing.backed before call id entry (earlier before call member) was (handler ▸ still)

/-- Nothing was sent yet for the next call. -/
theorem Outgoing.sentFor_next (outgoing : Outgoing md5 dict secret past now) :
    now.sentFor now.calls = [] := by
  unfold sentFor
  rw [List.map_eq_nil_iff, List.filter_eq_nil_iff]
  intro sent member same
  exact Nat.ne_of_lt (outgoing.recorded sent member) (beq_iff_eq.mp same)

/-- With a call among the steps, all calls so far have lower numbers than the next. -/
theorem Outgoing.made_next (outgoing : Outgoing md5 dict secret past now) {call other : ClientCall}
    {before : Exchange} (member : (before, .call other) ∈ (now, .call call) :: past) :
    before.calls < now.calls + 1 := by
  rcases List.mem_cons.mp member with same | older
  · rw [(Prod.mk.inj same).1]
    exact Nat.lt_succ_self _
  · exact Nat.lt_succ_of_lt (outgoing.made before other older)

/-- An entry that was there before the call is for an earlier call. -/
theorem Outgoing.older (outgoing : Outgoing md5 dict secret past now) {call other : ClientCall}
    {before : Exchange} (member : (before, .call other) ∈ (now, .call call) :: past) {id : UInt8}
    {entry : Outstanding Nat} (found : now.client.callbacks.lookup id = some entry)
    (still : entry.handler = before.calls) : (before, .call other) ∈ past := by
  rcases List.mem_cons.mp member with same | older
  · rw [(Prod.mk.inj same).1] at still
    exact absurd still (Nat.ne_of_lt (outgoing.entered id entry found))
  · exact older

/-- A call that only counts. -/
theorem Outgoing.drop (outgoing : Outgoing md5 dict secret past now) {call : ClientCall}
    {lastId : UInt8} (calls : after.calls = now.calls + 1)
    (dropped : after.client = { now.client with lastId := lastId }) :
    Outgoing md5 dict secret ((now, .call call) :: past) after := by
  constructor
  · rw [dropped]
    exact outgoing.shared
  · intro before other member
    rw [calls]
    exact outgoing.made_next member
  · intro id entry found
    rw [dropped] at found
    rw [calls]
    exact Nat.lt_succ_of_lt (outgoing.entered id entry found)
  · intro sent member
    rw [dropped] at member
    rw [calls]
    exact Nat.lt_succ_of_lt (outgoing.recorded sent member)
  · intro before other id entry member found still
    unfold sentFor
    rw [dropped] at found ⊢
    exact outgoing.backed before other id entry (outgoing.older member found still) found still

/-- A call under a free identifier, with its datagram. -/
theorem Outgoing.enter (outgoing : Outgoing md5 dict secret past now) {call : ClientCall}
    (typed : call.Typed) {lastId id : UInt8} {receives : Nat} (calls : after.calls = now.calls + 1)
    (entered : after.client = { now.client with
      lastId := lastId
      callbacks := now.client.callbacks.insert id
        { handler := now.calls, auth := call.authenticator md5 dict secret id, wait := .armed }
      receives := receives
      sent := now.client.sent ++ [⟨(), now.calls, call.datagram md5 dict secret id⟩] }) :
    Outgoing md5 dict secret ((now, .call call) :: past) after := by
  have sentBefore : forall number, number < now.calls -> after.sentFor number = now.sentFor number := by
    intro number earlier
    have other : (now.calls == number) = false := beq_false_of_ne (Nat.ne_of_gt earlier)
    unfold sentFor
    rw [entered, List.filter_append, List.filter_singleton, other]
    exact congrArg (List.map SentRequest.bytes) (List.append_nil _)
  have sentNow : after.sentFor now.calls = [call.datagram md5 dict secret id] := by
    have nothing := outgoing.sentFor_next
    unfold sentFor at nothing ⊢
    rw [entered, List.filter_append, List.map_append, nothing, List.filter_singleton,
      beq_self_eq_true]
    rfl
  constructor
  · rw [entered]
    exact outgoing.shared
  · intro before other member
    rw [calls]
    exact outgoing.made_next member
  · intro place entry found
    rw [entered, Table.lookup_insert_eq] at found
    rw [calls]
    split at found
    · rw [← Option.some.inj found]
      exact Nat.lt_succ_self _
    · exact Nat.lt_succ_of_lt (outgoing.entered place entry found)
  · intro sent member
    rw [entered] at member
    rw [calls]
    rcases List.mem_append.mp member with older | new
    · exact Nat.lt_succ_of_lt (outgoing.recorded sent older)
    · rw [List.mem_singleton.mp new]
      exact Nat.lt_succ_self _
  · intro before other place entry member found still
    rw [entered, Table.lookup_insert_eq] at found
    split at found
    · -- The new entry is for this call and for no earlier one.
      rename_i here
      rw [← Option.some.inj found] at still ⊢
      rcases List.mem_cons.mp member with same | older
      · rw [(Prod.mk.inj same).1, ExchangeEvent.call.inj (Prod.mk.inj same).2, here]
        exact ⟨typed, rfl, sentNow⟩
      · exact absurd still.symm (Nat.ne_of_lt (outgoing.made before other older))
    · have older := outgoing.older member found still
      rw [sentBefore before.calls (outgoing.made before other older)]
      exact outgoing.backed before other place entry older found still

/-- A call is numbered, and its datagram is sent when its identifier is free. -/
theorem Outgoing.call (outgoing : Outgoing md5 dict secret past now) {call : ClientCall}
    (typed : call.Typed) :
    Outgoing md5 dict secret ((now, .call call) :: past) (now.makeCall md5 dict call) := by
  have client : (now.makeCall md5 dict call).client = now.client.register () now.calls
      (call.authenticator md5 dict secret (now.client.lastId + 1))
      (call.datagram md5 dict secret (now.client.lastId + 1)) := by
    rw [← outgoing.shared]
    exact AuthClient.call_eq md5 dict call now.calls now.client
  rcases AuthClient.register_cases now.client () now.calls
    (call.authenticator md5 dict secret (now.client.lastId + 1))
    (call.datagram md5 dict secret (now.client.lastId + 1)) with ⟨_, entered⟩ | dropped
  · exact outgoing.enter typed rfl (client.trans entered)
  · exact outgoing.drop rfl (client.trans dropped)

/-- Every run keeps the invariant. -/
theorem outgoing_of_run {endpoint : Endpoint} {buf : Bytes}
    (run : Run (step md5 dict) Typed (constructed endpoint secret buf) past now) :
    Outgoing md5 dict secret past now := by
  refine run.invariantPast (outgoing_constructed endpoint buf) ?_
  intro past now event after outgoing permitted taken
  by_cases other : forall call, event ≠ .call call
  · exact outgoing.keep other (keeps_of_step other taken)
  · rcases not_forall.mp other with ⟨call, isCall⟩
    rw [not_not.mp isCall] at permitted taken ⊢
    rw [← Option.some.inj taken]
    exact outgoing.call permitted

/-- The authenticator of a call is the one in its datagram, and that of accounting
is the hash of the datagram with zeros in its place. -/
theorem wireAuthenticator_datagram (digests : forall text, (md5 text).length = 16) (id : UInt8)
    {call : ClientCall} (typed : call.Typed) :
    wireAuthenticator (call.datagram md5 dict secret id) = call.authenticator md5 dict secret id :=
  AuthClient.authenticator_packet (call.length_authenticator digests dict secret id typed) call.code id

theorem accounting_datagram (digests : forall text, (md5 text).length = 16) (id : UInt8)
    (asked : AcctRequest) :
    let sent := (ClientCall.acctRequest asked).datagram md5 dict secret id
    wireAuthenticator sent =
      md5 (sent.take 4 ++ List.replicate 16 0 ++ wireAttributes sent ++ secret) := by
  have sixteen := (ClientCall.acctRequest asked).length_authenticator digests dict secret id trivial
  have start : ((ClientCall.acctRequest asked).datagram md5 dict secret id).take 4 =
      AuthClient.packetStart RadiusCode.accountingRequest id (asked.serialize dict) :=
    AuthClient.take_four_packet _ _
  have behind : wireAttributes ((ClientCall.acctRequest asked).datagram md5 dict secret id) =
      asked.serialize dict := AuthClient.attributes_packet sixteen _ _
  have onWire := @wireAuthenticator_datagram _ dict secret digests id (.acctRequest asked) trivial
  dsimp only
  rw [onWire, start, behind]
  rfl

/-- In every run, a call whose handlers are still in the table had one datagram sent
for it, and every reply to that datagram is served. -/
theorem served_of_run (digests : forall text, (md5 text).length = 16) {endpoint : Endpoint}
    {buf : Bytes} (run : Run (step md5 dict) Typed (constructed endpoint secret buf) past now)
    {before : Exchange} {call : ClientCall} (made : (before, .call call) ∈ past) {id : UInt8}
    {entry : Outstanding Nat} (found : now.client.callbacks.lookup id = some entry)
    (still : entry.handler = before.calls) :
    ∃ sent, now.sentFor before.calls = [sent] ∧
      Served md5 secret now call id before.calls sent := by
  have outgoing := outgoing_of_run run
  rcases outgoing.backed before call id entry made found still with ⟨typed, auth, sent⟩
  refine ⟨call.datagram md5 dict secret id, sent, ?_⟩
  constructor
  · rfl
  · intro asked isAccounting
    rw [isAccounting]
    exact accounting_datagram digests id asked
  · intro code attributes fits behind receives
    have same : replyTo md5 secret (call.datagram md5 dict secret id) id code attributes =
        AuthClient.packet code id (md5 (AuthClient.packetStart code id attributes ++ entry.auth ++
          attributes ++ now.client.secret)) attributes := by
      unfold replyTo
      rw [wireAuthenticator_datagram digests id typed, auth, outgoing.shared]
    have sixteen := digests
      (AuthClient.packetStart code id attributes ++ entry.auth ++ attributes ++ now.client.secret)
    have isId := (AuthClient.read_packet sixteen code id fits).1
    rcases AuthClient.onRcv_of_whole md5 behind now.client.buf receives
      (AuthClient.whole_packet sixteen code id fits) (isId.symm ▸ found) with ⟨filled, received⟩
    refine ⟨filled, ?_⟩
    rw [same, ← still]
    rw [AuthClient.expected_packet sixteen code id fits found rfl] at received
    exact received

end

/-- A new client with the server at hand. -/
def sampleConstructed : Exchange :=
  constructed { address := 1, port := 1812 } AAA.sampleSecret (List.replicate 1500 0)

/-- The names that the two requests write. -/
def sampleNames : RadiusDict where
  attrs := [(1, { name := ascii "User-Name" }), (2, { name := ascii "User-Password" }),
    (32, { name := ascii "NAS-Identifier" }),
    (40, { name := ascii "Acct-Status-Type", values := [(1, ascii "Start")] }),
    (44, { name := ascii "Acct-Session-Id" })]

/-- A login over PAP, with the authenticator that the session made for it. -/
def sampleLogin : ClientCall :=
  .request (List.replicate 16 7)
    { username := ascii "user", credential := .pap (ascii "pass"), nasId := ascii "nas"
      serviceType := [], framedProtocol := [], callingStationId := [], nasPortId := [] }

/-- The record that another session opens its bill with. -/
def sampleStart : ClientCall :=
  .acctRequest
    { sessionId := ascii "0001", username := ascii "other", nasId := ascii "nas"
      acctStatusType := .start }

/-- The login is out under the identifier one, the record under two. -/
def sampleBusy : Exchange :=
  (sampleConstructed.makeCall MD5.digest sampleNames sampleLogin).makeCall MD5.digest
    sampleNames sampleStart

def samplePast : List (Exchange × ExchangeEvent) :=
  [(sampleConstructed.makeCall MD5.digest sampleNames sampleLogin, .call sampleStart),
    (sampleConstructed, .call sampleLogin)]

theorem run_sampleBusy :
    Run (step MD5.digest sampleNames) Typed sampleConstructed samplePast sampleBusy :=
  .next (.next .start (by decide) rfl) (by decide) rfl

/-- While both are out, the reply to each goes to its own caller. -/
theorem served_at_sampleBusy :
    (∃ sent, sampleBusy.sentFor 0 = [sent] ∧
        Served MD5.digest AAA.sampleSecret sampleBusy sampleLogin 1 0 sent) ∧
      ∃ sent, sampleBusy.sentFor 1 = [sent] ∧
        Served MD5.digest AAA.sampleSecret sampleBusy sampleStart 2 1 sent := by
  refine ⟨?_, ?_⟩
  · have found : ∃ entry, sampleBusy.client.callbacks.lookup 1 = some entry ∧ entry.handler = 0 := by
      refine ⟨_, (AList.lookup_insert_ne (by decide : (1 : UInt8) ≠ 2)).trans (AList.lookup_insert _), rfl⟩
    rcases found with ⟨entry, found, mine⟩
    exact served_of_run MD5.length_digest run_sampleBusy (List.mem_cons_of_mem _ List.mem_cons_self)
      found mine
  · have found : ∃ entry, sampleBusy.client.callbacks.lookup 2 = some entry ∧ entry.handler = 1 :=
      ⟨_, AList.lookup_insert _, rfl⟩
    rcases found with ⟨entry, found, mine⟩
    exact served_of_run MD5.length_digest run_sampleBusy List.mem_cons_self found mine

end Exchange

end Pppcpd
