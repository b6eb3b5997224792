import Pppcpd.Aaa.Step
import Pppcpd.Foundation.Run

namespace Pppcpd

open Foundation

/-!
# Requests and answers of one client

A client and its socket, over any order of calls, datagrams from anywhere,
socket errors, and timers whose handlers run when they like.  The handlers of
a call are its number here, so a list of numbers tells which of them have run.

Requests go to `endpoint`.  The same object is given to every receive, which
stores there the address that a datagram came from.
-/

/-- The address and port of a UDP endpoint. -/
structure Endpoint where
  address : UInt32
  port : UInt16
  deriving DecidableEq, Repr

/-- A call of `request` or `acct_request`. -/
inductive ClientCall
  | request (authenticator : Bytes) (request : RadiusRequest)
  | acctRequest (request : AcctRequest)

namespace AuthClient

/-- A call, of whichever kind. -/
def call {Handler : Type} (md5 : Bytes -> Bytes) (dict : RadiusDict) (call : ClientCall)
    (handler : Handler) (client : AuthClient Unit Handler) : AuthClient Unit Handler :=
  let id := client.lastId + 1
  match call with
  | .request authenticator request =>
      client.register () handler authenticator
        (packet RadiusCode.accessRequest id authenticator
          (request.serialize md5 dict authenticator client.secret))
  | .acctRequest request =>
      let attributes := request.serialize dict
      let authenticator := acctAuthProcess md5 RadiusCode.accountingRequest id attributes client.secret
      client.register () handler authenticator
        (packet RadiusCode.accountingRequest id authenticator attributes)

/-- A client without the record of what its datagrams were made from. -/
def forget {Request Handler : Type} (client : AuthClient Request Handler) : AuthClient Unit Handler where
  lastId := client.lastId
  secret := client.secret
  callbacks := client.callbacks
  buf := client.buf
  receives := client.receives
  sent := client.sent.map (fun sent => { request := (), handler := sent.handler, bytes := sent.bytes })

theorem forget_register {Request Handler : Type} (client : AuthClient Request Handler)
    (request : Request) (handler : Handler) (authenticator bytes : Bytes) :
    (client.register request handler authenticator bytes).forget =
      client.forget.register () handler authenticator bytes := by
  unfold register
  dsimp only [forget]
  split
  · simp only [List.map_append, List.map_cons, List.map_nil]
  · rfl

/-- The two functions of the client are the two kinds of calls. -/
theorem forget_request {Handler : Type} (md5 : Bytes -> Bytes) (dict : RadiusDict)
    (authenticator : Bytes) (request : RadiusRequest) (handler : Handler)
    (client : AuthClient RadiusRequest Handler) :
    (client.request md5 dict authenticator request handler).forget =
      client.forget.call md5 dict (.request authenticator request) handler :=
  forget_register client request handler authenticator _

theorem forget_acctRequest {Handler : Type} (md5 : Bytes -> Bytes) (dict : RadiusDict)
    (request : AcctRequest) (handler : Handler) (client : AuthClient AcctRequest Handler) :
    (client.acctRequest md5 dict request handler).forget =
      client.forget.call md5 dict (.acctRequest request) handler :=
  forget_register client request handler _ _

/-- A call takes the next identifier when it is free, or it only counts. -/
theorem call_cases {Handler : Type} (md5 : Bytes -> Bytes) (dict : RadiusDict) (call : ClientCall)
    (handler : Handler) (client : AuthClient Unit Handler) :
    (client.lastId + 1 ∉ client.callbacks ∧ ∃ auth sent,
      client.call md5 dict call handler =
        { client with
          lastId := client.lastId + 1
          callbacks := client.callbacks.insert (client.lastId + 1)
            { handler := handler, auth := auth, wait := .armed }
          receives := client.receives + 1
          sent := sent }) ∨
      client.lastId + 1 ∈ client.callbacks ∧
        client.call md5 dict call handler = { client with lastId := client.lastId + 1 } := by
  have registers : ∃ auth bytes,
      client.call md5 dict call handler = client.register () handler auth bytes := by
    cases call with
    | request authenticator request => exact ⟨_, _, rfl⟩
    | acctRequest request => exact ⟨_, _, rfl⟩
  rcases registers with ⟨auth, bytes, registers⟩
  rw [registers]
  by_cases used : client.lastId + 1 ∈ client.callbacks
  · exact .inr ⟨used, by simp [register, Table.emplace, used]⟩
  · refine .inl ⟨used, auth, client.sent ++ [{ request := (), handler := handler, bytes := bytes }], ?_⟩
    simp [register, Table.emplace, used]

end AuthClient

/-- A client with its socket's peer, and the history of its calls. -/
structure Exchange where
  client : AuthClient Unit Nat := {}
  endpoint : Endpoint
  /-- The number of calls made so far. -/
  calls : Nat := 0
  /-- The calls whose response or error handler was run, newest first. -/
  ran : List Nat := []
  /-- The calls whose timer's handler was run, newest first. -/
  closed : List Nat := []
  /-- Where requests were sent, newest first. -/
  destinations : List Endpoint := []

inductive ExchangeEvent
  | call (call : ClientCall)
  | datagram (source : Endpoint) (behind : Nat -> UInt8) (datagram : Bytes)
  | socketError
  | expires (id : UInt8)
  | timer (id : UInt8)

namespace Exchange

variable (md5 : Bytes -> Bytes) (dict : RadiusDict)

/-- A call of `request` or `acct_request`.  Its datagram is sent when its
identifier is free. -/
def makeCall (call : ClientCall) (now : Exchange) : Exchange :=
  { now with
    client := now.client.call md5 dict call now.calls
    calls := now.calls + 1
    destinations :=
      if now.client.lastId + 1 ∈ now.client.callbacks then now.destinations
      else now.endpoint :: now.destinations }

/-- A receive completes with a datagram: `on_rcv`. -/
def receiveDatagram (source : Endpoint) (behind : Nat -> UInt8) (datagram : Bytes) (now : Exchange) :
    Option Exchange :=
  (now.client.onRcv md5 behind datagram).map (fun received =>
    match received.2 with
    | none => { now with client := received.1, endpoint := source }
    | some answer =>
        { now with
          client := received.1.cancelTimer answer.id, endpoint := source
          ran := answer.handler :: now.ran })

/-- A receive completes with an error. -/
def receiveError (now : Exchange) : Option Exchange :=
  match now.client.receives with
  | 0 => none
  | receives + 1 => some { now with client := { now.client with receives := receives } }

/-- The handler of a request's timer runs: `expire_check`. -/
def expireCheck (id : UInt8) (now : Exchange) : Option Exchange :=
  (now.client.callbacks.lookup id).bind (fun entry =>
    let erased := { now with
      client := now.client.eraseEntry id, closed := entry.handler :: now.closed }
    match entry.wait with
    | .armed => none
    | .aborted => some erased
    | .expired => some { erased with ran := entry.handler :: now.ran })

def step (now : Exchange) : ExchangeEvent -> Option Exchange
  | .call call => some (now.makeCall md5 dict call)
  | .datagram source behind datagram => now.receiveDatagram md5 source behind datagram
  | .socketError => now.receiveError
  | .expires id => some { now with client := now.client.timerExpires id }
  | .timer id => now.expireCheck id

/-- What a call does to the client. -/
theorem makeCall_cases (call : ClientCall) (now : Exchange) :
    (now.client.lastId + 1 ∉ now.client.callbacks ∧ ∃ auth sent,
      (now.makeCall md5 dict call).client =
        { now.client with
          lastId := now.client.lastId + 1
          callbacks := now.client.callbacks.insert (now.client.lastId + 1)
            { handler := now.calls, auth := auth, wait := .armed }
          receives := now.client.receives + 1
          sent := sent }) ∨
      now.client.lastId + 1 ∈ now.client.callbacks ∧
        (now.makeCall md5 dict call).client = { now.client with lastId := now.client.lastId + 1 } :=
  AuthClient.call_cases md5 dict call now.calls now.client

variable {md5} {dict} {now after : Exchange}

/-- A datagram is discarded, or it is an answer for an entry of the table. -/
theorem receiveDatagram_cases {source : Endpoint} {behind : Nat -> UInt8} {datagram : Bytes}
    (received : now.receiveDatagram md5 source behind datagram = some after) :
    ∃ filled answer, now.client.onRcv md5 behind datagram = some (filled, answer) ∧
      filled.callbacks = now.client.callbacks ∧ now.client.receives = filled.receives + 1 ∧
      (answer = none ∧ after = { now with client := filled, endpoint := source } ∨
        ∃ given entry, answer = some given ∧ now.client.callbacks.lookup given.id = some entry ∧
          given.id = (now.client.received behind datagram).read 1 ∧
          AuthClient.Genuine md5 now.client.secret entry.auth (now.client.received behind datagram) ∧
          after = { now with
            client := filled.cancelTimer given.id, endpoint := source
            ran := entry.handler :: now.ran }) := by
  rcases Option.map_eq_some_iff.mp received with ⟨⟨filled, answer⟩, filling, finished⟩
  rcases AuthClient.onRcv_cases filling with ⟨⟨buf, receives, equal⟩, _⟩
  refine ⟨filled, answer, filling, by rw [equal], AuthClient.onRcv_receives filling, ?_⟩
  cases answer with
  | none => exact .inl ⟨rfl, finished.symm⟩
  | some given =>
      rcases AuthClient.genuine_of_onRcv filling with ⟨id, entry, found, handler, genuine⟩
      refine .inr ⟨given, entry, rfl, found, id, genuine, ?_⟩
      rw [handler]
      exact finished.symm

/-- An error only ends one receive. -/
theorem receiveError_cases (failed : now.receiveError = some after) :
    ∃ receives, now.client.receives = receives + 1 ∧
      after = { now with client := { now.client with receives := receives } } := by
  unfold receiveError at failed
  split at failed
  · cases failed
  · rename_i receives started
    exact ⟨receives, started, (Option.some.inj failed).symm⟩

/-- The end of a timer erases its entry, and runs the error handler when the
timer had expired. -/
theorem expireCheck_cases {id : UInt8} (fired : now.expireCheck id = some after) :
    ∃ entry, now.client.callbacks.lookup id = some entry ∧
      (entry.wait = .aborted ∧ after = { now with
          client := now.client.eraseEntry id, closed := entry.handler :: now.closed } ∨
        entry.wait = .expired ∧ after = { now with
          client := now.client.eraseEntry id, closed := entry.handler :: now.closed
          ran := entry.handler :: now.ran }) := by
  rcases Option.bind_eq_some_iff.mp fired with ⟨entry, found, finished⟩
  refine ⟨entry, found, ?_⟩
  dsimp only at finished
  split at finished
  · cases finished
  · rename_i aborted
    exact .inl ⟨aborted, (Option.some.inj finished).symm⟩
  · rename_i expired
    exact .inr ⟨expired, (Option.some.inj finished).symm⟩

end Exchange

/-! ## Exactly one of the handlers -/

namespace Exchange

variable {md5 : Bytes -> Bytes} {dict : RadiusDict} {now after : Exchange}

/-- The entry of a call is in the table. -/
def Pending (now : Exchange) (call : Nat) : Prop :=
  ∃ id entry, now.client.callbacks.lookup id = some entry ∧ entry.handler = call

/-- No call has its handlers run twice, a call whose timer is done had one of them
run, and a call is pending until its timer is done. -/
structure ExactlyOnce (now : Exchange) : Prop where
  once : forall call, now.ran.count call ≤ 1
  completed : forall call, call ∈ now.closed -> now.ran.count call = 1
  kept : forall call, call < now.calls -> now.Pending call ∨ call ∈ now.closed

/-- The next identifier is free for a call, and an answer finds the timer of its
request armed. -/
def CompletesOnce (md5 : Bytes -> Bytes) (now : Exchange) : ExchangeEvent -> Prop
  | .call _ => now.client.lastId + 1 ∉ now.client.callbacks
  | .datagram _ behind datagram =>
      let received := now.client.received behind datagram
      ∀ entry ∈ now.client.callbacks.lookup (received.read 1),
        AuthClient.Genuine md5 now.client.secret entry.auth received -> entry.wait = .armed
  | _ => True

instance (md5 : Bytes -> Bytes) (now : Exchange) (event : ExchangeEvent) :
    Decidable (CompletesOnce md5 now event) := by
  induction event using ExchangeEvent.casesOn <;> unfold CompletesOnce <;> infer_instance

/-- The invariant of the table: entries are for different calls that are not done,
and an answer was handled for those whose timer was cancelled, and for no other. -/
structure ExchangeInvariant (now : Exchange) : Prop where
  entry : forall id entry, now.client.callbacks.lookup id = some entry ->
    entry.handler < now.calls ∧ entry.handler ∉ now.closed ∧
      now.ran.count entry.handler = if entry.wait = .aborted then 1 else 0
  distinct : forall id other entry otherEntry, now.client.callbacks.lookup id = some entry ->
    now.client.callbacks.lookup other = some otherEntry -> entry.handler = otherEntry.handler -> id = other
  closed : forall call, call ∈ now.closed -> call < now.calls ∧ now.ran.count call = 1
  kept : forall call, call < now.calls -> now.Pending call ∨ call ∈ now.closed
  ran : forall call, call ∈ now.ran -> call < now.calls

theorem ExchangeInvariant.exactlyOnce (invariant : ExchangeInvariant now) : ExactlyOnce now where
  once := by
    intro call
    by_cases made : call < now.calls
    · rcases invariant.kept call made with ⟨id, entry, found, same⟩ | done
      · have count := (invariant.entry id entry found).2.2
        rw [same] at count
        rw [count]
        split
        · exact Nat.le_refl 1
        · exact Nat.zero_le 1
      · exact Nat.le_of_eq (invariant.closed call done).2
    · have absent : call ∉ now.ran := fun member => made (invariant.ran call member)
      rw [List.count_eq_zero_of_not_mem absent]
      exact Nat.zero_le 1
  completed := fun call done => (invariant.closed call done).2
  kept := invariant.kept

/-- Everything but the callbacks, and the history, is free to change. -/
theorem ExchangeInvariant.of_same (invariant : ExchangeInvariant now)
    (callbacks : after.client.callbacks = now.client.callbacks) (calls : after.calls = now.calls)
    (ran : after.ran = now.ran) (closed : after.closed = now.closed) : ExchangeInvariant after := by
  constructor
  · rw [callbacks, calls, ran, closed]
    exact invariant.entry
  · rw [callbacks]
    exact invariant.distinct
  · rw [calls, ran, closed]
    exact invariant.closed
  · unfold Pending
    rw [callbacks, calls, closed]
    exact invariant.kept
  · rw [calls, ran]
    exact invariant.ran

/-- A call that has not been made is in neither list. -/
theorem ExchangeInvariant.fresh (invariant : ExchangeInvariant now) :
    now.calls ∉ now.closed ∧ now.calls ∉ now.ran :=
  ⟨fun member => Nat.lt_irrefl _ (invariant.closed _ member).1,
    fun member => Nat.lt_irrefl _ (invariant.ran _ member)⟩

/-- A call takes a free identifier. -/
theorem ExchangeInvariant.insert (invariant : ExchangeInvariant now) {id : UInt8}
    {entry : Outstanding Nat} (free : id ∉ now.client.callbacks)
    (handler : entry.handler = now.calls) (armed : entry.wait = .armed)
    (callbacks : after.client.callbacks = now.client.callbacks.insert id entry)
    (calls : after.calls = now.calls + 1) (ran : after.ran = now.ran)
    (closed : after.closed = now.closed) : ExchangeInvariant after := by
  have unused : now.client.callbacks.lookup id = none := Table.not_mem_iff_lookup.mp free
  have below : forall place other, now.client.callbacks.lookup place = some other ->
      other.handler < now.calls := fun place other found => (invariant.entry place other found).1
  constructor
  · intro place other found
    rw [callbacks, Table.lookup_insert_eq] at found
    rw [calls, ran, closed]
    split at found
    · rw [← Option.some.inj found, handler, armed, List.count_eq_zero_of_not_mem invariant.fresh.2]
      exact ⟨Nat.lt_succ_self _, invariant.fresh.1, rfl⟩
    · rcases invariant.entry place other found with ⟨made, open_, count⟩
      exact ⟨Nat.lt_succ_of_lt made, open_, count⟩
  · intro place other entry' otherEntry found otherFound same
    rw [callbacks, Table.lookup_insert_eq] at found otherFound
    split at found <;> split at otherFound
    · rename_i first second
      rw [first, second]
    · have least := below other otherEntry otherFound
      rw [← same, ← Option.some.inj found, handler] at least
      exact absurd least (Nat.lt_irrefl _)
    · have least := below place entry' found
      rw [same, ← Option.some.inj otherFound, handler] at least
      exact absurd least (Nat.lt_irrefl _)
    · exact invariant.distinct place other entry' otherEntry found otherFound same
  · intro call done
    rw [closed] at done
    rw [calls, ran]
    exact ⟨Nat.lt_succ_of_lt (invariant.closed call done).1, (invariant.closed call done).2⟩
  · intro call made
    rw [calls] at made
    rw [closed]
    rcases Nat.lt_succ_iff_lt_or_eq.mp made with earlier | new
    · rcases invariant.kept call earlier with ⟨place, other, found, same⟩ | done
      · refine .inl ⟨place, other, ?_, same⟩
        have different : place ≠ id := by
          intro equal
          rw [equal, unused] at found
          cases found
        rw [callbacks, Table.lookup_insert_eq, if_neg different]
        exact found
      · exact .inr done
    · refine .inl ⟨id, entry, ?_, handler.trans new.symm⟩
      rw [callbacks]
      exact AList.lookup_insert _
  · intro call member
    rw [ran] at member
    rw [calls]
    exact Nat.lt_succ_of_lt (invariant.ran call member)

/-- A handler that was run belongs to one entry, which is for one call. -/
theorem ExchangeInvariant.count_other (invariant : ExchangeInvariant now) {id place : UInt8}
    {entry other : Outstanding Nat} {ranNow : List Nat}
    (found : now.client.callbacks.lookup id = some entry)
    (ranNow_eq : ∀ call ∈ ranNow, call = entry.handler)
    (different : place ≠ id) (otherFound : now.client.callbacks.lookup place = some other) :
    ranNow.count other.handler = 0 := by
  apply List.count_eq_zero_of_not_mem
  intro member
  exact different (invariant.distinct place id other entry otherFound found (ranNow_eq _ member))

/-- The same for the calls that are done. -/
theorem ExchangeInvariant.count_closed (invariant : ExchangeInvariant now) {id : UInt8} {call : Nat}
    {entry : Outstanding Nat} {ranNow : List Nat}
    (found : now.client.callbacks.lookup id = some entry)
    (ranNow_eq : ∀ call ∈ ranNow, call = entry.handler) (done : call ∈ now.closed) :
    ranNow.count call = 0 := by
  apply List.count_eq_zero_of_not_mem
  intro member
  rw [ranNow_eq call member] at done
  exact (invariant.entry id entry found).2.1 done

/-- The wait of one entry changes, and handlers of its call are run meanwhile. -/
theorem ExchangeInvariant.modify (invariant : ExchangeInvariant now) {id : UInt8}
    {change : Wait -> Wait} {entry : Outstanding Nat} {ranNow : List Nat}
    (found : now.client.callbacks.lookup id = some entry)
    (callbacks : after.client.callbacks = Table.modify id
      (fun entry => { entry with wait := change entry.wait }) now.client.callbacks)
    (calls : after.calls = now.calls) (ran : after.ran = ranNow ++ now.ran)
    (closed : after.closed = now.closed) (ranNow_eq : ∀ call ∈ ranNow, call = entry.handler)
    (counted : ranNow.count entry.handler + (if entry.wait = .aborted then 1 else 0) =
      if change entry.wait = .aborted then 1 else 0) : ExchangeInvariant after := by
  -- Every entry of the table had one for the same call before.
  have earlier : forall place later, after.client.callbacks.lookup place = some later ->
      ∃ before, now.client.callbacks.lookup place = some before ∧
        later.handler = before.handler ∧
          later.wait = if place = id then change before.wait else before.wait := by
    intro place later placed
    rw [callbacks, Table.lookup_modify_eq] at placed
    split at placed
    · rename_i same
      rcases Option.map_eq_some_iff.mp placed with ⟨before, was, changed⟩
      refine ⟨before, was, ?_, ?_⟩
      · rw [← changed]
      · rw [if_pos same, ← changed]
    · rename_i different
      exact ⟨later, placed, rfl, (if_neg different).symm⟩
  constructor
  · intro place later placed
    rcases earlier place later placed with ⟨before, was, handler, wait⟩
    rcases invariant.entry place before was with ⟨made, open_, count⟩
    rw [calls, closed, handler, ran, List.count_append, count, wait]
    refine ⟨made, open_, ?_⟩
    by_cases here : place = id
    · rw [here] at was
      rw [if_pos here, Option.some.inj (was.symm.trans found)]
      exact counted
    · rw [if_neg here, invariant.count_other found ranNow_eq here was]
      exact Nat.zero_add _
  · intro place other later otherLater placed otherPlaced same
    rcases earlier place later placed with ⟨before, was, handler, _⟩
    rcases earlier other otherLater otherPlaced with ⟨otherBefore, otherWas, otherHandler, _⟩
    rw [handler, otherHandler] at same
    exact invariant.distinct place other before otherBefore was otherWas same
  · intro call done
    rw [closed] at done
    rw [calls, ran, List.count_append, invariant.count_closed found ranNow_eq done, Nat.zero_add]
    exact invariant.closed call done
  · intro call made
    rw [calls] at made
    rw [closed]
    rcases invariant.kept call made with ⟨place, before, was, same⟩ | done
    · refine .inl ?_
      by_cases here : place = id
      · refine ⟨place, { before with wait := change before.wait }, ?_, same⟩
        rw [callbacks, Table.lookup_modify_eq, if_pos here, was]
        rfl
      · refine ⟨place, before, ?_, same⟩
        rw [callbacks, Table.lookup_modify_eq, if_neg here]
        exact was
    · exact .inr done
  · intro call member
    rw [calls]
    rw [ran] at member
    rcases List.mem_append.mp member with new | old
    · rw [ranNow_eq call new]
      exact (invariant.entry id entry found).1
    · exact invariant.ran call old

/-- An entry is erased with its call's handlers run once. -/
theorem ExchangeInvariant.erase (invariant : ExchangeInvariant now) {id : UInt8}
    {entry : Outstanding Nat} {ranNow : List Nat}
    (found : now.client.callbacks.lookup id = some entry)
    (callbacks : after.client.callbacks = now.client.callbacks.erase id)
    (calls : after.calls = now.calls) (ran : after.ran = ranNow ++ now.ran)
    (closed : after.closed = entry.handler :: now.closed)
    (ranNow_eq : ∀ call ∈ ranNow, call = entry.handler)
    (counted : ranNow.count entry.handler + (if entry.wait = .aborted then 1 else 0) = 1) :
    ExchangeInvariant after := by
  have earlier : forall place later, after.client.callbacks.lookup place = some later ->
      place ≠ id ∧ now.client.callbacks.lookup place = some later := by
    intro place later placed
    rw [callbacks, Table.lookup_erase_eq] at placed
    split at placed
    · cases placed
    · exact ⟨‹_›, placed⟩
  rcases invariant.entry id entry found with ⟨entryMade, _, entryCount⟩
  constructor
  · intro place later placed
    rcases earlier place later placed with ⟨different, was⟩
    rcases invariant.entry place later was with ⟨made, open_, count⟩
    rw [calls, closed, ran, List.count_append, count,
      invariant.count_other found ranNow_eq different was, Nat.zero_add]
    refine ⟨made, ?_, rfl⟩
    intro member
    rcases List.mem_cons.mp member with same | done
    · exact different (invariant.distinct place id later entry was found same)
    · exact open_ done
  · intro place other later otherLater placed otherPlaced same
    exact invariant.distinct place other later otherLater (earlier place later placed).2
      (earlier other otherLater otherPlaced).2 same
  · intro call done
    rw [closed] at done
    rw [calls, ran, List.count_append]
    rcases List.mem_cons.mp done with same | old
    · rw [same, entryCount]
      exact ⟨entryMade, counted⟩
    · rw [invariant.count_closed found ranNow_eq old, Nat.zero_add]
      exact invariant.closed call old
  · intro call made
    rw [calls] at made
    rw [closed]
    rcases invariant.kept call made with ⟨place, before, was, same⟩ | done
    · by_cases here : place = id
      · rw [here] at was
        refine .inr (List.mem_cons.mpr (.inl ?_))
        rw [← same, Option.some.inj (was.symm.trans found)]
      · refine .inl ⟨place, before, ?_, same⟩
        rw [callbacks, Table.lookup_erase_eq, if_neg here]
        exact was
    · exact .inr (List.mem_cons_of_mem _ done)
  · intro call member
    rw [calls]
    rw [ran] at member
    rcases List.mem_append.mp member with new | old
    · rw [ranNow_eq call new]
      exact entryMade
    · exact invariant.ran call old

/-- Every allowed step keeps the invariant. -/
theorem ExchangeInvariant.step (invariant : ExchangeInvariant now) {event : ExchangeEvent}
    (permitted : CompletesOnce md5 now event) (taken : now.step md5 dict event = some after) :
    ExchangeInvariant after := by
  cases event with
  | call call =>
      rw [← Option.some.inj taken]
      rcases makeCall_cases md5 dict call now with ⟨free, auth, sent, called⟩ | ⟨used, _⟩
      · exact invariant.insert free rfl rfl (congrArg AuthClient.callbacks called) rfl rfl rfl
      · exact absurd used permitted
  | datagram source behind datagram =>
      rcases receiveDatagram_cases taken with ⟨filled, answer, received, callbacks, _, outcome⟩
      rcases outcome with ⟨_, equal⟩ | ⟨given, entry, answered, found, id, genuine, equal⟩
      · rw [equal]
        exact invariant.of_same callbacks rfl rfl rfl
      · have armed : entry.wait = .armed := permitted entry (id ▸ found) genuine
        rw [equal]
        refine @ExchangeInvariant.modify _ _ invariant given.id Wait.cancel entry [entry.handler]
          found ?_ rfl rfl rfl (fun call member => List.mem_singleton.mp member) ?_
        · rw [← callbacks]
          rfl
        · rw [armed, List.count_singleton_self]
          rfl
  | socketError =>
      rcases receiveError_cases taken with ⟨receives, _, equal⟩
      rw [equal]
      exact invariant.of_same rfl rfl rfl rfl
  | expires id =>
      rw [← Option.some.inj taken]
      cases found : now.client.callbacks.lookup id with
      | none =>
          refine invariant.of_same ?_ rfl rfl rfl
          show Table.modify _ _ _ = _
          simp only [Table.modify, found]
      | some entry =>
          refine @ExchangeInvariant.modify _ _ invariant id Wait.expire entry [] found rfl rfl rfl rfl
            (fun call member => absurd member List.not_mem_nil) ?_
          cases entry.wait <;> rfl
  | timer id =>
      rcases expireCheck_cases taken with ⟨entry, found, ⟨aborted, equal⟩ | ⟨expired, equal⟩⟩
      · rw [equal]
        refine @ExchangeInvariant.erase _ _ invariant id entry [] found rfl rfl rfl rfl
          (fun call member => absurd member List.not_mem_nil) ?_
        rw [aborted]
        rfl
      · rw [equal]
        refine @ExchangeInvariant.erase _ _ invariant id entry [entry.handler] found rfl rfl rfl rfl
          (fun call member => List.mem_singleton.mp member) ?_
        rw [expired, List.count_singleton_self]
        rfl

/-- A client as it is constructed. -/
structure Fresh (now : Exchange) : Prop where
  callbacks : now.client.callbacks = ∅
  calls : now.calls = 0
  ran : now.ran = []
  closed : now.closed = []
  destinations : now.destinations = []

instance (now : Exchange) : Decidable now.Fresh :=
  decidable_of_iff
    (now.client.callbacks.entries = [] ∧ now.calls = 0 ∧ now.ran = [] ∧ now.closed = [] ∧
      now.destinations = [])
    ⟨fun parts => ⟨AList.ext parts.1, parts.2.1, parts.2.2.1, parts.2.2.2.1, parts.2.2.2.2⟩,
      fun fresh => ⟨congrArg AList.entries fresh.callbacks, fresh.calls, fresh.ran, fresh.closed,
        fresh.destinations⟩⟩

theorem Fresh.exchangeInvariant (fresh : now.Fresh) : ExchangeInvariant now := by
  constructor
  · intro id entry found
    rw [fresh.callbacks, Table.lookup_empty] at found
    cases found
  · intro id other entry otherEntry found
    rw [fresh.callbacks, Table.lookup_empty] at found
    cases found
  · intro call done
    rw [fresh.closed] at done
    exact absurd done List.not_mem_nil
  · intro call made
    rw [fresh.calls] at made
    exact absurd made (Nat.not_lt_zero call)
  · intro call member
    rw [fresh.ran] at member
    exact absurd member List.not_mem_nil

/-- **One of the handlers, once.**  While every call finds its identifier free
and every answer finds the timer of its request armed, a call's handlers are run
at most once, and exactly once when its timer is done. -/
theorem exactlyOnce_of_run {start : Exchange} (fresh : start.Fresh)
    {past : List (Exchange × ExchangeEvent)}
    (run : Run (step md5 dict) (CompletesOnce md5) start past now) : ExactlyOnce now :=
  ExchangeInvariant.exactlyOnce (run.invariant fresh.exchangeInvariant
    (fun _ _ _ invariant permitted taken => invariant.step permitted taken))

/-! ## Small exchanges -/

/-- A client with a server. -/
def sample : Exchange where
  client := { secret := AAA.sampleSecret }
  endpoint := { address := 1, port := 1812 }

def sampleCall : ExchangeEvent :=
  .call (.acctRequest { sessionId := [], username := [], nasId := [], acctStatusType := .start })

/-- The answer of the server to a request that was sent in a state, by its
number. -/
def answer (now : Exchange) (number : Nat) : ExchangeEvent :=
  .datagram now.endpoint (fun _ => 0) (AAA.answerFor (some now.client) number RadiusCode.accessAccept)

/-- Two calls have been made. -/
def sampleCalled : Exchange :=
  Foundation.after (step MD5.digest {}) sample [sampleCall, sampleCall] (by decide +kernel)

/-- The first of two calls is answered, and the second is not. -/
def completedSamples : List ExchangeEvent :=
  [sampleCall, sampleCall, sampleCalled.answer 0, .timer 1, .expires 2, .timer 2]

theorem exactlyOnce_completed :
    ExactlyOnce (Foundation.after (step MD5.digest {}) sample completedSamples (by decide +kernel)) := by
  rcases run_after (step MD5.digest {}) (CompletesOnce MD5.digest) sample completedSamples
    (by decide +kernel) (by decide +kernel) with ⟨past, run⟩
  exact exactlyOnce_of_run (by decide) run

/-- An answer that comes twice runs the response handler twice, because the
entry of its request is erased later. -/
theorem duplicate_runs_twice :
    ¬ forall now, Reachable (step MD5.digest {}) sample now -> ExactlyOnce now := by
  intro always
  have once := (always _ (reachable_after (step MD5.digest {}) sample
    [sampleCall, sampleCall, sampleCalled.answer 0, sampleCalled.answer 0] (by decide +kernel))).once 0
  exact absurd once (by decide +kernel)

end Exchange

end Pppcpd
