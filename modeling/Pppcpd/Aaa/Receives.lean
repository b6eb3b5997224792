import Pppcpd.Aaa.Exchange

namespace Pppcpd

open Foundation

/-!
# The socket of a client

A receive is started by a send and ended by whatever arrives.  A datagram that
is ignored ends one and starts none, so the receives can run out before the
answers have come.  The address that a datagram came from is stored in the
object that holds the address of the server.
-/

namespace Exchange

variable {md5 : Bytes -> Bytes} {dict : RadiusDict} {now after start : Exchange}
  {past : List (Exchange × ExchangeEvent)}

/-! ## Armed receives -/

/-- The request of an identifier is in the table, and none of its handlers was
run. -/
def Unanswered (now : Exchange) (id : UInt8) (entry : Outstanding Nat) : Prop :=
  now.client.callbacks.lookup id = some entry ∧ entry.handler ∉ now.ran

/-- The outstanding requests all have a property. -/
def AllUnanswered (now : Exchange) (holds : UInt8 -> Outstanding Nat -> Prop) : Prop :=
  forall id entry, now.Unanswered id entry -> holds id entry

instance (now : Exchange) (holds : UInt8 -> Outstanding Nat -> Prop)
    [forall id entry, Decidable (holds id entry)] : Decidable (now.AllUnanswered holds) :=
  decidable_of_iff
    (∀ slot ∈ now.client.callbacks.entries, slot.2.handler ∉ now.ran -> holds slot.1 slot.2)
    ⟨fun all id entry unanswered =>
      all ⟨id, entry⟩ (Table.lookup_eq_some_iff_mem_entries.mp unanswered.1) unanswered.2,
    fun all slot listed unanswered =>
      all slot.1 slot.2 ⟨Table.lookup_eq_some_iff_mem_entries.mpr listed, unanswered⟩⟩

/-- While a request is outstanding a receive is armed, so an answer that passes
the checks runs a handler of its request. -/
structure Attentive (md5 : Bytes -> Bytes) (now : Exchange) : Prop where
  armed : now.AllUnanswered (fun _ _ => 0 < now.client.receives)
  processed : forall source behind datagram, now.AllUnanswered (fun id entry =>
    (now.client.received behind datagram).read 1 = id ->
    AuthClient.Genuine md5 now.client.secret entry.auth (now.client.received behind datagram) ->
    ∃ after, now.receiveDatagram md5 source behind datagram = some after ∧ entry.handler ∈ after.ran)

/-- The last armed receive ends with the answer for the only request that is
outstanding, or nothing is outstanding then. -/
def LastForAnswer (md5 : Bytes -> Bytes) (now : Exchange) : ExchangeEvent -> Prop
  | .datagram _ behind datagram =>
      now.client.receives = 1 -> now.AllUnanswered (fun id entry =>
        (now.client.received behind datagram).read 1 = id ∧
        AuthClient.Genuine md5 now.client.secret entry.auth (now.client.received behind datagram))
  | .socketError => now.client.receives = 1 -> now.AllUnanswered (fun _ _ => False)
  | _ => True

instance (md5 : Bytes -> Bytes) (now : Exchange) (event : ExchangeEvent) :
    Decidable (LastForAnswer md5 now event) := by
  induction event using ExchangeEvent.casesOn <;> unfold LastForAnswer <;> infer_instance

/-- Changing the wait of an entry keeps the handlers of the table. -/
theorem lookup_of_modify_wait {Handler : Type} {id place : UInt8} {change : Wait -> Wait}
    {callbacks : Table UInt8 (Outstanding Handler)} {later : Outstanding Handler}
    (placed : (Table.modify id (fun entry => { entry with wait := change entry.wait })
      callbacks).lookup place = some later) :
    ∃ before, callbacks.lookup place = some before ∧ later.handler = before.handler := by
  rw [Table.lookup_modify_eq] at placed
  split at placed
  · rcases Option.map_eq_some_iff.mp placed with ⟨before, was, changed⟩
    exact ⟨before, was, changed ▸ rfl⟩
  · exact ⟨later, placed, rfl⟩

/-- A step that ends no receive, and adds no entry, keeps the receives armed. -/
theorem armed_of_fewer (armed : now.AllUnanswered (fun _ _ => 0 < now.client.receives))
    (fewer : forall id entry, after.Unanswered id entry ->
      now.client.receives ≤ after.client.receives ∧ ∃ before, now.Unanswered id before) :
    after.AllUnanswered (fun _ _ => 0 < after.client.receives) := by
  intro id entry unanswered
  rcases fewer id entry unanswered with ⟨more, before, was⟩
  exact Nat.lt_of_lt_of_le (armed id before was) more

theorem armed_step {event : ExchangeEvent}
    (armed : now.AllUnanswered (fun _ _ => 0 < now.client.receives))
    (permitted : LastForAnswer md5 now event) (taken : now.step md5 dict event = some after) :
    after.AllUnanswered (fun _ _ => 0 < after.client.receives) := by
  cases event with
  | call call =>
      rw [← Option.some.inj taken]
      rcases makeCall_cases md5 dict call now with ⟨_, auth, sent, called⟩ | ⟨_, called⟩
      · intro id entry _
        rw [called]
        exact Nat.succ_pos _
      · apply armed_of_fewer armed
        rintro id entry ⟨found, unanswered⟩
        rw [called] at found ⊢
        exact ⟨Nat.le_refl _, entry, found, unanswered⟩
  | datagram source behind datagram =>
      rcases receiveDatagram_cases taken with ⟨filled, answer, received, callbacks, ended, outcome⟩
      -- The last receive ended only when `filled` has none left.
      have last : filled.receives = 0 -> now.client.receives = 1 := by
        intro none
        rw [ended, none]
      rcases outcome with ⟨ignored, equal⟩ | ⟨given, entry, answered, found, same, _, equal⟩
      · rw [equal]
        rintro id entry ⟨found, unanswered⟩
        apply Nat.pos_of_ne_zero
        intro none
        rw [callbacks] at found
        rcases permitted (last none) id entry ⟨found, unanswered⟩ with ⟨place, genuine⟩
        rcases AuthClient.onRcv_of_genuine (by rw [last none]; exact Nat.one_pos)
          (place ▸ found) genuine with ⟨other, given, accepted, _⟩
        rw [received, ignored] at accepted
        cases (Prod.mk.inj (Option.some.inj accepted)).2
      · rw [equal]
        rintro id later ⟨placed, unanswered⟩
        apply Nat.pos_of_ne_zero
        intro none
        rcases lookup_of_modify_wait placed with ⟨before, was, handler⟩
        rw [callbacks] at was
        rw [handler] at unanswered
        have unansweredBefore : before.handler ∉ now.ran :=
          fun member => unanswered (List.mem_cons_of_mem _ member)
        rcases permitted (last none) id before ⟨was, unansweredBefore⟩ with ⟨place, _⟩
        rw [← place, ← same, found] at was
        exact unanswered (Option.some.inj was ▸ List.mem_cons_self)
  | socketError =>
      rcases receiveError_cases taken with ⟨receives, started, equal⟩
      rw [equal]
      rintro id entry unanswered
      apply Nat.pos_of_ne_zero
      intro none
      have last : now.client.receives = 1 := by
        rw [started, show receives = 0 from none]
      exact permitted last id entry unanswered
  | expires id =>
      rw [← Option.some.inj taken]
      apply armed_of_fewer armed
      rintro place later ⟨placed, unanswered⟩
      rcases lookup_of_modify_wait placed with ⟨before, was, handler⟩
      exact ⟨Nat.le_refl _, before, was, handler ▸ unanswered⟩
  | timer id =>
      -- The socket is cancelled with the last entry of the table only.
      have kept : forall place later, (now.client.eraseEntry id).callbacks.lookup place = some later ->
          now.client.receives ≤ (now.client.eraseEntry id).receives ∧
            now.client.callbacks.lookup place = some later := by
        intro place later placed
        have rest : (now.client.callbacks.erase id).lookup place = some later := placed
        have some_ : (now.client.callbacks.erase id).keys ≠ [] :=
          List.ne_nil_of_mem (Table.mem_iff_lookup.mpr ⟨later, rest⟩)
        rw [Table.lookup_erase_eq] at rest
        split at rest
        · cases rest
        · refine ⟨?_, rest⟩
          unfold AuthClient.eraseEntry
          dsimp only
          rw [if_neg some_]
      rcases expireCheck_cases taken with ⟨entry, found, ⟨_, equal⟩ | ⟨_, equal⟩⟩
      · rw [equal]
        apply armed_of_fewer armed
        rintro place later ⟨placed, unanswered⟩
        exact ⟨(kept place later placed).1, later, (kept place later placed).2, unanswered⟩
      · rw [equal]
        apply armed_of_fewer armed
        rintro place later ⟨placed, unanswered⟩
        exact ⟨(kept place later placed).1, later, (kept place later placed).2,
          fun member => unanswered (List.mem_cons_of_mem _ member)⟩

/-- A receive that is armed hands on a genuine answer. -/
theorem Attentive.of_armed (armed : now.AllUnanswered (fun _ _ => 0 < now.client.receives)) :
    Attentive md5 now where
  armed := armed
  processed := by
    intro source behind datagram id entry unanswered same genuine
    rcases AuthClient.onRcv_of_genuine (armed id entry unanswered) (same ▸ unanswered.1) genuine with
      ⟨filled, given, accepted, _, handler⟩
    refine ⟨_, by unfold receiveDatagram; rw [accepted]; rfl, ?_⟩
    rw [← handler]
    exact List.mem_cons_self

/-- **A request is listened for.**  While the last armed receive is not used up
for anything but the last outstanding answer, a receive is armed as long as a
request is outstanding, and its answer is processed. -/
theorem attentive_of_run (fresh : start.Fresh)
    (run : Run (step md5 dict) (LastForAnswer md5) start past now) : Attentive md5 now := by
  apply Attentive.of_armed
  apply run.invariant
  · rintro id entry ⟨found, _⟩
    rw [fresh.callbacks, Table.lookup_empty] at found
    cases found
  · exact fun _ _ _ armed permitted taken => armed_step armed permitted taken

/-- A third call is made before the answer to the second one can come. -/
theorem attentive_answered :
    Attentive MD5.digest (Foundation.after (step MD5.digest {}) sample
      [sampleCall, sampleCall, sampleCalled.answer 0, sampleCall, .timer 1] (by decide +kernel)) := by
  rcases run_after (step MD5.digest {}) (LastForAnswer MD5.digest) sample
    [sampleCall, sampleCall, sampleCalled.answer 0, sampleCall, .timer 1]
    (by decide +kernel) (by decide +kernel) with ⟨past, run⟩
  exact attentive_of_run (by decide) run

/-- A datagram with a strange identifier. -/
def strangeDatagram (source : Endpoint) : ExchangeEvent :=
  .datagram source (fun _ => 0) [RadiusCode.accessAccept, 9]

/-- One datagram that is ignored leaves a request without a receive. -/
theorem ignored_leaves_no_receive :
    ¬ forall now, Reachable (step MD5.digest {}) sample now -> Attentive MD5.digest now := by
  intro always
  have armed := (always _ (reachable_after (step MD5.digest {}) sample
    [sampleCall, strangeDatagram sample.endpoint] (by decide +kernel))).armed
  exact absurd armed (by decide +kernel)

/-! ## The address of the server -/

/-- The address that the last datagram of a record came from, and the address of
the server when there was none. -/
def lastSource (server : Endpoint) : List (Exchange × ExchangeEvent) -> Endpoint
  | [] => server
  | (_, .datagram source _ _) :: _ => source
  | _ :: earlier => lastSource server earlier

/-- At every call of a record that sends a request, the last datagram came from
the server. -/
def CallsBehindServer (server : Endpoint) : List (Exchange × ExchangeEvent) -> Prop
  | [] => True
  | (now, .call _) :: earlier =>
      (now.client.lastId + 1 ∉ now.client.callbacks -> lastSource server earlier = server) ∧
        CallsBehindServer server earlier
  | _ :: earlier => CallsBehindServer server earlier

/-- Only a datagram changes the endpoint, to its source. -/
theorem endpoint_step {event : ExchangeEvent} (taken : now.step md5 dict event = some after) :
    after.endpoint = lastSource now.endpoint [(now, event)] := by
  cases event with
  | call call =>
      rw [← Option.some.inj taken]
      rfl
  | datagram source behind datagram =>
      rcases receiveDatagram_cases taken with ⟨_, _, _, _, _, ⟨_, equal⟩ | ⟨_, _, _, _, _, _, equal⟩⟩
      · rw [equal]
        rfl
      · rw [equal]
        rfl
  | socketError =>
      rcases receiveError_cases taken with ⟨receives, _, equal⟩
      rw [equal]
      rfl
  | expires id =>
      rw [← Option.some.inj taken]
      rfl
  | timer id =>
      rcases expireCheck_cases taken with ⟨_, _, ⟨_, equal⟩ | ⟨_, equal⟩⟩
      · rw [equal]
        rfl
      · rw [equal]
        rfl

/-- Only a call sends, to the endpoint of its state. -/
theorem destinations_step {event : ExchangeEvent} (taken : now.step md5 dict event = some after) :
    (∃ call, event = .call call ∧ now.client.lastId + 1 ∉ now.client.callbacks ∧
      after.destinations = now.endpoint :: now.destinations) ∨
    (forall call, event = .call call -> now.client.lastId + 1 ∈ now.client.callbacks) ∧
      after.destinations = now.destinations := by
  cases event with
  | call call =>
      rw [← Option.some.inj taken]
      by_cases used : now.client.lastId + 1 ∈ now.client.callbacks
      · exact .inr ⟨fun _ _ => used, if_pos used⟩
      · exact .inl ⟨call, rfl, used, if_neg used⟩
  | datagram source behind datagram =>
      refine .inr ⟨fun _ impossible => (by cases impossible), ?_⟩
      rcases receiveDatagram_cases taken with ⟨_, _, _, _, _, ⟨_, equal⟩ | ⟨_, _, _, _, _, _, equal⟩⟩
      · rw [equal]
      · rw [equal]
  | socketError =>
      refine .inr ⟨fun _ impossible => (by cases impossible), ?_⟩
      rcases receiveError_cases taken with ⟨receives, _, equal⟩
      rw [equal]
  | expires id =>
      refine .inr ⟨fun _ impossible => (by cases impossible), ?_⟩
      rw [← Option.some.inj taken]
  | timer id =>
      refine .inr ⟨fun _ impossible => (by cases impossible), ?_⟩
      rcases expireCheck_cases taken with ⟨_, _, ⟨_, equal⟩ | ⟨_, equal⟩⟩
      · rw [equal]
      · rw [equal]

/-- The endpoint is the source of the last datagram. -/
theorem endpoint_of_run (run : Run (step md5 dict) anyStep start past now) :
    now.endpoint = lastSource start.endpoint past := by
  induction run with
  | start => rfl
  | next _earlier _permitted taken inductionHypothesis =>
      rename_i event
      rw [endpoint_step taken]
      cases event with
      | datagram source behind datagram => rfl
      | call _ => exact inductionHypothesis
      | socketError => exact inductionHypothesis
      | expires _ => exact inductionHypothesis
      | timer _ => exact inductionHypothesis

/-- **Where requests go.**  Every request is sent to the server exactly when, at
each of them, the last datagram that was received came from the server. -/
theorem destinations_iff (fresh : start.Fresh)
    (run : Run (step md5 dict) anyStep start past now) :
    (∀ destination ∈ now.destinations, destination = start.endpoint) ↔
      CallsBehindServer start.endpoint past := by
  induction run with
  | start =>
      rw [fresh.destinations]
      exact ⟨fun _ => trivial, fun _ destination member => absurd member List.not_mem_nil⟩
  | next earlier _permitted taken inductionHypothesis =>
      rename_i past now after event
      rcases destinations_step taken with ⟨call, called, free, sent⟩ | ⟨used, same⟩
      · rw [sent, called, List.forall_mem_cons, inductionHypothesis, endpoint_of_run earlier]
        exact ⟨fun both => ⟨fun _ => both.1, both.2⟩, fun both => ⟨both.1 free, both.2⟩⟩
      · rw [same, inductionHypothesis]
        cases event with
        | call call => exact ⟨fun rest => ⟨fun free => absurd (used call rfl) free, rest⟩, And.right⟩
        | datagram _ _ _ => exact Iff.rfl
        | socketError => exact Iff.rfl
        | expires _ => exact Iff.rfl
        | timer _ => exact Iff.rfl

/-- A run with a datagram of the server between two calls. -/
theorem destinations_answered : ∃ past now,
    Run (step MD5.digest {}) anyStep sample past now ∧
      ((∀ destination ∈ now.destinations, destination = sample.endpoint) ↔
        CallsBehindServer sample.endpoint past) := by
  rcases run_after (step MD5.digest {}) anyStep sample
    [sampleCall, strangeDatagram sample.endpoint, sampleCall] (by decide +kernel)
    (permitted_anyStep _ _ _) with ⟨past, run⟩
  exact ⟨past, _, run, destinations_iff (by decide) run⟩

/-- A datagram from a stranger, whatever is in it, takes the next request to the
stranger. -/
theorem stranger_gets_request :
    ¬ forall now, Reachable (step MD5.digest {}) sample now ->
      ∀ destination ∈ now.destinations, destination = sample.endpoint := by
  intro always
  have destinations := always _ (reachable_after (step MD5.digest {}) sample
    [sampleCall, strangeDatagram { address := 7, port := 9 }, sampleCall] (by decide +kernel))
  exact absurd destinations (by decide +kernel)

end Exchange

end Pppcpd
