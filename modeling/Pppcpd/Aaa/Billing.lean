import Pppcpd.Aaa.Accounting
import Pppcpd.Aaa.Idle

namespace Pppcpd

open Foundation

/-!
# The ids of accounting sessions

An accounting record carries the id of its session in the table, written out.
The table hands out the lowest free id, also one that records were sent under
before.  As long as no accounted session gets such an id, the records of
different sessions have different ids.
-/

namespace AAA

/-- The accounting requests that were sent, oldest first. -/
def records (aaa : AAA) : List (SentRequest AcctRequest AcctHandler) :=
  match aaa.acct with
  | none => []
  | some client => client.sent

/-- The `Acct-Session-Id` of a session. -/
def acctSessionId (sid : UInt32) : Bytes := ascii ("session_" ++ toString sid.toNat)

theorem acctSessionId_inj {first second : UInt32} (same : acctSessionId first = acctSessionId second) :
    first = second := by
  unfold acctSessionId at same
  rw [ascii_append, ascii_append] at same
  exact UInt32.toNat_inj.mp (ascii_toString_inj (List.append_cancel_left same))

/-- Records with one id are of one session. -/
def SeparateBills (aaa : AAA) : Prop :=
  ∀ first ∈ aaa.records, ∀ second ∈ aaa.records,
    first.request.sessionId = second.request.sessionId ->
      first.handler.session = second.handler.session

instance (aaa : AAA) : Decidable aaa.SeparateBills :=
  inferInstanceAs (Decidable (∀ first ∈ aaa.records, _))

/-- No record was sent under an id. -/
def UnusedId (aaa : AAA) (sid : UInt32) : Prop :=
  ∀ record ∈ aaa.records, record.request.sessionId ≠ acctSessionId sid

instance (aaa : AAA) (sid : UInt32) : Decidable (aaa.UnusedId sid) :=
  inferInstanceAs (Decidable (∀ record ∈ aaa.records, _))

/-- The next session gets an id that no record was sent under. -/
def NextUnused (aaa : AAA) : Prop := ∀ sid ∈ aaa.firstFreeId, aaa.UnusedId sid

-- There is one id to look at, not all of them.
instance (aaa : AAA) : Decidable aaa.NextUnused := Option.decidableForallMem aaa.firstFreeId

/-- A record of the session object was sent. -/
def Billed (aaa : AAA) (ref : Nat) : Prop :=
  ∃ record ∈ aaa.records, record.handler.session = ref

/-- What makes records separate: they carry the ids of their objects, requests
and interim waits are only there for objects with a record, and an accounted
entry does not share its id with the record of another object. -/
structure Billing (aaa : AAA) : Prop where
  separate : aaa.SeparateBills
  named : ∀ record ∈ aaa.records, ∃ session,
    aaa.objects.deref record.handler.session = some session ∧
      record.request.sessionId = acctSessionId session.sessionId
  waits : forall ref session, aaa.objects.deref ref = some session -> session.timer ≠ [] ->
    aaa.Billed ref
  requests : forall handler, aaa.Accounts handler -> aaa.Billed handler.session
  own : forall sid ref session, aaa.sessions.lookup sid = some ref ->
    aaa.objects.deref ref = some session -> session.acct = true ->
      ∀ record ∈ aaa.records, record.request.sessionId = acctSessionId sid ->
        record.handler.session = ref

namespace Billing

variable {aaa : AAA}

/-- A change of neither the objects nor the accounting client that at most takes
entries away. -/
theorem of_fewer {before after : AAA} (billing : Billing before)
    (objects : forall ref, after.objects.deref ref = before.objects.deref ref)
    (acct : after.acct = before.acct)
    (fewer : forall sid ref, after.sessions.lookup sid = some ref ->
      before.sessions.lookup sid = some ref) : Billing after := by
  have records : after.records = before.records := by
    unfold AAA.records
    rw [acct]
  constructor
  · unfold SeparateBills
    rw [records]
    exact billing.separate
  · simp only [records, objects]
    exact billing.named
  · unfold Billed
    simp only [objects, records]
    exact billing.waits
  · unfold Billed Accounts
    rw [records, acct]
    exact billing.requests
  · intro sid ref session found present
    rw [records]
    rw [objects] at present
    exact billing.own sid ref session (fewer sid ref found) present

/-- A change of the accounting client that sends nothing and adds no request. -/
theorem client {before after : AuthClient AcctRequest AcctHandler} (billing : Billing aaa)
    (present : aaa.acct = some before) (sent : after.sent = before.sent)
    (fewer : forall handler, after.Holds handler -> before.Holds handler) :
    Billing { aaa with acct := some after } := by
  have records : AAA.records { aaa with acct := some after } = aaa.records := by
    unfold AAA.records
    rw [present]
    exact sent
  constructor
  · unfold SeparateBills
    rw [records]
    exact billing.separate
  · rw [records]
    exact billing.named
  · unfold Billed
    rw [records]
    exact billing.waits
  · unfold Billed
    rw [records]
    rintro handler ⟨now, is, holds⟩
    rw [← Option.some.inj is] at holds
    exact billing.requests handler ⟨before, present, fewer handler holds⟩
  · rw [records]
    exact billing.own

/-- A change of an object with a record, or one that starts no wait. -/
theorem updateObject (billing : Billing aaa) (ref : Nat) {change : AAASession -> AAASession}
    (id : forall session, (change session).sessionId = session.sessionId)
    (accounted : forall session, (change session).acct = session.acct)
    (waits : aaa.Billed ref ∨ forall session, (change session).timer ≠ [] -> session.timer ≠ []) :
    Billing (aaa.updateObject ref change) := by
  have earlier : forall place session, (aaa.updateObject ref change).objects.deref place = some session ->
      ∃ old, aaa.objects.deref place = some old ∧ session.acct = old.acct ∧
        (session.timer ≠ [] -> place = ref ∧ aaa.Billed ref ∨ old.timer ≠ []) := by
    intro place session present
    unfold AAA.updateObject at present
    dsimp only at present
    rw [Heap.deref_update] at present
    split at present
    · rename_i here
      rcases Option.map_eq_some_iff.mp present with ⟨old, found, changed⟩
      rw [← changed]
      refine ⟨old, found, accounted old, fun some_ => ?_⟩
      rcases waits with billed | starts
      · exact .inl ⟨here, billed⟩
      · exact .inr (starts old some_)
    · exact ⟨session, present, rfl, fun some_ => .inr some_⟩
  constructor
  · exact billing.separate
  · intro record member
    rcases billing.named record member with ⟨session, present, same⟩
    unfold AAA.updateObject
    dsimp only
    rw [Heap.deref_update]
    split
    · rw [present]
      exact ⟨change session, rfl, by rw [id]; exact same⟩
    · exact ⟨session, present, same⟩
  · intro place session present some_
    rcases earlier place session present with ⟨old, found, _, either⟩
    rcases either some_ with ⟨here, billed⟩ | before
    · rw [here]
      exact billed
    · exact billing.waits place old found before
  · exact billing.requests
  · intro sid place session found present isAccounted
    rcases earlier place session present with ⟨old, was, same, _⟩
    exact billing.own sid place old found was (same ▸ isAccounted)

theorem cancel (billing : Billing aaa) (ref : Nat) :
    Billing (aaa.updateObject ref (onTimer Timer.cancel)) := by
  refine billing.updateObject ref (fun _ => rfl) (fun _ => rfl) (.inr (fun session some_ => ?_))
  intro none
  rw [onTimer, none] at some_
  exact some_ rfl

theorem eraseWait (billing : Billing aaa) (ref index : Nat) :
    Billing (aaa.updateObject ref (onTimer (fun timer => timer.eraseIdx index))) := by
  refine billing.updateObject ref (fun _ => rfl) (fun _ => rfl) (.inr (fun session some_ => ?_))
  intro none
  rw [onTimer, none] at some_
  exact some_ rfl

theorem collect (billing : Billing aaa) (ref : Nat) : Billing (aaa.collect ref) := by
  apply billing.of_fewer (fun other => deref_collect aaa ref other) (collect_acct aaa ref)
  intro sid other found
  rw [collect_sessions] at found
  exact found

theorem foldl_collect (refs : List Nat) (billing : Billing aaa) :
    Billing (refs.foldl (fun aaa ref => aaa.collect ref) aaa) := by
  induction refs generalizing aaa with
  | nil => exact billing
  | cons ref rest inductionHypothesis => exact inductionHypothesis (billing.collect ref)

/-- A record for an object that has records, or that is entered. -/
theorem acctRequest (billing : Billing aaa) (entered : Entered aaa) {ref : Nat}
    {session : AAASession} (present : aaa.objects.deref ref = some session) (status : AcctStatus)
    (counters : Option VPPIfaceCounters)
    (licensed : aaa.Billed ref ∨ session.acct = true ∧ ∃ sid, aaa.sessions.lookup sid = some ref) :
    Billing (aaa.acctRequest (acctRecord session status counters)
      { status := status, session := ref }) := by
  -- Whatever was sent under the id of the object was sent for it.
  have own : ∀ record ∈ aaa.records,
      record.request.sessionId = acctSessionId session.sessionId -> record.handler.session = ref := by
    intro record member same
    rcases licensed with ⟨other, otherMember, isRef⟩ | ⟨isAccounted, sid, found⟩
    · rcases billing.named other otherMember with ⟨object, is, id⟩
      rw [isRef, present] at is
      rw [← isRef]
      refine billing.separate record member other otherMember ?_
      rw [same, id, Option.some.inj is]
    · have named := entered.named sid ref found
      rw [present] at named
      have isSid : session.sessionId = sid := Option.some.inj named
      rw [isSid] at same
      exact billing.own sid ref session found present isAccounted record member same
  unfold AAA.acctRequest
  cases acct : aaa.acct with
  | none => exact billing.of_fewer (fun _ => rfl) acct.symm (fun _ _ found => found)
  | some client =>
      dsimp only [Option.map_some]
      rcases client.acctRequest_cases aaa.md5 aaa.dict (acctRecord session status counters)
        { status := status, session := ref } with ⟨auth, bytes, _, sent⟩ | dropped
      · have records : aaa.records = client.sent := by
          unfold AAA.records
          rw [acct]
        rw [sent]
        -- The records of the new state are the old ones and the one that is sent.
        have cases : forall record, record ∈ client.sent ++ [{
            request := acctRecord session status counters
            handler := ({ status := status, session := ref } : AcctHandler), bytes := bytes }] ->
            record ∈ aaa.records ∨ record.handler.session = ref ∧
              record.request.sessionId = acctSessionId session.sessionId := by
          intro record member
          rcases List.mem_append.mp member with old | new
          · exact .inl (records ▸ old)
          · rw [List.mem_singleton.mp new]
            exact .inr ⟨rfl, rfl⟩
        have billed : forall place, aaa.Billed place -> ∃ record ∈ client.sent ++ [{
            request := acctRecord session status counters
            handler := ({ status := status, session := ref } : AcctHandler), bytes := bytes }],
            record.handler.session = place := by
          rintro place ⟨record, member, same⟩
          rw [records] at member
          exact ⟨record, List.mem_append_left _ member, same⟩
        constructor
        · intro first firstMember second secondMember same
          rcases cases first firstMember with old | ⟨isRef, id⟩
          · rcases cases second secondMember with otherOld | ⟨otherRef, otherId⟩
            · exact billing.separate first old second otherOld same
            · rw [otherRef]
              exact own first old (same.trans otherId)
          · rcases cases second secondMember with otherOld | ⟨otherRef, _⟩
            · rw [isRef]
              exact (own second otherOld (same.symm.trans id)).symm
            · rw [isRef, otherRef]
        · intro record member
          rcases cases record member with old | ⟨isRef, id⟩
          · exact billing.named record old
          · rw [isRef]
            exact ⟨session, present, id⟩
        · intro place object there some_
          exact billed place (billing.waits place object there some_)
        · rintro handler ⟨now, is, id, entry, found, same⟩
          rw [← Option.some.inj is] at found
          dsimp only at found
          rw [Table.lookup_insert_eq] at found
          split at found
          · rw [← same, ← Option.some.inj found]
            exact ⟨_, List.mem_append_right _ (List.mem_singleton.mpr rfl), rfl⟩
          · exact billed _ (billing.requests handler ⟨client, acct, id, entry, found, same⟩)
        · intro sid place object found there isAccounted record member same
          rcases cases record member with old | ⟨isRef, id⟩
          · exact billing.own sid place object found there isAccounted record old same
          · have isSid : session.sessionId = sid := acctSessionId_inj (id.symm.trans same)
            rw [isRef]
            rcases licensed with ⟨other, otherMember, otherRef⟩ | ⟨_, otherSid, otherFound⟩
            · rcases billing.named other otherMember with ⟨known, is, otherId⟩
              rw [otherRef, present] at is
              rw [← otherRef]
              refine billing.own sid place object found there isAccounted other otherMember ?_
              rw [otherId, ← Option.some.inj is, isSid]
            · have named := entered.named otherSid ref otherFound
              rw [present] at named
              have isOther : session.sessionId = otherSid := Option.some.inj named
              rw [← isOther, isSid, found] at otherFound
              exact (Option.some.inj otherFound).symm
      · rw [dropped]
        exact billing.client acct rfl (fun _ holds => holds)

/-- The record of an entered session, if it is accounted. -/
theorem stop (billing : Billing aaa) (entered : Entered aaa) {sid : UInt32} {ref : Nat}
    (counters : Table UInt32 VPPIfaceCounters) (found : aaa.sessions.lookup sid = some ref) :
    Billing (aaa.stop counters ref) := by
  unfold AAA.stop
  split
  · exact billing
  · rename_i session present
    dsimp only
    have cancelled := billing.cancel ref
    split
    · rename_i isAccounted
      have there : (aaa.updateObject ref (onTimer Timer.cancel)).objects.deref ref =
          some (onTimer Timer.cancel session) := by
        unfold AAA.updateObject
        dsimp only
        rw [Heap.deref_update, if_pos rfl, present]
        rfl
      exact cancelled.acctRequest ((Grows.onTimer aaa ref Timer.cancel).entered entered) there .stop
        (counters.lookup session.ifindex) (.inr ⟨isAccounted, sid, found⟩)
    · exact cancelled

theorem foldl_stop (billing : Billing aaa) (entered : Entered aaa)
    (counters : Table UInt32 VPPIfaceCounters) (refs : List Nat)
    (held : ∀ ref ∈ refs, aaa.sessions.Holds ref) :
    Billing (refs.foldl (fun aaa ref => aaa.stop counters ref) aaa) := by
  induction refs generalizing aaa with
  | nil => exact billing
  | cons ref rest inductionHypothesis =>
      rcases held ref List.mem_cons_self with ⟨sid, found⟩
      refine inductionHypothesis (billing.stop entered counters found)
        ((Grows.stop aaa counters ref).entered entered) (fun other member => ?_)
      rcases held other (List.mem_cons_of_mem _ member) with ⟨otherSid, otherFound⟩
      refine ⟨otherSid, ?_⟩
      rw [stop_sessions]
      exact otherFound

/-- A new session, which is not accounted or gets an id without records. -/
theorem enter {accounted : Bool} (billing : Billing aaa) (entered : Entered aaa) {sid : UInt32}
    {made : AAA} (construction : BuiltAs accounted sid aaa made)
    (fresh : accounted = false ∨ aaa.UnusedId sid) :
    Billing (made.enter sid aaa.objects.length) := by
  rcases construction with ⟨added, pools, ⟨idle, _⟩, ⟨flag, _⟩, equal⟩
  rw [equal]
  unfold AAA.enter
  dsimp only [makeObject]
  have objects : forall place object, aaa.objects.deref place = some object ->
      (aaa.objects.make added).deref place = some object := by
    intro place object present
    rw [Heap.deref_make_of_lt _ (Heap.lt_length_of_deref present)]
    exact present
  constructor
  · exact billing.separate
  · intro record member
    rcases billing.named record member with ⟨session, present, same⟩
    exact ⟨session, objects _ session present, same⟩
  · intro place session present some_
    dsimp only at present
    rw [Heap.deref_make] at present
    split at present
    · rw [← Option.some.inj present] at some_
      exact absurd idle some_
    · exact billing.waits place session present some_
  · exact billing.requests
  · intro other place session found present isAccounted record member same
    dsimp only at found present
    rw [Table.lookup_insert_eq] at found
    split at found
    · rename_i isSid
      rcases fresh with unaccounted | unused
      · rw [← Option.some.inj found, Heap.deref_make_self] at present
        rw [← Option.some.inj present, flag, unaccounted] at isAccounted
        cases isAccounted
      · rw [isSid] at same
        exact absurd same (unused record member)
    · rw [Heap.deref_make_of_lt _ (entered.made other place found)] at present
      exact billing.own other place session found present isAccounted record member same

/-- Sessions that the methods start have no records, and a server is only asked. -/
theorem startByMethods {inputs : AAAInputs} {user : Bytes} {credential : Credential}
    {encap : Encapsulation} {callback : AAACallback} {methods : List AAAMethod}
    {out : AAA × List CallbackCall} (billing : Billing aaa) (entered : Entered aaa)
    (started : AAA.startByMethods inputs user credential encap callback methods aaa = some out) :
    Billing out.1 := by
  have both := @startByMethods_induction (fun aaa => Billing aaa ∧ Entered aaa) _ _ _ _ _ _ _ _
    (fun aaa client here => ⟨here.1.of_fewer (fun _ => rfl) rfl (fun _ _ found => found),
      (Grows.auth aaa client).entered here.2⟩)
    (fun aaa sid _ made here free construction =>
      ⟨here.1.enter here.2 (builtAs_constructNone construction) (.inl rfl),
        (Grows.enter free (built_constructNone construction)).entered here.2⟩)
    ⟨billing, entered⟩ started
  exact both.1

/-- The session of an answer gets an id without records. -/
theorem processRadiusAnswer {inputs : AAAInputs} {handler : AuthHandler} {code : UInt8}
    {attributes : Bytes} {out : AAA × List CallbackCall} (billing : Billing aaa)
    (entered : Entered aaa) (unused : aaa.NextUnused)
    (processed : aaa.processRadiusAnswer inputs handler code attributes = some out) :
    Billing out.1 := by
  rcases processRadiusAnswer_cases processed with ⟨_, full⟩ | ⟨sid, made, free, built, equal⟩
  · rw [full]
    exact billing
  · rw [equal]
    dsimp only
    have entering := billing.enter entered built (.inr (unused sid free))
    unfold AAA.start
    split
    · exact entering
    · rename_i session present
      split
      · rename_i isAccounted
        exact entering.acctRequest ((Grows.enter free built.built).entered entered) present .start none
          (.inr ⟨isAccounted, sid, AList.lookup_insert _⟩)
      · exact entering

end Billing

/-- A genuine answer of the authentication server, which makes a session, finds an
id under which no record was sent. -/
def TakesUnusedId (aaa : AAA) : AAAEvent -> Prop
  | .authDatagram inputs datagram => ∀ client ∈ aaa.auth,
      let received := client.received inputs.behind datagram
      ∀ entry ∈ client.callbacks.lookup (received.read 1),
        AuthClient.Genuine aaa.md5 client.secret entry.auth received -> aaa.NextUnused
  | _ => True

instance (aaa : AAA) (event : AAAEvent) : Decidable (aaa.TakesUnusedId event) := by
  induction event using AAAEvent.casesOn <;> unfold TakesUnusedId <;> infer_instance

namespace Billing

variable {now after : AAA}

theorem stopSession (billing : Billing now) (entered : Entered now)
    (counters : Table UInt32 VPPIfaceCounters) (sid : UInt32) :
    Billing (now.stopSession counters sid) := by
  unfold AAA.stopSession
  split
  · exact billing
  · rename_i ref found
    have erased : Billing { now.stop counters ref with
        sessions := (now.stop counters ref).sessions.erase sid } :=
      (billing.stop entered counters found).of_fewer (fun _ => rfl) rfl
        (fun _ _ kept => Table.lookup_of_erase kept)
    exact erased.collect ref

theorem authDatagram {inputs : AAAInputs} {datagram : Bytes} {out : AAA × List CallbackCall}
    (billing : Billing now) (entered : Entered now)
    (permitted : TakesUnusedId now (.authDatagram inputs datagram))
    (received : now.authDatagram inputs datagram = some out) : Billing out.1 := by
  rcases authDatagram_cases received with
    ⟨client, filled, answer, present, filling, ⟨_, discarded⟩ | ⟨given, processed, is, answered, finished⟩⟩
  · rw [discarded]
    exact billing.of_fewer (fun _ => rfl) rfl (fun _ _ found => found)
  · rw [finished]
    rw [is] at filling
    rcases AuthClient.genuine_of_onRcv filling with ⟨id, entry, found, _, genuine⟩
    have unused := permitted client present entry (id ▸ found) genuine
    have before : Billing { now with auth := some filled } :=
      billing.of_fewer (fun _ => rfl) rfl (fun _ _ found => found)
    exact (before.processRadiusAnswer ((Grows.auth now _).entered entered) unused answered).of_fewer
      (fun _ => rfl) rfl (fun _ _ found => found)

theorem acctDatagram {inputs : AAAInputs} {datagram : Bytes} (billing : Billing now)
    (received : now.acctDatagram inputs datagram = some after) : Billing after := by
  rcases acctDatagram_cases received with ⟨client, filled, answer, present, filling, outcome⟩
  rcases AuthClient.onRcv_cases filling with ⟨⟨buf, receives, same⟩, outstanding⟩
  rcases outcome with ⟨_, discarded⟩ | ⟨given, is, finished⟩
  · rw [discarded, same]
    exact billing.client present rfl (fun _ holds => holds)
  · rcases outstanding given is with ⟨entry, found, handler⟩
    have billed : now.Billed given.handler.session :=
      billing.requests _ ⟨client, present, given.id, entry, found, handler⟩
    have cancelled : Billing { now with acct := some (filled.cancelTimer given.id) } := by
      rw [same]
      exact billing.client present rfl (fun _ holds => .of_cancelTimer holds)
    have stillBilled : AAA.Billed { now with acct := some (filled.cancelTimer given.id) }
        given.handler.session := by
      unfold AAA.Billed AAA.records at billed ⊢
      rw [present] at billed
      rw [same]
      exact billed
    rw [finished]
    unfold AAA.acctAnswer
    split
    · exact cancelled.updateObject _ (fun _ => rfl) (fun _ => rfl) (.inl stillBilled)
    · exact cancelled.updateObject _ (fun _ => rfl) (fun _ => rfl) (.inl stillBilled)
    · exact cancelled.cancel _

/-- A wait of an interim timer is one of a session that was billed. -/
theorem interimTimer {counters : Table UInt32 VPPIfaceCounters} {ref index : Nat}
    (billing : Billing now) (entered : Entered now)
    (fired : now.interimTimer counters ref index = some after) : Billing after := by
  rcases interimTimer_cases fired with ⟨session, present, ⟨expired, finished⟩ | ⟨_, finished⟩⟩
  · rw [finished]
    have waiting : session.timer ≠ [] := by
      intro none
      rw [none] at expired
      cases expired
    have billed := billing.waits ref session present waiting
    have popped := billing.eraseWait ref index
    have enteredPopped := (Grows.onTimer now ref (fun timer => timer.eraseIdx index)).entered entered
    refine Billing.collect ?_ ref
    unfold AAA.onInterim
    split
    · exact popped
    · rename_i record there
      split
      · refine (popped.cancel ref).acctRequest ((Grows.onTimer _ ref Timer.cancel).entered enteredPopped)
          (?_ : _ = some (onTimer Timer.cancel record)) .alive (counters.lookup record.ifindex)
          (.inl billed)
        unfold AAA.updateObject at there ⊢
        dsimp only at there ⊢
        rw [Heap.deref_update, if_pos rfl, there]
        rfl
      · exact popped
  · rw [finished]
    exact (billing.eraseWait ref index).collect ref

end Billing

theorem billing_step {now after : AAA} {event : AAAEvent} (billing : Billing now)
    (entered : Entered now) (permitted : TakesUnusedId now event)
    (taken : step now event = some after) : Billing after := by
  cases event with
  | startSession inputs user credential encap callback =>
      rcases Option.map_eq_some_iff.mp taken with ⟨out, started, equal⟩
      rw [← equal]
      exact billing.startByMethods entered started
  | stopSession counters sid =>
      rw [← Option.some.inj taken]
      exact billing.stopSession entered counters sid
  | stopAllSessions counters =>
      rw [← Option.some.inj taken]
      have stopped := billing.foldl_stop entered counters now.sessions.values
        (fun ref member => Table.mem_values_iff.mp member)
      exact Billing.foldl_collect _ (stopped.of_fewer (fun _ => rfl) rfl (fun _ _ found => by cases found))
  | mapIfaceToSession sid ifindex =>
      rw [← Option.some.inj taken]
      unfold AAA.mapIfaceToSession
      split
      · exact billing
      · exact billing.updateObject _ (fun _ => rfl) (fun _ => rfl) (.inr (fun _ some_ => some_))
  | authDatagram inputs datagram =>
      rcases Option.map_eq_some_iff.mp taken with ⟨out, received, equal⟩
      rw [← equal]
      exact billing.authDatagram entered permitted received
  | authExpires id =>
      rw [← Option.some.inj taken]
      exact billing.of_fewer (fun _ => rfl) rfl (fun _ _ found => found)
  | authTimer id =>
      rcases step_authTimer taken with ⟨auth, erased⟩
      rw [erased]
      exact billing.of_fewer (fun _ => rfl) rfl (fun _ _ found => found)
  | acctDatagram inputs datagram => exact billing.acctDatagram taken
  | acctExpires id =>
      rw [← Option.some.inj taken]
      unfold AAA.acctExpires
      cases present : now.acct with
      | none => exact billing.of_fewer (fun _ => rfl) present.symm (fun _ _ found => found)
      | some client => exact billing.client present rfl (fun _ holds => .of_timerExpires holds)
  | acctTimer id =>
      rcases acctTimer_cases taken with ⟨client, entry, present, _, finished⟩
      have erased : Billing { now with acct := some (client.eraseEntry id) } :=
        billing.client present rfl (fun _ holds => .of_eraseEntry holds)
      rw [finished]
      exact erased.collect _
  | interimExpires ref =>
      rw [← Option.some.inj taken]
      refine billing.updateObject ref (fun _ => rfl) (fun _ => rfl) (.inr (fun session some_ => ?_))
      intro none
      rw [onTimer, none] at some_
      exact some_ rfl
  | interimTimer counters ref index => exact billing.interimTimer entered taken
  | reload conf templates =>
      rw [(step_reload taken).2]
      exact billing.of_fewer (fun _ => rfl) rfl (fun _ _ found => found)

/-- AAA before its first session, with no request sent or outstanding. -/
structure Unused (aaa : AAA) : Prop where
  sessions : aaa.sessions = ∅
  objects : aaa.objects = []
  acct : ∀ client ∈ aaa.acct, client.callbacks = ∅ ∧ client.sent = []

theorem Unused.billing {aaa : AAA} (unused : aaa.Unused) : Billing aaa := by
  have records : aaa.records = [] := by
    unfold AAA.records
    split
    · rfl
    · exact (unused.acct _ ‹_›).2
  constructor
  · unfold SeparateBills
    rw [records]
    exact fun first member => absurd member List.not_mem_nil
  · rw [records]
    exact fun record member => absurd member List.not_mem_nil
  · intro ref session present
    rw [unused.objects] at present
    cases present
  · rintro handler ⟨client, is, id, entry, found, _⟩
    rw [(unused.acct client is).1] at found
    cases found
  · intro sid ref session found
    rw [unused.sessions] at found
    cases found

/-- **Bills stay separate.**  While no answer makes a session under an id that
records were sent under, the records of different sessions have different
ids. -/
theorem separateBills_of_run {start now : AAA} {past : List (AAA × AAAEvent)}
    (unused : start.Unused) (run : Run step TakesUnusedId start past now) : now.SeparateBills := by
  have atStart : Billing start ∧ Entered start := ⟨unused.billing, entered_empty unused.sessions⟩
  have both := @Run.invariant _ _ _ _ _ _ _ (fun aaa => Billing aaa ∧ Entered aaa) atStart
    (fun _ _ _ here permitted taken =>
      ⟨billing_step here.1 here.2 permitted taken, (grows_step taken).entered here.2⟩) run
  exact both.1.separate

theorem unused_sample (method : List AAAMethod) : (sample method).Unused where
  sessions := rfl
  objects := rfl
  acct := by
    intro client member
    rw [← Option.some.inj member]
    exact ⟨rfl, rfl⟩

/-- A subscriber is accepted, his session is stopped, and another session is
accepted in its place. -/
def secondSession : List AAAEvent :=
  acceptSession ++ [.stopSession ∅ 0] ++
    acceptSession.take 1 ++ [.authDatagram {} (answerTo
      (AuthClient.packet RadiusCode.accessRequest 2 (List.replicate 16 0) []) RadiusCode.accessAccept [])]

/-- A second subscriber is accepted beside the first one. -/
def besideSession : List AAAEvent :=
  acceptSession ++
    [.startSession sampleInputs (ascii "other") (.pap (ascii "word"))
        ⟨⟨2, 0, 0, 0, 2, 1⟩, ⟨2, 0, 0, 0, 0, 1⟩, 0, 0, 0⟩ ⟨1, .pap⟩,
      .authDatagram {} (answerTo
        (AuthClient.packet RadiusCode.accessRequest 2 (List.replicate 16 0) []) RadiusCode.accessAccept [])]

def acceptedBeside : AAA := after step (sample [.radius]) besideSession (by decide +kernel)

/-- The server answers both Start records, and both sessions are stopped, the later
one first. -/
def twoBills : List AAAEvent :=
  besideSession ++
    [.acctDatagram {} (answerFor acceptedBeside.acct 0 5),
      .acctDatagram {} (answerFor acceptedBeside.acct 1 5), .stopSession ∅ 1, .stopSession ∅ 0]

theorem runs_twoBills : (execute step (sample [.radius]) twoBills).isSome = true := by
  decide +kernel

/-- Two sessions with a Start and a Stop record each, crossing one another. -/
theorem separateBills_at_twoBills :
    let now := after step (sample [.radius]) twoBills runs_twoBills
    now.records.map (fun record => (record.request.sessionId, record.handler)) =
        [(acctSessionId 0, ⟨.start, 0⟩), (acctSessionId 1, ⟨.start, 1⟩),
          (acctSessionId 1, ⟨.stop, 1⟩), (acctSessionId 0, ⟨.stop, 0⟩)] ∧
      now.SeparateBills := by
  rcases run_after step TakesUnusedId (sample [.radius]) twoBills runs_twoBills
    (by decide +kernel) with ⟨past, run⟩
  exact ⟨by decide +kernel, separateBills_of_run (unused_sample _) run⟩

/-- The second session gets the id of the first one. -/
theorem id_used_again :
    ¬ forall past now, Run step anyStep (sample [.radius]) past now -> now.SeparateBills := by
  intro always
  rcases run_after step anyStep (sample [.radius]) secondSession (by decide +kernel)
    (permitted_anyStep _ _ _) with ⟨past, run⟩
  exact absurd (always past _ run) (by decide +kernel)

end AAA

end Pppcpd
