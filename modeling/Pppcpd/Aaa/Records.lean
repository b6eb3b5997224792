import Pppcpd.Aaa.Interim
import Pppcpd.Foundation.Warrant

namespace Pppcpd

open Foundation

/-!
# What a bill looks like

The accounting records of a session object are its bill.  They are sent from four places,
by handlers that may run in any order, late ones included, and a request that finds no
free identifier is not sent at all.  Still a bill has its Start record first, an Alive
record only behind that, and at most one Stop record.
-/

namespace AAA

/-- The kinds of the records of a session object, oldest first. -/
def bill (aaa : AAA) (ref : Nat) : List AcctStatus :=
  (aaa.records.filter (fun record => record.handler.session = ref)).map
    (fun record => record.request.acctStatusType)

/-- What may come next on a bill. -/
def MayBill (bill : List AcctStatus) : AcctStatus -> Prop
  | .start => bill = []
  | .alive => .start ∈ bill
  | .stop => .stop ∉ bill

theorem bill_of_acct {before after : AAA} (acct : after.acct = before.acct) (ref : Nat) :
    after.bill ref = before.bill ref := by
  unfold bill records
  rw [acct]

/-- A record is at the end of the bill of its session. -/
theorem bill_of_sent {aaa : AAA} {client after : AuthClient AcctRequest AcctHandler}
    {record : SentRequest AcctRequest AcctHandler} (present : aaa.acct = some client)
    (sent : after.sent = client.sent ++ [record]) (ref : Nat) :
    bill { aaa with acct := some after } ref =
      if record.handler.session = ref then aaa.bill ref ++ [record.request.acctStatusType]
      else aaa.bill ref := by
  unfold bill records
  rw [present]
  dsimp only
  rw [sent, List.filter_append, List.map_append]
  split
  · rename_i here
    rw [List.filter_singleton, decide_eq_true here]
    rfl
  · rename_i other
    rw [List.filter_singleton, decide_eq_false other]
    exact List.append_nil _

/-- The bills are in order.  Only for objects with a Start record there are interim waits,
and requests that start some; no entered object has a Stop record, except for some that
are about to be taken out. -/
structure BillsBut (skip : Nat -> Prop) (aaa : AAA) : Prop where
  ordered : forall ref, Warranted MayBill (aaa.bill ref)
  running : forall ref, ¬ skip ref -> aaa.sessions.Holds ref -> .stop ∉ aaa.bill ref
  unmade : forall ref, aaa.objects.deref ref = none -> aaa.bill ref = []
  waits : forall ref session, aaa.objects.deref ref = some session -> session.timer ≠ [] ->
    .start ∈ aaa.bill ref
  requests : forall handler, aaa.Accounts handler -> handler.status ≠ .stop ->
    .start ∈ aaa.bill handler.session

namespace BillsBut

variable {aaa : AAA} {skip : Nat -> Prop}

theorem weaken (bills : BillsBut skip aaa) {other : Nat -> Prop}
    (more : forall ref, aaa.sessions.Holds ref -> skip ref -> other ref) : BillsBut other aaa :=
  ⟨bills.ordered, fun ref kept held => bills.running ref (fun skipped => kept (more ref held skipped)) held,
    bills.unmade, bills.waits, bills.requests⟩

/-- A change of neither the objects nor the accounting client that at most takes
entries away. -/
theorem of_fewer {before after : AAA} (bills : BillsBut skip before)
    (objects : forall ref, after.objects.deref ref = before.objects.deref ref)
    (acct : after.acct = before.acct)
    (fewer : forall sid ref, after.sessions.lookup sid = some ref ->
      before.sessions.lookup sid = some ref) : BillsBut skip after := by
  have same := bill_of_acct acct
  constructor
  · intro ref
    rw [same]
    exact bills.ordered ref
  · rintro ref kept ⟨sid, found⟩
    rw [same]
    exact bills.running ref kept ⟨sid, fewer sid ref found⟩
  · intro ref absent
    rw [same]
    exact bills.unmade ref (objects ref ▸ absent)
  · intro ref session present
    rw [same]
    exact bills.waits ref session (objects ref ▸ present)
  · unfold Accounts
    rw [acct]
    intro handler accounts
    rw [same]
    exact bills.requests handler accounts

/-- A change of the accounting client that sends nothing and adds no request. -/
theorem client {before after : AuthClient AcctRequest AcctHandler} (bills : BillsBut skip aaa)
    (present : aaa.acct = some before) (sent : after.sent = before.sent)
    (fewer : forall handler, after.Holds handler -> before.Holds handler) :
    BillsBut skip { aaa with acct := some after } := by
  have same (ref : Nat) : bill { aaa with acct := some after } ref = aaa.bill ref := by
    unfold bill records
    rw [present]
    dsimp only
    rw [sent]
  constructor
  · intro ref
    rw [same]
    exact bills.ordered ref
  · intro ref
    rw [same]
    exact bills.running ref
  · intro ref
    rw [same]
    exact bills.unmade ref
  · intro ref
    rw [same]
    exact bills.waits ref
  · rintro handler ⟨now, is, holds⟩
    rw [same]
    rw [← Option.some.inj is] at holds
    exact bills.requests handler ⟨before, present, fewer handler holds⟩

/-- A change of an object with a Start record, or one that starts no wait. -/
theorem updateObject (bills : BillsBut skip aaa) (ref : Nat) {change : AAASession -> AAASession}
    (waits : .start ∈ aaa.bill ref ∨ forall session, (change session).timer ≠ [] -> session.timer ≠ []) :
    BillsBut skip (aaa.updateObject ref change) := by
  have present (place : Nat) : (aaa.updateObject ref change).objects.deref place =
      if place = ref then (aaa.objects.deref place).map change else aaa.objects.deref place :=
    Heap.deref_update _ _ _ _
  refine ⟨bills.ordered, bills.running, fun place absent => ?_, fun place session there some_ => ?_,
    bills.requests⟩
  · rw [present] at absent
    split at absent
    · exact bills.unmade place (Option.map_eq_none_iff.mp absent)
    · exact bills.unmade place absent
  · rw [present] at there
    split at there
    · rename_i here
      rcases Option.map_eq_some_iff.mp there with ⟨old, was, changed⟩
      rcases waits with started | starts
      · exact here ▸ started
      · exact bills.waits place old was (starts old (changed ▸ some_))
    · exact bills.waits place session there some_

theorem cancel (bills : BillsBut skip aaa) (ref : Nat) :
    BillsBut skip (aaa.updateObject ref (onTimer Timer.cancel)) := by
  refine bills.updateObject ref (.inr (fun session some_ none => ?_))
  rw [onTimer, none] at some_
  exact some_ rfl

theorem eraseWait (bills : BillsBut skip aaa) (ref index : Nat) :
    BillsBut skip (aaa.updateObject ref (onTimer (fun timer => timer.eraseIdx index))) := by
  refine bills.updateObject ref (.inr (fun session some_ none => ?_))
  rw [onTimer, none] at some_
  exact some_ rfl

theorem collect (bills : BillsBut skip aaa) (ref : Nat) : BillsBut skip (aaa.collect ref) := by
  apply bills.of_fewer (fun other => deref_collect aaa ref other) (collect_acct aaa ref)
  intro sid other found
  rw [collect_sessions] at found
  exact found

theorem foldl_collect (refs : List Nat) (bills : BillsBut skip aaa) :
    BillsBut skip (refs.foldl (fun aaa ref => aaa.collect ref) aaa) := by
  induction refs generalizing aaa with
  | nil => exact bills
  | cons ref rest inductionHypothesis => exact inductionHypothesis (bills.collect ref)

/-- A record that may come next on the bill of an object. -/
theorem acctRequest (bills : BillsBut skip aaa) {ref : Nat} {session : AAASession}
    (present : aaa.objects.deref ref = some session) {status : AcctStatus}
    (mayBill : MayBill (aaa.bill ref) status) (isStop : status = .stop -> skip ref)
    (counters : Option VPPIfaceCounters) :
    BillsBut skip (aaa.acctRequest (acctRecord session status counters)
      { status := status, session := ref }) := by
  unfold AAA.acctRequest
  cases acct : aaa.acct with
  | none => exact bills.of_fewer (fun _ => rfl) acct.symm (fun _ _ found => found)
  | some client =>
      rw [Option.map_some]
      rcases client.acctRequest_cases aaa.md5 aaa.dict (acctRecord session status counters)
        ({ status := status, session := ref } : AcctHandler) with ⟨auth, bytes, _, sent⟩ | dropped
      · rw [sent]
        have longer := @bill_of_sent aaa client _ _ acct (congrArg AuthClient.sent sent)
        rw [sent] at longer
        have within (place : Nat) (kind : AcctStatus) (old : kind ∈ aaa.bill place) :
            kind ∈ if ref = place then aaa.bill place ++ [status] else aaa.bill place := by
          split
          · exact List.mem_append_left _ old
          · exact old
        constructor
        · intro place
          rw [longer]
          split
          · rename_i here
            exact Warranted.concat (bills.ordered place) (here ▸ mayBill)
          · exact bills.ordered place
        · intro place kept held
          rw [longer]
          split
          · rename_i here
            intro stopped
            rcases List.mem_append.mp stopped with old | new
            · exact bills.running place kept held old
            · exact kept (here ▸ isStop (List.mem_singleton.mp new).symm)
          · exact bills.running place kept held
        · intro place absent
          rw [longer, if_neg ?_]
          · exact bills.unmade place absent
          · intro here
            cases present.symm.trans (here ▸ absent)
        · intro place object there some_
          rw [longer]
          exact within place .start (bills.waits place object there some_)
        · rintro handler ⟨now, is, id, entry, found, same⟩ starts
          rw [longer]
          rw [← Option.some.inj is] at found
          dsimp only at found
          rw [Table.lookup_insert_eq] at found
          split at found
          · rw [← Option.some.inj found] at same
            rw [← same] at starts ⊢
            rw [if_pos rfl]
            dsimp only at starts ⊢
            cases status with
            | start => exact List.mem_append_right _ (List.mem_singleton_self _)
            | alive => exact List.mem_append_left _ mayBill
            | stop => exact absurd rfl starts
          · exact within _ .start
              (bills.requests handler ⟨client, acct, id, entry, found, same⟩ starts)
      · rw [dropped]
        exact bills.client acct rfl (fun _ holds => holds)

/-- The next object has no bill yet. -/
theorem new (bills : BillsBut skip aaa) : aaa.bill aaa.objects.length = [] :=
  bills.unmade _ (Heap.deref_length _)

/-- A new session has no bill. -/
theorem enter {flag : Bool} (bills : BillsBut skip aaa) {sid : UInt32} {made : AAA}
    (construction : BuiltAs flag sid aaa made) :
    BillsBut skip (made.enter sid aaa.objects.length) := by
  rcases construction with ⟨added, pools, ⟨idle, _⟩, _, equal⟩
  rw [equal]
  unfold AAA.enter
  dsimp only [makeObject]
  refine ⟨bills.ordered, ?_, ?_, ?_, bills.requests⟩
  · rintro place kept ⟨other, found⟩
    dsimp only at found
    rw [Table.lookup_insert_eq] at found
    split at found
    · rw [← Option.some.inj found]
      exact bills.new ▸ List.not_mem_nil
    · exact bills.running place kept ⟨other, found⟩
  · intro place absent
    dsimp only at absent
    rw [Heap.deref_make] at absent
    split at absent
    · cases absent
    · exact bills.unmade place absent
  · intro place object there some_
    dsimp only at there
    rw [Heap.deref_make] at there
    split at there
    · rw [← Option.some.inj there] at some_
      exact absurd idle some_
    · exact bills.waits place object there some_

/-- A stop, of an entered session, which is left out from then on. -/
theorem stop (bills : BillsBut skip aaa) (counters : Table UInt32 VPPIfaceCounters) {ref : Nat}
    (kept : ¬ skip ref) (held : aaa.sessions.Holds ref) :
    BillsBut (fun other => skip other ∨ other = ref) (aaa.stop counters ref) := by
  have later : BillsBut (fun other => skip other ∨ other = ref) aaa :=
    bills.weaken (fun _ _ => .inl)
  unfold AAA.stop
  split
  · exact later
  · rename_i session present
    dsimp only
    split
    · refine (later.cancel ref).acctRequest (?_ : _ = some (AAA.onTimer Timer.cancel session))
        (show MayBill (aaa.bill ref) .stop from bills.running ref kept held) (fun _ => .inr rfl) _
      unfold AAA.updateObject
      dsimp only
      rw [Heap.deref_update, if_pos rfl, present]
      rfl
    · exact later.cancel ref

theorem foldl_stop (bills : BillsBut skip aaa) (counters : Table UInt32 VPPIfaceCounters)
    {refs : List Nat} (distinct : refs.Nodup)
    (held : ∀ ref ∈ refs, ¬ skip ref ∧ aaa.sessions.Holds ref) :
    BillsBut (fun ref => skip ref ∨ ref ∈ refs) (refs.foldl (fun aaa ref => aaa.stop counters ref) aaa) := by
  induction refs generalizing aaa skip with
  | nil => exact bills.weaken (fun _ _ => .inl)
  | cons ref rest inductionHypothesis =>
      rcases List.nodup_cons.mp distinct with ⟨new, restDistinct⟩
      rcases held ref List.mem_cons_self with ⟨kept, entered⟩
      refine BillsBut.weaken (inductionHypothesis (bills.stop counters kept entered) restDistinct ?_) ?_
      · intro other member
        rcases held other (List.mem_cons_of_mem _ member) with ⟨otherKept, sid, found⟩
        refine ⟨?_, sid, ?_⟩
        · rintro (skipped | same)
          · exact otherKept skipped
          · exact new (same ▸ member)
        · rw [stop_sessions]
          exact found
      · rintro other _ ((skipped | same) | member)
        · exact .inl skipped
        · exact .inr (same ▸ List.mem_cons_self)
        · exact .inr (List.mem_cons_of_mem _ member)

variable {now after : AAA}

/-- The session of an answer starts its bill. -/
theorem processRadiusAnswer {inputs : AAAInputs} {handler : AuthHandler} {code : UInt8}
    {attributes : Bytes} {out : AAA × List CallbackCall} (bills : BillsBut skip aaa)
    (processed : aaa.processRadiusAnswer inputs handler code attributes = some out) :
    BillsBut skip out.1 := by
  rcases processRadiusAnswer_cases processed with ⟨_, full⟩ | ⟨sid, made, _, built, equal⟩
  · rw [full]
    exact bills
  · rw [equal]
    dsimp only
    have entering := bills.enter built
    have same : bill (made.enter sid aaa.objects.length) aaa.objects.length =
        aaa.bill aaa.objects.length := by
      rcases built with ⟨added, pools, _, _, isMade⟩
      rw [isMade]
      rfl
    unfold AAA.start
    split
    · exact entering
    · rename_i session present
      split
      · exact entering.acctRequest present
          (show MayBill (bill _ _) .start from same.trans bills.new) AcctStatus.noConfusion none
      · exact entering

/-- A stop takes the session out of the table. -/
theorem stopSession (bills : BillsBut (fun _ => False) now) (entered : Entered now)
    (counters : Table UInt32 VPPIfaceCounters) (sid : UInt32) :
    BillsBut (fun _ => False) (now.stopSession counters sid) := by
  unfold AAA.stopSession
  split
  · exact bills
  · rename_i ref found
    have stopped := bills.stop counters id ⟨sid, found⟩
    have erased : BillsBut (fun other => False ∨ other = ref) { now.stop counters ref with
        sessions := (now.stop counters ref).sessions.erase sid } :=
      stopped.of_fewer (fun _ => rfl) rfl (fun _ _ still => Table.lookup_of_erase still)
    refine (erased.weaken (fun other held gone => ?_)).collect ref
    rcases gone with never | same
    · exact never
    · rw [same, stop_sessions] at held
      exact not_holds_erase entered found held

theorem stopAllSessions (bills : BillsBut (fun _ => False) now) (entered : Entered now)
    (counters : Table UInt32 VPPIfaceCounters) :
    BillsBut (fun _ => False) (now.stopAllSessions counters) := by
  have stopped := bills.foldl_stop counters (Table.nodup_values entered.unique)
    (fun ref member => ⟨id, Table.mem_values_iff.mp member⟩)
  have cleared : BillsBut (fun ref => False ∨ ref ∈ now.sessions.values)
      { now.sessions.values.foldl (fun aaa ref => aaa.stop counters ref) now with sessions := ∅ } :=
    stopped.of_fewer (fun _ => rfl) rfl (fun _ _ still => by cases still)
  refine foldl_collect _ (cleared.weaken (fun ref held _ => ?_))
  rcases held with ⟨sid, still⟩
  cases still

/-- The answer to a Start or Alive request starts a wait. -/
theorem acctDatagram {inputs : AAAInputs} {datagram : Bytes} (bills : BillsBut skip now)
    (received : now.acctDatagram inputs datagram = some after) : BillsBut skip after := by
  rcases acctDatagram_cases received with ⟨client, filled, answer, present, filling, outcome⟩
  rcases AuthClient.onRcv_cases filling with ⟨⟨buf, receives, same⟩, outstanding⟩
  rcases outcome with ⟨_, discarded⟩ | ⟨given, is, finished⟩
  · rw [discarded, same]
    exact bills.client present rfl (fun _ holds => holds)
  · rcases outstanding given is with ⟨entry, found, handler⟩
    have cancelled : BillsBut skip { now with acct := some (filled.cancelTimer given.id) } := by
      rw [same]
      exact bills.client present rfl (fun _ holds => .of_cancelTimer holds)
    have started (starts : given.handler.status ≠ .stop) :
        .start ∈ bill { now with acct := some (filled.cancelTimer given.id) } given.handler.session := by
      have begun := bills.requests _ ⟨client, present, given.id, entry, found, handler⟩ starts
      unfold bill records at begun ⊢
      rw [present] at begun
      rw [same]
      exact begun
    rw [finished]
    unfold AAA.acctAnswer
    split
    · rename_i isStart
      exact cancelled.updateObject _ (.inl (started (isStart ▸ AcctStatus.noConfusion)))
    · rename_i isAlive
      exact cancelled.updateObject _ (.inl (started (isAlive ▸ AcctStatus.noConfusion)))
    · exact cancelled.cancel _

/-- The handler of an interim wait adds to a bill that has begun. -/
theorem interimTimer {counters : Table UInt32 VPPIfaceCounters} {ref index : Nat}
    (bills : BillsBut skip now) (fired : now.interimTimer counters ref index = some after) :
    BillsBut skip after := by
  rcases interimTimer_cases fired with ⟨session, present, ⟨expired, finished⟩ | ⟨_, finished⟩⟩
  · rw [finished]
    have waiting : session.timer ≠ [] := by
      intro none
      rw [none] at expired
      cases expired
    have begun := bills.waits ref session present waiting
    have popped := bills.eraseWait ref index
    refine BillsBut.collect ?_ ref
    unfold AAA.onInterim
    split
    · exact popped
    · rename_i record there
      split
      · refine (popped.cancel ref).acctRequest (?_ : _ = some (onTimer Timer.cancel record))
          (show MayBill (now.bill ref) .alive from begun) AcctStatus.noConfusion _
        unfold AAA.updateObject at there ⊢
        dsimp only at there ⊢
        rw [Heap.deref_update, if_pos rfl, there]
        rfl
      · exact popped
  · rw [finished]
    exact (bills.eraseWait ref index).collect ref

end BillsBut

theorem billsBut_step {now after : AAA} {event : AAAEvent} (bills : BillsBut (fun _ => False) now)
    (entered : Entered now) (taken : step now event = some after) :
    BillsBut (fun _ => False) after := by
  cases event with
  | startSession inputs user credential encap callback =>
      rcases Option.map_eq_some_iff.mp taken with ⟨out, started, equal⟩
      rw [← equal]
      exact @startByMethods_induction (BillsBut (fun _ => False)) _ _ _ _ _ _ _ _
        (fun _ _ here => here.of_fewer (fun _ => rfl) rfl (fun _ _ found => found))
        (fun _ _ _ _ here _ construction => here.enter (builtAs_constructNone construction)) bills started
  | stopSession counters sid => exact Option.some.inj taken ▸ bills.stopSession entered counters sid
  | stopAllSessions counters => exact Option.some.inj taken ▸ bills.stopAllSessions entered counters
  | mapIfaceToSession sid ifindex =>
      rw [← Option.some.inj taken]
      unfold AAA.mapIfaceToSession
      split
      · exact bills
      · exact bills.updateObject _ (.inr (fun _ some_ => some_))
  | authDatagram inputs datagram =>
      rcases Option.map_eq_some_iff.mp taken with ⟨out, received, equal⟩
      rw [← equal]
      rcases authDatagram_cases received with
        ⟨client, filled, answer, _, _, ⟨_, discarded⟩ | ⟨given, processed, _, answered, finished⟩⟩
      · rw [discarded]
        exact bills.of_fewer (fun _ => rfl) rfl (fun _ _ found => found)
      · have before : BillsBut (fun _ => False) { now with auth := some filled } :=
          bills.of_fewer (fun _ => rfl) rfl (fun _ _ found => found)
        rw [finished]
        exact (before.processRadiusAnswer answered).of_fewer (fun _ => rfl) rfl
          (fun _ _ found => found)
  | authExpires id =>
      rw [← Option.some.inj taken]
      exact bills.of_fewer (fun _ => rfl) rfl (fun _ _ found => found)
  | authTimer id =>
      rcases step_authTimer taken with ⟨auth, erased⟩
      rw [erased]
      exact bills.of_fewer (fun _ => rfl) rfl (fun _ _ found => found)
  | acctDatagram inputs datagram => exact bills.acctDatagram taken
  | acctExpires id =>
      rw [← Option.some.inj taken]
      unfold AAA.acctExpires
      cases present : now.acct with
      | none => exact bills.of_fewer (fun _ => rfl) present.symm (fun _ _ found => found)
      | some client => exact bills.client present rfl (fun _ holds => .of_timerExpires holds)
  | acctTimer id =>
      rcases acctTimer_cases taken with ⟨client, entry, present, _, finished⟩
      have erased : BillsBut (fun _ => False) { now with acct := some (client.eraseEntry id) } :=
        bills.client present rfl (fun _ holds => .of_eraseEntry holds)
      rw [finished]
      exact erased.collect _
  | interimExpires ref =>
      rw [← Option.some.inj taken]
      refine bills.updateObject ref (.inr (fun session some_ none => ?_))
      rw [onTimer, none] at some_
      exact some_ rfl
  | interimTimer counters ref index => exact bills.interimTimer taken
  | reload conf templates =>
      rw [(step_reload taken).2]
      exact bills.of_fewer (fun _ => rfl) rfl (fun _ _ found => found)

theorem Unused.billsBut {aaa : AAA} (unused : aaa.Unused) : BillsBut (fun _ => False) aaa := by
  have none (ref : Nat) : aaa.bill ref = [] := by
    unfold bill records
    split
    · rfl
    · rw [(unused.acct _ ‹_›).2]
      rfl
  constructor
  · exact fun ref => (none ref).symm ▸ warranted_nil MayBill
  · exact fun ref _ _ => (none ref).symm ▸ List.not_mem_nil
  · exact fun ref _ => none ref
  · intro ref session present
    rw [unused.objects] at present
    cases present
  · rintro handler ⟨client, is, id, entry, found, _⟩
    rw [(unused.acct client is).1] at found
    cases found

/-- In every run, whatever comes in whatever order, each bill has its records in order,
and that of a session that is still entered has no Stop record. -/
theorem bills_in_order {start now : AAA} {past : List (AAA × AAAEvent)} (unused : start.Unused)
    (run : Run step anyStep start past now) (ref : Nat) :
    Warranted MayBill (now.bill ref) ∧ (now.sessions.Holds ref -> .stop ∉ now.bill ref) := by
  have atStart : BillsBut (fun _ => False) start ∧ Entered start :=
    ⟨unused.billsBut, entered_empty unused.sessions⟩
  have both := @Run.invariant _ _ _ _ _ _ _ (fun aaa => BillsBut (fun _ => False) aaa ∧ Entered aaa)
    atStart (fun _ _ _ here _ taken =>
      ⟨billsBut_step here.1 here.2 taken, (grows_step taken).entered here.2⟩) run
  exact ⟨both.1.ordered ref, both.1.running ref id⟩

/-- A bill that an Alive record ends, behind the Stop record. -/
theorem bills_in_order_at_revivedSession : revivedSession.bill 0 = [.start, .stop, .alive] ∧
    Warranted MayBill (revivedSession.bill 0) := by
  rcases run_after step anyStep (sample [.radius]) acceptSession (by decide +kernel)
    (permitted_anyStep _ _ _) with ⟨past, accepted⟩
  have stopped : Run step anyStep (sample [.radius])
      ((acceptedSession, .stopSession ∅ 0) :: past) stoppedSession :=
    .next accepted trivial rfl
  rcases run_of_execute stopped lateStartAnswer (permitted_anyStep _ _ _)
    (execute_after _ _ _ _ : _ = some revivedSession) with ⟨later, run⟩
  exact ⟨by decide +kernel, (bills_in_order (unused_sample _) run 0).1⟩

end AAA

end Pppcpd
