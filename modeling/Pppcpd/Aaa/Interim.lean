import Pppcpd.Aaa.Billing

namespace Pppcpd

open Foundation

/-!
# The chain of interim updates

From its Start answer on a session has either a wait on its interim timer or an
Alive request that waits for its answer.  The handler of the wait sends the
request, and the answer starts the next wait.  A request that ends without an
answer, or that is not sent at all, ends the chain.
-/

namespace AAA

/-- The answer to the Start request of the session object was handled. -/
def AccountingStarted (aaa : AAA) (ref : Nat) : Prop :=
  ∃ session ∈ aaa.objects.deref ref, session.toStopAcct = true

/-- An Alive request for the session object is outstanding and not answered. -/
def AliveAwaited (aaa : AAA) (ref : Nat) : Prop :=
  ∃ client ∈ aaa.acct, ∃ id entry, client.callbacks.lookup id = some entry ∧
    entry.handler = ({ status := .alive, session := ref } : AcctHandler) ∧ entry.wait ≠ .aborted

instance (aaa : AAA) (ref : Nat) : Decidable (aaa.AccountingStarted ref) :=
  inferInstanceAs (Decidable (∃ session ∈ aaa.objects.deref ref, _))

instance (aaa : AAA) (ref : Nat) : Decidable (aaa.InterimRuns ref) :=
  decidable_of_iff (∃ session ∈ aaa.objects.deref ref, session.timer.hasLive = true)
    ⟨fun ⟨session, present, live⟩ => ⟨session, present, live⟩,
      fun ⟨session, present, live⟩ => ⟨session, present, live⟩⟩

instance (aaa : AAA) (ref : Nat) : Decidable (aaa.AliveAwaited ref) :=
  decidable_of_iff (∃ client ∈ aaa.acct, ∃ slot ∈ client.callbacks.entries,
    slot.2.handler = ({ status := .alive, session := ref } : AcctHandler) ∧ slot.2.wait ≠ .aborted)
    ⟨fun ⟨client, is, slot, listed, rest⟩ =>
      ⟨client, is, slot.1, slot.2, Table.lookup_eq_some_iff_mem_entries.mpr listed, rest⟩,
    fun ⟨client, is, id, entry, found, rest⟩ =>
      ⟨client, is, ⟨id, entry⟩, Table.lookup_eq_some_iff_mem_entries.mp found, rest⟩⟩

/-- An Alive request is sent when the next identifier is free. -/
theorem aliveAwaited_of_sent {aaa : AAA} {client : AuthClient AcctRequest AcctHandler} {ref : Nat}
    (present : aaa.acct = some client) (free : client.lastId + 1 ∉ client.callbacks)
    (request : AcctRequest) :
    (aaa.acctRequest request { status := .alive, session := ref }).AliveAwaited ref := by
  rcases client.lookup_acctRequest_of_free aaa.md5 aaa.dict request
    ({ status := .alive, session := ref } : AcctHandler) free with ⟨auth, found⟩
  refine ⟨_, ?_, client.lastId + 1, _, found, rfl, Wait.noConfusion⟩
  unfold acctRequest
  rw [present]
  rfl

/-- A request leaves those that are outstanding. -/
theorem AliveAwaited.acctRequest {aaa : AAA} {ref : Nat} (awaited : aaa.AliveAwaited ref)
    (request : AcctRequest) (handler : AcctHandler) :
    (aaa.acctRequest request handler).AliveAwaited ref := by
  rcases awaited with ⟨client, present, id, entry, found, rest⟩
  unfold AAA.acctRequest
  rw [present, Option.map_some]
  rcases client.acctRequest_cases aaa.md5 aaa.dict request handler with ⟨auth, bytes, free, sent⟩ | dropped
  · refine ⟨_, rfl, id, entry, ?_, rest⟩
    have different : id ≠ client.lastId + 1 := by
      intro same
      rw [same, free] at found
      cases found
    rw [sent]
    dsimp only
    rw [Table.lookup_insert_eq, if_neg different]
    exact found
  · refine ⟨_, rfl, id, entry, ?_, rest⟩
    rw [dropped]
    exact found

/-- A session between its Start answer and its stop has an interim wait or an
unanswered Alive request. -/
def Updating (aaa : AAA) : Prop :=
  forall ref, aaa.sessions.Holds ref -> aaa.AccountingStarted ref ->
    aaa.InterimRuns ref ∨ aaa.AliveAwaited ref

/-- The chain is kept for all sessions but some, and what it takes for that: a
Stop request is only outstanding for a session that is not entered, and
accounting starts only for accounted sessions. -/
structure UpdatingBut (skip : Nat -> Prop) (aaa : AAA) : Prop where
  updating : forall ref, ¬ skip ref -> aaa.sessions.Holds ref -> aaa.AccountingStarted ref ->
    aaa.InterimRuns ref ∨ aaa.AliveAwaited ref
  stops : forall handler, aaa.Accounts handler -> handler.status = .stop -> ¬ skip handler.session ->
    ¬ aaa.sessions.Holds handler.session
  accounted : forall handler, aaa.Accounts handler ->
    ∃ session, aaa.objects.deref handler.session = some session ∧ session.acct = true
  started : forall ref session, aaa.objects.deref ref = some session -> session.toStopAcct = true ->
    session.acct = true ∧ aaa.acct.isSome = true

namespace UpdatingBut

variable {aaa : AAA} {skip : Nat -> Prop}

theorem weaken (kept : UpdatingBut (fun _ => False) aaa) (skip : Nat -> Prop) :
    UpdatingBut skip aaa :=
  ⟨fun ref _ => kept.updating ref id, fun handler accounts isStop _ => kept.stops handler accounts isStop id,
    kept.accounted, kept.started⟩

/-- The sessions that were left out are looked after. -/
theorem close (kept : UpdatingBut skip aaa)
    (updating : forall ref, skip ref -> aaa.sessions.Holds ref -> aaa.AccountingStarted ref ->
      aaa.InterimRuns ref ∨ aaa.AliveAwaited ref)
    (stops : forall handler, aaa.Accounts handler -> handler.status = .stop -> skip handler.session ->
      ¬ aaa.sessions.Holds handler.session) : UpdatingBut (fun _ => False) aaa := by
  refine ⟨fun ref _ held started => ?_, fun handler accounts isStop _ => ?_, kept.accounted, kept.started⟩
  · by_cases skipped : skip ref
    · exact updating ref skipped held started
    · exact kept.updating ref skipped held started
  · by_cases skipped : skip handler.session
    · exact stops handler accounts isStop skipped
    · exact kept.stops handler accounts isStop skipped

/-- A change of neither the objects nor the accounting client that at most takes
entries away. -/
theorem of_fewer {before after : AAA} (kept : UpdatingBut skip before)
    (objects : forall ref, after.objects.deref ref = before.objects.deref ref)
    (acct : after.acct = before.acct)
    (fewer : forall sid ref, after.sessions.lookup sid = some ref ->
      before.sessions.lookup sid = some ref) : UpdatingBut skip after := by
  have held : forall ref, after.sessions.Holds ref -> before.sessions.Holds ref :=
    fun ref ⟨sid, found⟩ => ⟨sid, fewer sid ref found⟩
  constructor
  · intro ref other holds started
    unfold AccountingStarted at started
    rw [objects] at started
    unfold InterimRuns AliveAwaited
    rw [objects, acct]
    exact kept.updating ref other (held ref holds) started
  · intro handler accounts isStop other holds
    unfold Accounts at accounts
    rw [acct] at accounts
    exact kept.stops handler accounts isStop other (held _ holds)
  · unfold Accounts
    simp only [acct, objects]
    exact kept.accounted
  · simp only [acct, objects]
    exact kept.started

/-- A change of the accounting client that adds no request.  Unanswered Alive
requests of the sessions that are looked at stay. -/
theorem client {before after : AuthClient AcctRequest AcctHandler} (kept : UpdatingBut skip aaa)
    (present : aaa.acct = some before)
    (fewer : forall handler, after.Holds handler -> before.Holds handler)
    (awaited : forall ref, ¬ skip ref -> aaa.AliveAwaited ref ->
      AliveAwaited { aaa with acct := some after } ref) :
    UpdatingBut skip { aaa with acct := some after } := by
  have accounts : forall handler, Accounts { aaa with acct := some after } handler ->
      aaa.Accounts handler := by
    rintro handler ⟨now, is, holds⟩
    rw [← Option.some.inj is] at holds
    exact ⟨before, present, fewer handler holds⟩
  constructor
  · intro ref other holds started
    rcases kept.updating ref other holds started with runs | alive
    · exact .inl runs
    · exact .inr (awaited ref other alive)
  · exact fun handler now isStop other => kept.stops handler (accounts handler now) isStop other
  · exact fun handler now => kept.accounted handler (accounts handler now)
  · exact fun ref session there flag => ⟨(kept.started ref session there flag).1, rfl⟩

/-- A change of an object that is not looked at, or that keeps its waits. -/
theorem updateObject (kept : UpdatingBut skip aaa) (ref : Nat) {change : AAASession -> AAASession}
    (accounted : forall session, (change session).acct = session.acct)
    (flag : forall session, aaa.objects.deref ref = some session -> (change session).toStopAcct = true ->
      session.toStopAcct = true ∨ session.acct = true ∧ aaa.acct.isSome = true)
    (waits : skip ref ∨ forall session, (change session).toStopAcct = session.toStopAcct ∧
      (session.timer.hasLive = true -> (change session).timer.hasLive = true)) :
    UpdatingBut skip (aaa.updateObject ref change) := by
  have present : forall place, (aaa.updateObject ref change).objects.deref place =
      if place = ref then (aaa.objects.deref place).map change else aaa.objects.deref place :=
    fun place => Heap.deref_update _ _ _ _
  constructor
  · intro place other holds started
    by_cases here : place = ref
    · rcases waits with skipped | keeps
      · exact absurd (here ▸ skipped) other
      · rcases started with ⟨session, there, isStarted⟩
        rw [Option.mem_def, present, if_pos here] at there
        rcases Option.map_eq_some_iff.mp there with ⟨old, was, changed⟩
        rw [← changed, (keeps old).1] at isStarted
        rcases kept.updating place other holds ⟨old, was, isStarted⟩ with ⟨record, is, live⟩ | alive
        · refine .inl ⟨change record, ?_, (keeps record).2 live⟩
          rw [present, if_pos here, is]
          rfl
        · exact .inr alive
    · unfold AccountingStarted at started
      rw [present, if_neg here] at started
      rcases kept.updating place other holds started with ⟨record, is, live⟩ | alive
      · refine .inl ⟨record, ?_, live⟩
        rw [present, if_neg here]
        exact is
      · exact .inr alive
  · exact kept.stops
  · intro handler accounts
    rcases kept.accounted handler accounts with ⟨session, there, isAccounted⟩
    rw [present]
    split
    · rw [there]
      exact ⟨change session, rfl, (accounted session).trans isAccounted⟩
    · exact ⟨session, there, isAccounted⟩
  · intro place session there isStarted
    rw [present] at there
    split at there
    · rename_i here
      rcases Option.map_eq_some_iff.mp there with ⟨old, was, changed⟩
      rw [← changed] at isStarted ⊢
      rw [accounted]
      rcases flag old (here ▸ was) isStarted with before | both
      · exact kept.started place old was before
      · exact both
    · exact kept.started place session there isStarted

/-- A change of waits only. -/
theorem onTimer (kept : UpdatingBut skip aaa) (ref : Nat) {change : Timer -> Timer}
    (waits : skip ref ∨ forall timer : Timer, timer.hasLive = true -> (change timer).hasLive = true) :
    UpdatingBut skip (aaa.updateObject ref (AAA.onTimer change)) :=
  kept.updateObject ref (fun _ => rfl) (fun _ _ flag => .inl flag)
    (waits.imp id (fun keeps session => ⟨rfl, keeps session.timer⟩))

theorem collect (kept : UpdatingBut skip aaa) (ref : Nat) : UpdatingBut skip (aaa.collect ref) := by
  apply kept.of_fewer (fun other => deref_collect aaa ref other) (collect_acct aaa ref)
  intro sid other found
  rw [collect_sessions] at found
  exact found

theorem foldl_collect (refs : List Nat) (kept : UpdatingBut skip aaa) :
    UpdatingBut skip (refs.foldl (fun aaa ref => aaa.collect ref) aaa) := by
  induction refs generalizing aaa with
  | nil => exact kept
  | cons ref rest inductionHypothesis => exact inductionHypothesis (kept.collect ref)

/-- A request for an accounted object. -/
theorem acctRequest (kept : UpdatingBut skip aaa) {ref : Nat} {session : AAASession}
    (present : aaa.objects.deref ref = some session) (isAccounted : session.acct = true)
    (request : AcctRequest) (status : AcctStatus) (isStop : status = .stop -> skip ref) :
    UpdatingBut skip (aaa.acctRequest request { status := status, session := ref }) := by
  constructor
  · intro place other holds started
    rcases kept.updating place other holds started with runs | alive
    · exact .inl runs
    · exact .inr (alive.acctRequest request _)
  · intro handler accounts stop other
    rcases accounts.of_acctRequest with old | new
    · exact kept.stops handler old stop other
    · rw [new] at stop other
      exact absurd (isStop stop) other
  · intro handler accounts
    rcases accounts.of_acctRequest with old | new
    · exact kept.accounted handler old
    · rw [new]
      exact ⟨session, present, isAccounted⟩
  · intro place object there flag
    rcases kept.started place object there flag with ⟨accounted, server⟩
    refine ⟨accounted, ?_⟩
    unfold AAA.acctRequest
    rw [Option.isSome_map]
    exact server

/-- A new session is not accounted for yet. -/
theorem enter {flag : Bool} (kept : UpdatingBut skip aaa) {sid : UInt32} {made : AAA}
    (construction : BuiltAs flag sid aaa made) :
    UpdatingBut skip (made.enter sid aaa.objects.length) := by
  rcases construction with ⟨added, pools, _, ⟨_, notStarted⟩, equal⟩
  rw [equal]
  unfold AAA.enter
  dsimp only [makeObject]
  have present : forall place object, aaa.objects.deref place = some object ->
      (aaa.objects.make added).deref place = some object := by
    intro place object there
    rw [Heap.deref_make_of_lt _ (Heap.lt_length_of_deref there)]
    exact there
  have cases : forall place object, (aaa.objects.make added).deref place = some object ->
      object.toStopAcct = true -> aaa.objects.deref place = some object := by
    intro place object there isStarted
    rw [Heap.deref_make] at there
    split at there
    · rw [← Option.some.inj there, notStarted] at isStarted
      cases isStarted
    · exact there
  have held : forall place object, aaa.objects.deref place = some object ->
      Table.Holds (aaa.sessions.insert sid aaa.objects.length) place -> aaa.sessions.Holds place := by
    rintro place object there ⟨other, found⟩
    rw [Table.lookup_insert_eq] at found
    split at found
    · rw [← Option.some.inj found] at there
      exact absurd (Heap.lt_length_of_deref there) (Nat.lt_irrefl _)
    · exact ⟨other, found⟩
  constructor
  · rintro place other holds ⟨object, there, isStarted⟩
    have was := cases place object there isStarted
    rcases kept.updating place other (held place object was holds) ⟨object, was, isStarted⟩ with
      ⟨record, is, live⟩ | alive
    · exact .inl ⟨record, present place record is, live⟩
    · exact .inr alive
  · intro handler accounts isStop other holds
    rcases kept.accounted handler accounts with ⟨object, there, _⟩
    exact kept.stops handler accounts isStop other (held _ object there holds)
  · intro handler accounts
    rcases kept.accounted handler accounts with ⟨object, there, isAccounted⟩
    exact ⟨object, present _ object there, isAccounted⟩
  · exact fun place object there isStarted =>
      kept.started place object (cases place object there isStarted) isStarted

/-- A stop, of a session that is left out. -/
theorem stop (kept : UpdatingBut skip aaa) (counters : Table UInt32 VPPIfaceCounters) {ref : Nat}
    (skipped : skip ref) : UpdatingBut skip (aaa.stop counters ref) := by
  unfold AAA.stop
  split
  · exact kept
  · rename_i session present
    dsimp only
    have cancelled := @onTimer aaa skip kept ref Timer.cancel (.inl skipped)
    split
    · rename_i isAccounted
      refine cancelled.acctRequest (?_ : _ = some (AAA.onTimer Timer.cancel session)) isAccounted _
        .stop (fun _ => skipped)
      unfold AAA.updateObject
      dsimp only
      rw [Heap.deref_update, if_pos rfl, present]
      rfl
    · exact cancelled

theorem foldl_stop (kept : UpdatingBut skip aaa) (counters : Table UInt32 VPPIfaceCounters)
    (refs : List Nat) (skipped : ∀ ref ∈ refs, skip ref) :
    UpdatingBut skip (refs.foldl (fun aaa ref => aaa.stop counters ref) aaa) := by
  induction refs generalizing aaa with
  | nil => exact kept
  | cons ref rest inductionHypothesis =>
      exact inductionHypothesis (kept.stop counters (skipped ref List.mem_cons_self))
        (fun other member => skipped other (List.mem_cons_of_mem _ member))

/-- The session of an answer is entered and asks to start its accounting. -/
theorem processRadiusAnswer {inputs : AAAInputs} {handler : AuthHandler} {code : UInt8}
    {attributes : Bytes} {out : AAA × List CallbackCall} (kept : UpdatingBut skip aaa)
    (processed : aaa.processRadiusAnswer inputs handler code attributes = some out) :
    UpdatingBut skip out.1 := by
  rcases processRadiusAnswer_cases processed with ⟨_, full⟩ | ⟨sid, made, free, built, equal⟩
  · rw [full]
    exact kept
  · rw [equal]
    dsimp only
    have entering := kept.enter built
    unfold AAA.start
    split
    · exact entering
    · rename_i session present
      split
      · rename_i isAccounted
        exact entering.acctRequest present isAccounted _ .start (fun impossible => by cases impossible)
      · exact entering

end UpdatingBut

/-! ## One step -/

/-- The Alive request of an entry does not end the chain when its five seconds
are over. -/
def EndsSafely (aaa : AAA) (id : UInt8) (client : AuthClient AcctRequest AcctHandler)
    (entry : Outstanding AcctHandler) : Prop :=
  let ref := entry.handler.session
  entry.wait = .expired -> entry.handler.status = .alive -> aaa.sessions.Holds ref ->
    aaa.AccountingStarted ref ->
      aaa.InterimRuns ref ∨ AliveAwaited { aaa with acct := some (client.eraseEntry id) } ref

/-- The handler of an interim wait can send its request, or there is another wait
or request. -/
def SendsSafely (aaa : AAA) (ref index : Nat) (client : AuthClient AcctRequest AcctHandler)
    (session : AAASession) : Prop :=
  session.timer[index]? = some .expired -> aaa.sessions.Holds ref -> session.toStopAcct = true ->
    client.lastId + 1 ∉ client.callbacks ∨ aaa.AliveAwaited ref ∨
      Wait.expired ∈ session.timer.eraseIdx index

instance (aaa : AAA) (id : UInt8) (client : AuthClient AcctRequest AcctHandler)
    (entry : Outstanding AcctHandler) : Decidable (aaa.EndsSafely id client entry) :=
  inferInstanceAs (Decidable (_ -> _))

instance (aaa : AAA) (ref index : Nat) (client : AuthClient AcctRequest AcctHandler)
    (session : AAASession) : Decidable (aaa.SendsSafely ref index client session) :=
  have (timer : List Wait) : Decidable (Wait.expired ∈ timer) := inferInstance
  inferInstanceAs (Decidable (_ -> _))

/-- A session in the middle of its accounting loses no Alive request: when its
last one ends its five seconds an interim wait is there, and when an interim wait
is over the next identifier is free for the request. -/
def KeepsUpdating (aaa : AAA) : AAAEvent -> Prop
  | .acctTimer id => ∀ client ∈ aaa.acct, ∀ entry ∈ client.callbacks.lookup id,
      aaa.EndsSafely id client entry
  | .interimTimer _ ref index => ∀ client ∈ aaa.acct, ∀ session ∈ aaa.objects.deref ref,
      aaa.SendsSafely ref index client session
  | _ => True

instance (aaa : AAA) (event : AAAEvent) : Decidable (aaa.KeepsUpdating event) := by
  induction event using AAAEvent.casesOn <;> unfold KeepsUpdating <;> infer_instance

/-- A session that is stopped is not entered any more. -/
theorem not_holds_erase {aaa : AAA} (entered : Entered aaa) {sid : UInt32} {ref : Nat}
    (found : aaa.sessions.lookup sid = some ref) :
    ¬ Table.Holds (aaa.sessions.erase sid) ref := by
  rintro ⟨other, still⟩
  rw [Table.lookup_erase_eq] at still
  split at still
  · cases still
  · rename_i different
    exact different (entered.unique other sid ref still found)

/-- A request's timer has expired, or was cancelled, when its handler runs. -/
theorem acctTimer_not_armed {now after : AAA} {id : UInt8}
    {client : AuthClient AcctRequest AcctHandler} {entry : Outstanding AcctHandler}
    (fired : now.acctTimer id = some after) (present : now.acct = some client)
    (found : client.callbacks.lookup id = some entry) : entry.wait ≠ .armed := by
  intro armed
  unfold acctTimer at fired
  rw [present, Option.bind_some, found, Option.bind_some, armed] at fired
  cases fired

/-- The unanswered Alive requests are kept while an entry of another session goes. -/
theorem AliveAwaited.of_erase {aaa : AAA} {client : AuthClient AcctRequest AcctHandler} {id : UInt8}
    {entry : Outstanding AcctHandler} {ref : Nat} (present : aaa.acct = some client)
    (found : client.callbacks.lookup id = some entry) (awaited : aaa.AliveAwaited ref)
    (other : entry.handler = { status := .alive, session := ref } -> entry.wait = .aborted) :
    AliveAwaited { aaa with acct := some (client.eraseEntry id) } ref := by
  rcases awaited with ⟨known, is, place, kept, there, handler, waiting⟩
  rw [Option.mem_def, present] at is
  rw [← Option.some.inj is] at there
  refine ⟨_, rfl, place, kept, ?_, handler, waiting⟩
  have different : place ≠ id := by
    intro same
    rw [same, found] at there
    rw [← Option.some.inj there] at handler waiting
    exact waiting (other handler)
  unfold AuthClient.eraseEntry
  dsimp only
  rw [Table.lookup_erase_eq, if_neg different]
  exact there

/-- A changed object runs what its new timer says. -/
theorem interimRuns_updateObject {aaa : AAA} {ref : Nat} {session : AAASession}
    {change : AAASession -> AAASession} (present : aaa.objects.deref ref = some session)
    (live : (change session).timer.hasLive = true) :
    (aaa.updateObject ref change).InterimRuns ref := by
  refine ⟨change session, ?_, live⟩
  unfold updateObject
  dsimp only
  rw [Heap.deref_update, if_pos rfl, present]
  rfl

namespace UpdatingBut

variable {now after : AAA}

/-- A stop takes the session out of the table. -/
theorem stopSession (kept : UpdatingBut (fun _ => False) now) (entered : Entered now)
    (counters : Table UInt32 VPPIfaceCounters) (sid : UInt32) :
    UpdatingBut (fun _ => False) (now.stopSession counters sid) := by
  unfold AAA.stopSession
  split
  · exact kept
  · rename_i ref found
    have stopped := (kept.weaken (fun other => other = ref)).stop counters rfl
    have erased : UpdatingBut (fun other => other = ref) { now.stop counters ref with
        sessions := (now.stop counters ref).sessions.erase sid } :=
      stopped.of_fewer (fun _ => rfl) rfl (fun _ _ still => Table.lookup_of_erase still)
    have gone : ¬ Table.Holds ((now.stop counters ref).sessions.erase sid) ref := by
      rw [stop_sessions]
      exact not_holds_erase entered found
    refine (erased.close (fun other same holds _ => ?_) (fun handler _ _ same holds => ?_)).collect ref
    · exact absurd (same ▸ holds) gone
    · rw [same] at holds
      exact gone holds

theorem stopAllSessions (kept : UpdatingBut (fun _ => False) now)
    (counters : Table UInt32 VPPIfaceCounters) :
    UpdatingBut (fun _ => False) (now.stopAllSessions counters) := by
  have stopped := (kept.weaken (fun ref => ref ∈ now.sessions.values)).foldl_stop counters
    now.sessions.values (fun _ member => member)
  have cleared : UpdatingBut (fun ref => ref ∈ now.sessions.values)
      { now.sessions.values.foldl (fun aaa ref => aaa.stop counters ref) now with sessions := ∅ } :=
    stopped.of_fewer (fun _ => rfl) rfl (fun _ _ still => by cases still)
  refine foldl_collect _ (cleared.close (fun ref _ holds _ => ?_) (fun handler _ _ _ holds => ?_))
  · rcases holds with ⟨sid, still⟩
    cases still
  · rcases holds with ⟨sid, still⟩
    cases still

/-- The answer to a Start or Alive request starts the next wait. -/
theorem acctDatagram {inputs : AAAInputs} {datagram : Bytes} (kept : UpdatingBut (fun _ => False) now)
    (taken : now.acctDatagram inputs datagram = some after) : UpdatingBut (fun _ => False) after := by
  rcases acctDatagram_cases taken with ⟨client, filled, answer, present, filling, outcome⟩
  rcases AuthClient.onRcv_cases filling with ⟨⟨buf, receives, same⟩, outstanding⟩
  rcases outcome with ⟨_, discarded⟩ | ⟨given, is, finished⟩
  · rw [discarded, same]
    refine kept.client present (fun _ holds => holds) ?_
    rintro ref _ ⟨known, isKnown, rest⟩
    rw [Option.mem_def, present] at isKnown
    rw [← Option.some.inj isKnown] at rest
    exact ⟨_, rfl, rest⟩
  · rcases outstanding given is with ⟨entry, found, handler⟩
    have accounts : now.Accounts given.handler := ⟨client, present, given.id, entry, found, handler⟩
    rcases kept.accounted _ accounts with ⟨session, there, isAccounted⟩
    have cancelled : UpdatingBut (fun ref => ref = given.handler.session)
        { now with acct := some (filled.cancelTimer given.id) } := by
      rw [same]
      refine (kept.weaken _).client present (fun _ holds => .of_cancelTimer holds) ?_
      rintro ref other ⟨known, isKnown, place, old, was, isAlive, waiting⟩
      rw [Option.mem_def, present] at isKnown
      rw [← Option.some.inj isKnown] at was
      refine ⟨_, rfl, place, old, ?_, isAlive, waiting⟩
      have different : place ≠ given.id := by
        intro here
        rw [here, found] at was
        rw [← handler, Option.some.inj was, isAlive] at other
        exact other rfl
      unfold AuthClient.cancelTimer
      dsimp only
      rw [Table.lookup_modify_eq, if_neg different]
      exact was
    -- Requests and entries are those of the state before.
    have stops : forall handler, Accounts { now with acct := some (filled.cancelTimer given.id) } handler ->
        handler.status = .stop -> ¬ now.sessions.Holds handler.session := by
      rintro other ⟨known, isKnown, holds⟩ isStop
      rw [← Option.some.inj isKnown] at holds
      have held := AuthClient.Holds.of_cancelTimer holds
      rw [same] at held
      exact kept.stops other ⟨client, present, held⟩ isStop id
    rw [finished]
    unfold AAA.acctAnswer
    cases status : given.handler.status with
    | start =>
        have restarted : UpdatingBut (fun ref => ref = given.handler.session)
            (AAA.onStarted { now with acct := some (filled.cancelTimer given.id) }
              given.handler.session) := by
          refine cancelled.updateObject _ (fun _ => rfl) (fun old was _ => .inr ⟨?_, rfl⟩) (.inl rfl)
          rw [Option.some.inj (was.symm.trans there)]
          exact isAccounted
        refine restarted.close (fun ref here _ _ => .inl ?_) (fun other held isStop _ => stops other held isStop)
        rw [here]
        exact interimRuns_updateObject there (Timer.hasLive_restart _)
    | alive =>
        have restarted : UpdatingBut (fun ref => ref = given.handler.session)
            (AAA.onInterimAnswer { now with acct := some (filled.cancelTimer given.id) }
              given.handler.session) :=
          cancelled.onTimer _ (.inl rfl)
        refine restarted.close (fun ref here _ _ => .inl ?_) (fun other held isStop _ => stops other held isStop)
        rw [here]
        exact interimRuns_updateObject there (Timer.hasLive_restart _)
    | stop =>
        have ended : UpdatingBut (fun ref => ref = given.handler.session)
            (AAA.onStopped { now with acct := some (filled.cancelTimer given.id) }
              given.handler.session) :=
          cancelled.onTimer _ (.inl rfl)
        refine ended.close (fun ref here holds _ => ?_) (fun other held isStop _ => stops other held isStop)
        rw [here] at holds
        exact absurd holds (kept.stops _ accounts status id)

/-- A request that is over was answered, or another request or wait is there. -/
theorem acctTimer {id : UInt8} (kept : UpdatingBut (fun _ => False) now)
    (permitted : now.KeepsUpdating (.acctTimer id)) (taken : now.acctTimer id = some after) :
    UpdatingBut (fun _ => False) after := by
  rcases acctTimer_cases taken with ⟨client, entry, present, found, finished⟩
  have erased : UpdatingBut (fun ref => ref = entry.handler.session)
      { now with acct := some (client.eraseEntry id) } := by
    refine (kept.weaken _).client present (fun _ holds => AuthClient.Holds.of_eraseEntry holds) ?_
    intro ref other awaited
    refine awaited.of_erase present found (fun same => absurd ?_ other)
    rw [same]
  rw [finished]
  refine (erased.close (fun ref here holds started => ?_) (fun other accounts isStop _ => ?_)).collect _
  · rw [here] at holds started ⊢
    rcases kept.updating _ (fun absent => absent) holds started with runs | awaited
    · exact .inl runs
    · by_cases waiting : entry.wait = .expired ∧ entry.handler.status = .alive
      · exact permitted client present entry found waiting.1 waiting.2 holds started
      · refine .inr (awaited.of_erase present found (fun isAlive => ?_))
        have unarmed := acctTimer_not_armed taken present found
        cases wait : entry.wait with
        | armed => exact absurd wait unarmed
        | expired => exact absurd ⟨wait, congrArg AcctHandler.status isAlive⟩ waiting
        | aborted => rfl
  · rcases accounts with ⟨known, isKnown, held⟩
    rw [← Option.some.inj isKnown] at held
    exact kept.stops other ⟨client, present, .of_eraseEntry held⟩ isStop False.elim

/-- The handler of an interim wait sends a request, or it was cancelled. -/
theorem interimTimer {counters : Table UInt32 VPPIfaceCounters} {ref index : Nat}
    (kept : UpdatingBut (fun _ => False) now)
    (permitted : now.KeepsUpdating (.interimTimer counters ref index))
    (taken : now.interimTimer counters ref index = some after) :
    UpdatingBut (fun _ => False) after := by
  rcases interimTimer_cases taken with ⟨session, present, ⟨expired, finished⟩ | ⟨aborted, finished⟩⟩
  · have popped := @onTimer now _ (kept.weaken (fun other => other = ref)) ref
      (fun timer => timer.eraseIdx index) (.inl rfl)
    have there : (now.updateObject ref (AAA.onTimer (fun timer => timer.eraseIdx index))).objects.deref
        ref = some (AAA.onTimer (fun timer => timer.eraseIdx index) session) := by
      unfold AAA.updateObject
      dsimp only
      rw [Heap.deref_update, if_pos rfl, present]
      rfl
    rw [finished]
    refine UpdatingBut.collect ?_ ref
    unfold AAA.onInterim
    rw [there]
    dsimp only
    by_cases isAccounted : session.acct = true
    · rw [if_pos (show (AAA.onTimer _ session).acct = true from isAccounted)]
      have cancelled := @onTimer _ _ popped ref Timer.cancel (.inl rfl)
      have cancelledThere : ((now.updateObject ref (AAA.onTimer (fun timer => timer.eraseIdx index)))
          |>.updateObject ref (AAA.onTimer Timer.cancel)).objects.deref ref =
            some (AAA.onTimer Timer.cancel (AAA.onTimer (fun timer => timer.eraseIdx index) session)) := by
        unfold AAA.updateObject at there ⊢
        dsimp only at there ⊢
        rw [Heap.deref_update, if_pos rfl, there]
        rfl
      have sent := cancelled.acctRequest cancelledThere isAccounted
        (acctRecord (AAA.onTimer (fun timer => timer.eraseIdx index) session) .alive
          (counters.lookup session.ifindex)) .alive (fun impossible => by cases impossible)
      refine sent.close (fun other here holds started => ?_) (fun other accounts isStop _ => ?_)
      · rcases started with ⟨record, is, isStarted⟩
        have same : record = AAA.onTimer Timer.cancel
            (AAA.onTimer (fun timer => timer.eraseIdx index) session) := by
          rw [here] at is
          exact Option.some.inj (is.symm.trans cancelledThere)
        rw [same] at isStarted
        rw [here] at holds ⊢
        rcases Option.isSome_iff_exists.mp (kept.started ref session present isStarted).2 with
          ⟨client, isClient⟩
        rcases permitted client isClient session present expired holds isStarted with
          free | awaited | another
        · exact .inr (aliveAwaited_of_sent isClient free _)
        · have before : AliveAwaited ((now.updateObject ref (AAA.onTimer (fun timer =>
              timer.eraseIdx index))).updateObject ref (AAA.onTimer Timer.cancel)) ref := awaited
          exact .inr (before.acctRequest _ _)
        · exact .inl (interimRuns_updateObject there ((Timer.hasLive_cancel_iff _).mpr another))
      · rcases accounts.of_acctRequest with old | new
        · exact kept.stops other old isStop id
        · rw [new] at isStop
          cases isStop
    · rw [if_neg (show ¬ (AAA.onTimer _ session).acct = true from isAccounted)]
      refine popped.close (fun other here holds started => ?_) (fun other accounts isStop _ =>
        kept.stops other accounts isStop id)
      rcases started with ⟨record, is, isStarted⟩
      rw [here, Option.mem_def, there] at is
      rw [← Option.some.inj is] at isStarted
      exact absurd (kept.started ref session present isStarted).1 isAccounted
  · have popped := @onTimer now _ (kept.weaken (fun other => other = ref)) ref
      (fun timer => timer.eraseIdx index) (.inl rfl)
    rw [finished]
    refine (popped.close (fun other here holds started => ?_) (fun other accounts isStop _ =>
      kept.stops other accounts isStop id)).collect ref
    rw [here] at holds started ⊢
    have before : now.AccountingStarted ref := by
      rcases started with ⟨record, is, isStarted⟩
      unfold AAA.updateObject at is
      rw [Option.mem_def, Heap.deref_update, if_pos rfl, present] at is
      rw [← Option.some.inj is] at isStarted
      exact ⟨session, present, isStarted⟩
    rcases kept.updating ref id holds before with ⟨known, isKnown, live⟩ | alive
    · rw [Option.some.inj (isKnown.symm.trans present)] at live
      exact .inl (interimRuns_updateObject present (Timer.hasLive_eraseIdx_of_aborted aborted live))
    · exact .inr alive

end UpdatingBut

theorem updatingBut_step {now after : AAA} {event : AAAEvent}
    (kept : UpdatingBut (fun _ => False) now) (entered : Entered now)
    (permitted : now.KeepsUpdating event) (taken : step now event = some after) :
    UpdatingBut (fun _ => False) after := by
  cases event with
  | startSession inputs user credential encap callback =>
      rcases Option.map_eq_some_iff.mp taken with ⟨out, started, equal⟩
      rw [← equal]
      exact @startByMethods_induction (UpdatingBut (fun _ => False)) _ _ _ _ _ _ _ _
        (fun _ _ here => here.of_fewer (fun _ => rfl) rfl (fun _ _ found => found))
        (fun _ _ _ _ here _ construction => here.enter (builtAs_constructNone construction)) kept started
  | stopSession counters sid => exact Option.some.inj taken ▸ kept.stopSession entered counters sid
  | stopAllSessions counters => exact Option.some.inj taken ▸ kept.stopAllSessions counters
  | mapIfaceToSession sid ifindex =>
      rw [← Option.some.inj taken]
      unfold AAA.mapIfaceToSession
      split
      · exact kept
      · exact kept.updateObject _ (fun _ => rfl) (fun _ _ flag => .inl flag)
          (.inr (fun _ => ⟨rfl, fun live => live⟩))
  | authDatagram inputs datagram =>
      rcases Option.map_eq_some_iff.mp taken with ⟨out, received, equal⟩
      rw [← equal]
      rcases authDatagram_cases received with
        ⟨client, filled, answer, _, _, ⟨_, discarded⟩ | ⟨given, processed, _, answered, finished⟩⟩
      · rw [discarded]
        exact kept.of_fewer (fun _ => rfl) rfl (fun _ _ found => found)
      · have before : UpdatingBut (fun _ => False) { now with auth := some filled } :=
          kept.of_fewer (fun _ => rfl) rfl (fun _ _ found => found)
        rw [finished]
        exact (before.processRadiusAnswer answered).of_fewer (fun _ => rfl) rfl
          (fun _ _ found => found)
  | authExpires id =>
      rw [← Option.some.inj taken]
      exact kept.of_fewer (fun _ => rfl) rfl (fun _ _ found => found)
  | authTimer id =>
      rcases step_authTimer taken with ⟨auth, erased⟩
      rw [erased]
      exact kept.of_fewer (fun _ => rfl) rfl (fun _ _ found => found)
  | acctDatagram inputs datagram => exact kept.acctDatagram taken
  | acctExpires id =>
      rw [← Option.some.inj taken]
      unfold AAA.acctExpires
      cases present : now.acct with
      | none => exact kept.of_fewer (fun _ => rfl) present.symm (fun _ _ found => found)
      | some client =>
          refine kept.client present (fun _ holds => AuthClient.Holds.of_timerExpires holds) ?_
          rintro ref _ ⟨known, isKnown, place, old, was, isAlive, waiting⟩
          rw [Option.mem_def, present] at isKnown
          rw [← Option.some.inj isKnown] at was
          by_cases here : place = id
          · refine ⟨_, rfl, place, { old with wait := old.wait.expire }, ?_, isAlive, ?_⟩
            · unfold AuthClient.timerExpires
              dsimp only
              rw [Table.lookup_modify_eq, if_pos here, was]
              rfl
            · intro aborted
              cases wait : old.wait with
              | aborted => exact waiting wait
              | armed =>
                  dsimp only at aborted
                  rw [wait] at aborted
                  cases aborted
              | expired =>
                  dsimp only at aborted
                  rw [wait] at aborted
                  cases aborted
          · refine ⟨_, rfl, place, old, ?_, isAlive, waiting⟩
            unfold AuthClient.timerExpires
            dsimp only
            rw [Table.lookup_modify_eq, if_neg here]
            exact was
  | acctTimer id => exact kept.acctTimer permitted taken
  | interimExpires ref =>
      rw [← Option.some.inj taken]
      refine kept.onTimer ref (.inr (fun timer live => ?_))
      rw [Timer.hasLive_expire]
      exact live
  | interimTimer counters ref index => exact kept.interimTimer permitted taken
  | reload conf templates =>
      rw [(step_reload taken).2]
      exact kept.of_fewer (fun _ => rfl) rfl (fun _ _ found => found)

theorem Unused.updatingBut {aaa : AAA} (unused : aaa.Unused) : UpdatingBut (fun _ => False) aaa where
  updating := by
    rintro ref _ ⟨sid, found⟩
    rw [unused.sessions] at found
    cases found
  stops := by
    rintro handler _ _ _ ⟨sid, found⟩
    rw [unused.sessions] at found
    cases found
  accounted := by
    rintro handler ⟨client, is, id, entry, found, _⟩
    rw [(unused.acct client is).1] at found
    cases found
  started := by
    intro ref session present
    rw [unused.objects] at present
    cases present

/-- **The chain holds.**  While no last Alive request of a session ends without an
answer, and none is dropped, every session between its Start answer and its stop
has an interim wait or an unanswered Alive request. -/
theorem updating_of_run {start now : AAA} {past : List (AAA × AAAEvent)} (unused : start.Unused)
    (run : Run step KeepsUpdating start past now) : now.Updating := by
  have atStart : UpdatingBut (fun _ => False) start ∧ Entered start :=
    ⟨unused.updatingBut, entered_empty unused.sessions⟩
  have both := @Run.invariant _ _ _ _ _ _ _ (fun aaa => UpdatingBut (fun _ => False) aaa ∧ Entered aaa)
    atStart (fun _ _ _ here permitted taken =>
      ⟨updatingBut_step here.1 here.2 permitted taken, (grows_step taken).entered here.2⟩) run
  exact fun ref => both.1.updating ref id

/-! ## A lost answer -/

/-- The Start request of an accepted session is answered, and its first interim
wait is over. -/
def firstUpdate : List AAAEvent :=
  acceptSession ++ [.acctDatagram {} (answerFor acceptedSession.acct 0 5), .acctTimer 1,
    .interimExpires 0, .interimTimer ∅ 0 0]

def updatedSession : AAA := after step (sample [.radius]) firstUpdate (by decide +kernel)

theorem updating_at_updatedSession : updatedSession.Updating := by
  rcases run_after step KeepsUpdating (sample [.radius]) firstUpdate (by decide +kernel)
    (by decide +kernel) with ⟨past, run⟩
  exact updating_of_run (unused_sample _) run

/-- The Alive request gets no answer, and nothing follows it. -/
theorem lost_answer_ends_updates :
    ¬ forall past now, Run step anyStep (sample [.radius]) past now -> now.Updating := by
  intro always
  rcases run_after step anyStep (sample [.radius]) (firstUpdate ++ [.acctExpires 2, .acctTimer 2])
    (by decide +kernel) (permitted_anyStep _ _ _) with ⟨past, run⟩
  exact absurd (always past _ run 0 (by decide +kernel) (by decide +kernel)) (by decide +kernel)

end AAA

end Pppcpd
