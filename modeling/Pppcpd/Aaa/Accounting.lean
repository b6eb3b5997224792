import Pppcpd.Aaa.Entries

namespace Pppcpd

open Foundation

/-!
# Interim accounting after a session was stopped

`stop` cancels the interim timer and sends a last request.  Three handlers can
still run afterwards: the answers to a Start and to an Alive request arm the
timer again, and a wait that had expired before it was cancelled sends another
Alive request.  None of them looks whether the session was stopped.
-/

namespace AAA

/-- The accounting requests with the status Alive that were sent for a session
object, oldest first. -/
def aliveRequests (aaa : AAA) (ref : Nat) : List (SentRequest AcctRequest AcctHandler) :=
  match aaa.acct with
  | none => []
  | some client =>
      client.sent.filter (fun sent =>
        sent.request.acctStatusType = .alive ∧ sent.handler.session = ref)

/-- A wait on the interim timer of a session object is armed. -/
def InterimArmed (aaa : AAA) (ref : Nat) : Prop :=
  ∃ session, aaa.objects.deref ref = some session ∧ Wait.armed ∈ session.timer

/-- Between two states no Alive request was sent for a session object and its
interim timer was not armed. -/
structure Silent (ref : Nat) (before after : AAA) : Prop where
  requests : after.aliveRequests ref = before.aliveRequests ref
  timer : after.InterimArmed ref -> before.InterimArmed ref

namespace Silent

variable {ref : Nat}

theorem refl (aaa : AAA) : Silent ref aaa aaa := ⟨rfl, id⟩

theorem trans {first second third : AAA} (left : Silent ref first second)
    (right : Silent ref second third) : Silent ref first third :=
  ⟨right.requests.trans left.requests, fun armed => left.timer (right.timer armed)⟩

/-- A change of neither the objects nor the accounting client. -/
theorem of_same {before after : AAA} (objects : after.objects = before.objects)
    (acct : after.acct = before.acct) : Silent ref before after := by
  refine ⟨?_, ?_⟩
  · unfold aliveRequests
    rw [acct]
  · rintro ⟨session, present, armed⟩
    rw [objects] at present
    exact ⟨session, present, armed⟩

theorem sessions (aaa : AAA) (table : Table UInt32 Nat) :
    Silent ref aaa { aaa with sessions := table } :=
  of_same rfl rfl

theorem auth (aaa : AAA) (client : Option (AuthClient RadiusRequest AuthHandler)) :
    Silent ref aaa { aaa with auth := client } :=
  of_same rfl rfl

/-- A change of the accounting client that sends nothing. -/
theorem of_sent {before : AAA} {client : AuthClient AcctRequest AcctHandler}
    (after : AuthClient AcctRequest AcctHandler) (present : before.acct = some client)
    (sent : after.sent = client.sent) : Silent ref before { before with acct := some after } := by
  refine ⟨?_, id⟩
  unfold aliveRequests
  rw [present]
  dsimp only
  rw [sent]

/-- A change of a session object that arms nothing of the observed one. -/
theorem updateObject (aaa : AAA) (other : Nat) (change : AAASession -> AAASession)
    (arms : other = ref -> forall session, Wait.armed ∈ (change session).timer ->
      Wait.armed ∈ session.timer) : Silent ref aaa (aaa.updateObject other change) := by
  refine ⟨rfl, ?_⟩
  rintro ⟨session, present, armed⟩
  unfold AAA.updateObject at present
  dsimp only at present
  rw [Heap.deref_update] at present
  by_cases here : ref = other
  · rw [if_pos here] at present
    rcases Option.map_eq_some_iff.mp present with ⟨earlier, found, changed⟩
    rw [← changed] at armed
    exact ⟨earlier, found, arms here.symm earlier armed⟩
  · rw [if_neg here] at present
    exact ⟨session, present, armed⟩

theorem cancel (aaa : AAA) (other : Nat) :
    Silent ref aaa (aaa.updateObject other (onTimer Timer.cancel)) :=
  updateObject aaa other _ (fun _ session armed =>
    absurd armed (Timer.armed_not_mem_cancel session.timer))

/-- A request that is not an Alive request for the observed object. -/
theorem acctRequest (aaa : AAA) (request : AcctRequest) (handler : AcctHandler)
    (other : ¬ (request.acctStatusType = .alive ∧ handler.session = ref)) :
    Silent ref aaa (aaa.acctRequest request handler) := by
  refine ⟨?_, id⟩
  unfold aliveRequests AAA.acctRequest
  cases aaa.acct with
  | none => rfl
  | some client =>
      dsimp only [Option.map_some]
      rcases client.acctRequest_cases aaa.md5 aaa.dict request handler with
        ⟨_, _, _, sent⟩ | dropped
      · rw [sent]
        dsimp only
        rw [List.filter_append]
        simp [other]
      · rw [dropped]

theorem destruct (aaa : AAA) (other : Nat) : Silent ref aaa (aaa.destruct other) := by
  unfold AAA.destruct
  split
  · exact refl aaa
  · rename_i session _
    refine (cancel aaa other).trans ?_
    have gave : Silent ref (aaa.updateObject other (onTimer Timer.cancel))
        ((aaa.updateObject other (onTimer Timer.cancel)).giveBack session) := by
      unfold giveBack
      split <;> exact of_same rfl rfl
    refine gave.trans ⟨rfl, ?_⟩
    rintro ⟨object, present, armed⟩
    dsimp only at present
    rw [Heap.deref_destroy] at present
    exact ⟨object, present, armed⟩

theorem collect (aaa : AAA) (other : Nat) : Silent ref aaa (aaa.collect other) := by
  unfold AAA.collect
  split
  · exact destruct aaa other
  · exact refl aaa

theorem foldl_collect (refs : List Nat) (aaa : AAA) :
    Silent ref aaa (refs.foldl (fun aaa other => aaa.collect other) aaa) := by
  induction refs generalizing aaa with
  | nil => exact refl aaa
  | cons other rest inductionHypothesis =>
      exact (collect aaa other).trans (inductionHypothesis _)

/-- A new object has no wait on its timer. -/
theorem built {aaa made : AAA} {sid : UInt32} (construction : Built sid aaa made) :
    Silent ref aaa made := by
  rcases construction with ⟨session, pools, idle, _, made⟩
  rw [made]
  refine ⟨rfl, ?_⟩
  rintro ⟨object, present, armed⟩
  unfold makeObject at present
  dsimp only at present
  rw [Heap.deref_make] at present
  split at present
  · rw [← Option.some.inj present, idle] at armed
    exact absurd armed List.not_mem_nil
  · exact ⟨object, present, armed⟩

theorem start (aaa : AAA) (other : Nat) : Silent ref aaa (aaa.start other) := by
  unfold AAA.start
  split
  · exact refl aaa
  · split
    · exact acctRequest aaa _ _ (fun alive => AcctStatus.noConfusion alive.1)
    · exact refl aaa

theorem stop (aaa : AAA) (counters : Table UInt32 VPPIfaceCounters) (other : Nat) :
    Silent ref aaa (aaa.stop counters other) := by
  unfold AAA.stop
  split
  · exact refl aaa
  · dsimp only
    split
    · exact (cancel aaa other).trans
        (acctRequest _ _ _ (fun alive => AcctStatus.noConfusion alive.1))
    · exact cancel aaa other

theorem foldl_stop (counters : Table UInt32 VPPIfaceCounters) (refs : List Nat) (aaa : AAA) :
    Silent ref aaa (refs.foldl (fun aaa other => aaa.stop counters other) aaa) := by
  induction refs generalizing aaa with
  | nil => exact refl aaa
  | cons other rest inductionHypothesis =>
      exact (stop aaa counters other).trans (inductionHypothesis _)

/-- Making sessions and asking a server is silent. -/
theorem started {inputs : AAAInputs} {user : Bytes} {credential : Credential}
    {encap : Encapsulation} {callback : AAACallback} {aaa after : AAA} {calls : List CallbackCall}
    (path : Started inputs user credential encap callback aaa after calls) :
    Silent ref aaa after := by
  induction path with
  | idle aaa => exact refl aaa
  | asked aaa => exact of_same rfl rfl
  | made _ construction _ inductionHypothesis =>
      exact ((built construction).trans (sessions _ _)).trans inductionHypothesis

theorem processRadiusAnswer {aaa : AAA} {inputs : AAAInputs} {handler : AuthHandler} {code : UInt8}
    {attributes : Bytes} {out : AAA × List CallbackCall}
    (processed : aaa.processRadiusAnswer inputs handler code attributes = some out) :
    Silent ref aaa out.1 := by
  rcases processRadiusAnswer_cases processed with ⟨_, full⟩ | ⟨sid, made, _, construction, entered⟩
  · rw [full]
    exact refl aaa
  · rw [entered]
    exact ((built construction.built).trans (sessions _ _)).trans (start _ _)

theorem authDatagram {aaa : AAA} {inputs : AAAInputs} {datagram : Bytes}
    {out : AAA × List CallbackCall} (received : aaa.authDatagram inputs datagram = some out) :
    Silent ref aaa out.1 := by
  rcases authDatagram_cases received with
    ⟨client, filled, answer, _, _, ⟨_, discarded⟩ | ⟨given, processed, _, answered, finished⟩⟩
  · rw [discarded]
    exact auth aaa _
  · rw [finished]
    exact ((auth aaa _).trans (processRadiusAnswer answered)).trans (auth _ _)

/-- An answer that is not for a Start or Alive request of the observed object. -/
theorem acctAnswer (aaa : AAA) (handler : AcctHandler)
    (other : handler.status ≠ .stop -> handler.session ≠ ref) :
    Silent ref aaa (aaa.acctAnswer handler) := by
  unfold AAA.acctAnswer
  cases status : handler.status with
  | start => exact updateObject aaa _ _ (fun same => absurd same (other (by rw [status]; decide)))
  | alive => exact updateObject aaa _ _ (fun same => absurd same (other (by rw [status]; decide)))
  | stop => exact cancel aaa handler.session

/-- An interim tick of another object. -/
theorem onInterim (aaa : AAA) (counters : Table UInt32 VPPIfaceCounters) {other : Nat}
    (different : other ≠ ref) : Silent ref aaa (aaa.onInterim counters other) := by
  unfold AAA.onInterim
  split
  · exact refl aaa
  · split
    · exact (cancel aaa other).trans (acctRequest _ _ _ (fun alive => different alive.2))
    · exact refl aaa

theorem stopSession (aaa : AAA) (counters : Table UInt32 VPPIfaceCounters) (sid : UInt32) :
    Silent ref aaa (aaa.stopSession counters sid) := by
  unfold AAA.stopSession
  split
  · exact refl aaa
  · rename_i other _
    exact ((stop aaa counters other).trans (sessions _ _)).trans (collect _ other)

theorem stopAllSessions (aaa : AAA) (counters : Table UInt32 VPPIfaceCounters) :
    Silent ref aaa (aaa.stopAllSessions counters) :=
  ((foldl_stop counters _ aaa).trans (sessions _ _)).trans (foldl_collect _ _)

end Silent

/-- The handler that a datagram at the accounting client is an answer for. -/
def answered (aaa : AAA) (inputs : AAAInputs) (datagram : Bytes) : Option AcctHandler :=
  aaa.acct.bind (fun client =>
    (client.onRcv aaa.md5 inputs.behind datagram).bind (fun received =>
      received.2.map AuthClient.Answer.handler))

/-- A Start or Alive answer, or an interim tick, comes only for a session that
is still entered. -/
def HandlesEntered (aaa : AAA) : AAAEvent -> Prop
  | .acctDatagram inputs datagram => ∀ handler ∈ aaa.answered inputs datagram,
      handler.status ≠ .stop -> aaa.sessions.Holds handler.session
  | .interimTimer _ ref index => ∀ session ∈ aaa.objects.deref ref,
      session.timer[index]? = some .expired -> aaa.sessions.Holds ref
  | _ => True

instance (aaa : AAA) (event : AAAEvent) : Decidable (aaa.HandlesEntered event) := by
  induction event using AAAEvent.casesOn <;> unfold HandlesEntered <;> infer_instance

/-- An event is silent about every object that is not entered. -/
theorem silent_step {now after : AAA} {event : AAAEvent} {ref : Nat}
    (outside : ¬ now.sessions.Holds ref) (handles : HandlesEntered now event)
    (taken : step now event = some after) : Silent ref now after := by
  cases event with
  | startSession inputs user credential encap callback =>
      rcases Option.map_eq_some_iff.mp taken with ⟨out, started, equal⟩
      exact equal ▸ .started (started_of_startByMethods started)
  | stopSession counters sid => exact Option.some.inj taken ▸ .stopSession now counters sid
  | stopAllSessions counters => exact Option.some.inj taken ▸ .stopAllSessions now counters
  | mapIfaceToSession sid ifindex =>
      rw [← Option.some.inj taken]
      unfold AAA.mapIfaceToSession
      split
      · exact .refl now
      · exact .updateObject now _ _ (fun _ _ armed => armed)
  | authDatagram inputs datagram =>
      rcases Option.map_eq_some_iff.mp taken with ⟨out, received, equal⟩
      exact equal ▸ .authDatagram received
  | authExpires id => exact Option.some.inj taken ▸ .auth now _
  | authTimer id =>
      rcases step_authTimer taken with ⟨auth, erased⟩
      rw [erased]
      exact .auth now _
  | acctDatagram inputs datagram =>
      rcases acctDatagram_cases taken with
        ⟨client, filled, answer, present, filling, ⟨_, discarded⟩ | ⟨given, answered, finished⟩⟩
      · rcases (AuthClient.onRcv_cases filling).1 with ⟨buf, receives, same⟩
        rw [discarded]
        exact .of_sent filled present (by rw [same])
      · rcases (AuthClient.onRcv_cases filling).1 with ⟨buf, receives, same⟩
        rw [answered] at filling
        rw [finished]
        refine Silent.trans (.of_sent (filled.cancelTimer given.id) present ?_) (.acctAnswer _ _ ?_)
        · rw [same]
          rfl
        · intro status here
          have handler : now.answered inputs datagram = some given.handler := by
            unfold AAA.answered
            rw [present, Option.bind_some, filling]
            rfl
          exact outside (here ▸ handles given.handler handler status)
  | acctExpires id =>
      rw [← Option.some.inj taken]
      unfold AAA.acctExpires
      cases present : now.acct with
      | none => exact .of_same rfl present.symm
      | some client => exact .of_sent _ present rfl
  | acctTimer id =>
      rcases acctTimer_cases taken with ⟨client, entry, present, _, finished⟩
      rw [finished]
      exact (Silent.of_sent (client.eraseEntry id) present rfl).trans (.collect _ _)
  | interimExpires other =>
      rw [← Option.some.inj taken]
      exact .updateObject now other _ (fun _ session armed =>
        absurd armed (Timer.armed_not_mem_expire session.timer))
  | interimTimer counters other index =>
      rcases interimTimer_cases taken with ⟨session, present, ⟨expired, finished⟩ | ⟨_, finished⟩⟩
      · rw [finished]
        have different : other ≠ ref := by
          intro same
          exact outside (same ▸ handles session present expired)
        have popped : Silent ref now
            (now.updateObject other (onTimer (fun timer => timer.eraseIdx index))) :=
          .updateObject now other _ (fun _ _ armed => List.mem_of_mem_eraseIdx armed)
        exact (popped.trans (.onInterim _ counters different)).trans (.collect _ _)
      · rw [finished]
        exact (Silent.updateObject now other _ (fun _ _ armed => List.mem_of_mem_eraseIdx armed)).trans
          (.collect _ _)
  | reload conf templates =>
      rw [(step_reload taken).2]
      exact .of_same rfl rfl

/-! ## Runs -/

/-- The event calls `stop` on a session object. -/
def Stops (aaa : AAA) (ref : Nat) : AAAEvent -> Prop
  | .stopSession _ sid => aaa.sessions.lookup sid = some ref
  | .stopAllSessions _ => aaa.sessions.Holds ref
  | _ => False

/-- Since each recorded stop of a session object no Alive request was sent for
it, and its interim timer is not armed. -/
def QuietSinceStop (past : List (AAA × AAAEvent)) (now : AAA) : Prop :=
  forall earlier event ref, (earlier, event) ∈ past -> earlier.Stops ref event ->
    now.aliveRequests ref = earlier.aliveRequests ref ∧ ¬ now.InterimArmed ref

theorem not_interimArmed_cancel (aaa : AAA) (ref : Nat) :
    ¬ (aaa.updateObject ref (onTimer Timer.cancel)).InterimArmed ref := by
  rintro ⟨session, present, armed⟩
  unfold AAA.updateObject at present
  dsimp only at present
  rw [Heap.deref_update, if_pos rfl] at present
  rcases Option.map_eq_some_iff.mp present with ⟨earlier, _, changed⟩
  rw [← changed] at armed
  exact Timer.armed_not_mem_cancel earlier.timer armed

theorem not_interimArmed_stop (aaa : AAA) (counters : Table UInt32 VPPIfaceCounters) (ref : Nat) :
    ¬ (aaa.stop counters ref).InterimArmed ref := by
  unfold AAA.stop
  split
  · rename_i dangling
    rintro ⟨session, present, _⟩
    rw [dangling] at present
    cases present
  · dsimp only
    have cancelled := not_interimArmed_cancel aaa ref
    split
    · exact cancelled
    · exact cancelled

theorem not_interimArmed_foldl_stop (counters : Table UInt32 VPPIfaceCounters) {refs : List Nat}
    {ref : Nat} (member : ref ∈ refs) (aaa : AAA) :
    ¬ (refs.foldl (fun aaa other => aaa.stop counters other) aaa).InterimArmed ref := by
  induction refs generalizing aaa with
  | nil => exact absurd member List.not_mem_nil
  | cons other rest inductionHypothesis =>
      rcases List.mem_cons.mp member with here | later
      · rw [← here]
        exact fun armed => not_interimArmed_stop aaa counters ref
          ((Silent.foldl_stop counters rest _).timer armed)
      · exact inductionHypothesis later _

/-- A stopped session is not entered any more, and its timer is not armed. -/
theorem outside_of_stops {now after : AAA} {event : AAAEvent} {ref : Nat} (entered : Entered now)
    (stops : now.Stops ref event) (taken : step now event = some after) :
    ¬ after.sessions.Holds ref ∧ ¬ after.InterimArmed ref ∧
      after.aliveRequests ref = now.aliveRequests ref := by
  cases event with
  | stopSession counters sid =>
      have found : now.sessions.lookup sid = some ref := stops
      have old := entered.made sid ref found
      have same : after = AAA.collect { now.stop counters ref with
          sessions := (now.stop counters ref).sessions.erase sid } ref := by
        rw [← Option.some.inj taken]
        unfold AAA.stopSession
        rw [found]
      have silent : Silent ref now after := Option.some.inj taken ▸ .stopSession now counters sid
      refine ⟨?_, ?_, silent.requests⟩
      · rintro ⟨other, still⟩
        rw [same] at still
        rcases (Grows.collect _ ref).entries other ref still with before | new
        · dsimp only at before
          rw [Table.lookup_erase_eq] at before
          split at before
          · cases before
          · rename_i different
            rcases (Grows.stop now counters ref).entries other ref before with earlier | new
            · exact different (entered.unique other sid ref earlier found)
            · exact absurd old (Nat.not_lt_of_le new)
        · exact absurd (Nat.lt_of_lt_of_le old (Grows.stop now counters ref).objects)
            (Nat.not_lt_of_le new)
      · intro armed
        rw [same] at armed
        exact not_interimArmed_stop now counters ref
          (((Silent.sessions _ _).trans (Silent.collect _ ref)).timer armed)
  | stopAllSessions counters =>
      have held : now.sessions.Holds ref := stops
      rcases held with ⟨sid, found⟩
      have old := entered.made sid ref found
      rw [← Option.some.inj taken]
      refine ⟨?_, ?_, (Silent.stopAllSessions now counters).requests⟩
      · rintro ⟨other, still⟩
        rcases (Grows.foldl_collect _ _).entries other ref still with before | new
        · cases before
        · exact absurd (Nat.lt_of_lt_of_le old (Grows.foldl_stop counters _ now).objects)
            (Nat.not_lt_of_le new)
      · intro armed
        exact not_interimArmed_foldl_stop counters (Table.mem_values_iff.mpr stops) now
          (((Silent.sessions _ _).trans (Silent.foldl_collect _ _)).timer armed)
  | startSession _ _ _ _ _ => exact absurd stops id
  | mapIfaceToSession _ _ => exact absurd stops id
  | authDatagram _ _ => exact absurd stops id
  | authExpires _ => exact absurd stops id
  | authTimer _ => exact absurd stops id
  | acctDatagram _ _ => exact absurd stops id
  | acctExpires _ => exact absurd stops id
  | acctTimer _ => exact absurd stops id
  | interimExpires _ => exact absurd stops id
  | interimTimer _ _ _ => exact absurd stops id
  | reload _ _ => exact absurd stops id

/-- Nobody calls `stop` on a session that is not entered. -/
theorem lt_length_of_stops {aaa : AAA} {event : AAAEvent} {ref : Nat} (entered : Entered aaa)
    (stops : aaa.Stops ref event) : ref < aaa.objects.length := by
  cases event with
  | stopSession counters sid => exact entered.made sid ref stops
  | stopAllSessions counters =>
      have held : aaa.sessions.Holds ref := stops
      rcases held with ⟨sid, found⟩
      exact entered.made sid ref found
  | _ => exact absurd stops id

/-- What a run keeps: besides the law, the objects that were stopped stay
outside the table. -/
structure StopInvariant (past : List (AAA × AAAEvent)) (now : AAA) : Prop where
  entered : Entered now
  quiet : QuietSinceStop past now
  outside : forall earlier event ref, (earlier, event) ∈ past -> earlier.Stops ref event ->
    ref < now.objects.length ∧ ¬ now.sessions.Holds ref

theorem stopInvariant_step {past : List (AAA × AAAEvent)} {now after : AAA} {event : AAAEvent}
    (invariant : StopInvariant past now) (handles : HandlesEntered now event)
    (taken : step now event = some after) : StopInvariant ((now, event) :: past) after := by
  have grows := grows_step taken
  refine ⟨grows.entered invariant.entered, ?_, ?_⟩
  · intro earlier old ref member stops
    rcases List.mem_cons.mp member with same | older
    · have parts := Prod.mk.inj same
      rw [parts.1, parts.2] at stops
      have stopped := outside_of_stops invariant.entered stops taken
      rw [parts.1]
      exact ⟨stopped.2.2, stopped.2.1⟩
    · have silent := silent_step (invariant.outside earlier old ref older stops).2 handles taken
      have before := invariant.quiet earlier old ref older stops
      exact ⟨silent.requests.trans before.1, fun armed => before.2 (silent.timer armed)⟩
  · intro earlier old ref member stops
    rcases List.mem_cons.mp member with same | older
    · have parts := Prod.mk.inj same
      rw [parts.1, parts.2] at stops
      exact ⟨Nat.lt_of_lt_of_le (lt_length_of_stops invariant.entered stops) grows.objects,
        (outside_of_stops invariant.entered stops taken).1⟩
    · have before := invariant.outside earlier old ref older stops
      refine ⟨Nat.lt_of_lt_of_le before.1 grows.objects, ?_⟩
      rintro ⟨sid, found⟩
      rcases grows.entries sid ref found with still | new
      · exact before.2 ⟨sid, still⟩
      · exact absurd before.1 (Nat.not_lt_of_le new)

/-- While handlers that would revive accounting run only for sessions that are
entered, no session is revived after it was stopped. -/
theorem quietSinceStop_of_run {start now : AAA} {past : List (AAA × AAAEvent)}
    (empty : start.sessions = ∅) (run : Run step HandlesEntered start past now) :
    QuietSinceStop past now := by
  have atStart : StopInvariant [] start :=
    ⟨entered_empty empty, fun _ _ _ member => absurd member List.not_mem_nil,
      fun _ _ _ member => absurd member List.not_mem_nil⟩
  have final : StopInvariant past now :=
    run.invariantPast atStart (fun _ _ _ _ invariant handles taken =>
      stopInvariant_step invariant handles taken)
  exact final.quiet

/-! ## A late answer -/

/-- A subscriber is accepted by the server, and his session asks to start its
accounting. -/
def acceptSession : List AAAEvent :=
  [.startSession sampleInputs (ascii "user") (.pap (ascii "pass"))
      ⟨⟨2, 0, 0, 0, 1, 1⟩, ⟨2, 0, 0, 0, 0, 1⟩, 0, 0, 0⟩ ⟨0, .pap⟩,
    .authDatagram {} (answerTo (AuthClient.packet RadiusCode.accessRequest 1 (List.replicate 16 0) [])
      RadiusCode.accessAccept [])]

def acceptedSession : AAA := after step (sample [.radius]) acceptSession (by decide +kernel)

/-- The session is stopped before its Start request is answered. -/
def stoppedSession : AAA := acceptedSession.stopSession ∅ 0

/-- The Start request is answered, and the interim timer runs out. -/
def lateStartAnswer : List AAAEvent :=
  [.acctDatagram {} (answerFor stoppedSession.acct 0 5), .interimExpires 0, .interimTimer ∅ 0 0]

def revivedSession : AAA := after step stoppedSession lateStartAnswer (by decide +kernel)

/-- The late answer arms the timer again, and then an Alive request is sent. -/
theorem lateStartAnswer_revives :
    ¬ forall past now, Run step anyStep (sample [.radius]) past now -> QuietSinceStop past now := by
  intro claim
  rcases run_after step anyStep (sample [.radius]) acceptSession (by decide +kernel)
    (permitted_anyStep _ _ _) with ⟨past, accepted⟩
  have stopped : Run step anyStep (sample [.radius])
      ((acceptedSession, .stopSession ∅ 0) :: past) stoppedSession :=
    .next accepted trivial rfl
  rcases run_of_execute stopped lateStartAnswer (permitted_anyStep _ _ _)
    (execute_after _ _ _ _ : _ = some revivedSession) with ⟨later, run⟩
  have quiet := claim _ revivedSession run acceptedSession (.stopSession ∅ 0) 0
    (List.mem_append_right later (List.mem_cons_self ..))
    (by decide +kernel : acceptedSession.sessions.lookup 0 = some 0)
  have before : (acceptedSession.aliveRequests 0).length = 0 := by decide +kernel
  have sent : (revivedSession.aliveRequests 0).length = 1 := by decide +kernel
  rw [quiet.1, before] at sent
  cases sent

/-- The Start request is answered, the session is stopped, and the handler of
the cancelled timer runs. -/
def timelyStartAnswer : List AAAEvent :=
  [.acctDatagram {} (answerFor acceptedSession.acct 0 5), .stopSession ∅ 0, .interimTimer ∅ 0 0]

theorem runs_timelyStartAnswer :
    (execute step (sample [.radius]) (acceptSession ++ timelyStartAnswer)).isSome = true := by
  decide +kernel

def endedSession : AAA :=
  after step (sample [.radius]) (acceptSession ++ timelyStartAnswer) runs_timelyStartAnswer

/-- The law for that session. -/
theorem quietSinceStop_at_endedSession :
    ∃ past, Run step HandlesEntered (sample [.radius]) past endedSession ∧
      QuietSinceStop past endedSession := by
  rcases run_after step HandlesEntered (sample [.radius]) (acceptSession ++ timelyStartAnswer)
    runs_timelyStartAnswer (by decide +kernel) with ⟨past, run⟩
  exact ⟨past, run, quietSinceStop_of_run rfl run⟩

end AAA

end Pppcpd
