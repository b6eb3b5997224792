import Pppcpd.Aaa.Entries

namespace Pppcpd

open Foundation

/-!
# The other sessions of AAA

The operations of AAA work on one session at a time.  A start only adds, a stop
erases one entry, and the rest of the events leave the table as it is.  So the
entry of every other session is where it was, and its record is what it was.
-/

namespace AAA

/-! ## The table of sessions -/

@[simp] theorem collect_sessions (aaa : AAA) (ref : Nat) :
    (aaa.collect ref).sessions = aaa.sessions := by
  simp only [collect]
  split
  · simp only [destruct]
    split
    · rfl
    · exact Grows.giveBack_sessions _ _
  · rfl

@[simp] theorem collect_acct (aaa : AAA) (ref : Nat) : (aaa.collect ref).acct = aaa.acct := by
  simp only [collect]
  split
  · simp only [destruct]
    split
    · rfl
    · unfold giveBack
      split <;> rfl
  · rfl

/-- An object that is destroyed had no wait, so its last content is what it was. -/
@[simp] theorem deref_collect (aaa : AAA) (ref other : Nat) :
    (aaa.collect ref).objects.deref other = aaa.objects.deref other := by
  simp only [collect]
  split
  · rename_i free
    simp only [destruct]
    split
    · rfl
    · rename_i session present
      have unowned : aaa.isOwned ref = false := by
        rw [Bool.and_eq_true, Bool.not_eq_true'] at free
        exact free.2
      have idle : session.timer = [] := by
        unfold isOwned at unowned
        rw [Bool.or_eq_false_iff, present] at unowned
        simpa using unowned.2
      dsimp only
      rw [Heap.deref_destroy, Grows.giveBack_objects]
      unfold updateObject
      dsimp only
      rw [Heap.deref_update]
      split
      · rename_i same
        rw [same, present, Option.map_some, onTimer, idle]
        show some { session with timer := [] } = some session
        rw [← idle]
      · rfl
  · rfl

@[simp] theorem start_sessions (aaa : AAA) (ref : Nat) :
    (aaa.start ref).sessions = aaa.sessions := by
  simp only [start]
  split
  · rfl
  · split <;> rfl

@[simp] theorem stop_sessions (aaa : AAA) (counters : Table UInt32 VPPIfaceCounters) (ref : Nat) :
    (aaa.stop counters ref).sessions = aaa.sessions := by
  simp only [stop]
  split
  · rfl
  · split <;> rfl

@[simp] theorem onInterim_sessions (aaa : AAA) (counters : Table UInt32 VPPIfaceCounters)
    (ref : Nat) : (aaa.onInterim counters ref).sessions = aaa.sessions := by
  simp only [onInterim]
  split
  · rfl
  · split <;> rfl

@[simp] theorem acctAnswer_sessions (aaa : AAA) (handler : AcctHandler) :
    (aaa.acctAnswer handler).sessions = aaa.sessions := by
  simp only [acctAnswer]
  split <;> rfl

@[simp] theorem mapIfaceToSession_sessions (aaa : AAA) (sid ifindex : UInt32) :
    (aaa.mapIfaceToSession sid ifindex).sessions = aaa.sessions := by
  simp only [mapIfaceToSession]
  split <;> rfl

/-- A stop erases the entry, if there is one. -/
theorem lookup_stopSession (aaa : AAA) (counters : Table UInt32 VPPIfaceCounters)
    (sid other : UInt32) :
    (aaa.stopSession counters sid).sessions.lookup other =
      if other = sid then none else aaa.sessions.lookup other := by
  unfold stopSession
  cases found : aaa.sessions.lookup sid with
  | none =>
      dsimp only
      split
      · rename_i same
        rw [same, found]
      · rfl
  | some ref =>
      dsimp only
      rw [collect_sessions]
      dsimp only
      rw [stop_sessions, Table.lookup_erase_eq]

/-- The quiet events leave the table as it is. -/
theorem sessions_of_quiet {now after : AAA} {event : AAAEvent} (quiet : event.Quiet)
    (taken : step now event = some after) : after.sessions = now.sessions := by
  cases event with
  | authExpires id =>
      rw [← Option.some.inj taken]
      rfl
  | acctDatagram inputs datagram =>
      rcases acctDatagram_cases taken with ⟨_, _, _, _, _, ⟨_, discarded⟩ | ⟨_, _, finished⟩⟩
      · rw [discarded]
      · rw [finished, acctAnswer_sessions]
  | acctExpires id =>
      rw [← Option.some.inj taken]
      rfl
  | acctTimer id =>
      rcases acctTimer_cases taken with ⟨_, _, _, _, finished⟩
      rw [finished, collect_sessions]
  | interimExpires ref =>
      rw [← Option.some.inj taken]
      rfl
  | interimTimer counters ref index =>
      rcases interimTimer_cases taken with ⟨_, _, ⟨_, finished⟩ | ⟨_, finished⟩⟩
      · rw [finished, collect_sessions, onInterim_sessions]
        rfl
      · rw [finished, collect_sessions]
        rfl
  | reload conf templates =>
      rw [(step_reload taken).2]
      rfl
  | _ => exact quiet.elim

/-! ## The records -/

/-- A change of one object leaves the others. -/
theorem others_updateObject (aaa : AAA) {ref other : Nat} (different : other ≠ ref)
    (change : AAASession -> AAASession) :
    (aaa.updateObject ref change).objects.deref other = aaa.objects.deref other ∧
      (aaa.updateObject ref change).objects.isAlive other = aaa.objects.isAlive other := by
  unfold updateObject
  dsimp only
  rw [Heap.deref_update, if_neg different, Heap.isAlive_update]
  exact ⟨rfl, rfl⟩

theorem others_collect (aaa : AAA) {ref other : Nat} (different : other ≠ ref) :
    (aaa.collect ref).objects.deref other = aaa.objects.deref other ∧
      (aaa.collect ref).objects.isAlive other = aaa.objects.isAlive other := by
  simp only [collect]
  split
  · simp only [destruct]
    split
    · exact ⟨rfl, rfl⟩
    · dsimp only
      rw [Heap.deref_destroy, Heap.isAlive_destroy, if_neg different, Grows.giveBack_objects]
      exact others_updateObject aaa different _
  · exact ⟨rfl, rfl⟩

theorem others_stop (aaa : AAA) (counters : Table UInt32 VPPIfaceCounters) {ref other : Nat}
    (different : other ≠ ref) :
    (aaa.stop counters ref).objects.deref other = aaa.objects.deref other ∧
      (aaa.stop counters ref).objects.isAlive other = aaa.objects.isAlive other := by
  simp only [stop]
  split
  · exact ⟨rfl, rfl⟩
  · split <;> exact others_updateObject aaa different _

/-- The sessions that are not among the given ones have the entry and the record
that they had, and live if they did. -/
def Spares (own : UInt32 -> Prop) (before after : AAA) : Prop :=
  forall sid ref, ¬ own sid -> before.sessions.lookup sid = some ref ->
    after.sessions.lookup sid = some ref ∧ after.objects.deref ref = before.objects.deref ref ∧
      after.objects.isAlive ref = before.objects.isAlive ref

namespace Spares

variable {own : UInt32 -> Prop}

theorem refl (aaa : AAA) : Spares own aaa aaa := fun _ _ _ found => ⟨found, rfl, rfl⟩

theorem trans {first second third : AAA} (left : Spares own first second)
    (right : Spares own second third) : Spares own first third := by
  intro sid ref other found
  have earlier := left sid ref other found
  have later := right sid ref other earlier.1
  exact ⟨later.1, later.2.1.trans earlier.2.1, later.2.2.trans earlier.2.2⟩

theorem of_same {before after : AAA} (sessions : after.sessions = before.sessions)
    (objects : after.objects = before.objects) : Spares own before after := by
  intro sid ref _ found
  rw [sessions, objects]
  exact ⟨found, rfl, rfl⟩

/-- A new session leaves all others. -/
theorem enter {aaa made : AAA} (entered : Entered aaa) {sid : UInt32}
    (free : aaa.firstFreeId = some sid) (construction : Built sid aaa made) :
    Spares own aaa (made.enter sid aaa.objects.length) := by
  rcases construction with ⟨session, pools, _, _, made⟩
  intro other ref _ found
  have different : other ≠ sid := by
    intro same
    rw [same] at found
    exact (firstFreeId_spec free).1 (Table.mem_iff_lookup.mpr ⟨ref, found⟩)
  rw [made]
  unfold AAA.enter makeObject
  dsimp only
  rw [Table.lookup_insert_eq, if_neg different,
    Heap.deref_make_of_lt _ (entered.made other ref found), Heap.isAlive_make,
    if_neg (Nat.ne_of_lt (entered.made other ref found))]
  exact ⟨found, rfl, rfl⟩

theorem start (aaa : AAA) (ref : Nat) : Spares own aaa (aaa.start ref) := by
  refine of_same (start_sessions aaa ref) ?_
  simp only [AAA.start]
  split
  · rfl
  · split <;> rfl

theorem mapIfaceToSession {aaa : AAA} (entered : Entered aaa) {sid : UInt32} (ifindex : UInt32)
    (isOwn : own sid) : Spares own aaa (aaa.mapIfaceToSession sid ifindex) := by
  intro other ref elsewhere found
  refine ⟨by rw [mapIfaceToSession_sessions]; exact found, ?_⟩
  unfold AAA.mapIfaceToSession
  split
  · exact ⟨rfl, rfl⟩
  · rename_i ownRef ownFound
    refine others_updateObject aaa ?_ _
    intro same
    rw [same] at found
    exact elsewhere (entered.unique sid other ownRef ownFound found ▸ isOwn)

theorem stopSession {aaa : AAA} (entered : Entered aaa)
    (counters : Table UInt32 VPPIfaceCounters) {sid : UInt32} (isOwn : own sid) :
    Spares own aaa (aaa.stopSession counters sid) := by
  intro other ref elsewhere found
  have different : other ≠ sid := fun same => elsewhere (same ▸ isOwn)
  refine ⟨by rw [lookup_stopSession, if_neg different]; exact found, ?_⟩
  unfold AAA.stopSession
  split
  · exact ⟨rfl, rfl⟩
  · rename_i ownRef ownFound
    have apart : ref ≠ ownRef := by
      intro same
      rw [same] at found
      exact different (entered.unique other sid ownRef found ownFound)
    have collected := others_collect { aaa.stop counters ownRef with
      sessions := (aaa.stop counters ownRef).sessions.erase sid } apart
    have stopped := others_stop aaa counters apart
    exact ⟨collected.1.trans stopped.1, collected.2.trans stopped.2⟩

end Spares

/-! ## Callback calls -/

/-- The calls of one callback on the way from one state to another.  A success
announces a session that is new, and nothing of the others changes. -/
structure Announces (callback : AAACallback) (before after : AAA) (calls : List CallbackCall) :
    Prop where
  callbacks : forall call, call ∈ calls -> call.callback = callback
  fresh : forall call, call ∈ calls -> call.err = none ->
    call.sid ∉ before.sessions ∧ call.sid ∈ after.sessions
  spares : Spares (fun _ => False) before after

theorem Spares.mem {own : UInt32 -> Prop} {before after : AAA} (spares : Spares own before after)
    {sid : UInt32} (elsewhere : ¬ own sid) (member : sid ∈ before.sessions) :
    sid ∈ after.sessions := by
  rcases Table.mem_iff_lookup.mp member with ⟨ref, found⟩
  exact Table.mem_iff_lookup.mpr ⟨ref, (spares sid ref elsewhere found).1⟩

/-- The loop over the methods announces every session that it makes. -/
theorem announces_of_started {inputs : AAAInputs} {user : Bytes} {credential : Credential}
    {encap : Encapsulation} {callback : AAACallback} {aaa after : AAA} {calls : List CallbackCall}
    (entered : Entered aaa)
    (path : Started inputs user credential encap callback aaa after calls) :
    Announces callback aaa after calls := by
  induction path with
  | idle aaa =>
      exact ⟨fun _ member => absurd member List.not_mem_nil,
        fun _ member => absurd member List.not_mem_nil, .refl aaa⟩
  | asked aaa =>
      exact ⟨fun _ member => absurd member List.not_mem_nil,
        fun _ member => absurd member List.not_mem_nil, .of_same rfl rfl⟩
  | @made aaa made after sid calls free construction path inductionHypothesis =>
      have first : Spares (fun _ => False) aaa (made.enter sid aaa.objects.length) :=
        .enter entered free construction
      have later := inductionHypothesis ((Grows.enter free construction).entered entered)
      have isNew := (firstFreeId_spec free).1
      refine ⟨fun call member => ?_, fun call member success => ?_, first.trans later.spares⟩
      · rcases List.mem_cons.mp member with same | rest
        · rw [same]
        · exact later.callbacks call rest
      · rcases List.mem_cons.mp member with same | rest
        · rw [same]
          refine ⟨isNew, later.spares.mem (fun impossible => impossible) ?_⟩
          exact Table.mem_iff_lookup.mpr ⟨_, AList.lookup_insert _⟩
        · have fresh := later.fresh call rest success
          exact ⟨fun old => fresh.1 (first.mem (fun impossible => impossible) old), fresh.2⟩

theorem callback_of_noAccept {callback : AAACallback} {code : UInt8} {call : CallbackCall}
    (member : call ∈ noAcceptCalls callback code) :
    call.callback = callback ∧ call.err ≠ none := by
  unfold noAcceptCalls at member
  split at member
  · rw [List.mem_singleton.mp member]
    exact ⟨rfl, Option.some_ne_none _⟩
  · cases member

/-- Calls without a success announce nothing. -/
theorem announces_of_errors {callback : AAACallback} {before after : AAA}
    {calls : List CallbackCall}
    (errors : forall call, call ∈ calls -> call.callback = callback ∧ call.err ≠ none)
    (spares : Spares (fun _ => False) before after) : Announces callback before after calls :=
  ⟨fun call member => (errors call member).1,
    fun call member success => absurd success (errors call member).2, spares⟩

/-- An answer announces at most one session. -/
theorem announces_of_authDatagram {aaa : AAA} {inputs : AAAInputs} {datagram : Bytes}
    {out : AAA × List CallbackCall} (entered : Entered aaa)
    (received : aaa.authDatagram inputs datagram = some out) :
    ∃ callback, Announces callback aaa out.1 out.2 := by
  rcases authDatagram_cases received with
    ⟨client, filled, answer, _, _, ⟨_, discarded⟩ | ⟨given, processed, _, answered, finished⟩⟩
  · rw [discarded]
    exact ⟨⟨0, .pap⟩, announces_of_errors (fun _ member => absurd member List.not_mem_nil)
      (.of_same rfl rfl)⟩
  · rw [finished]
    refine ⟨given.handler.callback, ?_⟩
    have filledEntered : Entered { aaa with auth := some filled } :=
      (Grows.auth aaa (some filled)).entered entered
    rcases processRadiusAnswer_cases answered with ⟨_, full⟩ | ⟨sid, made, free, construction, started⟩
    · rw [full]
      refine announces_of_errors (fun call member => ?_) (.of_same rfl rfl)
      rcases List.mem_append.mp member with refused | noSpace
      · exact callback_of_noAccept refused
      · rw [List.mem_singleton.mp noSpace]
        exact ⟨rfl, Option.some_ne_none _⟩
    · rw [started]
      have spares : Spares (fun _ => False) { aaa with auth := some filled }
          (made.enter sid aaa.objects.length) := .enter filledEntered free construction.built
      have whole := spares.trans (.start (made.enter sid aaa.objects.length) aaa.objects.length)
      refine ⟨fun call member => ?_, fun call member success => ?_, whole⟩
      · rcases List.mem_append.mp member with refused | success
        · exact (callback_of_noAccept refused).1
        · rw [List.mem_singleton.mp success]
      · rcases List.mem_append.mp member with refused | only
        · exact absurd success (callback_of_noAccept refused).2
        · rw [List.mem_singleton.mp only]
          refine ⟨(firstFreeId_spec free).1, ?_⟩
          dsimp only
          rw [start_sessions]
          exact Table.mem_iff_lookup.mpr ⟨_, AList.lookup_insert _⟩

/-- The end of a request announces nothing. -/
theorem announces_of_authTimer {aaa : AAA} {id : UInt8} {out : AAA × List CallbackCall}
    (fired : aaa.authTimer id = some out) : ∃ callback, Announces callback aaa out.1 out.2 := by
  rcases authTimer_cases fired with ⟨client, entry, _, _, erased, calls⟩
  refine ⟨entry.handler.callback, announces_of_errors (fun call member => ?_) ?_⟩
  · rcases calls with nothing | timeout
    · rw [nothing] at member
      cases member
    · rw [timeout] at member
      rw [List.mem_singleton.mp member]
      exact ⟨rfl, Option.some_ne_none _⟩
  · rw [erased]
    exact .of_same rfl rfl

end AAA

end Pppcpd
