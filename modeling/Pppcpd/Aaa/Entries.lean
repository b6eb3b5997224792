import Pppcpd.Aaa.Laws

namespace Pppcpd

open Foundation

/-!
# The entries of `AAA::sessions`

Objects are numbered in the order they are made, and a session is entered under
a free id as soon as it is made.  So an object is entered under at most one id,
and an object that was taken out of the table never comes back.
-/

namespace AAA

/-- Every entry names an object that was made for its id. -/
structure Entered (aaa : AAA) : Prop where
  named : forall sid ref, aaa.sessions.lookup sid = some ref ->
    (aaa.objects.deref ref).map AAASession.sessionId = some sid
  id : forall sid ref, aaa.sessions.lookup sid = some ref -> sid ≠ uint32Max

theorem Entered.made {aaa : AAA} (entered : Entered aaa) (sid : UInt32) (ref : Nat)
    (found : aaa.sessions.lookup sid = some ref) : ref < aaa.objects.length := by
  rcases Option.map_eq_some_iff.mp (entered.named sid ref found) with ⟨_, present, _⟩
  exact Heap.lt_length_of_deref present

/-- No object has two entries. -/
theorem Entered.unique {aaa : AAA} (entered : Entered aaa) (sid other : UInt32) (ref : Nat)
    (found : aaa.sessions.lookup sid = some ref) (otherFound : aaa.sessions.lookup other = some ref) :
    sid = other :=
  Option.some.inj ((entered.named sid ref found).symm.trans (entered.named other ref otherFound))

/-- How the table of sessions develops: objects are only added and keep their
ids, every new entry is for a new object, and the entries stay in order. -/
structure Grows (before after : AAA) : Prop where
  objects : before.objects.length ≤ after.objects.length
  ids : forall ref, ref < before.objects.length ->
    (after.objects.deref ref).map AAASession.sessionId =
      (before.objects.deref ref).map AAASession.sessionId
  entries : forall sid ref, after.sessions.lookup sid = some ref ->
    before.sessions.lookup sid = some ref ∨ before.objects.length ≤ ref
  entered : Entered before -> Entered after

namespace Grows

theorem refl (aaa : AAA) : Grows aaa aaa :=
  ⟨Nat.le_refl _, fun _ _ => rfl, fun _ _ found => .inl found, id⟩

theorem trans {first second third : AAA} (left : Grows first second) (right : Grows second third) :
    Grows first third := by
  refine ⟨Nat.le_trans left.objects right.objects, fun ref old => ?_, fun sid ref found => ?_,
    fun here => right.entered (left.entered here)⟩
  · exact (right.ids ref (Nat.lt_of_lt_of_le old left.objects)).trans (left.ids ref old)
  · rcases right.entries sid ref found with earlier | new
    · exact left.entries sid ref earlier
    · exact .inr (Nat.le_trans left.objects new)

/-- A change that makes no object and at most takes entries away. -/
theorem of_fewer {before after : AAA} (objects : after.objects.length = before.objects.length)
    (ids : forall ref, (after.objects.deref ref).map AAASession.sessionId =
      (before.objects.deref ref).map AAASession.sessionId)
    (fewer : forall sid ref, after.sessions.lookup sid = some ref ->
      before.sessions.lookup sid = some ref) : Grows before after := by
  refine ⟨Nat.le_of_eq objects.symm, fun ref _ => ids ref, fun sid ref found => .inl (fewer sid ref found),
    fun entered => ⟨fun sid ref found => ?_, fun sid ref found => ?_⟩⟩
  · rw [ids]
    exact entered.named sid ref (fewer sid ref found)
  · exact entered.id sid ref (fewer sid ref found)

/-- A change of neither the table nor the objects. -/
theorem of_same {before after : AAA} (sessions : after.sessions = before.sessions)
    (objects : after.objects = before.objects) : Grows before after := by
  refine of_fewer (by rw [objects]) (fun ref => by rw [objects]) ?_
  intro sid ref found
  rw [sessions] at found
  exact found

theorem auth (aaa : AAA) (client : Option (AuthClient RadiusRequest AuthHandler)) :
    Grows aaa { aaa with auth := client } :=
  of_same rfl rfl

theorem acct (aaa : AAA) (client : Option (AuthClient AcctRequest AcctHandler)) :
    Grows aaa { aaa with acct := client } :=
  of_same rfl rfl

theorem erase (aaa : AAA) (sid : UInt32) :
    Grows aaa { aaa with sessions := aaa.sessions.erase sid } := by
  refine of_fewer rfl (fun _ => rfl) ?_
  intro other ref found
  dsimp only at found
  rw [Table.lookup_erase_eq] at found
  split at found
  · cases found
  · exact found

theorem clear (aaa : AAA) : Grows aaa { aaa with sessions := ∅ } := by
  refine of_fewer rfl (fun _ => rfl) ?_
  intro sid ref found
  cases found

/-- A new session is entered under a free id. -/
theorem enter {aaa made : AAA} {sid : UInt32} (free : aaa.firstFreeId = some sid)
    (construction : Built sid aaa made) : Grows aaa (made.enter sid aaa.objects.length) := by
  rcases construction with ⟨session, pools, _, isId, made⟩
  rw [made]
  have entries : forall other ref,
      (aaa.sessions.insert sid aaa.objects.length).lookup other = some ref ->
        other = sid ∧ ref = aaa.objects.length ∨ aaa.sessions.lookup other = some ref := by
    intro other ref found
    rw [Table.lookup_insert_eq] at found
    split at found
    · rename_i same
      exact .inl ⟨same, (Option.some.inj found).symm⟩
    · exact .inr found
  unfold AAA.enter makeObject
  refine ⟨?_, fun ref old => ?_, fun other ref found => ?_, fun entered => ⟨?_, ?_⟩⟩
  · dsimp only
    rw [Heap.length_make]
    exact Nat.le_succ _
  · dsimp only
    rw [Heap.deref_make_of_lt _ old]
  · rcases entries other ref found with ⟨_, new⟩ | old
    · exact .inr (Nat.le_of_eq new.symm)
    · exact .inl old
  · intro other ref found
    dsimp only at found ⊢
    rcases entries other ref found with ⟨same, new⟩ | old
    · rw [new, Heap.deref_make_self, same, ← isId]
      rfl
    · rw [Heap.deref_make_of_lt _ (entered.made other ref old)]
      exact entered.named other ref old
  · intro other ref found
    rcases entries other ref found with ⟨same, _⟩ | old
    · rw [same]
      exact (firstFreeId_spec free).2
    · exact entered.id other ref old

/-- A change of one object that keeps its id. -/
theorem updateObject (aaa : AAA) (ref : Nat) {change : AAASession -> AAASession}
    (same : forall session, (change session).sessionId = session.sessionId) :
    Grows aaa (aaa.updateObject ref change) := by
  refine of_fewer (Heap.length_update _ _ _) (fun other => ?_) (fun _ _ found => found)
  unfold AAA.updateObject
  dsimp only
  rw [Heap.deref_update]
  split
  · cases aaa.objects.deref other with
    | none => rfl
    | some session => exact congrArg some (same session)
  · rfl

theorem bookkeeping : Bookkeeping Grows where
  refl := refl
  trans := trans
  object := by
    intro aaa ref change minor
    refine updateObject aaa ref (fun session => ?_)
    rcases minor session with ⟨_, _, _, changed⟩
    rw [changed]
  request := fun _ _ _ => of_same rfl rfl

theorem onTimer (aaa : AAA) (ref : Nat) (change : Timer -> Timer) :
    Grows aaa (aaa.updateObject ref (AAA.onTimer change)) :=
  bookkeeping.onTimer aaa ref change

theorem giveBack_objects (aaa : AAA) (session : AAASession) :
    (aaa.giveBack session).objects = aaa.objects := by
  unfold giveBack
  split <;> rfl

theorem giveBack_sessions (aaa : AAA) (session : AAASession) :
    (aaa.giveBack session).sessions = aaa.sessions := by
  unfold giveBack
  split <;> rfl

theorem collect (aaa : AAA) (ref : Nat) : Grows aaa (aaa.collect ref) := by
  unfold AAA.collect
  split
  · unfold AAA.destruct
    split
    · exact refl aaa
    · refine (onTimer aaa ref Timer.cancel).trans (of_fewer ?_ (fun other => ?_) ?_)
      · dsimp only
        rw [Heap.length_destroy, giveBack_objects]
      · dsimp only
        rw [Heap.deref_destroy, giveBack_objects]
      · intro sid other found
        dsimp only at found
        rw [giveBack_sessions] at found
        exact found
  · exact refl aaa

theorem foldl_collect (refs : List Nat) (aaa : AAA) :
    Grows aaa (refs.foldl (fun aaa ref => aaa.collect ref) aaa) := by
  induction refs generalizing aaa with
  | nil => exact refl aaa
  | cons ref rest inductionHypothesis => exact (collect aaa ref).trans (inductionHypothesis _)

theorem start (aaa : AAA) (ref : Nat) : Grows aaa (aaa.start ref) := bookkeeping.start aaa ref

theorem stop (aaa : AAA) (counters : Table UInt32 VPPIfaceCounters) (ref : Nat) :
    Grows aaa (aaa.stop counters ref) :=
  bookkeeping.stop aaa counters ref

theorem foldl_stop (counters : Table UInt32 VPPIfaceCounters) (refs : List Nat) (aaa : AAA) :
    Grows aaa (refs.foldl (fun aaa ref => aaa.stop counters ref) aaa) := by
  induction refs generalizing aaa with
  | nil => exact refl aaa
  | cons ref rest inductionHypothesis => exact (stop aaa counters ref).trans (inductionHypothesis _)

theorem onInterim (aaa : AAA) (counters : Table UInt32 VPPIfaceCounters) (ref : Nat) :
    Grows aaa (aaa.onInterim counters ref) :=
  bookkeeping.onInterim aaa counters ref

theorem acctAnswer (aaa : AAA) (handler : AcctHandler) : Grows aaa (aaa.acctAnswer handler) :=
  bookkeeping.acctAnswer aaa handler

theorem started {inputs : AAAInputs} {user : Bytes} {credential : Credential}
    {encap : Encapsulation} {callback : AAACallback} {aaa after : AAA} {calls : List CallbackCall}
    (path : Started inputs user credential encap callback aaa after calls) : Grows aaa after := by
  induction path with
  | idle aaa => exact refl aaa
  | asked aaa => exact of_same rfl rfl
  | made free construction _ inductionHypothesis =>
      exact (enter free construction).trans inductionHypothesis

theorem authDatagram {aaa : AAA} {inputs : AAAInputs} {datagram : Bytes}
    {out : AAA × List CallbackCall} (received : aaa.authDatagram inputs datagram = some out) :
    Grows aaa out.1 := by
  rcases authDatagram_cases received with
    ⟨client, filled, answer, _, _, ⟨_, discarded⟩ | ⟨given, processed, _, answered, finished⟩⟩
  · rw [discarded]
    exact of_same rfl rfl
  · rw [finished]
    refine (auth aaa (some filled)).trans ?_
    rcases processRadiusAnswer_cases answered with ⟨_, full⟩ | ⟨sid, made, free, construction, entered⟩
    · rw [full]
      exact auth _ _
    · rw [entered]
      exact ((enter free construction.built).trans (start _ _)).trans (auth _ _)

theorem stopSession (aaa : AAA) (counters : Table UInt32 VPPIfaceCounters) (sid : UInt32) :
    Grows aaa (aaa.stopSession counters sid) := by
  unfold AAA.stopSession
  split
  · exact refl aaa
  · rename_i ref _
    exact ((stop aaa counters ref).trans (erase _ sid)).trans (collect _ ref)

theorem stopAllSessions (aaa : AAA) (counters : Table UInt32 VPPIfaceCounters) :
    Grows aaa (aaa.stopAllSessions counters) :=
  ((foldl_stop counters _ aaa).trans (clear _)).trans (foldl_collect _ _)

end Grows

/-- Every event lets the table of sessions develop so. -/
theorem grows_step {now after : AAA} {event : AAAEvent} (taken : step now event = some after) :
    Grows now after := by
  cases event with
  | startSession inputs user credential encap callback =>
      rcases Option.map_eq_some_iff.mp taken with ⟨out, started, equal⟩
      exact equal ▸ .started (started_of_startByMethods started)
  | stopSession counters sid => exact Option.some.inj taken ▸ .stopSession now counters sid
  | stopAllSessions counters => exact Option.some.inj taken ▸ .stopAllSessions now counters
  | mapIfaceToSession sid ifindex =>
      exact Option.some.inj taken ▸ Grows.bookkeeping.mapIfaceToSession now sid ifindex
  | authDatagram inputs datagram =>
      rcases Option.map_eq_some_iff.mp taken with ⟨out, received, equal⟩
      exact equal ▸ .authDatagram received
  | authExpires id => exact Option.some.inj taken ▸ .auth now _
  | authTimer id =>
      rcases step_authTimer taken with ⟨auth, erased⟩
      rw [erased]
      exact .auth now _
  | acctDatagram inputs datagram =>
      rcases acctDatagram_cases taken with
        ⟨_, _, _, _, _, ⟨_, discarded⟩ | ⟨given, _, finished⟩⟩
      · rw [discarded]
        exact .acct now _
      · rw [finished]
        exact (Grows.acct now _).trans (.acctAnswer _ given.handler)
  | acctExpires id => exact Option.some.inj taken ▸ .acct now _
  | acctTimer id =>
      rcases acctTimer_cases taken with ⟨_, _, _, _, finished⟩
      rw [finished]
      exact (Grows.acct now _).trans (.collect _ _)
  | interimExpires ref => exact Option.some.inj taken ▸ .onTimer now ref _
  | interimTimer counters ref index =>
      rcases interimTimer_cases taken with ⟨_, _, ⟨_, finished⟩ | ⟨_, finished⟩⟩
      · rw [finished]
        exact ((Grows.onTimer now ref _).trans (.onInterim _ counters ref)).trans (.collect _ ref)
      · rw [finished]
        exact (Grows.onTimer now ref _).trans (.collect _ ref)
  | reload conf templates =>
      rw [(step_reload taken).2]
      exact .of_same rfl rfl

theorem entered_empty {aaa : AAA} (empty : aaa.sessions = ∅) : Entered aaa := by
  have none : forall sid ref, aaa.sessions.lookup sid ≠ some ref := by
    intro sid ref found
    rw [empty] at found
    cases found
  exact ⟨fun sid ref found => absurd found (none sid ref),
    fun sid ref found => absurd found (none sid ref)⟩

end AAA

end Pppcpd
