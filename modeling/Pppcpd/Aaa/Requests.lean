import Pppcpd.Aaa.Methods

namespace Pppcpd

open Foundation

/-!
# Requests under way

A call of a callback that AAA makes on its own is the end of a request that
waits in the table of the authentication client.  Only a start of a session
puts requests there, so each callback was given to AAA by some start.
-/

namespace AuthClient

variable {Request Handler : Type} {client : AuthClient Request Handler} {handler : Handler}

/-- A registration adds at most the handler that it is for. -/
theorem Holds.of_register {request : Request} {added : Handler} {authenticator bytes : Bytes}
    (holds : (client.register request added authenticator bytes).Holds handler) :
    client.Holds handler ∨ handler = added := by
  rcases holds with ⟨id, entry, found, same⟩
  rcases register_cases client request added authenticator bytes with ⟨_, entered⟩ | dropped
  · rw [entered] at found
    dsimp only at found
    rw [Table.lookup_insert_eq] at found
    split at found
    · rw [← same, ← Option.some.inj found]
      exact .inr rfl
    · exact .inl ⟨id, entry, found, same⟩
  · rw [dropped] at found
    exact .inl ⟨id, entry, found, same⟩

/-- A change of one entry that keeps its handler adds none. -/
theorem Holds.of_modify {id : UInt8} {change : Outstanding Handler -> Outstanding Handler}
    (keeps : forall entry, (change entry).handler = entry.handler)
    (holds : Holds { client with callbacks := Table.modify id change client.callbacks } handler) :
    client.Holds handler := by
  rcases holds with ⟨other, entry, found, same⟩
  dsimp only at found
  rw [Table.lookup_modify_eq] at found
  split at found
  · rcases Option.map_eq_some_iff.mp found with ⟨old, there, changed⟩
    refine ⟨other, old, there, ?_⟩
    rw [← keeps old, changed, same]
  · exact ⟨other, entry, found, same⟩

theorem Holds.of_cancelTimer {id : UInt8} (holds : (client.cancelTimer id).Holds handler) :
    client.Holds handler :=
  @of_modify _ _ client handler id (fun entry => { entry with wait := entry.wait.cancel })
    (fun _ => rfl) holds

theorem Holds.of_timerExpires {id : UInt8} (holds : (client.timerExpires id).Holds handler) :
    client.Holds handler :=
  @of_modify _ _ client handler id (fun entry => { entry with wait := entry.wait.expire })
    (fun _ => rfl) holds

theorem Holds.of_eraseEntry {id : UInt8} (holds : (client.eraseEntry id).Holds handler) :
    client.Holds handler := by
  rcases holds with ⟨other, entry, found, same⟩
  unfold eraseEntry at found
  dsimp only at found
  rw [Table.lookup_erase_eq] at found
  split at found
  · cases found
  · exact ⟨other, entry, found, same⟩

end AuthClient

namespace AAA

/-- A request with the callback is outstanding. -/
def Awaits (aaa : AAA) (callback : AAACallback) : Prop :=
  ∃ client handler, aaa.auth = some client ∧ client.Holds handler ∧ handler.callback = callback

theorem Awaits.of_auth {before after : AAA} {callback : AAACallback}
    (same : after.auth = before.auth) (awaits : after.Awaits callback) : before.Awaits callback := by
  unfold Awaits at awaits
  rw [same] at awaits
  exact awaits

/-! ## What leaves the authentication client alone -/

@[simp] theorem giveBack_auth (aaa : AAA) (session : AAASession) :
    (aaa.giveBack session).auth = aaa.auth := by
  simp only [giveBack]
  split <;> rfl

@[simp] theorem collect_auth (aaa : AAA) (ref : Nat) : (aaa.collect ref).auth = aaa.auth := by
  simp only [collect]
  split
  · simp only [destruct]
    split
    · rfl
    · exact giveBack_auth _ _
  · rfl

@[simp] theorem start_auth (aaa : AAA) (ref : Nat) : (aaa.start ref).auth = aaa.auth := by
  simp only [start]
  split
  · rfl
  · split <;> rfl

@[simp] theorem stop_auth (aaa : AAA) (counters : Table UInt32 VPPIfaceCounters) (ref : Nat) :
    (aaa.stop counters ref).auth = aaa.auth := by
  simp only [stop]
  split
  · rfl
  · split <;> rfl

@[simp] theorem onInterim_auth (aaa : AAA) (counters : Table UInt32 VPPIfaceCounters) (ref : Nat) :
    (aaa.onInterim counters ref).auth = aaa.auth := by
  simp only [onInterim]
  split
  · rfl
  · split <;> rfl

@[simp] theorem acctAnswer_auth (aaa : AAA) (handler : AcctHandler) :
    (aaa.acctAnswer handler).auth = aaa.auth := by
  simp only [acctAnswer]
  split <;> rfl

@[simp] theorem mapIfaceToSession_auth (aaa : AAA) (sid ifindex : UInt32) :
    (aaa.mapIfaceToSession sid ifindex).auth = aaa.auth := by
  simp only [mapIfaceToSession]
  split <;> rfl

@[simp] theorem stopSession_auth (aaa : AAA) (counters : Table UInt32 VPPIfaceCounters)
    (sid : UInt32) : (aaa.stopSession counters sid).auth = aaa.auth := by
  simp only [stopSession]
  split
  · rfl
  · rw [collect_auth]
    exact stop_auth aaa counters _

/-- Steps that leave the client alone, one for each session. -/
theorem foldl_auth {change : AAA -> Nat -> AAA}
    (same : forall aaa ref, (change aaa ref).auth = aaa.auth) (refs : List Nat) (aaa : AAA) :
    (refs.foldl change aaa).auth = aaa.auth := by
  induction refs generalizing aaa with
  | nil => rfl
  | cons ref rest inductionHypothesis =>
      exact (inductionHypothesis (change aaa ref)).trans (same aaa ref)

@[simp] theorem stopAllSessions_auth (aaa : AAA) (counters : Table UInt32 VPPIfaceCounters) :
    (aaa.stopAllSessions counters).auth = aaa.auth := by
  have stopped := foldl_auth (fun aaa ref => stop_auth aaa counters ref) aaa.sessions.values aaa
  exact (foldl_auth collect_auth aaa.sessions.values _).trans stopped

/-! ## Where requests and calls come from -/

variable {aaa : AAA} {inputs : AAAInputs} {callback other : AAACallback}

/-- A start leaves the requests that were under way, and adds one for its own
callback at most. -/
theorem awaits_of_started {user : Bytes} {credential : Credential} {encap : Encapsulation}
    {after : AAA} {calls : List CallbackCall}
    (path : Started inputs user credential encap callback aaa after calls)
    (awaits : after.Awaits other) : aaa.Awaits other ∨ other = callback := by
  induction path with
  | idle aaa => exact .inl awaits
  | asked aaa =>
      rcases awaits with ⟨client, handler, present, holds, same⟩
      rcases Option.map_eq_some_iff.mp present with ⟨old, was, requested⟩
      rw [← requested] at holds
      rcases AuthClient.Holds.of_register holds with held | new
      · exact .inl ⟨old, handler, was, held, same⟩
      · rw [new] at same
        exact .inr same.symm
  | @made aaa made after sid calls _ construction path inductionHypothesis =>
      refine (inductionHypothesis awaits).imp_left (Awaits.of_auth ?_)
      rcases construction with ⟨session, pools, _, _, built⟩
      rw [built]
      rfl

/-- An answer calls back for a request that is under way, and adds none. -/
theorem awaits_of_authDatagram {datagram : Bytes} {out : AAA × List CallbackCall}
    (received : aaa.authDatagram inputs datagram = some out) :
    (forall call, call ∈ out.2 -> aaa.Awaits call.callback) ∧
      (out.1.Awaits other -> aaa.Awaits other) := by
  rcases authDatagram_cases received with
    ⟨client, filled, answer, present, filling, ⟨_, discarded⟩ | ⟨given, processed, isAnswer, answered, finished⟩⟩
  · rw [discarded]
    refine ⟨fun call member => absurd member List.not_mem_nil, ?_⟩
    rintro ⟨now, handler, is, holds, same⟩
    rcases (AuthClient.onRcv_cases filling).1 with ⟨buf, receives, equal⟩
    rw [← Option.some.inj is, equal] at holds
    exact ⟨client, handler, present, holds, same⟩
  · rcases AuthClient.onRcv_cases filling with ⟨⟨buf, receives, equal⟩, outstanding⟩
    rcases outstanding given isAnswer with ⟨entry, found, handler⟩
    have waiting : aaa.Awaits given.handler.callback :=
      ⟨client, given.handler, present, ⟨given.id, entry, found, handler⟩, rfl⟩
    have kept : processed.1.auth = some filled := by
      rcases processRadiusAnswer_cases answered with ⟨_, full⟩ | ⟨sid, made, _, built, started⟩
      · rw [full]
      · rcases built with ⟨session, pools, _, _, built⟩
        rw [started, built]
        exact start_auth _ _
    rw [finished]
    constructor
    · intro call member
      have bound : call.callback = given.handler.callback := by
        rcases processRadiusAnswer_cases answered with ⟨_, full⟩ | ⟨sid, made, _, _, started⟩
        · rw [full] at member
          rcases List.mem_append.mp member with refused | last
          · exact (callback_of_noAccept refused).1
          · rw [List.mem_singleton.mp last]
        · rw [started] at member
          rcases List.mem_append.mp member with refused | last
          · exact (callback_of_noAccept refused).1
          · rw [List.mem_singleton.mp last]
      rw [bound]
      exact waiting
    · rintro ⟨now, holder, is, holds, same⟩
      dsimp only at is
      rw [kept] at is
      rw [← Option.some.inj is] at holds
      have held := AuthClient.Holds.of_cancelTimer holds
      rw [equal] at held
      exact ⟨client, holder, present, held, same⟩

/-- The end of a request calls back for it, and adds none. -/
theorem awaits_of_authTimer {id : UInt8} {out : AAA × List CallbackCall}
    (fired : aaa.authTimer id = some out) :
    (forall call, call ∈ out.2 -> aaa.Awaits call.callback) ∧
      (out.1.Awaits other -> aaa.Awaits other) := by
  rcases authTimer_cases fired with ⟨client, entry, present, found, erased, calls⟩
  constructor
  · intro call member
    rcases calls with nothing | timeout
    · rw [nothing] at member
      cases member
    · rw [timeout] at member
      rw [List.mem_singleton.mp member]
      exact ⟨client, entry.handler, present, ⟨id, entry, found, rfl⟩, rfl⟩
  · rw [erased]
    rintro ⟨now, handler, is, holds, same⟩
    rw [← Option.some.inj is] at holds
    exact ⟨client, handler, present, .of_eraseEntry holds, same⟩

/-- The quiet events add no request. -/
theorem awaits_of_quiet {after : AAA} {event : AAAEvent} (quiet : event.Quiet)
    (taken : step aaa event = some after) (awaits : after.Awaits other) : aaa.Awaits other := by
  cases event with
  | authExpires id =>
      rw [← Option.some.inj taken] at awaits
      rcases awaits with ⟨client, handler, present, holds, same⟩
      rcases Option.map_eq_some_iff.mp present with ⟨old, was, changed⟩
      rw [← changed] at holds
      exact ⟨old, handler, was, .of_timerExpires holds, same⟩
  | acctDatagram inputs datagram =>
      refine awaits.of_auth ?_
      rcases acctDatagram_cases taken with ⟨_, _, _, _, _, ⟨_, discarded⟩ | ⟨_, _, finished⟩⟩
      · rw [discarded]
      · rw [finished, acctAnswer_auth]
  | acctExpires id =>
      rw [← Option.some.inj taken] at awaits
      exact awaits
  | acctTimer id =>
      refine awaits.of_auth ?_
      rcases acctTimer_cases taken with ⟨_, _, _, _, finished⟩
      rw [finished, collect_auth]
  | interimExpires ref =>
      rw [← Option.some.inj taken] at awaits
      exact awaits
  | interimTimer counters ref index =>
      refine awaits.of_auth ?_
      rcases interimTimer_cases taken with ⟨_, _, ⟨_, finished⟩ | ⟨_, finished⟩⟩
      · rw [finished, collect_auth, onInterim_auth]
        rfl
      · rw [finished, collect_auth]
        rfl
  | reload conf templates =>
      rw [(step_reload taken).2] at awaits
      exact awaits
  | _ => exact quiet.elim

end AAA

end Pppcpd
