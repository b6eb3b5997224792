import Pppcpd.Aaa.Neighbours
import Pppcpd.Runtime.Frames

namespace Pppcpd

open Foundation

/-!
# References from PPPoE sessions into AAA

A PPPoE session names its AAA session by a number.  AAA hands out the lowest
number that is free, so a number is used again at once, and it is written into
the PPPoE session by a callback that can come late.  What excludes that two
sessions name the same entry is that a callback announces a new entry, and that
an entry is erased only together with the active session that names it.
-/

/-- The identity of a session and its reference into AAA. -/
def reference (session : PPPOESession) : PPPOEKey × UInt32 := (session.key, session.aaaSessionId)

theorem lcpBlind_reference : LcpBlind reference where
  lcp := by
    intro first second same
    have parts := congrArg reference same
    exact parts
  started := fun _ => rfl

theorem ipcpBlind_reference : IpcpBlind reference := by
  intro first second same
  have parts := congrArg reference same
  exact parts

theorem openBlind_reference : OpenBlind reference := .of_ipcp ipcpBlind_reference (fun _ _ => rfl)

theorem timerBlind_reference : TimerBlind reference := ⟨fun _ _ => rfl, fun _ _ => rfl⟩

namespace Runtime

/-! ## Handlers that do not call AAA -/

@[simp] theorem aaa_withSession (runtime : Runtime) (ref : Nat) (method : PPPOESession -> FsmOut) :
    (runtime.withSession ref method).aaa = runtime.aaa := by
  simp only [withSession]
  split <;> rfl

@[simp] theorem aaa_ensureStarted (runtime : Runtime) (env : Env) (ref : Nat) :
    (runtime.ensureStarted env ref).aaa = runtime.aaa :=
  aaa_withSession runtime ref _

@[simp] theorem aaa_openAuth (runtime : Runtime) (env : Env) (ref : Nat) :
    (runtime.openAuth env ref).aaa = runtime.aaa := by
  simp only [openAuth]
  split
  · simp only [openChap]
    split <;> rfl
  · split
    · rfl
    · exact aaa_withSession runtime ref _

@[simp] theorem aaa_rejectProtocol (runtime : Runtime) (ref : Nat) (packet : Packet) :
    (runtime.rejectProtocol ref packet).aaa = runtime.aaa :=
  aaa_withSession runtime ref _

@[simp] theorem aaa_callbacks (runtime : Runtime) (calls : List CallbackCall) :
    (runtime.callbacks calls).aaa = runtime.aaa := by
  unfold callbacks
  induction calls generalizing runtime with
  | nil => rfl
  | cons call rest inductionHypothesis =>
      have called : (runtime.callback call).aaa = runtime.aaa :=
        aaa_withSession runtime _ _
      exact (inductionHypothesis (runtime.callback call)).trans called

@[simp] theorem aaa_pendeSession (runtime : Runtime) (conn : PPPOEConn) :
    (runtime.pendeSession conn).1.aaa = runtime.aaa := by
  simp only [pendeSession]
  split <;> rfl

@[simp] theorem aaa_checkSession (runtime : Runtime) (conn : PPPOEConn) :
    (runtime.checkSession conn).1.aaa = runtime.aaa := by
  simp only [checkSession]
  split <;> rfl

theorem aaa_pendingTimer {runtime after : Runtime} {index : Nat}
    (fired : runtime.pendingTimer index = some after) : after.aaa = runtime.aaa := by
  rcases Option.map_eq_some_iff.mp fired with ⟨conn, _, equal⟩
  rw [← equal]
  rfl

/-! ## The invariant -/

/-- Every active session names an entry of AAA or none, and no two of them name
the same one. -/
structure ReferenceInvariant (runtime : Runtime) : Prop where
  tables : StoreInvariant runtime
  entered : runtime.aaa.Entered
  named : forall ref session, runtime.store.activeSessions.Holds ref ->
    runtime.sessions.deref ref = some session ->
      session.aaaSessionId = uint32Max ∨ session.aaaSessionId ∈ runtime.aaa.sessions
  unshared : forall ref other session otherSession,
    runtime.store.activeSessions.Holds ref -> runtime.store.activeSessions.Holds other ->
    runtime.sessions.deref ref = some session -> runtime.sessions.deref other = some otherSession ->
    session.aaaSessionId = otherSession.aaaSessionId -> session.aaaSessionId ≠ uint32Max ->
      ref = other

/-- A step that keeps the references and the entries they name. -/
structure Steady (before after : Runtime) : Prop where
  kept : Kept reference before after
  grows : AAA.Grows before.aaa after.aaa
  entries : forall sid, sid ∈ before.aaa.sessions -> sid ∈ after.aaa.sessions

namespace Steady

theorem of_kept {before after : Runtime} (kept : Kept reference before after)
    (aaa : after.aaa = before.aaa) : Steady before after :=
  ⟨kept, aaa ▸ .refl before.aaa, fun _ member => aaa ▸ member⟩

theorem trans {first second third : Runtime} (left : Steady first second)
    (right : Steady second third) : Steady first third :=
  ⟨left.kept.trans right.kept, left.grows.trans right.grows,
    fun sid member => right.entries sid (left.entries sid member)⟩

theorem invariant {before after : Runtime} (steady : Steady before after)
    (invariant : ReferenceInvariant before) : ReferenceInvariant after := by
  have earlier : forall ref session, after.store.activeSessions.Holds ref ->
      after.sessions.deref ref = some session ->
        before.store.activeSessions.Holds ref ∧ ∃ old, before.sessions.deref ref = some old ∧
          old.aaaSessionId = session.aaaSessionId := by
    intro ref session active present
    rw [steady.kept.active] at active
    rcases steady.kept.symm.session present with ⟨old, found, same⟩
    exact ⟨active, old, found, congrArg Prod.snd same⟩
  refine ⟨(steady.kept.map Prod.fst).invariant invariant.tables,
    steady.grows.entered invariant.entered, ?_, ?_⟩
  · intro ref session active present
    rcases earlier ref session active present with ⟨was, old, found, same⟩
    rw [← same]
    exact (invariant.named ref old was found).imp_right (steady.entries _)
  · intro ref other session otherSession active otherActive present otherPresent equal named
    rcases earlier ref session active present with ⟨was, old, found, same⟩
    rcases earlier other otherSession otherActive otherPresent with
      ⟨otherWas, otherOld, otherFound, otherSame⟩
    exact invariant.unshared ref other old otherOld was otherWas found otherFound
      (same.trans (equal.trans otherSame.symm)) (same ▸ named)

end Steady

/-! ## Ending and making sessions -/

/-- A deallocation does nothing, or it stops the AAA session of its target. -/
theorem aaa_deallocateSession {runtime : Runtime} (invariant : StoreInvariant runtime)
    (sid : UInt16) :
    (runtime.deallocateSession sid).1 = runtime ∨
      ∃ ref session, runtime.target sid = some ref ∧ runtime.store.activeSessions.Holds ref ∧
        runtime.sessions.deref ref = some session ∧
        (runtime.deallocateSession sid).1.aaa =
          runtime.aaa.stopSession runtime.counters session.aaaSessionId := by
  by_cases member : sid ∈ runtime.store.sessionSet
  · rcases deallocateSession_of_mem invariant member with
      ⟨key, ref, _, found, registered, unfolded, _⟩
    rcases invariant.keyed key ref found with ⟨session, present, _⟩
    refine .inr ⟨ref, session, ?_, ⟨key, found⟩, present, ?_⟩
    · rw [target, if_pos member, registered]
      rfl
    · rw [unfolded]
      simp only [releaseId, removeSession, present, collect_aaa]
  · rw [deallocateSession_of_not_mem member]
    exact .inl rfl

/-- The AAA session of an active session that is not the target of a
deallocation is left alone. -/
theorem ReferenceInvariant.spares {runtime : Runtime} (invariant : ReferenceInvariant runtime)
    (sid : UInt16) {ref : Nat} {session : PPPOESession}
    (active : runtime.store.activeSessions.Holds ref)
    (present : runtime.sessions.deref ref = some session) (other : runtime.target sid ≠ some ref)
    {entry : Nat} (found : runtime.aaa.sessions.lookup session.aaaSessionId = some entry) :
    (runtime.deallocateSession sid).1.aaa.sessions.lookup session.aaaSessionId = some entry ∧
      (runtime.deallocateSession sid).1.aaa.objects.deref entry = runtime.aaa.objects.deref entry ∧
      (runtime.deallocateSession sid).1.aaa.objects.isAlive entry =
        runtime.aaa.objects.isAlive entry := by
  rcases aaa_deallocateSession invariant.tables sid with
    same | ⟨gone, ended, isTarget, wasActive, was, stopped⟩
  · rw [same]
    exact ⟨found, rfl, rfl⟩
  · rw [stopped]
    have spares : AAA.Spares (fun id => id = ended.aaaSessionId) runtime.aaa
        (runtime.aaa.stopSession runtime.counters ended.aaaSessionId) :=
      .stopSession invariant.entered runtime.counters rfl
    refine spares session.aaaSessionId entry ?_ found
    intro same
    refine other (isTarget.trans (congrArg some ?_))
    exact (invariant.unshared ref gone session ended active wasActive present was same
      (invariant.entered.id _ entry found)).symm

theorem ReferenceInvariant.deallocateSession {runtime : Runtime}
    (invariant : ReferenceInvariant runtime) (sid : UInt16) :
    ReferenceInvariant (runtime.deallocateSession sid).1 := by
  have left : forall ref, (runtime.deallocateSession sid).1.store.activeSessions.Holds ref ->
      runtime.store.activeSessions.Holds ref ∧ runtime.target sid ≠ some ref :=
    fun ref => (holds_deallocateSession invariant.tables sid ref).mp
  refine ⟨storeInvariant_deallocateSession invariant.tables sid, ?_, ?_, ?_⟩
  · rcases aaa_deallocateSession invariant.tables sid with same | ⟨_, _, _, _, _, stopped⟩
    · rw [same]
      exact invariant.entered
    · rw [stopped]
      exact (AAA.Grows.stopSession _ _ _).entered invariant.entered
  · intro ref session active present
    rw [deref_deallocateSession] at present
    rcases left ref active with ⟨was, other⟩
    rcases invariant.named ref session was present with unset | entry
    · exact .inl unset
    · rcases Table.mem_iff_lookup.mp entry with ⟨record, found⟩
      exact .inr (Table.mem_iff_lookup.mpr
        ⟨record, (invariant.spares sid was present other found).1⟩)
  · intro ref other session otherSession active otherActive present otherPresent
    rw [deref_deallocateSession] at present otherPresent
    exact invariant.unshared ref other session otherSession (left ref active).1
      (left other otherActive).1 present otherPresent

/-- A new session names no entry. -/
theorem ReferenceInvariant.allocateSession {runtime : Runtime}
    (invariant : ReferenceInvariant runtime) {env : Env} {encap : Encapsulation}
    {result : Runtime × UInt16 × Option String}
    (allocated : runtime.allocateSession env encap = some result) :
    ReferenceInvariant result.1 := by
  have tables := storeInvariant_allocateSession invariant.tables env encap allocated
  rcases allocateSession_cases invariant.tables env encap allocated with
    full | ⟨id, free, positive, entered⟩
  · rw [full]
    exact invariant
  · have fresh := key_not_mem_of_free invariant.tables encap free
    rw [entered] at tables ⊢
    have older : forall ref session,
        Table.Holds (runtime.store.activeSessions.insert (.ofEncap encap id) runtime.sessions.length)
          ref ->
        (runtime.sessions.make (.construct env.session encap id)).deref ref = some session ->
          session.aaaSessionId = uint32Max ∨
            runtime.store.activeSessions.Holds ref ∧ runtime.sessions.deref ref = some session := by
      intro ref session active present
      rw [Heap.deref_make] at present
      rcases (Table.holds_insert_of_not_mem fresh _ ref).mp active with new | old
      · rw [if_pos new] at present
        rw [← Option.some.inj present]
        exact .inl rfl
      · rcases old with ⟨key, found⟩
        rcases invariant.tables.keyed key ref found with ⟨_, there, _⟩
        rw [if_neg (Nat.ne_of_lt (Heap.lt_length_of_deref there))] at present
        exact .inr ⟨⟨key, found⟩, present⟩
    refine ⟨tables, invariant.entered, ?_, ?_⟩
    · intro ref session active present
      rcases older ref session active present with unset | ⟨was, there⟩
      · exact .inl unset
      · exact invariant.named ref session was there
    · intro ref other session otherSession active otherActive present otherPresent equal named
      rcases older ref session active present with unset | ⟨was, there⟩
      · exact absurd unset named
      · rcases older other otherSession otherActive otherPresent with unset | ⟨otherWas, otherThere⟩
        · exact absurd (equal.trans unset) named
        · exact invariant.unshared ref other session otherSession was otherWas there otherThere
            equal named

/-! ## Callback calls -/

/-- A success writes the number that it carries, and an error writes none. -/
theorem aaaSessionId_authCallback (hwaddr : Mac) (protocol : AuthProtocol) (sid : UInt32)
    (err : Option String) (session : PPPOESession) :
    (protocol.authCallback hwaddr sid err session).session.aaaSessionId =
      if err = none then sid else session.aaaSessionId := by
  cases err with
  | none =>
      have outside := AuthProtocol.sendAuthAck_outside hwaddr protocol
        (protocol.setStarted { session with aaaSessionId := sid })
      have number := congrArg PPPOESession.aaaSessionId outside
      rw [if_pos rfl]
      refine Eq.trans number ?_
      cases protocol <;> rfl
  | some text => rfl

/-- After a call every session has the reference that it had, but for one that
the call was a success for. -/
theorem deref_callback {runtime : Runtime} {call : CallbackCall} {ref : Nat}
    {session : PPPOESession} (present : (runtime.callback call).sessions.deref ref = some session) :
    ∃ earlier, runtime.sessions.deref ref = some earlier ∧
      (session.aaaSessionId = earlier.aaaSessionId ∨
        ref = call.callback.session ∧ call.err = none ∧ session.aaaSessionId = call.sid) := by
  have called : (runtime.withSession call.callback.session
      (call.callback.protocol.authCallback runtime.hwaddr call.sid call.err)).sessions.deref ref =
        some session := present
  cases found : runtime.sessions.deref call.callback.session with
  | none =>
      rw [withSession, found] at called
      exact ⟨session, called, .inl rfl⟩
  | some target =>
      rw [withSession_eq found, deref_apply] at called
      split at called
      · rename_i here
        rw [here, found] at called
        rw [here]
        refine ⟨target, found, ?_⟩
        rw [← Option.some.inj called, aaaSessionId_authCallback]
        split
        · rename_i success
          exact .inr ⟨rfl, success, rfl⟩
        · exact .inl rfl
      · exact ⟨session, called, .inl rfl⟩

theorem deref_callbacks {runtime : Runtime} {calls : List CallbackCall} {ref : Nat}
    {session : PPPOESession}
    (present : (runtime.callbacks calls).sessions.deref ref = some session) :
    ∃ earlier, runtime.sessions.deref ref = some earlier ∧
      (session.aaaSessionId = earlier.aaaSessionId ∨
        ∃ call, call ∈ calls ∧ ref = call.callback.session ∧ call.err = none ∧
          session.aaaSessionId = call.sid) := by
  unfold callbacks at present
  induction calls generalizing runtime with
  | nil => exact ⟨session, present, .inl rfl⟩
  | cons call rest inductionHypothesis =>
      rcases inductionHypothesis present with
        ⟨middle, there, same | ⟨later, member, isCall⟩⟩
      · rcases deref_callback there with ⟨earlier, found, kept | ⟨here, success, number⟩⟩
        · exact ⟨earlier, found, .inl (same.trans kept)⟩
        · exact ⟨earlier, found,
            .inr ⟨call, List.mem_cons_self, here, success, same.trans number⟩⟩
      · rcases deref_callback there with ⟨earlier, found, _⟩
        exact ⟨earlier, found, .inr ⟨later, List.mem_cons_of_mem _ member, isCall⟩⟩

/-- Calls that announce new sessions keep the invariant. -/
theorem ReferenceInvariant.withCalls {runtime : Runtime} (invariant : ReferenceInvariant runtime)
    {outcome : AAA × List CallbackCall} {callback : AAACallback}
    (grows : AAA.Grows runtime.aaa outcome.1)
    (announces : AAA.Announces callback runtime.aaa outcome.1 outcome.2) :
    ReferenceInvariant (runtime.withCalls outcome) := by
  have kept : Kept PPPOESession.key runtime (runtime.withCalls outcome) :=
    kept_withCalls authBlind_key runtime outcome
  have entries : (runtime.withCalls outcome).aaa = outcome.1 :=
    aaa_callbacks (runtime.withAaa outcome.1) outcome.2
  have stays : forall sid, sid ∈ runtime.aaa.sessions -> sid ∈ outcome.1.sessions :=
    fun sid => announces.spares.mem (fun impossible => impossible)
  have origin : forall ref session, (runtime.withCalls outcome).sessions.deref ref = some session ->
      ∃ earlier, runtime.sessions.deref ref = some earlier ∧
        (session.aaaSessionId = earlier.aaaSessionId ∨
          ref = callback.session ∧ session.aaaSessionId ∉ runtime.aaa.sessions ∧
            session.aaaSessionId ∈ outcome.1.sessions) := by
    intro ref session present
    rcases deref_callbacks present with
      ⟨earlier, found, same | ⟨call, member, here, success, number⟩⟩
    · exact ⟨earlier, found, .inl same⟩
    · have fresh := announces.fresh call member success
      refine ⟨earlier, found, .inr ⟨?_, number ▸ fresh.1, number ▸ fresh.2⟩⟩
      rw [here, announces.callbacks call member]
  refine ⟨kept.invariant invariant.tables, entries ▸ grows.entered invariant.entered, ?_, ?_⟩
  · intro ref session active present
    rw [kept.active] at active
    rw [entries]
    rcases origin ref session present with ⟨earlier, found, same | ⟨_, _, entry⟩⟩
    · rw [same]
      exact (invariant.named ref earlier active found).imp_right (stays _)
    · exact .inr entry
  · intro ref other session otherSession active otherActive present otherPresent equal named
    rw [kept.active] at active otherActive
    rcases origin ref session present with ⟨earlier, found, same | ⟨here, isNew, _⟩⟩
    · rcases origin other otherSession otherPresent with
        ⟨otherEarlier, otherFound, otherSame | ⟨_, otherNew, _⟩⟩
      · exact invariant.unshared ref other earlier otherEarlier active otherActive found otherFound
          (same.symm.trans (equal.trans otherSame)) (same ▸ named)
      · rw [← equal, same] at otherNew
        rw [same] at named
        exact absurd ((invariant.named ref earlier active found).resolve_left named) otherNew
    · rcases origin other otherSession otherPresent with
        ⟨otherEarlier, otherFound, otherSame | ⟨otherHere, _, _⟩⟩
      · rw [equal] at isNew named
        rw [otherSame] at isNew named
        exact absurd
          ((invariant.named other otherEarlier otherActive otherFound).resolve_left named) isNew
      · exact here.trans otherHere.symm

/-! ## Steps of the daemon -/

theorem ReferenceInvariant.recvAuthReq {runtime after : Runtime} {env : Env} {ref : Nat}
    {protocol : AuthProtocol} {username : Bytes} {credential : Credential}
    (invariant : ReferenceInvariant runtime)
    (received : runtime.recvAuthReq env ref protocol username credential = some after) :
    ReferenceInvariant after := by
  rcases recvAuthReq_cases received with
    ⟨session, found, ⟨_, repeated⟩ | ⟨_, started, asked, finished⟩⟩
  · rw [repeated]
    have same : reference (protocol.sendAuthAck runtime.hwaddr session).session =
        reference session :=
      ipcpBlind_reference _ _ (AuthProtocol.sendAuthAck_outside runtime.hwaddr protocol session)
    exact (Steady.of_kept (kept_apply _ found same) rfl).invariant invariant
  · rw [finished]
    have named : Kept reference runtime (runtime.requested ref protocol username session) :=
      (kept_apply (PPPOESession.done { session with username := username }) found rfl).trans
        (.of_same rfl rfl)
    have path := AAA.started_of_startByMethods asked
    have steady : Steady runtime (runtime.requested ref protocol username session) :=
      .of_kept named rfl
    exact (steady.invariant invariant).withCalls (.started path)
      (AAA.announces_of_started invariant.entered path)

theorem ReferenceInvariant.processLcp {runtime after : Runtime} {env : Env} {ref : Nat}
    {packet : Packet} {err : Option String} (invariant : ReferenceInvariant runtime)
    (processed : runtime.processLcp env ref packet = some (after, err)) :
    ReferenceInvariant after := by
  rcases processLcp_cases processed with
    ⟨session, out, found, received, ⟨_, _, up⟩ | ⟨_, _, down⟩ | ⟨_, quiet⟩⟩
  all_goals
    have applied : Steady runtime (runtime.apply ref out) :=
      .of_kept (kept_applyLcp lcpBlind_reference found received) rfl
  · rw [up]
    exact (applied.trans (.of_kept (kept_openAuth openBlind_reference _ env ref)
      (aaa_openAuth _ env ref))).invariant invariant
  · rw [down]
    exact (applied.invariant invariant).deallocateSession _
  · rw [quiet]
    exact applied.invariant invariant

theorem steady_processIpcp {runtime after : Runtime} {ref : Nat} {packet : Packet}
    (processed : runtime.processIpcp ref packet = some after) : Steady runtime after := by
  have kept := kept_processIpcp ipcpBlind_reference timerBlind_reference processed
  rcases processIpcp_cases processed with
    ⟨session, out, _, _, ⟨_, _, up⟩ | ⟨_, quiet⟩⟩
  · have mapped : ∃ sid ifindex, after.aaa = runtime.aaa.mapIfaceToSession sid ifindex := by
      rw [up, openDataPlane_eq]
      exact ⟨_, _, rfl⟩
    rcases mapped with ⟨sid, ifindex, isMapped⟩
    refine ⟨kept, ?_, fun number member => ?_⟩
    · rw [isMapped]
      exact AAA.grows_step (rfl : runtime.aaa.step (.mapIfaceToSession sid ifindex) = some _)
    · rw [isMapped, AAA.mapIfaceToSession_sessions]
      exact member
  · rw [quiet] at kept ⊢
    exact .of_kept kept rfl

theorem ReferenceInvariant.processPPP {runtime after : Runtime} {env : Env}
    {encap : Encapsulation} {packet : Packet} {err : Option String}
    (invariant : ReferenceInvariant runtime)
    (processed : runtime.processPPP env encap packet = some (after, err)) :
    ReferenceInvariant after := by
  rcases processPPP_cases processed with dropped | ⟨ref, _, dispatched⟩
  · rw [dropped]
    exact invariant
  · have started : Steady runtime (runtime.ensureStarted env ref) :=
      .of_kept (kept_ensureStarted lcpBlind_reference runtime env ref)
        (aaa_ensureStarted runtime env ref)
    have ready := started.invariant invariant
    rcases dispatch_cases dispatched with
      ⟨_, lcp⟩ | ⟨_, _, _, _, auth⟩ | ⟨_, ipcp⟩ | same | rejected
    · exact ready.processLcp lcp
    · exact ready.recvAuthReq auth
    · exact (steady_processIpcp ipcp).invariant ready
    · rw [same]
      exact ready
    · rw [rejected]
      exact (Steady.of_kept (kept_rejectProtocol _ ref packet)
        (aaa_rejectProtocol _ ref packet)).invariant ready

theorem ReferenceInvariant.processPPPOE {runtime after : Runtime} {env : Env}
    {encap : Encapsulation} {packet : Packet} {err : Option String}
    (invariant : ReferenceInvariant runtime)
    (processed : runtime.processPPPOE env encap packet = some (after, err)) :
    ReferenceInvariant after := by
  rcases processPPPOE_cases processed with ⟨_, before, queue, queued, handled⟩ | ⟨_, ended⟩
  · have same : Steady before after :=
      .of_kept (.of_same (by rw [queued]) (by rw [queued])) (by rw [queued])
    apply same.invariant
    rcases handled with same | ⟨conn, pended⟩ | ⟨conn, checked⟩ | ⟨conn, result, allocated, entered⟩
    · rw [same]
      exact invariant
    · rw [pended]
      exact (Steady.of_kept (kept_pendeSession runtime conn)
        (aaa_pendeSession runtime conn)).invariant invariant
    · rw [checked]
      exact (Steady.of_kept (kept_checkSession runtime conn)
        (aaa_checkSession runtime conn)).invariant invariant
    · rw [entered]
      have ready := (Steady.of_kept (kept_checkSession runtime conn)
        (aaa_checkSession runtime conn)).invariant invariant
      exact ready.allocateSession allocated
  · rw [ended]
    exact invariant.deallocateSession _

theorem ReferenceInvariant.echoTimer {runtime after : Runtime} {env : Env} {ref index : Nat}
    (invariant : ReferenceInvariant runtime)
    (fired : runtime.echoTimer env ref index = some after) : ReferenceInvariant after := by
  have popped : ReferenceInvariant (runtime.popEcho ref index) :=
    (Steady.of_kept (kept_popEcho timerBlind_reference runtime ref index) rfl).invariant invariant
  have collected : forall before : Runtime, ReferenceInvariant before ->
      ReferenceInvariant (before.collect ref) :=
    fun before here =>
      (Steady.of_kept (kept_collect before ref) (collect_aaa before ref)).invariant here
  rcases echoTimer_cases fired with ⟨session, found, ⟨_, expired⟩ | ⟨_, aborted⟩⟩
  · rw [expired]
    apply collected
    have there : (runtime.popEcho ref index).sessions.deref ref =
        some { session with timer := session.timer.eraseIdx index } := by
      unfold popEcho
      dsimp only
      rw [Heap.deref_update, if_pos rfl, found]
      rfl
    rcases sendEchoReq_cases env there with ⟨out, counted, ⟨_, _, ended⟩ | ⟨_, again⟩⟩
    all_goals
      have applied : Steady (runtime.popEcho ref index) ((runtime.popEcho ref index).apply ref out) :=
        .of_kept (kept_apply out there (by rw [counted]; rfl)) rfl
    · rw [ended]
      exact (applied.invariant popped).deallocateSession _
    · rw [again]
      exact (applied.trans (.of_kept (kept_startEcho timerBlind_reference _ ref) rfl)).invariant popped
  · rw [aborted]
    exact collected _ popped

theorem Quiet.steady {now after : Runtime} (quiet : Quiet now after) : Steady now after := by
  refine ⟨quiet.kept, ?_, ?_⟩
  · rcases quiet.aaa with same | ⟨event, _, handled⟩
    · rw [same]
      exact .refl _
    · exact AAA.grows_step handled
  · intro sid member
    rcases quiet.aaa with same | ⟨event, isQuiet, handled⟩
    · rw [same]
      exact member
    · rw [AAA.sessions_of_quiet isQuiet handled]
      exact member

/-- The daemon keeps the invariant with every event. -/
theorem referenceInvariant_step {now after : Runtime} {event : Event}
    (invariant : ReferenceInvariant now) (taken : step now event = some after) :
    ReferenceInvariant after := by
  rcases event with ⟨env, input⟩
  cases step_cases taken with
  | discovery processed => exact invariant.processPPPOE processed
  | session processed => exact invariant.processPPP processed
  | pendingTimer fired =>
      exact (Steady.of_kept (kept_pendingTimer fired) (aaa_pendingTimer fired)).invariant invariant
  | echoExpires expired =>
      rw [expired]
      exact (Steady.of_kept (kept_echoExpires timerBlind_reference now _) rfl).invariant invariant
  | echoTimer fired => exact invariant.echoTimer fired
  | authDatagram received called =>
      rw [called]
      rcases AAA.announces_of_authDatagram invariant.entered received with ⟨callback, announces⟩
      exact invariant.withCalls (.authDatagram received) announces
  | authTimer fired called =>
      rw [called]
      rcases AAA.announces_of_authTimer fired with ⟨callback, announces⟩
      rcases AAA.authTimer_cases fired with ⟨client, _, _, _, erased, _⟩
      exact invariant.withCalls (by rw [erased]; exact .auth now.aaa _) announces
  | quiet quiet => exact quiet.steady.invariant invariant

/-! ## Runs with deallocations and cleanups -/

/-- An event of the daemon, or a call of an operation that ends sessions. -/
inductive Happening
  | event (event : Event)
  | deallocateSession (sid : UInt16)
  | cleanup

/-- The state after a happening. -/
def happen (runtime : Runtime) : Happening -> Option Runtime
  | .event event => step runtime event
  | .deallocateSession sid => some (runtime.deallocateSession sid).1
  | .cleanup => some runtime.cleanup

theorem aaa_foldl_collect (refs : List Nat) (runtime : Runtime) :
    (refs.foldl (fun runtime ref => runtime.collect ref) runtime).aaa = runtime.aaa := by
  induction refs generalizing runtime with
  | nil => rfl
  | cons ref rest inductionHypothesis =>
      exact (inductionHypothesis (runtime.collect ref)).trans (collect_aaa runtime ref)

/-- Where no session is active there is nothing to refer. -/
theorem referenceInvariant_of_none {runtime : Runtime} (tables : StoreInvariant runtime)
    (entered : runtime.aaa.Entered) (none : runtime.store.activeSessions = ∅) :
    ReferenceInvariant runtime := by
  have inactive : forall ref, ¬ runtime.store.activeSessions.Holds ref := by
    rintro ref ⟨key, found⟩
    rw [none] at found
    cases found
  exact ⟨tables, entered, fun ref _ active => absurd active (inactive ref),
    fun ref _ _ _ active => absurd active (inactive ref)⟩

theorem referenceInvariant_cleanup {runtime : Runtime} (invariant : ReferenceInvariant runtime) :
    ReferenceInvariant runtime.cleanup := by
  refine referenceInvariant_of_none (storeInvariant_cleanup invariant.tables) ?_ ?_
  · unfold cleanup
    dsimp only
    rw [aaa_foldl_collect]
    exact (AAA.Grows.stopAllSessions _ _).entered invariant.entered
  · unfold cleanup
    dsimp only
    rw [(@kept_foldl_collect _ reference _ _).active]

theorem referenceInvariant_happen {now after : Runtime} {happening : Happening}
    (invariant : ReferenceInvariant now) (taken : happen now happening = some after) :
    ReferenceInvariant after := by
  cases happening with
  | event event => exact referenceInvariant_step invariant taken
  | deallocateSession sid =>
      rw [← Option.some.inj taken]
      exact invariant.deallocateSession sid
  | cleanup =>
      rw [← Option.some.inj taken]
      exact referenceInvariant_cleanup invariant

theorem referenceInvariant_fresh {start : Runtime} (fresh : start.Fresh) :
    ReferenceInvariant start :=
  referenceInvariant_of_none (storeInvariant_empty fresh.store)
    (AAA.entered_empty fresh.aaaSessions) (by rw [fresh.store])

/-- The two session tables refer to each other correctly. -/
structure ReferenceLaw (runtime : Runtime) : Prop where
  /-- The number of an active session is unset, or it names an entry whose own
  number is the same. -/
  named : forall ref session, runtime.store.activeSessions.Holds ref ->
    runtime.sessions.deref ref = some session ->
      session.aaaSessionId = uint32Max ∨
        ∃ entry record, runtime.aaa.sessions.lookup session.aaaSessionId = some entry ∧
          runtime.aaa.objects.deref entry = some record ∧
          record.sessionId = session.aaaSessionId
  unshared : forall ref other session otherSession,
    runtime.store.activeSessions.Holds ref -> runtime.store.activeSessions.Holds other ->
    runtime.sessions.deref ref = some session -> runtime.sessions.deref other = some otherSession ->
    session.aaaSessionId = otherSession.aaaSessionId -> session.aaaSessionId ≠ uint32Max ->
      ref = other
  /-- Ending one session leaves the AAA session of every other one. -/
  spared : forall sid ref session, runtime.store.activeSessions.Holds ref ->
    runtime.sessions.deref ref = some session -> runtime.target sid ≠ some ref ->
    forall entry, runtime.aaa.sessions.lookup session.aaaSessionId = some entry ->
      (runtime.deallocateSession sid).1.aaa.sessions.lookup session.aaaSessionId = some entry ∧
        (runtime.deallocateSession sid).1.aaa.objects.deref entry =
          runtime.aaa.objects.deref entry ∧
        (runtime.deallocateSession sid).1.aaa.objects.isAlive entry =
          runtime.aaa.objects.isAlive entry

theorem ReferenceInvariant.law {runtime : Runtime} (invariant : ReferenceInvariant runtime) :
    ReferenceLaw runtime where
  named := by
    intro ref session active present
    rcases invariant.named ref session active present with unset | member
    · exact .inl unset
    · rcases Table.mem_iff_lookup.mp member with ⟨entry, found⟩
      rcases Option.map_eq_some_iff.mp (invariant.entered.named _ entry found) with
        ⟨record, there, number⟩
      exact .inr ⟨entry, record, found, there, number⟩
  unshared := invariant.unshared
  spared := fun sid _ _ active present other _ found =>
    invariant.spares sid active present other found

theorem referenceInvariant_of_reachable {start runtime : Runtime} (fresh : start.Fresh)
    (reached : Reachable happen start runtime) : ReferenceInvariant runtime :=
  reached.invariant (referenceInvariant_fresh fresh)
    (fun _ _ _ here taken => referenceInvariant_happen here taken)

/-- The law holds in every state that events, deallocations and cleanups can
reach. -/
theorem referenceLaw_of_reachable {start runtime : Runtime} (fresh : start.Fresh)
    (reached : Reachable happen start runtime) : ReferenceLaw runtime :=
  (referenceInvariant_of_reachable fresh reached).law

/-- A session that was authenticated ends, and two more are authenticated. -/
def sampleHappenings : List Happening :=
  ((connect (sampleLink 1) ++ [papRequest (sampleLink 1) 1]).map .event) ++
    [.deallocateSession 1] ++
    ((connect (sampleLink 2) ++ [papRequest (sampleLink 2) 2]).map .event) ++
    ((connect (sampleLink 3) ++ [papRequest (sampleLink 3) 3]).map .event)

def twoSubscribers : Runtime :=
  Foundation.after happen (sampleDaemon [.none] papPolicy) sampleHappenings (by decide +kernel)

/-- The law where a number of AAA was used again. -/
theorem referenceLaw_at_twoSubscribers :
    (twoSubscribers.sessions.map (fun cell => cell.object.aaaSessionId)) = [0, 0, 1] ∧
      ReferenceLaw twoSubscribers :=
  ⟨by decide +kernel,
    referenceLaw_of_reachable (fresh_sampleDaemon [.none] papPolicy) (reachable_after _ _ _ _)⟩

end Runtime

end Pppcpd
