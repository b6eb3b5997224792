import Pppcpd.Aaa.Idle
import Pppcpd.Runtime.Endings
import Pppcpd.Runtime.References

namespace Pppcpd

open Foundation

/-!
# Entries of AAA without an owner

An entry of `AAA::sessions` is erased only by the end of the PPPoE session that
names it.  An entry that no active session names stays for ever, with its
address.  A session names one entry at a time, so each success for a session
that has one already, and each answer for a session that has ended, leaves an
entry behind.
-/

namespace Runtime

/-- The session object is active and names the entry. -/
def Names (runtime : Runtime) (ref : Nat) (sid : UInt32) : Prop :=
  runtime.store.activeSessions.Holds ref ∧
    ∃ session, runtime.sessions.deref ref = some session ∧ session.aaaSessionId = sid

/-- Every entry is named by one active session, and without active sessions AAA
has nothing left. -/
structure OrphanFree (runtime : Runtime) : Prop where
  named : forall sid, sid ∈ runtime.aaa.sessions -> ∃! ref, runtime.Names ref sid
  ended : (forall ref, ¬ runtime.store.activeSessions.Holds ref) -> runtime.aaa.Idle

/-! ## The condition on a step -/

/-- The session object is active and names no entry yet. -/
def AwaitsEntry (runtime : Runtime) (ref : Nat) : Prop :=
  runtime.isActive ref = true ∧
    ∀ session ∈ runtime.sessions.deref ref, session.aaaSessionId = uint32Max

instance (runtime : Runtime) (ref : Nat) : Decidable (runtime.AwaitsEntry ref) :=
  inferInstanceAs (Decidable (_ ∧ _))

/-- A request that NONE answers comes for a session without an entry, and NONE
answers it once.  An answer of the server that makes an entry is for an active
session without one. -/
def EntersOnce (runtime : Runtime) (event : Event) : Prop :=
  match event.input with
  | .session encap packet =>
      ∀ ref ∈ runtime.store.activeSessions.lookup (frameKey encap packet),
        ∀ session ∈ runtime.sessions.deref ref, forall protocol : AuthProtocol,
          IsAuthRequest packet protocol -> protocol.started session = false ->
            runtime.aaa.NoneUsable -> .none ∈ AAA.beforeRadius runtime.aaa.conf.method ->
              session.aaaSessionId = uint32Max ∧
                ((AAA.beforeRadius runtime.aaa.conf.method).count .none = 1 ∨ runtime.aaa.LastId)
  | .authDatagram datagram =>
      ∀ client ∈ runtime.aaa.auth,
        ∀ received ∈ client.onRcv runtime.aaa.md5 event.env.aaa.behind datagram,
          ∀ answer ∈ received.2, runtime.aaa.firstFreeId ≠ none ->
            runtime.AwaitsEntry answer.handler.callback.session
  | _ => True

/-- The end of the only active session takes the last of AAA away. -/
def EndsClear (runtime : Runtime) (event : Event) : Prop :=
  EndsOnly (fun ref session => (∀ other ∈ runtime.store.activeSessions.values, other = ref) ->
    runtime.aaa.StopClears session.aaaSessionId) runtime event

def LeavesNoOrphan (runtime : Runtime) (event : Event) : Prop :=
  EntersOnce runtime event ∧ EndsClear runtime event

instance (runtime : Runtime) (event : Event) : Decidable (LeavesNoOrphan runtime event) := by
  have entersOnce : Decidable (EntersOnce runtime event) := by
    match event with
    | ⟨env, input⟩ =>
      induction input using Input.casesOn <;> unfold EntersOnce <;> infer_instance
  have endsClear : Decidable (EndsClear runtime event) := by
    unfold EndsClear
    infer_instance
  unfold LeavesNoOrphan
  infer_instance

/-! ## The invariant -/

structure Accounted (runtime : Runtime) : Prop where
  references : ReferenceInvariant runtime
  owned : forall sid, sid ∈ runtime.aaa.sessions -> ∃ ref, runtime.Names ref sid
  ended : (forall ref, ¬ runtime.store.activeSessions.Holds ref) -> runtime.aaa.Idle

theorem Accounted.orphanFree {runtime : Runtime} (accounted : Accounted runtime) :
    OrphanFree runtime where
  named := by
    intro sid member
    rcases accounted.owned sid member with ⟨ref, names⟩
    refine ⟨ref, names, ?_⟩
    rintro other ⟨otherActive, otherSession, otherPresent, otherNumber⟩
    rcases names with ⟨active, session, present, number⟩
    rcases Table.mem_iff_lookup.mp member with ⟨entry, found⟩
    refine accounted.references.unshared other ref otherSession session otherActive active
      otherPresent present (otherNumber.trans number.symm) ?_
    rw [otherNumber]
    exact accounted.references.entered.id sid entry found
  ended := accounted.ended

theorem Names.of_kept {before after : Runtime} (kept : Kept reference before after) {ref : Nat}
    {sid : UInt32} (names : before.Names ref sid) : after.Names ref sid := by
  rcases names with ⟨active, session, present, number⟩
  rcases kept.session present with ⟨later, there, same⟩
  exact ⟨kept.active ▸ active, later, there, (congrArg Prod.snd same).trans number⟩

/-- A step that keeps the references, enters nothing, and leaves AAA idle if it
was. -/
structure Tidy (before after : Runtime) : Prop where
  steady : Steady before after
  sessions : forall sid, sid ∈ after.aaa.sessions -> sid ∈ before.aaa.sessions
  idle : before.aaa.Idle -> after.aaa.Idle

namespace Tidy

theorem of_kept {before after : Runtime} (kept : Kept reference before after)
    (aaa : after.aaa = before.aaa) : Tidy before after :=
  ⟨.of_kept kept aaa, fun _ member => aaa ▸ member, fun idle => aaa ▸ idle⟩

theorem trans {first second third : Runtime} (left : Tidy first second) (right : Tidy second third) :
    Tidy first third :=
  ⟨left.steady.trans right.steady, fun sid member => left.sessions sid (right.sessions sid member),
    fun idle => right.idle (left.idle idle)⟩

theorem accounted {before after : Runtime} (tidy : Tidy before after) (accounted : Accounted before) :
    Accounted after where
  references := tidy.steady.invariant accounted.references
  owned := by
    intro sid member
    rcases accounted.owned sid (tidy.sessions sid member) with ⟨ref, names⟩
    exact ⟨ref, names.of_kept tidy.steady.kept⟩
  ended := by
    intro none
    rw [tidy.steady.kept.active] at none
    exact tidy.idle (accounted.ended none)

end Tidy

/-! ## Ending and making sessions -/

/-- The end of a session takes its entry away, and that of the last one
everything. -/
theorem Accounted.deallocateSession {runtime : Runtime} (accounted : Accounted runtime) (sid : UInt16)
    (clears : ∀ ref ∈ runtime.target sid, ∀ session ∈ runtime.sessions.deref ref,
      (∀ other ∈ runtime.store.activeSessions.values, other = ref) ->
        runtime.aaa.StopClears session.aaaSessionId) :
    Accounted (runtime.deallocateSession sid).1 := by
  have tables := accounted.references.tables
  have references := accounted.references.deallocateSession sid
  rcases aaa_deallocateSession tables sid with
    same | ⟨gone, ended, isTarget, wasActive, was, stopped⟩
  · rw [same]
    exact accounted
  · refine ⟨references, ?_, ?_⟩
    · intro number member
      rw [stopped] at member
      rcases Table.mem_iff_lookup.mp member with ⟨entry, found⟩
      rw [AAA.lookup_stopSession] at found
      split at found
      · cases found
      · rename_i different
        rcases accounted.owned number (Table.mem_iff_lookup.mpr ⟨entry, found⟩) with
          ⟨ref, active, session, present, names⟩
        refine ⟨ref, (holds_deallocateSession tables sid ref).mpr ⟨active, ?_⟩, session, ?_, names⟩
        · intro target
          rw [Option.some.inj (isTarget.symm.trans target), present] at was
          rw [← Option.some.inj was] at different
          exact different names.symm
        · rw [deref_deallocateSession]
          exact present
    · intro none
      have single : forall other, runtime.store.activeSessions.Holds other -> other = gone := by
        intro other active
        by_contra different
        refine none other ((holds_deallocateSession tables sid other).mpr ⟨active, ?_⟩)
        intro target
        exact different (Option.some.inj (target.symm.trans isTarget))
      rw [stopped]
      refine AAA.Idle.of_stopSession accounted.references.entered _ ?_ ?_
      · intro number member
        rcases accounted.owned number member with ⟨ref, active, session, present, names⟩
        rw [single ref active, was] at present
        rw [Option.some.inj present]
        exact names.symm
      · exact clears gone isTarget ended was
          (fun other member => single other (Table.mem_values_iff.mp member))

theorem Accounted.allocateSession {runtime : Runtime} (accounted : Accounted runtime) {env : Env}
    {encap : Encapsulation} {result : Runtime × UInt16 × Option String}
    (allocated : runtime.allocateSession env encap = some result) : Accounted result.1 := by
  have references := accounted.references.allocateSession allocated
  have tables := accounted.references.tables
  rcases allocateSession_cases tables env encap allocated with full | ⟨id, free, _, entered⟩
  · rw [full]
    exact accounted
  · have fresh := key_not_mem_of_free tables encap free
    rw [entered] at references ⊢
    refine ⟨references, ?_, ?_⟩
    · intro sid member
      rcases accounted.owned sid member with ⟨ref, active, session, present, names⟩
      refine ⟨ref, (Table.holds_insert_of_not_mem fresh _ ref).mpr (.inr active), session, ?_, names⟩
      dsimp only
      rw [Heap.deref_make_of_lt _ (Heap.lt_length_of_deref present)]
      exact present
    · intro none
      exact absurd ((Table.holds_insert_of_not_mem fresh _ _).mpr (.inl rfl)) (none _)

/-! ## Callback calls -/

/-- Calls that are no success for a session leave what it names. -/
theorem Names.withCalls {runtime : Runtime} {outcome : AAA × List CallbackCall} {ref : Nat}
    {sid : UInt32} (names : runtime.Names ref sid)
    (others : forall call, call ∈ outcome.2 -> call.err = none -> call.callback.session ≠ ref) :
    (runtime.withCalls outcome).Names ref sid := by
  rcases names with ⟨active, session, present, number⟩
  have kept : Kept PPPOESession.key runtime (runtime.withCalls outcome) :=
    kept_withCalls authBlind_key runtime outcome
  rcases kept.session present with ⟨later, there, _⟩
  refine ⟨kept.active ▸ active, later, there, ?_⟩
  rcases deref_callbacks there with ⟨earlier, found, same | ⟨call, member, here, success, _⟩⟩
  · have equal : earlier = session := Option.some.inj (found.symm.trans present)
    rw [same, equal, number]
  · exact absurd here.symm (others call member success)

/-- After a success that comes last its session names the new entry. -/
theorem names_of_success {runtime : Runtime} {aaa : AAA} {errors : List CallbackCall}
    {success : CallbackCall} (isSuccess : success.err = none)
    (active : runtime.store.activeSessions.Holds success.callback.session) {session : PPPOESession}
    (present : runtime.sessions.deref success.callback.session = some session) :
    (runtime.withCalls (aaa, errors ++ [success])).Names success.callback.session success.sid := by
  have kept : Kept PPPOESession.key runtime (runtime.withCalls (aaa, errors ++ [success])) :=
    kept_withCalls authBlind_key runtime _
  have first : Kept PPPOESession.key runtime (runtime.withCalls (aaa, errors)) :=
    kept_withCalls authBlind_key runtime _
  rcases first.session present with ⟨middle, there, _⟩
  have last : runtime.withCalls (aaa, errors ++ [success]) =
      (runtime.withCalls (aaa, errors)).callback success := by
    unfold withCalls callbacks
    rw [List.foldl_append]
    rfl
  refine ⟨kept.active ▸ active, ?_⟩
  rw [last]
  have called : ((runtime.withCalls (aaa, errors)).callback success).sessions.deref
      success.callback.session = some (success.callback.protocol.authCallback
        (runtime.withCalls (aaa, errors)).hwaddr success.sid success.err middle).session := by
    unfold callback observe
    dsimp only
    rw [withSession_eq there]
    exact deref_apply_self there _
  refine ⟨_, called, ?_⟩
  rw [aaaSessionId_authCallback, if_pos isSuccess]

/-- An event of AAA that enters nothing and reports errors only. -/
theorem Accounted.withErrors {runtime : Runtime} {outcome : AAA × List CallbackCall}
    (accounted : Accounted runtime) (references : ReferenceInvariant (runtime.withCalls outcome))
    (errors : forall call, call ∈ outcome.2 -> call.err ≠ none)
    (sessions : outcome.1.sessions = runtime.aaa.sessions)
    (ended : (forall ref, ¬ runtime.store.activeSessions.Holds ref) -> outcome.1.Idle) :
    Accounted (runtime.withCalls outcome) := by
  have kept : Kept PPPOESession.key runtime (runtime.withCalls outcome) :=
    kept_withCalls authBlind_key runtime outcome
  have entries : (runtime.withCalls outcome).aaa = outcome.1 := aaa_callbacks _ outcome.2
  refine ⟨references, ?_, ?_⟩
  · intro sid member
    rw [entries, sessions] at member
    rcases accounted.owned sid member with ⟨ref, names⟩
    exact ⟨ref, names.withCalls (fun call isCall success => absurd success (errors call isCall))⟩
  · intro none
    rw [kept.active] at none
    rw [entries]
    exact ended none

/-- An event of AAA that enters one session, and announces it last to an active
session that names none. -/
theorem Accounted.withSuccess {runtime : Runtime} {aaa : AAA} {errors : List CallbackCall}
    {success : CallbackCall} {entry : Nat} (accounted : Accounted runtime)
    (references : ReferenceInvariant (runtime.withCalls (aaa, errors ++ [success])))
    (fails : forall call, call ∈ errors -> call.err ≠ none) (isSuccess : success.err = none)
    (sessions : aaa.sessions = runtime.aaa.sessions.insert success.sid entry)
    (awaits : runtime.AwaitsEntry success.callback.session) :
    Accounted (runtime.withCalls (aaa, errors ++ [success])) := by
  have active := (isActive_iff runtime _).mp awaits.1
  have present : ∃ session, runtime.sessions.deref success.callback.session = some session := by
    rcases active with ⟨key, found⟩
    rcases accounted.references.tables.keyed key _ found with ⟨session, present, _⟩
    exact ⟨session, present⟩
  rcases present with ⟨session, present⟩
  have new := @names_of_success runtime aaa errors success isSuccess active session present
  have entries : (runtime.withCalls (aaa, errors ++ [success])).aaa = aaa := aaa_callbacks _ _
  refine ⟨references, ?_, fun none => absurd new.1 (none _)⟩
  intro sid member
  rw [entries, sessions] at member
  rcases (AList.mem_insert runtime.aaa.sessions).mp member with same | old
  · rw [same]
    exact ⟨_, new⟩
  · rcases accounted.owned sid old with ⟨ref, names⟩
    refine ⟨ref, names.withCalls (fun call isCall succeeds here => ?_)⟩
    rcases names with ⟨_, owner, there, number⟩
    rcases Table.mem_iff_lookup.mp old with ⟨record, found⟩
    have own : success.callback.session = ref := by
      rcases List.mem_append.mp isCall with failed | last
      · exact absurd succeeds (fails call failed)
      · rw [← List.mem_singleton.mp last]
        exact here
    have unset := awaits.2 owner (own ▸ there)
    exact accounted.references.entered.id sid record found (number.symm.trans unset)

/-! ## Steps of the daemon -/

theorem AwaitsEntry.of_kept {before after : Runtime} (kept : Kept reference before after) {ref : Nat}
    (awaits : before.AwaitsEntry ref) : after.AwaitsEntry ref := by
  refine ⟨(isActive_iff after ref).mpr (kept.active ▸ (isActive_iff before ref).mp awaits.1), ?_⟩
  intro session present
  rcases kept.symm.session present with ⟨old, found, same⟩
  exact (congrArg Prod.snd same).symm.trans (awaits.2 old found)

/-- What an answer to a request to authenticate depends on. -/
def authState (session : PPPOESession) : UInt32 × Bool × Bool :=
  (session.aaaSessionId, session.auth.started, session.chap.started)

theorem lcpBlind_authState : LcpBlind authState where
  lcp := by
    intro first second same
    have parts := congrArg authState same
    exact parts
  started := fun _ => rfl

/-- A request to authenticate enters nothing, or one session for the one that
asks, which has none. -/
theorem Accounted.recvAuthReq {runtime after : Runtime} {env : Env} {ref : Nat}
    {protocol : AuthProtocol} {username : Bytes} {credential : Credential}
    (accounted : Accounted runtime) (active : runtime.store.activeSessions.Holds ref)
    (once : ∀ session ∈ runtime.sessions.deref ref, protocol.started session = false ->
      runtime.aaa.NoneUsable -> .none ∈ AAA.beforeRadius runtime.aaa.conf.method ->
        session.aaaSessionId = uint32Max ∧
          ((AAA.beforeRadius runtime.aaa.conf.method).count .none = 1 ∨ runtime.aaa.LastId))
    (received : runtime.recvAuthReq env ref protocol username credential = some after) :
    Accounted after := by
  have references := accounted.references.recvAuthReq received
  rcases recvAuthReq_cases received with
    ⟨session, found, ⟨_, repeated⟩ | ⟨fresh, started, asked, finished⟩⟩
  · rw [repeated]
    have same : reference (protocol.sendAuthAck runtime.hwaddr session).session = reference session :=
      ipcpBlind_reference _ _ (AuthProtocol.sendAuthAck_outside runtime.hwaddr protocol session)
    exact (Tidy.of_kept (kept_apply _ found same) rfl).accounted accounted
  · have named : Kept reference runtime (runtime.requested ref protocol username session) :=
      (kept_apply (PPPOESession.done { session with username := username }) found rfl).trans
        (.of_same rfl rfl)
    have ready : Accounted (runtime.requested ref protocol username session) :=
      (Tidy.of_kept named rfl).accounted accounted
    rw [finished] at references ⊢
    rcases AAA.startSession_of_single
      (fun usable member => (once session found fresh usable member).2) asked with
      ⟨silent, same⟩ | ⟨usable, member, sid, _, _, single, inserted, _⟩
    · refine ready.withErrors references (fun call isCall => ?_) same
        (fun none => absurd (named.active ▸ active) (none ref))
      rw [silent] at isCall
      cases isCall
    · have unset := (once session found fresh usable member).1
      have awaits : runtime.AwaitsEntry ref := by
        refine ⟨(isActive_iff runtime ref).mpr active, fun object present => ?_⟩
        rw [Option.some.inj (present.symm.trans found)]
        exact unset
      rcases started with ⟨aaa, calls⟩
      dsimp only at single inserted
      rw [single] at references ⊢
      exact @Accounted.withSuccess _ aaa [] _ _ ready references
        (fun _ isCall => absurd isCall List.not_mem_nil) rfl inserted (awaits.of_kept named)

theorem Accounted.processLcp {runtime after : Runtime} {env : Env} {ref : Nat} {packet : Packet}
    {err : Option String} (accounted : Accounted runtime)
    (active : runtime.store.activeSessions.Holds ref)
    (ends : ∀ session ∈ runtime.sessions.deref ref, session.lcp.state = .opened ->
      (runtime.lcpFsm env).leavesOpened session packet ->
        (∀ other ∈ runtime.store.activeSessions.values, other = ref) ->
          runtime.aaa.StopClears session.aaaSessionId)
    (processed : runtime.processLcp env ref packet = some (after, err)) : Accounted after := by
  rcases processLcp_cases processed with
    ⟨session, out, found, received, ⟨_, _, up⟩ | ⟨_, down, ended⟩ | ⟨_, quiet⟩⟩
  all_goals
    have kept : Kept reference runtime (runtime.apply ref out) :=
      kept_applyLcp lcpBlind_reference found received
    have applied : Tidy runtime (runtime.apply ref out) := .of_kept kept rfl
  · rw [up]
    exact (applied.trans (.of_kept (kept_openAuth openBlind_reference _ env ref)
      (aaa_openAuth _ env ref))).accounted accounted
  · rw [ended]
    refine (applied.accounted accounted).deallocateSession _ ?_
    intro other isTarget later present only
    have target := target_applyLcp accounted.references.tables active found received
    have same : other = ref := Option.some.inj (isTarget.symm.trans target)
    rw [same] at present only
    have left := leavesOpened_of_layerDown received down
    rcases kept.symm.session present with ⟨old, there, equal⟩
    have number : old.aaaSessionId = later.aaaSessionId := congrArg Prod.snd equal
    rw [← number, Option.some.inj (there.symm.trans found)]
    exact ends session found left.1 left.2 only
  · rw [quiet]
    exact applied.accounted accounted

theorem tidy_processIpcp {runtime after : Runtime} {ref : Nat} {packet : Packet}
    (processed : runtime.processIpcp ref packet = some after) : Tidy runtime after := by
  have steady := steady_processIpcp processed
  rcases processIpcp_cases processed with ⟨session, out, _, _, ⟨_, _, up⟩ | ⟨_, quiet⟩⟩
  · have mapped : ∃ sid ifindex, after.aaa = runtime.aaa.mapIfaceToSession sid ifindex := by
      rw [up, openDataPlane_eq]
      exact ⟨_, _, rfl⟩
    rcases mapped with ⟨sid, ifindex, isMapped⟩
    refine ⟨steady, fun number member => ?_, fun idle => ?_⟩
    · rw [isMapped, AAA.mapIfaceToSession_sessions] at member
      exact member
    · rw [isMapped]
      exact idle.of_wanes (AAA.mapIfaceToSession_sessions _ _ _) (.mapIfaceToSession _ _ _)
  · rw [quiet] at steady ⊢
    exact .of_kept steady.kept rfl

theorem Accounted.processPPP {runtime after : Runtime} {env : Env} {encap : Encapsulation}
    {packet : Packet} {err : Option String} (accounted : Accounted runtime)
    (safe : LeavesNoOrphan runtime { env := env, input := .session encap packet })
    (processed : runtime.processPPP env encap packet = some (after, err)) : Accounted after := by
  rcases processPPP_cases processed with dropped | ⟨ref, found, dispatched⟩
  · rw [dropped]
    exact accounted
  · have kept := kept_ensureStarted lcpBlind_reference runtime env ref
    have aaa := aaa_ensureStarted runtime env ref
    have ready : Accounted (runtime.ensureStarted env ref) :=
      (Tidy.of_kept kept aaa).accounted accounted
    have active : (runtime.ensureStarted env ref).store.activeSessions.Holds ref := by
      rw [kept.active]
      exact ⟨_, found⟩
    rcases dispatch_cases dispatched with
      ⟨lcp, handled⟩ | ⟨protocol, username, credential, isRequest, received⟩ | ⟨_, ipcp⟩ | same | rejected
    · refine ready.processLcp active (fun later present opened leaves only => ?_) handled
      rcases EndsOnly.lcp safe.2 found lcp present opened leaves with ⟨session, equal, clears⟩
      rw [kept.active] at only
      rw [aaa, equal]
      exact clears only
    · refine ready.recvAuthReq active (fun later present fresh usable member => ?_) received
      rw [aaa] at usable member ⊢
      have begun := kept_ensureStarted lcpBlind_authState runtime env ref
      rcases begun.symm.session present with ⟨session, earlier, same⟩
      have number : session.aaaSessionId = later.aaaSessionId := congrArg Prod.fst same
      have wasFresh : protocol.started session = false := by
        have flags := congrArg Prod.snd same
        cases protocol with
        | pap => exact (congrArg Prod.fst flags).trans fresh
        | chap => exact (congrArg Prod.snd flags).trans fresh
      rw [← number]
      exact safe.1 ref found session earlier protocol isRequest wasFresh usable member
    · exact (tidy_processIpcp ipcp).accounted ready
    · rw [same]
      exact ready
    · rw [rejected]
      exact (Tidy.of_kept (kept_rejectProtocol _ ref packet)
        (aaa_rejectProtocol _ ref packet)).accounted ready

theorem Accounted.processPPPOE {runtime after : Runtime} {env : Env} {encap : Encapsulation}
    {packet : Packet} {err : Option String} (accounted : Accounted runtime)
    (safe : LeavesNoOrphan runtime { env := env, input := .discovery encap packet })
    (processed : runtime.processPPPOE env encap packet = some (after, err)) : Accounted after := by
  rcases processPPPOE_cases processed with ⟨_, before, queue, queued, handled⟩ | ⟨padt, ended⟩
  · have same : Tidy before after :=
      .of_kept (.of_same (by rw [queued]) (by rw [queued])) (by rw [queued])
    apply same.accounted
    rcases handled with same | ⟨conn, pended⟩ | ⟨conn, checked⟩ | ⟨conn, result, allocated, entered⟩
    · rw [same]
      exact accounted
    · rw [pended]
      exact (Tidy.of_kept (kept_pendeSession runtime conn)
        (aaa_pendeSession runtime conn)).accounted accounted
    · rw [checked]
      exact (Tidy.of_kept (kept_checkSession runtime conn)
        (aaa_checkSession runtime conn)).accounted accounted
    · rw [entered]
      have ready := (Tidy.of_kept (kept_checkSession runtime conn)
        (aaa_checkSession runtime conn)).accounted accounted
      exact ready.allocateSession allocated
  · rw [ended]
    exact accounted.deallocateSession _ (safe.2 padt)

theorem Accounted.echoTimer {runtime after : Runtime} {env : Env} {ref index : Nat}
    (accounted : Accounted runtime)
    (safe : LeavesNoOrphan runtime { env := env, input := .echoTimer ref index })
    (fired : runtime.echoTimer env ref index = some after) : Accounted after := by
  have poppedKept := kept_popEcho timerBlind_reference runtime ref index
  have popped : Accounted (runtime.popEcho ref index) :=
    (Tidy.of_kept poppedKept rfl).accounted accounted
  have collected : forall before : Runtime, Accounted before -> Accounted (before.collect ref) :=
    fun before here =>
      (Tidy.of_kept (kept_collect before ref) (collect_aaa before ref)).accounted here
  rcases echoTimer_cases fired with ⟨session, found, ⟨expired, handled⟩ | ⟨_, aborted⟩⟩
  · rw [handled]
    apply collected
    have there := deref_popEcho found index
    rcases sendEchoReq_cases env there with ⟨out, counted, ⟨silent, _, ended⟩ | ⟨_, again⟩⟩
    all_goals
      have kept : Kept reference (runtime.popEcho ref index) ((runtime.popEcho ref index).apply ref out) :=
        kept_countEcho there counted rfl
      have applied := (Tidy.of_kept kept rfl).accounted popped
    · rw [ended]
      refine applied.deallocateSession _ ?_
      intro other isTarget later present only
      have keyed : Kept PPPOESession.key (runtime.popEcho ref index)
          ((runtime.popEcho ref index).apply ref out) := kept_countEcho there counted rfl
      rw [target_of_kept keyed] at isTarget
      rcases kept.symm.session present with ⟨old, was, equal⟩
      have number : old.aaaSessionId = later.aaaSessionId := congrArg Prod.snd equal
      have clears := safe.2 session found expired silent other isTarget old was only
      rw [← number]
      exact clears
    · rw [again]
      exact (Tidy.of_kept (kept_startEcho timerBlind_reference _ ref) rfl).accounted applied
  · rw [aborted]
    exact collected _ popped

theorem Quiet.tidy {now after : Runtime} (quiet : Quiet now after) : Tidy now after := by
  rcases quiet.aaa with same | ⟨event, isQuiet, handled⟩
  · exact .of_kept quiet.kept same
  · refine ⟨quiet.steady, fun sid member => ?_, fun idle => idle.quiet isQuiet handled⟩
    rw [AAA.sessions_of_quiet isQuiet handled] at member
    exact member

theorem Accounted.authDatagram {now : Runtime} {env : Env} {datagram : Bytes}
    {outcome : AAA × List CallbackCall} (accounted : Accounted now)
    (safe : LeavesNoOrphan now { env := env, input := .authDatagram datagram })
    (references : ReferenceInvariant (now.withCalls outcome))
    (received : now.aaa.authDatagram env.aaa datagram = some outcome) :
    Accounted (now.withCalls outcome) := by
  rcases AAA.authDatagram_cases received with
    ⟨client, filled, answer, present, filling, ⟨_, discarded⟩ | ⟨given, processed, isAnswer, answered, finished⟩⟩
  · rw [discarded] at references ⊢
    refine accounted.withErrors references (fun _ isCall => absurd isCall List.not_mem_nil) rfl
      (fun none => ?_)
    exact (accounted.ended none).of_wanes rfl (.of_same rfl rfl rfl)
  · rw [finished] at references ⊢
    rcases AAA.processRadiusAnswer_cases answered with ⟨full, same⟩ | ⟨sid, made, free, built, started⟩
    · rw [same] at references ⊢
      refine accounted.withErrors references (fun call isCall => ?_) rfl (fun none => ?_)
      · rcases List.mem_append.mp isCall with refused | last
        · exact (AAA.callback_of_noAccept refused).2
        · rw [List.mem_singleton.mp last]
          exact Option.some_ne_none _
      · exact (accounted.ended none).of_wanes rfl (.of_same rfl rfl rfl)
    · have awaits : now.AwaitsEntry given.handler.callback.session := by
        refine safe.1 client present (filled, answer) filling given isAnswer ?_
        have isFree : now.aaa.firstFreeId = some sid := free
        rw [isFree]
        exact Option.some_ne_none sid
      rw [started] at references ⊢
      have inserted : ((made.enter sid now.aaa.objects.length).start now.aaa.objects.length).sessions =
          now.aaa.sessions.insert sid now.aaa.objects.length := by
        rcases built with ⟨session, pools, _, _, made⟩
        rw [AAA.start_sessions, made]
        rfl
      exact accounted.withSuccess references (fun call refused => (AAA.callback_of_noAccept refused).2)
        rfl inserted awaits

/-- The daemon keeps the invariant with every step that leaves no orphan. -/
theorem accounted_step {now after : Runtime} {event : Event} (accounted : Accounted now)
    (safe : LeavesNoOrphan now event) (taken : step now event = some after) : Accounted after := by
  have references := referenceInvariant_step accounted.references taken
  rcases event with ⟨env, input⟩
  cases step_cases taken with
  | discovery processed => exact accounted.processPPPOE safe processed
  | session processed => exact accounted.processPPP safe processed
  | pendingTimer fired =>
      exact (Tidy.of_kept (kept_pendingTimer fired) (aaa_pendingTimer fired)).accounted accounted
  | echoExpires expired =>
      rw [expired]
      exact (Tidy.of_kept (kept_echoExpires timerBlind_reference now _) rfl).accounted accounted
  | echoTimer fired => exact accounted.echoTimer safe fired
  | authDatagram received called =>
      rw [called] at references ⊢
      exact accounted.authDatagram safe references received
  | authTimer fired called =>
      rw [called] at references ⊢
      rcases AAA.authTimer_cases fired with ⟨client, entry, _, _, erased, calls⟩
      refine accounted.withErrors references (fun call isCall => ?_) ?_ (fun none => ?_)
      · rcases calls with nothing | timeout
        · rw [nothing] at isCall
          cases isCall
        · rw [timeout] at isCall
          rw [List.mem_singleton.mp isCall]
          exact Option.some_ne_none _
      · rw [erased]
      · rw [erased]
        exact (accounted.ended none).of_wanes rfl (.of_same rfl rfl rfl)
  | quiet quiet => exact quiet.tidy.accounted accounted

/-! ## Runs -/

theorem accounted_fresh {start : Runtime} (fresh : start.Fresh) : Accounted start where
  references := referenceInvariant_fresh fresh
  owned := by
    intro sid member
    rw [fresh.aaaSessions] at member
    exact absurd member (AList.notMem_empty sid)
  ended := by
    intro _
    refine ⟨fun sid member => ?_, ?_, ?_, ?_⟩
    · rw [fresh.aaaSessions] at member
      exact AList.notMem_empty sid member
    · rintro name address ⟨pool, found, member⟩
      have empty : pool.ips = ∅ := fresh.pools pool (Table.mem_values_iff.mpr ⟨name, found⟩)
      rw [empty] at member
      exact Finset.notMem_empty address member
    · rintro ref ⟨session, present, _⟩
      rw [fresh.aaaObjects] at present
      cases present
    · rintro handler ⟨client, present, id, entry, found, _⟩
      rw [(fresh.acct client present).1] at found
      cases found

/-- In a run whose steps leave no orphan, every entry is named by one active
session, and the end of the last session leaves nothing. -/
theorem orphanFree_of_run {start now : Runtime} {past : List (Runtime × Event)}
    (fresh : start.Fresh) (run : Run step LeavesNoOrphan start past now) : OrphanFree now := by
  have accounted : Accounted now :=
    run.invariant (accounted_fresh fresh) (fun _ _ _ here safe taken => accounted_step here safe taken)
  exact accounted.orphanFree

/-- A subscriber is authenticated by NONE, gets his address and disconnects. -/
def disconnected : Runtime :=
  Foundation.after step (sampleDaemon [.none] papPolicy)
    (establish ++ [discoveryEvent (sampleLink 1) PPPOECode.padt 1]) (by decide +kernel)

theorem orphanFree_at_disconnected : ∃ past,
    Run step LeavesNoOrphan (sampleDaemon [.none] papPolicy) past disconnected ∧
      OrphanFree disconnected := by
  have run : ∃ past, Run step LeavesNoOrphan (sampleDaemon [.none] papPolicy) past disconnected :=
    run_after _ _ _ _ _ (by decide +kernel)
  rcases run with ⟨past, run⟩
  exact ⟨past, run, orphanFree_of_run (fresh_sampleDaemon _ _) run⟩

/-- The server accepts a request that the subscriber has sent twice before the
first answer came. -/
def retransmitted : Runtime :=
  Foundation.after step (sampleDaemon [.radius] papPolicy)
    (connect (sampleLink 1) ++ [papRequest (sampleLink 1) 1, papRequest (sampleLink 1) 1,
      { input := .authDatagram (answerDatagram RadiusCode.accessAccept) },
      { input := .authDatagram (AAA.answerTo (AuthClient.packet RadiusCode.accessRequest 2
          AAA.sampleInputs.authenticator []) RadiusCode.accessAccept []) }]) (by decide +kernel)

/-- The second answer makes another entry, and the first one is left alone. -/
theorem retransmission_leaves_orphan :
    ¬ forall past now, Run step anyStep (sampleDaemon [.radius] papPolicy) past now ->
      OrphanFree now := by
  intro claim
  have run : ∃ past, Run step anyStep (sampleDaemon [.radius] papPolicy) past retransmitted :=
    run_after _ _ _ _ _ (permitted_anyStep _ _ _)
  rcases run with ⟨past, run⟩
  have entry : 0 ∈ retransmitted.aaa.sessions := by decide +kernel
  have numbers : retransmitted.sessions.map (fun cell => cell.object.aaaSessionId) = [1] := by
    decide +kernel
  rcases (claim past retransmitted run).named 0 entry with ⟨ref, ⟨_, session, present, named⟩, _⟩
  rcases Option.map_eq_some_iff.mp present with ⟨cell, found, equal⟩
  have member : cell.object.aaaSessionId ∈ [(1 : UInt32)] := by
    rw [← numbers]
    exact List.mem_map.mpr ⟨cell, List.mem_of_getElem? found, rfl⟩
  rw [equal, named] at member
  revert member
  decide

end Runtime

end Pppcpd
