import Pppcpd.Runtime.Endings

namespace Pppcpd

open Foundation

/-!
# The echo timer of a removed session

A wait on the echo timer keeps its session object, and the timer is cancelled
only in the destructor.  So a session that is removed while a wait can still run
its handler lives on: the handler sends another echo request, starts the timer
again, and at the tenth one deallocates whatever session has its id by then.
-/

namespace Runtime

/-- No wait of the echo timer of an object will run its handler. -/
def EchoIdle (runtime : Runtime) (ref : Nat) : Prop :=
  ∀ session ∈ runtime.sessions.deref ref, session.timer.hasLive = false

instance (runtime : Runtime) (ref : Nat) : Decidable (runtime.EchoIdle ref) :=
  inferInstanceAs (Decidable (∀ session ∈ runtime.sessions.deref ref, session.timer.hasLive = false))

/-- The objects that are not active have idle timers. -/
def DeadIdle (runtime : Runtime) : Prop :=
  forall ref, ¬ runtime.store.activeSessions.Holds ref -> runtime.EchoIdle ref

/-- How a step that removes no session with a live wait treats session objects. -/
structure EchoStep (before after : Runtime) : Prop where
  objects : forall ref session, before.sessions.deref ref = some session ->
    ∃ later, after.sessions.deref ref = some later
  active : forall ref, after.store.activeSessions.Holds ref ->
    before.store.activeSessions.Holds ref ∨ before.sessions.deref ref = none
  idle : before.DeadIdle -> after.DeadIdle

namespace EchoStep

theorem refl (runtime : Runtime) : EchoStep runtime runtime :=
  ⟨fun _ session found => ⟨session, found⟩, fun _ holds => .inl holds, id⟩

theorem trans {first second third : Runtime} (left : EchoStep first second)
    (right : EchoStep second third) : EchoStep first third := by
  refine ⟨?_, ?_, fun idle => right.idle (left.idle idle)⟩
  · intro ref session found
    rcases left.objects ref session found with ⟨later, present⟩
    exact right.objects ref later present
  · intro ref holds
    rcases right.active ref holds with earlier | fresh
    · exact left.active ref earlier
    · refine .inr ?_
      cases found : first.sessions.deref ref with
      | none => rfl
      | some session =>
          rcases left.objects ref session found with ⟨later, present⟩
          rw [fresh] at present
          cases present

/-- What keeps the timers and the tables. -/
theorem of_kept {before after : Runtime} (kept : Kept PPPOESession.timer before after) :
    EchoStep before after := by
  refine ⟨?_, ?_, ?_⟩
  · intro ref session found
    rcases kept.session found with ⟨later, present, _⟩
    exact ⟨later, present⟩
  · intro ref holds
    rw [kept.active] at holds
    exact .inl holds
  · intro idle ref dead session present
    rw [kept.active] at dead
    rcases kept.symm.session present with ⟨earlier, found, same⟩
    rw [← same]
    exact idle ref dead earlier found

/-- A change of the timer of one object, which makes a wait live only when the
object is active. -/
theorem of_timer (runtime : Runtime) (ref : Nat) (change : Timer -> Timer)
    (quiet : ¬ runtime.store.activeSessions.Holds ref -> forall timer : Timer,
      timer.hasLive = false -> (change timer).hasLive = false) :
    EchoStep runtime { runtime with
      sessions := runtime.sessions.update ref (fun session =>
        { session with timer := change session.timer }) } := by
  refine ⟨?_, fun _ holds => .inl holds, ?_⟩
  · intro other session found
    dsimp only
    rw [Heap.deref_update, found]
    split
    · exact ⟨_, rfl⟩
    · exact ⟨session, rfl⟩
  · intro idle other dead session present
    dsimp only at dead present
    rw [Heap.deref_update] at present
    split at present
    · rename_i here
      rcases Option.map_eq_some_iff.mp present with ⟨earlier, found, changed⟩
      rw [← changed]
      rw [here] at dead found
      exact quiet dead _ (idle ref dead earlier found)
    · exact idle other dead session present

theorem echoExpires (runtime : Runtime) (ref : Nat) : EchoStep runtime (runtime.echoExpires ref) :=
  of_timer runtime ref Timer.expire (fun _ timer idle => (Timer.hasLive_expire timer).trans idle)

theorem popEcho (runtime : Runtime) (ref index : Nat) :
    EchoStep runtime (runtime.popEcho ref index) :=
  of_timer runtime ref (fun timer => timer.eraseIdx index)
    (fun _ _ idle => Timer.hasLive_eraseIdx idle index)

theorem startEcho {runtime : Runtime} {ref : Nat}
    (active : runtime.store.activeSessions.Holds ref) :
    EchoStep runtime (runtime.startEcho ref) :=
  of_timer runtime ref Timer.restart (fun dead => absurd active dead)

/-- A new session has an idle timer and is active. -/
theorem allocateSession {runtime : Runtime} (invariant : StoreInvariant runtime) {env : Env}
    {encap : Encapsulation} {result : Runtime × UInt16 × Option String}
    (allocated : runtime.allocateSession env encap = some result) : EchoStep runtime result.1 := by
  rcases allocateSession_cases invariant env encap allocated with full | ⟨id, free, _, entered⟩
  · rw [full]
    exact refl runtime
  · have fresh := key_not_mem_of_free invariant encap free
    rw [entered]
    refine ⟨?_, ?_, ?_⟩
    · intro ref session found
      exact ⟨session, by
        dsimp only
        rw [Heap.deref_make_of_lt _ (Heap.lt_length_of_deref found)]
        exact found⟩
    · intro ref holds
      rcases (Table.holds_insert_of_not_mem fresh _ ref).mp holds with new | old
      · rw [new]
        exact .inr (Heap.deref_length _)
      · exact .inl old
    · intro idle ref dead session present
      dsimp only at present
      rw [Heap.deref_make] at present
      split at present
      · rw [← Option.some.inj present]
        rfl
      · refine idle ref (fun holds => dead ?_) session present
        exact (Table.holds_insert_of_not_mem fresh _ ref).mpr (.inr holds)

/-- The removal of a session with an idle timer. -/
theorem deallocateSession {runtime : Runtime} (invariant : StoreInvariant runtime) {sid : UInt16}
    (idleTarget : ∀ ref ∈ runtime.target sid, runtime.EchoIdle ref) :
    EchoStep runtime (runtime.deallocateSession sid).1 := by
  refine ⟨?_, ?_, ?_⟩
  · intro ref session found
    exact ⟨session, by rw [deref_deallocateSession]; exact found⟩
  · intro ref holds
    exact .inl ((holds_deallocateSession invariant sid ref).mp holds).1
  · intro idle ref dead session present
    rw [deref_deallocateSession] at present
    by_cases active : runtime.store.activeSessions.Holds ref
    · by_cases gone : runtime.target sid = some ref
      · exact idleTarget ref gone session present
      · exact absurd ((holds_deallocateSession invariant sid ref).mpr ⟨active, gone⟩) dead
    · exact idle ref active session present

end EchoStep

/-! ## Events -/

/-- An event that ends a session finds no wait of its echo timer that can still
run its handler, besides the tick that is being handled. -/
def EndsIdle (runtime : Runtime) (event : Event) : Prop :=
  EndsOnly (fun _ session => session.timer.hasLive = false) runtime event

instance (runtime : Runtime) (event : Event) : Decidable (runtime.EndsIdle event) :=
  inferInstanceAs (Decidable (EndsOnly _ runtime event))

theorem lcpBlind_timer : LcpBlind PPPOESession.timer where
  lcp := by
    intro first second same
    have timers := congrArg PPPOESession.timer same
    exact timers
  started := fun _ => rfl

theorem ipcpBlind_timer : IpcpBlind PPPOESession.timer := by
  intro first second same
  have timers := congrArg PPPOESession.timer same
  exact timers

theorem authBlind_timer : AuthBlind PPPOESession.timer :=
  .of_outside (by
    intro first second same
    have timers := congrArg PPPOESession.timer same
    exact timers) (fun _ _ => rfl)

theorem openBlind_timer : OpenBlind PPPOESession.timer := .of_ipcp ipcpBlind_timer (fun _ _ => rfl)

theorem echoIdle_of_kept {before after : Runtime} (kept : Kept PPPOESession.timer before after)
    {ref : Nat} (idle : before.EchoIdle ref) : after.EchoIdle ref := by
  intro session present
  rcases kept.symm.session present with ⟨earlier, found, same⟩
  rw [← same]
  exact idle earlier found

theorem echoStep_processLcp {runtime after : Runtime} {env : Env} {ref : Nat} {packet : Packet}
    {err : Option String} (invariant : StoreInvariant runtime)
    (active : runtime.store.activeSessions.Holds ref)
    (ends : ∀ session ∈ runtime.sessions.deref ref, session.lcp.state = .opened ->
      (runtime.lcpFsm env).leavesOpened session packet -> session.timer.hasLive = false)
    (processed : runtime.processLcp env ref packet = some (after, err)) :
    EchoStep runtime after := by
  rcases processLcp_cases processed with
    ⟨session, out, found, received, ⟨_, _, up⟩ | ⟨_, down, ended⟩ | ⟨_, quiet⟩⟩
  · rw [up]
    exact .of_kept ((kept_applyLcp lcpBlind_timer found received).trans
      (kept_openAuth openBlind_timer _ env ref))
  · rw [ended]
    have applied := kept_applyLcp lcpBlind_timer found received
    refine (EchoStep.of_kept applied).trans (.deallocateSession
      ((kept_applyLcp lcpBlind_key found received).invariant invariant) ?_)
    intro other isTarget
    have equal : ref = other :=
      Option.some.inj ((target_applyLcp invariant active found received).symm.trans isTarget)
    have left := leavesOpened_of_layerDown received down
    rw [← equal]
    refine echoIdle_of_kept applied ?_
    intro object present
    rw [found] at present
    rw [← Option.some.inj present]
    exact ends session found left.1 left.2
  · rw [quiet]
    exact .of_kept (kept_applyLcp lcpBlind_timer found received)

theorem echoStep_processIpcp {runtime after : Runtime} {ref : Nat} {packet : Packet}
    (active : runtime.store.activeSessions.Holds ref)
    (processed : runtime.processIpcp ref packet = some after) : EchoStep runtime after := by
  rcases processIpcp_cases processed with
    ⟨session, out, found, received, ⟨_, _, up⟩ | ⟨_, quiet⟩⟩
  · rw [up]
    have applied : Kept PPPOESession.timer runtime (runtime.apply ref out) :=
      kept_apply out found (ipcpBlind_timer _ _ ((ipcpFsm_leaves runtime).receive received))
    have configured := kept_configured (fun _ _ => rfl : forall ifindex (session : PPPOESession),
      PPPOESession.timer { session with ifindex := ifindex } = session.timer)
      (runtime.apply ref out) ref out.session
    exact (EchoStep.of_kept (applied.trans configured)).trans (.startEcho active)
  · rw [quiet]
    exact .of_kept (kept_apply out found
      (ipcpBlind_timer _ _ ((ipcpFsm_leaves runtime).receive received)))

theorem echoStep_dispatch {runtime after : Runtime} {env : Env} {ref : Nat} {packet : Packet}
    {err : Option String} (invariant : StoreInvariant runtime)
    (active : runtime.store.activeSessions.Holds ref)
    (ends : packet.pppProtocol = PPPProto.lcp -> ∀ session ∈ runtime.sessions.deref ref,
      session.lcp.state = .opened -> (runtime.lcpFsm env).leavesOpened session packet ->
        session.timer.hasLive = false)
    (dispatched : runtime.dispatch env ref packet = some (after, err)) :
    EchoStep runtime after := by
  rcases dispatch_cases dispatched with
    ⟨lcp, processed⟩ | ⟨_, _, _, _, auth⟩ | ⟨_, ipcp⟩ | same | rejected
  · exact echoStep_processLcp invariant active (ends lcp) processed
  · exact .of_kept (kept_recvAuthReq authBlind_timer auth)
  · exact echoStep_processIpcp active ipcp
  · rw [same]
    exact .refl runtime
  · rw [rejected]
    exact .of_kept (kept_rejectProtocol runtime ref packet)

theorem echoStep_processPPP {runtime after : Runtime} {env : Env} {encap : Encapsulation}
    {packet : Packet} {err : Option String} (invariant : StoreInvariant runtime)
    (ends : runtime.EndsIdle { env := env, input := .session encap packet })
    (processed : runtime.processPPP env encap packet = some (after, err)) :
    EchoStep runtime after := by
  rcases processPPP_cases processed with dropped | ⟨ref, found, dispatched⟩
  · rw [dropped]
    exact .refl runtime
  · have started := kept_ensureStarted lcpBlind_timer runtime env ref
    have inside := (kept_ensureStarted lcpBlind_key runtime env ref).invariant invariant
    have active : (runtime.ensureStarted env ref).store.activeSessions.Holds ref := by
      rw [started.active]
      exact ⟨_, found⟩
    refine (EchoStep.of_kept started).trans (echoStep_dispatch inside active ?_ dispatched)
    intro lcp later present opened leaves
    rcases EndsOnly.lcp ends found lcp present opened leaves with ⟨session, same, idle⟩
    rw [same]
    exact idle

theorem echoStep_processPPPOE {runtime after : Runtime} {env : Env} {encap : Encapsulation}
    {packet : Packet} {err : Option String} (invariant : StoreInvariant runtime)
    (ends : runtime.EndsIdle { env := env, input := .discovery encap packet })
    (processed : runtime.processPPPOE env encap packet = some (after, err)) :
    EchoStep runtime after := by
  rcases processPPPOE_cases processed with ⟨_, before, queue, queued, handled⟩ | ⟨padt, ended⟩
  · have same : Kept PPPOESession.timer before after := .of_same (by rw [queued]) (by rw [queued])
    refine EchoStep.trans ?_ (.of_kept same)
    rcases handled with same | ⟨conn, pended⟩ | ⟨conn, checked⟩ | ⟨conn, result, allocated, entered⟩
    · rw [same]
      exact .refl runtime
    · rw [pended]
      exact .of_kept (kept_pendeSession runtime conn)
    · rw [checked]
      exact .of_kept (kept_checkSession runtime conn)
    · rw [entered]
      exact (EchoStep.of_kept (kept_checkSession runtime conn)).trans
        (.allocateSession ((kept_checkSession runtime conn).invariant invariant) allocated)
  · rw [ended]
    exact .deallocateSession invariant (ends padt)

theorem echoStep_echoTimer {runtime after : Runtime} {env : Env} {ref index : Nat}
    (invariant : StoreInvariant runtime) (idle : runtime.DeadIdle)
    (ends : runtime.EndsIdle { env := env, input := .echoTimer ref index })
    (fired : runtime.echoTimer env ref index = some after) : EchoStep runtime after := by
  rcases echoTimer_cases fired with ⟨session, found, ⟨expired, handled⟩ | ⟨_, aborted⟩⟩
  · have active : runtime.store.activeSessions.Holds ref := by
      by_contra dead
      have none := idle ref dead session found
      rw [Timer.hasLive_of_expired expired] at none
      cases none
    have popped := deref_popEcho found index
    have inside := (kept_popEcho timerBlind_key runtime ref index).invariant invariant
    rw [handled]
    refine ((EchoStep.popEcho runtime ref index).trans ?_).trans (.of_kept (kept_collect _ ref))
    rcases sendEchoReq_cases env popped with ⟨out, counted, ⟨silent, _, ended⟩ | ⟨_, again⟩⟩
    · rw [ended]
      have applied : Kept PPPOESession.timer (runtime.popEcho ref index)
          ((runtime.popEcho ref index).apply ref out) := kept_countEcho popped counted rfl
      have keyed : Kept PPPOESession.key (runtime.popEcho ref index)
          ((runtime.popEcho ref index).apply ref out) := kept_countEcho popped counted rfl
      refine (EchoStep.of_kept applied).trans (.deallocateSession (keyed.invariant inside) ?_)
      intro other isTarget
      have self := target_of_holds (keyed.invariant inside) (show
        ((runtime.popEcho ref index).apply ref out).store.activeSessions.Holds ref from active)
        (deref_apply_self popped out)
      rw [counted] at self
      have equal : ref = other := Option.some.inj (self.symm.trans isTarget)
      rw [← equal]
      refine echoIdle_of_kept applied ?_
      intro object present
      exact ends session found expired silent ref (target_popEcho invariant active found index)
        object present
    · rw [again]
      exact (EchoStep.of_kept (kept_apply out popped (by rw [counted]; rfl))).trans
        (.startEcho active)
  · rw [aborted]
    exact (EchoStep.popEcho runtime ref index).trans (.of_kept (kept_collect _ ref))

/-- Every event whose removals find idle timers keeps the dead ones idle. -/
theorem echoStep_step {now after : Runtime} {event : Event} (invariant : StoreInvariant now)
    (idle : now.DeadIdle) (ends : now.EndsIdle event) (taken : step now event = some after) :
    EchoStep now after := by
  rcases event with ⟨env, input⟩
  cases step_cases taken with
  | discovery processed => exact echoStep_processPPPOE invariant ends processed
  | session processed => exact echoStep_processPPP invariant ends processed
  | pendingTimer fired => exact .of_kept (kept_pendingTimer fired)
  | echoExpires expired =>
      rw [expired]
      exact .echoExpires now _
  | echoTimer fired => exact echoStep_echoTimer invariant idle ends fired
  | authDatagram _ called =>
      rw [called]
      exact .of_kept (kept_withCalls authBlind_timer now _)
  | authTimer _ called =>
      rw [called]
      exact .of_kept (kept_withCalls authBlind_timer now _)
  | quiet quiet => exact .of_kept quiet.kept

/-! ## Runs -/

/-- A handler of an echo wait did nothing but give up its wait: it queued no
frame, removed no session and left the timer alone. -/
structure Inert (before after : Runtime) (ref index : Nat) : Prop where
  pppOutcoming : after.pppOutcoming = before.pppOutcoming
  store : after.store = before.store
  timer : (after.sessions.deref ref).map PPPOESession.timer =
    (before.sessions.deref ref).map (fun session => session.timer.eraseIdx index)

/-- A step takes a session object out of the active sessions. -/
def Removes (taken : Runtime × Event) (ref : Nat) : Prop :=
  taken.1.store.activeSessions.Holds ref ∧
    ∀ after ∈ step taken.1 taken.2, ¬ after.store.activeSessions.Holds ref

instance (taken : Runtime × Event) (ref : Nat) : Decidable (Removes taken ref) :=
  inferInstanceAs (Decidable (taken.1.store.activeSessions.Holds ref ∧
    ∀ after ∈ step taken.1 taken.2, ¬ after.store.activeSessions.Holds ref))

/-- The handlers that are still to be called for the echo timers of the removed
sessions do nothing. -/
def DeadStaysDead (past : List (Runtime × Event)) (now : Runtime) : Prop :=
  ∀ taken ∈ past, forall ref, Removes taken ref -> forall env index after,
    now.echoTimer env ref index = some after -> Inert now after ref index

/-- What holds in every state of a run whose removals find idle timers. -/
structure EchoInvariant (past : List (Runtime × Event)) (now : Runtime) : Prop where
  tables : StoreInvariant now
  idle : now.DeadIdle
  removed : ∀ taken ∈ past, forall ref, Removes taken ref ->
    ¬ now.store.activeSessions.Holds ref ∧ ∃ session, now.sessions.deref ref = some session

theorem collect_inert (runtime : Runtime) (ref : Nat) :
    (runtime.collect ref).pppOutcoming = runtime.pppOutcoming := by
  unfold collect
  split
  · rfl
  · split <;> rfl

/-- The handlers of an object with an idle timer were aborted and do nothing. -/
theorem inert_of_echoIdle {now after : Runtime} {env : Env} {ref index : Nat}
    (idle : now.EchoIdle ref) (fired : now.echoTimer env ref index = some after) :
    Inert now after ref index := by
  rcases echoTimer_cases fired with ⟨session, found, ⟨expired, _⟩ | ⟨_, aborted⟩⟩
  · have none := idle session found
    rw [Timer.hasLive_of_expired expired] at none
    cases none
  · have collected : Kept PPPOESession.timer (now.popEcho ref index) after := by
      rw [aborted]
      exact kept_collect _ ref
    refine ⟨?_, ?_, ?_⟩
    · rw [aborted, collect_inert]
      rfl
    · rw [aborted]
      exact collect_store _ ref
    · rw [collected.objects ref]
      unfold popEcho
      dsimp only
      rw [Heap.deref_update, if_pos rfl, Option.map_map]
      rfl

theorem echoInvariant_step {past : List (Runtime × Event)} {now after : Runtime} {event : Event}
    (here : EchoInvariant past now) (ends : now.EndsIdle event)
    (taken : step now event = some after) : EchoInvariant ((now, event) :: past) after := by
  have moved := echoStep_step here.tables here.idle ends taken
  refine ⟨storeInvariant_step here.tables taken, moved.idle here.idle, ?_⟩
  intro recorded member ref removes
  rcases List.mem_cons.mp member with same | older
  · rw [same] at removes
    rcases removes.1 with ⟨key, active⟩
    rcases here.tables.keyed key ref active with ⟨session, found, _⟩
    exact ⟨removes.2 after taken, moved.objects ref session found⟩
  · rcases here.removed recorded older ref removes with ⟨dead, session, found⟩
    refine ⟨?_, moved.objects ref session found⟩
    intro holds
    rcases moved.active ref holds with earlier | fresh
    · exact dead earlier
    · rw [found] at fresh
      cases fresh

theorem echoInvariant_empty {start : Runtime} (fresh : start.Fresh) : EchoInvariant [] start where
  tables := storeInvariant_empty fresh.store
  idle := by
    intro ref _ session found
    rw [fresh.sessions] at found
    cases found
  removed := fun _ member => absurd member List.not_mem_nil

/-- A dead session stays dead in every run whose removals find idle timers. -/
theorem deadStaysDead_of_run {start now : Runtime} {past : List (Runtime × Event)}
    (fresh : start.Fresh) (run : Run step EndsIdle start past now) : DeadStaysDead past now := by
  have invariant : EchoInvariant past now :=
    run.invariantPast (echoInvariant_empty fresh)
      (fun _ _ _ _ here ends taken => echoInvariant_step here ends taken)
  intro taken member ref removes env index after fired
  exact inert_of_echoIdle (invariant.idle ref (invariant.removed taken member ref removes).1) fired

/-! ## The harm, and a run without it -/

/-- The PADT by which the subscriber ends it. -/
def hangUp : Event := discoveryEvent (sampleLink 1) PPPOECode.padt 1

theorem hangUp_taken : step established hangUp = some (established.deallocateSession 1).1 := rfl

theorem hangUp_removes : Removes (established, hangUp) 0 := by
  decide +kernel

/-- The echo timer of a removed session goes on sending requests. -/
theorem echo_after_padt :
    ¬ forall (past : List (Runtime × Event)) (now : Runtime),
      Run step anyStep (sampleDaemon [.none] papPolicy) past now -> DeadStaysDead past now := by
  intro claim
  rcases established_reachable with ⟨past, run⟩
  have removed := run.next trivial hangUp_taken
  have late := removed.next trivial (show step _ { input := .echoExpires 0 } = some _ from rfl)
  have inert := claim _ _ late _ (List.mem_cons_of_mem _ List.mem_cons_self) 0 hangUp_removes {} 0
  have sends : (((established.deallocateSession 1).1.echoExpires 0).echoTimer {} 0 0).any
      (fun after => decide (after.pppOutcoming ≠
        ((established.deallocateSession 1).1.echoExpires 0).pppOutcoming)) = true := by
    decide +kernel
  rcases (Option.any_eq_true _ _).mp sends with ⟨after, fired, queued⟩
  exact of_decide_eq_true queued (inert after fired).pppOutcoming

/-- The subscriber of the session does not answer ten echo requests. -/
def silence : List Event :=
  (List.replicate 10 [{ input := .echoExpires 0 }, { input := .echoTimer 0 0 }]).flatten

/-- The tenth unanswered request ends a session for good. -/
theorem deadStaysDead_after_silence :
    ∃ past, Run step EndsIdle (sampleDaemon [.none] papPolicy) past silenced ∧
      ¬ silenced.store.activeSessions.Holds 0 ∧ DeadStaysDead past silenced := by
  have run : ∃ past, Run step EndsIdle (sampleDaemon [.none] papPolicy) past silenced :=
    run_after _ _ _ _ _ (by decide +kernel)
  rcases run with ⟨past, run⟩
  have removed : ¬ silenced.store.activeSessions.Holds 0 := by decide +kernel
  exact ⟨past, run, removed, deadStaysDead_of_run (fresh_sampleDaemon _ _) run⟩

end Runtime

end Pppcpd
