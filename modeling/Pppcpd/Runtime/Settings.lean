import Pppcpd.Aaa.Leases
import Pppcpd.Ppp.Adoption
import Pppcpd.Runtime.Moves

namespace Pppcpd

open Foundation

/-!
# The settings of a session in a step

The address and the VRF of a session are written in one place, where IPCP copies
them from the AAA session that the session names.  AAA in turn changes neither
of them once a session is made.  A step that ends nothing therefore leaves the
settings of every session, or brings them from AAA.
-/

open IPCPFsm (Acked settings)

/-- What of a session decides who has its address. -/
def tenancy (session : PPPOESession) : PPPOEKey × UInt32 × (UInt32 × Bytes) × Bool :=
  (session.key, session.aaaSessionId, settings session, decide (Acked session))

namespace AAA

/-- AAA keeps its sessions with their addresses. -/
def Retains (before after : AAA) : Prop :=
  forall number record, before.getSession number = some record ->
    ∃ later, after.getSession number = some later ∧
      (later.address, later.vrf) = (record.address, record.vrf)

/-- AAA keeps its sessions when their numbers stay and no lease changes. -/
theorem Retains.of_settled {before after : AAA} (sessions : after.sessions = before.sessions)
    (settled : forall ref session, before.objects.deref ref = some session ->
      ∃ later, after.objects.deref ref = some later ∧ lease later = lease session) :
    Retains before after := by
  intro number record found
  rcases Option.bind_eq_some_iff.mp found with ⟨entry, isEntry, isRecord⟩
  rcases settled entry record isRecord with ⟨later, still, same⟩
  refine ⟨later, Option.bind_eq_some_iff.mpr ⟨entry, sessions ▸ isEntry, still⟩, ?_⟩
  have parts := Prod.mk.inj same
  rw [parts.1, (Prod.mk.inj parts.2).1]

theorem Retains.of_quiet {now after : AAA} {event : AAAEvent} (quiet : event.Quiet)
    (taken : step now event = some after) : Retains now after := by
  refine .of_settled (sessions_of_quiet quiet taken) ?_
  cases event with
  | reload conf templates =>
      rw [step] at taken
      split at taken
      · rw [← Option.some.inj taken]
        exact fun ref session found => ⟨session, found, rfl⟩
      · cases taken
  | startSession => exact quiet.elim
  | authDatagram => exact quiet.elim
  | _ => exact (carries_step (by trivial) taken).settled

/-- Sessions that are announced take nothing from the others. -/
theorem Announces.retains {callback : AAACallback} {before after : AAA} {calls : List CallbackCall}
    (announces : Announces callback before after calls) : Retains before after := by
  intro number record found
  rcases Option.bind_eq_some_iff.mp found with ⟨entry, isEntry, isRecord⟩
  have spared := announces.spares number entry (fun impossible => impossible) isEntry
  exact ⟨record, Option.bind_eq_some_iff.mpr ⟨entry, spared.1, spared.2.1.trans isRecord⟩, rfl⟩

theorem getSession_of_not_mem {aaa : AAA} {sid : UInt32} (absent : sid ∉ aaa.sessions) :
    aaa.getSession sid = none := by
  unfold getSession
  rw [AList.lookup_eq_none.mpr absent]
  rfl

end AAA

namespace Runtime

/-- What a step does to one session object: nothing to its settings, or it takes
those of the AAA session that it names. -/
structure Abides (before : Runtime) (ref : Nat) (old session : PPPOESession) : Prop where
  key : session.key = old.key
  named : session.aaaSessionId = old.aaaSessionId ∨
    before.aaa.getSession session.aaaSessionId = none
  settings : settings session = settings old ∧ (Acked session -> Acked old) ∨
    before.store.activeSessions.Holds ref ∧ session.aaaSessionId = old.aaaSessionId ∧
      ∃ record, before.aaa.getSession old.aaaSessionId = some record ∧
        IPCPFsm.settings session = (record.address, record.vrf)

/-- A step in which every session object abides, and AAA keeps its sessions. -/
structure Tracks (before after : Runtime) : Prop where
  active : after.store.activeSessions = before.store.activeSessions
  alive : forall ref, after.sessions.isAlive ref = before.sessions.isAlive ref
  retains : AAA.Retains before.aaa after.aaa
  present : forall ref old, before.sessions.deref ref = some old ->
    ∃ session, after.sessions.deref ref = some session
  objects : forall ref session, after.sessions.deref ref = some session ->
    ∃ old, before.sessions.deref ref = some old ∧ Abides before ref old session

theorem abides_of_tenancy {before : Runtime} {ref : Nat} {old session : PPPOESession}
    (same : tenancy session = tenancy old) : Abides before ref old session := by
  have parts := Prod.mk.inj same
  have number := Prod.mk.inj parts.2
  have rest := Prod.mk.inj number.2
  exact ⟨parts.1, .inl number.1, .inl ⟨rest.1, (decide_eq_decide.mp rest.2).mp⟩⟩

theorem Tracks.of_plain {before after : Runtime} (plain : Plain tenancy before after) :
    Tracks before after where
  active := plain.kept.active
  alive := plain.untouched.alive
  retains := fun number record found => ⟨record, plain.aaa ▸ found, rfl⟩
  present := fun ref old found => (plain.kept.session found).imp (fun _ both => both.1)
  objects := by
    intro ref session present
    rcases plain.kept.symm.session present with ⟨old, was, same⟩
    exact ⟨old, was, abides_of_tenancy same.symm⟩

/-- The settings and the identity of a session, without its AAA session. -/
def holding (session : PPPOESession) : PPPOEKey × (UInt32 × Bytes) × Bool :=
  (session.key, settings session, decide (Acked session))

theorem holding_start (hwaddr : Mac) (getSession : IPCPFsm.SessionLookup) (session : PPPOESession) :
    holding ((IPCPFsm.protocol hwaddr getSession).start session).session = holding session := by
  have keys := openBlind_key.start hwaddr getSession session
  unfold holding
  rw [keys, IPCPFsm.settings_start, decide_eq_decide.mpr (IPCPFsm.acked_start hwaddr getSession session)]

theorem authBlind_holding : AuthBlind holding where
  callback := by
    intro hwaddr protocol sid err session
    cases err with
    | none =>
        refine (holding_start hwaddr (fun _ => none) _).trans ?_
        cases protocol <;> rfl
    | some text => rfl
  ack := fun hwaddr _ session => holding_start hwaddr (fun _ => none) session
  named := fun _ _ => rfl

theorem sideBlind_tenancy : SideBlind tenancy where
  lcp := ⟨fun first second same => by
    have parts := congrArg tenancy same
    exact parts, fun _ => rfl⟩
  opens := by
    refine ⟨fun hwaddr getSession session => ?_, fun _ _ => rfl⟩
    have held := Prod.mk.inj (holding_start hwaddr getSession session)
    have rest := Prod.mk.inj held.2
    have number : ((IPCPFsm.protocol hwaddr getSession).start session).session.aaaSessionId =
        session.aaaSessionId := congrArg Prod.snd (openBlind_reference.start hwaddr getSession session)
    unfold tenancy
    rw [held.1, number, rest.1, rest.2]
  timer := fun _ _ => rfl
  named := fun _ _ => rfl

theorem Tracks.withCalls {before : Runtime} {outcome : AAA × List CallbackCall}
    {callback : AAACallback}
    (announces : AAA.Announces callback before.aaa outcome.1 outcome.2) :
    Tracks before (before.withCalls outcome) := by
  have kept := kept_withCalls authBlind_holding before outcome
  have aaa : (before.withCalls outcome).aaa = outcome.1 :=
    aaa_callbacks (before.withAaa outcome.1) outcome.2
  refine ⟨kept.active, (Untouched.withCalls before outcome).alive, aaa ▸ announces.retains, ?_, ?_⟩
  · exact fun ref old found => (kept.session found).imp (fun _ both => both.1)
  · intro ref session present
    rcases kept.symm.session present with ⟨old, was, same⟩
    have parts := Prod.mk.inj same
    have rest := Prod.mk.inj parts.2
    refine ⟨old, was, parts.1.symm, ?_, .inl ⟨rest.1.symm, (decide_eq_decide.mp rest.2).mpr⟩⟩
    rcases deref_callbacks present with ⟨earlier, found, number | ⟨call, member, _, success, number⟩⟩
    · have equal : old = earlier := Option.some.inj (was.symm.trans found)
      exact .inl (number.trans (congrArg PPPOESession.aaaSessionId equal.symm))
    · rw [number]
      exact .inr (AAA.getSession_of_not_mem (announces.fresh call member success).1)

theorem Tracks.withAaa {before : Runtime} {aaa : AAA} (retains : AAA.Retains before.aaa aaa) :
    Tracks before (before.withAaa aaa) where
  active := rfl
  alive := fun _ => rfl
  retains := retains
  present := fun _ old found => ⟨old, found⟩
  objects := fun _ session found => ⟨session, found, abides_of_tenancy rfl⟩

/-- An IPCP packet for an active session. -/
theorem Tracks.apply {runtime : Runtime} {ref : Nat} {session : PPPOESession} {packet : Packet}
    {out : FsmOut} (active : runtime.store.activeSessions.Holds ref)
    (present : runtime.sessions.deref ref = some session)
    (received : runtime.ipcpFsm.receive session packet = some out) :
    Tracks runtime (runtime.apply ref out) := by
  have same : reference out.session = reference session :=
    ipcpBlind_reference _ _ ((ipcpFsm_leaves runtime).receive received)
  have parts := Prod.mk.inj same
  have abides : Abides runtime ref session out.session := by
    refine ⟨parts.1, .inl parts.2, ?_⟩
    cases IPCPFsm.adoption_of_receive received with
    | kept settled acked => exact .inl ⟨settled, fun isAcked => (acked isAcked).1⟩
    | adopted found settled _ => exact .inr ⟨active, parts.2, _, found, settled⟩
    | accepted found settled _ _ _ => exact .inr ⟨active, parts.2, _, found, settled⟩
  refine ⟨rfl, (Untouched.apply runtime ref out).alive, fun _ record found => ⟨record, found, rfl⟩,
    ?_, ?_⟩
  · intro other old found
    by_cases here : other = ref
    · rw [here]
      exact ⟨_, deref_apply_self present out⟩
    · exact ⟨old, (deref_apply_of_ne runtime here out).trans found⟩
  · intro other object found
    by_cases here : other = ref
    · rw [here, deref_apply_self present] at found
      rw [here, ← Option.some.inj found]
      exact ⟨session, present, abides⟩
    · rw [deref_apply_of_ne runtime here] at found
      exact ⟨object, found, abides_of_tenancy rfl⟩

theorem Tracks.configured (runtime : Runtime) (ref : Nat) (session : PPPOESession) :
    Tracks runtime (runtime.configured ref session) := by
  have kept : Kept tenancy runtime (runtime.configured ref session) :=
    kept_configured (fun _ _ => rfl) runtime ref session
  have retains : AAA.Retains runtime.aaa (runtime.configured ref session).aaa :=
    .of_settled (AAA.mapIfaceToSession_sessions _ _ _)
      (AAA.Carries.mapIfaceToSession runtime.aaa _ _).settled
  refine ⟨kept.active, ?_, retains,
    fun other old found => (kept.session found).imp (fun _ both => both.1), ?_⟩
  · intro other
    unfold Runtime.configured
    dsimp only
    rw [Heap.isAlive_update]
  intro other object present
  rcases kept.symm.session present with ⟨old, was, same⟩
  exact ⟨old, was, abides_of_tenancy same.symm⟩

/-! ## The references in the same moves -/

theorem steady_of_plain {before after : Runtime} (plain : Plain tenancy before after) :
    Steady before after :=
  .of_kept (plain.kept.map (fun tenancy => (tenancy.1, tenancy.2.1))) plain.aaa

theorem steady_apply {runtime : Runtime} {ref : Nat} {session : PPPOESession} {packet : Packet}
    {out : FsmOut} (present : runtime.sessions.deref ref = some session)
    (received : runtime.ipcpFsm.receive session packet = some out) :
    Steady runtime (runtime.apply ref out) :=
  .of_kept (kept_apply out present
    (ipcpBlind_reference _ _ ((ipcpFsm_leaves runtime).receive received))) rfl

theorem steady_configured (runtime : Runtime) (ref : Nat) (session : PPPOESession) :
    Steady runtime (runtime.configured ref session) where
  kept := kept_configured timerBlind_reference.ifindex runtime ref session
  grows := AAA.grows_step (rfl : runtime.aaa.step (.mapIfaceToSession session.aaaSessionId
    (runtime.vpp.provisionDp ref session).2.2) = some _)
  entries := by
    intro sid member
    have same : (runtime.configured ref session).aaa.sessions = runtime.aaa.sessions :=
      AAA.mapIfaceToSession_sessions _ _ _
    rw [same]
    exact member

end Runtime

end Pppcpd
