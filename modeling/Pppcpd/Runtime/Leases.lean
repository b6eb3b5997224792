import Pppcpd.Runtime.Settings
import Pppcpd.Vpp.Provisioned

namespace Pppcpd

open Foundation

/-!
# Addresses that are given back

The end of a session gives its address back to the pool at once, and the data
plane loses the session when its object dies.  A wait of the echo timer keeps
the object, so an address can be on offer while VPP still has it.  Without such
objects, and with pools and servers that do not share addresses, what VPP was
given is held by an AAA session that no other subscriber names.
-/

open IPCPFsm (Acked settings)

namespace Runtime

/-- An address that comes into use is in no add command that waits for its
delete command. -/
def HandsOutFreely (before after : Runtime) : Prop :=
  forall name address, ¬ before.aaa.InUse name address -> after.aaa.InUse name address ->
    forall owner mac sid, ¬ before.vpp.ProvisionedFor owner mac sid address

/-- No pool offers zero or an address that an ended session will still take out
of the data plane. -/
def Vacated (runtime : Runtime) : Prop :=
  ¬ runtime.aaa.Offered 0 ∧ ∀ ref < runtime.sessions.length, runtime.sessions.isAlive ref = true ->
    runtime.isActive ref = false -> ∀ session ∈ runtime.sessions.deref ref,
      runtime.vpp.Knows session.vrf -> ¬ runtime.aaa.Offered session.address

/-- A request that NONE answers, and an answer of the server that makes a
session, come when no such address is on offer. -/
def TakesVacated (runtime : Runtime) (event : Event) : Prop :=
  match event.input with
  | .session encap packet =>
      ∀ ref ∈ runtime.store.activeSessions.lookup (frameKey encap packet),
        ∀ session ∈ runtime.sessions.deref ref, forall protocol : AuthProtocol,
          IsAuthRequest packet protocol -> protocol.started session = false ->
            runtime.aaa.NoneUsable -> .none ∈ AAA.beforeRadius runtime.aaa.conf.method ->
              runtime.Vacated
  | .authDatagram datagram =>
      ∀ client ∈ runtime.aaa.auth,
        ∀ received ∈ client.onRcv runtime.aaa.md5 event.env.aaa.behind datagram,
          ∀ answer ∈ received.2, runtime.aaa.firstFreeId ≠ none -> runtime.Vacated
  | _ => True

/-- Servers and new files keep to addresses that no pool and no live session
has. -/
def PoolsKeepApart (runtime : Runtime) (event : Event) : Prop :=
  match event.input with
  | .authDatagram datagram => runtime.aaa.KeepsApart (.authDatagram event.env.aaa datagram)
  | .reload conf => runtime.aaa.KeepsApart (.reload conf.aaaConf conf.pppoeTemplates)
  | _ => True

def LeasesSafely (runtime : Runtime) (event : Event) : Prop :=
  runtime.TakesVacated event ∧ runtime.PoolsKeepApart event

instance (runtime : Runtime) : Decidable runtime.Vacated :=
  inferInstanceAs (Decidable (_ ∧ _))

instance (runtime : Runtime) (event : Event) : Decidable (runtime.LeasesSafely event) := by
  have takes : Decidable (runtime.TakesVacated event) := by
    match event with
    | ⟨env, input⟩ =>
      induction input using Input.casesOn <;> unfold TakesVacated <;> infer_instance
  have keeps : Decidable (runtime.PoolsKeepApart event) := by
    match event with
    | ⟨env, input⟩ =>
      induction input using Input.casesOn <;> unfold PoolsKeepApart <;> infer_instance
  unfold LeasesSafely
  infer_instance

theorem PoolsKeepApart.causes {runtime : Runtime} {event : Event} {aaaEvent : AAAEvent}
    (apart : runtime.PoolsKeepApart event) (causes : Causes runtime event aaaEvent) :
    runtime.aaa.KeepsApart aaaEvent := by
  unfold PoolsKeepApart at apart
  cases causes with
  | request => trivial
  | authDatagram input =>
      rw [input] at apart
      exact apart
  | authTimer => trivial
  | reload input =>
      rw [input] at apart
      exact apart
  | timed quiet other =>
      cases aaaEvent with
      | reload conf templates => exact absurd rfl (other conf templates)
      | authDatagram inputs datagram => exact absurd quiet id
      | _ => trivial

theorem TakesVacated.causes {runtime : Runtime} {event : Event} {aaaEvent : AAAEvent}
    (takes : runtime.TakesVacated event) (causes : Causes runtime event aaaEvent)
    (may : runtime.aaa.MayTake aaaEvent) : runtime.Vacated := by
  unfold TakesVacated at takes
  cases causes with
  | request input request found present fresh =>
      rw [input] at takes
      exact takes _ found _ present _ request fresh may.1 may.2
  | authDatagram input =>
      rw [input] at takes
      rcases may with ⟨client, isClient, received, isReceived, answer, isAnswer, free⟩
      exact takes client isClient received isReceived answer isAnswer free
  | authTimer => exact may.elim
  | reload => exact may.elim
  | timed quiet _ =>
      cases aaaEvent with
      | startSession => exact quiet.elim
      | authDatagram => exact quiet.elim
      | _ => exact may.elim

/-! ## The invariant -/

/-- An AAA session that nobody but the object names has the settings. -/
def Backed (runtime : Runtime) (ref : Nat) (given : UInt32 × Bytes) : Prop :=
  ∃ number record, runtime.aaa.getSession number = some record ∧
    (record.address, record.vrf) = given ∧
      forall other session, runtime.store.activeSessions.Holds other ->
        runtime.sessions.deref other = some session -> session.aaaSessionId = number ->
          other = ref ∧ settings session = given

/-- What VPP was given for a session object is backed, or the object has ended
with it and is not destroyed yet. -/
structure Placed (runtime : Runtime) (ref : Nat) (mac : Mac) (sid : UInt16) (address : UInt32)
    (session : PPPOESession) : Prop where
  present : runtime.sessions.deref ref = some session
  mac : session.encap.sourceMac = mac
  sid : session.sessionId = sid
  backed : (∃ vrf, runtime.vpp.Knows vrf ∧ runtime.Backed ref (address, vrf)) ∨
    runtime.sessions.isAlive ref = true ∧ ¬ runtime.store.activeSessions.Holds ref ∧
      session.address = address ∧ runtime.vpp.Knows session.vrf

structure Tenancy (runtime : Runtime) : Prop where
  exclusive : runtime.aaa.Exclusive
  alive : forall ref, runtime.store.activeSessions.Holds ref -> runtime.sessions.isAlive ref = true
  placed : forall ref mac sid address, runtime.vpp.ProvisionedFor ref mac sid address ->
    ∃ session, runtime.Placed ref mac sid address session
  acked : forall ref session, runtime.store.activeSessions.Holds ref ->
    runtime.sessions.deref ref = some session -> Acked session -> runtime.Backed ref (settings session)

/-- A session has its settings from the AAA session that it alone names. -/
theorem backed_of_named {runtime : Runtime} (references : ReferenceInvariant runtime) {ref : Nat}
    {session : PPPOESession} {record : AAASession} (active : runtime.store.activeSessions.Holds ref)
    (present : runtime.sessions.deref ref = some session)
    (found : runtime.aaa.getSession session.aaaSessionId = some record)
    (adopted : settings session = (record.address, record.vrf)) :
    runtime.Backed ref (settings session) := by
  refine ⟨session.aaaSessionId, record, found, adopted.symm, ?_⟩
  intro other otherSession otherActive otherPresent same
  rcases Option.bind_eq_some_iff.mp found with ⟨entry, isEntry, _⟩
  have equal : other = ref := references.unshared other ref otherSession session otherActive active
    otherPresent present same (same ▸ references.entered.id _ entry isEntry)
  rw [equal, present] at otherPresent
  exact ⟨equal, by rw [Option.some.inj otherPresent]⟩

/-- What was backed stays backed. -/
theorem Tracks.backed {before after : Runtime} (tracks : Tracks before after) {ref : Nat}
    {given : UInt32 × Bytes} (backed : before.Backed ref given) : after.Backed ref given := by
  rcases backed with ⟨number, record, found, equal, alone⟩
  rcases tracks.retains number record found with ⟨later, still, same⟩
  refine ⟨number, later, still, same.trans equal, ?_⟩
  intro other session active present isNumber
  rw [tracks.active] at active
  rcases tracks.objects other session present with ⟨old, was, abides⟩
  rcases abides.named with kept | fresh
  · have wasNumber : old.aaaSessionId = number := kept.symm.trans isNumber
    rcases alone other old active was wasNumber with ⟨here, isGiven⟩
    refine ⟨here, ?_⟩
    rcases abides.settings with ⟨same, _⟩ | ⟨_, _, adopted, isRecord, settled⟩
    · exact same.trans isGiven
    · rw [wasNumber, found] at isRecord
      rw [settled, ← Option.some.inj isRecord]
      exact equal
  · rw [isNumber, found] at fresh
    cases fresh

/-- Such a step keeps the invariant, if what VPP is given in it belongs to an
active session with acknowledged options. -/
theorem Tenancy.track {before after : Runtime} (tenancy : Tenancy before)
    (tracks : Tracks before after) (carries : AAA.Carries before.aaa after.aaa)
    (references : ReferenceInvariant after)
    (vrfs : after.vpp.vrfs = before.vpp.vrfs)
    (given : forall ref mac sid address, after.vpp.ProvisionedFor ref mac sid address ->
      before.vpp.ProvisionedFor ref mac sid address ∨ after.store.activeSessions.Holds ref ∧
        ∃ session, after.sessions.deref ref = some session ∧ Acked session ∧
          session.encap.sourceMac = mac ∧ session.sessionId = sid ∧ session.address = address ∧
            after.vpp.Knows session.vrf) : Tenancy after := by
  have acked : forall ref session, after.store.activeSessions.Holds ref ->
      after.sessions.deref ref = some session -> Acked session ->
        after.Backed ref (settings session) := by
    intro ref session active present isAcked
    rcases tracks.objects ref session present with ⟨old, was, abides⟩
    rcases abides.settings with ⟨same, acks⟩ | ⟨_, number, record, isRecord, settled⟩
    · rw [same]
      rw [tracks.active] at active
      exact tracks.backed (tenancy.acked ref old active was (acks isAcked))
    · rcases tracks.retains _ record isRecord with ⟨later, still, equal⟩
      exact backed_of_named references active present (number ▸ still) (settled.trans equal.symm)
  refine ⟨carries.exclusive tenancy.exclusive, ?_, ?_, acked⟩
  · intro ref active
    rw [tracks.active] at active
    rw [tracks.alive]
    exact tenancy.alive ref active
  · intro ref mac sid address provisioned
    rcases given ref mac sid address provisioned with
      earlier | ⟨active, session, present, isAcked, isMac, isSid, isAddress, known⟩
    · rcases tenancy.placed ref mac sid address earlier with ⟨old, placed⟩
      rcases tracks.present ref old placed.present with ⟨session, present⟩
      rcases tracks.objects ref session present with ⟨same, was, abides⟩
      rw [placed.present] at was
      have isOld := Option.some.inj was
      rw [← isOld] at abides
      refine ⟨session, present, (congrArg PPPOEKey.mac abides.key).trans placed.mac,
        (congrArg PPPOEKey.sessionId abides.key).trans placed.sid, ?_⟩
      rcases placed.backed with ⟨vrf, known, backed⟩ | ⟨live, ended, isAddress, known⟩
      · exact .inl ⟨vrf, (VPP.knows_of_vrfs vrfs vrf).mpr known, tracks.backed backed⟩
      · rcases abides.settings with ⟨same, _⟩ | ⟨active, _⟩
        · have parts := Prod.mk.inj same
          refine .inr ⟨(tracks.alive ref).trans live, tracks.active ▸ ended,
            parts.1.trans isAddress, (VPP.knows_of_vrfs vrfs _).mpr ?_⟩
          rw [parts.2]
          exact known
        · exact absurd active ended
    · refine ⟨session, present, isMac, isSid, .inl ⟨session.vrf, known, ?_⟩⟩
      rw [← isAddress]
      exact acked ref session active present isAcked

/-! ## The end of a session -/

/-- The invariant reads neither the ids in use nor the cursor. -/
theorem Tenancy.of_same {before after : Runtime} (tenancy : Tenancy before)
    (active : after.store.activeSessions = before.store.activeSessions)
    (sessions : after.sessions = before.sessions) (aaa : after.aaa = before.aaa)
    (vpp : after.vpp = before.vpp) : Tenancy after := by
  have backed : forall ref given, before.Backed ref given -> after.Backed ref given := by
    intro ref given
    unfold Backed
    rw [active, sessions, aaa]
    exact id
  refine ⟨aaa ▸ tenancy.exclusive, ?_, ?_, ?_⟩
  · rw [active, sessions]
    exact tenancy.alive
  · intro ref mac sid address provisioned
    rw [vpp] at provisioned
    rcases tenancy.placed ref mac sid address provisioned with ⟨session, placed⟩
    refine ⟨session, sessions ▸ placed.present, placed.mac, placed.sid, ?_⟩
    rw [active, sessions, vpp]
    exact placed.backed.imp_left (fun ⟨vrf, known, own⟩ => ⟨vrf, known, backed ref _ own⟩)
  · intro ref session
    rw [active, sessions]
    exact fun holds present isAcked => backed ref _ (tenancy.acked ref session holds present isAcked)

/-- A destruction takes the session out of the data plane. -/
theorem Tenancy.collect {runtime : Runtime} (tenancy : Tenancy runtime) (ref : Nat) :
    Tenancy (runtime.collect ref) := by
  unfold Runtime.collect
  cases found : runtime.sessions.deref ref with
  | none => exact tenancy
  | some session =>
      dsimp only
      split
      · rename_i last
        have inactive : ¬ runtime.store.activeSessions.Holds ref :=
          fun active => last.2.1 ((isActive_iff runtime ref).mpr active)
        have objects : forall other, (runtime.sessions.destroy ref).deref other =
            runtime.sessions.deref other := Heap.deref_destroy runtime.sessions ref
        have backed : forall other given, runtime.Backed other given ->
            Backed { runtime with
              sessions := runtime.sessions.destroy ref
              vpp := runtime.vpp.deprovisionDp ref session } other given := by
          rintro other given ⟨number, record, isRecord, equal, alone⟩
          refine ⟨number, record, isRecord, equal, fun third object active present isNumber => ?_⟩
          exact alone third object active ((objects third).symm.trans present) isNumber
        have knows := VPP.knows_of_vrfs (VPP.deprovisionDp_vrfs ref session runtime.vpp)
        refine ⟨tenancy.exclusive, ?_, ?_, ?_⟩
        · intro other active
          dsimp only
          have elsewhere : other ≠ ref := by
            intro same
            rw [same] at active
            exact inactive active
          rw [Heap.isAlive_destroy, if_neg elsewhere]
          exact tenancy.alive other active
        · intro other mac sid address provisioned
          have before := VPP.ProvisionedFor.of_deprovisionDp provisioned
          rcases tenancy.placed other mac sid address before.1 with ⟨object, placed⟩
          refine ⟨object, (objects other).trans placed.present, placed.mac, placed.sid, ?_⟩
          rcases placed.backed with ⟨vrf, known, own⟩ | ⟨live, ended, isAddress, known⟩
          · exact .inl ⟨vrf, (knows vrf).mpr known, backed other _ own⟩
          · have elsewhere : other ≠ ref := by
              intro same
              have present := placed.present
              rw [same, found] at present
              have isObject := Option.some.inj present
              rw [← isObject] at known
              exact before.2 known ⟨by rw [isObject, placed.mac], by rw [isObject, placed.sid]⟩
            refine .inr ⟨?_, ended, isAddress, (knows _).mpr known⟩
            dsimp only
            rw [Heap.isAlive_destroy, if_neg elsewhere]
            exact live
        · intro other object active present isAcked
          exact backed other _ (tenancy.acked other object active
            ((objects other).symm.trans present) isAcked)
      · exact tenancy

/-- What is backed stays so when another AAA session is stopped, and an end that
stops its own leaves the object with the settings. -/
theorem Backed.stopped {runtime : Runtime} {ref target : Nat} {session : PPPOESession}
    {given : UInt32 × Bytes} (references : ReferenceInvariant runtime)
    (backed : runtime.Backed ref given) {key : PPPOEKey}
    (found : runtime.store.activeSessions.lookup key = some target)
    (present : runtime.sessions.deref target = some session) :
    Backed { runtime with
        aaa := runtime.aaa.stopSession runtime.counters session.aaaSessionId
        store := { runtime.store with activeSessions := runtime.store.activeSessions.erase key } }
      ref given ∨ ref = target ∧ settings session = given := by
  rcases backed with ⟨number, record, isRecord, equal, alone⟩
  by_cases own : number = session.aaaSessionId
  · rcases alone target session ⟨key, found⟩ present own.symm with ⟨same, isGiven⟩
    exact .inr ⟨same.symm, isGiven⟩
  · refine .inl ⟨number, record, ?_, equal, ?_⟩
    · rcases Option.bind_eq_some_iff.mp isRecord with ⟨entry, isEntry, there⟩
      have spares : AAA.Spares (fun id => id = session.aaaSessionId) runtime.aaa
          (runtime.aaa.stopSession runtime.counters session.aaaSessionId) :=
        .stopSession references.entered runtime.counters rfl
      have kept := spares number entry own isEntry
      exact Option.bind_eq_some_iff.mpr ⟨entry, kept.1, kept.2.1.trans there⟩
    · rintro other object ⟨otherKey, otherFound⟩ otherPresent isNumber
      dsimp only at otherFound
      rw [Table.lookup_erase_eq] at otherFound
      split at otherFound
      · cases otherFound
      · exact alone other object ⟨otherKey, otherFound⟩ otherPresent isNumber

/-- An end gives the address back, and leaves the object with it. -/
theorem Tenancy.deallocateSession {runtime : Runtime} (tenancy : Tenancy runtime)
    (references : ReferenceInvariant runtime) (sid : UInt16) :
    Tenancy (runtime.deallocateSession sid).1 := by
  by_cases member : sid ∈ runtime.store.sessionSet
  · rcases deallocateSession_of_mem references.tables member with
      ⟨key, target, _, found, _, unfolded, _⟩
    rcases references.tables.keyed key target found with ⟨session, present, _⟩
    have erased : Tenancy { runtime with
        aaa := runtime.aaa.stopSession runtime.counters session.aaaSessionId
        store := { runtime.store with activeSessions := runtime.store.activeSessions.erase key } } := by
      have left : forall other, Table.Holds (runtime.store.activeSessions.erase key) other ->
          runtime.store.activeSessions.Holds other ∧ other ≠ target := by
        rintro other ⟨otherKey, otherFound⟩
        rw [Table.lookup_erase_eq] at otherFound
        split at otherFound
        · cases otherFound
        · rename_i different
          exact ⟨⟨otherKey, otherFound⟩, fun same =>
            different (key_eq_of_holds references.tables (same ▸ otherFound) found)⟩
      refine ⟨(AAA.Carries.stopSession runtime.aaa runtime.counters _).exclusive tenancy.exclusive,
        fun other active => tenancy.alive other (left other active).1, ?_, ?_⟩
      · intro other mac number address provisioned
        rcases tenancy.placed other mac number address provisioned with ⟨object, placed⟩
        refine ⟨object, placed.present, placed.mac, placed.sid, ?_⟩
        rcases placed.backed with ⟨vrf, known, backed⟩ | ⟨live, ended, isAddress, known⟩
        · rcases backed.stopped references found present with kept | ⟨same, isGiven⟩
          · exact .inl ⟨vrf, known, kept⟩
          · have isTarget := placed.present
            rw [same, present] at isTarget
            rw [Option.some.inj isTarget] at isGiven
            have parts := Prod.mk.inj isGiven
            refine .inr ⟨tenancy.alive other (same ▸ ⟨key, found⟩),
              fun active => (left other active).2 same, parts.1, ?_⟩
            rw [parts.2]
            exact known
        · exact .inr ⟨live, fun active => ended (left other active).1, isAddress, known⟩
      · intro other object active isObject isAcked
        have was := left other active
        rcases (tenancy.acked other object was.1 isObject isAcked).stopped references found present
          with kept | ⟨same, _⟩
        · exact kept
        · exact absurd same was.2
    rw [unfolded]
    unfold removeSession
    rw [present]
    exact (erased.collect target).of_same rfl rfl rfl rfl
  · rw [deallocateSession_of_not_mem member]
    exact tenancy

/-- A new session has acknowledged nothing and names no AAA session. -/
theorem Tenancy.allocateSession {runtime : Runtime} (tenancy : Tenancy runtime)
    (references : ReferenceInvariant runtime) {env : Env} {encap : Encapsulation}
    {result : Runtime × UInt16 × Option String}
    (allocated : runtime.allocateSession env encap = some result) : Tenancy result.1 := by
  rcases allocateSession_cases references.tables env encap allocated with
    full | ⟨id, free, positive, entered⟩
  · rw [full]
    exact tenancy
  · have fresh := key_not_mem_of_free references.tables encap free
    rw [entered]
    have holds := Table.holds_insert_of_not_mem fresh runtime.sessions.length
    have backed : forall ref given, runtime.Backed ref given -> Backed { runtime with
        sessions := runtime.sessions.make (.construct env.session encap id)
        store := { runtime.store with
          activeSessions :=
            runtime.store.activeSessions.insert (.ofEncap encap id) runtime.sessions.length
          sessionSet := insert id runtime.store.sessionSet
          nextSessionId := if id + 1 = 0 then 1 else id + 1 } } ref given := by
      rintro ref given ⟨number, record, isRecord, equal, alone⟩
      refine ⟨number, record, isRecord, equal, fun other session active present isNumber => ?_⟩
      rcases Heap.deref_make_cases present with ⟨_, new⟩ | ⟨old, was⟩
      · rcases Option.bind_eq_some_iff.mp isRecord with ⟨entry, isEntry, _⟩
        rw [new] at isNumber
        exact absurd isNumber.symm (references.entered.id number entry isEntry)
      · exact alone other session (((holds other).mp active).resolve_left old) was isNumber
    refine ⟨tenancy.exclusive, ?_, ?_, ?_⟩
    · intro ref active
      dsimp only
      rw [Heap.isAlive_make]
      split
      · rfl
      · rename_i old
        exact tenancy.alive ref (((holds ref).mp active).resolve_left old)
    · intro ref mac sid address provisioned
      rcases tenancy.placed ref mac sid address provisioned with ⟨session, placed⟩
      have inside := Heap.lt_length_of_deref placed.present
      refine ⟨session, (Heap.deref_make_of_lt _ inside).trans placed.present, placed.mac, placed.sid, ?_⟩
      rcases placed.backed with ⟨vrf, known, own⟩ | ⟨live, ended, isAddress, known⟩
      · exact .inl ⟨vrf, known, backed ref _ own⟩
      · refine .inr ⟨?_, fun active => ?_, isAddress, known⟩
        · dsimp only
          rw [Heap.isAlive_make, if_neg (Nat.ne_of_lt inside)]
          exact live
        · exact ended (((holds ref).mp active).resolve_left (Nat.ne_of_lt inside))
    · intro ref session active present isAcked
      rcases Heap.deref_make_cases present with ⟨_, new⟩ | ⟨old, was⟩
      · rw [new] at isAcked
        rcases isAcked with state | state <;> cases state
      · exact backed ref _ (tenancy.acked ref session (((holds ref).mp active).resolve_left old) was
          isAcked)

/-! ## Steps of the daemon -/

/-- The configuration of the data plane gives VPP the address of its session. -/
theorem Tenancy.configured {runtime : Runtime} (tenancy : Tenancy runtime)
    (references : ReferenceInvariant runtime) {ref : Nat} {session : PPPOESession}
    (active : runtime.store.activeSessions.Holds ref)
    (present : runtime.sessions.deref ref = some session) (isAcked : Acked session) :
    Tenancy (runtime.configured ref session) := by
  have vrfs : (runtime.configured ref session).vpp.vrfs = runtime.vpp.vrfs :=
    VPP.provisionDp_vrfs ref session runtime.vpp
  refine tenancy.track (.configured runtime ref session) (.mapIfaceToSession runtime.aaa _ _)
    ((steady_configured runtime ref session).invariant references) vrfs ?_
  intro owner mac sid address provisioned
  rcases VPP.ProvisionedFor.of_provisionDp provisioned with
    before | ⟨own, isMac, isSid, isAddress, known⟩
  · exact .inl before
  · refine .inr ⟨own ▸ active, { session with
      ifindex := (runtime.vpp.provisionDp ref session).2.2 }, ?_, isAcked, isMac.symm, isSid.symm,
      isAddress.symm, (VPP.knows_of_vrfs vrfs session.vrf).mpr known⟩
    unfold Runtime.configured
    dsimp only
    rw [own, Heap.deref_update, if_pos rfl, present]
    rfl

/-- Both invariants go through every move. -/
theorem moves_tenancy {now : Runtime} {event : Event} (apart : now.PoolsKeepApart event) :
    Moves tenancy (fun _ _ => True) now event
      (fun runtime => ReferenceInvariant runtime ∧ Tenancy runtime) where
  plain := by
    rintro before after plain ⟨references, tenancy⟩
    have later := (steady_of_plain plain).invariant references
    refine ⟨later, tenancy.track (.of_plain plain) (plain.aaa ▸ .refl before.aaa) later
      (by rw [plain.untouched.vpp]) ?_⟩
    intro ref mac sid address provisioned
    rw [plain.untouched.vpp] at provisioned
    exact .inl provisioned
  allocates := by
    rintro before encap result _ allocated ⟨references, tenancy⟩
    exact ⟨references.allocateSession allocated, tenancy.allocateSession references allocated⟩
  ends := by
    rintro before sid _ _ ⟨references, tenancy⟩
    exact ⟨references.deallocateSession sid, tenancy.deallocateSession references sid⟩
  collects := by
    rintro before ref _ _ ⟨references, tenancy⟩
    exact ⟨(Steady.of_kept (kept_collect before ref) (collect_aaa before ref)).invariant references,
      tenancy.collect ref⟩
  calls := by
    rintro before aaaEvent outcome callback plain causes handled announces ⟨references, tenancy⟩
    have later := references.withCalls (AAA.grows_step (AAA.step_of_serve handled)) announces
    have carries : AAA.Carries before.aaa outcome.1 :=
      AAA.carries_step (plain.aaa ▸ apart.causes causes) (AAA.step_of_serve handled)
    have aaa : (before.withCalls outcome).aaa = outcome.1 :=
      aaa_callbacks (before.withAaa outcome.1) outcome.2
    have vpp := (Untouched.withCalls before outcome).vpp
    refine ⟨later, tenancy.track (.withCalls announces) (aaa ▸ carries) later (by rw [vpp]) ?_⟩
    intro ref mac sid address provisioned
    rw [vpp] at provisioned
    exact .inl provisioned
  quiet := by
    rintro aaaEvent aaa causes isQuiet handled ⟨references, tenancy⟩
    have later := (quiet_withAaa aaaEvent isQuiet handled).steady.invariant references
    exact ⟨later, tenancy.track (.withAaa (.of_quiet isQuiet handled))
      (AAA.carries_step (apart.causes causes) handled) later rfl (fun _ _ _ _ provisioned => .inl provisioned)⟩
  answers := by
    rintro packet ref session out isPacket ⟨references, tenancy⟩
    have later := (steady_apply isPacket.present isPacket.received).invariant references
    exact ⟨later, tenancy.track (.apply isPacket.active isPacket.present isPacket.received)
      (.refl _) later rfl
      (fun _ _ _ _ provisioned => .inl provisioned)⟩
  configures := by
    rintro packet ref session out isPacket _ up ⟨references, tenancy⟩
    have moved := (ipcpFsm_lawful _).receive isPacket.received
    rw [up] at moved
    exact ⟨(steady_configured _ ref out.session).invariant references,
      tenancy.configured references isPacket.active (deref_apply_self isPacket.present out)
        (.inr moved.1.of_layerUp.2.2.1)⟩

/-- Only an event that takes brings an address into use, and the address was on
offer. -/
theorem moves_takes {now : Runtime} {event : Event} (tables : StoreInvariant now)
    (takes : now.TakesVacated event) :
    Moves tenancy (fun _ _ => True) now event (fun runtime => forall name address,
      runtime.aaa.InUse name address ->
        now.aaa.InUse name address ∨ now.Vacated ∧ now.aaa.Offered address) where
  plain := by
    intro before after plain here name address inUse
    rw [plain.aaa] at inUse
    exact here name address inUse
  allocates := by
    intro before encap result plain allocated here name address inUse
    have keyed := (plain.kept.map Prod.fst).invariant tables
    rcases allocateSession_cases keyed event.env encap allocated with full | ⟨id, _, _, entered⟩
    · rw [full] at inUse
      exact here name address inUse
    · rw [entered] at inUse
      exact here name address inUse
  ends := by
    intro before sid plain _ here name address inUse
    have keyed := (plain.kept.map Prod.fst).invariant tables
    rcases aaa_deallocateSession keyed sid with same | ⟨_, _, _, _, _, stopped⟩
    · rw [same] at inUse
      exact here name address inUse
    · rw [stopped] at inUse
      exact here name address (AAA.inUse_stopSession inUse)
  collects := by
    intro before ref _ _ here name address inUse
    rw [collect_aaa] at inUse
    exact here name address inUse
  calls := by
    intro before aaaEvent outcome callback plain causes handled _ here name address inUse
    have aaa : (before.withCalls outcome).aaa = outcome.1 :=
      aaa_callbacks (before.withAaa outcome.1) outcome.2
    rw [aaa] at inUse
    rcases AAA.takes_step (AAA.step_of_serve handled) inUse with old | ⟨may, offered⟩
    · exact here name address old
    · rw [plain.aaa] at may offered
      exact .inr ⟨takes.causes causes may, offered⟩
  quiet := by
    intro aaaEvent aaa _ isQuiet handled here name address inUse
    exact here name address (AAA.inUse_of_quiet isQuiet handled inUse)
  answers := fun _ _ _ _ _ here => here
  configures := by
    intro packet ref session out _ _ _ here name address inUse
    rcases @AAA.takes_step _ _ (.mapIfaceToSession _ _) rfl name address inUse with old | ⟨may, _⟩
    · exact here name address old
    · exact may.elim

theorem tenancy_fresh {start : Runtime} (fresh : start.Fresh) (apart : start.aaa.conf.PoolsApart) :
    Tenancy start := by
  have missing : forall ref session, start.aaa.objects.deref ref ≠ some session := by
    intro ref session found
    rw [fresh.aaaObjects] at found
    cases found
  have inactive : forall ref, ¬ start.store.activeSessions.Holds ref := by
    rintro ref ⟨key, found⟩
    rw [fresh.store] at found
    cases found
  refine ⟨⟨?_, ?_, ?_, ?_⟩, fun ref active => absurd active (inactive ref), ?_,
    fun ref _ active => absurd active (inactive ref)⟩
  · intro sid ref found
    rw [fresh.aaaSessions] at found
    cases found
  · intro name other pool otherPool address isPool isOther different covers
    exact apart.not_covers isPool isOther different covers
  · exact fun ref session _ found => absurd found (missing ref session)
  · exact fun ref _ session _ _ _ found => absurd found (missing ref session)
  · rintro ref mac sid address ⟨early, call, late, split, _⟩
    rw [fresh.calls] at split
    cases early <;> cases split

/-- Both invariants hold after every run in which addresses are handed out when
none is left behind, and servers and new files keep apart from the pools. -/
theorem tenancy_of_run {start now : Runtime} {past : List (Runtime × Event)} (fresh : start.Fresh)
    (apart : start.aaa.conf.PoolsApart) (run : Run step LeasesSafely start past now) :
    ReferenceInvariant now ∧ Tenancy now := by
  refine @Run.invariant _ _ step LeasesSafely start now past
    (fun runtime => ReferenceInvariant runtime ∧ Tenancy runtime)
    ⟨referenceInvariant_fresh fresh, tenancy_fresh fresh apart⟩ ?_ run
  intro before event after here safe taken
  exact (moves_tenancy safe.2).step sideBlind_tenancy here.1.tables here.1.entered
    (endsOnly_always before event) taken here

/-- In such a run an address comes into use only after VPP was told to delete
every earlier session with it. -/
theorem handsOutFreely_of_run {start now after : Runtime} {past : List (Runtime × Event)}
    {event : Event} (fresh : start.Fresh) (apart : start.aaa.conf.PoolsApart)
    (run : Run step LeasesSafely start past now) (safe : now.LeasesSafely event)
    (taken : step now event = some after) : HandsOutFreely now after := by
  rcases tenancy_of_run fresh apart run with ⟨references, tenancy⟩
  intro name address unused inUse owner mac sid provisioned
  have takes := (moves_takes references.tables safe.1).step sideBlind_tenancy references.tables
    references.entered (endsOnly_always now event) taken (fun _ _ old => .inl old) name address inUse
  rcases takes.resolve_left unused with ⟨vacated, offered⟩
  have nonzero : address ≠ 0 := fun zero => vacated.1 (zero ▸ offered)
  rcases tenancy.placed owner mac sid address provisioned with ⟨session, placed⟩
  rcases placed.backed with ⟨vrf, _, number, record, isRecord, equal, _⟩ | ⟨live, ended, isAddress, known⟩
  · rcases Option.bind_eq_some_iff.mp isRecord with ⟨entry, isEntry, there⟩
    have own : record.address = address := (Prod.mk.inj equal).1
    have free := tenancy.exclusive.held entry record (tenancy.exclusive.alive number entry isEntry)
      there (own ▸ nonzero)
    rw [own] at free
    exact free offered
  · have inactive : now.isActive owner = false :=
      Bool.eq_false_iff.mpr (fun active => ended ((isActive_iff now owner).mp active))
    have free := vacated.2 owner (Heap.lt_length_of_deref placed.present) live inactive session
      placed.present known
    rw [isAddress] at free
    exact free offered

/-- A second subscriber gets as far as LCP. -/
def secondSubscriber : List Event := connect (sampleLink 2) ++ openLcp (sampleLink 2) 2

/-- The daemon when the first subscriber left ten echo requests without an answer
before the second one came. -/
def afterSilence : Runtime :=
  Foundation.after step (sampleDaemon [.none] papPolicy)
    (establish ++
      (List.replicate 10 [{ input := .echoExpires 0 }, { input := .echoTimer 0 0 }]).flatten ++
      secondSubscriber)
    (by decide +kernel)

/-- The daemon when the first subscriber has disconnected, and the wait of his
echo timer has not been handled. -/
def afterDisconnect : Runtime :=
  Foundation.after step (sampleDaemon [.none] papPolicy)
    (establish ++ discoveryEvent (sampleLink 1) PPPOECode.padt 1 :: secondSubscriber)
    (by decide +kernel)

/-- The address of a subscriber who has fallen silent is handed out again, after
VPP was told to delete his session. -/
theorem handsOutFreely_after_silence : ∃ past after,
    Run step LeasesSafely (sampleDaemon [.none] papPolicy) past afterSilence ∧
      step afterSilence (papRequest (sampleLink 2) 2) = some after ∧
      after.aaa.InUse (ascii "p") 10 ∧ HandsOutFreely afterSilence after := by
  have run : ∃ past, Run step LeasesSafely (sampleDaemon [.none] papPolicy) past afterSilence :=
    run_after _ _ _ _ _ (by decide +kernel)
  rcases run with ⟨past, run⟩
  have requested : (step afterSilence (papRequest (sampleLink 2) 2)).any
      (fun after => decide (after.aaa.InUse (ascii "p") 10)) = true := by decide +kernel
  rcases (Option.any_eq_true _ _).mp requested with ⟨after, taken, inUse⟩
  exact ⟨past, after, run, taken, of_decide_eq_true inUse,
    handsOutFreely_of_run (fresh_sampleDaemon [.none] papPolicy) (by decide +kernel) run
      (by decide +kernel) taken⟩

/-- The address of a subscriber who has disconnected is handed out while VPP
still has his session. -/
theorem address_of_held_session :
    ¬ forall (past : List (Runtime × Event)) (now after : Runtime) (event : Event),
      Run step anyStep (sampleDaemon [.none] papPolicy) past now -> step now event = some after ->
        HandsOutFreely now after := by
  intro claim
  rcases reachable_after step (sampleDaemon [.none] papPolicy) _
    (show (execute step (sampleDaemon [.none] papPolicy) (establish ++
      discoveryEvent (sampleLink 1) PPPOECode.padt 1 :: secondSubscriber)).isSome = true by
        decide +kernel) with ⟨past, run⟩
  have unused : ¬ afterDisconnect.aaa.InUse (ascii "p") 10 := by decide +kernel
  have requested : (step afterDisconnect (papRequest (sampleLink 2) 2)).any
      (fun after => decide (after.aaa.InUse (ascii "p") 10)) = true := by decide +kernel
  rcases (Option.any_eq_true _ _).mp requested with ⟨after, taken, inUse⟩
  refine claim past afterDisconnect after _ run taken (ascii "p") 10 unused
    (of_decide_eq_true inUse) 0 ⟨2, 0, 0, 0, 1, 1⟩ 1 ?_
  exact ⟨[], ⟨.addDelSession 0 ⟨2, 0, 0, 0, 1, 1⟩ 1 10 0 true, true⟩, [], by decide +kernel,
    by decide, fun _ member => absurd member List.not_mem_nil⟩

end Runtime

end Pppcpd
