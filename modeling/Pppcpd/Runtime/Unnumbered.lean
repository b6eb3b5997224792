import Pppcpd.Runtime.Echo
import Pppcpd.Runtime.Moves
import Pppcpd.Vpp.Exchanges

namespace Pppcpd

open Foundation

/-!
# Unnumbered entries at the end of a session

The destructor of a session removes the unnumbered entries that VPP lists for
its interface.  A session without an interface has the index ~0, and to that VPP
answers with the entries of all interfaces.  As long as every session that is
destroyed has an interface, or VPP has no entry, only entries of its own go.
-/

/-- The identity of a session and its interface. -/
def located (session : PPPOESession) : PPPOEKey × UInt32 := (session.key, session.ifindex)

theorem ipcpBlind_located : IpcpBlind located := by
  intro first second same
  have parts := congrArg located same
  exact parts

theorem authBlind_located : AuthBlind located :=
  .of_outside (by
    intro first second same
    have parts := congrArg located same
    exact parts) (fun _ _ => rfl)

theorem sideBlind_located : SideBlind located where
  lcp := ⟨fun first second same => by
    have parts := congrArg located same
    exact parts, fun _ => rfl⟩
  opens := .of_ipcp ipcpBlind_located (fun _ _ => rfl)
  timer := fun _ _ => rfl
  named := fun _ _ => rfl

/-- The interface of a session object, as VPP has it. -/
def PPPOESession.interface (ref : Nat) (session : PPPOESession) : Interface :=
  ⟨session.ifindex, some (ref, session.encap.sourceMac, session.sessionId)⟩

theorem interface_of_located {first second : PPPOESession} (same : located first = located second)
    (ref : Nat) : first.interface ref = second.interface ref := by
  have parts := Prod.mk.inj same
  have mac : first.encap.sourceMac = second.encap.sourceMac := congrArg PPPOEKey.mac parts.1
  have sid : first.sessionId = second.sessionId := congrArg PPPOEKey.sessionId parts.1
  unfold PPPOESession.interface
  rw [parts.2, mac, sid]

namespace Runtime

/-- VPP has an interface for the session, or neither an unnumbered entry nor a
session with its hardware address and id. -/
def LeavesOthers (units : Plane) (runtime : Runtime) (session : PPPOESession) : Prop :=
  session.ifindex ≠ uint32Max ∨ (runtime.vpp.plane units).unnumbered = [] ∧
    ∀ interface ∈ (runtime.vpp.plane units).interfaces,
      ¬ interface.Serves session.encap.sourceMac session.sessionId

/-- So it is for every session that the event destroys: one that it ends and that
has no wait left, and an ended one of whose waits it handles the last. -/
def DestroysKnown (units : Plane) (runtime : Runtime) (event : Event) : Prop :=
  EndsOnly (fun _ session => session.timer = [] -> runtime.LeavesOthers units session) runtime event ∧
    match event.input with
    | .echoTimer ref index => runtime.isActive ref = false ->
        ∀ session ∈ runtime.sessions.deref ref, session.timer.eraseIdx index = [] ->
          runtime.LeavesOthers units session
    | _ => True

instance (units : Plane) (runtime : Runtime) (session : PPPOESession) :
    Decidable (runtime.LeavesOthers units session) :=
  inferInstanceAs (Decidable (_ ∨ _ ∧ _))

instance (units : Plane) (runtime : Runtime) (event : Event) :
    Decidable (runtime.DestroysKnown units event) := by
  have ends : Decidable (EndsOnly (fun _ session => session.timer = [] ->
      runtime.LeavesOthers units session) runtime event) := inferInstance
  match event with
  | ⟨env, input⟩ =>
    induction input using Input.casesOn <;> unfold DestroysKnown <;> infer_instance

/-! ## The invariant -/

/-- Only own entries were removed, and every live session object with an index
has the interface of that index. -/
structure Placing (units : Plane) (runtime : Runtime) : Prop where
  removes : units.RemovesOwn runtime.vpp.exchanges
  distinct : (runtime.vpp.plane units).Distinct
  placed : forall ref session, runtime.sessions.isAlive ref = true ->
    runtime.sessions.deref ref = some session -> session.ifindex ≠ uint32Max ->
      session.interface ref ∈ (runtime.vpp.plane units).interfaces

section

variable {units : Plane}

theorem Placing.of_kept {before after : Runtime} (placing : Placing units before)
    (kept : Kept located before after) (untouched : Untouched before after) :
    Placing units after := by
  have same := untouched.vpp
  refine ⟨same ▸ placing.removes, same ▸ placing.distinct, ?_⟩
  intro ref session alive present index
  rw [untouched.alive] at alive
  rcases kept.symm.session present with ⟨old, was, equal⟩
  rw [← interface_of_located equal, same]
  refine placing.placed ref old alive was ?_
  rw [(Prod.mk.inj equal).2]
  exact index

/-- VPP loses interfaces and entries, but gets none. -/
structure Loses (units : Plane) (before after : Runtime) : Prop where
  lawful : units.Lawful after.vpp.exchanges -> units.Lawful before.vpp.exchanges
  interfaces : ∀ interface ∈ (after.vpp.plane units).interfaces,
    interface ∈ (before.vpp.plane units).interfaces
  unnumbered : (before.vpp.plane units).unnumbered = [] -> (after.vpp.plane units).unnumbered = []

theorem Loses.of_same {before after : Runtime} (same : after.vpp = before.vpp) :
    Loses units before after := by
  refine ⟨?_, ?_, ?_⟩
  · rw [same]
    exact id
  · rw [same]
    exact fun _ member => member
  · rw [same]
    exact id

theorem LeavesOthers.of_loses {before after : Runtime} {session : PPPOESession}
    (leaves : before.LeavesOthers units session) (loses : Loses units before after) :
    after.LeavesOthers units session :=
  leaves.imp_right (fun both =>
    ⟨loses.unnumbered both.1, fun interface member => both.2 interface (loses.interfaces interface member)⟩)

theorem LeavesOthers.of_located {runtime : Runtime} {old session : PPPOESession}
    (leaves : runtime.LeavesOthers units old) (same : located session = located old) :
    runtime.LeavesOthers units session := by
  have parts := Prod.mk.inj same
  have mac : session.encap.sourceMac = old.encap.sourceMac := congrArg PPPOEKey.mac parts.1
  have sid : session.sessionId = old.sessionId := congrArg PPPOEKey.sessionId parts.1
  unfold LeavesOthers at leaves ⊢
  rw [parts.2, mac, sid]
  exact leaves

/-! ## Destructions -/

theorem loses_collect (runtime : Runtime) (ref : Nat) : Loses units runtime (runtime.collect ref) := by
  unfold Runtime.collect
  split
  · exact .of_same rfl
  · split
    · rename_i session _ _
      have loses := @VPP.deprovisionDp_loses units ref session runtime.vpp
      exact ⟨loses.1, loses.2.1, loses.2.2⟩
    · exact .of_same rfl

/-- The destruction of a session object that leaves the others. -/
theorem Placing.collect {runtime : Runtime} (placing : Placing units runtime) {ref : Nat}
    (lawful : units.Lawful (runtime.collect ref).vpp.exchanges)
    (leaves : forall session, runtime.sessions.deref ref = some session ->
      runtime.isActive ref = false -> session.timer = [] -> runtime.LeavesOthers units session) :
    Placing units (runtime.collect ref) := by
  unfold Runtime.collect at lawful ⊢
  cases found : runtime.sessions.deref ref with
  | none => exact placing
  | some session =>
      rw [found] at lawful
      dsimp only at lawful ⊢
      split
      · rename_i last
        rw [if_pos last] at lawful
        have others := leaves session found (Bool.eq_false_iff.mpr last.2.1) last.2.2
        have own := placing.placed ref session last.1 found
        have spares := VPP.plane_deprovisionDp lawful placing.removes placing.distinct own
          (fun unset => (others.resolve_left (absurd unset)).1)
        have loses := @VPP.deprovisionDp_loses units ref session runtime.vpp
        refine ⟨spares.1, placing.distinct.of_subset loses.2.1, ?_⟩
        intro other object alive present index
        dsimp only at alive present
        rw [Heap.isAlive_destroy] at alive
        rw [Heap.deref_destroy] at present
        split at alive
        · cases alive
        · rename_i different
          have there := placing.placed other object alive present index
          refine spares.2 _ there (fun serves => ?_)
          -- VPP has no session twice, so the other object has another one.
          rcases others with known | ⟨_, lacks⟩
          · have same := placing.distinct.sessions _ there _ (own known) _ _ serves rfl
            have owners := congrArg (fun interface => interface.session.map Prod.fst) same
            exact different (Option.some.inj owners)
          · exact lacks _ there serves
      · exact placing

/-- A deallocation does nothing to the data plane, or it is the destruction of
the object that it takes out. -/
theorem deallocateSession_collects {runtime : Runtime} (tables : StoreInvariant runtime)
    (sid : UInt16) :
    (runtime.deallocateSession sid).1 = runtime ∨
      ∃ ref, ∃ erased : Runtime, runtime.target sid = some ref ∧ erased.vpp = runtime.vpp ∧
        erased.sessions = runtime.sessions ∧
          (runtime.deallocateSession sid).1 = (erased.collect ref).releaseId sid := by
  by_cases member : sid ∈ runtime.store.sessionSet
  · rcases deallocateSession_of_mem tables member with
      ⟨key, ref, _, found, registered, unfolded, _⟩
    rcases tables.keyed key ref found with ⟨session, present, _⟩
    refine .inr ⟨ref, { runtime with
      aaa := runtime.aaa.stopSession runtime.counters session.aaaSessionId
      store := { runtime.store with activeSessions := runtime.store.activeSessions.erase key } },
      ?_, rfl, rfl, ?_⟩
    · rw [target, if_pos member, registered]
      rfl
    · rw [unfolded]
      simp only [removeSession, present]
  · rw [deallocateSession_of_not_mem member]
    exact .inl rfl

theorem loses_deallocateSession {runtime : Runtime} (tables : StoreInvariant runtime) (sid : UInt16) :
    Loses units runtime (runtime.deallocateSession sid).1 := by
  rcases deallocateSession_collects tables sid with same | ⟨ref, erased, _, vpp, _, collected⟩
  · rw [same]
    exact .of_same rfl
  · rw [collected]
    have loses : Loses units erased (erased.collect ref) := loses_collect erased ref
    have first : Loses units runtime erased := .of_same vpp
    exact ⟨fun lawful => first.lawful (loses.lawful lawful),
      fun interface member => first.interfaces interface (loses.interfaces interface member),
      fun empty => loses.unnumbered (first.unnumbered empty)⟩

theorem Placing.deallocateSession {runtime : Runtime} (placing : Placing units runtime)
    (tables : StoreInvariant runtime) {sid : UInt16}
    (lawful : units.Lawful (runtime.deallocateSession sid).1.vpp.exchanges)
    (leaves : forall ref session, runtime.target sid = some ref ->
      runtime.sessions.deref ref = some session -> session.timer = [] ->
        runtime.LeavesOthers units session) : Placing units (runtime.deallocateSession sid).1 := by
  rcases deallocateSession_collects tables sid with
    same | ⟨ref, erased, isTarget, vpp, sessions, collected⟩
  · rw [same]
    exact placing
  · rw [collected] at lawful ⊢
    have ready : Placing units erased := by
      refine ⟨vpp ▸ placing.removes, vpp ▸ placing.distinct, ?_⟩
      rw [vpp, sessions]
      exact placing.placed
    have there : Placing units (erased.collect ref) := ready.collect lawful (fun session present _ idle =>
      (leaves ref session isTarget (sessions ▸ present) idle).of_loses (.of_same vpp))
    exact ⟨there.removes, there.distinct, there.placed⟩

/-! ## Configuration -/

/-- The configuration of the data plane places its session. -/
theorem Placing.configured {runtime : Runtime} (placing : Placing units runtime) {ref : Nat}
    {session : PPPOESession} (present : runtime.sessions.deref ref = some session)
    (lawful : units.Lawful (runtime.configured ref session).vpp.exchanges) :
    Placing units (runtime.configured ref session) := by
  rcases VPP.plane_provisionDp lawful placing.removes placing.distinct with
    ⟨removes, distinct, outcome⟩
  refine ⟨removes, distinct, ?_⟩
  intro other object alive isObject index
  have isAlive : runtime.sessions.isAlive other = true := by
    unfold Runtime.configured at alive
    dsimp only at alive
    rw [Heap.isAlive_update] at alive
    exact alive
  have derefs : (runtime.configured ref session).sessions.deref other =
      if other = ref then (runtime.sessions.deref other).map (fun session =>
        { session with ifindex := (runtime.vpp.provisionDp ref session).2.2 })
      else runtime.sessions.deref other := by
    unfold Runtime.configured
    dsimp only
    rw [Heap.deref_update]
    split
    · rename_i here
      rw [here, present]
      rfl
    · rfl
  have placed : ∀ interface ∈ (runtime.vpp.plane units).interfaces,
      interface ∈ ((runtime.vpp.provisionDp ref session).1.plane units).interfaces := by
    intro interface member
    rcases outcome with ⟨same, _⟩ | added
    · rw [same]
      exact member
    · rw [added]
      exact List.mem_cons_of_mem _ member
  rw [derefs] at isObject
  split at isObject
  · rename_i here
    rw [here, present] at isObject
    rw [here] at isAlive ⊢
    rw [← Option.some.inj isObject] at index ⊢
    rcases outcome with ⟨_, same⟩ | added
    · refine placed _ ?_
      have own := placing.placed ref session isAlive present (same ▸ index)
      unfold PPPOESession.interface at own ⊢
      dsimp only
      rw [same]
      exact own
    · have new : ((runtime.configured ref session).vpp.plane units).interfaces = _ := added
      rw [new]
      exact List.mem_cons_self
  · exact placed _ (placing.placed other object isAlive isObject index)

/-! ## Steps of the daemon -/

/-- What goes on but the ticks of the echo timer. -/
theorem moves_placing {now : Runtime} {event : Event} (tables : StoreInvariant now)
    (noTick : forall ref index, event.input ≠ .echoTimer ref index) :
    Moves located (fun _ session => session.timer = [] -> now.LeavesOthers units session) now event
      (fun runtime => units.Lawful runtime.vpp.exchanges -> Placing units runtime) where
  plain := by
    intro before after plain here lawful
    rw [plain.untouched.vpp] at lawful
    exact (here lawful).of_kept plain.kept plain.untouched
  allocates := by
    intro before encap result plain allocated here
    have keyed := (plain.kept.map Prod.fst).invariant tables
    rcases allocateSession_cases keyed event.env encap allocated with full | ⟨id, _, _, entered⟩
    · rw [full]
      exact here
    · rw [entered]
      intro lawful
      have placing := here lawful
      refine ⟨placing.removes, placing.distinct, ?_⟩
      intro ref session alive present index
      dsimp only at alive present
      rw [Heap.deref_make] at present
      rw [Heap.isAlive_make] at alive
      split at present
      · rw [← Option.some.inj present] at index
        exact absurd rfl index
      · rename_i old
        rw [if_neg old] at alive
        exact placing.placed ref session alive present index
  ends := by
    intro before sid plain ending here lawful
    have keyed := (plain.kept.map Prod.fst).invariant tables
    have placing := here ((loses_deallocateSession keyed sid).lawful lawful)
    refine placing.deallocateSession keyed lawful (fun ref session isTarget present idle => ?_)
    rcases ending ref session isTarget present with ⟨old, same, timers, leaves⟩
    exact ((leaves (timers ▸ idle)).of_loses (.of_same plain.untouched.vpp)).of_located same
  collects := fun before ref index input _ => absurd input (noTick ref index)
  calls := by
    intro before aaaEvent outcome callback _ _ _ _ here lawful
    have untouched := Untouched.withCalls before outcome
    rw [untouched.vpp] at lawful
    exact (here lawful).of_kept (kept_withCalls authBlind_located before outcome) untouched
  quiet := fun _ _ _ _ _ here lawful =>
    (here lawful).of_kept (.of_same rfl rfl) (.of_same rfl rfl)
  answers := by
    intro packet ref session out isPacket here lawful
    have same : located out.session = located session :=
      ipcpBlind_located _ _ ((ipcpFsm_leaves _).receive isPacket.received)
    exact (here lawful).of_kept (kept_apply out isPacket.present same) (.apply _ ref out)
  configures := by
    intro packet ref session out isPacket _ _ here lawful
    have placing := here (VPP.lawful_of_provisionDp lawful)
    exact placing.configured (deref_apply_self isPacket.present out) lawful

/-- A tick ends the session of its id, and destroys its own object when that was
its last holder. -/
theorem placing_echoTimer {now after : Runtime} {env : Env} {ref index : Nat}
    (tables : StoreInvariant now)
    (safe : now.DestroysKnown units { env := env, input := .echoTimer ref index })
    (fired : now.echoTimer env ref index = some after)
    (placing : units.Lawful now.vpp.exchanges -> Placing units now)
    (lawful : units.Lawful after.vpp.exchanges) : Placing units after := by
  have popKept : Kept located now (now.popEcho ref index) :=
    kept_update now ref _ (fun _ => rfl)
  have popUntouched : Untouched now (now.popEcho ref index) := .update now ref _
  rcases echoTimer_cases fired with ⟨session, found, ⟨expired, handled⟩ | ⟨_, aborted⟩⟩
  · have there := deref_popEcho found index
    rcases sendEchoReq_cases env there with ⟨out, counted, outcome⟩
    have appliedKept : Kept located now ((now.popEcho ref index).apply ref out) :=
      popKept.trans (kept_countEcho there counted rfl)
    have appliedUntouched : Untouched now ((now.popEcho ref index).apply ref out) :=
      popUntouched.trans (.apply _ ref out)
    have ready := (appliedKept.map Prod.fst).invariant tables
    have applied : units.Lawful now.vpp.exchanges ->
        Placing units ((now.popEcho ref index).apply ref out) :=
      fun earlier => (placing earlier).of_kept appliedKept appliedUntouched
    have own : ((now.popEcho ref index).apply ref out).sessions.deref ref =
        some (countEcho { session with timer := session.timer.eraseIdx index }) := by
      rw [deref_apply_self there, counted]
    rw [handled] at lawful ⊢
    rcases outcome with ⟨silent, _, ended⟩ | ⟨_, again⟩
    · rw [ended] at lawful ⊢
      have last := (loses_collect _ ref).lawful lawful
      have loses : Loses units ((now.popEcho ref index).apply ref out) _ :=
        loses_deallocateSession ready session.sessionId
      have first := loses.lawful last
      -- What the end asks of its target, seen once the tick was counted.
      have target : forall other object,
          ((now.popEcho ref index).apply ref out).target session.sessionId = some other ->
            ((now.popEcho ref index).apply ref out).sessions.deref other = some object ->
              object.timer = [] ->
                ((now.popEcho ref index).apply ref out).LeavesOthers units object := by
        intro other object isTarget present idle
        have keyed : Kept PPPOESession.key (now.popEcho ref index)
            ((now.popEcho ref index).apply ref out) := kept_countEcho there counted rfl
        rw [target_of_kept keyed] at isTarget
        have leaves : forall old, (now.popEcho ref index).sessions.deref other = some old ->
            old.timer = [] -> now.LeavesOthers units old :=
          fun old was => safe.1 session found expired silent other isTarget old was
        by_cases here : other = ref
        · rw [here, own] at present
          rw [← Option.some.inj present] at idle ⊢
          rw [here] at leaves
          exact ((leaves _ there idle).of_loses (.of_same appliedUntouched.vpp)).of_located rfl
        · rw [deref_apply_of_ne _ here] at present
          exact (leaves object present idle).of_loses (.of_same appliedUntouched.vpp)
      have middle := (applied (appliedUntouched.vpp ▸ first)).deallocateSession ready last target
      refine middle.collect lawful (fun object present inactive idle => ?_)
      rw [deref_deallocateSession, own] at present
      have isObject := Option.some.inj present
      by_cases active : now.store.activeSessions.Holds ref
      · -- The tick has just ended its own session.
        have isTarget : ((now.popEcho ref index).apply ref out).target session.sessionId =
            some ref := by
          by_contra other
          have still := (holds_deallocateSession ready session.sessionId ref).mpr
            ⟨appliedKept.active ▸ active, other⟩
          rw [(isActive_iff _ ref).mpr still] at inactive
          cases inactive
        exact (target ref object isTarget (own.trans present) idle).of_loses loses
      · have gone : now.isActive ref = false :=
          Bool.eq_false_iff.mpr (fun isActive => active ((isActive_iff now ref).mp isActive))
        have leaves := safe.2 gone session found (by rw [← isObject] at idle; exact idle)
        rw [← isObject]
        exact ((leaves.of_loses (.of_same appliedUntouched.vpp)).of_loses loses).of_located rfl
    · rw [again] at lawful ⊢
      have last := (loses_collect _ ref).lawful lawful
      have started : Placing units (((now.popEcho ref index).apply ref out).startEcho ref) :=
        (applied (appliedUntouched.vpp ▸ last)).of_kept
          (kept_update _ ref _ (fun _ => rfl)) (.update _ ref _)
      refine started.collect lawful (fun object present _ idle => ?_)
      unfold Runtime.startEcho at present
      dsimp only at present
      rw [Heap.deref_update, if_pos rfl, own] at present
      rw [← Option.some.inj present] at idle
      exact absurd idle (List.append_ne_nil_of_right_ne_nil _ (List.cons_ne_nil _ _))
  · rw [aborted] at lawful ⊢
    have last := (loses_collect _ ref).lawful lawful
    have popped := (placing (popUntouched.vpp ▸ last)).of_kept popKept popUntouched
    refine popped.collect lawful (fun object present inactive idle => ?_)
    rw [deref_popEcho found index] at present
    have isObject := Option.some.inj present
    have gone : now.isActive ref = false := inactive
    have leaves := safe.2 gone session found (by rw [← isObject] at idle; exact idle)
    rw [← isObject]
    exact (leaves.of_loses (.of_same popUntouched.vpp)).of_located rfl

/-- The daemon keeps the invariant with every step that destroys only sessions
with an interface, as long as VPP replies lawfully. -/
theorem placing_step {now after : Runtime} {event : Event} (references : ReferenceInvariant now)
    (safe : now.DestroysKnown units event) (taken : step now event = some after)
    (placing : units.Lawful now.vpp.exchanges -> Placing units now)
    (lawful : units.Lawful after.vpp.exchanges) : Placing units after := by
  by_cases tick : ∃ ref index, event.input = .echoTimer ref index
  · rcases tick with ⟨ref, index, input⟩
    rcases event with ⟨env, eventInput⟩
    dsimp only at input
    rw [input] at safe taken
    exact placing_echoTimer references.tables safe taken placing lawful
  · have noTick : forall ref index, event.input ≠ .echoTimer ref index :=
      fun ref index input => tick ⟨ref, index, input⟩
    exact (moves_placing references.tables noTick).step sideBlind_located references.tables
      references.entered safe.1 taken placing lawful

/-! ## Runs -/

/-- VPP has the interfaces of the configuration at the start, each once. -/
def ConfiguredOnly (units : Plane) : Prop := ∀ interface ∈ units.interfaces, interface.session = none

instance (units : Plane) : Decidable (ConfiguredOnly units) :=
  inferInstanceAs (Decidable (∀ interface ∈ units.interfaces, interface.session = none))

theorem placing_fresh {start : Runtime} (fresh : start.Fresh) (configured : ConfiguredOnly units) :
    Placing units start := by
  have noCalls : start.vpp.exchanges = [] := by
    unfold VPP.exchanges
    rw [fresh.calls]
    rfl
  have plane : start.vpp.plane units = units := by
    unfold VPP.plane
    rw [noCalls]
    rfl
  have distinct : units.Distinct := by
    constructor
    · intro first isFirst second isSecond same
      rcases first with ⟨index, session⟩
      rcases second with ⟨other, otherSession⟩
      have isNone : session = none := configured ⟨index, session⟩ isFirst
      have isOther : otherSession = none := configured ⟨other, otherSession⟩ isSecond
      rw [isNone, isOther]
      exact congrArg (fun index => Interface.mk index none) same
    · intro first isFirst _ _ mac sid serves
      unfold Interface.Serves at serves
      rw [configured first isFirst] at serves
      cases serves
  refine ⟨by rw [noCalls]; trivial, by rw [plane]; exact distinct, ?_⟩
  intro ref session _ present
  rw [fresh.sessions] at present
  cases present

/-- In a run in which every session that is destroyed has an interface, or VPP
has no entry, only entries of the interface of the destroyed session are
removed. -/
theorem removesOwn_of_run {start now : Runtime} {past : List (Runtime × Event)} (fresh : start.Fresh)
    (configured : ConfiguredOnly units) (run : Run step (DestroysKnown units) start past now)
    (lawful : units.Lawful now.vpp.exchanges) : units.RemovesOwn now.vpp.exchanges := by
  have both := @Run.invariant _ _ step (DestroysKnown units) start now past
    (fun runtime => ReferenceInvariant runtime ∧
      (units.Lawful runtime.vpp.exchanges -> Placing units runtime))
    ⟨referenceInvariant_fresh fresh, fun _ => placing_fresh fresh configured⟩
    (fun before event after here safe taken =>
      ⟨referenceInvariant_step here.1 taken, placing_step here.1 safe taken here.2⟩) run
  exact (both.2 lawful).removes

end

/-! ## A session without an interface -/

/-- A unit with an address, and another one that borrows it. -/
def sampleUnits : Plane where
  interfaces := [⟨7, none⟩, ⟨8, none⟩]
  unnumbered := [(8, 7)]

/-- A daemon whose RADIUS subscribers establishAccepted the address of the first unit.  VPP
gives the index 5 to the first session, and answers its first dump of entries
with the given ones. -/
def borrowing (entries : List (UInt32 × UInt32)) : Runtime :=
  let replies : List VPPReply :=
    [{ swIfIndex := 5 }, { ifaces := [(ascii "u", 7)] }, {}, { unnumbered := entries }]
  boot { pppoeTemplates := (∅ : Table Bytes PPPOELocalTemplate).insert (ascii "t")
           { framedPool := ascii "p", unnumbered := ascii "u" }
         aaaConf := AAA.sampleConf [.radius] } papPolicy AAA.sampleSecret ⟨2, 0, 0, 0, 0, 1⟩ MD5.digest
    (fun number => replies.getD number {})

theorem fresh_borrowing (entries : List (UInt32 × UInt32)) : (borrowing entries).Fresh :=
  fresh_boot (AAA.sampleConf_decoded [.radius]) _ _ _ _ _

/-- The daemon after the session was destroyed. -/
def returned : Runtime :=
  Foundation.after step (borrowing [(5, 7)]) (establishAccepted ++ silence) (by decide +kernel)

/-- The session that borrowed an address takes its own entry along. -/
theorem removesOwn_at_returned :
    ∃ past, Run step (DestroysKnown sampleUnits) (borrowing [(5, 7)]) past returned ∧
      (returned.vpp.plane sampleUnits).unnumbered = [(8, 7)] ∧
      sampleUnits.RemovesOwn returned.vpp.exchanges := by
  have run : ∃ past, Run step (DestroysKnown sampleUnits) (borrowing [(5, 7)]) past returned :=
    run_after _ _ _ _ _ (by decide +kernel)
  have lawful : decide (sampleUnits.Lawful returned.vpp.exchanges) = true := by decide +kernel
  have left : (returned.vpp.plane sampleUnits).unnumbered = [(8, 7)] := by decide +kernel
  have configured : ConfiguredOnly sampleUnits := by decide +kernel
  rcases run with ⟨past, run⟩
  generalize returned = now at run lawful left ⊢
  exact ⟨past, run, left,
    removesOwn_of_run (fresh_borrowing _) configured run (of_decide_eq_true lawful)⟩

/-- While that session is up, another subscriber connects and leaves before its
session is provisioned. -/
def passedBy : Runtime :=
  Foundation.after step (borrowing [(5, 7), (8, 7)])
    (establishAccepted ++ connect (sampleLink 2) ++ [discoveryEvent (sampleLink 2) PPPOECode.padt 2])
    (by decide +kernel)

/-- The entry of a configured unit is removed, and that of the session that is
up. -/
theorem padt_removes_foreign_entries :
    ¬ forall (units : Plane) (past : List (Runtime × Event)) (now : Runtime), ConfiguredOnly units ->
      Run step anyStep (borrowing [(5, 7), (8, 7)]) past now -> units.Lawful now.vpp.exchanges ->
        units.RemovesOwn now.vpp.exchanges := by
  intro claim
  have run : ∃ past, Run step anyStep (borrowing [(5, 7), (8, 7)]) past passedBy :=
    run_after _ _ _ _ _ (permitted_anyStep _ _ _)
  have lawful : decide (sampleUnits.Lawful passedBy.vpp.exchanges) = true := by decide +kernel
  have configured : ConfiguredOnly sampleUnits := by decide +kernel
  have foreign : decide (sampleUnits.RemovesOwn passedBy.vpp.exchanges) = false := by
    decide +kernel
  rcases run with ⟨past, run⟩
  generalize passedBy = now at run lawful foreign
  exact of_decide_eq_false foreign
    (claim sampleUnits past now configured run (of_decide_eq_true lawful))

end Runtime

end Pppcpd
