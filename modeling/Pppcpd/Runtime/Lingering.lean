import Pppcpd.Runtime.Newcomer
import Pppcpd.Runtime.Unnumbered

namespace Pppcpd

open Foundation Discovery

/-!
# Sessions that linger

A session leaves `activeSessions` for three reasons only: a PADT with its id, an LCP
packet of its own that takes LCP out of Opened, and the tenth tick of an echo timer
without an answer.  The echo timer is started when IPCP opens, and nothing else
watches a session.  So a session whose subscriber has fallen silent before that holds
its id for good, and a daemon whose ids are all held so never serves anybody again.
-/

namespace Runtime

variable {key : PPPOEKey} {ref : Nat} {now after : Runtime} {event : Event}

/-- What takes a session out of the active ones.  The tick may be one of another
object, which had the same id before. -/
inductive Ends (key : PPPOEKey) (ref : Nat) (now : Runtime) (event : Event) : Prop
  | disconnect {encap : Encapsulation} {packet : Packet} :
      event.input = .discovery encap packet -> packet.pppoeCode = PPPOECode.padt ->
      packet.pppoeSessionId = key.sessionId -> Ends key ref now event
  | closes {encap : Encapsulation} {packet : Packet} {session : PPPOESession} :
      event.input = .session encap packet -> packet.pppProtocol = PPPProto.lcp ->
      frameKey encap packet = key -> now.sessions.deref ref = some session ->
      session.lcp.state = .opened -> (now.lcpFsm event.env).leavesOpened session packet ->
      Ends key ref now event
  | silence {other index : Nat} {session : PPPOESession} : event.input = .echoTimer other index ->
      now.sessions.deref other = some session -> session.timer[index]? = some .expired ->
      9 < session.lcp.echoCounter + 1 -> session.sessionId = key.sessionId -> Ends key ref now event

/-- The id of a target is the one that was looked for. -/
theorem sessionId_of_target (tables : StoreInvariant now) (lives : Lives key ref now) {sid : UInt16}
    (isTarget : now.target sid = some ref) : sid = key.sessionId := by
  have member : sid ∈ now.store.sessionSet := by
    by_contra absent
    rw [target, if_neg absent] at isTarget
    cases isTarget
  rcases deallocateSession_of_mem tables member with ⟨other, goneRef, isId, found, registered, _⟩
  rw [target, if_pos member, registered] at isTarget
  have same : goneRef = ref := Option.some.inj isTarget
  have isKey : other = key := key_eq_of_holds tables (same ▸ found) lives
  rw [← isId, isKey]

/-- Where none of the reasons is given, no session object that the event ends is this
one. -/
theorem endsOnly_of_not_ends (tables : StoreInvariant now) (lives : Lives key ref now)
    (spared : ¬ Ends key ref now event) : EndsOnly (fun other _ => other ≠ ref) now event := by
  rcases event with ⟨env, input⟩
  cases input with
  | discovery encap packet =>
      intro padt other isTarget _ _ same
      exact spared (.disconnect rfl padt (sessionId_of_target tables lives (same ▸ isTarget)))
  | session encap packet =>
      intro isLcp other registered session present opened leaves same
      rw [same] at registered present
      exact spared (.closes rfl isLcp (key_eq_of_holds tables registered lives) present opened leaves)
  | echoTimer other index =>
      intro session present expired silent target isTarget _ _ same
      refine spared (.silence rfl present expired silent ?_)
      have keyed := kept_popEcho timerBlind_key now other index
      have still : Lives key ref (now.popEcho other index) := lives
      exact sessionId_of_target (keyed.invariant tables) still (same ▸ isTarget)
  | _ => trivial

theorem lives_deallocateSession {sid : UInt16} (tables : StoreInvariant now)
    (lives : Lives key ref now) (other : now.target sid ≠ some ref) :
    Lives key ref (now.deallocateSession sid).1 := by
  by_cases member : sid ∈ now.store.sessionSet
  · rcases deallocateSession_of_mem tables member with ⟨gone, goneRef, _, found, registered, _, store⟩
    have different : key ≠ gone := by
      intro same
      have isRef := Option.some.inj (lives.symm.trans (same ▸ found))
      exact other (by rw [target, if_pos member, registered, isRef]; rfl)
    unfold Lives
    rw [store, Table.lookup_erase_eq, if_neg different]
    exact lives
  · rw [deallocateSession_of_not_mem member]
    exact lives

theorem lives_allocateSession {env : Env} {encap : Encapsulation}
    {result : Runtime × UInt16 × Option String} (tables : StoreInvariant now)
    (lives : Lives key ref now) (allocated : now.allocateSession env encap = some result) :
    Lives key ref result.1 := by
  rcases allocateSession_cases tables env encap allocated with full | ⟨id, free, _, entered⟩
  · rw [full]
    exact lives
  · have different : key ≠ .ofEncap encap id := by
      intro same
      exact key_not_mem_of_free tables encap free (Table.mem_iff_lookup.mpr ⟨ref, same ▸ lives⟩)
    rw [entered]
    exact (AList.lookup_insert_ne different).trans lives

theorem lives_of_active (lives : Lives key ref now)
    (active : after.store.activeSessions = now.store.activeSessions) : Lives key ref after := by
  unfold Lives
  rw [active]
  exact lives

theorem moves_lives (tables : StoreInvariant now) :
    Moves located (fun other _ => other ≠ ref) now event (Lives key ref) where
  plain := fun _ _ plain here => lives_of_active here plain.kept.active
  allocates := fun _ _ _ plain allocated here =>
    lives_allocateSession ((plain.kept.map Prod.fst).invariant tables) here allocated
  ends := by
    intro before sid plain ends here
    have ready := (plain.kept.map Prod.fst).invariant tables
    refine lives_deallocateSession ready here (fun isTarget => ?_)
    rcases ready.keyed key ref here with ⟨session, present, _⟩
    rcases ends ref session isTarget present with ⟨_, _, _, other⟩
    exact other rfl
  collects := fun before other _ _ here =>
    lives_of_active here (show Kept located before (before.collect other) from kept_collect before other).active
  calls := fun before _ outcome _ _ _ _ _ here =>
    lives_of_active here (kept_withCalls authBlind_key before outcome).active
  quiet := fun _ _ _ _ _ here => here
  answers := fun _ _ _ _ _ here => here
  configures := fun _ _ _ _ _ _ _ here => here

theorem lives_step (references : ReferenceInvariant now) (lives : Lives key ref now)
    (spared : ¬ Ends key ref now event) (taken : step now event = some after) : Lives key ref after :=
  (moves_lives references.tables).step sideBlind_located references.tables references.entered
    (endsOnly_of_not_ends references.tables lives spared) taken lives

/-- In every run from a reachable state, a session that is no longer active has left for
one of the three reasons, while it was active. -/
theorem session_ends_only_so {start later : Runtime} {past : List (Runtime × Event)}
    (fresh : start.Fresh) (reached : Reachable happen start now)
    (run : Run step anyStep now past later) (lives : Lives key ref now)
    (gone : ¬ Lives key ref later) :
    ∃ taken ∈ past, Lives key ref taken.1 ∧ Ends key ref taken.1 taken.2 := by
  have invariant := @Run.invariantPast _ _ step anyStep now later past
    (fun past current => ReferenceInvariant current ∧ (Lives key ref current ∨
      ∃ taken ∈ past, Lives key ref taken.1 ∧ Ends key ref taken.1 taken.2))
    ⟨referenceInvariant_of_reachable fresh reached, .inl lives⟩ ?_ run
  · exact invariant.2.resolve_left gone
  · intro past current event after here _ taken
    refine ⟨referenceInvariant_step here.1 taken, ?_⟩
    rcases here.2 with active | ⟨earlier, member, ended⟩
    · by_cases ends : Ends key ref current event
      · exact .inr ⟨_, List.mem_cons_self, active, ends⟩
      · exact .inl (lives_step here.1 active ends taken)
    · exact .inr ⟨earlier, List.mem_cons_of_mem _ member, ended⟩

/-- A subscriber who is up, and the daemon after his PADT. -/
def settled : Runtime :=
  Foundation.after happen (sampleDaemon [.none] papPolicy) (establish.map .event) (by decide +kernel)

def left : Runtime :=
  Foundation.after step settled [discoveryEvent (sampleLink 1) PPPOECode.padt 1] (by decide +kernel)

theorem session_ends_only_so_at_left : ∃ past, Run step anyStep settled past left ∧
    ∃ taken ∈ past, Lives (.ofEncap (sampleLink 1) 1) 0 taken.1 ∧
      Ends (.ofEncap (sampleLink 1) 1) 0 taken.1 taken.2 := by
  rcases run_after step anyStep settled [discoveryEvent (sampleLink 1) PPPOECode.padt 1]
    (by decide +kernel) (permitted_anyStep step settled _) with ⟨past, run⟩
  exact ⟨past, run, session_ends_only_so (fresh_sampleDaemon [.none] papPolicy)
    (reachable_after _ _ _ _) run (by decide +kernel) (by decide +kernel)⟩

/-! ## Abandoned sessions -/

/-- No echo timer of a session object has a wait. -/
def Dormant (runtime : Runtime) : Prop :=
  forall ref session, runtime.sessions.deref ref = some session -> session.timer = []

/-- The event is no PADT and no packet of an active session. -/
def FromOutside (now : Runtime) (event : Event) : Prop :=
  match event.input with
  | .discovery _ packet => packet.pppoeCode ≠ PPPOECode.padt
  | .session encap packet => now.store.activeSessions.lookup (frameKey encap packet) = none
  | _ => True

theorem Dormant.of_kept (dormant : Dormant now) (kept : Kept PPPOESession.timer now after) :
    Dormant after := by
  intro ref session found
  rcases kept.symm.session found with ⟨old, present, same⟩
  exact same.symm.trans (dormant ref old present)

theorem Dormant.allocateSession {env : Env} {encap : Encapsulation}
    {result : Runtime × UInt16 × Option String} (dormant : Dormant now) (tables : StoreInvariant now)
    (allocated : now.allocateSession env encap = some result) : Dormant result.1 := by
  rcases allocateSession_cases tables env encap allocated with full | ⟨id, _, _, entered⟩
  · rw [full]
    exact dormant
  · rw [entered]
    intro ref session found
    rcases Heap.deref_make_cases found with ⟨_, made⟩ | ⟨_, old⟩
    · rw [made]
      rfl
    · exact dormant ref session old

/-- A session is allocated after a pending session was consumed. -/
def Redeems (now after : Runtime) : Prop :=
  ∃ env encap conn result, (now.checkSession conn).1.allocateSession env encap = some result ∧
    after.store = result.1.store

/-- Nothing from outside starts an echo timer, and it touches the tables only by
allocating a session. -/
theorem outside_step (dormant : Dormant now) (tables : StoreInvariant now)
    (outside : FromOutside now event) (taken : step now event = some after) :
    Dormant after ∧ (Kept PPPOESession.key now after ∨ Redeems now after) := by
  have quiet {middle : Runtime} (keyed : Kept PPPOESession.key now middle)
      (timed : Kept PPPOESession.timer now middle) :
      Dormant middle ∧ (Kept PPPOESession.key now middle ∨ Redeems now middle) :=
    ⟨dormant.of_kept timed, .inl keyed⟩
  have same {middle : Runtime} (store : middle.store = now.store)
      (sessions : middle.sessions = now.sessions) :
      Dormant middle ∧ (Kept PPPOESession.key now middle ∨ Redeems now middle) :=
    quiet (.of_same store sessions) (.of_same store sessions)
  rcases event with ⟨env, input⟩
  cases input with
  | discovery encap packet =>
      rcases Option.map_eq_some_iff.mp taken with ⟨⟨_, err⟩, processed, equal⟩
      rw [← equal]
      rcases processPPPOE_cases processed with ⟨_, before, queue, queued, handled⟩ | ⟨padt, _⟩
      · have there : Dormant before ∧ (Kept PPPOESession.key now before ∨ Redeems now before) := by
          rcases handled with unmoved | ⟨conn, pended⟩ | ⟨conn, checked⟩ | ⟨conn, result, allocated, entered⟩
          · rw [unmoved]
            exact same rfl rfl
          · rw [pended]
            exact quiet (kept_pendeSession now conn) (kept_pendeSession now conn)
          · rw [checked]
            exact quiet (kept_checkSession now conn) (kept_checkSession now conn)
          · have keyed : Kept PPPOESession.key now (now.checkSession conn).1 :=
              kept_checkSession now conn
            rw [entered]
            exact ⟨(dormant.of_kept (kept_checkSession now conn)).allocateSession
              (keyed.invariant tables) allocated, .inr ⟨env, encap, conn, result, allocated, rfl⟩⟩
        rw [show _ = _ from queued]
        exact there.imp (fun asleep => asleep) (fun either =>
          either.imp (fun kept => kept.trans (.of_same rfl rfl)) (fun redeems => redeems))
      · exact absurd padt outside
  | session encap packet =>
      rcases Option.map_eq_some_iff.mp taken with ⟨⟨_, err⟩, processed, equal⟩
      rw [← equal]
      rcases processPPP_cases processed with dropped | ⟨ref, found, _⟩
      · rw [show _ = _ from dropped]
        exact same rfl rfl
      · cases (show _ = _ from outside).symm.trans found
  | pendingTimer index => exact quiet (kept_pendingTimer taken) (kept_pendingTimer taken)
  | echoExpires ref =>
      rw [← Option.some.inj taken]
      refine ⟨fun other session found => ?_, .inl (kept_echoExpires timerBlind_key now ref)⟩
      unfold echoExpires at found
      dsimp only at found
      rw [Heap.deref_update] at found
      split at found
      · rcases Option.map_eq_some_iff.mp found with ⟨old, present, expired⟩
        rw [← expired]
        dsimp only
        rw [dormant other old present]
        rfl
      · exact dormant other session found
  | echoTimer ref index =>
      rcases echoTimer_cases taken with ⟨session, found, ⟨expired, _⟩ | ⟨aborted, _⟩⟩
      · rw [dormant ref session found] at expired
        cases expired
      · rw [dormant ref session found] at aborted
        cases aborted
  | authDatagram datagram =>
      rcases Option.map_eq_some_iff.mp taken with ⟨outcome, _, equal⟩
      exact equal ▸ quiet (kept_withCalls authBlind_key now outcome)
        (kept_withCalls authBlind_timer now outcome)
  | authTimer id =>
      rcases Option.map_eq_some_iff.mp taken with ⟨outcome, _, equal⟩
      exact equal ▸ quiet (kept_withCalls authBlind_key now outcome)
        (kept_withCalls authBlind_timer now outcome)
  | acctDatagram datagram | acctTimer id | interimTimer ref index =>
      rcases Option.map_eq_some_iff.mp taken with ⟨aaa, _, equal⟩
      exact equal ▸ same rfl rfl
  | authExpires id | acctExpires id | interimExpires ref | collectCounters counters | periodic =>
      exact Option.some.inj taken ▸ same rfl rfl
  | reload conf =>
      unfold step at taken
      dsimp only at taken
      split at taken
      · exact Option.some.inj taken ▸ same rfl rfl
      · cases taken

/-- While all ids are in use, nothing from outside changes which sessions are active. -/
theorem entries_step (tables : StoreInvariant now) (full : now.IdsExhausted)
    (dormant : Dormant now) (outside : FromOutside now event) (taken : step now event = some after) :
    after.store.activeSessions = now.store.activeSessions ∧
      after.store.sessionSet = now.store.sessionSet := by
  rcases (outside_step dormant tables outside taken).2 with
    kept | ⟨env, encap, conn, result, allocated, store⟩
  · exact ⟨kept.active, kept.ids⟩
  · have kept : Kept PPPOESession.key now (now.checkSession conn).1 := kept_checkSession now conn
    rcases allocateSession_cases (kept.invariant tables) env encap allocated with
      none | ⟨id, free, nonzero, _⟩
    · rw [store, none]
      exact ⟨kept.active, kept.ids⟩
    · rw [kept.ids] at free
      exact absurd (full id nonzero) free

/-- A PADR gets an error while all ids are in use. -/
theorem padr_refused (tables : StoreInvariant now) (full : now.IdsExhausted) (env : Env)
    (encap : Encapsulation) {packet : Packet} (padr : packet.pppoeCode = PPPOECode.padr) :
    ∃ after err, now.processPPPOE env encap packet = some (after, some err) ∧
      after.store.activeSessions = now.store.activeSessions := by
  have none := (freeId_eq_none_iff tables).mpr full
  have handled := @processPPPOE_of_padr now env encap packet tables padr
  unfold padrOutcome at handled
  cases parsed : tagsOf "PADR" packet with
  | error err =>
      rw [parsed] at handled
      exact ⟨_, _, handled, rfl⟩
  | ok tags =>
      rw [parsed] at handled
      dsimp only at handled
      split at handled
      · rw [none] at handled
        exact ⟨_, _, handled, rfl⟩
      · exact ⟨_, _, handled, rfl⟩

/-- When every id is held by a session whose echo timer was never started, then as
long as none of these subscribers sends a packet and nobody sends a PADT, every PADR is
refused, in every run and however long it lasts. -/
theorem abandoned_daemon_refuses {start later : Runtime} {past : List (Runtime × Event)}
    (fresh : start.Fresh) (reached : Reachable happen start now) (full : now.IdsExhausted)
    (dormant : Dormant now) (run : Run step FromOutside now past later) (env : Env)
    (encap : Encapsulation) {packet : Packet} (padr : packet.pppoeCode = PPPOECode.padr) :
    later.store.activeSessions = now.store.activeSessions ∧
      ∃ after err, later.processPPPOE env encap packet = some (after, some err) ∧
        after.store.activeSessions = now.store.activeSessions := by
  have invariant := @Run.invariant _ _ step FromOutside now later past
    (fun current => ReferenceInvariant current ∧ Dormant current ∧
      current.store.activeSessions = now.store.activeSessions ∧
        current.store.sessionSet = now.store.sessionSet)
    ⟨referenceInvariant_of_reachable fresh reached, dormant, rfl, rfl⟩ ?_ run
  · rcases invariant with ⟨references, _, active, ids⟩
    have still : later.IdsExhausted := fun id nonzero => ids ▸ full id nonzero
    rcases @padr_refused later references.tables still env encap packet padr with
      ⟨after, err, processed, same⟩
    exact ⟨active, after, err, processed, same.trans active⟩
  · rintro current event after ⟨references, asleep, active, ids⟩ outside taken
    have still : current.IdsExhausted := fun id nonzero => ids ▸ full id nonzero
    have entries := entries_step references.tables still asleep outside taken
    exact ⟨referenceInvariant_step references taken,
      (outside_step asleep references.tables outside taken).1, entries.1.trans active,
      entries.2.trans ids⟩

/-- One subscriber connects again and again and never opens a session: the ids up to a
number are in use. -/
structure Crowded (count : Nat) (now : Runtime) : Prop where
  reached : Reachable happen (sampleDaemon [.none] papPolicy) now
  pending : now.store.pendingSession = ∅
  dormant : Dormant now
  ids : forall id, id ∈ now.store.sessionSet ↔ id ≠ 0 ∧ id.toNat ≤ count
  cursor : count < 65535 -> now.store.nextSessionId.toNat = count + 1

theorem padoCookie_bare (encap : Encapsulation) : now.padoCookie {} encap = [] := by
  unfold padoCookie
  split <;> rfl

/-- The events of such a connection. -/
def crowds (bytes : Bytes) : Event := { input := .discovery (sampleLink 1) ⟨bytes, fun _ => 0⟩ }

theorem fromOutside_crowds {bytes : Bytes}
    (isRequest : Packet.pppoeCode ⟨bytes, fun _ => 0⟩ ≠ PPPOECode.padt) :
    FromOutside now (crowds bytes) := isRequest

/-- The next connection takes the next id. -/
theorem Crowded.next {count : Nat} (crowded : Crowded count now) (room : count < 65535) :
    ∃ after, Crowded (count + 1) after := by
  have cursor := crowded.cursor room
  have tablesOf {state : Runtime} (reached : Reachable happen (sampleDaemon [.none] papPolicy) state) :=
    (referenceInvariant_of_reachable (fresh_sampleDaemon [.none] papPolicy) reached).tables
  have idle : connOf (sampleLink 1) (now.padoCookie {} (sampleLink 1)) ∉ now.store.pendingSession := by
    rw [crowded.pending]
    exact Finset.notMem_empty _
  rcases @step_newcomerPadi now (sampleLink 1) {} (fun _ => 0) idle with
    ⟨offered, first, _, _, offeredStore⟩
  have reached : Reachable happen (sampleDaemon [.none] papPolicy) offered :=
    @Reachable.next _ _ happen _ now offered (.event (crowds newcomerPadi)) crowded.reached first
  have dormant := (outside_step crowded.dormant (tablesOf crowded.reached)
    (@fromOutside_crowds now newcomerPadi (by decide)) first).1
  rw [padoCookie_bare] at offeredStore
  have free : offered.freeId = some now.store.nextSessionId := by
    have unused : offered.store.nextSessionId ∉ offered.store.sessionSet := by
      rw [offeredStore]
      intro used
      have small := ((crowded.ids now.store.nextSessionId).mp used).2
      omega
    rw [freeId_of_cursor unused, offeredStore]
  have pends : connOf (sampleLink 1) [] ∈ offered.store.pendingSession := by
    rw [offeredStore]
    exact Finset.mem_insert_self _ _
  rcases @step_newcomerPadr offered (sampleLink 1) {} (fun _ => 0) [] _ (tablesOf reached) pends
    (by decide) free with ⟨after, second, _, store, _⟩
  refine ⟨after, @Reachable.next _ _ happen _ offered after
    (.event (crowds (newcomerPadr []))) reached second, ?_,
    (outside_step dormant (tablesOf reached) (@fromOutside_crowds offered (newcomerPadr []) (by decide)) second).1,
    fun id => ?_, fun room => ?_⟩
  · rw [store]
    show offered.store.pendingSession.erase _ = ∅
    rw [offeredStore, crowded.pending]
    rfl
  · rw [store]
    show id ∈ insert now.store.nextSessionId offered.store.sessionSet ↔ _
    rw [offeredStore, Finset.mem_insert, crowded.ids id]
    have own : id = now.store.nextSessionId ↔ id.toNat = count + 1 := by
      rw [← cursor]
      exact UInt16.toNat_inj.symm
    have zero : id = 0 ↔ id.toNat = 0 := UInt16.toNat_inj.symm
    rw [own, Ne, zero]
    omega
  · rw [store]
    show (nextSessionId now.store.nextSessionId).toNat = _
    rw [toNat_nextSessionId, cursor, if_neg (by omega)]

theorem exists_crowded : forall count, count ≤ 65535 -> ∃ now, Crowded count now := by
  intro count
  induction count with
  | zero =>
      intro _
      refine ⟨sampleDaemon [.none] papPolicy, .refl happen _, rfl, ?_, ?_, fun _ => rfl⟩
      · intro ref session found
        cases found
      · intro id
        have zero : id = 0 ↔ id.toNat = 0 := UInt16.toNat_inj.symm
        have nothing : id ∉ (sampleDaemon [.none] papPolicy).store.sessionSet := Finset.notMem_empty id
        simp [nothing, zero]
  | succ count inductionHypothesis =>
      intro bound
      rcases inductionHypothesis (Nat.le_of_succ_le bound) with ⟨now, crowded⟩
      exact crowded.next bound

/-- One subscriber gets there, and then nobody else is served. -/
theorem abandoned_daemon_refuses_everybody : ∃ now,
    Reachable happen (sampleDaemon [.none] papPolicy) now ∧
      forall past later, Run step FromOutside now past later -> forall encap,
        ∃ after err, later.processPPPOE {} encap (discoveryPacket PPPOECode.padr 0) =
          some (after, some err) ∧ after.store.activeSessions = now.store.activeSessions := by
  rcases exists_crowded 65535 (Nat.le_refl _) with ⟨now, crowded⟩
  refine ⟨now, crowded.reached, fun past later run encap => ?_⟩
  refine (abandoned_daemon_refuses (fresh_sampleDaemon [.none] papPolicy) crowded.reached
    (fun id nonzero => ?_) crowded.dormant run {} encap rfl).2
  have small := id.toNat_lt
  exact (crowded.ids id).mpr ⟨nonzero, by omega⟩

end Runtime

end Pppcpd
