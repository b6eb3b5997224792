import Pppcpd.Runtime.DataPlane
import Pppcpd.Runtime.EchoCount
import Pppcpd.Runtime.Lingering

namespace Pppcpd

open Foundation

/-!
# The watch over open sessions

From the moment its IPCP opens, a session is watched: a wait of its echo timer is
armed, or its handler is due, in every state until the session ends.  So a subscriber
who was up and has fallen silent is always removed in the end, by nothing but the
ticks of his own timer.
-/

/-- A call that does not report the layer up has not opened the automaton. -/
theorem StateMove.of_unreported {state later : PPPFsmState} {action : PPPFsmAction}
    {err : Option String} (move : StateMove state later action err)
    (unreported : ¬ (err = none ∧ action = .layerUp)) (opened : later = .opened) :
    state = .opened := by
  cases move with
  | opens _ _ => exact absurd ⟨rfl, rfl⟩ unreported
  | stays _ notOpened _ => exact absurd opened notOpened
  | leaves _ _ => rfl
  | remains => rfl

namespace Runtime

variable {ref : Nat} {now before after : Runtime} {event : Event}

/-- Every active session whose IPCP is Opened has a wait that will run or is due. -/
def Watched (runtime : Runtime) : Prop :=
  forall ref session, runtime.Up ref session -> session.timer.hasLive = true

namespace Watched

/-- A part of a step that changes the objects in no way that shows in their timers and
in whether their IPCP is Opened, and makes no session active. -/
theorem of_kept (watched : Watched before) (kept : Kept link before after) : Watched after := by
  rintro ref session ⟨active, found, opened⟩
  rcases kept.symm.session found with ⟨old, present, same⟩
  have timers : old.timer = session.timer := congrArg Prod.fst same
  have both := of_plane_eq (congrArg Prod.snd same)
  rw [kept.active] at active
  exact timers ▸ watched ref old ⟨active, present, both.2.mpr opened⟩

theorem of_fewer (watched : Watched before)
    (active : forall ref, after.store.activeSessions.Holds ref ->
      before.store.activeSessions.Holds ref)
    (objects : forall ref, after.sessions.deref ref = before.sessions.deref ref) : Watched after :=
  fun ref session up => watched ref session ⟨active ref up.1, objects ref ▸ up.2.1, up.2.2⟩

/-- One object was written, and it is watched if it is up. -/
theorem write (watched : Watched before) {object : PPPOESession}
    (active : after.store.activeSessions = before.store.activeSessions)
    (others : forall other, other ≠ ref -> after.sessions.deref other = before.sessions.deref other)
    (written : after.sessions.deref ref = some object)
    (guarded : object.ipcp.state = .opened -> object.timer.hasLive = true) : Watched after := by
  rintro other session ⟨isActive, found, opened⟩
  by_cases here : other = ref
  · rw [here, written] at found
    rw [← Option.some.inj found] at opened ⊢
    exact guarded opened
  · rw [others other here] at found
    exact watched other session ⟨active ▸ isActive, found, opened⟩

theorem deallocateSession (watched : Watched now) (tables : StoreInvariant now) (sid : UInt16) :
    Watched (now.deallocateSession sid).1 :=
  watched.of_fewer (fun ref active => ((holds_deallocateSession tables sid ref).mp active).1)
    (deref_deallocateSession now sid)

theorem allocateSession (watched : Watched now) (tables : StoreInvariant now) {env : Env}
    {encap : Encapsulation} {result : Runtime × UInt16 × Option String}
    (allocated : now.allocateSession env encap = some result) : Watched result.1 := by
  rcases allocateSession_cases tables env encap allocated with full | ⟨id, free, _, entered⟩
  · rw [full]
    exact watched
  · rw [entered]
    rintro other session ⟨active, found, opened⟩
    rcases Heap.deref_make_cases found with ⟨_, made⟩ | ⟨old, present⟩
    · rw [made] at opened
      cases opened
    · have fresh := key_not_mem_of_free tables encap free
      exact watched other session
        ⟨((Table.holds_insert_of_not_mem fresh _ other).mp active).resolve_left old, present, opened⟩

/-- A packet of IPCP starts the watch when it opens IPCP. -/
theorem processIpcp {packet : Packet} (watched : Watched now)
    (active : now.store.activeSessions.Holds ref)
    (processed : now.processIpcp ref packet = some after) : Watched after := by
  rcases processIpcp_cases processed with ⟨session, out, found, received, outcome⟩
  have outside := (ipcpFsm_leaves now).receive received
  have timers : out.session.timer = session.timer := by
    have same := congrArg PPPOESession.timer outside
    exact same
  have moved := ((ipcpFsm_lawful now).receive received).1
  rcases outcome with ⟨_, _, up⟩ | ⟨quiet, same⟩
  · have there : ((now.apply ref out).openDataPlane ref out.session).sessions.deref ref =
        some { out.session with
          ifindex := ((now.apply ref out).vpp.provisionDp ref out.session).2.2
          timer := Timer.restart out.session.timer } := by
      unfold openDataPlane startEcho
      dsimp only
      rw [Heap.deref_update, if_pos rfl, Heap.deref_update, if_pos rfl, deref_apply_self found]
      rfl
    rw [up]
    refine watched.write rfl (fun other different => ?_) there (fun _ => Timer.hasLive_restart _)
    unfold openDataPlane startEcho
    dsimp only
    rw [Heap.deref_update, if_neg different, Heap.deref_update, if_neg different,
      deref_apply_of_ne now different]
  · rw [same]
    refine watched.write rfl (fun other different => deref_apply_of_ne now different out)
      (deref_apply_self found out) (fun opened => ?_)
    have was : session.ipcp.state = .opened := moved.of_unreported quiet opened
    rw [timers]
    exact watched ref session ⟨active, found, was⟩

theorem processLcp {env : Env} {packet : Packet} {err : Option String} (watched : Watched now)
    (tables : StoreInvariant now) (processed : now.processLcp env ref packet = some (after, err)) :
    Watched after := by
  rcases processLcp_cases processed with ⟨session, out, found, received, outcome⟩
  have applied := watched.of_kept (kept_applyLcp lcpBlind_link found received)
  rcases outcome with ⟨_, _, up⟩ | ⟨_, _, ended⟩ | ⟨_, same⟩
  · rw [up]
    exact applied.of_kept (kept_openAuth openBlind_link _ env ref)
  · rw [ended]
    exact applied.deallocateSession
      ((kept_applyLcp lcpBlind_key found received).invariant tables) session.sessionId
  · rw [same]
    exact applied

theorem processPPP {env : Env} {encap : Encapsulation} {packet : Packet} {err : Option String}
    (watched : Watched now) (tables : StoreInvariant now)
    (processed : now.processPPP env encap packet = some (after, err)) : Watched after := by
  rcases processPPP_cases processed with dropped | ⟨ref, registered, dispatched⟩
  · rw [dropped]
    exact watched
  · have started := watched.of_kept (kept_ensureStarted lcpBlind_link now env ref)
    have keyed := kept_ensureStarted lcpBlind_key now env ref
    have active : (now.ensureStarted env ref).store.activeSessions.Holds ref := by
      rw [keyed.active]
      exact ⟨_, registered⟩
    rcases dispatch_cases dispatched with
      ⟨_, lcp⟩ | ⟨protocol, _, _, _, auth⟩ | ⟨_, ipcp⟩ | same | rejected
    · exact started.processLcp (keyed.invariant tables) lcp
    · exact started.of_kept (kept_recvAuthReq authBlind_link auth)
    · exact started.processIpcp active ipcp
    · rw [same]
      exact started
    · rw [rejected]
      exact started.of_kept (kept_rejectProtocol _ ref packet)

theorem processPPPOE {env : Env} {encap : Encapsulation} {packet : Packet} {err : Option String}
    (watched : Watched now) (tables : StoreInvariant now)
    (processed : now.processPPPOE env encap packet = some (after, err)) : Watched after := by
  rcases processPPPOE_cases processed with ⟨_, before, queue, queued, handled⟩ | ⟨_, ended⟩
  · have there : Watched before := by
      rcases handled with same | ⟨conn, pended⟩ | ⟨conn, checked⟩ | ⟨conn, result, allocated, entered⟩
      · rw [same]
        exact watched
      · rw [pended]
        exact watched.of_kept (kept_pendeSession now conn)
      · rw [checked]
        exact watched.of_kept (kept_checkSession now conn)
      · have keyed : Kept PPPOESession.key now (now.checkSession conn).1 := kept_checkSession now conn
        rw [entered]
        exact (watched.of_kept (kept_checkSession now conn)).allocateSession (keyed.invariant tables)
          allocated
    rw [queued]
    exact there.of_kept (.of_same rfl rfl)
  · rw [ended]
    exact watched.deallocateSession tables _

theorem echoExpires (watched : Watched now) (ref : Nat) : Watched (now.echoExpires ref) := by
  cases found : now.sessions.deref ref with
  | none =>
      refine watched.of_fewer (fun _ active => active) (fun other => ?_)
      unfold Runtime.echoExpires
      dsimp only
      rw [Heap.deref_update]
      split
      · rename_i same
        rw [same, found]
        rfl
      · rfl
  | some session =>
      intro other object up
      by_cases here : other = ref
      · rcases up with ⟨active, present, opened⟩
        unfold Runtime.echoExpires at present
        dsimp only at present
        rw [here, Heap.deref_update, if_pos rfl, found] at present
        rw [← Option.some.inj present] at opened ⊢
        dsimp only
        rw [Timer.hasLive_expire]
        exact watched ref session ⟨here ▸ active, found, opened⟩
      · rcases up with ⟨active, present, opened⟩
        unfold Runtime.echoExpires at present
        dsimp only at present
        rw [Heap.deref_update, if_neg here] at present
        exact watched other object ⟨active, present, opened⟩

theorem collect (watched : Watched now) (ref : Nat) : Watched (now.collect ref) :=
  watched.of_kept (kept_collect now ref)

theorem deref_popEcho_of_ne {other : Nat} (different : other ≠ ref) (index : Nat) :
    (now.popEcho ref index).sessions.deref other = now.sessions.deref other := by
  unfold popEcho
  dsimp only
  rw [Heap.deref_update, if_neg different]

/-- The handler of a tick goes on watching, or ends the session. -/
theorem echoTimer {env : Env} {index : Nat} (watched : Watched now) (tables : StoreInvariant now)
    (fired : now.echoTimer env ref index = some after) : Watched after := by
  rcases echoTimer_cases fired with ⟨session, found, ⟨expired, handled⟩ | ⟨aborted, handled⟩⟩
  · rw [handled]
    refine Watched.collect ?_ ref
    have popped := deref_popEcho found index
    have inside := (kept_popEcho timerBlind_key now ref index).invariant tables
    rcases sendEchoReq_cases env popped with ⟨out, counted, ⟨_, _, ended⟩ | ⟨_, again⟩⟩
    · have ready : StoreInvariant ((now.popEcho ref index).apply ref out) :=
        (@kept_countEcho _ PPPOESession.key _ _ _ _ popped counted rfl).invariant inside
      rw [ended]
      rintro other object ⟨active, present, opened⟩
      rcases (holds_deallocateSession ready _ other).mp active with ⟨was, spared⟩
      rw [deref_deallocateSession] at present
      by_cases here : other = ref
      · have self := target_of_holds ready was present
        rw [here, deref_apply_self popped, counted] at present
        rw [← Option.some.inj present] at self
        exact absurd self spared
      · rw [deref_apply_of_ne _ here, deref_popEcho_of_ne here] at present
        exact watched other object ⟨was, present, opened⟩
    · have there : (((now.popEcho ref index).apply ref out).startEcho ref).sessions.deref ref =
          some { out.session with timer := Timer.restart out.session.timer } := by
        unfold startEcho
        dsimp only
        rw [Heap.deref_update, if_pos rfl, deref_apply_self popped]
        rfl
      rw [again]
      refine watched.write rfl (fun other different => ?_) there (fun _ => Timer.hasLive_restart _)
      unfold startEcho
      dsimp only
      rw [Heap.deref_update, if_neg different, deref_apply_of_ne _ different,
        deref_popEcho_of_ne different]
  · rw [handled]
    refine Watched.collect ?_ ref
    rintro other object ⟨active, present, opened⟩
    by_cases here : other = ref
    · rw [here, deref_popEcho found index] at present
      rw [← Option.some.inj present] at opened ⊢
      exact Timer.hasLive_eraseIdx_of_aborted aborted
        (watched ref session ⟨here ▸ active, found, opened⟩)
    · rw [deref_popEcho_of_ne here] at present
      exact watched other object ⟨active, present, opened⟩

theorem step (watched : Watched now) (tables : StoreInvariant now)
    (taken : Runtime.step now event = some after) : Watched after := by
  rcases event with ⟨env, input⟩
  cases input with
  | discovery encap packet =>
      rcases Option.map_eq_some_iff.mp taken with ⟨⟨_, err⟩, processed, equal⟩
      exact equal ▸ watched.processPPPOE tables processed
  | session encap packet =>
      rcases Option.map_eq_some_iff.mp taken with ⟨⟨_, err⟩, processed, equal⟩
      exact equal ▸ watched.processPPP tables processed
  | pendingTimer index => exact watched.of_kept (kept_pendingTimer taken)
  | echoExpires ref => exact Option.some.inj taken ▸ watched.echoExpires ref
  | echoTimer ref index => exact watched.echoTimer tables taken
  | authDatagram datagram =>
      rcases Option.map_eq_some_iff.mp taken with ⟨outcome, _, equal⟩
      exact equal ▸ watched.of_kept (kept_withCalls authBlind_link now outcome)
  | authTimer id =>
      rcases Option.map_eq_some_iff.mp taken with ⟨outcome, _, equal⟩
      exact equal ▸ watched.of_kept (kept_withCalls authBlind_link now outcome)
  | acctDatagram datagram | acctTimer id | interimTimer ref index =>
      rcases Option.map_eq_some_iff.mp taken with ⟨aaa, _, equal⟩
      exact equal ▸ watched
  | authExpires id | acctExpires id | interimExpires ref | collectCounters counters | periodic =>
      exact Option.some.inj taken ▸ watched
  | reload conf =>
      unfold Runtime.step at taken
      dsimp only at taken
      split at taken
      · exact Option.some.inj taken ▸ watched
      · cases taken

theorem fresh {start : Runtime} (fresh : start.Fresh) : Watched start := by
  rintro ref session ⟨_, found, _⟩
  rw [fresh.sessions] at found
  cases found

end Watched

/-- Every active session whose IPCP is Opened is watched, in every reachable state. -/
theorem watched_of_reachable {start : Runtime} (fresh : start.Fresh)
    (reached : Reachable happen start now) : Watched now := by
  refine (@Reachable.invariant _ _ happen start now
    (fun current => ReferenceInvariant current ∧ Watched current)
    ⟨referenceInvariant_fresh fresh, .fresh fresh⟩ ?_ reached).2
  rintro current happening after ⟨references, watched⟩ taken
  refine ⟨referenceInvariant_happen references taken, ?_⟩
  cases happening with
  | event event => exact watched.step references.tables taken
  | deallocateSession sid => exact Option.some.inj taken ▸ watched.deallocateSession references.tables sid
  | cleanup =>
      rw [← Option.some.inj taken]
      rintro ref session ⟨active, _, _⟩
      unfold cleanup at active
      rw [(@kept_foldl_collect _ reference _ _).active] at active
      rcases active with ⟨key, found⟩
      cases found

/-! ## Silence -/

/-- The events of the echo timer of one session object. -/
def OfTimer (ref : Nat) (event : Event) : Prop :=
  event.input = .echoExpires ref ∨ ∃ index, event.input = .echoTimer ref index

/-- The sessions of other objects stay active. -/
def SparesOthers (ref : Nat) (before after : Runtime) : Prop :=
  forall other, other ≠ ref -> before.store.activeSessions.Holds other ->
    after.store.activeSessions.Holds other

/-- The time of a wait comes and its handler runs: the session ends, or its counter is
one higher. -/
theorem exists_tick_of_up {session : PPPOESession} (tables : StoreInvariant now)
    (up : now.Up ref session) (live : session.timer.hasLive = true) :
    ∃ index after, execute step now [{ input := .echoExpires ref }, { input := .echoTimer ref index }] =
        some after ∧ SparesOthers ref now after ∧
      (¬ after.store.activeSessions.Holds ref ∨ ∃ later, after.Up ref later ∧
        later.lcp.echoCounter = session.lcp.echoCounter + 1 ∧ ¬ 9 < session.lcp.echoCounter + 1) := by
  rcases up with ⟨active, found, opened⟩
  rcases Timer.exists_expired live with ⟨index, expired⟩
  have ready := (kept_echoExpires timerBlind_key now ref).invariant tables
  have due : (now.echoExpires ref).sessions.deref ref =
      some { session with timer := Timer.expire session.timer } := by
    unfold echoExpires
    dsimp only
    rw [Heap.deref_update, if_pos rfl, found]
    rfl
  have fired := echoTimer_of_expired {} due expired
  have law := @tickLaw_echoTimer (now.echoExpires ref) ref index _ {} ready active due
  refine ⟨index, _, ?_, fun other different was => law.others other different was, ?_⟩
  · unfold execute execute execute
    exact Option.bind_eq_some_iff.mpr ⟨_, rfl, Option.bind_eq_some_iff.mpr ⟨_, fired, rfl⟩⟩
  · by_cases silent : 9 < session.lcp.echoCounter + 1
    · exact .inl (law.ends.mpr silent)
    · refine .inr ?_
      have popped := deref_popEcho due index
      rcases sendEchoReq_cases {} popped with ⟨out, counted, ⟨expired, _, _⟩ | ⟨_, again⟩⟩
      · exact absurd expired silent
      · have there : (((now.echoExpires ref).popEcho ref index).sendEchoReq {} ref).sessions.deref ref =
            some { out.session with timer := Timer.restart out.session.timer } := by
          rw [again]
          unfold startEcho
          dsimp only
          rw [Heap.deref_update, if_pos rfl, deref_apply_self popped]
          rfl
        refine ⟨_, ⟨?_, (deref_collect _ ref ref).trans there, ?_⟩, ?_, silent⟩
        · exact Classical.byContradiction (fun gone => silent (law.ends.mp gone))
        · rw [counted]
          exact opened
        · rw [counted]
          rfl

theorem ofTimer_tick (ref index : Nat) :
    ∀ event ∈ ([{ input := .echoExpires ref }, { input := .echoTimer ref index }] : List Event),
      OfTimer ref event := by
  intro event member
  rcases List.mem_pair.mp member with first | second
  · exact .inl (first ▸ rfl)
  · exact .inr ⟨index, second ▸ rfl⟩

/-- Ten ticks at most are left. -/
theorem times_out_within (rounds : Nat) {session : PPPOESession} (references : ReferenceInvariant now)
    (watched : Watched now) (up : now.Up ref session)
    (enough : 9 < (session.lcp.echoCounter + 1).toNat + rounds) :
    ∃ events, (∀ event ∈ events, OfTimer ref event) ∧ ∃ later,
      execute step now events = some later ∧ ¬ later.store.activeSessions.Holds ref ∧
        SparesOthers ref now later := by
  induction rounds generalizing now session with
  | zero =>
      rcases exists_tick_of_up references.tables up (watched ref session up) with
        ⟨index, after, executed, spares, gone | ⟨_, _, _, early⟩⟩
      · exact ⟨_, ofTimer_tick ref index, after, executed, gone, spares⟩
      · exact absurd (UInt8.lt_iff_toNat_lt.mpr (show (9 : UInt8).toNat < _ from enough)) early
  | succ rounds inductionHypothesis =>
      rcases exists_tick_of_up references.tables up (watched ref session up) with
        ⟨index, after, executed, spares, gone | ⟨later, upLater, counter, early⟩⟩
      · exact ⟨_, ofTimer_tick ref index, after, executed, gone, spares⟩
      · have both : ReferenceInvariant after ∧ Watched after := by
          refine @Reachable.invariant _ _ step now after
            (fun current => ReferenceInvariant current ∧ Watched current) ⟨references, watched⟩
            (fun _ _ _ here taken => ?_) (reachable_of_execute (.refl step now) _ executed)
          exact ⟨referenceInvariant_step here.1 taken, here.2.step here.1.tables taken⟩
        have small : (session.lcp.echoCounter + 1).toNat ≤ 9 :=
          Nat.le_of_not_lt (fun beyond => early (UInt8.lt_iff_toNat_lt.mpr beyond))
        have next : (session.lcp.echoCounter + 1 + 1).toNat =
            (session.lcp.echoCounter + 1).toNat + 1 := by
          rw [UInt8.toNat_add]
          exact Nat.mod_eq_of_lt (show _ + 1 < 256 by omega)
        rcases inductionHypothesis both.1 both.2 upLater (by rw [counter, next]; omega) with
          ⟨events, timed, last, rest, gone, spared⟩
        refine ⟨_ ++ events, fun event member => ?_, last, execute_append executed rest, gone,
          fun other different was => spared other different (spares other different was)⟩
        rcases List.mem_append.mp member with first | second
        · exact ofTimer_tick ref index event first
        · exact timed event second

/-- From every reachable state, the events of its echo timer alone take every session
away whose IPCP is Opened, and no other one. -/
theorem silent_session_times_out {start : Runtime} {session : PPPOESession} (fresh : start.Fresh)
    (reached : Reachable happen start now) (up : now.Up ref session) :
    ∃ events, (∀ event ∈ events, OfTimer ref event) ∧ ∃ later,
      execute step now events = some later ∧ ¬ later.store.activeSessions.Holds ref ∧
        SparesOthers ref now later :=
  times_out_within 10 (referenceInvariant_of_reachable fresh reached)
    (watched_of_reachable fresh reached) up (by omega)

theorem silent_session_times_out_at_settled :
    ∃ events, (∀ event ∈ events, OfTimer 0 event) ∧ ∃ later,
      execute step settled events = some later ∧ ¬ later.store.activeSessions.Holds 0 ∧
        SparesOthers 0 settled later := by
  have opened : ∃ session, settled.sessions.deref 0 = some session ∧ session.ipcp.state = .opened := by
    have isOpen : (settled.sessions.deref 0).any (fun session =>
        decide (session.ipcp.state = .opened)) = true := by
      decide +kernel
    rcases (Option.any_eq_true _ _).mp isOpen with ⟨session, found, state⟩
    exact ⟨session, found, of_decide_eq_true state⟩
  rcases opened with ⟨session, found, state⟩
  have active : settled.store.activeSessions.Holds 0 := by decide +kernel
  exact silent_session_times_out (fresh_sampleDaemon [.none] papPolicy) (reachable_after _ _ _ _)
    (show settled.Up 0 session from ⟨active, found, state⟩)

end Runtime

end Pppcpd
