import Pppcpd.Aaa.Requests

namespace Pppcpd

open Foundation

/-!
# AAA without sessions

When the last session is gone, no address should be in use and no accounting
should run.  What keeps them is not the table of sessions but the objects: an
object that a request or an interim wait still holds keeps its address, and a
request that is answered late starts its interim timer again.
-/

namespace AAA

/-- The address is in use in the pool of a name. -/
def InUse (aaa : AAA) (name : Bytes) (address : UInt32) : Prop :=
  ∃ pool, aaa.conf.pools.lookup name = some pool ∧ address ∈ pool.ips

/-- An interim wait of the object will still run its handler. -/
def InterimRuns (aaa : AAA) (ref : Nat) : Prop :=
  ∃ session, aaa.objects.deref ref = some session ∧ session.timer.hasLive = true

/-- An accounting request with the handler is outstanding. -/
def Accounts (aaa : AAA) (handler : AcctHandler) : Prop :=
  ∃ client, aaa.acct = some client ∧ client.Holds handler

/-- A request adds itself at most. -/
theorem Accounts.of_acctRequest {aaa : AAA} {request : AcctRequest} {added handler : AcctHandler}
    (accounts : (aaa.acctRequest request added).Accounts handler) :
    aaa.Accounts handler ∨ handler = added := by
  rcases accounts with ⟨client, is, holds⟩
  rcases Option.map_eq_some_iff.mp is with ⟨old, was, changed⟩
  rw [← changed] at holds
  rcases AuthClient.Holds.of_register holds with before | new
  · exact .inl ⟨old, was, before⟩
  · exact .inr new

/-- No session is entered, no address is in use, and no accounting runs: there is
no interim wait, and only the end of some accounting is still to be confirmed. -/
structure Idle (aaa : AAA) : Prop where
  sessions : forall sid, sid ∉ aaa.sessions
  addresses : forall name address, ¬ aaa.InUse name address
  interim : forall ref, ¬ aaa.InterimRuns ref
  requests : forall handler, aaa.Accounts handler -> handler.status = .stop

/-- No address comes into use, and no accounting begins. -/
structure Wanes (before after : AAA) : Prop where
  addresses : forall name address, after.InUse name address -> before.InUse name address
  interim : forall ref, after.InterimRuns ref -> before.InterimRuns ref
  requests : forall handler, after.Accounts handler -> before.Accounts handler

theorem Idle.of_wanes {before after : AAA} (idle : before.Idle)
    (sessions : after.sessions = before.sessions) (wanes : Wanes before after) : after.Idle where
  sessions := by
    intro sid
    rw [sessions]
    exact idle.sessions sid
  addresses := fun name address inUse => idle.addresses name address (wanes.addresses name address inUse)
  interim := fun ref runs => idle.interim ref (wanes.interim ref runs)
  requests := fun handler accounts => idle.requests handler (wanes.requests handler accounts)

namespace Wanes

theorem trans {first second third : AAA} (left : Wanes first second) (right : Wanes second third) :
    Wanes first third :=
  ⟨fun name address inUse => left.addresses name address (right.addresses name address inUse),
    fun ref runs => left.interim ref (right.interim ref runs),
    fun handler accounts => left.requests handler (right.requests handler accounts)⟩

theorem of_same {before after : AAA} (pools : after.conf.pools = before.conf.pools)
    (objects : after.objects = before.objects) (acct : after.acct = before.acct) :
    Wanes before after := by
  refine ⟨fun name address inUse => ?_, fun ref runs => ?_, fun handler accounts => ?_⟩
  · unfold InUse at inUse
    rw [pools] at inUse
    exact inUse
  · unfold InterimRuns at runs
    rw [objects] at runs
    exact runs
  · unfold Accounts at accounts
    rw [acct] at accounts
    exact accounts

theorem refl (aaa : AAA) : Wanes aaa aaa := of_same rfl rfl rfl

/-- A change of one object that arms nothing. -/
theorem updateObject (aaa : AAA) (ref : Nat) {change : AAASession -> AAASession}
    (arms : forall session, (change session).timer.hasLive = true -> session.timer.hasLive = true) :
    Wanes aaa (aaa.updateObject ref change) := by
  refine ⟨fun _ _ inUse => inUse, ?_, fun _ accounts => accounts⟩
  rintro other ⟨session, present, live⟩
  unfold AAA.updateObject at present
  dsimp only at present
  rw [Heap.deref_update] at present
  split at present
  · rcases Option.map_eq_some_iff.mp present with ⟨old, found, changed⟩
    rw [← changed] at live
    exact ⟨old, found, arms old live⟩
  · exact ⟨session, present, live⟩

theorem cancel (aaa : AAA) (ref : Nat) : Wanes aaa (aaa.updateObject ref (onTimer Timer.cancel)) :=
  updateObject aaa ref (fun _ => Timer.hasLive_of_cancel)

theorem eraseWait (aaa : AAA) (ref index : Nat) :
    Wanes aaa (aaa.updateObject ref (onTimer (fun timer => timer.eraseIdx index))) := by
  refine updateObject aaa ref (fun session live => ?_)
  by_contra idle
  rw [onTimer, Timer.hasLive_eraseIdx (Bool.eq_false_iff.mpr idle)] at live
  cases live

/-- A change of the accounting client that adds no request. -/
theorem client {aaa : AAA} {before after : AuthClient AcctRequest AcctHandler}
    (present : aaa.acct = some before) (fewer : forall handler, after.Holds handler -> before.Holds handler) :
    Wanes aaa { aaa with acct := some after } := by
  refine ⟨fun _ _ inUse => inUse, fun _ runs => runs, ?_⟩
  rintro handler ⟨now, is, holds⟩
  rw [← Option.some.inj is] at holds
  exact ⟨before, present, fewer handler holds⟩

theorem giveBack (aaa : AAA) (session : AAASession) : Wanes aaa (aaa.giveBack session) := by
  unfold AAA.giveBack
  split
  · refine ⟨?_, fun _ runs => runs, fun _ accounts => accounts⟩
    rintro name address ⟨pool, found, member⟩
    dsimp only at found
    rw [Table.lookup_modify_eq] at found
    split at found
    · rcases Option.map_eq_some_iff.mp found with ⟨old, there, erased⟩
      rw [← erased] at member
      exact ⟨old, there, Finset.mem_of_mem_erase member⟩
    · exact ⟨pool, found, member⟩
  · exact refl aaa

theorem destruct (aaa : AAA) (ref : Nat) : Wanes aaa (aaa.destruct ref) := by
  unfold AAA.destruct
  split
  · exact refl aaa
  · rename_i session _
    refine ((cancel aaa ref).trans (giveBack _ session)).trans ⟨fun _ _ inUse => inUse, ?_,
      fun _ accounts => accounts⟩
    rintro other ⟨object, present, live⟩
    dsimp only at present
    rw [Heap.deref_destroy] at present
    exact ⟨object, present, live⟩

theorem collect (aaa : AAA) (ref : Nat) : Wanes aaa (aaa.collect ref) := by
  unfold AAA.collect
  split
  · exact destruct aaa ref
  · exact refl aaa

theorem mapIfaceToSession (aaa : AAA) (sid ifindex : UInt32) :
    Wanes aaa (aaa.mapIfaceToSession sid ifindex) := by
  unfold AAA.mapIfaceToSession
  split
  · exact refl aaa
  · exact updateObject aaa _ (fun _ live => live)

end Wanes

/-! ## The quiet events -/

/-- Without sessions the quiet events leave AAA idle: an answer is for a Stop, and
a wait whose handler runs is aborted. -/
theorem Idle.quiet {now after : AAA} {event : AAAEvent} (idle : now.Idle) (quiet : event.Quiet)
    (taken : step now event = some after) : after.Idle := by
  have sessions := sessions_of_quiet quiet taken
  cases event with
  | authExpires id =>
      rw [← Option.some.inj taken]
      exact idle.of_wanes rfl (.of_same rfl rfl rfl)
  | acctDatagram inputs datagram =>
      rcases acctDatagram_cases taken with ⟨client, filled, answer, present, filling, outcome⟩
      rcases AuthClient.onRcv_cases filling with ⟨⟨buf, receives, equal⟩, outstanding⟩
      rcases outcome with ⟨_, discarded⟩ | ⟨given, isAnswer, finished⟩
      · rw [discarded, equal]
        exact idle.of_wanes rfl (.client present (fun _ holds => holds))
      · rcases outstanding given isAnswer with ⟨entry, found, handler⟩
        have isStop : given.handler.status = .stop :=
          idle.requests _ ⟨client, present, given.id, entry, found, handler⟩
        have cancelled : Wanes now { now with acct := some (filled.cancelTimer given.id) } := by
          refine .client present (fun handler holds => ?_)
          have held := AuthClient.Holds.of_cancelTimer holds
          rw [equal] at held
          exact held
        refine idle.of_wanes sessions ?_
        rw [finished, acctAnswer, isStop]
        exact cancelled.trans (.cancel _ _)
  | acctExpires id =>
      rw [← Option.some.inj taken]
      refine idle.of_wanes rfl ⟨fun _ _ inUse => inUse, fun _ runs => runs, ?_⟩
      rintro handler ⟨client, is, holds⟩
      rcases Option.map_eq_some_iff.mp is with ⟨old, was, changed⟩
      rw [← changed] at holds
      exact ⟨old, was, .of_timerExpires holds⟩
  | acctTimer id =>
      rcases acctTimer_cases taken with ⟨client, entry, present, _, finished⟩
      refine idle.of_wanes sessions ?_
      rw [finished]
      exact (Wanes.client present (fun _ holds => .of_eraseEntry holds)).trans (.collect _ _)
  | interimExpires ref =>
      rw [← Option.some.inj taken]
      refine idle.of_wanes rfl (.updateObject now ref (fun session live => ?_))
      rw [onTimer, Timer.hasLive_expire] at live
      exact live
  | interimTimer counters ref index =>
      rcases interimTimer_cases taken with
        ⟨session, present, ⟨expired, _⟩ | ⟨_, finished⟩⟩
      · exact absurd ⟨session, present, Timer.hasLive_of_expired expired⟩ (idle.interim ref)
      · refine idle.of_wanes sessions ?_
        rw [finished]
        exact (Wanes.eraseWait now ref index).trans (.collect _ ref)
  | reload conf templates =>
      rcases step_reload taken with ⟨decoded, loaded⟩
      rw [loaded]
      refine ⟨idle.sessions, ?_, idle.interim, idle.requests⟩
      rintro name address ⟨pool, found, member⟩
      have empty : pool.ips = ∅ := decoded pool (Table.mem_values_iff.mpr ⟨name, found⟩)
      rw [empty] at member
      exact Finset.notMem_empty address member
  | _ => exact quiet.elim

/-! ## The stop of the last session -/

/-- Once its entry is gone and its timer cancelled, nothing holds the object: no
wait is left to be aborted, no request of it is outstanding, and no Stop can be
sent for it. -/
def Released (aaa : AAA) (ref : Nat) (record : AAASession) : Prop :=
  aaa.objects.isAlive ref = true ∧ record.timer = [] ∧
    ∀ client ∈ aaa.acct, (∀ entry ∈ client.callbacks.values, entry.handler.session ≠ ref) ∧
      (record.acct = true -> client.lastId + 1 ∈ client.callbacks)

instance (aaa : AAA) (ref : Nat) (record : AAASession) : Decidable (aaa.Released ref record) :=
  inferInstanceAs (Decidable (_ ∧ _ ∧ _))

/-- A stop of the session of an id gives the address back at once. -/
def StopFrees (aaa : AAA) (sid : UInt32) (name : Bytes) (address : UInt32) : Prop :=
  ∃ ref ∈ aaa.sessions.lookup sid, ∃ record ∈ aaa.objects.deref ref,
    record.freeIp = true ∧ record.framedPool = name ∧ record.address = address ∧
      aaa.Released ref record

instance (aaa : AAA) (sid : UInt32) (name : Bytes) (address : UInt32) :
    Decidable (aaa.StopFrees sid name address) :=
  inferInstanceAs (Decidable (∃ ref ∈ aaa.sessions.lookup sid, ∃ record ∈ aaa.objects.deref ref, _))

/-- A stop of the session of an id takes everything away: every address in use is
given back, the only interim waits are its own and have not expired, and no
request but a Stop is outstanding. -/
def StopClears (aaa : AAA) (sid : UInt32) : Prop :=
  (∀ entry ∈ aaa.conf.pools.entries, ∀ address ∈ entry.2.ips, aaa.StopFrees sid entry.1 address) ∧
  (∀ ref < aaa.objects.length, ∀ record ∈ aaa.objects.deref ref, record.timer.hasLive = true ->
    aaa.sessions.lookup sid = some ref ∧ .expired ∉ record.timer) ∧
  ∀ client ∈ aaa.acct, ∀ entry ∈ client.callbacks.values, entry.handler.status = .stop

-- The addresses of a pool are gone through as a set, and not all addresses there are.
instance (aaa : AAA) (sid : UInt32) : Decidable (aaa.StopClears sid) :=
  have (entry : Sigma fun _ : Bytes => FramedPool) :
      Decidable (∀ address ∈ entry.2.ips, aaa.StopFrees sid entry.1 address) :=
    Finset.decidableDforallFinset
  inferInstanceAs (Decidable (_ ∧ _ ∧ _))

variable {aaa : AAA} {ref : Nat}

theorem isOwned_eq_false (sessions : forall sid, aaa.sessions.lookup sid ≠ some ref)
    (acct : ∀ client ∈ aaa.acct, ∀ entry ∈ client.callbacks.values, entry.handler.session ≠ ref)
    (timer : ∀ session ∈ aaa.objects.deref ref, session.timer = []) : aaa.isOwned ref = false := by
  unfold isOwned
  rw [Bool.or_eq_false_iff, Bool.or_eq_false_iff]
  refine ⟨⟨?_, ?_⟩, ?_⟩
  · refine Bool.eq_false_iff.mpr (fun contained => ?_)
    have member := List.contains_iff_mem.mp contained
    rcases Table.mem_values_iff.mp member with ⟨sid, found⟩
    exact sessions sid found
  · cases present : aaa.acct with
    | none => rfl
    | some client =>
        refine List.any_eq_false.mpr (fun entry member same => ?_)
        exact acct client present entry member (beq_iff_eq.mp same)
  · cases present : aaa.objects.deref ref with
    | none => rfl
    | some session =>
        rw [Option.any_some, timer session present]
        rfl

/-- A destruction frees the address that the object took. -/
theorem not_inUse_destruct {record : AAASession} (found : aaa.objects.deref ref = some record)
    (free : record.freeIp = true) : ¬ (aaa.destruct ref).InUse record.framedPool record.address := by
  rintro ⟨pool, there, member⟩
  unfold destruct giveBack at there
  rw [found] at there
  dsimp only at there
  rw [if_pos free, Table.lookup_modify_eq, if_pos rfl] at there
  rcases Option.map_eq_some_iff.mp there with ⟨old, _, erased⟩
  rw [← erased] at member
  exact Finset.notMem_erase _ _ member

/-- A stop of such an object leaves no request for it. -/
theorem stop_of_released {record : AAASession} (counters : Table UInt32 VPPIfaceCounters)
    (found : aaa.objects.deref ref = some record) (released : aaa.Released ref record) :
    ∃ acct, aaa.stop counters ref =
        { aaa.updateObject ref (onTimer Timer.cancel) with acct := acct } ∧
      ∀ client ∈ acct, ∀ entry ∈ client.callbacks.values, entry.handler.session ≠ ref := by
  rcases released with ⟨_, _, held⟩
  unfold stop
  rw [found]
  dsimp only
  split
  · rename_i accounted
    refine ⟨_, rfl, ?_⟩
    intro client member
    rcases Option.map_eq_some_iff.mp member with ⟨old, present, requested⟩
    have was := held old present
    rcases AuthClient.acctRequest_cases aaa.md5 aaa.dict
      (acctRecord record .stop (counters.lookup record.ifindex)) ⟨.stop, ref⟩ old with
      ⟨_, _, free, _⟩ | dropped
    · exact absurd (was.2 accounted) (Table.not_mem_iff_lookup.mpr free)
    · have callbacks := congrArg AuthClient.callbacks (requested.symm.trans dropped)
      rw [callbacks]
      exact was.1
  · exact ⟨aaa.acct, rfl, fun client present => (held client present).1⟩

/-- A stop of such an object destroys it, which frees its address. -/
theorem not_inUse_of_released (entered : Entered aaa) {sid : UInt32}
    {counters : Table UInt32 VPPIfaceCounters} {record : AAASession}
    (entry : aaa.sessions.lookup sid = some ref) (found : aaa.objects.deref ref = some record)
    (free : record.freeIp = true) (released : aaa.Released ref record) :
    ¬ (AAA.collect { aaa.stop counters ref with
        sessions := (aaa.stop counters ref).sessions.erase sid } ref).InUse record.framedPool
          record.address := by
  rcases stop_of_released counters found released with ⟨acct, stopped, elsewhere⟩
  have cancelled : (aaa.objects.update ref (onTimer Timer.cancel)).deref ref =
      some (onTimer Timer.cancel record) := by
    rw [Heap.deref_update, if_pos rfl, found]
    rfl
  rw [stopped]
  unfold collect
  rw [if_pos]
  · exact @not_inUse_destruct { aaa.updateObject ref (onTimer Timer.cancel) with
      acct := acct, sessions := aaa.sessions.erase sid } ref (onTimer Timer.cancel record)
      cancelled free
  · rw [Bool.and_eq_true, Bool.not_eq_true']
    refine ⟨(Heap.isAlive_update _ _ _ _).trans released.1, isOwned_eq_false ?_ elsewhere ?_⟩
    · intro other named
      dsimp only [updateObject] at named
      rw [Table.lookup_erase_eq] at named
      split at named
      · cases named
      · rename_i different
        exact different (entered.unique other sid ref named entry)
    · intro session present
      have same : session = onTimer Timer.cancel record :=
        Option.some.inj (present.symm.trans cancelled)
      rw [same, onTimer, released.2.1]
      rfl

/-- A stop leaves the pools. -/
theorem stop_pools (aaa : AAA) (counters : Table UInt32 VPPIfaceCounters) (ref : Nat) :
    (aaa.stop counters ref).conf.pools = aaa.conf.pools := by
  simp only [stop]
  split
  · rfl
  · split <;> rfl

/-- A stop adds at most the Stop request. -/
theorem accounts_of_stop {counters : Table UInt32 VPPIfaceCounters} {handler : AcctHandler}
    (accounts : (aaa.stop counters ref).Accounts handler) :
    aaa.Accounts handler ∨ handler.status = .stop := by
  unfold stop at accounts
  split at accounts
  · exact .inl accounts
  · dsimp only at accounts
    split at accounts
    · rcases accounts.of_acctRequest with old | new
      · exact .inl old
      · exact .inr (congrArg AcctHandler.status new)
    · exact .inl accounts

/-- An interim wait that outlives a stop is of another object, or had expired. -/
theorem interimRuns_of_stop {counters : Table UInt32 VPPIfaceCounters} {other : Nat}
    (runs : (aaa.stop counters ref).InterimRuns other) :
    ∃ session, aaa.objects.deref other = some session ∧ session.timer.hasLive = true ∧
      (other = ref -> .expired ∈ session.timer) := by
  have cancelled : forall after : AAA, after.InterimRuns other ->
      after.objects = (aaa.updateObject ref (onTimer Timer.cancel)).objects ->
        ∃ session, aaa.objects.deref other = some session ∧ session.timer.hasLive = true ∧
          (other = ref -> .expired ∈ session.timer) := by
    rintro after ⟨session, present, live⟩ objects
    rw [objects] at present
    unfold updateObject at present
    dsimp only at present
    rw [Heap.deref_update] at present
    split at present
    · rcases Option.map_eq_some_iff.mp present with ⟨old, found, changed⟩
      rw [← changed] at live
      exact ⟨old, found, Timer.hasLive_of_cancel live,
        fun _ => (Timer.hasLive_cancel_iff old.timer).mp live⟩
    · rename_i different
      exact ⟨session, present, live, fun same => absurd same different⟩
  unfold stop at runs
  split at runs
  · rename_i none
    rcases runs with ⟨session, present, live⟩
    refine ⟨session, present, live, fun same => ?_⟩
    rw [same, none] at present
    cases present
  · dsimp only at runs
    split at runs
    · exact cancelled _ runs rfl
    · exact cancelled _ runs rfl

/-- The stop of the only session leaves AAA idle, when it takes everything away. -/
theorem Idle.of_stopSession (entered : Entered aaa) {sid : UInt32}
    (counters : Table UInt32 VPPIfaceCounters) (only : forall other, other ∈ aaa.sessions -> other = sid)
    (clears : aaa.StopClears sid) : (aaa.stopSession counters sid).Idle := by
  rcases clears with ⟨addresses, waits, requests⟩
  have inUse : forall name address, aaa.InUse name address ->
      ∃ ref record, aaa.sessions.lookup sid = some ref ∧ aaa.objects.deref ref = some record ∧
        record.freeIp = true ∧ record.framedPool = name ∧ record.address = address ∧
          aaa.Released ref record := by
    rintro name address ⟨pool, found, member⟩
    rcases addresses ⟨name, pool⟩ (Table.lookup_eq_some_iff_mem_entries.mp found) address member with
      ⟨ref, entry, record, present, its⟩
    exact ⟨ref, record, entry, present, its⟩
  have interim : forall ref session, aaa.objects.deref ref = some session ->
      session.timer.hasLive = true ->
        aaa.sessions.lookup sid = some ref ∧ .expired ∉ session.timer :=
    fun ref session present => waits ref (Heap.lt_length_of_deref present) session present
  have running : forall handler, aaa.Accounts handler -> handler.status = .stop := by
    rintro handler ⟨client, present, id, entry, found, same⟩
    rw [← same]
    exact requests client present entry (Table.mem_values_iff.mpr ⟨id, found⟩)
  have empty : forall other, other ∉ (aaa.stopSession counters sid).sessions := by
    intro other member
    rcases Table.mem_iff_lookup.mp member with ⟨ref, found⟩
    rw [lookup_stopSession] at found
    split at found
    · cases found
    · rename_i different
      exact different (only other (Table.mem_iff_lookup.mpr ⟨ref, found⟩))
  cases entry : aaa.sessions.lookup sid with
  | none =>
      have same : aaa.stopSession counters sid = aaa := by
        unfold stopSession
        rw [entry]
      rw [same] at empty ⊢
      refine ⟨empty, fun name address used => ?_, ?_, running⟩
      · rcases inUse name address used with ⟨ref, _, found, _⟩
        rw [entry] at found
        cases found
      · rintro ref ⟨session, present, live⟩
        have own := (interim ref session present live).1
        rw [entry] at own
        cases own
  | some ref =>
      have unfolded : aaa.stopSession counters sid = AAA.collect { aaa.stop counters ref with
          sessions := (aaa.stop counters ref).sessions.erase sid } ref := by
        unfold stopSession
        rw [entry]
      have wanes := Wanes.collect { aaa.stop counters ref with
          sessions := (aaa.stop counters ref).sessions.erase sid } ref
      rw [unfolded] at empty ⊢
      refine ⟨empty, fun name address used => ?_, fun other runs => ?_, fun handler accounts => ?_⟩
      · have before : aaa.InUse name address := by
          have earlier := wanes.addresses name address used
          unfold InUse at earlier
          dsimp only at earlier
          rw [stop_pools] at earlier
          exact earlier
        rcases inUse name address before with ⟨own, record, isEntry, present, free, inPool, isIts, released⟩
        rw [← Option.some.inj (entry.symm.trans isEntry)] at present released
        rw [← inPool, ← isIts] at used
        exact not_inUse_of_released entered entry present free released used
      · rcases interimRuns_of_stop (wanes.interim other runs) with ⟨session, present, live, expired⟩
        have own := interim other session present live
        have same : other = ref := Option.some.inj (own.1.symm.trans entry)
        exact own.2 (expired same)
      · rcases accounts_of_stop (wanes.requests handler accounts) with was | isStop
        · exact running handler was
        · exact isStop

end AAA

end Pppcpd
