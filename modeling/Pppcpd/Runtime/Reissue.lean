import Pppcpd.Runtime.Step
import Pppcpd.Runtime.Store

namespace Pppcpd

open Foundation

/-!
# When a session id is issued again

`allocateSession` searches from a cursor that it leaves behind the id it issues.
So between two issues of one id the cursor goes once around, and every other id
was issued or skipped because it was in use.  Late frames for a closed session
are harmless only because of this.
-/

/-- The session id after another one. -/
def nextSessionId (id : UInt16) : UInt16 := if id + 1 = 0 then 1 else id + 1

/-- How many times the cursor moves from one id to another. -/
def idDistance (origin id : UInt16) : Nat := (id.toNat + 65535 - origin.toNat) % 65535

theorem toNat_pos_of_ne_zero {id : UInt16} (nonzero : id ≠ 0) : 0 < id.toNat := by
  rcases Nat.eq_zero_or_pos id.toNat with zero | positive
  · exact absurd (UInt16.toNat_inj.mp zero) nonzero
  · exact positive

theorem toNat_nextSessionId (id : UInt16) :
    (nextSessionId id).toNat = if id.toNat = 65535 then 1 else id.toNat + 1 := by
  have bound := id.toNat_lt
  have sum : (id + 1).toNat = (id.toNat + 1) % 65536 := UInt16.toNat_add id 1
  unfold nextSessionId
  by_cases last : id.toNat = 65535
  · have wraps : id + 1 = 0 := UInt16.toNat_inj.mp (by rw [sum, last]; rfl)
    rw [if_pos wraps, if_pos last]
    rfl
  · have stays : id + 1 ≠ 0 := by
      intro wraps
      have zero : (id + 1).toNat = 0 := by rw [wraps]; rfl
      omega
    rw [if_neg stays, if_neg last, sum]
    omega

theorem nextSessionId_ne_zero (id : UInt16) : nextSessionId id ≠ 0 := by
  intro zero
  have none : (nextSessionId id).toNat = 0 := by rw [zero]; rfl
  rw [toNat_nextSessionId] at none
  split at none <;> omega

theorem idDistance_self (id : UInt16) : idDistance id id = 0 := by
  unfold idDistance
  omega

theorem eq_of_idDistance {origin first second : UInt16} (firstNonzero : first ≠ 0)
    (secondNonzero : second ≠ 0) (same : idDistance origin first = idDistance origin second) :
    first = second := by
  have firstPositive := toNat_pos_of_ne_zero firstNonzero
  have secondPositive := toNat_pos_of_ne_zero secondNonzero
  have firstBound := first.toNat_lt
  have secondBound := second.toNat_lt
  have originBound := origin.toNat_lt
  unfold idDistance at same
  exact UInt16.toNat_inj.mp (by omega)

/-- From the next id on, every other id is one step closer. -/
theorem idDistance_nextSessionId {origin id : UInt16} (nonzero : origin ≠ 0) (idNonzero : id ≠ 0)
    (other : id ≠ origin) : idDistance origin id = idDistance (nextSessionId origin) id + 1 := by
  have positive := toNat_pos_of_ne_zero nonzero
  have idPositive := toNat_pos_of_ne_zero idNonzero
  have bound := origin.toNat_lt
  have idBound := id.toNat_lt
  have different : id.toNat ≠ origin.toNat := fun same => other (UInt16.toNat_inj.mp same)
  unfold idDistance
  rw [toNat_nextSessionId]
  split <;> omega

/-- The search returns the first free id from the cursor on. -/
theorem findFreeId_skips {sessionSet : Finset UInt16} {start : UInt16} {rounds : Nat}
    {current id other : UInt16} (running : current ≠ 0)
    (search : Runtime.findFreeId sessionSet start rounds current = some (some id))
    (nonzero : other ≠ 0) (closer : idDistance current other < idDistance current id) :
    other ∈ sessionSet := by
  induction rounds generalizing current with
  | zero => cases search
  | succ rounds inductionHypothesis =>
      have found := Runtime.findFreeId_spec search
      unfold Runtime.findFreeId at search
      dsimp only at search
      rw [if_neg running] at search
      by_cases free : current ∉ sessionSet
      · rw [if_pos free] at search
        rw [← Option.some.inj (Option.some.inj search), idDistance_self] at closer
        exact absurd closer (Nat.not_lt_zero _)
      · rw [if_neg free] at search
        have used : current ∈ sessionSet := Decidable.not_not.mp free
        have goesOn : (if nextSessionId current = start then some none
            else Runtime.findFreeId sessionSet start rounds (nextSessionId current)) =
              some (some id) := search
        split at goesOn
        · cases goesOn
        · by_cases here : other = current
          · rw [here]
            exact used
          · have away : id ≠ current := fun same => found.1 (same ▸ used)
            have fromOther := idDistance_nextSessionId running nonzero here
            have fromId := idDistance_nextSessionId running found.2 away
            exact inductionHypothesis (nextSessionId_ne_zero current) goesOn (by omega)

/-! ## Histories of the store -/

namespace Runtime

/-- A recorded call of the store is an allocation that returned an id. -/
def Issues (taken : Runtime × StoreCall) (id : UInt16) : Prop :=
  match taken.2 with
  | .allocateSession env encap =>
      ∃ result, taken.1.allocateSession env encap = some result ∧ result.2 = (id, none)
  | _ => False

/-- An id is in use now or was in use before some recorded call. -/
def Seen (past : List (Runtime × StoreCall)) (now : Runtime) (id : UInt16) : Prop :=
  id ∈ now.store.sessionSet ∨ ∃ taken ∈ past, id ∈ taken.1.store.sessionSet

theorem Seen.later {past : List (Runtime × StoreCall)} {now : Runtime} {id : UInt16}
    (seen : Seen past now id) (call : StoreCall) (after : Runtime) :
    Seen ((now, call) :: past) after id := by
  rcases seen with current | ⟨taken, member, used⟩
  · exact .inr ⟨(now, call), List.mem_cons_self, current⟩
  · exact .inr ⟨taken, List.mem_cons_of_mem _ member, used⟩

/-- What an allocation that returns an id found and leaves. -/
theorem allocateSession_issue {now : Runtime} (invariant : StoreInvariant now) {env : Env}
    {encap : Encapsulation} {result : Runtime × UInt16 × Option String} {id : UInt16}
    (allocated : now.allocateSession env encap = some result) (issued : result.2 = (id, none)) :
    id ≠ 0 ∧ id ∉ now.store.sessionSet ∧
      (forall other, other ≠ 0 ->
        idDistance now.store.nextSessionId other < idDistance now.store.nextSessionId id ->
          other ∈ now.store.sessionSet) ∧
      result.1.store.sessionSet = insert id now.store.sessionSet ∧
      result.1.store.nextSessionId = nextSessionId id := by
  unfold allocateSession at allocated
  rcases Option.map_eq_some_iff.mp allocated with ⟨search, searched, equal⟩
  cases search with
  | none =>
      rw [← equal] at issued
      cases issued
  | some found =>
      have free := findFreeId_spec searched
      have entered := enterSession_eq invariant env encap free.1
      dsimp only at equal
      rw [entered] at equal
      rw [← equal] at issued ⊢
      have same : found = id := (Prod.mk.inj issued).1
      rw [same] at searched free
      rw [same]
      exact ⟨free.2, free.1, fun other nonzero closer =>
        findFreeId_skips invariant.cursor searched nonzero closer, rfl, rfl⟩

/-- Going from one id to another over a third one. -/
theorem idDistance_add (first second third : UInt16) :
    idDistance first second + idDistance second third = idDistance first third ∨
      idDistance first second + idDistance second third = idDistance first third + 65535 := by
  have firstBound := first.toNat_lt
  have secondBound := second.toNat_lt
  have thirdBound := third.toNat_lt
  unfold idDistance
  omega

theorem idDistance_lt (first second : UInt16) : idDistance first second < 65535 := by
  unfold idDistance
  omega

/-- Since an id was issued the cursor has gone around, or it is on its way and
has seen every id it passed. -/
def Rounds (id : UInt16) (past : List (Runtime × StoreCall)) (now : Runtime) : Prop :=
  (forall other, other ≠ 0 -> other ≠ id -> Seen past now other) ∨
    now.store.nextSessionId ≠ id ∧ forall other, other ≠ 0 -> other ≠ id ->
      idDistance id other < idDistance id now.store.nextSessionId -> Seen past now other

/-- A call that leaves the cursor where it is. -/
theorem Rounds.later {id : UInt16} {past : List (Runtime × StoreCall)} {now after : Runtime}
    (rounds : Rounds id past now) (call : StoreCall)
    (cursor : after.store.nextSessionId = now.store.nextSessionId) :
    Rounds id ((now, call) :: past) after := by
  rcases rounds with all | ⟨away, passed⟩
  · exact .inl (fun other nonzero different => (all other nonzero different).later call after)
  · refine .inr ⟨cursor ▸ away, fun other nonzero different closer => ?_⟩
    rw [cursor] at closer
    exact (passed other nonzero different closer).later call after

/-- An allocation that goes past the id completes the round. -/
theorem Rounds.complete {id found : UInt16} {past : List (Runtime × StoreCall)} {now : Runtime}
    (rounds : Rounds id past now) (idNonzero : id ≠ 0) (cursor : now.store.nextSessionId ≠ 0)
    (skipped : forall other, other ≠ 0 ->
      idDistance now.store.nextSessionId other < idDistance now.store.nextSessionId found ->
        other ∈ now.store.sessionSet)
    (passes : idDistance now.store.nextSessionId id ≤ idDistance now.store.nextSessionId found) :
    forall other, other ≠ 0 -> other ≠ id -> Seen past now other := by
  rcases rounds with all | ⟨away, passed⟩
  · exact all
  · intro other nonzero different
    by_cases closer : idDistance id other < idDistance id now.store.nextSessionId
    · exact passed other nonzero different closer
    · refine .inl (skipped other nonzero ?_)
      have apart : idDistance now.store.nextSessionId other ≠
          idDistance now.store.nextSessionId id :=
        fun same => different (eq_of_idDistance nonzero idNonzero same)
      have off : idDistance id now.store.nextSessionId ≠ idDistance id id :=
        fun same => away (eq_of_idDistance cursor idNonzero same)
      have there := idDistance_add id now.store.nextSessionId other
      have back := idDistance_add id now.store.nextSessionId id
      have self := idDistance_self id
      have bound := idDistance_lt now.store.nextSessionId other
      have otherBound := idDistance_lt id other
      have backBound := idDistance_lt now.store.nextSessionId id
      omega

/-- An allocation of another id moves the cursor on. -/
theorem Rounds.issue {id found : UInt16} {past : List (Runtime × StoreCall)} {now after : Runtime}
    (rounds : Rounds id past now) (idNonzero : id ≠ 0) (cursor : now.store.nextSessionId ≠ 0)
    (call : StoreCall) (foundNonzero : found ≠ 0)
    (skipped : forall other, other ≠ 0 ->
      idDistance now.store.nextSessionId other < idDistance now.store.nextSessionId found ->
        other ∈ now.store.sessionSet)
    (sessionSet : after.store.sessionSet = insert found now.store.sessionSet)
    (moved : after.store.nextSessionId = nextSessionId found) :
    Rounds id ((now, call) :: past) after := by
  by_cases passes : idDistance now.store.nextSessionId id ≤ idDistance now.store.nextSessionId found
  · refine .inl (fun other nonzero different => ?_)
    exact (rounds.complete idNonzero cursor skipped passes other nonzero different).later call after
  · have reached : forall other, other ≠ 0 -> other ≠ id ->
        idDistance id other ≤ idDistance id found -> Seen ((now, call) :: past) after other := by
      intro other nonzero different near
      rcases rounds with all | ⟨_, passed⟩
      · exact (all other nonzero different).later call after
      · by_cases closer : idDistance id other < idDistance id now.store.nextSessionId
        · exact (passed other nonzero different closer).later call after
        · by_cases here : other = found
          · rw [here]
            refine .inl ?_
            rw [sessionSet]
            exact Finset.mem_insert_self _ _
          · refine Seen.later (.inl (skipped other nonzero ?_)) call after
            have apart : idDistance id other ≠ idDistance id found :=
              fun same => here (eq_of_idDistance nonzero foundNonzero same)
            have there := idDistance_add id now.store.nextSessionId other
            have toFound := idDistance_add id now.store.nextSessionId found
            have back := idDistance_add id now.store.nextSessionId id
            have self := idDistance_self id
            have bound := idDistance_lt now.store.nextSessionId other
            have otherBound := idDistance_lt id other
            omega
    by_cases around : nextSessionId found = id
    · refine .inl (fun other nonzero different => reached other nonzero different ?_)
      have apart : idDistance found other ≠ idDistance found id :=
        fun same => different (eq_of_idDistance nonzero idNonzero same)
      have one : idDistance found id = idDistance (nextSessionId found) id + 1 := by
        refine idDistance_nextSessionId foundNonzero idNonzero ?_
        intro same
        rw [same] at passes
        exact passes (Nat.le_refl _)
      rw [around, idDistance_self] at one
      have back := idDistance_add id found id
      have self := idDistance_self id
      have there := idDistance_lt id other
      omega
    · refine .inr ⟨moved ▸ around, fun other nonzero different closer => ?_⟩
      refine reached other nonzero different ?_
      rw [moved] at closer
      have one : idDistance found id = idDistance (nextSessionId found) id + 1 := by
        refine idDistance_nextSessionId foundNonzero idNonzero ?_
        intro same
        rw [same] at passes
        exact passes (Nat.le_refl _)
      have fromNext := idDistance_add id (nextSessionId found) id
      have fromFound := idDistance_add id found id
      have self := idDistance_self id
      have bound := idDistance_lt id (nextSessionId found)
      have otherBound := idDistance_lt id found
      have last := idDistance_lt (nextSessionId found) id
      omega

theorem cursor_deallocateSession {runtime : Runtime} (invariant : StoreInvariant runtime)
    (sid : UInt16) :
    (runtime.deallocateSession sid).1.store.nextSessionId = runtime.store.nextSessionId := by
  by_cases member : sid ∈ runtime.store.sessionSet
  · rcases deallocateSession_of_mem invariant member with ⟨_, _, _, _, _, _, store⟩
    rw [store]
  · rw [deallocateSession_of_not_mem member]

/-- `cleanup` leaves the cursor where it is. -/
theorem cursor_cleanup (runtime : Runtime) :
    runtime.cleanup.store.nextSessionId = runtime.store.nextSessionId := by
  unfold cleanup
  exact (@kept_foldl_collect _ PPPOESession.key _ _).cursor

/-- A call of the store moves the cursor, or issues an id. -/
theorem storeStep_cursor {now after : Runtime} (invariant : StoreInvariant now) {call : StoreCall}
    (taken : storeStep now call = some after) :
    after.store.nextSessionId = now.store.nextSessionId ∨
      ∃ found, found ≠ 0 ∧
        (forall other, other ≠ 0 ->
          idDistance now.store.nextSessionId other < idDistance now.store.nextSessionId found ->
            other ∈ now.store.sessionSet) ∧
        after.store.sessionSet = insert found now.store.sessionSet ∧
        after.store.nextSessionId = nextSessionId found := by
  cases call with
  | pendeSession conn =>
      rw [← Option.some.inj taken]
      exact .inl (@kept_pendeSession _ PPPOESession.key now conn).cursor
  | checkSession conn =>
      rw [← Option.some.inj taken]
      exact .inl (@kept_checkSession _ PPPOESession.key now conn).cursor
  | clearPendingSession conn =>
      rw [← Option.some.inj taken]
      exact .inl rfl
  | allocateSession env encap =>
      rcases Option.map_eq_some_iff.mp taken with ⟨result, allocated, equal⟩
      rw [← equal]
      rcases allocateSession_cases invariant env encap allocated with full | ⟨found, _, _, entered⟩
      · rw [full]
        exact .inl rfl
      · have issued : result.2 = (found, none) := by rw [entered]
        rcases allocateSession_issue invariant allocated issued with
          ⟨nonzero, _, skipped, sessionSet, moved⟩
        exact .inr ⟨found, nonzero, skipped, sessionSet, moved⟩
  | deallocateSession sid =>
      rw [← Option.some.inj taken]
      exact .inl (cursor_deallocateSession invariant sid)
  | cleanup =>
      rw [← Option.some.inj taken]
      exact .inl (cursor_cleanup now)

/-- One call keeps the account of the round. -/
theorem Rounds.storeStep {id : UInt16} {past : List (Runtime × StoreCall)} {now after : Runtime}
    (rounds : Rounds id past now) (idNonzero : id ≠ 0) (invariant : StoreInvariant now)
    {call : StoreCall} (taken : Runtime.storeStep now call = some after) :
    Rounds id ((now, call) :: past) after := by
  rcases storeStep_cursor invariant taken with kept | ⟨found, nonzero, skipped, sessionSet, moved⟩
  · exact rounds.later call kept
  · exact rounds.issue idNonzero invariant.cursor call nonzero skipped sessionSet moved

/-- Right behind the issue of an id there is nothing to account for. -/
theorem rounds_start {id : UInt16} (idNonzero : id ≠ 0) {now : Runtime}
    (behind : now.store.nextSessionId = nextSessionId id) : Rounds id [] now := by
  have one : idDistance id (nextSessionId id) = 1 := by
    have bound := id.toNat_lt
    have positive := toNat_pos_of_ne_zero idNonzero
    unfold idDistance
    rw [toNat_nextSessionId]
    split <;> omega
  refine .inr ⟨?_, fun other nonzero different closer => ?_⟩
  · intro same
    rw [behind] at same
    rw [same, idDistance_self] at one
    cases one
  · rw [behind, one] at closer
    have none : idDistance id other = idDistance id id := by
      rw [idDistance_self]
      exact Nat.lt_one_iff.mp closer
    exact absurd (eq_of_idDistance nonzero idNonzero none) different

/-- The account of the round in every run that begins behind the issue of an id. -/
theorem rounds_of_run {id : UInt16} (idNonzero : id ≠ 0) {start state : Runtime}
    {past : List (Runtime × StoreCall)} (invariant : StoreInvariant start)
    (behind : start.store.nextSessionId = nextSessionId id)
    (run : Run storeStep anyStep start past state) :
    StoreInvariant state ∧ Rounds id past state := by
  induction run with
  | start => exact ⟨invariant, rounds_start idNonzero behind⟩
  | next _ _ taken inductionHypothesis =>
      have kept := storeInvariant_storeStep inductionHypothesis.1 _ taken
      exact ⟨kept, inductionHypothesis.2.storeStep idNonzero inductionHypothesis.1 taken⟩

/-- What an allocation that issues an id is in a run. -/
theorem issues_iff {now after : Runtime} {call : StoreCall} {id : UInt16}
    (taken : Runtime.storeStep now call = some after) (issued : Issues (now, call) id) :
    ∃ env encap result, now.allocateSession env encap = some result ∧ result.2 = (id, none) ∧
      result.1 = after := by
  cases call with
  | allocateSession env encap =>
      rcases issued with ⟨result, allocated, isId⟩
      rcases Option.map_eq_some_iff.mp taken with ⟨same, allocatedSame, equal⟩
      dsimp only at allocated
      rw [allocated] at allocatedSame
      exact ⟨env, encap, result, allocated, isId, (Option.some.inj allocatedSame) ▸ equal⟩
  | _ => exact issued.elim

/-- In every run of calls of the store, every other session id was in use at
some moment between two issues of one id. -/
theorem used_between_issues {start state : Runtime} (empty : start.store = {})
    {newest between oldest : List (Runtime × StoreCall)} {first second : Runtime × StoreCall}
    {id : UInt16}
    (run : Run storeStep anyStep start (newest ++ second :: (between ++ first :: oldest)) state)
    (issuedFirst : Issues first id) (issuedSecond : Issues second id) :
    forall other, other ≠ 0 -> other ≠ id ->
      ∃ taken ∈ second :: between, other ∈ taken.1.store.sessionSet := by
  rcases run.split with ⟨_, untilSecond, _⟩
  cases untilSecond with
  | @next _ later afterSecond secondCall beforeSecond _ takenSecond =>
      rcases beforeSecond.split with ⟨middle, untilFirst, sinceFirst⟩
      cases untilFirst with
      | @next _ now _ firstCall beforeFirst _ takenFirst =>
          have origin : StoreInvariant now :=
            storeInvariant_of_calls empty beforeFirst.reachable
          rcases issues_iff takenFirst issuedFirst with ⟨_, _, _, allocated, isId, equal⟩
          have found := allocateSession_issue origin allocated isId
          have behind : middle.store.nextSessionId = nextSessionId id := equal ▸ found.2.2.2.2
          have invariant := storeInvariant_storeStep origin firstCall takenFirst
          have rounds := rounds_of_run found.1 invariant behind sinceFirst
          rcases issues_iff takenSecond issuedSecond with ⟨_, _, _, allocatedAgain, isAgain, _⟩
          have again := allocateSession_issue rounds.1 allocatedAgain isAgain
          intro other nonzero different
          have seen := rounds.2.complete found.1 rounds.1.cursor again.2.2.1 (Nat.le_refl _) other
            nonzero different
          rcases seen with current | ⟨taken, member, used⟩
          · exact ⟨(later, secondCall), List.mem_cons_self, current⟩
          · exact ⟨taken, List.mem_cons_of_mem _ member, used⟩

/-! ## The ids do come around -/

theorem toNat_iterate_nextSessionId {id : UInt16} (nonzero : id ≠ 0) (times : Nat) :
    (nextSessionId^[times] id).toNat = (id.toNat - 1 + times) % 65535 + 1 := by
  have positive := toNat_pos_of_ne_zero nonzero
  have bound := id.toNat_lt
  induction times with
  | zero =>
      rw [Function.iterate_zero_apply]
      omega
  | succ times inductionHypothesis =>
      rw [Function.iterate_succ_apply', toNat_nextSessionId, inductionHypothesis]
      split <;> omega

/-- A session that is allocated where none is, and deallocated at once. -/
theorem allocate_and_release {now : Runtime} (invariant : StoreInvariant now)
    (none : now.store.sessionSet = ∅) (env : Env) (encap : Encapsulation) :
    ∃ middle after, storeStep now (.allocateSession env encap) = some middle ∧
      Issues (now, .allocateSession env encap) now.store.nextSessionId ∧
      storeStep middle (.deallocateSession now.store.nextSessionId) = some after ∧
      StoreInvariant after ∧ after.store.sessionSet = ∅ ∧
      after.store.nextSessionId = nextSessionId now.store.nextSessionId := by
  have free : now.store.nextSessionId ∉ now.store.sessionSet := by
    rw [none]
    exact Finset.notMem_empty _
  have searched : findFreeId now.store.sessionSet now.store.nextSessionId idRounds
      now.store.nextSessionId = some (some now.store.nextSessionId) := by
    unfold idRounds findFreeId
    simp only [if_neg invariant.cursor, if_pos free]
  have allocated : now.allocateSession env encap =
      some (now.enterSession env encap now.store.nextSessionId) := by
    unfold allocateSession
    simp only [searched, Option.map_some]
  have entered := enterSession_eq invariant env encap free
  have isId : (now.enterSession env encap now.store.nextSessionId).2 =
      (now.store.nextSessionId, Option.none) := by
    rw [entered]
  have taken : storeStep now (.allocateSession env encap) =
      some (now.enterSession env encap now.store.nextSessionId).1 :=
    congrArg (Option.map Prod.fst) allocated
  have kept := storeInvariant_storeStep invariant _ taken
  rcases allocateSession_issue invariant allocated isId with ⟨_, _, _, sessionSet, moved⟩
  have member : now.store.nextSessionId ∈
      (now.enterSession env encap now.store.nextSessionId).1.store.sessionSet := by
    rw [sessionSet]
    exact Finset.mem_insert_self _ _
  rcases deallocateSession_of_mem kept member with ⟨_, _, _, _, _, _, store⟩
  refine ⟨_, _, taken, ⟨_, allocated, isId⟩, rfl, storeInvariant_deallocateSession kept _, ?_, ?_⟩
  · rw [store]
    dsimp only
    rw [sessionSet, none]
    exact Finset.erase_insert (Finset.notMem_empty _)
  · rw [store]
    exact moved

/-- A run that allocates and deallocates some number of times. -/
theorem run_allocate_and_release (env : Env) (encap : Encapsulation) (times : Nat) {now : Runtime}
    (invariant : StoreInvariant now) (none : now.store.sessionSet = ∅) :
    ∃ past after, Run storeStep anyStep now past after ∧ StoreInvariant after ∧
      after.store.sessionSet = ∅ ∧
      after.store.nextSessionId = nextSessionId^[times] now.store.nextSessionId := by
  induction times generalizing now with
  | zero => exact ⟨[], now, .start, invariant, none, rfl⟩
  | succ times inductionHypothesis =>
      rcases allocate_and_release invariant none env encap with
        ⟨middle, released, allocated, _, deallocated, kept, empty, cursor⟩
      rcases inductionHypothesis kept empty with ⟨past, after, run, keptAfter, emptyAfter, moved⟩
      refine ⟨_, after, (Run.next (.next .start trivial allocated) trivial deallocated).append run,
        keptAfter, emptyAfter, ?_⟩
      rw [moved, cursor, Function.iterate_succ_apply]

/-- In a run that issues the id 1 twice, the id 65535 was in use between. -/
theorem used_between_issues_of_first :
    ∃ between first second state,
      Run storeStep anyStep (sampleDaemon [] {}) (second :: (between ++ [first])) state ∧
        Issues first 1 ∧ Issues second 1 ∧
        ∃ taken ∈ second :: between, 65535 ∈ taken.1.store.sessionSet := by
  have empty := (fresh_sampleDaemon [] {}).store
  have none : (sampleDaemon [] {}).store.sessionSet = ∅ := by rw [empty]
  rcases allocate_and_release (storeInvariant_empty empty) none {} (sampleLink 1) with
    ⟨middle, released, allocated, issued, deallocated, kept, emptied, cursor⟩
  rcases run_allocate_and_release {} (sampleLink 1) 65534 kept emptied with
    ⟨past, around, run, keptAround, emptiedAround, moved⟩
  have back : around.store.nextSessionId = 1 := by
    rw [moved, cursor, ← Function.iterate_succ_apply]
    refine UInt16.toNat_inj.mp ?_
    rw [empty, toNat_iterate_nextSessionId (by decide)]
    rfl
  rcases allocate_and_release keptAround emptiedAround {} (sampleLink 1) with
    ⟨last, _, allocatedAgain, issuedAgain, _⟩
  rw [back] at issuedAgain
  have whole : Run storeStep anyStep (sampleDaemon [] {})
      ((around, .allocateSession {} (sampleLink 1)) ::
        ((past ++ [(middle, .deallocateSession (sampleDaemon [] {}).store.nextSessionId)]) ++
          [(sampleDaemon [] {}, .allocateSession {} (sampleLink 1))])) last := by
    rw [List.append_assoc]
    exact .next ((Run.next (.next .start trivial allocated) trivial deallocated).append run) trivial
      allocatedAgain
  have used := @used_between_issues _ _ empty [] _ _ _ _ _ whole issued issuedAgain 65535
    (by decide) (by decide)
  exact ⟨_, _, _, last, whole, issued, issuedAgain, used⟩

end Runtime

end Pppcpd
