import Pppcpd.Foundation.Cycle
import Pppcpd.Runtime.References
import Pppcpd.Runtime.Reissue

namespace Pppcpd

open Foundation

/-!
# Which session id is allocated

From any cursor the ids 1 to 65535 form one cycle, so the search of
`allocateSession` tries each of them once and ends.
-/

/-- The session ids in the order in which they are tried from a cursor on. -/
def idsFrom (start : UInt16) : List UInt16 := List.iterate nextSessionId start 65535

theorem minimalPeriod_nextSessionId {start : UInt16} (nonzero : start ≠ 0) :
    Function.minimalPeriod nextSessionId start = 65535 := by
  have positive := toNat_pos_of_ne_zero nonzero
  have bound := start.toNat_lt
  have returns : Function.IsPeriodicPt nextSessionId 65535 start := by
    refine UInt16.toNat_inj.mp ?_
    rw [Runtime.toNat_iterate_nextSessionId nonzero]
    omega
  have period := congrArg UInt16.toNat (@Function.iterate_minimalPeriod _ nextSessionId start)
  rw [Runtime.toNat_iterate_nextSessionId nonzero] at period
  have least := returns.minimalPeriod_le (by decide)
  have some_period := returns.minimalPeriod_pos (by decide)
  omega

/-- Every session id is tried once. -/
theorem nodup_idsFrom {start : UInt16} (nonzero : start ≠ 0) : (idsFrom start).Nodup := by
  unfold idsFrom
  rw [← minimalPeriod_nextSessionId nonzero]
  exact nodup_iterate_minimalPeriod nextSessionId start

/-- Zero is the only id that is not tried. -/
theorem mem_idsFrom {start : UInt16} (nonzero : start ≠ 0) (id : UInt16) :
    id ∈ idsFrom start ↔ id ≠ 0 := by
  unfold idsFrom
  rw [List.mem_iterate]
  constructor
  · rintro ⟨times, _, equal⟩ zero
    have none : (nextSessionId^[times] start).toNat = 0 := by
      rw [← equal, zero]
      rfl
    rw [Runtime.toNat_iterate_nextSessionId nonzero] at none
    omega
  · intro idNonzero
    have positive := toNat_pos_of_ne_zero nonzero
    have idPositive := toNat_pos_of_ne_zero idNonzero
    have bound := id.toNat_lt
    have startBound := start.toNat_lt
    refine ⟨idDistance start id, Runtime.idDistance_lt start id, UInt16.toNat_inj.mp ?_⟩
    rw [Runtime.toNat_iterate_nextSessionId nonzero]
    unfold idDistance
    omega

namespace Runtime

/-- The loop of `allocateSession` is a search around the cycle of the ids. -/
theorem findFreeId_eq_searchCycle (sessionSet : Finset UInt16) (start : UInt16) (rounds : Nat)
    {current : UInt16} (running : current ≠ 0) :
    findFreeId sessionSet start rounds current =
      searchCycle nextSessionId (fun id => decide (id ∉ sessionSet)) start rounds current := by
  induction rounds generalizing current with
  | zero => rfl
  | succ rounds inductionHypothesis =>
      unfold findFreeId searchCycle
      simp only [if_neg running, decide_eq_true_eq]
      rw [← inductionHypothesis (nextSessionId_ne_zero current)]
      rfl

/-- The search ends with the first id that is not in use, if there is one. -/
theorem findFreeId_eq (sessionSet : Finset UInt16) {start : UInt16} (nonzero : start ≠ 0) :
    findFreeId sessionSet start idRounds start =
      some ((idsFrom start).find? (fun id => decide (id ∉ sessionSet))) := by
  have period := minimalPeriod_nextSessionId nonzero
  rw [findFreeId_eq_searchCycle sessionSet start idRounds nonzero, searchCycle_eq]
  · rw [period]
    rfl
  · rw [period]
    decide
  · rw [period]
    decide

/-- The store with a new session under an id, and the cursor behind it. -/
def registering (runtime : Runtime) (env : Env) (encap : Encapsulation) (id : UInt16) : Runtime :=
  { runtime with
    sessions := runtime.sessions.make (.construct env.session encap id)
    store := { runtime.store with
      activeSessions :=
        runtime.store.activeSessions.insert (.ofEncap encap id) runtime.sessions.length
      sessionSet := insert id runtime.store.sessionSet
      nextSessionId := nextSessionId id } }

/-- What `allocateSession` should do in a state of the store. -/
structure AllocationLaw (runtime : Runtime) : Prop where
  /-- The order in which ids are tried has each id from 1 to 65535 once. -/
  complete : (idsFrom runtime.store.nextSessionId).Nodup ∧
    forall id, id ∈ idsFrom runtime.store.nextSessionId ↔ id ≠ 0
  /-- The first id in this order that is not in use is issued. -/
  issues : forall env encap used id rest,
    idsFrom runtime.store.nextSessionId = used ++ id :: rest ->
      (∀ other ∈ used, other ∈ runtime.store.sessionSet) -> id ∉ runtime.store.sessionSet ->
        runtime.allocateSession env encap = some (runtime.registering env encap id, id, none)
  /-- There is an error exactly when all ids are in use, and it changes nothing. -/
  refuses : forall env encap, ∃ result, runtime.allocateSession env encap = some result ∧
    (result.2.2 ≠ none ↔ forall id, id ≠ 0 -> id ∈ runtime.store.sessionSet) ∧
    (result.2.2 ≠ none -> result.1 = runtime)

theorem allocateSession_eq {runtime : Runtime} (invariant : StoreInvariant runtime) (env : Env)
    (encap : Encapsulation) :
    runtime.allocateSession env encap =
      some (match (idsFrom runtime.store.nextSessionId).find?
          (fun id => decide (id ∉ runtime.store.sessionSet)) with
        | none => (runtime, 0, some "Maximum of sessions")
        | some id => (runtime.registering env encap id, id, none)) := by
  unfold allocateSession
  dsimp only
  rw [findFreeId_eq _ invariant.cursor, Option.map_some]
  cases search : (idsFrom runtime.store.nextSessionId).find?
      (fun id => decide (id ∉ runtime.store.sessionSet)) with
  | none => rfl
  | some id =>
      have free : id ∉ runtime.store.sessionSet := by
        simpa using List.find?_some search
      exact congrArg some (enterSession_eq invariant env encap free)

theorem allocationLaw_of_invariant {runtime : Runtime} (invariant : StoreInvariant runtime) :
    AllocationLaw runtime := by
  have members := mem_idsFrom invariant.cursor
  refine ⟨⟨nodup_idsFrom invariant.cursor, members⟩, ?_, ?_⟩
  · intro env encap used id rest order inUse free
    have found : (idsFrom runtime.store.nextSessionId).find?
        (fun id => decide (id ∉ runtime.store.sessionSet)) = some id := by
      rw [order]
      refine List.find?_eq_some_iff_append.mpr ⟨decide_eq_true free, used, rest, rfl, ?_⟩
      intro other member
      simpa using inUse other member
    rw [allocateSession_eq invariant, found]
  · intro env encap
    refine ⟨_, allocateSession_eq invariant env encap, ?_⟩
    cases search : (idsFrom runtime.store.nextSessionId).find?
        (fun id => decide (id ∉ runtime.store.sessionSet)) with
    | none =>
        refine ⟨⟨fun _ id nonzero => ?_, fun _ => Option.some_ne_none _⟩, fun _ => rfl⟩
        have tried := List.find?_eq_none.mp search id ((members id).mpr nonzero)
        simpa using tried
    | some id =>
        have free : id ∉ runtime.store.sessionSet := by
          simpa using List.find?_some search
        have nonzero := (members id).mp (List.mem_of_find?_eq_some search)
        exact ⟨⟨fun failed => absurd rfl failed, fun full => absurd (full id nonzero) free⟩,
          fun failed => absurd rfl failed⟩

/-- The law holds in every state that is reached by operations of the store, in
any order, or by events of the daemon. -/
theorem allocationLaw_of_reachable {start runtime : Runtime} (fresh : start.Fresh)
    (reached : Reachable storeStep start runtime ∨ Reachable happen start runtime) :
    AllocationLaw runtime := by
  refine allocationLaw_of_invariant ?_
  rcases reached with calls | happenings
  · exact storeInvariant_of_calls fresh.store calls
  · exact (referenceInvariant_of_reachable fresh happenings).tables

/-- Allocations alone use the ids in their order, and the cursor wraps behind the last. -/
theorem exists_allocated : forall count, count ≤ 65535 -> ∃ now,
    Reachable storeStep (sampleDaemon [] {}) now ∧
      (forall id, id ∈ now.store.sessionSet ↔ id ≠ 0 ∧ id.toNat ≤ count) ∧
        now.store.nextSessionId.toNat = if count = 65535 then 1 else count + 1 := by
  intro count
  induction count with
  | zero =>
      intro _
      refine ⟨sampleDaemon [] {}, .refl storeStep _, fun id => ?_, rfl⟩
      have nothing : id ∉ (sampleDaemon [] {}).store.sessionSet := Finset.notMem_empty id
      have zero : id = 0 ↔ id.toNat = 0 := UInt16.toNat_inj.symm
      simp [nothing, zero]
  | succ count inductionHypothesis =>
      intro bound
      rcases inductionHypothesis (Nat.le_of_succ_le bound) with ⟨now, reached, ids, cursor⟩
      rw [if_neg (by omega)] at cursor
      have law := allocationLaw_of_invariant
        (storeInvariant_of_calls (fresh_sampleDaemon [] {}).store reached)
      have free : now.store.nextSessionId ∉ now.store.sessionSet := by
        rw [ids]
        omega
      have issued := law.issues {} (sampleLink 1) [] now.store.nextSessionId
        (List.iterate nextSessionId (nextSessionId now.store.nextSessionId) 65534) rfl
        (fun _ member => absurd member List.not_mem_nil) free
      have taken : storeStep now (.allocateSession {} (sampleLink 1)) =
          some (now.registering {} (sampleLink 1) now.store.nextSessionId) :=
        congrArg (Option.map Prod.fst) issued
      refine ⟨_, reached.next taken, fun id => ?_, ?_⟩
      · have own : id = now.store.nextSessionId ↔ id.toNat = count + 1 := by
          rw [← cursor]
          exact UInt16.toNat_inj.symm
        have zero : id = 0 ↔ id.toNat = 0 := UInt16.toNat_inj.symm
        show id ∈ insert now.store.nextSessionId now.store.sessionSet ↔ _
        rw [Finset.mem_insert, ids, own, Ne, zero]
        omega
      · show (nextSessionId now.store.nextSessionId).toNat = _
        rw [toNat_nextSessionId, cursor]

/-- All ids have been issued and the third is free again.  The search begins with two ids
that are in use. -/
theorem allocationLaw_when_wrapped : ∃ now, Reachable storeStep (sampleDaemon [] {}) now ∧
    AllocationLaw now ∧ now.store.nextSessionId = 1 ∧
      now.allocateSession {} (sampleLink 1) = some (now.registering {} (sampleLink 1) 3, 3, none) := by
  rcases exists_allocated 65535 (Nat.le_refl _) with ⟨full, reached, ids, cursor⟩
  have invariant := storeInvariant_of_calls (fresh_sampleDaemon [] {}).store reached
  have used : 3 ∈ full.store.sessionSet := (ids 3).mpr ⟨by decide, by decide⟩
  rcases deallocateSession_of_mem invariant used with ⟨_, _, _, _, _, _, store⟩
  have freed : Reachable storeStep (sampleDaemon [] {}) (full.deallocateSession 3).1 :=
    reached.next (rfl : storeStep full (.deallocateSession 3) = some _)
  have first : (full.deallocateSession 3).1.store.nextSessionId = 1 := by
    rw [store]
    exact UInt16.toNat_inj.mp cursor
  have law := allocationLaw_of_reachable (fresh_sampleDaemon [] {}) (.inl freed)
  refine ⟨_, freed, law, first,
    law.issues {} (sampleLink 1) [1, 2] 3 (List.iterate nextSessionId 4 65532) ?_ ?_ ?_⟩
  · rw [first]
    rfl
  · rw [store]
    rintro other member
    refine Finset.mem_erase.mpr ⟨fun same => ?_, (ids other).mpr ⟨fun same => ?_, ?_⟩⟩
    · rw [same] at member
      exact absurd member (by decide)
    · rw [same] at member
      exact absurd member (by decide)
    · exact Nat.le_of_lt_succ other.toNat_lt
  · rw [store]
    exact Finset.notMem_erase 3 _

end Runtime

end Pppcpd
