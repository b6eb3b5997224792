import Pppcpd.Foundation.Run
import Pppcpd.Runtime.State

namespace Pppcpd

open Foundation

/-!
# The session store invariant

Three structures have to agree: the set of session ids, the map of active
sessions with its four-part key, and the cursor.  A session is torn down by its
id alone, through a search over the map, so what makes a teardown hit the right
session is that no two entries share an id.
-/

/-- The agreement of the three structures. -/
structure StoreInvariant (runtime : Runtime) : Prop where
  keyed : forall key ref, runtime.store.activeSessions.lookup key = some ref ->
    ∃ session, runtime.sessions.deref ref = some session ∧ session.key = key
  ids : forall id, id ∈ runtime.store.sessionSet ↔
    ∃ key ref session, runtime.store.activeSessions.lookup key = some ref ∧
      runtime.sessions.deref ref = some session ∧ session.sessionId = id
  unique : forall key other ref otherRef,
    runtime.store.activeSessions.lookup key = some ref ->
    runtime.store.activeSessions.lookup other = some otherRef ->
    key.sessionId = other.sessionId -> key = other
  noZero : 0 ∉ runtime.store.sessionSet
  cursor : runtime.store.nextSessionId ≠ 0

/-- The session tables are the same, and so is a view of every session object. -/
structure Kept {View : Type} (view : PPPOESession -> View) (before after : Runtime) : Prop where
  active : after.store.activeSessions = before.store.activeSessions
  ids : after.store.sessionSet = before.store.sessionSet
  cursor : after.store.nextSessionId = before.store.nextSessionId
  objects : forall ref, (after.sessions.deref ref).map view = (before.sessions.deref ref).map view

namespace Kept

variable {View : Type} {view : PPPOESession -> View}

theorem refl (runtime : Runtime) : Kept view runtime runtime := ⟨rfl, rfl, rfl, fun _ => rfl⟩

theorem trans {first second third : Runtime} (left : Kept view first second)
    (right : Kept view second third) : Kept view first third :=
  ⟨right.active.trans left.active, right.ids.trans left.ids, right.cursor.trans left.cursor,
    fun ref => (right.objects ref).trans (left.objects ref)⟩

theorem symm {before after : Runtime} (kept : Kept view before after) : Kept view after before :=
  ⟨kept.active.symm, kept.ids.symm, kept.cursor.symm, fun ref => (kept.objects ref).symm⟩

/-- A session object is there after a step if it was there before, and looks
the same. -/
theorem session {before after : Runtime} (kept : Kept view before after) {ref : Nat}
    {session : PPPOESession} (found : before.sessions.deref ref = some session) :
    ∃ later, after.sessions.deref ref = some later ∧ view later = view session := by
  have same := kept.objects ref
  rw [found] at same
  exact Option.map_eq_some_iff.mp same

/-- A coarser view is kept as well. -/
theorem map {Other : Type} {before after : Runtime} (kept : Kept view before after)
    (project : View -> Other) : Kept (fun session => project (view session)) before after := by
  refine ⟨kept.active, kept.ids, kept.cursor, fun ref => ?_⟩
  have same := congrArg (Option.map project) (kept.objects ref)
  rw [Option.map_map, Option.map_map] at same
  exact same

/-- A change of neither the tables nor the objects. -/
theorem of_same {before after : Runtime} (store : after.store = before.store)
    (sessions : after.sessions = before.sessions) : Kept view before after :=
  ⟨by rw [store], by rw [store], by rw [store], fun _ => by rw [sessions]⟩

end Kept

/-- What keeps the tables and the identities keeps the invariant. -/
theorem Kept.invariant {before after : Runtime} (kept : Kept PPPOESession.key before after)
    (invariant : StoreInvariant before) : StoreInvariant after where
  keyed := by
    intro key ref found
    rw [kept.active] at found
    rcases invariant.keyed key ref found with ⟨session, present, keyed⟩
    rcases kept.session present with ⟨later, still, same⟩
    exact ⟨later, still, same.trans keyed⟩
  ids := by
    intro id
    rw [kept.ids, invariant.ids, kept.active]
    constructor
    · rintro ⟨key, ref, session, found, present, equal⟩
      rcases kept.session present with ⟨later, still, same⟩
      exact ⟨key, ref, later, found, still, (congrArg PPPOEKey.sessionId same).trans equal⟩
    · rintro ⟨key, ref, session, found, present, equal⟩
      rcases kept.symm.session present with ⟨earlier, still, same⟩
      exact ⟨key, ref, earlier, found, still, (congrArg PPPOEKey.sessionId same).trans equal⟩
  unique := by
    rw [kept.active]
    exact invariant.unique
  noZero := by
    rw [kept.ids]
    exact invariant.noZero
  cursor := by
    rw [kept.cursor]
    exact invariant.cursor

namespace Runtime

/-! ## Frames of the operations -/

@[simp] theorem collect_store (runtime : Runtime) (ref : Nat) :
    (runtime.collect ref).store = runtime.store := by
  unfold collect
  split
  · rfl
  · split <;> rfl

@[simp] theorem collect_aaa (runtime : Runtime) (ref : Nat) :
    (runtime.collect ref).aaa = runtime.aaa := by
  unfold collect
  split
  · rfl
  · split <;> rfl

/-- A destroyed object keeps what it held. -/
@[simp] theorem deref_collect (runtime : Runtime) (ref other : Nat) :
    (runtime.collect ref).sessions.deref other = runtime.sessions.deref other := by
  unfold collect
  split
  · rfl
  · split
    · exact Heap.deref_destroy _ _ _
    · rfl

section

variable {View : Type} {view : PPPOESession -> View}

theorem kept_collect (runtime : Runtime) (ref : Nat) : Kept view runtime (runtime.collect ref) :=
  ⟨by rw [collect_store], by rw [collect_store], by rw [collect_store],
    fun other => by rw [deref_collect]⟩

theorem kept_foldl_collect (refs : List Nat) (runtime : Runtime) :
    Kept view runtime (refs.foldl (fun runtime ref => runtime.collect ref) runtime) := by
  induction refs generalizing runtime with
  | nil => exact .refl runtime
  | cons ref rest inductionHypothesis =>
      exact (kept_collect runtime ref).trans (inductionHypothesis (runtime.collect ref))

theorem kept_pendeSession (runtime : Runtime) (conn : PPPOEConn) :
    Kept view runtime (runtime.pendeSession conn).1 := by
  unfold pendeSession
  split
  · exact .refl runtime
  · exact ⟨rfl, rfl, rfl, fun _ => rfl⟩

theorem kept_checkSession (runtime : Runtime) (conn : PPPOEConn) :
    Kept view runtime (runtime.checkSession conn).1 := by
  unfold checkSession
  split
  · exact ⟨rfl, rfl, rfl, fun _ => rfl⟩
  · exact .refl runtime

theorem kept_clearPendingSession (runtime : Runtime) (conn : PPPOEConn) :
    Kept view runtime (runtime.clearPendingSession conn) :=
  ⟨rfl, rfl, rfl, fun _ => rfl⟩

end

/-! ## Allocation -/

/-- The search of `allocateSession` returns an id that is free and not zero. -/
theorem findFreeId_spec {sessionSet : Finset UInt16} {start : UInt16} {rounds : Nat}
    {current id : UInt16} (search : findFreeId sessionSet start rounds current = some (some id)) :
    id ∉ sessionSet ∧ id ≠ 0 := by
  induction rounds generalizing current with
  | zero => cases search
  | succ rounds inductionHypothesis =>
      have nonzero : (if current = 0 then (1 : UInt16) else current) ≠ 0 := by
        split
        · decide
        · assumption
      unfold findFreeId at search
      dsimp only at search
      generalize (if current = 0 then (1 : UInt16) else current) = candidate at search nonzero
      by_cases free : candidate ∉ sessionSet
      · rw [if_pos free] at search
        have equal := Option.some.inj (Option.some.inj search)
        rw [← equal]
        exact ⟨free, nonzero⟩
      · rw [if_neg free] at search
        generalize (if candidate + 1 = 0 then (1 : UInt16) else candidate + 1) = next at search
        by_cases wrapped : next = start
        · rw [if_pos wrapped] at search
          cases search
        · rw [if_neg wrapped] at search
          exact inductionHypothesis search

/-- No key with an id that is not in use is in the table. -/
theorem key_not_mem_of_free {runtime : Runtime} (invariant : StoreInvariant runtime)
    (encap : Encapsulation) {id : UInt16} (free : id ∉ runtime.store.sessionSet) :
    PPPOEKey.ofEncap encap id ∉ runtime.store.activeSessions := by
  intro member
  rcases Table.mem_iff_lookup.mp member with ⟨ref, found⟩
  rcases invariant.keyed _ _ found with ⟨session, present, keyed⟩
  exact free ((invariant.ids id).mpr
    ⟨_, ref, session, found, present, congrArg PPPOEKey.sessionId keyed⟩)

/-- With an id that is not in use both insertions of `allocateSession` succeed. -/
theorem enterSession_eq {runtime : Runtime} (invariant : StoreInvariant runtime) (env : Env)
    (encap : Encapsulation) {id : UInt16} (free : id ∉ runtime.store.sessionSet) :
    runtime.enterSession env encap id =
      ({ runtime with
          sessions := runtime.sessions.make (.construct env.session encap id)
          store := { runtime.store with
            activeSessions :=
              runtime.store.activeSessions.insert (.ofEncap encap id) runtime.sessions.length
            sessionSet := insert id runtime.store.sessionSet
            nextSessionId := if id + 1 = 0 then 1 else id + 1 } }, id, none) := by
  have fresh := key_not_mem_of_free invariant encap free
  simp [enterSession, free, Table.emplace, fresh]

/-- The three outcomes that `allocateSession` has in a state with the invariant:
an endless search, no id left, or a new session under a free id. -/
theorem allocateSession_cases {runtime : Runtime} (invariant : StoreInvariant runtime) (env : Env)
    (encap : Encapsulation) {result : Runtime × UInt16 × Option String}
    (allocated : runtime.allocateSession env encap = some result) :
    result = (runtime, 0, some "Maximum of sessions") ∨
      ∃ id, id ∉ runtime.store.sessionSet ∧ id ≠ 0 ∧
        result = ({ runtime with
          sessions := runtime.sessions.make (.construct env.session encap id)
          store := { runtime.store with
            activeSessions :=
              runtime.store.activeSessions.insert (.ofEncap encap id) runtime.sessions.length
            sessionSet := insert id runtime.store.sessionSet
            nextSessionId := if id + 1 = 0 then 1 else id + 1 } }, id, none) := by
  unfold allocateSession at allocated
  rcases Option.map_eq_some_iff.mp allocated with ⟨search, searched, equal⟩
  cases search with
  | none => exact .inl equal.symm
  | some id =>
      have free := findFreeId_spec searched
      refine .inr ⟨id, free.1, free.2, ?_⟩
      rw [← equal]
      exact enterSession_eq invariant env encap free.1

/-- A new session under a free id keeps the invariant. -/
theorem storeInvariant_enter {runtime : Runtime} (invariant : StoreInvariant runtime)
    (session : PPPOESession) (free : session.sessionId ∉ runtime.store.sessionSet)
    (positive : session.sessionId ≠ 0) :
    StoreInvariant { runtime with
      sessions := runtime.sessions.make session
      store := { runtime.store with
        activeSessions :=
          runtime.store.activeSessions.insert session.key runtime.sessions.length
        sessionSet := insert session.sessionId runtime.store.sessionSet
        nextSessionId := if session.sessionId + 1 = 0 then 1 else session.sessionId + 1 } } where
  keyed := by
    intro key ref found
    dsimp only at found ⊢
    rw [Table.lookup_insert_eq] at found
    rw [Heap.deref_make]
    by_cases same : key = session.key
    · rw [if_pos same] at found
      exact ⟨session, by rw [if_pos (Option.some.inj found).symm], same.symm⟩
    · rw [if_neg same] at found
      rcases invariant.keyed key ref found with ⟨old, present, keyed⟩
      have different : ref ≠ runtime.sessions.length :=
        Nat.ne_of_lt (Heap.lt_length_of_deref present)
      exact ⟨old, by rw [if_neg different]; exact present, keyed⟩
  ids := by
    intro id
    dsimp only
    rw [Finset.mem_insert, invariant.ids]
    constructor
    · rintro (new | ⟨key, ref, old, found, present, equal⟩)
      · exact ⟨session.key, runtime.sessions.length, session,
          by rw [Table.lookup_insert_eq, if_pos rfl], Heap.deref_make_self _ _, new.symm⟩
      · have different : ref ≠ runtime.sessions.length :=
          Nat.ne_of_lt (Heap.lt_length_of_deref present)
        refine ⟨key, ref, old, ?_, ?_, equal⟩
        · rw [Table.lookup_insert_eq, if_neg]
          · exact found
          · intro same
            rcases invariant.keyed key ref found with ⟨again, presentAgain, keyed⟩
            refine free ((invariant.ids _).mpr ⟨key, ref, again, found, presentAgain, ?_⟩)
            exact congrArg PPPOEKey.sessionId (keyed.trans same)
        · rw [Heap.deref_make, if_neg different]
          exact present
    · rintro ⟨key, ref, old, found, present, equal⟩
      rw [Table.lookup_insert_eq] at found
      rw [Heap.deref_make] at present
      by_cases same : key = session.key
      · rw [if_pos same] at found
        rw [if_pos (Option.some.inj found).symm] at present
        rw [← equal, ← Option.some.inj present]
        exact .inl rfl
      · rw [if_neg same] at found
        rcases invariant.keyed key ref found with ⟨again, presentAgain, _⟩
        have different : ref ≠ runtime.sessions.length :=
          Nat.ne_of_lt (Heap.lt_length_of_deref presentAgain)
        rw [if_neg different] at present
        exact .inr ⟨key, ref, old, found, present, equal⟩
  unique := by
    have fresh : forall key ref, runtime.store.activeSessions.lookup key = some ref ->
        key.sessionId ≠ session.sessionId := by
      intro key ref found same
      rcases invariant.keyed key ref found with ⟨old, present, keyed⟩
      refine free ((invariant.ids _).mpr ⟨key, ref, old, found, present, ?_⟩)
      exact (congrArg PPPOEKey.sessionId keyed).trans same
    intro key other ref otherRef found otherFound same
    dsimp only at found otherFound
    rw [Table.lookup_insert_eq] at found otherFound
    by_cases first : key = session.key
    · by_cases second : other = session.key
      · rw [first, second]
      · rw [if_neg second] at otherFound
        rw [first] at same
        exact absurd same.symm (fresh other otherRef otherFound)
    · rw [if_neg first] at found
      by_cases second : other = session.key
      · rw [second] at same
        exact absurd same (fresh key ref found)
      · rw [if_neg second] at otherFound
        exact invariant.unique key other ref otherRef found otherFound same
  noZero := by
    dsimp only
    rw [Finset.mem_insert]
    rintro (zero | old)
    · exact positive zero.symm
    · exact invariant.noZero old
  cursor := by
    dsimp only
    split
    · decide
    · assumption

theorem storeInvariant_allocateSession {runtime : Runtime} (invariant : StoreInvariant runtime)
    (env : Env) (encap : Encapsulation) {result : Runtime × UInt16 × Option String}
    (allocated : runtime.allocateSession env encap = some result) : StoreInvariant result.1 := by
  rcases allocateSession_cases invariant env encap allocated with full | ⟨id, free, positive, entered⟩
  · rw [full]
    exact invariant
  · rw [entered]
    exact storeInvariant_enter invariant (.construct env.session encap id) free positive

/-! ## Deallocation -/

/-- Under the invariant the search by id finds the only entry with that id. -/
theorem registered_eq {runtime : Runtime} (invariant : StoreInvariant runtime) {key : PPPOEKey}
    {ref : Nat} (found : runtime.store.activeSessions.lookup key = some ref) :
    runtime.registered key.sessionId = some (key, ref) := by
  rcases invariant.keyed key ref found with ⟨session, present, keyed⟩
  have passes : runtime.hasId key.sessionId key ref = true := by
    rw [hasId, present, ← keyed]
    exact beq_self_eq_true session.sessionId
  rcases Table.findEntry_isSome found passes with ⟨⟨otherKey, otherRef⟩, first⟩
  have spec := Table.lookup_of_findEntry first
  rcases invariant.keyed _ _ spec.1 with ⟨other, otherPresent, otherKeyed⟩
  have sameId : otherKey.sessionId = key.sessionId := by
    have equal := spec.2
    rw [hasId, otherPresent] at equal
    rw [← otherKeyed]
    exact eq_of_beq equal
  have sameKey := invariant.unique _ _ _ _ spec.1 found sameId
  have sameRef : otherRef = ref := by
    have again := spec.1
    rw [sameKey, found] at again
    exact (Option.some.inj again).symm
  rw [registered, first, sameKey, sameRef]

/-- Every id in use has exactly one entry, and the search finds it. -/
theorem registered_of_mem {runtime : Runtime} (invariant : StoreInvariant runtime) {sid : UInt16}
    (member : sid ∈ runtime.store.sessionSet) :
    ∃ key ref session, key.sessionId = sid ∧
      runtime.store.activeSessions.lookup key = some ref ∧
      runtime.sessions.deref ref = some session ∧ session.key = key ∧
      runtime.registered sid = some (key, ref) := by
  rcases (invariant.ids sid).mp member with ⟨key, ref, session, found, present, equal⟩
  rcases invariant.keyed key ref found with ⟨same, samePresent, keyed⟩
  rw [present] at samePresent
  have keyed : session.key = key := (Option.some.inj samePresent) ▸ keyed
  have id : key.sessionId = sid := (congrArg PPPOEKey.sessionId keyed).symm.trans equal
  exact ⟨key, ref, session, id, found, present, keyed, id ▸ registered_eq invariant found⟩

/-- An object is active under at most one key. -/
theorem key_eq_of_holds {runtime : Runtime} (invariant : StoreInvariant runtime)
    {key other : PPPOEKey} {ref : Nat} (found : runtime.store.activeSessions.lookup key = some ref)
    (otherFound : runtime.store.activeSessions.lookup other = some ref) : key = other := by
  rcases invariant.keyed key ref found with ⟨session, present, keyed⟩
  rcases invariant.keyed other ref otherFound with ⟨same, samePresent, otherKeyed⟩
  rw [present] at samePresent
  rw [← keyed, ← otherKeyed, Option.some.inj samePresent]

theorem isActive_iff (runtime : Runtime) (ref : Nat) :
    runtime.isActive ref = true ↔ runtime.store.activeSessions.Holds ref := by
  unfold isActive
  rw [List.contains_iff_mem]
  exact Table.mem_values_iff

/-- What the removal of a session does to the session tables. -/
theorem removeSession_store (runtime : Runtime) {key : PPPOEKey} {ref : Nat}
    {session : PPPOESession} (present : runtime.sessions.deref ref = some session) :
    (runtime.removeSession key ref).store =
      { runtime.store with activeSessions := runtime.store.activeSessions.erase key } := by
  unfold removeSession
  rw [present]
  dsimp only
  rw [collect_store]

theorem deref_removeSession (runtime : Runtime) (key : PPPOEKey) (ref other : Nat) :
    (runtime.removeSession key ref).sessions.deref other = runtime.sessions.deref other := by
  unfold removeSession
  split
  · rfl
  · rw [deref_collect]

/-- Deallocation of an id in use erases its entry and the id, and nothing else
of the tables. -/
theorem deallocateSession_of_mem {runtime : Runtime} (invariant : StoreInvariant runtime)
    {sid : UInt16} (member : sid ∈ runtime.store.sessionSet) :
    ∃ key ref, key.sessionId = sid ∧ runtime.store.activeSessions.lookup key = some ref ∧
      runtime.registered sid = some (key, ref) ∧
      runtime.deallocateSession sid = ((runtime.removeSession key ref).releaseId sid, none) ∧
      (runtime.deallocateSession sid).1.store = { runtime.store with
        activeSessions := runtime.store.activeSessions.erase key
        sessionSet := runtime.store.sessionSet.erase sid } := by
  rcases registered_of_mem invariant member with
    ⟨key, ref, session, id, found, present, _keyed, registered⟩
  have unfolded : runtime.deallocateSession sid =
      ((runtime.removeSession key ref).releaseId sid, none) := by
    rw [deallocateSession, if_pos member, registered]
  refine ⟨key, ref, id, found, registered, unfolded, ?_⟩
  rw [unfolded]
  unfold releaseId
  dsimp only
  rw [removeSession_store runtime present]

theorem deallocateSession_of_not_mem {runtime : Runtime} {sid : UInt16}
    (absent : sid ∉ runtime.store.sessionSet) :
    runtime.deallocateSession sid =
      (runtime, some "Cannot find session with this session id") := by
  rw [deallocateSession, if_neg absent]

theorem deref_deallocateSession (runtime : Runtime) (sid : UInt16) (ref : Nat) :
    (runtime.deallocateSession sid).1.sessions.deref ref = runtime.sessions.deref ref := by
  unfold deallocateSession
  split
  · split
    · unfold releaseId
      dsimp only
      rw [deref_removeSession]
    · rfl
  · rfl

/-- The object that a deallocation of an id takes out of the active sessions. -/
def target (runtime : Runtime) (sid : UInt16) : Option Nat :=
  if sid ∈ runtime.store.sessionSet then (runtime.registered sid).map Prod.snd else none

/-- A step that keeps the tables and the identities keeps the targets. -/
theorem target_of_kept {before after : Runtime} (kept : Kept PPPOESession.key before after)
    (sid : UInt16) : after.target sid = before.target sid := by
  have same : after.hasId sid = before.hasId sid := by
    funext key ref
    have byKey : forall runtime : Runtime, runtime.hasId sid key ref =
        ((runtime.sessions.deref ref).map PPPOESession.key).any
          (fun found => found.sessionId == sid) := by
      intro runtime
      unfold hasId
      cases runtime.sessions.deref ref <;> rfl
    rw [byKey, byKey, kept.objects]
  unfold target registered
  rw [kept.ids, kept.active, same]

/-- An active object is the target of the id it is registered under. -/
theorem target_of_lookup {runtime : Runtime} (invariant : StoreInvariant runtime) {key : PPPOEKey}
    {ref : Nat} (found : runtime.store.activeSessions.lookup key = some ref) :
    runtime.target key.sessionId = some ref := by
  rcases invariant.keyed key ref found with ⟨session, present, keyed⟩
  have member : key.sessionId ∈ runtime.store.sessionSet :=
    (invariant.ids _).mpr ⟨key, ref, session, found, present, congrArg PPPOEKey.sessionId keyed⟩
  rw [target, if_pos member, registered_eq invariant found]
  rfl

/-- An active session is the target of its own id. -/
theorem target_of_holds {runtime : Runtime} (invariant : StoreInvariant runtime) {ref : Nat}
    {session : PPPOESession} (active : runtime.store.activeSessions.Holds ref)
    (present : runtime.sessions.deref ref = some session) :
    runtime.target session.sessionId = some ref := by
  rcases active with ⟨key, found⟩
  rcases invariant.keyed key ref found with ⟨same, samePresent, keyed⟩
  rw [present] at samePresent
  have sid : key.sessionId = session.sessionId := by
    rw [← keyed, ← Option.some.inj samePresent]
    rfl
  exact sid ▸ target_of_lookup invariant found

/-- After a deallocation the active objects are those that were not its target. -/
theorem holds_deallocateSession {runtime : Runtime} (invariant : StoreInvariant runtime)
    (sid : UInt16) (ref : Nat) :
    (runtime.deallocateSession sid).1.store.activeSessions.Holds ref ↔
      runtime.store.activeSessions.Holds ref ∧ runtime.target sid ≠ some ref := by
  by_cases member : sid ∈ runtime.store.sessionSet
  · rcases deallocateSession_of_mem invariant member with
      ⟨gone, goneRef, _, goneFound, registered, _, store⟩
    rw [store, target, if_pos member, registered]
    constructor
    · rintro ⟨key, found⟩
      dsimp only at found
      rw [Table.lookup_erase_eq] at found
      split at found
      · cases found
      · rename_i different
        refine ⟨⟨key, found⟩, ?_⟩
        intro same
        have equal : goneRef = ref := Option.some.inj same
        rw [equal] at goneFound
        exact different (key_eq_of_holds invariant found goneFound)
    · rintro ⟨⟨key, found⟩, other⟩
      refine ⟨key, ?_⟩
      dsimp only
      rw [Table.lookup_erase_eq]
      split
      · rename_i same
        rw [same, goneFound] at found
        exact absurd (congrArg some (Option.some.inj found)) other
      · exact found
  · rw [deallocateSession_of_not_mem member, target, if_neg member]
    exact ⟨fun holds => ⟨holds, Option.some_ne_none ref ∘ Eq.symm⟩, And.left⟩

theorem storeInvariant_deallocateSession {runtime : Runtime} (invariant : StoreInvariant runtime)
    (sid : UInt16) : StoreInvariant (runtime.deallocateSession sid).1 := by
  by_cases member : sid ∈ runtime.store.sessionSet
  · rcases deallocateSession_of_mem invariant member with
      ⟨key, ref, id, found, _registered, _unfolded, store⟩
    have remaining : forall other, other ≠ key ->
        (runtime.deallocateSession sid).1.store.activeSessions.lookup other =
          runtime.store.activeSessions.lookup other := by
      intro other different
      rw [store, Table.lookup_erase_eq, if_neg different]
    have inside : forall other otherRef,
        (runtime.deallocateSession sid).1.store.activeSessions.lookup other = some otherRef ->
          other ≠ key ∧ runtime.store.activeSessions.lookup other = some otherRef := by
      intro other otherRef still
      rw [store, Table.lookup_erase_eq] at still
      by_cases same : other = key
      · rw [if_pos same] at still
        cases still
      · rw [if_neg same] at still
        exact ⟨same, still⟩
    refine ⟨?_, ?_, ?_, ?_, ?_⟩
    · intro other otherRef still
      rw [deref_deallocateSession]
      exact invariant.keyed other otherRef (inside other otherRef still).2
    · intro other
      have members : (runtime.deallocateSession sid).1.store.sessionSet =
          runtime.store.sessionSet.erase sid := by
        rw [store]
      rw [members, Finset.mem_erase, invariant.ids]
      constructor
      · rintro ⟨different, otherKey, otherRef, session, otherFound, present, equal⟩
        refine ⟨otherKey, otherRef, session, ?_, ?_, equal⟩
        · rw [remaining otherKey]
          · exact otherFound
          · intro same
            rcases invariant.keyed otherKey otherRef otherFound with ⟨again, presentAgain, keyed⟩
            rw [present] at presentAgain
            have id' : session.sessionId = otherKey.sessionId :=
              congrArg PPPOEKey.sessionId ((Option.some.inj presentAgain) ▸ keyed)
            exact different (equal.symm.trans (id'.trans (same ▸ id)))
        · rw [deref_deallocateSession]
          exact present
      · rintro ⟨otherKey, otherRef, session, still, present, equal⟩
        rw [deref_deallocateSession] at present
        have before := inside otherKey otherRef still
        refine ⟨?_, otherKey, otherRef, session, before.2, present, equal⟩
        intro same
        rcases invariant.keyed otherKey otherRef before.2 with ⟨again, presentAgain, keyed⟩
        rw [present] at presentAgain
        have id' : session.sessionId = otherKey.sessionId :=
          congrArg PPPOEKey.sessionId ((Option.some.inj presentAgain) ▸ keyed)
        exact before.1 (invariant.unique _ _ _ _ before.2 found
          (id'.symm.trans (equal.trans (same.trans id.symm))))
    · intro first second firstRef secondRef firstStill secondStill same
      exact invariant.unique first second firstRef secondRef (inside first firstRef firstStill).2
        (inside second secondRef secondStill).2 same
    · rw [store]
      exact fun zero => invariant.noZero (Finset.mem_of_mem_erase zero)
    · rw [store]
      exact invariant.cursor
  · rw [deallocateSession_of_not_mem member]
    exact invariant

/-! ## Cleanup -/

theorem storeInvariant_cleanup {runtime : Runtime} (invariant : StoreInvariant runtime) :
    StoreInvariant runtime.cleanup := by
  unfold cleanup
  refine (kept_foldl_collect _ _).invariant ⟨?_, ?_, ?_, ?_, invariant.cursor⟩
  · intro key ref found
    cases found
  · intro id
    constructor
    · intro member
      exact absurd member (Finset.notMem_empty id)
    · rintro ⟨key, ref, session, found, _⟩
      cases found
  · intro key other ref otherRef found
    cases found
  · exact Finset.notMem_empty 0

/-! ## Runs of the store operations -/

/-- A call of one of the operations of the session store. -/
inductive StoreCall
  | pendeSession (conn : PPPOEConn)
  | checkSession (conn : PPPOEConn)
  | clearPendingSession (conn : PPPOEConn)
  | allocateSession (env : Env) (encap : Encapsulation)
  | deallocateSession (sid : UInt16)
  | cleanup

/-- The state after a call. -/
def storeStep (runtime : Runtime) : StoreCall -> Option Runtime
  | .pendeSession conn => some (runtime.pendeSession conn).1
  | .checkSession conn => some (runtime.checkSession conn).1
  | .clearPendingSession conn => some (runtime.clearPendingSession conn)
  | .allocateSession env encap => (runtime.allocateSession env encap).map Prod.fst
  | .deallocateSession sid => some (runtime.deallocateSession sid).1
  | .cleanup => some runtime.cleanup

/-- One operation keeps the invariant. -/
theorem storeInvariant_storeStep {now after : Runtime} (invariant : StoreInvariant now)
    (call : StoreCall) (taken : storeStep now call = some after) : StoreInvariant after := by
  cases call with
  | pendeSession conn =>
      exact Option.some.inj taken ▸ (kept_pendeSession now conn).invariant invariant
  | checkSession conn =>
      exact Option.some.inj taken ▸ (kept_checkSession now conn).invariant invariant
  | clearPendingSession conn =>
      exact Option.some.inj taken ▸ (kept_clearPendingSession now conn).invariant invariant
  | allocateSession env encap =>
      rcases Option.map_eq_some_iff.mp taken with ⟨result, allocated, equal⟩
      exact equal ▸ storeInvariant_allocateSession invariant env encap allocated
  | deallocateSession sid =>
      exact Option.some.inj taken ▸ storeInvariant_deallocateSession invariant sid
  | cleanup => exact Option.some.inj taken ▸ storeInvariant_cleanup invariant

/-- Empty tables agree. -/
theorem storeInvariant_empty {runtime : Runtime} (empty : runtime.store = {}) :
    StoreInvariant runtime := by
  refine ⟨?_, ?_, ?_, ?_, ?_⟩ <;> rw [empty]
  · intro key ref found
    cases found
  · intro id
    constructor
    · intro member
      exact absurd member (Finset.notMem_empty id)
    · rintro ⟨key, ref, session, found, _⟩
      cases found
  · intro key other ref otherRef found
    cases found
  · exact Finset.notMem_empty 0
  · decide

/-- What the invariant is for: a teardown by id hits exactly the entry with that
id, and the failure branches of allocation and teardown are never taken. -/
structure StoreLaw (runtime : Runtime) : Prop extends StoreInvariant runtime where
  /-- The search succeeds, so the branch for an id without an entry is not taken. -/
  removes : forall sid, sid ∈ runtime.store.sessionSet ->
    ∃ key ref, key.sessionId = sid ∧ runtime.store.activeSessions.lookup key = some ref ∧
      runtime.registered sid = some (key, ref) ∧
      (runtime.deallocateSession sid).1.store = { runtime.store with
        activeSessions := runtime.store.activeSessions.erase key
        sessionSet := runtime.store.sessionSet.erase sid }
  ignores : forall sid, sid ∉ runtime.store.sessionSet ->
    (runtime.deallocateSession sid).1 = runtime
  /-- The only error of an allocation is that every id is in use. -/
  allocates : forall env encap result, runtime.allocateSession env encap = some result ->
    result.2.2 = none ∨ result = (runtime, 0, some "Maximum of sessions")

theorem storeInvariant_of_calls {start runtime : Runtime} (empty : start.store = {})
    (reached : Reachable storeStep start runtime) : StoreInvariant runtime :=
  reached.invariant (storeInvariant_empty empty)
    (fun _ call _ here taken => storeInvariant_storeStep here call taken)

/-- The invariant and its consequences hold in every state that the operations
can reach from empty tables. -/
theorem storeLaw_of_reachable {start runtime : Runtime} (empty : start.store = {})
    (reached : Reachable storeStep start runtime) : StoreLaw runtime := by
  have invariant := storeInvariant_of_calls empty reached
  refine { toStoreInvariant := invariant, removes := ?_, ignores := ?_, allocates := ?_ }
  · intro sid member
    rcases deallocateSession_of_mem invariant member with
      ⟨key, ref, id, found, registered, _unfolded, store⟩
    exact ⟨key, ref, id, found, registered, store⟩
  · intro sid absent
    rw [deallocateSession_of_not_mem absent]
  · intro env encap result allocated
    rcases allocateSession_cases invariant env encap allocated with full | ⟨id, _, _, entered⟩
    · exact .inr full
    · exact .inl (by rw [entered])

/-- Three sessions, of which the second has been torn down. -/
def twoOfThree : Runtime :=
  Foundation.after storeStep (sampleDaemon [] {})
    ([1, 2, 3].map (fun number => .allocateSession {} (sampleLink number)) ++ [.deallocateSession 2])
    (by decide +kernel)

theorem storeLaw_at_twoOfThree : StoreLaw twoOfThree ∧ twoOfThree.store.sessionSet = {1, 3} ∧
    twoOfThree.store.activeSessions.keys.length = 2 :=
  ⟨storeLaw_of_reachable (fresh_sampleDaemon [] {}).store (reachable_after _ _ _ _),
    by decide +kernel, by decide +kernel⟩

end Runtime

end Pppcpd
