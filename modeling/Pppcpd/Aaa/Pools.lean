import Pppcpd.Aaa.Step

namespace Pppcpd

open Foundation

/-!
# Addresses of live sessions

An address is marked in its pool when a constructor takes it and unmarked by a
destructor that looks the pool up by name.  The two agree as long as the marks
stay where they are.  A reload replaces the pools by unmarked ones, so it is
harmless only when no live session holds an address from a pool.
-/

/-- A live session that took a nonzero address from the pool of a name. -/
def HoldsAddress (aaa : AAA) (ref : Nat) (session : AAASession) : Prop :=
  aaa.objects.isAlive ref = true ∧ aaa.objects.deref ref = some session ∧
    session.freeIp = true ∧ session.address ≠ 0

/-- No two live sessions hold the same address from pools of the same name. -/
def AddressesDistinct (aaa : AAA) : Prop :=
  forall ref other session otherSession, HoldsAddress aaa ref session ->
    HoldsAddress aaa other otherSession -> session.framedPool = otherSession.framedPool ->
    session.address = otherSession.address -> ref = other

/-- Every address that a live session holds is marked in its pool. -/
def AddressesMarked (aaa : AAA) : Prop :=
  forall ref session, HoldsAddress aaa ref session ->
    ∃ pool, aaa.conf.pools.lookup session.framedPool = some pool ∧ session.address ∈ pool.ips

/-- The invariant of constructions and destructions. -/
structure AddressInvariant (aaa : AAA) : Prop where
  distinct : AddressesDistinct aaa
  marked : AddressesMarked aaa

/-! ## Construction -/

/-- What taking an address does: the objects stay, and an address that was
taken from a pool is zero or was not marked there and is now. -/
theorem takeAddress_spec {aaa after : AAA} {name : Bytes} {address : UInt32} {freeIp : Bool}
    (taken : aaa.takeAddress name = some ((address, freeIp), after)) :
    after.objects = aaa.objects ∧
      (forall other pool, aaa.conf.pools.lookup other = some pool ->
        ∃ later, after.conf.pools.lookup other = some later ∧ pool.ips ⊆ later.ips) ∧
      (freeIp = true -> address ≠ 0 ->
        (∃ pool, after.conf.pools.lookup name = some pool ∧ address ∈ pool.ips) ∧
          forall pool, aaa.conf.pools.lookup name = some pool -> address ∉ pool.ips) := by
  unfold AAA.takeAddress at taken
  cases found : aaa.conf.pools.lookup name with
  | none =>
      rw [found] at taken
      have parts := Prod.mk.inj (Option.some.inj taken)
      rw [← parts.2]
      refine ⟨rfl, fun other pool present => ⟨pool, present, Finset.Subset.refl _⟩, ?_⟩
      intro taken
      rw [← (Prod.mk.inj parts.1).2] at taken
      cases taken
  | some pool =>
      rw [found] at taken
      rcases Option.map_eq_some_iff.mp taken with ⟨allocated, allocation, equal⟩
      have parts := Prod.mk.inj equal
      have same := (Prod.mk.inj parts.1).1
      rw [← parts.2]
      refine ⟨rfl, ?_, ?_⟩
      · intro other present isPool
        dsimp only
        rw [Table.lookup_insert_eq]
        by_cases here : other = name
        · rw [if_pos here]
          refine ⟨allocated.2, rfl, ?_⟩
          rw [here, found] at isPool
          rw [← Option.some.inj isPool]
          rcases FramedPool.allocateIp_cases allocation with ⟨_, marked⟩ | ⟨_, unchanged⟩
          · rw [marked]
            exact Finset.subset_insert _ _
          · rw [unchanged]
        · rw [if_neg here]
          exact ⟨present, isPool, Finset.Subset.refl _⟩
      · intro _ nonzero
        rcases FramedPool.allocateIp_cases allocation with ⟨free, marked⟩ | ⟨zero, _⟩
        · refine ⟨⟨allocated.2, ?_, ?_⟩, ?_⟩
          · dsimp only
            rw [Table.lookup_insert_eq, if_pos rfl]
          · rw [marked, ← same]
            exact Finset.mem_insert_self _ _
          · intro other present
            rw [← Option.some.inj present, ← same]
            exact free
        · exact absurd (same.symm.trans zero) nonzero

/-- A new object whose address, if it was taken from a pool, was not marked
before and is marked now keeps the invariant. -/
theorem AddressInvariant.make {aaa after : AAA} (invariant : AddressInvariant aaa)
    (session : AAASession) (objects : after.objects = aaa.objects)
    (grows : forall name pool, aaa.conf.pools.lookup name = some pool ->
      ∃ later, after.conf.pools.lookup name = some later ∧ pool.ips ⊆ later.ips)
    (taken : session.freeIp = true -> session.address ≠ 0 ->
      (∃ pool, after.conf.pools.lookup session.framedPool = some pool ∧ session.address ∈ pool.ips) ∧
        forall pool, aaa.conf.pools.lookup session.framedPool = some pool ->
          session.address ∉ pool.ips) :
    AddressInvariant (after.makeObject session) := by
  have cases : forall ref object, HoldsAddress (after.makeObject session) ref object ->
      ref = aaa.objects.length ∧ object = session ∨
        ref ≠ aaa.objects.length ∧ HoldsAddress aaa ref object := by
    intro ref object holds
    rcases holds with ⟨alive, present, free, nonzero⟩
    unfold AAA.makeObject at alive present
    dsimp only at alive present
    rw [objects, Heap.isAlive_make] at alive
    rw [objects, Heap.deref_make] at present
    by_cases new : ref = aaa.objects.length
    · rw [if_pos new] at present
      exact .inl ⟨new, (Option.some.inj present).symm⟩
    · rw [if_neg new] at alive present
      exact .inr ⟨new, alive, present, free, nonzero⟩
  have fresh : forall ref object, HoldsAddress aaa ref object ->
      session.freeIp = true -> session.address ≠ 0 ->
      object.framedPool = session.framedPool -> object.address ≠ session.address := by
    intro ref object holds free nonzero samePool sameAddress
    rcases invariant.marked ref object holds with ⟨pool, found, marked⟩
    rw [samePool] at found
    rw [sameAddress] at marked
    exact (taken free nonzero).2 pool found marked
  refine ⟨?_, ?_⟩
  · intro ref other object otherObject holds otherHolds samePool sameAddress
    rcases cases ref object holds with ⟨new, equal⟩ | ⟨_, old⟩
    · rcases cases other otherObject otherHolds with ⟨otherNew, _⟩ | ⟨_, otherOld⟩
      · exact new.trans otherNew.symm
      · rw [equal] at holds samePool sameAddress
        exact absurd sameAddress.symm
          (fresh other otherObject otherOld holds.2.2.1 holds.2.2.2 samePool.symm)
    · rcases cases other otherObject otherHolds with ⟨_, otherEqual⟩ | ⟨_, otherOld⟩
      · rw [otherEqual] at otherHolds samePool sameAddress
        exact absurd sameAddress
          (fresh ref object old otherHolds.2.2.1 otherHolds.2.2.2 samePool)
      · exact invariant.distinct ref other object otherObject old otherOld samePool sameAddress
  · intro ref object holds
    rcases cases ref object holds with ⟨_, equal⟩ | ⟨_, old⟩
    · rw [equal] at holds ⊢
      exact (taken holds.2.2.1 holds.2.2.2).1
    · rcases invariant.marked ref object old with ⟨pool, found, marked⟩
      rcases grows _ pool found with ⟨later, laterFound, subset⟩
      exact ⟨later, laterFound, subset marked⟩

theorem AddressInvariant.constructNone {aaa after : AAA} (invariant : AddressInvariant aaa)
    {ifindex sid : UInt32} {user templateName : Bytes}
    (made : aaa.constructNone ifindex sid user templateName = some after) :
    AddressInvariant after := by
  rcases Option.map_eq_some_iff.mp made with ⟨⟨⟨address, freeIp⟩, later⟩, taken, equal⟩
  have spec := takeAddress_spec taken
  rw [← equal]
  exact invariant.make _ spec.1 spec.2.1 spec.2.2

/-- A session with an address that was not taken from a pool. -/
theorem AddressInvariant.makeGiven {aaa : AAA} (invariant : AddressInvariant aaa)
    (session : AAASession) (given : session.freeIp = false) :
    AddressInvariant (aaa.makeObject session) := by
  refine invariant.make session rfl (fun _ pool found => ⟨pool, found, Finset.Subset.refl _⟩) ?_
  intro taken
  rw [given] at taken
  cases taken

theorem AddressInvariant.constructRadius {aaa after : AAA} (invariant : AddressInvariant aaa)
    {ifindex sid : UInt32} {user templateName : Bytes} {response : RadiusResponse}
    (made : aaa.constructRadius ifindex sid user templateName response = some after) :
    AddressInvariant after := by
  rcases Option.map_eq_some_iff.mp made with ⟨⟨⟨address, freeIp⟩, later⟩, taken, equal⟩
  rw [← equal]
  by_cases fromPool : response.framedIp = 0 ∧
      (if response.framedPool = [] then
        ((aaa.templates.lookup
          (if response.pppoeTemplate = [] then templateName else response.pppoeTemplate)).getD
            {}).framedPool
        else response.framedPool) ≠ []
  · rw [if_pos fromPool] at taken
    have spec := takeAddress_spec taken
    exact invariant.make _ spec.1 spec.2.1 spec.2.2
  · rw [if_neg fromPool] at taken
    have parts := Prod.mk.inj (Option.some.inj taken)
    have given := (Prod.mk.inj parts.1).2
    rw [← parts.2, ← given]
    exact invariant.makeGiven _ rfl

/-! ## Destruction -/

/-- What a destructor does to the objects: each keeps its record but for the
timer, and only the destroyed one is not alive any more. -/
theorem holdsAddress_destruct {aaa : AAA} {ref other : Nat} {session : AAASession}
    (holds : HoldsAddress (aaa.destruct ref) other session) :
    ∃ earlier, HoldsAddress aaa other earlier ∧ earlier.framedPool = session.framedPool ∧
      earlier.address = session.address ∧ (aaa.objects.deref ref = none ∨ other ≠ ref) := by
  cases gone : aaa.objects.deref ref with
  | none =>
      unfold AAA.destruct at holds
      rw [gone] at holds
      exact ⟨session, holds, rfl, rfl, .inl rfl⟩
  | some object =>
      have objects : (aaa.destruct ref).objects =
          (aaa.objects.update ref (AAA.onTimer Timer.cancel)).destroy ref := by
        unfold AAA.destruct AAA.giveBack
        rw [gone]
        dsimp only
        split <;> rfl
      rcases holds with ⟨alive, present, free, nonzero⟩
      rw [objects, Heap.isAlive_destroy, Heap.isAlive_update] at alive
      rw [objects, Heap.deref_destroy, Heap.deref_update] at present
      have different : other ≠ ref := by
        intro same
        rw [if_pos same] at alive
        cases alive
      rw [if_neg different] at alive present
      exact ⟨session, ⟨alive, present, free, nonzero⟩, rfl, rfl, .inr different⟩

/-- Giving an address back unmarks it in the pool of its name and no other. -/
theorem mem_giveBack {aaa : AAA} {session : AAASession} {name : Bytes} {pool : FramedPool}
    {address : UInt32} (found : aaa.conf.pools.lookup name = some pool)
    (marked : address ∈ pool.ips)
    (other : session.freeIp = true -> name = session.framedPool -> address ≠ session.address) :
    ∃ later, (aaa.giveBack session).conf.pools.lookup name = some later ∧ address ∈ later.ips := by
  unfold AAA.giveBack
  split
  · rename_i free
    dsimp only
    rw [Table.lookup_modify_eq, found]
    by_cases here : name = session.framedPool
    · rw [if_pos here]
      exact ⟨_, rfl, Finset.mem_erase.mpr ⟨other free here, marked⟩⟩
    · rw [if_neg here]
      exact ⟨pool, rfl, marked⟩
  · exact ⟨pool, found, marked⟩

/-- A destructor keeps the invariant: it unmarks an address that no other live
session holds from the same pool. -/
theorem AddressInvariant.destruct {aaa : AAA} (invariant : AddressInvariant aaa) {ref : Nat}
    (alive : aaa.objects.isAlive ref = true) : AddressInvariant (aaa.destruct ref) := by
  refine ⟨?_, ?_⟩
  · intro first second object otherObject holds otherHolds samePool sameAddress
    rcases holdsAddress_destruct holds with ⟨earlier, held, pool, address, _⟩
    rcases holdsAddress_destruct otherHolds with ⟨otherEarlier, otherHeld, otherPool, otherAddress, _⟩
    exact invariant.distinct first second earlier otherEarlier held otherHeld
      (pool.trans (samePool.trans otherPool.symm))
      (address.trans (sameAddress.trans otherAddress.symm))
  · intro other object holds
    rcases holdsAddress_destruct holds with ⟨earlier, held, samePool, sameAddress, which⟩
    rcases invariant.marked other earlier held with ⟨pool, found, marked⟩
    rw [samePool] at found
    rw [sameAddress] at marked
    rcases Heap.deref_of_isAlive alive with ⟨session, present⟩
    have different : other ≠ ref := by
      rcases which with dangling | different
      · rw [dangling] at present
        cases present
      · exact different
    have apart : session.freeIp = true -> object.framedPool = session.framedPool ->
        object.address ≠ session.address := by
      intro free fromPool equal
      have nonzero : session.address ≠ 0 := by
        rw [← equal, ← sameAddress]
        exact held.2.2.2
      exact different (invariant.distinct other ref earlier session held
        ⟨alive, present, free, nonzero⟩ (samePool.trans fromPool) (sameAddress.trans equal))
    unfold AAA.destruct
    rw [present]
    have cancelled : (aaa.updateObject ref (AAA.onTimer Timer.cancel)).conf.pools.lookup
        object.framedPool = some pool := found
    exact mem_giveBack cancelled marked apart

/-! ## Runs of constructions, destructions and reloads -/

inductive PoolEvent
  | constructNone (ifindex sid : UInt32) (user templateName : Bytes)
  | constructRadius (ifindex sid : UInt32) (user templateName : Bytes) (response : RadiusResponse)
  | destruct (ref : Nat)
  | reload (conf : AAAConf) (templates : Table Bytes PPPOELocalTemplate)

/-- One event.  Only a live object is destroyed, and a valid file names no
address that is in use. -/
def poolStep (aaa : AAA) : PoolEvent -> Option AAA
  | .constructNone ifindex sid user templateName => aaa.constructNone ifindex sid user templateName
  | .constructRadius ifindex sid user templateName response =>
      aaa.constructRadius ifindex sid user templateName response
  | .destruct ref => if aaa.objects.isAlive ref then some (aaa.destruct ref) else none
  | .reload conf templates => if conf.Decoded then some (aaa.reload conf templates) else none

/-- A reload keeps the names and ranges of the pools. -/
def KeepsRanges (aaa : AAA) : PoolEvent -> Prop
  | .reload conf _ => forall name pool, aaa.conf.pools.lookup name = some pool ->
      ∃ later, conf.pools.lookup name = some later ∧ later.startIp = pool.startIp ∧
        later.stopIp = pool.stopIp
  | _ => True

/-- A reload finds no live session that holds an address from a pool. -/
def ReloadsUnused (aaa : AAA) : PoolEvent -> Prop
  | .reload _ _ => forall ref session, ¬ HoldsAddress aaa ref session
  | _ => True

theorem addressInvariant_poolStep {now after : AAA} {event : PoolEvent}
    (invariant : AddressInvariant now) (unused : ReloadsUnused now event)
    (taken : poolStep now event = some after) : AddressInvariant after := by
  cases event with
  | constructNone => exact invariant.constructNone taken
  | constructRadius => exact invariant.constructRadius taken
  | destruct ref =>
      rw [poolStep] at taken
      split at taken
      · rename_i alive
        rw [← Option.some.inj taken]
        exact invariant.destruct alive
      · cases taken
  | reload conf templates =>
      rw [poolStep] at taken
      split at taken
      · rw [← Option.some.inj taken]
        refine ⟨?_, ?_⟩
        · intro ref _ session _ holds
          exact absurd holds (unused ref session)
        · intro ref session holds
          exact absurd holds (unused ref session)
      · cases taken

/-- While every reload finds the pools unused, no two live sessions ever hold
the same address from pools of one name. -/
theorem addressesDistinct_of_run {start aaa : AAA} {past : List (AAA × PoolEvent)}
    (empty : start.objects = []) (run : Run poolStep ReloadsUnused start past aaa) :
    AddressesDistinct aaa := by
  have atStart : AddressInvariant start := by
    have none : forall ref session, ¬ HoldsAddress start ref session := by
      intro ref session holds
      have present := holds.2.1
      rw [empty] at present
      cases present
    exact ⟨fun ref _ session _ holds => absurd holds (none ref session),
      fun ref session holds => absurd holds (none ref session)⟩
  exact (run.invariant atStart (fun _ _ _ invariant unused taken =>
    addressInvariant_poolStep invariant unused taken)).distinct

/-- A session is made before the reload and another one after it. -/
def reloadBetween : List PoolEvent :=
  [.constructNone 0 0 [] (ascii "t"), .reload (AAA.sampleConf [.none]) AAA.sampleTemplates,
    .constructNone 0 1 [] (ascii "t")]

def afterReload : AAA := after poolStep (AAA.sample [.none]) reloadBetween (by decide +kernel)

/-- The reload keeps the only pool and its range. -/
theorem reloadBetween_keepsRanges : Permitted poolStep KeepsRanges (AAA.sample [.none]) reloadBetween := by
  refine ⟨trivial, ?_⟩
  intro made isMade
  have conf : made.conf.pools =
      (AAA.sample [.none]).conf.pools.insert (ascii "p") { startIp := 10, stopIp := 20, ips := {10} } := by
    rw [← Option.some.inj isMade]
    rfl
  refine ⟨?_, fun _ _ => ⟨trivial, fun _ _ => trivial⟩⟩
  intro name pool found
  rw [conf, Table.lookup_insert_eq] at found
  by_cases here : name = ascii "p"
  · rw [if_pos here] at found
    rw [here, ← Option.some.inj found]
    exact ⟨_, AList.lookup_insert _, rfl, rfl⟩
  · rw [if_neg here] at found
    exact ⟨pool, found, rfl, rfl⟩

/-- After such a reload the same address is handed out again, while the session
that has it lives. -/
theorem reload_repeats_address :
    ¬ forall aaa past, Run poolStep KeepsRanges (AAA.sample [.none]) past aaa -> AddressesDistinct aaa := by
  intro claim
  rcases run_after poolStep KeepsRanges (AAA.sample [.none]) reloadBetween (by decide +kernel) reloadBetween_keepsRanges with
    ⟨past, run⟩
  have distinct := claim afterReload past run
  have first : (afterReload.objects.deref 0).map
      (fun session => (session.framedPool, session.address, session.freeIp)) =
        some (ascii "p", 10, true) := by
    decide +kernel
  have second : (afterReload.objects.deref 1).map
      (fun session => (session.framedPool, session.address, session.freeIp)) =
        some (ascii "p", 10, true) := by
    decide +kernel
  rcases Option.map_eq_some_iff.mp first with ⟨session, present, parts⟩
  rcases Option.map_eq_some_iff.mp second with ⟨other, otherPresent, otherParts⟩
  simp only [Prod.mk.injEq] at parts otherParts
  have same := distinct 0 1 session other
    ⟨by decide +kernel, present, parts.2.2, by rw [parts.2.1]; decide⟩
    ⟨by decide +kernel, otherPresent, otherParts.2.2, by rw [otherParts.2.1]; decide⟩
    (parts.1.trans otherParts.1.symm) (parts.2.1.trans otherParts.2.1.symm)
  cases same

/-- The first of two sessions ends before a third one is made. -/
def reuse : List PoolEvent :=
  [.constructNone 0 0 [] (ascii "t"), .constructNone 0 1 [] (ascii "t"), .destruct 0,
    .constructNone 0 0 [] (ascii "t")]

/-- The law in that run, which hands out the address of the first session again. -/
theorem addressesDistinct_after_reuse :
    AddressesDistinct (after poolStep (AAA.sample [.none]) reuse (by decide +kernel)) := by
  rcases run_after poolStep ReloadsUnused (AAA.sample [.none]) reuse (by decide +kernel)
    ⟨trivial, fun _ _ => ⟨trivial, fun _ _ => ⟨trivial, fun _ _ => ⟨trivial, fun _ _ => trivial⟩⟩⟩⟩
    with ⟨past, run⟩
  exact addressesDistinct_of_run rfl run

end Pppcpd
