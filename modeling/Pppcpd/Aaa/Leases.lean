import Pppcpd.Aaa.Idle
import Pppcpd.Aaa.Methods
import Pppcpd.Aaa.Neighbours

namespace Pppcpd

open Foundation

/-!
# Addresses that no pool offers

A pool hands out an address that it has not marked, whatever other pools have
marked and whatever the servers gave to somebody.  So a live session has its
address alone only if the ranges of the pools do not overlap, the servers give
addresses outside of them, and a reload finds no live session with an address
in a pool of the new file.
-/

namespace FramedPool

/-- `allocate_ip` comes to the address sooner or later. -/
def Covers (pool : FramedPool) (address : UInt32) : Prop :=
  pool.stopIp.toNat + 1 = addressCount ∨ pool.startIp ≤ address ∧ address ≤ pool.stopIp

/-- `allocate_ip` may hand the address out next. -/
def Offers (pool : FramedPool) (address : UInt32) : Prop :=
  pool.Covers address ∧ address ∉ pool.ips

/-- The first address of one pool is an address of both. -/
def Overlaps (pool other : FramedPool) : Prop :=
  pool.Covers pool.startIp ∧ other.Covers pool.startIp ∨
    pool.Covers other.startIp ∧ other.Covers other.startIp

instance (pool : FramedPool) (address : UInt32) : Decidable (pool.Covers address) :=
  inferInstanceAs (Decidable (_ ∨ _))

instance (pool : FramedPool) (address : UInt32) : Decidable (pool.Offers address) :=
  inferInstanceAs (Decidable (_ ∧ _))

instance (pool other : FramedPool) : Decidable (pool.Overlaps other) :=
  inferInstanceAs (Decidable (_ ∨ _))

/-- Pools that do not overlap have no address in common. -/
theorem not_covers_of_not_overlaps {pool other : FramedPool} (apart : ¬ pool.Overlaps other)
    {address : UInt32} (covers : pool.Covers address) : ¬ other.Covers address := by
  intro otherCovers
  apply apart
  unfold Covers at covers otherCovers
  unfold Overlaps Covers
  simp only [UInt32.le_iff_toNat_le] at covers otherCovers ⊢
  omega

/-- `allocate_ip` hands out an address that it offers, or zero. -/
theorem allocateIp_offers {pool after : FramedPool} {address : UInt32}
    (allocated : pool.allocateIp = some (address, after)) :
    pool.Offers address ∧ after = { pool with ips := insert address pool.ips } ∨
      address = 0 ∧ after = pool := by
  unfold allocateIp at allocated
  cases search : firstFrom pool.isFree pool.rounds pool.startIp.toNat with
  | some round =>
      rw [search] at allocated
      have parts := Prod.mk.inj (Option.some.inj allocated)
      have spec := firstFrom_spec search
      refine .inl ⟨⟨?_, ?_⟩, ?_⟩
      · by_cases wraps : pool.stopIp.toNat + 1 = addressCount
        · exact .inl wraps
        · have bound := spec.2.2
          unfold rounds at bound
          rw [if_neg wraps] at bound
          have small := pool.stopIp.toNat_lt
          have value : address.toNat = round := by
            rw [← parts.1]
            exact UInt32.toNat_ofNat_of_lt' (by unfold UInt32.size; omega)
          refine .inr ⟨?_, ?_⟩
          · rw [UInt32.le_iff_toNat_le, value]
            exact spec.2.1
          · rw [UInt32.le_iff_toNat_le, value]
            omega
      · rw [← parts.1]
        simpa [isFree] using spec.1
      · rw [← parts.2, ← parts.1]
  | none =>
      rw [search] at allocated
      dsimp only at allocated
      split at allocated
      · cases allocated
      · have parts := Prod.mk.inj (Option.some.inj allocated)
        exact .inr ⟨parts.1.symm, parts.2.symm⟩

end FramedPool

/-- No two pools of different names overlap. -/
def AAAConf.PoolsApart (conf : AAAConf) : Prop :=
  ∀ first ∈ conf.pools.entries, ∀ second ∈ conf.pools.entries, first.1 ≠ second.1 ->
    ¬ first.2.Overlaps second.2

instance (conf : AAAConf) : Decidable conf.PoolsApart :=
  inferInstanceAs (Decidable (∀ first ∈ conf.pools.entries, ∀ second ∈ conf.pools.entries, _))

theorem AAAConf.PoolsApart.not_covers {conf : AAAConf} (apart : conf.PoolsApart)
    {name other : Bytes} {pool otherPool : FramedPool} (found : conf.pools.lookup name = some pool)
    (otherFound : conf.pools.lookup other = some otherPool) (different : name ≠ other)
    {address : UInt32} (covers : pool.Covers address) : ¬ otherPool.Covers address :=
  FramedPool.not_covers_of_not_overlaps
    (apart ⟨name, pool⟩ (Table.lookup_eq_some_iff_mem_entries.mp found) ⟨other, otherPool⟩
      (Table.lookup_eq_some_iff_mem_entries.mp otherFound) different) covers

namespace AAA

/-- What a session was made with, and keeps. -/
def lease (session : AAASession) : UInt32 × Bytes × Bytes × Bool :=
  (session.address, session.vrf, session.framedPool, session.freeIp)

/-- Some pool offers the address. -/
def Offered (aaa : AAA) (address : UInt32) : Prop :=
  ∃ name pool, aaa.conf.pools.lookup name = some pool ∧ pool.Offers address

/-- Some pool covers the address. -/
def Covered (aaa : AAA) (address : UInt32) : Prop :=
  ∃ name pool, aaa.conf.pools.lookup name = some pool ∧ pool.Covers address

instance (aaa : AAA) (address : UInt32) : Decidable (aaa.Offered address) :=
  decidable_of_iff (∃ pool ∈ aaa.conf.pools.values, pool.Offers address) (by
    constructor
    · rintro ⟨pool, member, offers⟩
      rcases Table.mem_values_iff.mp member with ⟨name, found⟩
      exact ⟨name, pool, found, offers⟩
    · rintro ⟨name, pool, found, offers⟩
      exact ⟨pool, Table.mem_values_iff.mpr ⟨name, found⟩, offers⟩)

instance (aaa : AAA) (address : UInt32) : Decidable (aaa.Covered address) :=
  decidable_of_iff (∃ pool ∈ aaa.conf.pools.values, pool.Covers address) (by
    constructor
    · rintro ⟨pool, member, covers⟩
      rcases Table.mem_values_iff.mp member with ⟨name, found⟩
      exact ⟨name, pool, found, covers⟩
    · rintro ⟨name, pool, found, covers⟩
      exact ⟨pool, Table.mem_values_iff.mpr ⟨name, found⟩, covers⟩)

/-- No address of a live session is offered, and an address that a live session
took from a pool is there with no other one. -/
structure Exclusive (aaa : AAA) : Prop where
  alive : forall sid ref, aaa.sessions.lookup sid = some ref -> aaa.objects.isAlive ref = true
  apart : forall name other pool otherPool address, aaa.conf.pools.lookup name = some pool ->
    aaa.conf.pools.lookup other = some otherPool -> name ≠ other -> pool.Covers address ->
      ¬ otherPool.Covers address
  held : forall ref session, aaa.objects.isAlive ref = true ->
    aaa.objects.deref ref = some session -> session.address ≠ 0 -> ¬ aaa.Offered session.address
  single : forall ref other session otherSession, aaa.objects.isAlive ref = true ->
    aaa.objects.isAlive other = true -> aaa.objects.deref ref = some session ->
    aaa.objects.deref other = some otherSession -> ref ≠ other -> session.freeIp = true ->
    session.address = otherSession.address -> session.address ≠ 0 ->
    forall pool, aaa.conf.pools.lookup session.framedPool = some pool ->
      ¬ pool.Covers session.address

/-- A step after which live sessions still have their addresses alone, and which
changes the lease of no session. -/
structure Carries (before after : AAA) : Prop where
  exclusive : Exclusive before -> Exclusive after
  settled : forall ref session, before.objects.deref ref = some session ->
    ∃ later, after.objects.deref ref = some later ∧ lease later = lease session

namespace Carries

theorem refl (aaa : AAA) : Carries aaa aaa := ⟨id, fun _ session found => ⟨session, found, rfl⟩⟩

theorem trans {first second third : AAA} (left : Carries first second)
    (right : Carries second third) : Carries first third := by
  refine ⟨fun exclusive => right.exclusive (left.exclusive exclusive), fun ref session found => ?_⟩
  rcases left.settled ref session found with ⟨middle, there, same⟩
  rcases right.settled ref middle there with ⟨later, present, still⟩
  exact ⟨later, present, still.trans same⟩

/-- A step that changes neither the pools nor the lease of an object, makes and
destroys none, and enters none. -/
theorem of_view {before after : AAA} (pools : after.conf.pools = before.conf.pools)
    (sessions : forall sid ref, after.sessions.lookup sid = some ref ->
      before.sessions.lookup sid = some ref)
    (alive : forall ref, after.objects.isAlive ref = before.objects.isAlive ref)
    (leases : forall ref, (after.objects.deref ref).map lease = (before.objects.deref ref).map lease) :
    Carries before after := by
  have earlier : forall ref session, after.objects.deref ref = some session ->
      ∃ old, before.objects.deref ref = some old ∧ lease old = lease session := by
    intro ref session present
    have same := leases ref
    rw [present] at same
    exact Option.map_eq_some_iff.mp same.symm
  refine ⟨fun exclusive => ⟨fun sid ref found => ?_, ?_, fun ref session live present nonzero => ?_,
    fun ref other session otherSession live otherLive present otherPresent different free same
      nonzero pool found => ?_⟩, fun ref session found => ?_⟩
  · rw [alive]
    exact exclusive.alive sid ref (sessions sid ref found)
  · rw [pools]
    exact exclusive.apart
  · rcases earlier ref session present with ⟨old, was, equal⟩
    have address : old.address = session.address := congrArg (fun lease => lease.1) equal
    unfold Offered
    rw [pools, ← address]
    exact exclusive.held ref old (alive ref ▸ live) was (address ▸ nonzero)
  · rcases earlier ref session present with ⟨old, was, equal⟩
    rcases earlier other otherSession otherPresent with ⟨otherOld, otherWas, otherEqual⟩
    have address : old.address = session.address := congrArg (fun lease => lease.1) equal
    have otherAddress : otherOld.address = otherSession.address :=
      congrArg (fun lease => lease.1) otherEqual
    have name : old.framedPool = session.framedPool := congrArg (fun lease => lease.2.2.1) equal
    have flag : old.freeIp = session.freeIp := congrArg (fun lease => lease.2.2.2) equal
    rw [pools, ← name] at found
    rw [← address]
    exact exclusive.single ref other old otherOld (alive ref ▸ live) (alive other ▸ otherLive) was
      otherWas different (flag.trans free) (address.trans (same.trans otherAddress.symm))
      (address ▸ nonzero) pool found
  · have same := leases ref
    rw [found] at same
    exact Option.map_eq_some_iff.mp same

/-- A change of neither the pools nor the objects, which enters nothing. -/
theorem of_fewer {before after : AAA} (pools : after.conf.pools = before.conf.pools)
    (objects : after.objects = before.objects)
    (sessions : forall sid ref, after.sessions.lookup sid = some ref ->
      before.sessions.lookup sid = some ref) : Carries before after :=
  of_view pools sessions (fun _ => by rw [objects]) (fun _ => by rw [objects])

theorem updateObject (aaa : AAA) (ref : Nat) {change : AAASession -> AAASession}
    (same : forall session, lease (change session) = lease session) :
    Carries aaa (aaa.updateObject ref change) := by
  refine of_view rfl (fun _ _ found => found) (fun other => Heap.isAlive_update _ ref other change)
    (fun other => ?_)
  unfold AAA.updateObject
  dsimp only
  rw [Heap.deref_update]
  split
  · cases aaa.objects.deref other with
    | none => rfl
    | some session => exact congrArg some (same session)
  · rfl

theorem bookkeeping : Bookkeeping Carries where
  refl := refl
  trans := trans
  object := by
    intro aaa ref change minor
    refine updateObject aaa ref (fun session => ?_)
    rcases minor session with ⟨_, _, _, changed⟩
    rw [changed]
    rfl
  request := fun _ _ _ => of_fewer rfl rfl (fun _ _ found => found)

theorem onTimer (aaa : AAA) (ref : Nat) (change : Timer -> Timer) :
    Carries aaa (aaa.updateObject ref (AAA.onTimer change)) :=
  bookkeeping.onTimer aaa ref change

theorem start (aaa : AAA) (ref : Nat) : Carries aaa (aaa.start ref) := bookkeeping.start aaa ref

theorem stop (aaa : AAA) (counters : Table UInt32 VPPIfaceCounters) (ref : Nat) :
    Carries aaa (aaa.stop counters ref) :=
  bookkeeping.stop aaa counters ref

theorem onInterim (aaa : AAA) (counters : Table UInt32 VPPIfaceCounters) (ref : Nat) :
    Carries aaa (aaa.onInterim counters ref) :=
  bookkeeping.onInterim aaa counters ref

theorem acctAnswer (aaa : AAA) (handler : AcctHandler) : Carries aaa (aaa.acctAnswer handler) :=
  bookkeeping.acctAnswer aaa handler

theorem mapIfaceToSession (aaa : AAA) (sid ifindex : UInt32) :
    Carries aaa (aaa.mapIfaceToSession sid ifindex) :=
  bookkeeping.mapIfaceToSession aaa sid ifindex

/-! ## Destruction -/

/-- What a pool offers once the address of a session was given back. -/
theorem offered_giveBack {aaa : AAA} {session : AAASession} {address : UInt32}
    (offered : (aaa.giveBack session).Offered address) :
    aaa.Offered address ∨ session.freeIp = true ∧ address = session.address ∧
      ∃ pool, aaa.conf.pools.lookup session.framedPool = some pool ∧ pool.Covers address := by
  unfold AAA.giveBack at offered
  split at offered
  · rename_i free
    rcases offered with ⟨name, pool, found, covers, unmarked⟩
    dsimp only at found
    rw [Table.lookup_modify_eq] at found
    split at found
    · rename_i own
      rcases Option.map_eq_some_iff.mp found with ⟨old, was, changed⟩
      rw [← changed] at covers unmarked
      by_cases same : address = session.address
      · exact .inr ⟨free, same, old, own ▸ was, covers⟩
      · refine .inl ⟨name, old, was, covers, fun marked => unmarked ?_⟩
        exact Finset.mem_erase.mpr ⟨same, marked⟩
    · exact .inl ⟨name, pool, found, covers, unmarked⟩
  · exact .inl offered

/-- A pool covers after a return what it covered before. -/
theorem lookup_giveBack {aaa : AAA} {session : AAASession} {name : Bytes} {pool : FramedPool}
    (found : (aaa.giveBack session).conf.pools.lookup name = some pool) :
    ∃ old, aaa.conf.pools.lookup name = some old ∧
      forall address, pool.Covers address -> old.Covers address := by
  unfold AAA.giveBack at found
  split at found
  · dsimp only at found
    rw [Table.lookup_modify_eq] at found
    split at found
    · rcases Option.map_eq_some_iff.mp found with ⟨old, was, changed⟩
      rw [← changed]
      exact ⟨old, was, fun _ covers => covers⟩
    · exact ⟨pool, found, fun _ covers => covers⟩
  · exact ⟨pool, found, fun _ covers => covers⟩

/-- The destruction of an object without an entry. -/
theorem destruct {aaa : AAA} {ref : Nat} (live : aaa.objects.isAlive ref = true)
    (unnamed : forall sid, aaa.sessions.lookup sid ≠ some ref) : Carries aaa (aaa.destruct ref) := by
  rcases Heap.deref_of_isAlive live with ⟨session, found⟩
  have cancelled := onTimer aaa ref Timer.cancel
  have unfolded : aaa.destruct ref =
      { (aaa.updateObject ref (AAA.onTimer Timer.cancel)).giveBack session with
        objects := (aaa.updateObject ref (AAA.onTimer Timer.cancel)).objects.destroy ref } := by
    unfold AAA.destruct
    rw [found]
    dsimp only
    rw [Grows.giveBack_objects]
  refine cancelled.trans ?_
  rw [unfolded]
  have present : (aaa.updateObject ref (AAA.onTimer Timer.cancel)).objects.deref ref =
      some (AAA.onTimer Timer.cancel session) := by
    unfold AAA.updateObject
    dsimp only
    rw [Heap.deref_update, if_pos rfl, found]
    rfl
  have alive : (aaa.updateObject ref (AAA.onTimer Timer.cancel)).objects.isAlive ref = true :=
    (Heap.isAlive_update _ _ _ _).trans live
  have noEntry : forall sid,
      (aaa.updateObject ref (AAA.onTimer Timer.cancel)).sessions.lookup sid ≠ some ref := unnamed
  generalize aaa.updateObject ref (AAA.onTimer Timer.cancel) = idle at present alive noEntry ⊢
  refine ⟨fun exclusive => ⟨fun sid other entry => ?_, ?_, fun other object otherLive there nonzero => ?_,
    ?_⟩, fun other object there => ⟨object, ?_, rfl⟩⟩
  · dsimp only at entry ⊢
    rw [Grows.giveBack_sessions] at entry
    rw [Heap.isAlive_destroy, if_neg]
    · exact exclusive.alive sid other entry
    · intro same
      exact noEntry sid (same ▸ entry)
  · intro name other pool otherPool address isPool isOther different covers
    rcases lookup_giveBack isPool with ⟨old, was, covered⟩
    rcases lookup_giveBack isOther with ⟨otherOld, otherWas, otherCovered⟩
    exact fun otherCovers => exclusive.apart name other old otherOld address was otherWas different
      (covered address covers) (otherCovered address otherCovers)
  · dsimp only at otherLive there
    rw [Heap.isAlive_destroy] at otherLive
    rw [Heap.deref_destroy] at there
    split at otherLive
    · cases otherLive
    · rename_i different
      intro offered
      rcases offered_giveBack offered with was | ⟨free, same, pool, isPool, covers⟩
      · exact exclusive.held other object otherLive there nonzero was
      · have address : (AAA.onTimer Timer.cancel session).address = object.address := same.symm
        refine exclusive.single ref other (AAA.onTimer Timer.cancel session) object alive otherLive
          present there (Ne.symm different) free address ?_ pool isPool (same ▸ covers)
        exact address ▸ nonzero
  · intro first second object otherObject live otherLive there otherThere different free same
      nonzero pool isPool
    dsimp only at live otherLive there otherThere
    rw [Heap.isAlive_destroy] at live otherLive
    rw [Heap.deref_destroy] at there otherThere
    split at live
    · cases live
    · split at otherLive
      · cases otherLive
      · rcases lookup_giveBack isPool with ⟨old, was, covered⟩
        exact fun covers => exclusive.single first second object otherObject live otherLive there
          otherThere different free same nonzero old was (covered _ covers)
  · dsimp only
    rw [Heap.deref_destroy]
    exact there

theorem collect (aaa : AAA) (ref : Nat) : Carries aaa (aaa.collect ref) := by
  unfold AAA.collect
  split
  · rename_i free
    rw [Bool.and_eq_true, Bool.not_eq_true'] at free
    refine destruct free.1 (fun sid found => ?_)
    have owned := free.2
    unfold isOwned at owned
    rw [Bool.or_eq_false_iff, Bool.or_eq_false_iff] at owned
    have unlisted := Bool.eq_false_iff.mp owned.1.1
    exact unlisted (List.contains_iff_mem.mpr (Table.mem_values_iff.mpr ⟨sid, found⟩))
  · exact refl aaa

theorem foldl_collect (refs : List Nat) (aaa : AAA) :
    Carries aaa (refs.foldl (fun aaa ref => aaa.collect ref) aaa) := by
  induction refs generalizing aaa with
  | nil => exact refl aaa
  | cons ref rest inductionHypothesis => exact (collect aaa ref).trans (inductionHypothesis _)

theorem foldl_stop (counters : Table UInt32 VPPIfaceCounters) (refs : List Nat) (aaa : AAA) :
    Carries aaa (refs.foldl (fun aaa ref => aaa.stop counters ref) aaa) := by
  induction refs generalizing aaa with
  | nil => exact refl aaa
  | cons ref rest inductionHypothesis => exact (stop aaa counters ref).trans (inductionHypothesis _)

theorem stopSession (aaa : AAA) (counters : Table UInt32 VPPIfaceCounters) (sid : UInt32) :
    Carries aaa (aaa.stopSession counters sid) := by
  unfold AAA.stopSession
  split
  · exact refl aaa
  · rename_i ref _
    have erased : Carries (aaa.stop counters ref) { aaa.stop counters ref with
        sessions := (aaa.stop counters ref).sessions.erase sid } :=
      of_fewer rfl rfl (fun _ _ found => Table.lookup_of_erase found)
    exact ((stop aaa counters ref).trans erased).trans (collect _ ref)

theorem stopAllSessions (aaa : AAA) (counters : Table UInt32 VPPIfaceCounters) :
    Carries aaa (aaa.stopAllSessions counters) := by
  have cleared : forall stopped : AAA, Carries stopped { stopped with sessions := ∅ } :=
    fun _ => of_fewer rfl rfl (fun _ _ found => by cases found)
  exact ((foldl_stop counters _ aaa).trans (cleared _)).trans (foldl_collect _ _)

end Carries

/-! ## Construction -/

/-- A new object was put into the heap.  Its address is zero, or the given one, or
a pool offered it and has marked it. -/
def LeasedFrom (given : UInt32) (aaa after : AAA) : Prop :=
  ∃ session pools,
    after = AAA.makeObject { aaa with conf := { aaa.conf with pools := pools } } session ∧
      ((session.address = 0 ∨ session.freeIp = false ∧ session.address = given) ∧
          (forall name, pools.lookup name = aaa.conf.pools.lookup name) ∨
        session.freeIp = true ∧ ∃ pool, aaa.conf.pools.lookup session.framedPool = some pool ∧
          pool.Offers session.address ∧ forall name, pools.lookup name =
            if name = session.framedPool then
              some { pool with ips := insert session.address pool.ips }
            else aaa.conf.pools.lookup name)

theorem takeAddress_cases {aaa after : AAA} {name : Bytes} {address : UInt32} {freeIp : Bool}
    (taken : aaa.takeAddress name = some ((address, freeIp), after)) :
    ∃ pools, after = { aaa with conf := { aaa.conf with pools := pools } } ∧
      (address = 0 ∧ (forall other, pools.lookup other = aaa.conf.pools.lookup other) ∨
        freeIp = true ∧ ∃ pool, aaa.conf.pools.lookup name = some pool ∧ pool.Offers address ∧
          forall other, pools.lookup other =
            if other = name then some { pool with ips := insert address pool.ips }
            else aaa.conf.pools.lookup other) := by
  unfold AAA.takeAddress at taken
  cases found : aaa.conf.pools.lookup name with
  | none =>
      rw [found] at taken
      have parts := Prod.mk.inj (Option.some.inj taken)
      exact ⟨aaa.conf.pools, parts.2.symm, .inl ⟨(Prod.mk.inj parts.1).1.symm, fun _ => rfl⟩⟩
  | some pool =>
      rw [found] at taken
      rcases Option.map_eq_some_iff.mp taken with ⟨⟨own, later⟩, allocation, equal⟩
      have parts := Prod.mk.inj equal
      have address := (Prod.mk.inj parts.1).1
      have flag := (Prod.mk.inj parts.1).2
      dsimp only at address
      rw [address] at allocation
      refine ⟨_, parts.2.symm, ?_⟩
      rcases FramedPool.allocateIp_offers allocation with ⟨offers, marked⟩ | ⟨zero, unchanged⟩
      · refine .inr ⟨flag.symm, pool, rfl, offers, fun other => ?_⟩
        rw [Table.lookup_insert_eq, marked]
      · refine .inl ⟨zero, fun other => ?_⟩
        rw [Table.lookup_insert_eq, unchanged]
        split
        · rename_i same
          rw [same, found]
        · rfl

theorem leasedFrom_constructNone {aaa after : AAA} {ifindex sid : UInt32}
    {user templateName : Bytes}
    (made : aaa.constructNone ifindex sid user templateName = some after) (given : UInt32) :
    LeasedFrom given aaa after := by
  rcases Option.map_eq_some_iff.mp made with ⟨⟨⟨address, freeIp⟩, later⟩, taken, equal⟩
  rcases takeAddress_cases taken with ⟨pools, same, zero | offered⟩
  · rw [same] at equal
    exact ⟨_, pools, equal.symm, .inl ⟨.inl zero.1, zero.2⟩⟩
  · rw [same] at equal
    exact ⟨_, pools, equal.symm, .inr offered⟩

theorem leasedFrom_constructRadius {aaa after : AAA} {ifindex sid : UInt32}
    {user templateName : Bytes} {response : RadiusResponse}
    (made : aaa.constructRadius ifindex sid user templateName response = some after) :
    LeasedFrom response.framedIp aaa after := by
  rcases Option.map_eq_some_iff.mp made with ⟨⟨⟨address, freeIp⟩, later⟩, taken, equal⟩
  rw [← equal]
  by_cases fromPool : response.framedIp = 0 ∧
      (if response.framedPool = [] then
        ((aaa.templates.lookup
          (if response.pppoeTemplate = [] then templateName else response.pppoeTemplate)).getD
            {}).framedPool
        else response.framedPool) ≠ []
  · rw [if_pos fromPool] at taken
    rcases takeAddress_cases taken with ⟨pools, same, zero | offered⟩
    · rw [same]
      exact ⟨_, pools, rfl, .inl ⟨.inl zero.1, zero.2⟩⟩
    · rw [same]
      exact ⟨_, pools, rfl, .inr offered⟩
  · rw [if_neg fromPool] at taken
    have parts := Prod.mk.inj (Option.some.inj taken)
    have own := Prod.mk.inj parts.1
    rw [← parts.2]
    exact ⟨_, aaa.conf.pools, rfl, .inl ⟨.inr ⟨own.2.symm, own.1.symm⟩, fun _ => rfl⟩⟩

section

variable {given : UInt32} {aaa made : AAA}

/-- What the pools offer and cover once an object was made. -/
theorem LeasedFrom.pools (leased : LeasedFrom given aaa made) {name : Bytes} {pool : FramedPool}
    (found : made.conf.pools.lookup name = some pool) :
    ∃ old, aaa.conf.pools.lookup name = some old ∧ old.ips ⊆ pool.ips ∧
      forall address, pool.Covers address ↔ old.Covers address := by
  rcases leased with ⟨session, pools, equal, ⟨_, same⟩ | ⟨_, own, isOwn, _, marked⟩⟩
  · rw [equal] at found
    exact ⟨pool, (same name).symm.trans found, Finset.Subset.refl _, fun _ => Iff.rfl⟩
  · rw [equal] at found
    have here := (marked name).symm.trans found
    split at here
    · rename_i isName
      rw [← Option.some.inj here]
      exact ⟨own, isName ▸ isOwn, Finset.subset_insert _ _, fun _ => Iff.rfl⟩
    · exact ⟨pool, here, Finset.Subset.refl _, fun _ => Iff.rfl⟩

/-- A construction puts nothing on offer. -/
theorem LeasedFrom.offered (leased : LeasedFrom given aaa made) {address : UInt32}
    (offered : made.Offered address) : aaa.Offered address := by
  rcases offered with ⟨name, pool, found, covers, unmarked⟩
  rcases leased.pools found with ⟨old, was, marked, covered⟩
  exact ⟨name, old, was, (covered address).mp covers, fun inUse => unmarked (marked inUse)⟩

/-- The entry of a new session, whose address no pool covers if it was given. -/
theorem Carries.enter (leased : LeasedFrom given aaa made)
    (outside : given ≠ 0 -> ¬ aaa.Covered given) (sid : UInt32) :
    Carries aaa (made.enter sid aaa.objects.length) := by
  have offered : forall address, made.Offered address -> aaa.Offered address :=
    fun address => leased.offered
  have pools : forall name pool, made.conf.pools.lookup name = some pool -> _ :=
    fun name pool => @LeasedFrom.pools given aaa made leased name pool
  rcases leased with ⟨session, table, equal, lease⟩
  have objects : made.objects = aaa.objects.make session := by
    rw [equal]
    rfl
  have sessions : made.sessions = aaa.sessions := by
    rw [equal]
    rfl
  have cases : forall ref object, made.objects.isAlive ref = true ->
      made.objects.deref ref = some object ->
      ref = aaa.objects.length ∧ object = session ∨ ref ≠ aaa.objects.length ∧
        aaa.objects.isAlive ref = true ∧ aaa.objects.deref ref = some object := by
    intro ref object live present
    rw [objects, Heap.isAlive_make] at live
    rw [objects, Heap.deref_make] at present
    by_cases new : ref = aaa.objects.length
    · rw [if_pos new] at present
      exact .inl ⟨new, (Option.some.inj present).symm⟩
    · rw [if_neg new] at live present
      exact .inr ⟨new, live, present⟩
  -- The new session's address: unless it is zero it is covered by no pool, or it
  -- was on offer and its own pool has marked it.
  have own : aaa.Exclusive -> session.address ≠ 0 ->
      session.freeIp = false ∧ ¬ aaa.Covered session.address ∨
        aaa.Offered session.address ∧ ¬ made.Offered session.address := by
    intro exclusive nonzero
    rcases lease with ⟨zero | ⟨unfree, isGiven⟩, _⟩ | ⟨_, pool, isPool, offers, marked⟩
    · exact absurd zero nonzero
    · exact .inl ⟨unfree, isGiven ▸ outside (isGiven ▸ nonzero)⟩
    · refine .inr ⟨⟨_, pool, isPool, offers⟩, ?_⟩
      rintro ⟨name, other, found, covers, unmarked⟩
      have here : made.conf.pools.lookup name = table.lookup name := by
        rw [equal]
        rfl
      rw [here, marked] at found
      split at found
      · rw [← Option.some.inj found] at unmarked
        exact unmarked (Finset.mem_insert_self _ _)
      · rename_i different
        exact exclusive.apart name session.framedPool other pool session.address found isPool
          different covers offers.1
  refine ⟨fun exclusive => ⟨fun id ref found => ?_, fun name other pool otherPool address isPool
    isOther different covers otherCovers => ?_, fun ref object live present nonzero => ?_,
    fun ref other object otherObject live otherLive present otherPresent different free same nonzero
      pool found covers => ?_⟩, fun ref object found => ⟨object, ?_, rfl⟩⟩
  · unfold AAA.enter at found ⊢
    dsimp only at found ⊢
    rw [Table.lookup_insert_eq] at found
    rw [objects, Heap.isAlive_make]
    split at found
    · rw [if_pos (Option.some.inj found).symm]
    · split
      · rfl
      · exact exclusive.alive id ref (sessions ▸ found)
  · rcases pools name pool isPool with ⟨old, was, _, covered⟩
    rcases pools other otherPool isOther with ⟨otherOld, otherWas, _, otherCovered⟩
    exact exclusive.apart name other old otherOld address was otherWas different
      ((covered address).mp covers) ((otherCovered address).mp otherCovers)
  · intro there
    rcases cases ref object live present with ⟨_, isNew⟩ | ⟨_, wasLive, was⟩
    · rw [isNew] at nonzero there
      rcases own exclusive nonzero with ⟨_, uncovered⟩ | ⟨_, marked⟩
      · rcases offered session.address there with ⟨name, pool, found, covers, _⟩
        exact uncovered ⟨name, pool, found, covers⟩
      · exact marked there
    · exact exclusive.held ref object wasLive was nonzero (offered object.address there)
  · rcases pools object.framedPool pool found with ⟨old, was, _, covered⟩
    have oldCovers := (covered object.address).mp covers
    rcases cases ref object live present with ⟨new, isNew⟩ | ⟨older, wasLive, wasObject⟩
    · rcases cases other otherObject otherLive otherPresent with
        ⟨otherNew, _⟩ | ⟨_, otherWasLive, otherWas⟩
      · exact different (new.trans otherNew.symm)
      · rw [isNew] at free same nonzero
        rcases own exclusive nonzero with ⟨unfree, _⟩ | ⟨wasOffered, _⟩
        · rw [unfree] at free
          cases free
        · exact exclusive.held other otherObject otherWasLive otherWas (same ▸ nonzero)
            (same ▸ wasOffered)
    · rcases cases other otherObject otherLive otherPresent with
        ⟨_, otherIsNew⟩ | ⟨_, otherWasLive, otherWas⟩
      · rw [otherIsNew] at same
        rcases own exclusive (same ▸ nonzero) with ⟨_, uncovered⟩ | ⟨wasOffered, _⟩
        · exact uncovered ⟨object.framedPool, old, was, same ▸ oldCovers⟩
        · exact exclusive.held ref object wasLive wasObject nonzero (same ▸ wasOffered)
      · exact exclusive.single ref other object otherObject wasLive otherWasLive wasObject otherWas
          different free same nonzero old was oldCovers
  · unfold AAA.enter
    dsimp only
    rw [objects, Heap.deref_make_of_lt _ (Heap.lt_length_of_deref found)]
    exact found

end

/-! ## Events -/

/-- A server gives no address that a pool covers, and the pools of a new file
neither overlap nor cover an address of a live session. -/
def KeepsApart (aaa : AAA) : AAAEvent -> Prop
  | .authDatagram inputs datagram =>
      ∀ client ∈ aaa.auth, ∀ received ∈ client.onRcv aaa.md5 inputs.behind datagram,
        ∀ answer ∈ received.2,
          ∀ response ∈ RadiusResponse.deserialize aaa.dict
              { bytes := answer.attributes, behind := inputs.behind } inputs.vendor,
            response.framedIp ≠ 0 -> ¬ aaa.Covered response.framedIp
  | .reload conf templates => conf.PoolsApart ∧
      ∀ ref < aaa.objects.length, aaa.objects.isAlive ref = true ->
        ∀ session ∈ aaa.objects.deref ref, session.address ≠ 0 ->
          ¬ (aaa.reload conf templates).Covered session.address
  | _ => True

instance (aaa : AAA) (event : AAAEvent) : Decidable (aaa.KeepsApart event) := by
  induction event using AAAEvent.casesOn <;> unfold KeepsApart <;> infer_instance

theorem Carries.processRadiusAnswer {aaa : AAA} {inputs : AAAInputs} {handler : AuthHandler}
    {code : UInt8} {attributes : Bytes} {out : AAA × List CallbackCall}
    (outside : ∀ response ∈ RadiusResponse.deserialize aaa.dict
        { bytes := attributes, behind := inputs.behind } inputs.vendor,
      response.framedIp ≠ 0 -> ¬ aaa.Covered response.framedIp)
    (processed : aaa.processRadiusAnswer inputs handler code attributes = some out) :
    Carries aaa out.1 := by
  rcases processRadiusAnswer_constructs processed with
    ⟨_, full⟩ | ⟨sid, made, response, _, parsed, construction, equal⟩
  · rw [full]
    exact .refl aaa
  · rw [equal]
    exact (Carries.enter (leasedFrom_constructRadius construction) (outside response parsed)
      sid).trans (.start _ _)

/-- Every event carries the leases on. -/
theorem carries_step {now after : AAA} {event : AAAEvent} (safe : now.KeepsApart event)
    (taken : step now event = some after) : Carries now after := by
  have clients : forall aaa auth acct, Carries aaa { aaa with auth := auth, acct := acct } :=
    fun _ _ _ => .of_fewer rfl rfl (fun _ _ found => found)
  cases event with
  | startSession inputs user credential encap callback =>
      rcases Option.map_eq_some_iff.mp taken with ⟨out, started, equal⟩
      rw [← equal]
      exact @startByMethods_induction (Carries now) _ _ _ _ _ _ _ _
        (fun aaa auth here => here.trans (clients aaa auth aaa.acct))
        (fun aaa sid _ made here _ construction =>
          here.trans (.enter (leasedFrom_constructNone construction 0) (fun no => absurd rfl no) sid))
        (.refl now) started
  | stopSession counters sid => exact Option.some.inj taken ▸ .stopSession now counters sid
  | stopAllSessions counters => exact Option.some.inj taken ▸ .stopAllSessions now counters
  | mapIfaceToSession sid ifindex => exact Option.some.inj taken ▸ .mapIfaceToSession now sid ifindex
  | authDatagram inputs datagram =>
      rcases Option.map_eq_some_iff.mp taken with ⟨out, received, equal⟩
      rw [← equal]
      rcases authDatagram_cases received with ⟨client, filled, answer, present, filling,
        ⟨_, discarded⟩ | ⟨given, processed, isAnswer, answered, finished⟩⟩
      · rw [discarded]
        exact clients now _ _
      · rw [finished]
        have outside := safe client present (filled, answer) filling given isAnswer
        exact ((clients now (some filled) now.acct).trans (.processRadiusAnswer outside
          answered)).trans (clients _ _ _)
  | authExpires id => exact Option.some.inj taken ▸ clients now _ _
  | authTimer id =>
      rcases step_authTimer taken with ⟨auth, erased⟩
      rw [erased]
      exact clients now _ _
  | acctDatagram inputs datagram =>
      rcases acctDatagram_cases taken with
        ⟨_, _, _, _, _, ⟨_, discarded⟩ | ⟨given, _, finished⟩⟩
      · rw [discarded]
        exact clients now _ _
      · rw [finished]
        exact (clients now _ _).trans (.acctAnswer _ given.handler)
  | acctExpires id => exact Option.some.inj taken ▸ clients now _ _
  | acctTimer id =>
      rcases acctTimer_cases taken with ⟨_, _, _, _, finished⟩
      rw [finished]
      exact (clients now _ _).trans (.collect _ _)
  | interimExpires ref => exact Option.some.inj taken ▸ .onTimer now ref _
  | interimTimer counters ref index =>
      rcases interimTimer_cases taken with ⟨_, _, ⟨_, finished⟩ | ⟨_, finished⟩⟩
      · rw [finished]
        exact ((Carries.onTimer now ref _).trans (.onInterim _ counters ref)).trans (.collect _ ref)
      · rw [finished]
        exact (Carries.onTimer now ref _).trans (.collect _ ref)
  | reload conf templates =>
      rw [(step_reload taken).2]
      have outside : forall ref session, now.objects.isAlive ref = true ->
          now.objects.deref ref = some session -> session.address ≠ 0 ->
            ¬ (now.reload conf templates).Covered session.address :=
        fun ref session live present =>
          safe.2 ref (Heap.lt_length_of_deref present) live session present
      refine ⟨fun exclusive => ⟨exclusive.alive, ?_, ?_, ?_⟩,
        fun ref session found => ⟨session, found, rfl⟩⟩
      · intro name other pool otherPool address isPool isOther different covers
        exact safe.1.not_covers isPool isOther different covers
      · rintro ref session live present nonzero ⟨name, pool, found, covers, _⟩
        exact outside ref session live present nonzero ⟨name, pool, found, covers⟩
      · intro ref _ session _ live _ present _ _ _ _ nonzero pool found covers
        exact outside ref session live present nonzero ⟨_, pool, found, covers⟩

/-! ## What is handed out -/

/-- The events in which a pool may hand out an address: a request that NONE
answers, and an answer that finds a free number. -/
def MayTake (aaa : AAA) : AAAEvent -> Prop
  | .startSession _ _ _ _ _ => aaa.NoneUsable ∧ .none ∈ beforeRadius aaa.conf.method
  | .authDatagram inputs datagram => ∃ client ∈ aaa.auth,
      ∃ received ∈ client.onRcv aaa.md5 inputs.behind datagram,
        ∃ answer, received.2 = some answer ∧ aaa.firstFreeId ≠ none
  | _ => False

instance (aaa : AAA) (name : Bytes) (address : UInt32) : Decidable (aaa.InUse name address) :=
  decidable_of_iff ((aaa.conf.pools.lookup name).any (fun pool => decide (address ∈ pool.ips)) = true)
    (by simp only [InUse, Option.any_eq_true, decide_eq_true_eq])

/-- An address that comes into use was on offer. -/
def Takes (before after : AAA) : Prop :=
  forall name address, after.InUse name address ->
    before.InUse name address ∨ before.Offered address

namespace Takes

/-- A step after which the pools are what they were. -/
theorem of_pools {before after : AAA} (pools : after.conf.pools = before.conf.pools) :
    Takes before after := by
  intro name address inUse
  unfold InUse at inUse
  rw [pools] at inUse
  exact .inl inUse

/-- The address of a new session was on offer, if it came from a pool. -/
theorem enter {given : UInt32} {aaa made : AAA} (leased : LeasedFrom given aaa made)
    (sid : UInt32) : Takes aaa (made.enter sid aaa.objects.length) := by
  rcases leased with ⟨session, table, equal, lease⟩
  rintro name address ⟨pool, found, member⟩
  have there : table.lookup name = some pool := by
    rw [equal] at found
    exact found
  rcases lease with ⟨_, same⟩ | ⟨_, own, isOwn, offers, marked⟩
  · exact .inl ⟨pool, (same name).symm.trans there, member⟩
  · rw [marked] at there
    split at there
    · rename_i isName
      rw [← Option.some.inj there] at member
      rcases Finset.mem_insert.mp member with new | old
      · exact .inr (new ▸ ⟨_, own, isOwn, offers⟩)
      · exact .inl ⟨own, isName ▸ isOwn, old⟩
    · exact .inl ⟨pool, there, member⟩

end Takes

theorem start_pools (aaa : AAA) (ref : Nat) : (aaa.start ref).conf.pools = aaa.conf.pools := by
  simp only [start]
  split
  · rfl
  · split <;> rfl

theorem onInterim_pools (aaa : AAA) (counters : Table UInt32 VPPIfaceCounters) (ref : Nat) :
    (aaa.onInterim counters ref).conf.pools = aaa.conf.pools := by
  simp only [onInterim]
  split
  · rfl
  · split <;> rfl

theorem acctAnswer_pools (aaa : AAA) (handler : AcctHandler) :
    (aaa.acctAnswer handler).conf.pools = aaa.conf.pools := by
  simp only [acctAnswer]
  split <;> rfl

/-- The end of a session brings no address into use. -/
theorem inUse_stopSession {aaa : AAA} {counters : Table UInt32 VPPIfaceCounters} {sid : UInt32}
    {name : Bytes} {address : UInt32} (inUse : (aaa.stopSession counters sid).InUse name address) :
    aaa.InUse name address := by
  unfold stopSession at inUse
  split at inUse
  · exact inUse
  · rename_i ref _
    have stopped := (Wanes.collect _ ref).addresses name address inUse
    unfold InUse at stopped ⊢
    dsimp only at stopped
    rw [stop_pools] at stopped
    exact stopped

/-- What a quiet event brings into use is nothing. -/
theorem inUse_of_quiet {now after : AAA} {event : AAAEvent} (quiet : event.Quiet)
    (taken : step now event = some after) {name : Bytes} {address : UInt32}
    (inUse : after.InUse name address) : now.InUse name address := by
  have same : forall {aaa : AAA}, aaa.InUse name address -> aaa.conf.pools = now.conf.pools ->
      now.InUse name address := by
    intro aaa used pools
    unfold InUse at used ⊢
    rw [← pools]
    exact used
  have collected : forall {aaa : AAA} {ref : Nat}, (aaa.collect ref).InUse name address ->
      aaa.conf.pools = now.conf.pools -> now.InUse name address :=
    fun used pools => same ((Wanes.collect _ _).addresses name address used) pools
  cases event with
  | authExpires id =>
      rw [← Option.some.inj taken] at inUse
      exact same inUse rfl
  | acctDatagram inputs datagram =>
      rcases acctDatagram_cases taken with
        ⟨_, _, _, _, _, ⟨_, discarded⟩ | ⟨given, _, finished⟩⟩
      · rw [discarded] at inUse
        exact same inUse rfl
      · rw [finished] at inUse
        exact same inUse (acctAnswer_pools _ given.handler)
  | acctExpires id =>
      rw [← Option.some.inj taken] at inUse
      exact same inUse rfl
  | acctTimer id =>
      rcases acctTimer_cases taken with ⟨_, _, _, _, finished⟩
      rw [finished] at inUse
      exact collected inUse rfl
  | interimExpires ref =>
      rw [← Option.some.inj taken] at inUse
      exact same inUse rfl
  | interimTimer counters ref index =>
      rcases interimTimer_cases taken with ⟨_, _, ⟨_, finished⟩ | ⟨_, finished⟩⟩
      · rw [finished] at inUse
        exact collected inUse (onInterim_pools _ counters ref)
      · rw [finished] at inUse
        exact collected inUse rfl
  | reload conf templates =>
      rcases step_reload taken with ⟨decoded, loaded⟩
      rw [loaded] at inUse
      rcases inUse with ⟨pool, found, member⟩
      have empty : pool.ips = ∅ := decoded pool (Table.mem_values_iff.mpr ⟨name, found⟩)
      rw [empty] at member
      exact absurd member (Finset.notMem_empty address)
  | _ => exact quiet.elim

/-- A start that no NONE answers calls nobody and at most adds a request. -/
theorem startSession_idle {aaa : AAA} {inputs : AAAInputs} {user : Bytes} {credential : Credential}
    {encap : Encapsulation} {callback : AAACallback} {out : AAA × List CallbackCall}
    (unusable : ¬ (aaa.NoneUsable ∧ .none ∈ beforeRadius aaa.conf.method))
    (started : aaa.startSession inputs user credential encap callback = some out) :
    out.2 = [] ∧ ∃ auth, out.1 = { aaa with auth := auth } := by
  have noRadius := not_mem_beforeRadius aaa.conf.method
  have idle := @startByMethods_idle inputs user credential encap callback _ aaa noRadius unusable
  unfold startSession at started
  rcases beforeRadius_cases aaa.conf.method with ⟨_, whole⟩ | ⟨_, rest, parts⟩
  · rw [whole, idle] at started
    rw [← Option.some.inj started]
    exact ⟨rfl, aaa.auth, rfl⟩
  · rw [parts, startByMethods_append _ noRadius, idle] at started
    rw [← Option.some.inj started]
    exact ⟨rfl, _, rfl⟩

/-- What any event brings into use was on offer, and the event was one of those
that take. -/
theorem takes_step {now after : AAA} {event : AAAEvent} (taken : step now event = some after)
    {name : Bytes} {address : UInt32} (inUse : after.InUse name address) :
    now.InUse name address ∨ now.MayTake event ∧ now.Offered address := by
  cases event with
  | startSession inputs user credential encap callback =>
      rcases Option.map_eq_some_iff.mp taken with ⟨out, started, equal⟩
      rw [← equal] at inUse
      by_cases usable : now.NoneUsable ∧ .none ∈ beforeRadius now.conf.method
      · have both := @startByMethods_induction
          (fun aaa => Takes now aaa ∧ forall address, aaa.Offered address -> now.Offered address)
          _ _ _ _ _ _ _ _ (fun _ _ here => here)
          (fun aaa sid _ made here _ construction => by
            have leased := leasedFrom_constructNone construction 0
            refine ⟨fun name address inUse => ?_, fun address offered =>
              here.2 address (leased.offered offered)⟩
            rcases Takes.enter leased sid name address inUse with old | offered
            · exact here.1 name address old
            · exact .inr (here.2 address offered))
          ⟨.of_pools rfl, fun _ offered => offered⟩ started
        exact (both.1 name address inUse).imp_right (fun offered => ⟨usable, offered⟩)
      · rcases (startSession_idle usable started).2 with ⟨auth, same⟩
        rw [same] at inUse
        exact .inl inUse
  | stopSession counters sid =>
      rw [← Option.some.inj taken] at inUse
      exact .inl (inUse_stopSession inUse)
  | stopAllSessions counters =>
      rw [← Option.some.inj taken] at inUse
      have stopped : forall (refs : List Nat) (aaa : AAA),
          (refs.foldl (fun aaa ref => aaa.stop counters ref) aaa).conf.pools = aaa.conf.pools := by
        intro refs
        induction refs with
        | nil => exact fun _ => rfl
        | cons ref rest inductionHypothesis =>
            exact fun aaa => (inductionHypothesis _).trans (stop_pools aaa counters ref)
      have collected : forall (refs : List Nat) (aaa : AAA),
          (refs.foldl (fun aaa ref => aaa.collect ref) aaa).InUse name address ->
            aaa.InUse name address := by
        intro refs
        induction refs with
        | nil => exact fun _ used => used
        | cons ref rest inductionHypothesis =>
            exact fun aaa used =>
              (Wanes.collect aaa ref).addresses name address (inductionHypothesis _ used)
      have left := collected now.sessions.values _ inUse
      unfold InUse at left ⊢
      dsimp only at left
      rw [stopped] at left
      exact .inl left
  | mapIfaceToSession sid ifindex =>
      rw [← Option.some.inj taken] at inUse
      unfold AAA.mapIfaceToSession at inUse
      split at inUse
      · exact .inl inUse
      · exact .inl inUse
  | authDatagram inputs datagram =>
      rcases Option.map_eq_some_iff.mp taken with ⟨out, received, equal⟩
      rw [← equal] at inUse
      rcases authDatagram_cases received with
        ⟨client, filled, answer, present, filling, ⟨_, discarded⟩ |
          ⟨given, processed, isAnswer, answered, finished⟩⟩
      · rw [discarded] at inUse
        exact .inl inUse
      · rw [finished] at inUse
        rcases processRadiusAnswer_constructs answered with
          ⟨_, full⟩ | ⟨sid, made, response, free, _, construction, same⟩
        · rw [full] at inUse
          exact .inl inUse
        · rw [same] at inUse
          have entered : (made.enter sid now.objects.length).InUse name address := by
            unfold InUse at inUse ⊢
            dsimp only at inUse
            rw [start_pools] at inUse
            exact inUse
          rcases Takes.enter (leasedFrom_constructRadius construction) sid name address entered with
            old | offered
          · exact .inl old
          · refine .inr ⟨⟨client, present, (filled, answer), filling, given, isAnswer, ?_⟩, offered⟩
            have found : now.firstFreeId = some sid := free
            rw [found]
            exact Option.some_ne_none sid
  | authTimer id =>
      rcases step_authTimer taken with ⟨auth, erased⟩
      rw [erased] at inUse
      exact .inl inUse
  | _ => exact .inl (inUse_of_quiet (by trivial) taken inUse)

end AAA

end Pppcpd
