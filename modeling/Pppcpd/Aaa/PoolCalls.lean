import Pppcpd.Aaa.Config
import Pppcpd.Foundation.Run

namespace Pppcpd

open Foundation

/-!
# Calls of a pool

A pool is used by two calls, in any order and with any addresses given back.
The law of an allocator over a closed range of addresses is stated for one
call; a list of calls obeys it when every call does in its turn.  The counter
of the loop in `allocate_ip` has the width of an address, so a range that ends
at the greatest address has no value behind its end.
-/

namespace FramedPool

/-- The addresses from `start_ip` to `stop_ip`. -/
def InRange (pool : FramedPool) (address : UInt32) : Prop :=
  pool.startIp ≤ address ∧ address ≤ pool.stopIp

/-- Every address of the range is in use. -/
def Full (pool : FramedPool) : Prop := forall address, pool.InRange address -> address ∈ pool.ips

/-- No address outside the range is in use. -/
def Confined (pool : FramedPool) : Prop := ∀ address ∈ pool.ips, pool.InRange address

/-- `stop_ip` is 255.255.255.255. -/
def EndsAtTop (pool : FramedPool) : Prop := pool.stopIp.toNat + 1 = addressCount

instance (pool : FramedPool) : Decidable pool.EndsAtTop := inferInstanceAs (Decidable (_ = _))

/-- One call of a pool. -/
inductive Call
  | allocateIp
  | deallocateIp (address : UInt32)
  deriving DecidableEq, Repr

/-- The pool after a call, unless the call does not end. -/
def call (pool : FramedPool) : Call -> Option FramedPool
  | .allocateIp => pool.allocateIp.map Prod.snd
  | .deallocateIp address => some (pool.deallocateIp address)

/-- What an allocator of the range answers: zero exactly when nothing is free,
and then nothing changes, or else a free address of the range, which alone is
marked. -/
structure Answers (pool : FramedPool) (address : UInt32) (after : FramedPool) : Prop where
  zero : address = 0 ↔ pool.Full
  refused : address = 0 -> after = pool
  given : address ≠ 0 -> pool.InRange address ∧ address ∉ pool.ips ∧
    after = { pool with ips := insert address pool.ips }

/-- The law of one call: it ends, an allocation answers as it should, and only
addresses of the range are in use afterwards. -/
def Lawful (pool : FramedPool) : Call -> Prop
  | .allocateIp => ∃ address after, pool.allocateIp = some (address, after) ∧
      pool.Answers address after ∧ after.Confined
  | .deallocateIp address => (pool.deallocateIp address).Confined

/-- The calls that the code answers by the law: all but an allocation from a
full range that ends at the greatest address. -/
def Bounded (pool : FramedPool) : Call -> Prop
  | .allocateIp => pool.EndsAtTop -> ¬ pool.Full
  | .deallocateIp _ => True

/-! ## The search -/

theorem toNat_ofNat_round {round : Nat} (small : round < addressCount) :
    (UInt32.ofNat round).toNat = round :=
  UInt32.toNat_ofNat_of_lt' small

/-- An address of the range belongs to a round. -/
theorem inRange_round {pool : FramedPool} {address : UInt32} (inside : pool.InRange address) :
    pool.startIp.toNat ≤ address.toNat ∧
      address.toNat < pool.startIp.toNat + pool.rounds := by
  have low := UInt32.le_iff_toNat_le.mp inside.1
  have high := UInt32.le_iff_toNat_le.mp inside.2
  have small := address.toNat_lt
  refine ⟨low, ?_⟩
  unfold rounds addressCount
  split <;> omega

/-- A round that tests an address in use finds nothing. -/
theorem isFree_toNat (pool : FramedPool) (address : UInt32) :
    pool.isFree address.toNat = true ↔ address ∉ pool.ips := by
  simp [isFree]

/-- The search fails on a full range only. -/
theorem full_of_search {pool : FramedPool}
    (search : firstFrom pool.isFree pool.rounds pool.startIp.toNat = none) : pool.Full := by
  intro address inside
  have round := inRange_round inside
  have used := firstFrom_eq_none_iff.mp search address.toNat round.1 round.2
  by_contra free
  rw [(pool.isFree_toNat address).mpr free] at used
  cases used

/-- Where something of the range is free, the search ends inside the range. -/
theorem inRange_of_search {pool : FramedPool} {round : Nat} (room : ¬ pool.Full)
    (search : firstFrom pool.isFree pool.rounds pool.startIp.toNat = some round) :
    pool.InRange (.ofNat round) := by
  unfold Full at room
  push Not at room
  rcases room with ⟨address, inside, free⟩
  -- The search does not pass the free address.
  have early : round ≤ address.toNat := by
    by_contra passed
    have used := firstFrom_least search (inRange_round inside).1 (by omega)
    rw [(pool.isFree_toNat address).mpr free] at used
    cases used
  have small := address.toNat_lt
  have value := toNat_ofNat_round (Nat.lt_of_le_of_lt early small)
  have high := UInt32.le_iff_toNat_le.mp inside.2
  constructor
  · rw [UInt32.le_iff_toNat_le, value]
    exact (firstFrom_spec search).2.1
  · rw [UInt32.le_iff_toNat_le, value]
    exact Nat.le_trans early high

/-- Below the greatest address no search leaves the range. -/
theorem inRange_of_search_below {pool : FramedPool} {round : Nat} (below : ¬ pool.EndsAtTop)
    (search : firstFrom pool.isFree pool.rounds pool.startIp.toNat = some round) :
    pool.InRange (.ofNat round) := by
  have spec := (firstFrom_spec search).2
  have small := pool.stopIp.toNat_lt
  unfold EndsAtTop at below
  unfold rounds at spec
  rw [if_neg below] at spec
  have value : (UInt32.ofNat round).toNat = round :=
    toNat_ofNat_round (by unfold addressCount; omega)
  constructor
  · rw [UInt32.le_iff_toNat_le, value]
    exact spec.1
  · rw [UInt32.le_iff_toNat_le, value]
    omega

/-- A range is full exactly when a search that stops at its end fails. -/
theorem full_iff (pool : FramedPool) : pool.Full ↔
    firstFrom pool.isFree (pool.stopIp.toNat + 1 - pool.startIp.toNat) pool.startIp.toNat = none := by
  rw [firstFrom_eq_none_iff]
  constructor
  · intro full number least below
    have small := pool.stopIp.toNat_lt
    have value : (UInt32.ofNat number).toNat = number :=
      toNat_ofNat_round (by unfold addressCount; omega)
    have used := full (.ofNat number) ⟨UInt32.le_iff_toNat_le.mpr (by omega),
      UInt32.le_iff_toNat_le.mpr (by omega)⟩
    simpa [isFree] using used
  · intro tested address inside
    have low := UInt32.le_iff_toNat_le.mp inside.1
    have high := UInt32.le_iff_toNat_le.mp inside.2
    have used := tested address.toNat low (by omega)
    by_contra free
    rw [(pool.isFree_toNat address).mpr free] at used
    cases used

instance (pool : FramedPool) : Decidable pool.Full := decidable_of_iff' _ pool.full_iff

/-- A pool with room hands out an address of its range that was free.  It is zero
exactly when the range starts at zero and zero is free. -/
theorem allocateIp_of_room {pool : FramedPool} (room : ¬ pool.Full) :
    ∃ address, pool.allocateIp = some (address, { pool with ips := insert address pool.ips }) ∧
      (address = 0 ↔ pool.startIp = 0 ∧ 0 ∉ pool.ips) := by
  unfold allocateIp
  cases search : firstFrom pool.isFree pool.rounds pool.startIp.toNat with
  | none => exact absurd (full_of_search search) room
  | some round =>
      have inside := inRange_of_search room search
      have tested := (firstFrom_spec search).1
      have free : UInt32.ofNat round ∉ pool.ips := by simpa [isFree] using tested
      refine ⟨_, rfl, ?_, ?_⟩
      · intro zero
        rw [zero] at inside free
        exact ⟨UInt32.le_antisymm inside.1 (UInt32.le_iff_toNat_le.mpr (Nat.zero_le _)), free⟩
      · rintro ⟨atZero, zeroFree⟩
        have early : round = 0 := by
          by_contra later
          have used := firstFrom_least search (by rw [atZero]; exact Nat.le_refl 0)
            (Nat.pos_of_ne_zero later)
          have isFree := (pool.isFree_toNat 0).mpr zeroFree
          rw [show (0 : UInt32).toNat = 0 from rfl, used] at isFree
          cases isFree
        rw [early]
        rfl

/-! ## One call -/

/-- Marking an address of the range keeps a pool confined. -/
theorem Confined.mark {pool : FramedPool} (confined : pool.Confined) {address : UInt32}
    (inside : pool.InRange address) :
    Confined { pool with ips := insert address pool.ips } := by
  intro other member
  rcases Finset.mem_insert.mp member with same | before
  · rw [same]
    exact inside
  · exact confined other before

/-- Giving an address back keeps a pool confined. -/
theorem Confined.deallocateIp {pool : FramedPool} (confined : pool.Confined) (address : UInt32) :
    (pool.deallocateIp address).Confined := by
  intro other member
  exact confined other (Finset.mem_of_mem_erase member)

/-- An allocation that the range allows obeys the law. -/
theorem lawful_of_bounded {pool : FramedPool} (first : 0 < pool.startIp)
    (confined : pool.Confined) (bounded : pool.Bounded .allocateIp) : pool.Lawful .allocateIp := by
  unfold Lawful allocateIp
  cases search : firstFrom pool.isFree pool.rounds pool.startIp.toNat with
  | none =>
      have full := full_of_search search
      have below : ¬ pool.EndsAtTop := fun top => bounded top full
      unfold EndsAtTop at below
      dsimp only
      rw [if_neg below]
      exact ⟨0, pool, rfl, ⟨by simp [full], fun _ => rfl, fun nonzero => absurd rfl nonzero⟩,
        confined⟩
  | some round =>
      have inside : pool.InRange (.ofNat round) := by
        by_cases top : pool.EndsAtTop
        · exact inRange_of_search (bounded top) search
        · exact inRange_of_search_below top search
      have free : UInt32.ofNat round ∉ pool.ips := by
        have tested := (firstFrom_spec search).1
        simpa [isFree] using tested
      have nonzero : UInt32.ofNat round ≠ 0 := by
        intro same
        rw [same] at inside
        exact absurd inside.1 (UInt32.not_le.mpr first)
      have room : ¬ pool.Full := fun full => free (full _ inside)
      exact ⟨_, _, rfl, ⟨by simp [nonzero, room], fun same => absurd same nonzero,
        fun _ => ⟨inside, free, rfl⟩⟩, confined.mark inside⟩

/-- An allocation from a full range that ends at the greatest address marks
whatever it answers, when it ends. -/
theorem marks_of_endsAtTop {pool after : FramedPool} {address : UInt32} (top : pool.EndsAtTop)
    (allocated : pool.allocateIp = some (address, after)) :
    address ∉ pool.ips ∧ address ∈ after.ips := by
  unfold allocateIp at allocated
  cases search : firstFrom pool.isFree pool.rounds pool.startIp.toNat with
  | none =>
      rw [search] at allocated
      unfold EndsAtTop at top
      dsimp only at allocated
      rw [if_pos top] at allocated
      cases allocated
  | some round =>
      rw [search] at allocated
      have parts := Prod.mk.inj (Option.some.inj allocated)
      have tested := (firstFrom_spec search).1
      rw [← parts.1, ← parts.2]
      exact ⟨by simpa [isFree] using tested, Finset.mem_insert_self _ _⟩

/-- A lawful allocation is one that the range allows. -/
theorem bounded_of_lawful {pool : FramedPool} (lawful : pool.Lawful .allocateIp) :
    pool.Bounded .allocateIp := by
  intro top full
  rcases lawful with ⟨address, after, allocated, answers, _⟩
  have marks := marks_of_endsAtTop top allocated
  rw [answers.refused (answers.zero.mpr full)] at marks
  exact marks.1 marks.2

/-- One call of a confined pool obeys the law exactly when the range allows it. -/
theorem lawful_iff_bounded {pool : FramedPool} (first : 0 < pool.startIp)
    (confined : pool.Confined) (made : Call) : pool.Lawful made ↔ pool.Bounded made := by
  cases made with
  | allocateIp => exact ⟨bounded_of_lawful, lawful_of_bounded first confined⟩
  | deallocateIp address => exact ⟨fun _ => trivial, fun _ => confined.deallocateIp address⟩

/-- A lawful call keeps the range, and its pool confined to it. -/
theorem kept_call {pool after : FramedPool} {made : Call} (lawful : pool.Lawful made)
    (called : pool.call made = some after) :
    after.startIp = pool.startIp ∧ after.Confined := by
  cases made with
  | allocateIp =>
      rcases lawful with ⟨address, later, allocated, answers, confined⟩
      have same : later = after := by
        rw [call, allocated] at called
        exact Option.some.inj called
      rw [← same]
      refine ⟨?_, confined⟩
      by_cases zero : address = 0
      · rw [answers.refused zero]
      · rw [(answers.given zero).2.2]
  | deallocateIp address =>
      rw [← Option.some.inj called]
      exact ⟨rfl, lawful⟩

/-! ## All calls -/

/-- From the empty pool on, every call obeys the law exactly when no allocation
is made from a full range that ends at the greatest address. -/
theorem lawful_calls_iff {pool : FramedPool} (first : 0 < pool.startIp) (empty : pool.Decoded)
    (calls : List Call) :
    Permitted call Lawful pool calls ↔ Permitted call Bounded pool calls := by
  have confined : pool.Confined := by
    intro address member
    rw [empty] at member
    exact absurd member (Finset.notMem_empty address)
  refine permitted_iff_of_invariant (fun now => 0 < now.startIp ∧ now.Confined) ?_ ?_
    ⟨first, confined⟩ calls
  · intro now made here
    exact lawful_iff_bounded here.1 here.2 made
  · intro now made after here lawful called
    have kept := kept_call lawful called
    exact ⟨kept.1 ▸ here.1, kept.2⟩

/-- The pool of nothing but the greatest address. -/
def lastAddress : FramedPool where
  startIp := 4294967295
  stopIp := 4294967295

theorem lawful_calls_iff_at_lastAddress :
    Permitted call Lawful lastAddress [.allocateIp, .deallocateIp 4294967295, .allocateIp] ↔
      Permitted call Bounded lastAddress [.allocateIp, .deallocateIp 4294967295, .allocateIp] :=
  @lawful_calls_iff lastAddress (by decide) rfl _

/-- The second allocation from that pool answers zero and marks it: an address
outside the range. -/
theorem lastAddress_wraps :
    0 < lastAddress.startIp ∧ lastAddress.startIp ≤ lastAddress.stopIp ∧ lastAddress.Decoded ∧
      execute call lastAddress [.allocateIp, .allocateIp] =
        some { lastAddress with ips := {0, 4294967295} } ∧
      ¬ Permitted call Lawful lastAddress [.allocateIp, .allocateIp] := by
  have firstCall : lastAddress.call .allocateIp =
      some { lastAddress with ips := {4294967295} } := by decide +kernel
  have secondCall : FramedPool.allocateIp { lastAddress with ips := {4294967295} } =
      some (0, { lastAddress with ips := {0, 4294967295} }) := by decide +kernel
  refine ⟨by decide, by decide, rfl, ?_, ?_⟩
  · rw [execute, firstCall, Option.bind_some, execute, call, secondCall]
    rfl
  · intro lawful
    rcases (lawful.2 _ firstCall).1 with ⟨address, after, allocated, answers, _⟩
    have parts := Prod.mk.inj (Option.some.inj (allocated.symm.trans secondCall))
    have same := answers.refused parts.1
    rw [parts.2] at same
    exact absurd (congrArg FramedPool.ips same) (by decide)

end FramedPool
end Pppcpd
