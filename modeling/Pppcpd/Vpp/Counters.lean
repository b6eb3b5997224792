import Pppcpd.Foundation.Tally
import Pppcpd.Aaa.Session

namespace Pppcpd

open Foundation

/-!
# The counters of the interfaces

VPP counts in every worker thread for itself: its stat segment has one vector
for each thread, indexed by interface, and what went through an interface is
the sum over the threads.  `collect_counters` stores the values of the threads
one after the other into the same entry, so only the last thread is left.
-/

/-- A pair of counters, `vlib_counter_t`. -/
structure CombinedCounter where
  packets : UInt64
  bytes : UInt64
  deriving DecidableEq, Repr

/-- The data of an entry of the stat segment, with a vector for each thread.
Vectors of names and all further types are `other`: nothing is done with them. -/
inductive StatData
  | simple (vectors : List (List UInt64))
  | combined (vectors : List (List CombinedCounter))
  | other

structure StatEntry where
  name : String
  data : StatData

namespace VPP

/-- A counter that is made when an interface is seen first. -/
def freshCounters : VPPIfaceCounters := ⟨0, 0, 0, 0, 0⟩

/-- The body of the loop over `simple_counter_vec`. -/
def storeSimple (name : String) (value : UInt64) (counters : VPPIfaceCounters) : VPPIfaceCounters :=
  if name = "/if/drops" then { counters with drops := value } else counters

/-- The body of the loop over `combined_counter_vec`.  Its bound is taken from the
other member of the same union, which is the same vector. -/
def storeCombined (name : String) (value : CombinedCounter) (counters : VPPIfaceCounters) :
    VPPIfaceCounters :=
  if name = "/if/tx" then { counters with txBytes := value.bytes, txPkts := value.packets }
  else if name = "/if/rx" then { counters with rxBytes := value.bytes, rxPkts := value.packets }
  else counters

/-- The names that are not skipped. -/
def isCollected (name : String) : Bool := name = "/if/drops" || name = "/if/tx" || name = "/if/rx"

/-- One round of the loop over the entries of the stat segment. -/
def collectEntry (entry : StatEntry) (counters : Table UInt32 VPPIfaceCounters) :
    Table UInt32 VPPIfaceCounters :=
  if isCollected entry.name then
    match entry.data with
    | .simple vectors => Table.writeRows freshCounters UInt32.ofNat (storeSimple entry.name) vectors counters
    | .combined vectors =>
        Table.writeRows freshCounters UInt32.ofNat (storeCombined entry.name) vectors counters
    | .other => counters
  else counters

/-- `collect_counters`. -/
def collectCounters (entries : List StatEntry) (counters : Table UInt32 VPPIfaceCounters) :
    Table UInt32 VPPIfaceCounters :=
  entries.foldl (fun counters entry => collectEntry entry counters) counters

/-- `get_counters_by_index`. -/
def getCountersByIndex (ifindex : UInt32) (counters : Table UInt32 VPPIfaceCounters) :
    Bool × VPPIfaceCounters :=
  match counters.lookup ifindex with
  | none => (false, freshCounters)
  | some found => (true, found)

/-! ## What the stat segment holds -/

/-- The values of all threads for all interfaces. -/
structure Snapshot where
  threads : Nat
  interfaces : Nat
  rx : Fin threads -> Fin interfaces -> CombinedCounter
  tx : Fin threads -> Fin interfaces -> CombinedCounter
  drops : Fin threads -> Fin interfaces -> UInt64
  /-- Interfaces have 32-bit indices. -/
  indexed : interfaces ≤ 4294967296

namespace Snapshot

variable (snapshot : Snapshot)

/-- One vector for each thread. -/
def vectors {Value : Type} (values : Fin snapshot.threads -> Fin snapshot.interfaces -> Value) :
    List (List Value) :=
  List.ofFn (fun thread => List.ofFn (values thread))

def rxEntry : StatEntry := ⟨"/if/rx", .combined (snapshot.vectors snapshot.rx)⟩

def txEntry : StatEntry := ⟨"/if/tx", .combined (snapshot.vectors snapshot.tx)⟩

def dropsEntry : StatEntry := ⟨"/if/drops", .simple (snapshot.vectors snapshot.drops)⟩

/-- The stat segment holds the snapshot, in any order and among other entries. -/
def IsIn (entries : List StatEntry) : Prop :=
  (entries.filter (fun entry => isCollected entry.name)).Perm
    [snapshot.rxEntry, snapshot.txEntry, snapshot.dropsEntry]

/-- The counters of an interface are the sums over all threads. -/
def Summed (counters : Table UInt32 VPPIfaceCounters) (interface : Fin snapshot.interfaces) : Prop :=
  ∃ found, getCountersByIndex (UInt32.ofNat interface) counters = (true, found) ∧
    found.rxBytes.toNat = ∑ thread, (snapshot.rx thread interface).bytes.toNat ∧
    found.rxPkts.toNat = ∑ thread, (snapshot.rx thread interface).packets.toNat ∧
    found.txBytes.toNat = ∑ thread, (snapshot.tx thread interface).bytes.toNat ∧
    found.txPkts.toNat = ∑ thread, (snapshot.tx thread interface).packets.toNat ∧
    found.drops.toNat = ∑ thread, (snapshot.drops thread interface).toNat

/-- A thread has counted nothing for an interface. -/
def Idle (thread : Fin snapshot.threads) (interface : Fin snapshot.interfaces) : Prop :=
  snapshot.rx thread interface = ⟨0, 0⟩ ∧ snapshot.tx thread interface = ⟨0, 0⟩ ∧
    snapshot.drops thread interface = 0

/-- All threads but the last have counted nothing for an interface. -/
structure OneCounts (counters : Table UInt32 VPPIfaceCounters) (interface : Fin snapshot.interfaces) :
    Prop where
  others : forall thread : Fin snapshot.threads, thread.val + 1 < snapshot.threads ->
    snapshot.Idle thread interface
  /-- Without a thread the entry stays as it was. -/
  kept : snapshot.threads = 0 -> counters.lookup (UInt32.ofNat interface) = some freshCounters

/-! ## What is collected -/

/-- What the round for an entry does to the counters of one interface. -/
def effect (index : Nat) (found : Option VPPIfaceCounters) (entry : StatEntry) :
    Option VPPIfaceCounters :=
  match entry.data with
  | .simple vectors => afterWrites freshCounters (storeSimple entry.name) (column vectors index) found
  | .combined vectors => afterWrites freshCounters (storeCombined entry.name) (column vectors index) found
  | .other => found

/-- The vectors of an entry are not longer than there are indices. -/
def Fits (entry : StatEntry) : Prop :=
  match entry.data with
  | .simple vectors => forall vector, vector ∈ vectors -> vector.length ≤ 4294967296
  | .combined vectors => forall vector, vector ∈ vectors -> vector.length ≤ 4294967296
  | .other => True

theorem ofNat_inj_below {index : Nat} (indexed : index < 4294967296) (other : Nat)
    (below : other < 4294967296) (same : UInt32.ofNat other = UInt32.ofNat index) : other = index := by
  have values := congrArg UInt32.toNat same
  rw [UInt32.toNat_ofNat', UInt32.toNat_ofNat', Nat.mod_eq_of_lt below, Nat.mod_eq_of_lt indexed] at values
  exact values

theorem lookup_collectEntry {index : Nat} (indexed : index < 4294967296) {entry : StatEntry}
    (fits : isCollected entry.name = true -> Fits entry) (counters : Table UInt32 VPPIfaceCounters) :
    (collectEntry entry counters).lookup (UInt32.ofNat index) =
      if isCollected entry.name then effect index (counters.lookup (UInt32.ofNat index)) entry
      else counters.lookup (UInt32.ofNat index) := by
  rcases entry with ⟨name, data⟩
  unfold collectEntry
  by_cases collected : isCollected name = true
  · rw [if_pos collected, if_pos collected]
    have short := fits collected
    cases data with
    | simple vectors => exact lookup_writeRows (ofNat_inj_below indexed) _ short counters
    | combined vectors => exact lookup_writeRows (ofNat_inj_below indexed) _ short counters
    | other => rfl
  · rw [if_neg collected, if_neg collected]

/-- The counters of one interface after all rounds. -/
theorem lookup_collectCounters {index : Nat} (indexed : index < 4294967296) {entries : List StatEntry}
    (fits : forall entry, entry ∈ entries -> isCollected entry.name = true -> Fits entry)
    (counters : Table UInt32 VPPIfaceCounters) :
    (collectCounters entries counters).lookup (UInt32.ofNat index) =
      (entries.filter (fun entry => isCollected entry.name)).foldl (effect index)
        (counters.lookup (UInt32.ofNat index)) := by
  rw [List.foldl_filter]
  induction entries generalizing counters with
  | nil => rfl
  | cons entry rest inductionHypothesis =>
      have first := lookup_collectEntry indexed (fits entry List.mem_cons_self) counters
      have later := inductionHypothesis (fun other member => fits other (List.mem_cons_of_mem _ member))
        (collectEntry entry counters)
      rw [first] at later
      rw [List.foldl_cons]
      exact later

theorem fits_vectors {Value : Type} (values : Fin snapshot.threads -> Fin snapshot.interfaces -> Value) :
    forall vector, vector ∈ snapshot.vectors values -> vector.length ≤ 4294967296 := by
  intro vector member
  rcases List.mem_ofFn.mp member with ⟨thread, isVector⟩
  rw [← isVector, List.length_ofFn]
  exact snapshot.indexed

/-- The three statistics have counters of their own, so their order is of no
consequence. -/
theorem effect_comm (index : Nat) : ∀ first ∈ [snapshot.rxEntry, snapshot.txEntry, snapshot.dropsEntry],
    ∀ second ∈ [snapshot.rxEntry, snapshot.txEntry, snapshot.dropsEntry], ∀ found,
      effect index (effect index found first) second = effect index (effect index found second) first := by
  have rxTx : forall value other counters, storeCombined "/if/rx" value (storeCombined "/if/tx" other
      counters) = storeCombined "/if/tx" other (storeCombined "/if/rx" value counters) :=
    fun _ _ _ => rfl
  have rxDrops : forall value other counters, storeCombined "/if/rx" value (storeSimple "/if/drops" other
      counters) = storeSimple "/if/drops" other (storeCombined "/if/rx" value counters) :=
    fun _ _ _ => rfl
  have txDrops : forall value other counters, storeCombined "/if/tx" value (storeSimple "/if/drops" other
      counters) = storeSimple "/if/drops" other (storeCombined "/if/tx" value counters) :=
    fun _ _ _ => rfl
  intro first isFirst second isSecond found
  simp only [List.mem_cons, List.not_mem_nil, or_false] at isFirst isSecond
  rcases isFirst with rx | tx | drops
  · rcases isSecond with again | tx | drops
    · rw [rx, again]
    · rw [rx, tx]
      exact (afterWrites_comm rxTx _ _ found).symm
    · rw [rx, drops]
      exact (afterWrites_comm rxDrops _ _ found).symm
  · rcases isSecond with rx | again | drops
    · rw [tx, rx]
      exact afterWrites_comm rxTx _ _ found
    · rw [tx, again]
    · rw [tx, drops]
      exact (afterWrites_comm txDrops _ _ found).symm
  · rcases isSecond with rx | tx | again
    · rw [drops, rx]
      exact afterWrites_comm rxDrops _ _ found
    · rw [drops, tx]
      exact afterWrites_comm txDrops _ _ found
    · rw [drops, again]

/-- The counters of an interface after the columns of the three statistics. -/
theorem lookup_of_isIn {snapshot : Snapshot} {entries : List StatEntry} (holds : snapshot.IsIn entries)
    (counters : Table UInt32 VPPIfaceCounters) (interface : Fin snapshot.interfaces) :
    (collectCounters entries counters).lookup (UInt32.ofNat interface) =
      afterWrites freshCounters (storeSimple "/if/drops")
        (List.ofFn (fun thread => snapshot.drops thread interface))
        (afterWrites freshCounters (storeCombined "/if/tx")
          (List.ofFn (fun thread => snapshot.tx thread interface))
          (afterWrites freshCounters (storeCombined "/if/rx")
            (List.ofFn (fun thread => snapshot.rx thread interface))
            (counters.lookup (UInt32.ofNat interface)))) := by
  have fits : forall entry, entry ∈ entries -> isCollected entry.name = true -> Fits entry := by
    intro entry member collected
    have among := holds.mem_iff.mp (List.mem_filter.mpr ⟨member, collected⟩)
    simp only [List.mem_cons, List.not_mem_nil, or_false] at among
    rcases among with rx | tx | drops
    · rw [rx]
      exact snapshot.fits_vectors _
    · rw [tx]
      exact snapshot.fits_vectors _
    · rw [drops]
      exact snapshot.fits_vectors _
  have indexed := Nat.lt_of_lt_of_le interface.isLt snapshot.indexed
  rw [lookup_collectCounters indexed fits, holds.foldl_eq' ?_]
  · show afterWrites _ _ (column (snapshot.vectors _) _) (afterWrites _ _ (column (snapshot.vectors _) _)
      (afterWrites _ _ (column (snapshot.vectors _) _) _)) = _
    unfold vectors
    rw [column_ofFn, column_ofFn, column_ofFn]
    rfl
  · intro first isFirst second isSecond found
    exact snapshot.effect_comm _ first (holds.mem_iff.mp isFirst) second (holds.mem_iff.mp isSecond) found

/-- Counters whose last write came from one thread. -/
def lastCounters (rx tx : CombinedCounter) (drops : UInt64) : VPPIfaceCounters :=
  ⟨rx.packets, rx.bytes, tx.packets, tx.bytes, drops⟩

/-- The entry of an interface has the values of the last thread. -/
theorem lookup_of_last {count width : Nat} {rx tx : Fin (count + 1) -> Fin width -> CombinedCounter}
    {drops : Fin (count + 1) -> Fin width -> UInt64} {indexed : width ≤ 4294967296}
    {entries : List StatEntry} (holds : Snapshot.IsIn ⟨count + 1, width, rx, tx, drops, indexed⟩ entries)
    (counters : Table UInt32 VPPIfaceCounters) (interface : Fin width) :
    (collectCounters entries counters).lookup (UInt32.ofNat interface) =
      some (lastCounters (rx (Fin.last count) interface) (tx (Fin.last count) interface)
        (drops (Fin.last count) interface)) := by
  have dropped : forall value earlier found, storeSimple "/if/drops" value
      (storeSimple "/if/drops" earlier found) = storeSimple "/if/drops" value found := fun _ _ _ => rfl
  have sent : forall value earlier found, storeCombined "/if/tx" value
      (storeCombined "/if/tx" earlier found) = storeCombined "/if/tx" value found := fun _ _ _ => rfl
  have received : forall value earlier found, storeCombined "/if/rx" value
      (storeCombined "/if/rx" earlier found) = storeCombined "/if/rx" value found := fun _ _ _ => rfl
  rw [lookup_of_isIn holds counters interface, List.ofFn_succ', List.ofFn_succ', List.ofFn_succ',
    List.concat_eq_append, List.concat_eq_append, List.concat_eq_append, afterWrites_concat dropped,
    afterWrites_concat sent, afterWrites_concat received]
  rfl

theorem combined_eq_zero_iff (counter : CombinedCounter) :
    counter = ⟨0, 0⟩ ↔ counter.packets.toNat = 0 ∧ counter.bytes.toNat = 0 := by
  constructor
  · intro zero
    rw [zero]
    exact ⟨rfl, rfl⟩
  · rintro ⟨packets, bytes⟩
    rcases counter with ⟨some, size⟩
    rw [show some = 0 from UInt64.toNat_inj.mp packets, show size = 0 from UInt64.toNat_inj.mp bytes]

/-- Every snapshot is summed up for an interface exactly when only the last thread
counts for it. -/
theorem summed_iff (snapshot : Snapshot) {entries : List StatEntry} (holds : snapshot.IsIn entries)
    (counters : Table UInt32 VPPIfaceCounters) (interface : Fin snapshot.interfaces) :
    snapshot.Summed (collectCounters entries counters) interface ↔
      snapshot.OneCounts counters interface := by
  rcases snapshot with ⟨threads, width, rx, tx, drops, indexed⟩
  cases threads with
  | zero =>
      have stored := lookup_of_isIn holds counters interface
      have unchanged : (collectCounters entries counters).lookup (UInt32.ofNat interface) =
          counters.lookup (UInt32.ofNat interface) := stored
      constructor
      · rintro ⟨found, isFound, rxBytes, rxPkts, txBytes, txPkts, dropped⟩
        refine ⟨fun thread => thread.elim0, fun _ => ?_⟩
        rw [getCountersByIndex, unchanged] at isFound
        cases held : counters.lookup (UInt32.ofNat interface) with
        | none =>
            rw [held] at isFound
            exact nomatch (Prod.mk.inj isFound).1
        | some entry =>
            rw [held] at isFound
            have same : entry = found := (Prod.mk.inj isFound).2
            rw [same]
            rcases found with ⟨rxPktsOf, rxBytesOf, txPktsOf, txBytesOf, dropsOf⟩
            rw [show rxPktsOf = 0 from UInt64.toNat_inj.mp rxPkts,
              show rxBytesOf = 0 from UInt64.toNat_inj.mp rxBytes,
              show txPktsOf = 0 from UInt64.toNat_inj.mp txPkts,
              show txBytesOf = 0 from UInt64.toNat_inj.mp txBytes,
              show dropsOf = 0 from UInt64.toNat_inj.mp dropped]
            rfl
      · intro counts
        refine ⟨freshCounters, ?_, rfl, rfl, rfl, rfl, rfl⟩
        rw [getCountersByIndex, unchanged, counts.kept rfl]
  | succ count =>
      have stored := lookup_of_last holds counters interface
      have rxBytes := last_eq_sum_iff (fun thread => (rx thread interface).bytes.toNat)
      have rxPkts := last_eq_sum_iff (fun thread => (rx thread interface).packets.toNat)
      have txBytes := last_eq_sum_iff (fun thread => (tx thread interface).bytes.toNat)
      have txPkts := last_eq_sum_iff (fun thread => (tx thread interface).packets.toNat)
      have dropped := last_eq_sum_iff (fun thread => (drops thread interface).toNat)
      constructor
      · rintro ⟨found, isFound, rxBytesSum, rxPktsSum, txBytesSum, txPktsSum, droppedSum⟩
        rw [getCountersByIndex, stored] at isFound
        rw [← (Prod.mk.inj isFound).2] at rxBytesSum rxPktsSum txBytesSum txPktsSum droppedSum
        refine ⟨fun thread earlier => ?_, nofun⟩
        have inside : thread.val < count := Nat.lt_of_succ_lt_succ earlier
        have isThread : thread = (⟨thread.val, inside⟩ : Fin count).castSucc := rfl
        rw [isThread]
        refine ⟨?_, ?_, ?_⟩
        · exact (combined_eq_zero_iff _).mpr ⟨rxPkts.mp rxPktsSum _, rxBytes.mp rxBytesSum _⟩
        · exact (combined_eq_zero_iff _).mpr ⟨txPkts.mp txPktsSum _, txBytes.mp txBytesSum _⟩
        · exact UInt64.toNat_inj.mp (dropped.mp droppedSum _)
      · intro counts
        have idle : forall row : Fin count, Snapshot.Idle ⟨count + 1, width, rx, tx, drops, indexed⟩
            row.castSucc interface := fun row =>
          counts.others row.castSucc (Nat.succ_lt_succ row.isLt)
        refine ⟨_, by rw [getCountersByIndex, stored], ?_, ?_, ?_, ?_, ?_⟩
        · exact rxBytes.mpr (fun row => ((combined_eq_zero_iff _).mp (idle row).1).2)
        · exact rxPkts.mpr (fun row => ((combined_eq_zero_iff _).mp (idle row).1).1)
        · exact txBytes.mpr (fun row => ((combined_eq_zero_iff _).mp (idle row).2.1).2)
        · exact txPkts.mpr (fun row => ((combined_eq_zero_iff _).mp (idle row).2.1).1)
        · exact dropped.mpr (fun row => congrArg UInt64.toNat (idle row).2.2)

/-- Two threads and two interfaces, of which the first thread is silent on the second
interface. -/
def sampleSplit : Snapshot where
  threads := 2
  interfaces := 2
  rx := fun thread interface => if thread.val < interface.val then ⟨0, 0⟩ else ⟨1, 100⟩
  tx := fun thread interface => if thread.val < interface.val then ⟨0, 0⟩ else ⟨2, 300⟩
  drops := fun thread interface => if thread.val < interface.val then 0 else 4
  indexed := by decide

/-- The counts of the second thread are the whole traffic of the second interface, over
what was stored for it before. -/
theorem summed_split : sampleSplit.Summed
    (collectCounters [sampleSplit.dropsEntry, sampleSplit.rxEntry, sampleSplit.txEntry]
      ((∅ : Table UInt32 VPPIfaceCounters).insert 1 ⟨9, 900, 9, 900, 9⟩)) (1 : Fin 2) := by
  refine (summed_iff sampleSplit ?_ _ (1 : Fin 2)).mpr ⟨fun thread earlier => ?_, nofun⟩
  · exact (List.Perm.swap _ _ _).trans ((List.Perm.swap _ _ _).cons _)
  · have first : thread.val = 0 := Nat.lt_one_iff.mp (Nat.lt_of_succ_lt_succ earlier)
    have silent : thread.val < (1 : Fin 2).val := by
      rw [first]
      decide
    exact ⟨if_pos silent, if_pos silent, if_pos silent⟩

/-- Two threads that have counted the same packets for one interface. -/
def samplePair : Snapshot where
  threads := 2
  interfaces := 1
  rx := fun _ _ => ⟨1, 100⟩
  tx := fun _ _ => ⟨2, 300⟩
  drops := fun _ _ => 0
  indexed := by decide

/-- With two threads half of the traffic is lost. -/
theorem threads_overwrite : ¬ (forall (snapshot : Snapshot) (entries : List StatEntry),
    snapshot.IsIn entries -> forall (counters : Table UInt32 VPPIfaceCounters)
      (interface : Fin snapshot.interfaces),
      snapshot.Summed (collectCounters entries counters) interface) := by
  intro summed
  rcases summed samplePair [samplePair.rxEntry, samplePair.txEntry, samplePair.dropsEntry]
    (List.Perm.refl _) ∅ (0 : Fin 1) with ⟨found, isFound, received, _⟩
  have stored : getCountersByIndex 0 (collectCounters
      [samplePair.rxEntry, samplePair.txEntry, samplePair.dropsEntry] ∅) = (true, ⟨1, 100, 2, 300, 0⟩) := by
    decide +kernel
  have both : ∑ thread : Fin 2, (samplePair.rx thread (0 : Fin 1)).bytes.toNat = 200 := by
    decide +kernel
  have one : found = ⟨1, 100, 2, 300, 0⟩ := (Prod.mk.inj (isFound.symm.trans stored)).2
  rw [one] at received
  exact absurd (received.trans both) (by decide)

end Snapshot

end VPP

end Pppcpd
