import Pppcpd.Foundation.Bytes
import Pppcpd.Foundation.Table
import Mathlib.Data.Finset.Basic

namespace Pppcpd

open Foundation

/-!
# The AAA part of the configuration

Address pools, local templates and the list of methods.  The set `ips` of a
pool is not configured: it records the addresses in use, inside the very object
that a reload of the configuration replaces.  Addresses are 32-bit numbers and
zero stands for "no address".
-/

/-- `AAA_METHODS`. -/
inductive AAAMethod
  | none
  | local
  | radius
  deriving DecidableEq, Repr

/-- `FRAMED_POOL`. -/
structure FramedPool where
  startIp : UInt32
  stopIp : UInt32
  ips : Finset UInt32 := ∅
  deriving DecidableEq

namespace FramedPool

/-- The number of 32-bit addresses. -/
def addressCount : Nat := 4294967296

/-- The loop counter `i` of `allocate_ip` has 32 bits, so it passes `stop_ip`
after this many rounds, unless `stop_ip` is the greatest address: then it wraps
to zero and goes through all addresses. -/
def rounds (pool : FramedPool) : Nat :=
  if pool.stopIp.toNat + 1 = addressCount then addressCount
  else pool.stopIp.toNat + 1 - pool.startIp.toNat

/-- The address of a round. -/
def isFree (pool : FramedPool) (round : Nat) : Bool := !decide (UInt32.ofNat round ∈ pool.ips)

/-- `allocate_ip`: the first address from `start_ip` on that is not in use, or
zero.  `none` is the endless loop over a pool that ends at the greatest address
while every 32-bit address is in use. -/
def allocateIp (pool : FramedPool) : Option (UInt32 × FramedPool) :=
  match firstFrom pool.isFree pool.rounds pool.startIp.toNat with
  | some round => some (.ofNat round, { pool with ips := insert (.ofNat round) pool.ips })
  | none => if pool.stopIp.toNat + 1 = addressCount then none else some (0, pool)

/-- `deallocate_ip`. -/
def deallocateIp (pool : FramedPool) (address : UInt32) : FramedPool :=
  { pool with ips := pool.ips.erase address }

/-- A pool as `YAML::convert<FRAMED_POOL>::decode` makes it: a range, and no
address in use. -/
def Decoded (pool : FramedPool) : Prop := pool.ips = ∅

instance (pool : FramedPool) : Decidable pool.Decoded := inferInstanceAs (Decidable (_ = _))

/-- What `allocate_ip` does: it hands out an address that was free and marks it
in use, or it answers zero and changes nothing. -/
theorem allocateIp_cases {pool after : FramedPool} {address : UInt32}
    (allocated : pool.allocateIp = some (address, after)) :
    (address ∉ pool.ips ∧ after = { pool with ips := insert address pool.ips }) ∨
      (address = 0 ∧ after = pool) := by
  unfold allocateIp at allocated
  cases search : firstFrom pool.isFree pool.rounds pool.startIp.toNat with
  | some round =>
      rw [search] at allocated
      have parts := Prod.mk.inj (Option.some.inj allocated)
      have free := (firstFrom_spec search).1
      refine .inl ⟨?_, ?_⟩
      · rw [← parts.1]
        simpa [isFree] using free
      · rw [← parts.2, ← parts.1]
  | none =>
      rw [search] at allocated
      dsimp only at allocated
      split at allocated
      · cases allocated
      · have parts := Prod.mk.inj (Option.some.inj allocated)
        exact .inr ⟨parts.1.symm, parts.2.symm⟩

end FramedPool

/-- `PPPOELocalTemplate`. -/
structure PPPOELocalTemplate where
  framedPool : Bytes := []
  dns1 : UInt32 := 0
  dns2 : UInt32 := 0
  vrf : Bytes := []
  unnumbered : Bytes := []
  deriving DecidableEq, Repr

/-- `AAAConf`.  The server lists and dictionaries are read only when the daemon
starts, where they become the clients of `AAA`. -/
structure AAAConf where
  method : List AAAMethod
  pools : Table Bytes FramedPool := ∅
  localTemplate : Bytes := []

/-- Every pool of a configuration is as it is read from a file. -/
def AAAConf.Decoded (conf : AAAConf) : Prop := ∀ pool ∈ conf.pools.values, pool.Decoded

instance (conf : AAAConf) : Decidable conf.Decoded :=
  inferInstanceAs (Decidable (∀ pool ∈ conf.pools.values, pool.Decoded))

end Pppcpd
