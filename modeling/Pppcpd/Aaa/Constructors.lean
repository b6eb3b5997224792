import Pppcpd.Aaa.Grants
import Pppcpd.Aaa.PoolCalls

namespace Pppcpd

open Foundation

/-!
# The two constructors of an AAA session

A template sets the addresses, the VRF and the unnumbered interface of a
session, however its subscriber was authenticated.  A server that sets nothing
of its own should make no difference.  It does in two cases: the constructor
for NONE does not copy `unnumbered`, and it looks for a pool of the empty name
where the other constructor has no pool to look for.
-/

namespace FramedPool

/-- Every 32-bit address is in use, and the range ends at the greatest: the
loop of `allocate_ip` does not end. -/
def Endless (pool : FramedPool) : Prop := pool.EndsAtTop ∧ forall address, address ∈ pool.ips

theorem allocateIp_eq_none_iff (pool : FramedPool) : pool.allocateIp = none ↔ pool.Endless := by
  unfold allocateIp
  constructor
  · intro nothing
    cases search : firstFrom pool.isFree pool.rounds pool.startIp.toNat with
    | some round =>
        rw [search] at nothing
        cases nothing
    | none =>
        rw [search] at nothing
        dsimp only at nothing
        split at nothing
        · rename_i atTop
          refine ⟨atTop, fun address => ?_⟩
          have tested := firstFrom_eq_none_iff.mp search
          unfold rounds at tested
          rw [if_pos atTop] at tested
          have small := address.toNat_lt
          have first := pool.startIp.toNat_lt
          -- An address below `start_ip` is reached after the counter has wrapped.
          by_cases early : address.toNat < pool.startIp.toNat
          · have used := tested (address.toNat + addressCount) (by unfold addressCount; omega)
              (by omega)
            have wrapped : UInt32.ofNat (address.toNat + addressCount) = address := by
              apply UInt32.toNat_inj.mp
              rw [UInt32.toNat_ofNat']
              unfold addressCount
              omega
            unfold isFree at used
            rw [wrapped] at used
            simpa using used
          · have used := tested address.toNat (Nat.le_of_not_lt early)
              (by unfold addressCount; omega)
            by_contra free
            rw [(pool.isFree_toNat address).mpr free] at used
            cases used
        · cases nothing
  · rintro ⟨atTop, used⟩
    have failed : firstFrom pool.isFree pool.rounds pool.startIp.toNat = none := by
      refine firstFrom_eq_none_iff.mpr (fun round _ _ => ?_)
      unfold isFree
      rw [decide_eq_true (used _)]
      rfl
    rw [failed]
    exact if_pos atTop

end FramedPool

/-- What a session has from its template and from a pool. -/
structure SessionSettings where
  dns1 : UInt32
  dns2 : UInt32
  framedPool : Bytes
  vrf : Bytes
  unnumbered : Bytes
  address : UInt32
  freeIp : Bool
  deriving DecidableEq, Repr

def AAASession.settings (session : AAASession) : SessionSettings where
  dns1 := session.dns1
  dns2 := session.dns2
  framedPool := session.framedPool
  vrf := session.vrf
  unnumbered := session.unnumbered
  address := session.address
  freeIp := session.freeIp

namespace AAA

variable (aaa : AAA)

/-- The settings of the session that a constructor has made, and the pools. -/
def outcome (made : AAA) : Option SessionSettings × Table Bytes FramedPool :=
  ((made.objects.deref aaa.objects.length).map AAASession.settings, made.conf.pools)

/-- The session of NONE and the one of an empty answer are set up in the same
way and leave the same pools. -/
def ConstructorsAgree (templateName : Bytes) : Prop :=
  forall ifindex other sid user,
    (aaa.constructNone ifindex sid user templateName).map aaa.outcome =
      (aaa.constructRadius other sid user templateName {}).map aaa.outcome

/-- The template of a name, which is empty when there is none. -/
def template (templateName : Bytes) : PPPOELocalTemplate :=
  (aaa.templates.lookup templateName).getD {}

/-- No constructor comes back from the pool. -/
def Hangs (pool : Bytes) : Prop := ∃ found, aaa.conf.pools.lookup pool = some found ∧ found.Endless

theorem takeAddress_eq_none_iff (pool : Bytes) : aaa.takeAddress pool = none ↔ aaa.Hangs pool := by
  unfold takeAddress Hangs
  cases there : aaa.conf.pools.lookup pool with
  | none => exact ⟨fun impossible => (nomatch impossible), fun ⟨_, impossible, _⟩ => (nomatch impossible)⟩
  | some found =>
      dsimp only
      rw [Option.map_eq_none_iff, found.allocateIp_eq_none_iff]
      exact ⟨fun endless => ⟨found, rfl, endless⟩,
        fun ⟨other, same, endless⟩ => Option.some.inj same ▸ endless⟩

/-- The settings that a session gets from a template and an address. -/
def settingsOf (template : PPPOELocalTemplate) (unnumbered : Bytes) (taken : UInt32 × Bool) :
    SessionSettings where
  dns1 := template.dns1
  dns2 := template.dns2
  framedPool := template.framedPool
  vrf := template.vrf
  unnumbered := unnumbered
  address := taken.1
  freeIp := taken.2

variable {aaa}

theorem outcome_makeObject {taken : AAA} (same : taken.objects = aaa.objects) (session : AAASession) :
    aaa.outcome (taken.makeObject session) = (some session.settings, taken.conf.pools) := by
  unfold outcome makeObject
  dsimp only
  rw [same, Heap.deref_make, if_pos rfl]
  rfl

/-- What NONE makes of a template. -/
theorem outcome_constructNone (ifindex sid : UInt32) (user templateName : Bytes) :
    (aaa.constructNone ifindex sid user templateName).map aaa.outcome =
      (aaa.takeAddress (aaa.template templateName).framedPool).map (fun taken =>
        (some (settingsOf (aaa.template templateName) [] taken.1), taken.2.conf.pools)) := by
  unfold constructNone
  dsimp only
  rw [Option.map_map]
  refine Option.map_congr (fun taken took => ?_)
  exact outcome_makeObject (objects_of_takeAddress took) _

/-- The constructor for RADIUS at an empty answer. -/
theorem constructRadius_empty (aaa : AAA) (ifindex sid : UInt32) (user templateName : Bytes) :
    aaa.constructRadius ifindex sid user templateName {} =
      (if (0 : UInt32) = 0 ∧ (aaa.template templateName).framedPool ≠ [] then
          aaa.takeAddress (aaa.template templateName).framedPool
        else some ((0, false), aaa)).map (fun taken =>
          taken.2.makeObject
            { sessionId := sid, username := user, ifindex := ifindex
              dns1 := (aaa.template templateName).dns1, dns2 := (aaa.template templateName).dns2
              framedPool := (aaa.template templateName).framedPool
              vrf := (aaa.template templateName).vrf
              unnumbered := (aaa.template templateName).unnumbered, acct := true
              address := taken.1.1, freeIp := taken.1.2 }) := rfl

/-- What an empty answer makes of a template that names a pool. -/
theorem outcome_constructRadius {templateName : Bytes}
    (named : (aaa.template templateName).framedPool ≠ []) (ifindex sid : UInt32) (user : Bytes) :
    (aaa.constructRadius ifindex sid user templateName {}).map aaa.outcome =
      (aaa.takeAddress (aaa.template templateName).framedPool).map (fun taken =>
        (some (settingsOf (aaa.template templateName) (aaa.template templateName).unnumbered taken.1),
          taken.2.conf.pools)) := by
  rw [constructRadius_empty, if_pos ⟨rfl, named⟩, Option.map_map]
  refine Option.map_congr (fun taken took => ?_)
  exact outcome_makeObject (objects_of_takeAddress took) _

/-- What it makes of a template without a pool. -/
theorem outcome_constructRadius_unnamed {templateName : Bytes}
    (unnamed : (aaa.template templateName).framedPool = []) (ifindex sid : UInt32) (user : Bytes) :
    (aaa.constructRadius ifindex sid user templateName {}).map aaa.outcome =
      some (some (settingsOf (aaa.template templateName) (aaa.template templateName).unnumbered
        (0, false)), aaa.conf.pools) := by
  rw [constructRadius_empty, if_neg (fun both => both.2 unnamed), Option.map_some, Option.map_some]
  exact congrArg some (outcome_makeObject rfl _)

/-- An address from a pool is marked to be given back. -/
theorem freeIp_of_takeAddress {pool : Bytes} {found : FramedPool} {taken : (UInt32 × Bool) × AAA}
    (isPool : aaa.conf.pools.lookup pool = some found) (took : aaa.takeAddress pool = some taken) :
    taken.1.2 = true := by
  unfold takeAddress at took
  rw [isPool] at took
  rcases Option.map_eq_some_iff.mp took with ⟨_, _, equal⟩
  rw [← equal]

/-- Two settings of one template and one address agree when they have the same
unnumbered interface. -/
theorem settingsOf_inj {template : PPPOELocalTemplate} {first second : Bytes}
    {taken : UInt32 × Bool} {pools : Table Bytes FramedPool}
    (same : some (some (settingsOf template first taken), pools) =
      some (some (settingsOf template second taken), pools)) : first = second :=
  congrArg SessionSettings.unnumbered (Option.some.inj (Prod.mk.inj (Option.some.inj same)).1)

/-- The constructors agree exactly on the templates that set no unnumbered
interface and name a pool, unless no pool has the empty name.  They also agree
where neither of them returns. -/
theorem constructorsAgree_iff (aaa : AAA) (templateName : Bytes) :
    aaa.ConstructorsAgree templateName ↔
      ((aaa.template templateName).unnumbered = [] ∨
          aaa.Hangs (aaa.template templateName).framedPool) ∧
        ((aaa.template templateName).framedPool ≠ [] ∨ aaa.conf.pools.lookup [] = none) := by
  unfold ConstructorsAgree
  by_cases named : (aaa.template templateName).framedPool = []
  · cases empty : aaa.conf.pools.lookup [] with
    | none =>
        have taken : aaa.takeAddress (aaa.template templateName).framedPool =
            some ((0, false), aaa) := by
          unfold takeAddress
          rw [named, empty]
        have returns : ¬ aaa.Hangs (aaa.template templateName).framedPool := by
          rw [← aaa.takeAddress_eq_none_iff, taken]
          exact fun impossible => nomatch impossible
        constructor
        · intro agree
          have same := agree 0 0 0 []
          rw [outcome_constructNone, outcome_constructRadius_unnamed named, taken,
            Option.map_some] at same
          exact ⟨.inl (settingsOf_inj same).symm, .inr rfl⟩
        · rintro ⟨plain | hangs, _⟩ ifindex other sid user
          · rw [outcome_constructNone, outcome_constructRadius_unnamed named, taken,
              Option.map_some, plain]
          · exact absurd hangs returns
    | some found =>
        constructor
        · intro agree
          have same := agree 0 0 0 []
          rw [outcome_constructNone, outcome_constructRadius_unnamed named, named] at same
          rcases Option.map_eq_some_iff.mp same with ⟨taken, took, equal⟩
          have kept := freeIp_of_takeAddress empty took
          have freed : taken.1.2 = false :=
            congrArg SessionSettings.freeIp (Option.some.inj (Prod.mk.inj equal).1)
          rw [kept] at freed
          cases freed
        · rintro ⟨_, other | impossible⟩
          · exact absurd named other
          · cases impossible
  · rw [← aaa.takeAddress_eq_none_iff]
    constructor
    · intro agree
      have same := agree 0 0 0 []
      rw [outcome_constructNone, outcome_constructRadius named] at same
      refine ⟨?_, .inl named⟩
      cases took : aaa.takeAddress (aaa.template templateName).framedPool with
      | none => exact .inr rfl
      | some taken =>
          rw [took, Option.map_some, Option.map_some] at same
          exact .inl (settingsOf_inj same).symm
    · rintro ⟨plain | hangs, _⟩ ifindex other sid user
      · rw [outcome_constructNone, outcome_constructRadius named, plain]
      · rw [outcome_constructNone, outcome_constructRadius named, hangs]
        rfl

/-- A template that borrows the address of another interface. -/
def borrowing : AAA :=
  { sample [.none] with
    templates := (∅ : Table Bytes PPPOELocalTemplate).insert (ascii "t")
      { framedPool := ascii "p", unnumbered := ascii "lo0" } }

/-- NONE does not apply its unnumbered interface. -/
theorem unnumbered_of_none_lost : ¬ borrowing.ConstructorsAgree (ascii "t") := by
  intro agree
  have same := congrArg (fun built => built.map (fun session => session.1.map
    SessionSettings.unnumbered)) (agree 0 0 0 [])
  revert same
  decide +kernel

end AAA

end Pppcpd
