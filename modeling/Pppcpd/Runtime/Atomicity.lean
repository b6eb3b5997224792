import Pppcpd.Runtime.Allocation
import Pppcpd.Runtime.Pending

namespace Pppcpd

open Foundation Discovery

/-!
# Errors of discovery

A packet that gets an error should leave the tables and the queue as they were.
A PADR changes them in two stages: it takes its pending session, and then it
needs an id that is not in use.  Nothing puts the pending session back when the
second stage fails.
-/

namespace Runtime

/-- The tables of discovery and the queue of its replies are the same. -/
structure Unchanged (before after : Runtime) : Prop where
  active : after.store.activeSessions = before.store.activeSessions
  ids : after.store.sessionSet = before.store.sessionSet
  cursor : after.store.nextSessionId = before.store.nextSessionId
  pending : after.store.pendingSession = before.store.pendingSession
  queue : after.pppoeOutcoming = before.pppoeOutcoming

/-- When the packet gets an error, nothing is changed. -/
def ErrorAtomic (now : Runtime) (env : Env) (encap : Encapsulation) (packet : Packet) : Prop :=
  forall after err, now.processPPPOE env encap packet = some (after, some err) -> Unchanged now after

/-- Every session id is in use. -/
def IdsExhausted (now : Runtime) : Prop := forall id, id ≠ 0 -> id ∈ now.store.sessionSet

/-- A PADR that was expected comes when every session id is in use. -/
def ConsumesInVain (now : Runtime) (encap : Encapsulation) (packet : Packet) : Prop :=
  packet.pppoeCode = PPPOECode.padr ∧ now.IdsExhausted ∧
    ∃ tags, tagsOf "PADR" packet = .ok tags ∧
      connOf encap (padrCookie tags) ∈ now.store.pendingSession

/-- The id that `allocateSession` finds. -/
def freeId (now : Runtime) : Option UInt16 :=
  (idsFrom now.store.nextSessionId).find? (fun id => decide (id ∉ now.store.sessionSet))

theorem freeId_eq_none_iff {now : Runtime} (invariant : StoreInvariant now) :
    now.freeId = none ↔ now.IdsExhausted := by
  unfold freeId IdsExhausted
  rw [List.find?_eq_none]
  constructor
  · intro tried id nonzero
    simpa using tried id ((mem_idsFrom invariant.cursor id).mpr nonzero)
  · intro used id member
    simpa using used id ((mem_idsFrom invariant.cursor id).mp member)

theorem not_mem_of_freeId {now : Runtime} {id : UInt16} (free : now.freeId = some id) :
    id ∉ now.store.sessionSet := by
  simpa using List.find?_some free

/-- The cursor itself is found when its id is not in use. -/
theorem freeId_of_cursor {now : Runtime} (unused : now.store.nextSessionId ∉ now.store.sessionSet) :
    now.freeId = some now.store.nextSessionId := by
  have order : idsFrom now.store.nextSessionId =
      now.store.nextSessionId :: List.iterate nextSessionId (nextSessionId now.store.nextSessionId) 65534 :=
    rfl
  unfold freeId
  rw [order]
  exact List.find?_cons_of_pos (decide_eq_true unused)

/-! ## What the handlers answer -/

section

variable {now : Runtime} {env : Env} {encap : Encapsulation} {packet : Packet}

/-- The answer to a PADR, by its tags, its pending session and the free ids. -/
def padrOutcome (now : Runtime) (env : Env) (encap : Encapsulation) (packet : Packet) :
    Runtime × Except String Bytes :=
  match tagsOf "PADR" packet with
  | .error err => (now, .error err)
  | .ok tags =>
      let conn := connOf encap (padrCookie tags)
      if conn ∈ now.store.pendingSession then
        match now.freeId with
        | none => (now.clearPendingSession conn, .error ("Cannot process PADR: " ++ "Maximum of sessions"))
        | some id => ((now.clearPendingSession conn).registering env encap id,
            .ok ((padsTags tags).packet PPPOECode.pads id))
      else (now, .error "We don't expect this session")

theorem processPadr_eq (invariant : StoreInvariant now) :
    now.processPadr env encap packet = some (now.padrOutcome env encap packet) := by
  unfold processPadr padrOutcome
  cases tagsOf "PADR" packet with
  | error err => rfl
  | ok tags =>
      dsimp only
      by_cases pends : connOf encap (padrCookie tags) ∈ now.store.pendingSession
      · have checked := checkSession_of_mem pends
        have cleared : StoreInvariant (now.clearPendingSession (connOf encap (padrCookie tags))) :=
          (kept_clearPendingSession now _).invariant invariant
        have allocated := allocateSession_eq cleared env encap
        unfold padrCookie at checked allocated pends ⊢
        rw [checked, if_pos pends, if_pos rfl, allocated]
        have same : (idsFrom (now.clearPendingSession
              (connOf encap ((tags.lookup PPPOETag.acCookie).getD []))).store.nextSessionId).find?
            (fun id => decide (id ∉ (now.clearPendingSession
              (connOf encap ((tags.lookup PPPOETag.acCookie).getD []))).store.sessionSet)) =
            now.freeId := rfl
        rw [same]
        cases now.freeId <;> rfl
      · have checked := checkSession_of_notMem pends
        unfold padrCookie at checked pends ⊢
        rw [checked, if_neg pends]
        rfl

theorem processPPPOE_of_padr (invariant : StoreInvariant now)
    (padr : packet.pppoeCode = PPPOECode.padr) :
    now.processPPPOE env encap packet = some (reply encap (now.padrOutcome env encap packet)) := by
  unfold processPPPOE
  rw [if_neg (by rw [padr]; decide), if_pos padr, processPadr_eq invariant]
  rfl

/-- An expected PADR gets the free id that is found. -/
theorem padrOutcome_registers {tags : Tags} {id : UInt16} (parsed : tagsOf "PADR" packet = .ok tags)
    (pends : connOf encap (padrCookie tags) ∈ now.store.pendingSession)
    (free : now.freeId = some id) :
    now.padrOutcome env encap packet =
      ((now.clearPendingSession (connOf encap (padrCookie tags))).registering env encap id,
        .ok ((padsTags tags).packet PPPOECode.pads id)) := by
  unfold padrOutcome
  rw [parsed]
  dsimp only
  rw [if_pos pends, free]

/-- Its pending session is gone when none is found. -/
theorem padrOutcome_consumes {tags : Tags} (parsed : tagsOf "PADR" packet = .ok tags)
    (pends : connOf encap (padrCookie tags) ∈ now.store.pendingSession) (none : now.freeId = none) :
    now.padrOutcome env encap packet =
      (now.clearPendingSession (connOf encap (padrCookie tags)),
        .error ("Cannot process PADR: " ++ "Maximum of sessions")) := by
  unfold padrOutcome
  rw [parsed]
  dsimp only
  rw [if_pos pends, none]

/-- A PADR that gets an error changes nothing, or it is one that comes in
vain. -/
theorem padrOutcome_error {after : Runtime} {err : String}
    (refused : now.padrOutcome env encap packet = (after, .error err)) :
    after = now ∨ now.freeId = none ∧ ∃ tags, tagsOf "PADR" packet = .ok tags ∧
      connOf encap (padrCookie tags) ∈ now.store.pendingSession ∧
        after = now.clearPendingSession (connOf encap (padrCookie tags)) := by
  unfold padrOutcome at refused
  cases parsed : tagsOf "PADR" packet with
  | error text =>
      rw [parsed] at refused
      exact .inl (Prod.mk.inj refused).1.symm
  | ok tags =>
      rw [parsed] at refused
      dsimp only at refused
      split at refused
      · rename_i pends
        cases free : now.freeId with
        | none =>
            rw [free] at refused
            exact .inr ⟨rfl, tags, rfl, pends, (Prod.mk.inj refused).1.symm⟩
        | some id =>
            rw [free] at refused
            cases (Prod.mk.inj refused).2
      · exact .inl (Prod.mk.inj refused).1.symm

/-- A reply that is an error leaves the state that the handler left. -/
theorem reply_error {outcome : Runtime × Except String Bytes} {after : Runtime} {err : String}
    (replied : reply encap outcome = (after, some err)) : outcome = (after, .error err) := by
  rcases outcome with ⟨state, result⟩
  cases result with
  | error text =>
      have parts := Prod.mk.inj replied
      rw [← parts.1, ← Option.some.inj parts.2]
  | ok frame => cases (Prod.mk.inj replied).2

theorem Unchanged.refl (now : Runtime) : Unchanged now now := ⟨rfl, rfl, rfl, rfl, rfl⟩

/-- An error changes nothing exactly when it is not the answer to a PADR that
comes in vain. -/
theorem errorAtomic_iff_of_invariant (invariant : StoreInvariant now) :
    now.ErrorAtomic env encap packet ↔ ¬ now.ConsumesInVain encap packet := by
  constructor
  · rintro atomic ⟨padr, exhausted, tags, parsed, pends⟩
    have none := (freeId_eq_none_iff invariant).mpr exhausted
    have processed := @processPPPOE_of_padr now env encap packet invariant padr
    rw [padrOutcome_consumes parsed pends none] at processed
    have pending := (atomic _ _ processed).pending
    exact Finset.notMem_erase _ _ (pending ▸ pends)
  · intro useful after err processed
    unfold processPPPOE at processed
    split at processed
    · rename_i padi
      have refused := reply_error (Option.some.inj processed)
      have same : after = now := by
        cases built : now.padoTags env encap packet with
        | error text =>
            rw [processPadi, built] at refused
            exact (Prod.mk.inj refused).1.symm
        | ok made =>
            rw [processPadi_eq built] at refused
            split at refused
            · exact (Prod.mk.inj refused).1.symm
            · cases (Prod.mk.inj refused).2
      exact same ▸ .refl now
    · split at processed
      · rename_i padr
        rw [processPadr_eq invariant, Option.map_some] at processed
        rcases padrOutcome_error (reply_error (Option.some.inj processed)) with
          same | ⟨none, tags, parsed, pends, _⟩
        · exact same ▸ .refl now
        · exact absurd ⟨padr, (freeId_eq_none_iff invariant).mp none, tags, parsed, pends⟩ useful
      · split at processed
        · cases (Prod.mk.inj (Option.some.inj processed)).2
        · exact (Prod.mk.inj (Option.some.inj processed)).1 ▸ .refl now

end

/-- In every reachable state an error changes nothing exactly when it is not the
answer to an expected PADR while every session id is in use. -/
theorem errorAtomic_iff {start now : Runtime} (fresh : start.Fresh)
    (reached : Reachable happen start now) (env : Env) (encap : Encapsulation) (packet : Packet) :
    now.ErrorAtomic env encap packet ↔ ¬ now.ConsumesInVain encap packet :=
  errorAtomic_iff_of_invariant (referenceInvariant_of_reachable fresh reached).tables

/-- A daemon with a session that is up and a PADI of a second subscriber that it has
answered. -/
def busyDaemon : Runtime :=
  Foundation.after happen (sampleDaemon [.none] papPolicy)
    ((establish ++ [discoveryEvent (sampleLink 2) PPPOECode.padi 0]).map .event) (by decide +kernel)

/-- The PADR of a third subscriber is not expected and changes nothing. -/
theorem errorAtomic_at_busyDaemon :
    busyDaemon.store.sessionSet = {1} ∧ busyDaemon.store.pendingSession.card = 1 ∧
      busyDaemon.ErrorAtomic {} (sampleLink 3) (discoveryPacket PPPOECode.padr 0) := by
  refine ⟨by decide +kernel, by decide +kernel, (errorAtomic_iff
    (fresh_sampleDaemon [.none] papPolicy) (reachable_after _ _ _ _) {} _ _).mpr ?_⟩
  rintro ⟨_, exhausted, _⟩
  exact absurd (exhausted 2 (by decide)) (by decide +kernel)

/-! ## All session ids in use -/

/-- One subscriber connects again and again: the ids up to a number are in use,
and the next one is free. -/
structure Filled (count : Nat) (now : Runtime) : Prop where
  reached : Reachable happen (sampleDaemon [.none] papPolicy) now
  policy : now.policy 0 = (sampleDaemon [.none] papPolicy).policy 0
  idle : connOf (sampleLink 1) [] ∉ now.store.pendingSession
  ids : forall id, id ∈ now.store.sessionSet ↔ id ≠ 0 ∧ id.toNat ≤ count
  cursor : count < 65535 -> now.store.nextSessionId.toNat = count + 1

section

variable {now : Runtime} {count : Nat}

/-- The PADI is answered and pends the session. -/
theorem Filled.offer (filled : Filled count now) : ∃ queue,
    step now (discoveryEvent (sampleLink 1) PPPOECode.padi 0) =
      some { (now.pendeSession (connOf (sampleLink 1) [])).1 with pppoeOutcoming := queue } := by
  have made : ∃ reply, now.padoTags {} (sampleLink 1) (discoveryPacket PPPOECode.padi 0) =
      .ok (reply, []) := by
    have first : ∃ reply, (sampleDaemon [.none] papPolicy).padoTags {} (sampleLink 1)
        (discoveryPacket PPPOECode.padi 0) = .ok (reply, []) := ⟨_, rfl⟩
    have policy : now.policy (sampleLink 1).outerVlan =
      (sampleDaemon [.none] papPolicy).policy (sampleLink 1).outerVlan := filled.policy
    unfold padoTags at first ⊢
    rw [policy]
    exact first
  rcases made with ⟨reply, built⟩
  have handled := processPadi_eq built
  rw [if_neg filled.idle] at handled
  have padi : (discoveryPacket PPPOECode.padi 0).pppoeCode = PPPOECode.padi := rfl
  have processed := @processPPPOE_of_padi now {} (sampleLink 1) _ padi
  rw [handled] at processed
  rcases reply_fst (sampleLink 1) ((now.pendeSession (connOf (sampleLink 1) [])).1,
    .ok (reply.packet PPPOECode.pado 0)) with ⟨queue, replied⟩
  exact ⟨queue, (congrArg (Option.map Prod.fst) processed).trans (congrArg some replied)⟩

/-- The store with the pending session of the subscriber. -/
theorem store_pendeSession (idle : connOf (sampleLink 1) [] ∉ now.store.pendingSession) :
    (now.pendeSession (connOf (sampleLink 1) [])).1.store = { now.store with
      pendingSession := insert (connOf (sampleLink 1) []) now.store.pendingSession
      pendingTimers := now.store.pendingTimers ++ [connOf (sampleLink 1) []] } := by
  rw [pendeSession, if_neg idle]

/-- The PADR behind it is answered with the next id. -/
theorem Filled.next (filled : Filled count now) (room : count < 65535) :
    ∃ after, Filled (count + 1) after := by
  rcases filled.offer with ⟨queue, offered⟩
  have store := store_pendeSession filled.idle
  have cursor := filled.cursor room
  generalize isPended : ({ (now.pendeSession (connOf (sampleLink 1) [])).1 with
    pppoeOutcoming := queue } : Runtime) = pended at offered
  have pendedStore : pended.store = { now.store with
      pendingSession := insert (connOf (sampleLink 1) []) now.store.pendingSession
      pendingTimers := now.store.pendingTimers ++ [connOf (sampleLink 1) []] } := by
    rw [← isPended]
    exact store
  have pendedPolicy : pended.policy 0 = now.policy 0 := by
    rw [← isPended]
    unfold pendeSession
    split <;> rfl
  have reached : Reachable happen (sampleDaemon [.none] papPolicy) pended :=
    @Reachable.next _ _ happen _ now pended (.event (discoveryEvent (sampleLink 1) PPPOECode.padi 0))
      filled.reached offered
  have tables := (referenceInvariant_of_reachable (fresh_sampleDaemon [.none] papPolicy) reached).tables
  have free : pended.freeId = some now.store.nextSessionId := by
    have unused : pended.store.nextSessionId ∉ pended.store.sessionSet := by
      rw [pendedStore]
      intro used
      have small := ((filled.ids now.store.nextSessionId).mp used).2
      omega
    rw [freeId_of_cursor unused, pendedStore]
  have parsed : tagsOf "PADR" (discoveryPacket PPPOECode.padr 0) = .ok ∅ := rfl
  have pends : connOf (sampleLink 1) (padrCookie ∅) ∈ pended.store.pendingSession := by
    rw [pendedStore]
    exact Finset.mem_insert_self _ _
  have outcome := @padrOutcome_registers pended {} _ _ ∅ _ parsed pends free
  have padr : (discoveryPacket PPPOECode.padr 0).pppoeCode = PPPOECode.padr := rfl
  have processed := @processPPPOE_of_padr pended {} (sampleLink 1) _ tables padr
  rcases reply_fst (sampleLink 1) (pended.padrOutcome {} (sampleLink 1)
    (discoveryPacket PPPOECode.padr 0)) with ⟨later, replied⟩
  rw [outcome] at replied
  have taken : happen pended (.event (discoveryEvent (sampleLink 1) PPPOECode.padr 0)) =
      some { (pended.clearPendingSession (connOf (sampleLink 1) (padrCookie ∅))).registering {}
        (sampleLink 1) now.store.nextSessionId with pppoeOutcoming := later } := by
    rw [outcome] at processed
    exact (congrArg (Option.map Prod.fst) processed).trans (congrArg some replied)
  refine ⟨_, reached.next taken, pendedPolicy.trans filled.policy, ?_, ?_, ?_⟩
  · exact Finset.notMem_erase _ _
  · intro id
    show id ∈ insert now.store.nextSessionId pended.store.sessionSet ↔ _
    rw [pendedStore, Finset.mem_insert, filled.ids id]
    have own : id = now.store.nextSessionId ↔ id.toNat = count + 1 := by
      rw [← cursor]
      exact UInt16.toNat_inj.symm
    have zero : id = 0 ↔ id.toNat = 0 := UInt16.toNat_inj.symm
    rw [own, Ne, zero]
    omega
  · intro room
    show (nextSessionId now.store.nextSessionId).toNat = _
    rw [toNat_nextSessionId, cursor, if_neg (by omega)]

/-- After 65535 connections every id is in use. -/
theorem exists_filled : forall count, count ≤ 65535 -> ∃ now, Filled count now := by
  intro count
  induction count with
  | zero =>
      intro _
      refine ⟨sampleDaemon [.none] papPolicy, .refl happen _, rfl, Finset.notMem_empty _, ?_, fun _ => rfl⟩
      intro id
      have zero : id = 0 ↔ id.toNat = 0 := UInt16.toNat_inj.symm
      have nothing : id ∉ (sampleDaemon [.none] papPolicy).store.sessionSet := Finset.notMem_empty id
      simp [nothing, zero]
  | succ count inductionHypothesis =>
      intro bound
      rcases inductionHypothesis (Nat.le_of_succ_le bound) with ⟨now, filled⟩
      exact filled.next bound

end

/-- The PADR for the 65536th session is expected, gets an error, and its pending
session is gone. -/
theorem exhausted_padr_consumes : ∃ now, Reachable happen (sampleDaemon [.none] papPolicy) now ∧
    ¬ now.ErrorAtomic {} (sampleLink 1) (discoveryPacket PPPOECode.padr 0) := by
  rcases exists_filled 65535 (Nat.le_refl _) with ⟨full, filled⟩
  rcases filled.offer with ⟨queue, offered⟩
  have store := store_pendeSession filled.idle
  refine ⟨_, @Reachable.next _ _ happen _ full _
    (.event (discoveryEvent (sampleLink 1) PPPOECode.padi 0)) filled.reached offered, ?_⟩
  intro atomic
  have tables := (referenceInvariant_of_reachable (fresh_sampleDaemon [.none] papPolicy)
    (@Reachable.next _ _ happen _ full _
      (.event (discoveryEvent (sampleLink 1) PPPOECode.padi 0)) filled.reached offered)).tables
  refine (errorAtomic_iff_of_invariant tables).mp atomic ⟨rfl, ?_, ∅, rfl, ?_⟩
  · intro id nonzero
    have small := id.toNat_lt
    show id ∈ (full.pendeSession (connOf (sampleLink 1) [])).1.store.sessionSet
    rw [store]
    exact (filled.ids id).mpr ⟨nonzero, by omega⟩
  · show _ ∈ (full.pendeSession (connOf (sampleLink 1) [])).1.store.pendingSession
    rw [store]
    exact Finset.mem_insert_self _ _

end Runtime

end Pppcpd
