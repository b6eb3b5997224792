import Pppcpd.Foundation.Counts
import Pppcpd.Ppp.EchoCounter
import Pppcpd.Runtime.Echo
import Pppcpd.Runtime.Listening
import Pppcpd.Runtime.Openable

namespace Pppcpd

open Foundation

/-!
# The ticks of the echo timer

A tick of a session's echo timer raises the counter of LCP, an Echo-Reply that LCP
receives resets it, and nothing else that happens to a live session writes it.  So
the counter is the number of ticks since the last such reply, or since the session
was made, and the tenth of them ends the session.
-/

theorem timerBlind_echoCount : TimerBlind echoCount := ⟨fun _ _ => rfl, fun _ _ => rfl⟩

theorem ipcpBlind_echoCount : IpcpBlind echoCount := by
  intro first second same
  have counters := congrArg echoCount same
  exact counters

theorem openBlind_echoCount : OpenBlind echoCount := .of_ipcp ipcpBlind_echoCount (fun _ _ => rfl)

theorem authBlind_echoCount : AuthBlind echoCount :=
  .of_outside (by
    intro first second same
    have counters := congrArg echoCount same
    exact counters) (fun _ _ => rfl)

namespace Runtime

/-! ## What counts -/

/-- A step is a tick of the echo timer of a session object: the handler of a wait runs
that was not aborted. -/
def Ticks (ref : Nat) (taken : Runtime × Event) : Prop :=
  match taken.2.input with
  | .echoTimer other index => other = ref ∧
      ∃ session ∈ taken.1.sessions.deref ref, session.timer[index]? = some .expired
  | _ => False

/-- An Echo-Reply arrives for the active session object. -/
def EchoReply (ref : Nat) (taken : Runtime × Event) : Prop :=
  match taken.2.input with
  | .session encap packet =>
      taken.1.store.activeSessions.lookup (frameKey encap packet) = some ref ∧
        packet.pppProtocol = PPPProto.lcp ∧ packet.code = LCPCode.echoReply
  | _ => False

/-- The Echo-Reply finds LCP, which `processPPP` has started, in a state in which it
receives packets. -/
def Heard (ref : Nat) (taken : Runtime × Event) : Prop :=
  EchoReply ref taken ∧
    ∃ session ∈ (taken.1.ensureStarted taken.2.env ref).sessions.deref ref, Receives session

/-- The session object is not made yet. -/
def Unmade (ref : Nat) (taken : Runtime × Event) : Prop := taken.1.sessions.deref ref = none

instance (ref : Nat) : DecidablePred (Ticks ref)
  | ⟨now, env, input⟩ => by
    induction input using Input.casesOn <;> unfold Ticks <;> infer_instance

instance (ref : Nat) : DecidablePred (EchoReply ref)
  | ⟨now, env, input⟩ => by
    induction input using Input.casesOn <;> unfold EchoReply <;> infer_instance

instance (ref : Nat) : DecidablePred (Heard ref) :=
  fun taken => inferInstanceAs (Decidable (EchoReply ref taken ∧ _))

instance (ref : Nat) : DecidablePred (Unmade ref) := fun taken => by
  unfold Unmade
  infer_instance

/-- The ticks of a session since the last reply, or since it was made. -/
def unanswered (replies : Nat -> Runtime × Event -> Prop) [forall ref, DecidablePred (replies ref)]
    (ref : Nat) (past : List (Runtime × Event)) : Nat :=
  countSince (fun taken => replies ref taken ∨ Unmade ref taken) (Ticks ref) past

/-- The echo mechanism of the live sessions, with the packets that count as replies:
the counter is the number of ticks since the last one and does not wrap, a tick ends
its session exactly when it is the tenth, every other one queues one Echo-Request, and
no other handler of a live session's timer ends a session. -/
structure EchoLaw (replies : Nat -> Runtime × Event -> Prop)
    [forall ref, DecidablePred (replies ref)] (past : List (Runtime × Event)) (now : Runtime) :
    Prop where
  counted : forall ref session, now.store.activeSessions.Holds ref ->
    now.sessions.deref ref = some session ->
      session.lcp.echoCounter.toNat = unanswered replies ref past ∧ unanswered replies ref past < 10
  ticks : forall ref event, now.store.activeSessions.Holds ref -> Ticks ref (now, event) ->
    ∃ session after, now.sessions.deref ref = some session ∧ step now event = some after ∧
      (¬ after.store.activeSessions.Holds ref ↔ unanswered replies ref ((now, event) :: past) = 10) ∧
      (unanswered replies ref ((now, event) :: past) < 10 -> after.pppOutcoming = now.pppOutcoming ++
        [session.frame now.hwaddr (LCPFsm.echoRequest session)])
  others : forall ref other env index after, now.store.activeSessions.Holds ref ->
    now.store.activeSessions.Holds other -> ¬ Ticks ref (now, ⟨env, .echoTimer other index⟩) ->
      step now ⟨env, .echoTimer other index⟩ = some after -> after.store.activeSessions.Holds ref

/-! ## What a step does to the counter -/

/-- The counter of a session object that is active after a part of a step has changed
as given, or the object is new. -/
def Counts (ref : Nat) (change : UInt8 -> UInt8) (before after : Runtime) : Prop :=
  forall session, after.store.activeSessions.Holds ref -> after.sessions.deref ref = some session ->
    (∃ old, before.store.activeSessions.Holds ref ∧ before.sessions.deref ref = some old ∧
      echoCount session = change (echoCount old)) ∨
    before.sessions.deref ref = none ∧ echoCount session = 0

namespace Counts

variable {ref : Nat} {change : UInt8 -> UInt8} {before middle after runtime : Runtime}

theorem of_kept (kept : Kept echoCount before after) : Counts ref id before after := by
  intro session active present
  rcases kept.symm.session present with ⟨old, found, same⟩
  rw [kept.active] at active
  exact .inl ⟨old, active, found, same.symm⟩

/-- A change after a part that keeps the counters. -/
theorem of_kept_trans (kept : Kept echoCount before middle) (counts : Counts ref change middle after) :
    Counts ref change before after := by
  intro session active present
  rcases counts session active present with ⟨between, wasActive, there, counted⟩ | ⟨absent, zero⟩
  · rcases kept.symm.session there with ⟨old, found, same⟩
    rw [kept.active] at wasActive
    exact .inl ⟨old, wasActive, found, by rw [counted, same]⟩
  · refine .inr ⟨?_, zero⟩
    have none := kept.objects ref
    rw [absent] at none
    exact Option.map_eq_none_iff.mp none.symm

/-- A part that keeps the counters after a change. -/
theorem trans_kept (counts : Counts ref change before middle) (kept : Kept echoCount middle after) :
    Counts ref change before after := by
  intro session active present
  rcases kept.symm.session present with ⟨between, there, same⟩
  rw [kept.active] at active
  rw [← same]
  exact counts between active there

/-- The end of a session after a change. -/
theorem deallocateSession (counts : Counts ref change before middle) (tables : StoreInvariant middle)
    (sid : UInt16) : Counts ref change before (middle.deallocateSession sid).1 := by
  intro session active present
  rw [deref_deallocateSession] at present
  exact counts session ((holds_deallocateSession tables sid ref).mp active).1 present

/-- The object was written, and its counter changed so. -/
theorem apply {out : FsmOut} {session : PPPOESession}
    (found : runtime.sessions.deref ref = some session)
    (counted : echoCount out.session = change (echoCount session)) :
    Counts ref change runtime (runtime.apply ref out) := by
  intro later active present
  rw [deref_apply_self found] at present
  rw [← Option.some.inj present]
  exact .inl ⟨session, active, found, counted⟩

/-- Another object was written. -/
theorem apply_other {other : Nat} {out : FsmOut} (different : ref ≠ other) :
    Counts ref id runtime (runtime.apply other out) := by
  intro later active present
  rw [deref_apply_of_ne runtime different] at present
  exact .inl ⟨later, active, present, rfl⟩

/-- A new session has counted nothing. -/
theorem allocateSession (tables : StoreInvariant runtime) {env : Env} {encap : Encapsulation}
    {result : Runtime × UInt16 × Option String}
    (allocated : runtime.allocateSession env encap = some result) :
    Counts ref id runtime result.1 := by
  rcases allocateSession_cases tables env encap allocated with full | ⟨id, free, _, entered⟩
  · rw [full]
    exact of_kept (.refl runtime)
  · have fresh := key_not_mem_of_free tables encap free
    rw [entered]
    intro session active present
    dsimp only at active present
    rcases Heap.deref_make_cases present with ⟨new, made⟩ | ⟨old, present⟩
    · rw [made, new]
      exact .inr ⟨runtime.sessions.deref_length, rfl⟩
    · exact .inl ⟨session,
        ((Table.holds_insert_of_not_mem fresh _ ref).mp active).resolve_left old, present, rfl⟩

/-- The start of LCP leaves the counter. -/
theorem kept_ensureStarted (runtime : Runtime) (env : Env) (ref : Nat) :
    Kept echoCount runtime (runtime.ensureStarted env ref) := by
  refine kept_withSession runtime ref (fun session => ?_)
  split
  · rfl
  · exact LCPFsm.echoCount_start _ session

/-- A packet of LCP resets the counter of its session if it is an Echo-Reply that is
received. -/
theorem processLcp (tables : StoreInvariant runtime) {env : Env} {packet : Packet}
    {err : Option String} {session : PPPOESession}
    (found : runtime.sessions.deref ref = some session)
    (processed : runtime.processLcp env ref packet = some (after, err)) :
    Counts ref (fun count => if packet.code = LCPCode.echoReply ∧ Receives session then 0 else count)
      runtime after := by
  rcases processLcp_cases processed with ⟨object, out, present, received, outcome⟩
  rw [found] at present
  rw [← Option.some.inj present] at received
  have counts : Counts ref (fun count =>
      if packet.code = LCPCode.echoReply ∧ Receives session then 0 else count) runtime
      (runtime.apply ref out) := apply found (LCPFsm.echoCount_receive received)
  rcases outcome with ⟨_, _, up⟩ | ⟨_, _, ended⟩ | ⟨_, same⟩
  · rw [up]
    exact counts.trans_kept (kept_openAuth openBlind_echoCount _ env ref)
  · rw [ended]
    exact counts.deallocateSession ((kept_applyLcp lcpBlind_key found received).invariant tables) _
  · rw [same]
    exact counts

/-- It leaves the counters of the other sessions. -/
theorem processLcp_other {other : Nat} (different : ref ≠ other) (tables : StoreInvariant runtime)
    {env : Env} {packet : Packet} {err : Option String}
    (processed : runtime.processLcp env other packet = some (after, err)) :
    Counts ref id runtime after := by
  rcases processLcp_cases processed with ⟨session, out, found, received, outcome⟩
  have counts : Counts ref id runtime (runtime.apply other out) := apply_other different
  rcases outcome with ⟨_, _, up⟩ | ⟨_, _, ended⟩ | ⟨_, same⟩
  · rw [up]
    exact counts.trans_kept (kept_openAuth openBlind_echoCount _ env other)
  · rw [ended]
    exact counts.deallocateSession ((kept_applyLcp lcpBlind_key found received).invariant tables) _
  · rw [same]
    exact counts

/-- Packets of other protocols leave all counters. -/
theorem kept_dispatch {env : Env} {packet : Packet} {err : Option String}
    (other : packet.pppProtocol ≠ PPPProto.lcp)
    (dispatched : runtime.dispatch env ref packet = some (after, err)) :
    Kept echoCount runtime after := by
  rcases dispatch_cases dispatched with
    ⟨lcp, _⟩ | ⟨_, _, _, _, received⟩ | ⟨_, ipcp⟩ | same | rejected
  · exact absurd lcp other
  · exact kept_recvAuthReq authBlind_echoCount received
  · exact kept_processIpcp ipcpBlind_echoCount timerBlind_echoCount ipcp
  · rw [same]
    exact .refl runtime
  · rw [rejected]
    exact kept_rejectProtocol _ ref packet

theorem processPPPOE (tables : StoreInvariant runtime) {env : Env} {encap : Encapsulation}
    {packet : Packet} {err : Option String}
    (processed : runtime.processPPPOE env encap packet = some (after, err)) :
    Counts ref id runtime after := by
  rcases processPPPOE_cases processed with ⟨_, before, queue, queued, handled⟩ | ⟨_, ended⟩
  · have counts : Counts ref id runtime before := by
      rcases handled with same | ⟨conn, pended⟩ | ⟨conn, checked⟩ | ⟨conn, result, allocated, entered⟩
      · rw [same]
        exact of_kept (.refl runtime)
      · rw [pended]
        exact of_kept (kept_pendeSession runtime conn)
      · rw [checked]
        exact of_kept (kept_checkSession runtime conn)
      · rw [entered]
        exact of_kept_trans (kept_checkSession runtime conn)
          (allocateSession ((kept_checkSession runtime conn).invariant tables) allocated)
    rw [queued]
    exact counts.trans_kept (.of_same rfl rfl)
  · rw [ended]
    exact (of_kept (.refl runtime)).deallocateSession tables _

/-- A tick raises the counter of its session. -/
theorem echoTimer {env : Env} {index : Nat} {session : PPPOESession} (tables : StoreInvariant runtime)
    (found : runtime.sessions.deref ref = some session) :
    Counts ref (fun count => count + 1) runtime
      (((runtime.popEcho ref index).sendEchoReq env ref).collect ref) := by
  have popped := kept_popEcho timerBlind_echoCount runtime ref index
  have inside := (kept_popEcho timerBlind_key runtime ref index).invariant tables
  have there := deref_popEcho found index
  refine trans_kept (of_kept_trans popped ?_) (kept_collect _ ref)
  rcases sendEchoReq_cases env there with ⟨out, counted, ⟨_, _, ended⟩ | ⟨_, again⟩⟩
  · have keyed : Kept PPPOESession.key (runtime.popEcho ref index)
        ((runtime.popEcho ref index).apply ref out) := kept_countEcho there counted rfl
    rw [ended]
    exact deallocateSession (apply there (by rw [counted]; rfl)) (keyed.invariant inside) _
  · rw [again]
    exact trans_kept (apply there (by rw [counted]; rfl)) (kept_startEcho timerBlind_echoCount _ ref)

/-- A tick of the timer of another object. -/
theorem echoTimer_other {env : Env} {other index : Nat} (different : ref ≠ other)
    (tables : StoreInvariant runtime) (fired : runtime.echoTimer env other index = some after) :
    Counts ref id runtime after := by
  have popped := kept_popEcho timerBlind_echoCount runtime other index
  have inside := (kept_popEcho timerBlind_key runtime other index).invariant tables
  rcases echoTimer_cases fired with ⟨session, found, ⟨_, handled⟩ | ⟨_, aborted⟩⟩
  · have there := deref_popEcho found index
    rw [handled]
    refine trans_kept (of_kept_trans popped ?_) (kept_collect _ other)
    rcases sendEchoReq_cases env there with ⟨out, counted, ⟨_, _, ended⟩ | ⟨_, again⟩⟩
    · have keyed : Kept PPPOESession.key (runtime.popEcho other index)
          ((runtime.popEcho other index).apply other out) := kept_countEcho there counted rfl
      rw [ended]
      exact deallocateSession (apply_other different) (keyed.invariant inside) _
    · rw [again]
      exact trans_kept (apply_other different) (kept_startEcho timerBlind_echoCount _ other)
  · rw [aborted]
    exact of_kept (popped.trans (kept_collect _ other))

end Counts

/-! ## Ticks -/

/-- The handler of a wait that expired. -/
theorem echoTimer_of_expired {runtime : Runtime} {ref index : Nat} {session : PPPOESession} (env : Env)
    (found : runtime.sessions.deref ref = some session)
    (expired : session.timer[index]? = some .expired) :
    runtime.echoTimer env ref index =
      some (((runtime.popEcho ref index).sendEchoReq env ref).collect ref) := by
  unfold echoTimer
  rw [found, Option.bind_some]
  dsimp only
  rw [expired]
  rfl

/-- A tick of a live session queues one request, unless the counter passes nine and the
session ends. -/
structure TickLaw (ref : Nat) (session : PPPOESession) (before after : Runtime) : Prop where
  ends : ¬ after.store.activeSessions.Holds ref ↔ 9 < session.lcp.echoCounter + 1
  request : ¬ 9 < session.lcp.echoCounter + 1 -> after.pppOutcoming = before.pppOutcoming ++
    [session.frame before.hwaddr (LCPFsm.echoRequest session)]
  others : forall other, other ≠ ref -> before.store.activeSessions.Holds other ->
    after.store.activeSessions.Holds other

theorem tickLaw_sendEchoReq {runtime : Runtime} {ref : Nat} {session : PPPOESession} (env : Env)
    (tables : StoreInvariant runtime) (active : runtime.store.activeSessions.Holds ref)
    (found : runtime.sessions.deref ref = some session) :
    TickLaw ref session runtime (runtime.sendEchoReq env ref) := by
  have spec := LCPFsm.sendEchoReq_session ⟨runtime.hwaddr, runtime.lcpConf, env.random⟩ session
  have sent := LCPFsm.sendEchoReq_sent ⟨runtime.hwaddr, runtime.lcpConf, env.random⟩ session
  unfold sendEchoReq
  rw [found]
  dsimp only
  generalize LCPFsm.sendEchoReq ⟨runtime.hwaddr, runtime.lcpConf, env.random⟩ session = out
    at spec sent ⊢
  have counted : out.session = countEcho session := spec.1
  rcases spec.2 with ⟨down, silent, _⟩ | ⟨quiet, answered⟩
  · rw [down]
    have ready := (@kept_countEcho _ PPPOESession.key _ _ _ _ found counted rfl).invariant tables
    have self := target_of_holds ready (show (runtime.apply ref out).store.activeSessions.Holds ref
      from active) (deref_apply_self found out)
    rw [counted] at self
    refine ⟨iff_of_true (fun still => ?_) silent, fun fits => absurd silent fits,
      fun other different lives => ?_⟩
    · exact ((holds_deallocateSession ready _ ref).mp still).2 self
    · refine (holds_deallocateSession ready _ other).mpr ⟨lives, fun isTarget => different ?_⟩
      exact Option.some.inj (isTarget.symm.trans self)
  · rw [quiet]
    refine ⟨iff_of_false (fun gone => gone active) answered, fun _ => ?_, fun _ _ lives => lives⟩
    rw [if_neg answered] at sent
    have queued : ((runtime.apply ref out).startEcho ref).pppOutcoming =
      runtime.pppOutcoming ++ out.sent := rfl
    rw [queued, sent]

theorem tickLaw_echoTimer {runtime : Runtime} {ref index : Nat} {session : PPPOESession} (env : Env)
    (tables : StoreInvariant runtime) (active : runtime.store.activeSessions.Holds ref)
    (found : runtime.sessions.deref ref = some session) :
    TickLaw ref session runtime (((runtime.popEcho ref index).sendEchoReq env ref).collect ref) := by
  have inside := (kept_popEcho timerBlind_key runtime ref index).invariant tables
  have law := tickLaw_sendEchoReq env inside
    (show (runtime.popEcho ref index).store.activeSessions.Holds ref from active)
    (deref_popEcho found index)
  refine ⟨?_, fun fits => ?_, fun other different lives => ?_⟩
  · rw [collect_store]
    exact law.ends
  · rw [collect_inert]
    exact law.request fits
  · rw [collect_store]
    exact law.others other different lives

/-! ## Steps -/

/-- The counter of a live session after a step. -/
def recount (ref : Nat) (taken : Runtime × Event) (count : UInt8) : UInt8 :=
  if Heard ref taken then 0 else if Ticks ref taken then count + 1 else count

theorem recount_of_neither {ref : Nat} {taken : Runtime × Event} (noReply : ¬ Heard ref taken)
    (noTick : ¬ Ticks ref taken) : recount ref taken = id := by
  funext count
  unfold recount
  rw [if_neg noReply, if_neg noTick]
  rfl

/-- Only session packets and handlers of the echo timer count. -/
theorem recount_of_other {now : Runtime} {event : Event} {ref : Nat}
    (noSession : forall encap packet, event.input ≠ .session encap packet)
    (noHandler : forall other index, event.input ≠ .echoTimer other index) :
    recount ref (now, event) = id := by
  rcases event with ⟨env, input⟩
  cases input with
  | session encap packet => exact absurd rfl (noSession encap packet)
  | echoTimer other index => exact absurd rfl (noHandler other index)
  | _ => exact recount_of_neither (fun heard => heard.1) (fun ticks => ticks)

section

variable {now after : Runtime} {env : Env} {ref : Nat}

/-- A packet of LCP counts as a reply that is received, or not at all. -/
theorem recount_of_lcp {encap : Encapsulation} {packet : Packet} {session : PPPOESession}
    (lookup : now.store.activeSessions.lookup (frameKey encap packet) = some ref)
    (isLcp : packet.pppProtocol = PPPProto.lcp)
    (found : (now.ensureStarted env ref).sessions.deref ref = some session) :
    recount ref (now, ⟨env, .session encap packet⟩) = fun count =>
      if packet.code = LCPCode.echoReply ∧ Receives session then 0 else count := by
  have heard : Heard ref (now, ⟨env, .session encap packet⟩) ↔
      packet.code = LCPCode.echoReply ∧ Receives session := by
    constructor
    · rintro ⟨⟨_, _, isReply⟩, object, present, receives⟩
      rw [Option.some.inj (found.symm.trans present)]
      exact ⟨isReply, receives⟩
    · rintro ⟨isReply, receives⟩
      exact ⟨⟨lookup, isLcp, isReply⟩, session, found, receives⟩
  have noTick : ¬ Ticks ref (now, ⟨env, .session encap packet⟩) := fun ticks => ticks
  funext count
  unfold recount
  rw [if_neg noTick]
  exact if_congr heard rfl rfl

theorem counts_processPPP {encap : Encapsulation} {packet : Packet} {err : Option String}
    (tables : StoreInvariant now)
    (processed : now.processPPP env encap packet = some (after, err)) :
    Counts ref (recount ref (now, ⟨env, .session encap packet⟩)) now after := by
  have noTick : ¬ Ticks ref (now, ⟨env, .session encap packet⟩) := fun ticks => ticks
  unfold processPPP at processed
  cases lookup : now.store.activeSessions.lookup (frameKey encap packet) with
  | none =>
      have noReply : ¬ Heard ref (now, ⟨env, .session encap packet⟩) := by
        rintro ⟨⟨found, _⟩, _⟩
        exact absurd (lookup.symm.trans found) (Option.some_ne_none ref).symm
      rw [lookup] at processed
      rw [recount_of_neither noReply noTick, ← (Prod.mk.inj (Option.some.inj processed)).1]
      exact .of_kept (.refl now)
  | some other =>
      have started := Counts.kept_ensureStarted now env other
      have inside := (kept_ensureStarted lcpBlind_key now env other).invariant tables
      rw [lookup] at processed
      dsimp only at processed
      by_cases isLcp : packet.pppProtocol = PPPProto.lcp
      · unfold dispatch at processed
        rw [if_pos isLcp] at processed
        by_cases here : ref = other
        · rw [← here] at processed started inside lookup
          rcases processLcp_cases processed with ⟨session, _, found, _⟩
          rw [recount_of_lcp lookup isLcp found]
          exact .of_kept_trans started (.processLcp inside found processed)
        · have noReply : ¬ Heard ref (now, ⟨env, .session encap packet⟩) := by
            rintro ⟨⟨found, _⟩, _⟩
            exact here (Option.some.inj (found.symm.trans lookup))
          rw [recount_of_neither noReply noTick]
          exact .of_kept_trans started (.processLcp_other here inside processed)
      · have noReply : ¬ Heard ref (now, ⟨env, .session encap packet⟩) := by
          rintro ⟨⟨_, lcp, _⟩, _⟩
          exact isLcp lcp
        rw [recount_of_neither noReply noTick]
        exact .of_kept (started.trans (Counts.kept_dispatch isLcp processed))

theorem counts_echoTimer {other index : Nat} (tables : StoreInvariant now)
    (fired : now.echoTimer env other index = some after) :
    Counts ref (recount ref (now, ⟨env, .echoTimer other index⟩)) now after := by
  by_cases here : other = ref
  · have noReply : ¬ Heard ref (now, ⟨env, .echoTimer ref index⟩) := fun heard => heard.1
    rw [here] at fired ⊢
    rcases echoTimer_cases fired with ⟨session, found, ⟨expired, handled⟩ | ⟨aborted, handled⟩⟩
    · have ticks : Ticks ref (now, ⟨env, .echoTimer ref index⟩) := ⟨rfl, session, found, expired⟩
      have same : recount ref (now, ⟨env, .echoTimer ref index⟩) = fun count => count + 1 := by
        funext count
        unfold recount
        rw [if_neg noReply, if_pos ticks]
      rw [same, handled]
      exact .echoTimer tables found
    · have noTick : ¬ Ticks ref (now, ⟨env, .echoTimer ref index⟩) := by
        rintro ⟨_, object, present, expired⟩
        rw [Option.some.inj (present.symm.trans found), aborted] at expired
        cases expired
      rw [recount_of_neither noReply noTick, handled]
      exact .of_kept ((kept_popEcho timerBlind_echoCount now ref index).trans (kept_collect _ ref))
  · have noReply : ¬ Heard ref (now, ⟨env, .echoTimer other index⟩) := fun heard => heard.1
    have noTick : ¬ Ticks ref (now, ⟨env, .echoTimer other index⟩) := fun ticks => here ticks.1
    rw [recount_of_neither noReply noTick]
    exact .echoTimer_other (Ne.symm here) tables fired

/-- Events that are no packets and no handlers of the echo timer leave all counters. -/
theorem counts_other {event : Event} (noDiscovery : forall encap packet, event.input ≠ .discovery encap packet)
    (noSession : forall encap packet, event.input ≠ .session encap packet)
    (noHandler : forall other index, event.input ≠ .echoTimer other index)
    (taken : step now event = some after) : Counts ref (recount ref (now, event)) now after := by
  rw [recount_of_other noSession noHandler]
  refine .of_kept ?_
  rcases event with ⟨env, input⟩
  cases step_cases taken with
  | discovery _ => exact absurd rfl (noDiscovery _ _)
  | session _ => exact absurd rfl (noSession _ _)
  | echoTimer _ => exact absurd rfl (noHandler _ _)
  | pendingTimer fired => exact kept_pendingTimer fired
  | echoExpires expired =>
      rw [expired]
      exact kept_echoExpires timerBlind_echoCount now _
  | authDatagram _ called =>
      rw [called]
      exact kept_withCalls authBlind_echoCount now _
  | authTimer _ called =>
      rw [called]
      exact kept_withCalls authBlind_echoCount now _
  | quiet quiet => exact quiet.kept

theorem counts_step {event : Event} (tables : StoreInvariant now)
    (taken : step now event = some after) : Counts ref (recount ref (now, event)) now after := by
  rcases event with ⟨env, input⟩
  cases input with
  | discovery encap packet =>
      rcases Option.map_eq_some_iff.mp taken with ⟨⟨_, _⟩, processed, equal⟩
      have same : recount ref (now, ⟨env, .discovery encap packet⟩) = id :=
        recount_of_other (fun _ _ => nofun) (fun _ _ => nofun)
      rw [same]
      exact equal ▸ .processPPPOE tables processed
  | session encap packet =>
      rcases Option.map_eq_some_iff.mp taken with ⟨⟨_, _⟩, processed, equal⟩
      exact equal ▸ counts_processPPP tables processed
  | echoTimer other index => exact counts_echoTimer tables taken
  | _ => exact counts_other (fun _ _ => nofun) (fun _ _ => nofun) (fun _ _ => nofun) taken

end

/-! ## Runs -/

/-- What holds in every state of a run: the counters are below ten, and they are the
numbers of ticks since the last reply that was received. -/
structure EchoCounts (past : List (Runtime × Event)) (now : Runtime) : Prop where
  tables : StoreInvariant now
  counted : forall ref session, now.store.activeSessions.Holds ref ->
    now.sessions.deref ref = some session ->
      (echoCount session).toNat = unanswered Heard ref past ∧ unanswered Heard ref past < 10

/-- The number of a tick. -/
theorem unanswered_of_ticks {replies : Nat -> Runtime × Event -> Prop}
    [forall ref, DecidablePred (replies ref)] {now : Runtime} {event : Event} {ref : Nat}
    (arrives : forall taken, replies ref taken -> EchoReply ref taken) (ticks : Ticks ref (now, event))
    (past : List (Runtime × Event)) :
    unanswered replies ref ((now, event) :: past) = unanswered replies ref past + 1 := by
  refine countSince_of_raises ?_ ticks past
  rcases event with ⟨env, input⟩
  cases input with
  | echoTimer other index =>
      rcases ticks with ⟨_, session, found, _⟩
      rintro (reply | unmade)
      · exact arrives _ reply
      · exact absurd (unmade.symm.trans found) (Option.some_ne_none session).symm
  | _ => exact absurd ticks id

/-- A tick of a live session: its handler returns, and does what its number says. -/
theorem exists_tick {past : List (Runtime × Event)} {now : Runtime} {event : Event} {ref : Nat}
    (here : EchoCounts past now) (active : now.store.activeSessions.Holds ref)
    (ticks : Ticks ref (now, event)) :
    ∃ session after, now.sessions.deref ref = some session ∧ step now event = some after ∧
      (¬ after.store.activeSessions.Holds ref ↔ unanswered Heard ref ((now, event) :: past) = 10) ∧
      (unanswered Heard ref ((now, event) :: past) < 10 -> after.pppOutcoming = now.pppOutcoming ++
        [session.frame now.hwaddr (LCPFsm.echoRequest session)]) := by
  rw [unanswered_of_ticks (fun _ heard => heard.1) ticks]
  rcases event with ⟨env, input⟩
  cases input with
  | echoTimer other index =>
      rcases ticks with ⟨same, session, found, expired⟩
      rw [same]
      have law := @tickLaw_echoTimer now ref index session env here.tables active found
      rcases here.counted ref session active found with ⟨counted, below⟩
      have passes : 9 < session.lcp.echoCounter + 1 ↔ unanswered Heard ref past + 1 = 10 := by
        unfold echoCount at counted
        rw [UInt8.lt_iff_toNat_lt, UInt8.toNat_add, counted]
        show 9 < (unanswered Heard ref past + 1) % 256 ↔ _
        omega
      refine ⟨session, _, found, echoTimer_of_expired env found expired, law.ends.trans passes,
        fun fits => law.request (fun nine => ?_)⟩
      rw [passes.mp nine] at fits
      exact absurd fits (Nat.lt_irrefl 10)
  | _ => exact absurd ticks id

theorem echoCounts_step {past : List (Runtime × Event)} {now after : Runtime} {event : Event}
    (here : EchoCounts past now) (taken : step now event = some after) :
    EchoCounts ((now, event) :: past) after := by
  refine ⟨storeInvariant_step here.tables taken, fun ref session active present => ?_⟩
  rcases counts_step here.tables taken session active present with
    ⟨old, wasActive, found, counted⟩ | ⟨unmade, zero⟩
  · rcases here.counted ref old wasActive found with ⟨same, below⟩
    have made : ¬ Unmade ref (now, event) :=
      fun unmade => absurd (found.symm.trans unmade) (Option.some_ne_none old)
    rw [counted]
    unfold recount
    by_cases heard : Heard ref (now, event)
    · have none : unanswered Heard ref ((now, event) :: past) = 0 :=
        countSince_of_resets (.inl heard) past
      rw [if_pos heard, none]
      exact ⟨rfl, by decide⟩
    · rw [if_neg heard]
      by_cases ticks : Ticks ref (now, event)
      · rcases exists_tick here wasActive ticks with ⟨_, returned, _, isAfter, ends, _⟩
        rw [Option.some.inj (taken.symm.trans isAfter)] at active
        have number := unanswered_of_ticks (fun _ (heard : Heard ref _) => heard.1) ticks past
        have notTenth : unanswered Heard ref ((now, event) :: past) ≠ 10 :=
          fun tenth => ends.mpr tenth active
        rw [number] at notTenth ⊢
        rw [if_pos ticks, UInt8.toNat_add, same]
        refine ⟨?_, ?_⟩
        · show (unanswered Heard ref past + 1) % 256 = _
          omega
        · omega
      · have still : unanswered Heard ref ((now, event) :: past) = unanswered Heard ref past :=
          countSince_of_neither (fun either => either.elim heard made) ticks past
        rw [if_neg ticks, still]
        exact ⟨same, below⟩
  · have none : unanswered Heard ref ((now, event) :: past) = 0 :=
      countSince_of_resets (.inr unmade) past
    rw [zero, none]
    exact ⟨rfl, by decide⟩

theorem echoCounts_of_run {start now : Runtime} {past : List (Runtime × Event)}
    (fresh : start.Fresh) (run : Run step anyStep start past now) : EchoCounts past now := by
  refine run.invariantPast ⟨storeInvariant_empty fresh.store, ?_⟩
    (fun _ _ _ _ here _ taken => echoCounts_step here taken)
  intro ref session active
  rw [fresh.store] at active
  rcases active with ⟨key, found⟩
  cases found

/-! ## Which replies are received -/

/-- An Echo-Reply for an active session is received exactly when the daemon has a protocol to
authenticate by. -/
theorem heard_iff {start now : Runtime} {event : Event} {ref : Nat} (fresh : start.Fresh)
    (reached : Reachable step start now) (reply : EchoReply ref (now, event)) :
    Heard ref (now, event) ↔ start.lcpConf.authProtocol ≠ none := by
  rcases event with ⟨env, input⟩
  cases input with
  | session encap packet =>
      have active : now.store.activeSessions.Holds ref := ⟨_, reply.1⟩
      rcases (storeInvariant_of_reachable fresh reached).keyed _ ref reply.1 with ⟨session, found, _⟩
      have there := deref_ensureStarted env found
      have touched := @touch_begun now env (.session encap packet) session
      have began := @started_begun now env session
      have heard : Heard ref (now, ⟨env, .session encap packet⟩) ↔
          Receives (begun env now session) := by
        constructor
        · rintro ⟨_, object, present, receives⟩
          rw [Option.some.inj (there.symm.trans present)]
          exact receives
        · exact fun receives => ⟨reply, _, there, receives⟩
      rw [heard]
      constructor
      · intro receives unchosen
        have invariant := blockedInvariant_of_reachable fresh unchosen reached
        have blocked := (invariant.sessions ref session active found).touch invariant.unchosen touched
        unfold Blocked at blocked
        rw [began, if_pos rfl] at blocked
        exact receives.2 blocked
      · intro chosen
        have invariant := listenInvariant_of_reachable fresh chosen reached
        have listens := (invariant.sessions ref session active found).touch invariant.chosen touched
        exact receives_of_negotiates (listens.lcp began)
  | _ => exact absurd reply id

/-- In every run the law holds, where those Echo-Replies count that are received, which with a
protocol to authenticate by are all, and else none. -/
theorem echoLaw_of_run {start now : Runtime} {past : List (Runtime × Event)} (fresh : start.Fresh)
    (run : Run step anyStep start past now) :
    EchoLaw Heard past now ∧ forall ref event, EchoReply ref (now, event) ->
      (Heard ref (now, event) ↔ start.lcpConf.authProtocol ≠ none) := by
  have here := echoCounts_of_run fresh run
  refine ⟨⟨here.counted, fun ref event active ticks => exists_tick here active ticks, ?_⟩,
    fun ref event reply => heard_iff fresh ⟨past, run⟩ reply⟩
  intro ref other env index after active lives noTick taken
  rcases echoTimer_cases taken with ⟨session, found, ⟨expired, handled⟩ | ⟨_, aborted⟩⟩
  · have different : ref ≠ other := by
      intro same
      rw [← same] at found
      exact noTick ⟨same.symm, session, found, expired⟩
    rw [handled]
    exact (tickLaw_echoTimer env here.tables lives found).others ref different active
  · rw [aborted, collect_store]
    exact active

theorem echoLaw_at_established : ∃ past,
    Run step anyStep (sampleDaemon [.none] papPolicy) past established ∧
      EchoLaw Heard past established ∧ forall ref event, EchoReply ref (established, event) ->
        (Heard ref (established, event) ↔ papPolicy.authProtocol ≠ none) := by
  rcases established_reachable with ⟨past, run⟩
  exact ⟨past, run, echoLaw_of_run (fresh_sampleDaemon [.none] papPolicy) run⟩

/-- A subscriber of the mode without authentication, who was authenticated all the same
and has left nine echo requests without a reply. -/
def neglectful : Runtime :=
  Foundation.after step (sampleDaemon [.none] openPolicy)
    (connect (sampleLink 1) ++ [papRequest (sampleLink 1) 1] ++ openIpcp (sampleLink 1) 1 10 ++
      silence.take 18) (by decide +kernel)

/-- His Echo-Reply. -/
def lateReply : Event :=
  sessionEvent (sampleLink 1) 1 PPPProto.lcp (pppHdr LCPCode.echoReply 1 8 ++ [0, 0, 0, 0])

/-- The handler of the only wait of his timer. -/
def dueTick : Event := { input := .echoTimer 0 0 }

/-- The first tick after the reply ends his session. -/
theorem cut_after_reply : ∃ past now after,
    Run step anyStep (sampleDaemon [.none] openPolicy) past now ∧
      unanswered EchoReply 0 ((now, dueTick) :: past) = 1 ∧ step now dueTick = some after ∧
      now.store.activeSessions.Holds 0 ∧ ¬ after.store.activeSessions.Holds 0 ∧
      ¬ EchoLaw EchoReply past now := by
  have samples : (step neglectful lateReply).any (fun answered =>
      (answered.sessions.deref 0).isSome &&
        decide ((answered.echoExpires 0).store.activeSessions.Holds 0) &&
        decide (Ticks 0 (answered.echoExpires 0, dueTick)) &&
        (step (answered.echoExpires 0) dueTick).any (fun after =>
          decide (¬ after.store.activeSessions.Holds 0))) = true := by decide +kernel
  rcases (Option.any_eq_true _ _).mp samples with ⟨answered, received, facts⟩
  simp only [Bool.and_eq_true, decide_eq_true_eq] at facts
  rcases facts with ⟨⟨⟨made, live⟩, ticks⟩, ends⟩
  rcases (Option.any_eq_true _ _).mp ends with ⟨after, taken, gone⟩
  have run : ∃ past, Run step anyStep (sampleDaemon [.none] openPolicy) past neglectful :=
    reachable_after _ _ _ _
  rcases run with ⟨past, run⟩
  have due := (run.next trivial received).next trivial
    (show step answered { input := .echoExpires 0 } = some (answered.echoExpires 0) from rfl)
  have isReply : EchoReply 0 (neglectful, lateReply) := by decide +kernel
  have replied : unanswered EchoReply 0 ((neglectful, lateReply) :: past) = 0 :=
    countSince_of_resets (.inl isReply) past
  have still : unanswered EchoReply 0
      ((answered, { input := .echoExpires 0 }) :: (neglectful, lateReply) :: past) = 0 := by
    refine (countSince_of_neither ?_ (fun ticks => ticks) _).trans replied
    rintro (reply | unmade)
    · exact reply
    · unfold Unmade at unmade
      rw [unmade] at made
      cases made
  have first := (unanswered_of_ticks (fun _ reply => reply) ticks _).trans (congrArg Nat.succ still)
  refine ⟨_, _, after, due, first, taken, live, of_decide_eq_true gone, fun law => ?_⟩
  rcases law.ticks 0 dueTick live ticks with ⟨_, other, _, isAfter, tenth, _⟩
  rw [Option.some.inj (isAfter.symm.trans taken), first] at tenth
  exact absurd (tenth.mp (of_decide_eq_true gone)) (by decide)

end Runtime

end Pppcpd
