import Mathlib.Logic.Relation
import Pppcpd.Ppp.Progress
import Pppcpd.Runtime.Endings
import Pppcpd.Runtime.Phases

namespace Pppcpd

open Foundation

/-!
# What happens to the automata of a session

A session that stays in `activeSessions` over a step has been touched in a few
ways: its automata were started, they received a packet, or an answer to a
request to authenticate came.  Whatever each touch keeps, every step keeps in
every session that it does not end.
-/

/-- What of a session its automata and its authentication show. -/
structure Course where
  started : Bool
  lcp : PPPFsmState
  ipcp : PPPFsmState
  aaaSessionId : UInt32
  papStarted : Bool
  chapStarted : Bool

def course (session : PPPOESession) : Course :=
  ⟨session.started, session.lcp.state, session.ipcp.state, session.aaaSessionId,
    session.auth.started, session.chap.started⟩

/-- A session of which no packet was received yet. -/
def Unused (session : PPPOESession) : Prop :=
  course session = ⟨false, .initial, .initial, uint32Max, false, false⟩

theorem timerBlind_course : TimerBlind course := ⟨fun _ _ => rfl, fun _ _ => rfl⟩

namespace Runtime

/-- No Terminate-Request reaches an IPCP that is Opened. -/
def SparesIpcp (now : Runtime) (event : Event) : Prop :=
  match event.input with
  | .session encap packet =>
      packet.pppProtocol = PPPProto.ipcp -> packet.code = LCPCode.termReq ->
        ∀ ref ∈ now.store.activeSessions.lookup (frameKey encap packet),
          ∀ session ∈ now.sessions.deref ref, session.ipcp.state ≠ .opened
  | _ => True

instance (now : Runtime) (event : Event) : Decidable (SparesIpcp now event) := by
  match event with
  | ⟨env, input⟩ =>
    induction input using Input.casesOn <;> unfold SparesIpcp <;> infer_instance

/-- One thing that an event can do to a session. -/
inductive Touch (now : Runtime) (event : Event) : PPPOESession -> PPPOESession -> Prop
  | aside {old session : PPPOESession} : course session = course old -> Touch now event old session
  | begins {old : PPPOESession} (context : LinkContext) : context.lcpConf = now.lcpConf ->
      old.started = false ->
      Touch now event old
        { ((LCPFsm.protocol context).start old).session with started := true }
  | lcp {old : PPPOESession} {packet : Packet} {out : FsmOut} (context : LinkContext) :
      old.started = true -> (LCPFsm.protocol context).receive old packet = some out ->
      ¬ (out.err = none ∧ out.action = .layerDown) -> Touch now event old out.session
  | unguarded {old : PPPOESession} (hwaddr : Mac) (getSession : IPCPFsm.SessionLookup) :
      now.lcpConf.authProtocol = none ->
      Touch now event old ((IPCPFsm.protocol hwaddr getSession).start old).session
  | granted {old : PPPOESession} (hwaddr : Mac) (protocol : AuthProtocol) (sid : UInt32) :
      sid ≠ uint32Max ->
      Touch now event old (protocol.authCallback hwaddr sid none old).session
  | repeated {old : PPPOESession} (hwaddr : Mac) (protocol : AuthProtocol) :
      protocol.started old = true ->
      Touch now event old (protocol.sendAuthAck hwaddr old).session
  | ipcp {old : PPPOESession} {packet : Packet} {out : FsmOut} (hwaddr : Mac)
      (getSession : IPCPFsm.SessionLookup) :
      (IPCPFsm.protocol hwaddr getSession).receive old packet = some out ->
      (SparesIpcp now event -> packet.code = LCPCode.termReq -> old.ipcp.state ≠ .opened) ->
      Touch now event old out.session

/-- Over a part of a step every session that stays was only touched, or it is
new. -/
structure Evolves (now : Runtime) (event : Event) (before after : Runtime) : Prop where
  policy : after.lcpConf = before.lcpConf
  present : forall ref old, before.sessions.deref ref = some old ->
    ∃ session, after.sessions.deref ref = some session
  sessions : forall ref session, after.store.activeSessions.Holds ref ->
    after.sessions.deref ref = some session ->
      ∃ old, Relation.ReflTransGen (Touch now event) old session ∧
        (before.store.activeSessions.Holds ref ∧ before.sessions.deref ref = some old ∨
          before.sessions.deref ref = none ∧ Unused old)

namespace Evolves

variable {now : Runtime} {event : Event}

/-- The sessions after a part of a step, one by one. -/
theorem of_touched {before after : Runtime} (policy : after.lcpConf = before.lcpConf)
    (active : forall ref, after.store.activeSessions.Holds ref ->
      before.store.activeSessions.Holds ref)
    (present : forall ref old, before.sessions.deref ref = some old ->
      ∃ session, after.sessions.deref ref = some session)
    (touched : forall ref session, after.store.activeSessions.Holds ref ->
      after.sessions.deref ref = some session ->
        ∃ old, before.sessions.deref ref = some old ∧
          Relation.ReflTransGen (Touch now event) old session) :
    Evolves now event before after := by
  refine ⟨policy, present, fun ref session isActive there => ?_⟩
  rcases touched ref session isActive there with ⟨old, found, touches⟩
  exact ⟨old, touches, .inl ⟨active ref isActive, found⟩⟩

/-- A step that shows nothing of the automata. -/
theorem of_kept {before after : Runtime} (kept : Kept course before after)
    (policy : after.lcpConf = before.lcpConf) : Evolves now event before after := by
  refine of_touched policy (fun ref isActive => ?_) (fun ref old found => ?_)
    (fun ref session _ there => ?_)
  · rw [← kept.active]
    exact isActive
  · exact (kept.session found).imp (fun _ both => both.1)
  · rcases kept.symm.session there with ⟨old, found, same⟩
    exact ⟨old, found, .single (.aside same.symm)⟩

theorem refl (runtime : Runtime) : Evolves now event runtime runtime := of_kept (.refl runtime) rfl

theorem trans {first second third : Runtime} (left : Evolves now event first second)
    (right : Evolves now event second third) : Evolves now event first third := by
  refine ⟨right.policy.trans left.policy, fun ref old found => ?_, fun ref session isActive there => ?_⟩
  · rcases left.present ref old found with ⟨middle, inBetween⟩
    exact right.present ref middle inBetween
  · rcases right.sessions ref session isActive there with
      ⟨middle, later, ⟨wasActive, inBetween⟩ | ⟨absent, unused⟩⟩
    · rcases left.sessions ref middle wasActive inBetween with ⟨old, earlier, origin⟩
      exact ⟨old, earlier.trans later, origin⟩
    · refine ⟨middle, later, .inr ⟨?_, unused⟩⟩
      cases found : first.sessions.deref ref with
      | none => rfl
      | some old =>
          rcases left.present ref old found with ⟨_, inBetween⟩
          rw [inBetween] at absent
          cases absent

/-- One session object was written. -/
theorem write {before after : Runtime} {ref : Nat} {old session : PPPOESession}
    (policy : after.lcpConf = before.lcpConf)
    (active : after.store.activeSessions = before.store.activeSessions)
    (found : before.sessions.deref ref = some old)
    (written : after.sessions.deref ref = some session)
    (others : forall other, other ≠ ref -> after.sessions.deref other = before.sessions.deref other)
    (touches : Relation.ReflTransGen (Touch now event) old session) :
    Evolves now event before after := by
  refine of_touched policy (fun other isActive => active ▸ isActive) (fun other object there => ?_)
    (fun other object _ there => ?_)
  · by_cases here : other = ref
    · rw [here]
      exact ⟨session, written⟩
    · exact ⟨object, (others other here).trans there⟩
  · by_cases here : other = ref
    · rw [here, written] at there
      rw [here, ← Option.some.inj there]
      exact ⟨old, found, touches⟩
    · rw [others other here] at there
      exact ⟨object, there, .refl⟩

theorem apply {runtime : Runtime} {ref : Nat} {old : PPPOESession} {out : FsmOut}
    (found : runtime.sessions.deref ref = some old) (touch : Touch now event old out.session) :
    Evolves now event runtime (runtime.apply ref out) :=
  write rfl rfl found (deref_apply_self found out)
    (fun _ different => deref_apply_of_ne runtime different out) (.single touch)

theorem withSession (runtime : Runtime) (ref : Nat) {method : PPPOESession -> FsmOut}
    (touch : forall session, runtime.sessions.deref ref = some session ->
      Touch now event session (method session).session) :
    Evolves now event runtime (runtime.withSession ref method) :=
  withSession_rule (refl runtime) (fun session found => apply found (touch session found))

theorem collect (runtime : Runtime) (ref : Nat) :
    Evolves now event runtime (runtime.collect ref) := by
  refine of_kept (kept_collect runtime ref) ?_
  simp only [Runtime.collect]
  split
  · rfl
  · split <;> rfl

/-- The end of a session leaves what the objects hold. -/
theorem deallocateSession {runtime : Runtime} (tables : StoreInvariant runtime) (sid : UInt16) :
    Evolves now event runtime (runtime.deallocateSession sid).1 := by
  refine of_touched (Calm.deallocateSession runtime sid).policy (fun ref isActive => ?_)
    (fun ref old found => ⟨old, ?_⟩) (fun ref session _ there => ⟨session, ?_, .refl⟩)
  · exact ((holds_deallocateSession tables sid ref).mp isActive).1
  · rw [deref_deallocateSession]
    exact found
  · rw [deref_deallocateSession] at there
    exact there

/-- A new session is unused. -/
theorem allocateSession {runtime : Runtime} (tables : StoreInvariant runtime) {env : Env}
    {encap : Encapsulation} {result : Runtime × UInt16 × Option String}
    (allocated : runtime.allocateSession env encap = some result) :
    Evolves now event runtime result.1 := by
  rcases allocateSession_cases tables env encap allocated with full | ⟨id, free, _, entered⟩
  · rw [full]
    exact refl runtime
  · have fresh := key_not_mem_of_free tables encap free
    rw [entered]
    refine ⟨rfl, fun ref old found => ⟨old, ?_⟩, fun ref session isActive there => ?_⟩
    · exact (Heap.deref_make_of_lt _ (Heap.lt_length_of_deref found)).trans found
    · dsimp only at isActive there
      refine ⟨session, .refl, ?_⟩
      rcases Heap.deref_make_cases there with ⟨new, made⟩ | ⟨old, there⟩
      · rw [made, new]
        exact .inr ⟨runtime.sessions.deref_length, rfl⟩
      · exact .inl ⟨((Table.holds_insert_of_not_mem fresh _ ref).mp isActive).resolve_left old, there⟩

/-! ## Session packets -/

theorem ensureStarted {runtime : Runtime} (env : Env) (ref : Nat)
    (policy : runtime.lcpConf = now.lcpConf) :
    Evolves now event runtime (runtime.ensureStarted env ref) := by
  refine withSession runtime ref (fun session _ => ?_)
  split
  · exact .aside rfl
  · rename_i notStarted
    exact .begins { hwaddr := runtime.hwaddr, lcpConf := runtime.lcpConf, random := env.random } policy
      (Bool.eq_false_iff.mpr notStarted)

theorem openAuth {runtime : Runtime} (env : Env) (ref : Nat)
    (policy : runtime.lcpConf = now.lcpConf) :
    Evolves now event runtime (runtime.openAuth env ref) := by
  unfold Runtime.openAuth
  split
  · unfold openChap
    cases found : runtime.sessions.deref ref with
    | none => exact refl runtime
    | some session =>
        dsimp only
        exact (apply found (.aside rfl)).trans (of_kept (.of_same rfl rfl) rfl)
  · rename_i noChap
    split
    · exact refl runtime
    · rename_i noPap
      refine withSession runtime ref (fun session _ => .unguarded runtime.hwaddr _ ?_)
      rw [← policy]
      unfold LCPPolicy.authProtocol
      rw [if_neg noChap, if_neg noPap]

/-- A packet of LCP touches the session or ends it. -/
theorem processLcp {runtime after : Runtime} {env : Env} {ref : Nat} {packet : Packet}
    {err : Option String} (tables : StoreInvariant runtime)
    (active : runtime.store.activeSessions.Holds ref)
    (started : forall session, runtime.sessions.deref ref = some session -> session.started = true)
    (policy : runtime.lcpConf = now.lcpConf)
    (processed : runtime.processLcp env ref packet = some (after, err)) :
    Evolves now event runtime after := by
  rcases processLcp_cases processed with ⟨session, out, found, received, outcome⟩
  have touch := @Touch.lcp now event session packet out
    { hwaddr := runtime.hwaddr, lcpConf := runtime.lcpConf, random := env.random }
    (started session found) received
  rcases outcome with ⟨noError, up, opened⟩ | ⟨_, _, ended⟩ | ⟨quiet, same⟩
  · rw [opened]
    refine (apply found (touch ?_)).trans (openAuth env ref policy)
    rintro ⟨_, down⟩
    rw [up] at down
    cases down
  · have ready := (kept_applyLcp lcpBlind_key found received).invariant tables
    have isTarget := target_applyLcp tables active found received
    rw [ended]
    have left : forall other,
        ((runtime.apply ref out).deallocateSession session.sessionId).1.store.activeSessions.Holds other ->
          runtime.store.activeSessions.Holds other ∧ other ≠ ref := by
      intro other isActive
      rcases (holds_deallocateSession ready _ other).mp isActive with ⟨was, spared⟩
      refine ⟨was, fun here => spared ?_⟩
      rw [here]
      exact isTarget
    refine of_touched ((Calm.deallocateSession _ _).policy.trans rfl)
      (fun other isActive => (left other isActive).1) (fun other old there => ?_)
      (fun other object isActive there => ⟨object, ?_, .refl⟩)
    · rw [deref_deallocateSession, deref_apply, there]
      split <;> exact ⟨_, rfl⟩
    · rw [deref_deallocateSession, deref_apply_of_ne runtime (left other isActive).2] at there
      exact there
  · rw [same]
    refine apply found (touch ?_)
    rintro ⟨noError, down⟩
    refine quiet ⟨noError, ?_⟩
    rw [down]
    decide

/-- A success that carries the number of a session, or an error. -/
theorem callback (runtime : Runtime) {call : CallbackCall}
    (numbered : call.err = none -> call.sid ≠ uint32Max) :
    Evolves now event runtime (runtime.callback call) := by
  refine (withSession runtime call.callback.session (fun session _ => ?_)).trans
    (of_kept (.of_same rfl rfl) rfl)
  cases result : call.err with
  | none => exact .granted runtime.hwaddr call.callback.protocol call.sid (numbered result)
  | some text => exact .aside rfl

theorem callbacks (runtime : Runtime) {calls : List CallbackCall}
    (numbered : forall call, call ∈ calls -> call.err = none -> call.sid ≠ uint32Max) :
    Evolves now event runtime (runtime.callbacks calls) := by
  induction calls generalizing runtime with
  | nil => exact refl runtime
  | cons call rest inductionHypothesis =>
      exact (callback runtime (numbered call List.mem_cons_self)).trans
        (inductionHypothesis (runtime.callback call)
          (fun other member => numbered other (List.mem_cons_of_mem _ member)))

/-- The calls of an event of AAA. -/
theorem withCalls {runtime : Runtime} {outcome : AAA × List CallbackCall} {callback : AAACallback}
    (entered : runtime.aaa.Entered) (grows : AAA.Grows runtime.aaa outcome.1)
    (announces : AAA.Announces callback runtime.aaa outcome.1 outcome.2) :
    Evolves now event runtime (runtime.withCalls outcome) := by
  have aside : Evolves now event runtime (runtime.withAaa outcome.1) :=
    of_kept (.of_same rfl rfl) rfl
  refine aside.trans (callbacks _ (fun call member success => ?_))
  rcases Table.mem_iff_lookup.mp (announces.fresh call member success).2 with ⟨entry, found⟩
  exact (grows.entered entered).id _ entry found

theorem recvAuthReq {runtime after : Runtime} {env : Env} {ref : Nat} {protocol : AuthProtocol}
    {username : Bytes} {credential : Credential} (entered : runtime.aaa.Entered)
    (received : runtime.recvAuthReq env ref protocol username credential = some after) :
    Evolves now event runtime after := by
  rcases recvAuthReq_cases received with
    ⟨session, found, ⟨already, repeated⟩ | ⟨_, started, starting, asked⟩⟩
  · rw [repeated]
    exact apply found (.repeated runtime.hwaddr protocol already)
  · have path := AAA.started_of_startByMethods starting
    have requested : Evolves now event runtime (runtime.requested ref protocol username session) :=
      (apply found (.aside rfl)).trans (of_kept (.of_same rfl rfl) rfl)
    rw [asked]
    exact requested.trans (withCalls entered (.started path) (AAA.announces_of_started entered path))

theorem processIpcp {runtime after : Runtime} {ref : Nat} {packet : Packet}
    (spares : SparesIpcp now event -> packet.code = LCPCode.termReq ->
      forall session, runtime.sessions.deref ref = some session -> session.ipcp.state ≠ .opened)
    (processed : runtime.processIpcp ref packet = some after) : Evolves now event runtime after := by
  rcases processIpcp_cases processed with ⟨session, out, found, received, outcome⟩
  have applied : Evolves now event runtime (runtime.apply ref out) :=
    apply found (.ipcp runtime.hwaddr runtime.aaa.getSession received
      (fun isSpared ends => spares isSpared ends session found))
  rcases outcome with ⟨_, _, up⟩ | ⟨_, quiet⟩
  · rw [up]
    exact applied.trans (of_kept (kept_openDataPlane timerBlind_course _ ref out.session) rfl)
  · rw [quiet]
    exact applied

theorem rejectProtocol (runtime : Runtime) (ref : Nat) (packet : Packet) :
    Evolves now event runtime (runtime.rejectProtocol ref packet) :=
  of_kept (kept_rejectProtocol runtime ref packet) (Calm.rejectProtocol runtime ref packet).policy

/-- After the start of LCP the session of a packet has been started. -/
theorem started_ensureStarted {runtime : Runtime} {env : Env} {ref : Nat} {session : PPPOESession}
    (there : (runtime.ensureStarted env ref).sessions.deref ref = some session) :
    session.started = true := by
  cases found : runtime.sessions.deref ref with
  | none =>
      rw [Runtime.ensureStarted, Runtime.withSession, found] at there
      rw [found] at there
      cases there
  | some old =>
      rw [Runtime.ensureStarted, withSession_eq found, deref_apply_self found] at there
      rw [← Option.some.inj there]
      split
      · assumption
      · rfl

theorem processPPP {after : Runtime} {encap : Encapsulation} {packet : Packet} {err : Option String}
    (references : ReferenceInvariant now) (input : event.input = .session encap packet)
    (processed : now.processPPP event.env encap packet = some (after, err)) :
    Evolves now event now after := by
  rcases processPPP_cases processed with dropped | ⟨ref, active, dispatched⟩
  · rw [dropped]
    exact refl now
  · have begun : Evolves now event now (now.ensureStarted event.env ref) := ensureStarted _ ref rfl
    have keyed := kept_ensureStarted lcpBlind_key now event.env ref
    have entered : (now.ensureStarted event.env ref).aaa.Entered := by
      rw [aaa_ensureStarted]
      exact references.entered
    rcases dispatch_cases dispatched with
      ⟨_, lcp⟩ | ⟨protocol, username, credential, _, received⟩ | ⟨isIpcp, ipcp⟩ | same | rejected
    · refine begun.trans (processLcp (keyed.invariant references.tables) ?_
        (fun session there => started_ensureStarted there) begun.policy lcp)
      rw [keyed.active]
      exact ⟨_, active⟩
    · exact begun.trans (recvAuthReq entered received)
    · refine begun.trans (processIpcp (fun spared ends session there => ?_) ipcp)
      unfold SparesIpcp at spared
      rw [input] at spared
      rcases (kept_ensureStarted lcpBlind_ipcp now event.env ref).symm.session there with
        ⟨old, found, state⟩
      rw [← congrArg PPPFsm.state state]
      exact spared isIpcp ends ref active old found
    · rw [same]
      exact begun
    · rw [rejected]
      exact begun.trans (rejectProtocol _ ref packet)

/-! ## The other events -/

theorem sendEchoReq {runtime : Runtime} (tables : StoreInvariant runtime) (env : Env) (ref : Nat) :
    Evolves now event runtime (runtime.sendEchoReq env ref) := by
  cases found : runtime.sessions.deref ref with
  | none =>
      unfold Runtime.sendEchoReq
      rw [found]
      exact refl runtime
  | some session =>
      rcases sendEchoReq_cases env found with ⟨out, counted, outcome⟩
      have applied : Evolves now event runtime (runtime.apply ref out) :=
        apply found (.aside (by rw [counted]; rfl))
      rcases outcome with ⟨_, _, ended⟩ | ⟨_, again⟩
      · have ready := (kept_apply out found (by rw [counted]; rfl)).invariant tables
        rw [ended]
        exact applied.trans (deallocateSession ready _)
      · rw [again]
        exact applied.trans (of_kept (kept_startEcho timerBlind_course _ ref) rfl)

theorem echoTimer {runtime after : Runtime} {env : Env} {ref index : Nat}
    (tables : StoreInvariant runtime) (fired : runtime.echoTimer env ref index = some after) :
    Evolves now event runtime after := by
  have popped : Evolves now event runtime (runtime.popEcho ref index) :=
    of_kept (kept_popEcho timerBlind_course runtime ref index) rfl
  rcases echoTimer_cases fired with ⟨session, _, ⟨_, expired⟩ | ⟨_, aborted⟩⟩
  · have ready := (kept_popEcho timerBlind_key runtime ref index).invariant tables
    rw [expired]
    exact (popped.trans (sendEchoReq ready env ref)).trans (collect _ ref)
  · rw [aborted]
    exact popped.trans (collect _ ref)

theorem processPPPOE {runtime after : Runtime} {env : Env} {encap : Encapsulation} {packet : Packet}
    {err : Option String} (tables : StoreInvariant runtime)
    (processed : runtime.processPPPOE env encap packet = some (after, err)) :
    Evolves now event runtime after := by
  have checked : forall conn, Evolves now event runtime (runtime.checkSession conn).1 :=
    fun conn => of_kept (kept_checkSession runtime conn) (Calm.checkSession runtime conn).policy
  rcases processPPPOE_cases processed with ⟨_, before, queue, queued, handled⟩ | ⟨_, ended⟩
  · have queuing : Evolves now event before after := by
      rw [queued]
      exact of_kept (.of_same rfl rfl) rfl
    refine trans ?_ queuing
    rcases handled with same | ⟨conn, pended⟩ | ⟨conn, isChecked⟩ | ⟨conn, result, allocated, entered⟩
    · rw [same]
      exact refl runtime
    · rw [pended]
      exact of_kept (kept_pendeSession runtime conn) (Calm.pendeSession runtime conn).policy
    · rw [isChecked]
      exact checked conn
    · rw [entered]
      exact (checked conn).trans
        (allocateSession ((kept_checkSession runtime conn).invariant tables) allocated)
  · rw [ended]
    exact deallocateSession tables _

theorem step {after : Runtime} (references : ReferenceInvariant now)
    (taken : step now event = some after) : Evolves now event now after := by
  rcases event with ⟨env, input⟩
  cases step_cases taken with
  | discovery processed => exact processPPPOE references.tables processed
  | session processed => exact processPPP references rfl processed
  | pendingTimer fired => exact of_kept (kept_pendingTimer fired) (Calm.pendingTimer fired).policy
  | echoExpires expired =>
      rw [expired]
      exact of_kept (kept_echoExpires timerBlind_course now _) rfl
  | echoTimer fired => exact echoTimer references.tables fired
  | authDatagram received called =>
      rcases AAA.announces_of_authDatagram references.entered received with ⟨callback, announces⟩
      rw [called]
      exact withCalls references.entered (.authDatagram received) announces
  | authTimer fired called =>
      rcases AAA.announces_of_authTimer fired with ⟨callback, announces⟩
      rcases AAA.authTimer_cases fired with ⟨client, _, _, _, erased, _⟩
      rw [called]
      exact withCalls references.entered (by rw [erased]; exact .auth now.aaa _) announces
  | quiet quiet => exact of_kept quiet.kept quiet.lcpConf

end Evolves

end Runtime

end Pppcpd
