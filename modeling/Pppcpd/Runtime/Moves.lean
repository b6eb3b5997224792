import Pppcpd.Runtime.DataPlane
import Pppcpd.Runtime.References

namespace Pppcpd

open Foundation

/-!
# What a step is made of

Seen through a view that is blind to LCP, to the start of the other protocols
and to the timer of a session, most of what a handler does cannot be seen.  What
remains are seven moves: a session is made, ended or destroyed, AAA handles an
event with or without calls of callbacks, an IPCP packet is answered, and the
data plane is configured.  What each of them keeps, every step keeps.
-/

/-- Nothing shows of LCP, of the start of IPCP and CHAP, of the timer and of the
name. -/
structure SideBlind {View : Type} (view : PPPOESession -> View) : Prop where
  lcp : LcpBlind view
  opens : OpenBlind view
  timer : forall timer session, view { session with timer := timer } = view session
  named : forall username session, view { session with username := username } = view session

namespace Runtime

variable {View : Type} {view : PPPOESession -> View}

/-- A step that does not show, and in which neither AAA nor VPP has a part. -/
structure Plain (view : PPPOESession -> View) (before after : Runtime) : Prop where
  kept : Kept view before after
  untouched : Untouched before after
  aaa : after.aaa = before.aaa

namespace Plain

theorem refl (runtime : Runtime) : Plain view runtime runtime :=
  ⟨.refl runtime, .refl runtime, rfl⟩

theorem trans {first second third : Runtime} (left : Plain view first second)
    (right : Plain view second third) : Plain view first third :=
  ⟨left.kept.trans right.kept, left.untouched.trans right.untouched, right.aaa.trans left.aaa⟩

/-- A change of neither the tables nor the objects nor AAA nor VPP. -/
theorem of_same {before after : Runtime} (store : after.store = before.store)
    (sessions : after.sessions = before.sessions) (aaa : after.aaa = before.aaa)
    (vpp : after.vpp = before.vpp) : Plain view before after :=
  ⟨.of_same store sessions, .of_same vpp sessions, aaa⟩

theorem withSession (runtime : Runtime) (ref : Nat) {method : PPPOESession -> FsmOut}
    (same : forall session, view (method session).session = view session) :
    Plain view runtime (runtime.withSession ref method) :=
  ⟨kept_withSession runtime ref same, .withSession runtime ref method, aaa_withSession runtime ref method⟩

theorem apply {runtime : Runtime} {ref : Nat} {session : PPPOESession} (out : FsmOut)
    (found : runtime.sessions.deref ref = some session) (same : view out.session = view session) :
    Plain view runtime (runtime.apply ref out) :=
  ⟨kept_apply out found same, .apply runtime ref out, rfl⟩

theorem update (runtime : Runtime) (ref : Nat) (change : PPPOESession -> PPPOESession)
    (same : forall session, view (change session) = view session) :
    Plain view runtime { runtime with sessions := runtime.sessions.update ref change } :=
  ⟨kept_update runtime ref change same, .update runtime ref change, rfl⟩

theorem ensureStarted (blind : SideBlind view) (runtime : Runtime) (env : Env) (ref : Nat) :
    Plain view runtime (runtime.ensureStarted env ref) :=
  ⟨kept_ensureStarted blind.lcp runtime env ref, .withSession runtime ref _,
    aaa_ensureStarted runtime env ref⟩

theorem applyLcp (blind : SideBlind view) {runtime : Runtime} {env : Env} {ref : Nat}
    {packet : Packet} {session : PPPOESession} {out : FsmOut}
    (found : runtime.sessions.deref ref = some session)
    (received : (runtime.lcpFsm env).receive session packet = some out) :
    Plain view runtime (runtime.apply ref out) :=
  ⟨kept_applyLcp blind.lcp found received, .apply runtime ref out, rfl⟩

theorem openAuth (blind : SideBlind view) (runtime : Runtime) (env : Env) (ref : Nat) :
    Plain view runtime (runtime.openAuth env ref) :=
  ⟨kept_openAuth blind.opens runtime env ref, .openAuth runtime env ref,
    aaa_openAuth runtime env ref⟩

theorem requested (blind : SideBlind view) {runtime : Runtime} {ref : Nat} {session : PPPOESession}
    (protocol : AuthProtocol) (username : Bytes) (found : runtime.sessions.deref ref = some session) :
    Plain view runtime (runtime.requested ref protocol username session) :=
  (apply (PPPOESession.done { session with username := username }) found
    (blind.named username session)).trans (of_same rfl rfl rfl rfl)

theorem pendeSession (runtime : Runtime) (conn : PPPOEConn) :
    Plain view runtime (runtime.pendeSession conn).1 :=
  ⟨kept_pendeSession runtime conn, .pendeSession runtime conn, aaa_pendeSession runtime conn⟩

theorem checkSession (runtime : Runtime) (conn : PPPOEConn) :
    Plain view runtime (runtime.checkSession conn).1 :=
  ⟨kept_checkSession runtime conn, .checkSession runtime conn, aaa_checkSession runtime conn⟩

end Plain

/-- The event that AAA handles within an event of the daemon: a request of a
session that had no success yet, or the event itself. -/
inductive Causes (now : Runtime) (event : Event) : AAAEvent -> Prop
  | request {encap : Encapsulation} {packet : Packet} {ref : Nat} {session : PPPOESession}
      {protocol : AuthProtocol} {username : Bytes} {credential : Credential} :
      event.input = .session encap packet -> IsAuthRequest packet protocol ->
      now.store.activeSessions.lookup (frameKey encap packet) = some ref ->
      now.sessions.deref ref = some session -> protocol.started session = false ->
      Causes now event
        (.startSession event.env.aaa username credential session.encap ⟨ref, protocol⟩)
  | authDatagram {datagram : Bytes} : event.input = .authDatagram datagram ->
      Causes now event (.authDatagram event.env.aaa datagram)
  | authTimer {id : UInt8} : event.input = .authTimer id -> Causes now event (.authTimer id)
  | reload {conf : PPPOEGlobalConf} : event.input = .reload conf ->
      Causes now event (.reload conf.aaaConf conf.pppoeTemplates)
  | timed {aaaEvent : AAAEvent} : aaaEvent.Quiet ->
      (forall conf templates, aaaEvent ≠ .reload conf templates) -> Causes now event aaaEvent

/-- Something holds of every session when it is asked of none. -/
theorem endsOnly_always (runtime : Runtime) (event : Event) :
    EndsOnly (fun _ _ => True) runtime event := by
  rcases event with ⟨env, input⟩
  cases input with
  | discovery encap packet => exact fun _ _ _ _ _ => trivial
  | session encap packet => exact fun _ _ _ _ _ _ _ => trivial
  | echoTimer ref index => exact fun _ _ _ _ _ _ _ _ => trivial
  | _ => trivial

/-- What an LCP packet may ask of a session: its link and its answers to
requests. -/
def asker (session : PPPOESession) : Encapsulation × Bool × Bool :=
  (session.encap, session.auth.started, session.chap.started)

theorem lcpBlind_asker : LcpBlind asker where
  lcp := by
    intro first second same
    have parts := congrArg asker same
    exact parts
  started := fun _ => rfl

/-- An IPCP packet for the session of its key, once LCP was started. -/
structure IpcpPacket (now : Runtime) (event : Event) (packet : Packet) (ref : Nat)
    (session : PPPOESession) (out : FsmOut) : Prop where
  input : ∃ encap, event.input = .session encap packet ∧
    now.store.activeSessions.lookup (frameKey encap packet) = some ref
  protocol : packet.pppProtocol = PPPProto.ipcp
  present : (now.ensureStarted event.env ref).sessions.deref ref = some session
  received : (now.ensureStarted event.env ref).ipcpFsm.receive session packet = some out

theorem IpcpPacket.active {now : Runtime} {event : Event} {packet : Packet} {ref : Nat}
    {session : PPPOESession} {out : FsmOut} (isPacket : IpcpPacket now event packet ref session out) :
    (now.ensureStarted event.env ref).store.activeSessions.Holds ref := by
  rcases isPacket.input with ⟨encap, _, found⟩
  rw [(kept_ensureStarted lcpBlind_key now event.env ref).active]
  exact ⟨_, found⟩

/-- What every move keeps that a step is made of. -/
structure Moves (view : PPPOESession -> View) (ending : Nat -> PPPOESession -> Prop) (now : Runtime)
    (event : Event) (holds : Runtime -> Prop) : Prop where
  plain : forall before after, Plain view before after -> holds before -> holds after
  allocates : forall before encap result, Plain view now before ->
    before.allocateSession event.env encap = some result -> holds before -> holds result.1
  ends : forall before sid, Plain view now before ->
    (forall ref session, before.target sid = some ref -> before.sessions.deref ref = some session ->
      ∃ old, view session = view old ∧ session.timer = old.timer ∧ ending ref old) ->
    holds before -> holds (before.deallocateSession sid).1
  collects : forall before ref index, event.input = .echoTimer ref index -> holds before ->
    holds (before.collect ref)
  calls : forall before aaaEvent outcome callback, Plain view now before ->
    Causes now event aaaEvent -> before.aaa.serve aaaEvent = some outcome ->
    AAA.Announces callback before.aaa outcome.1 outcome.2 -> holds before ->
    holds (before.withCalls outcome)
  quiet : forall aaaEvent aaa, Causes now event aaaEvent -> aaaEvent.Quiet ->
    now.aaa.step aaaEvent = some aaa -> holds now -> holds (now.withAaa aaa)
  answers : forall packet ref session out, IpcpPacket now event packet ref session out ->
    holds (now.ensureStarted event.env ref) ->
    holds ((now.ensureStarted event.env ref).apply ref out)
  configures : forall packet ref session out, IpcpPacket now event packet ref session out ->
    out.err = none -> out.action = .layerUp ->
    holds ((now.ensureStarted event.env ref).apply ref out) ->
    holds (((now.ensureStarted event.env ref).apply ref out).configured ref out.session)

namespace Moves

variable {ending : Nat -> PPPOESession -> Prop} {now after : Runtime} {event : Event}
  {holds : Runtime -> Prop}

theorem discovery (moves : Moves view ending now event holds) {encap : Encapsulation}
    {packet : Packet} {err : Option String} (input : event.input = .discovery encap packet)
    (ends : EndsOnly ending now event)
    (processed : now.processPPPOE event.env encap packet = some (after, err)) (here : holds now) :
    holds after := by
  rcases processPPPOE_cases processed with ⟨_, before, queue, queued, handled⟩ | ⟨padt, ended⟩
  · refine moves.plain before after
      (.of_same (by rw [queued]) (by rw [queued]) (by rw [queued]) (by rw [queued])) ?_
    rcases handled with same | ⟨conn, pended⟩ | ⟨conn, checked⟩ | ⟨conn, result, allocated, entered⟩
    · rw [same]
      exact here
    · rw [pended]
      exact moves.plain now _ (.pendeSession now conn) here
    · rw [checked]
      exact moves.plain now _ (.checkSession now conn) here
    · rw [entered]
      exact moves.allocates _ encap result (.checkSession now conn) allocated
        (moves.plain now _ (.checkSession now conn) here)
  · rw [ended]
    unfold EndsOnly at ends
    rw [input] at ends
    exact moves.ends now _ (.refl now)
      (fun ref session isTarget present =>
        ⟨session, rfl, rfl, ends padt ref isTarget session present⟩) here

theorem lcp (moves : Moves view ending now event holds) (blind : SideBlind view)
    (tables : StoreInvariant now) {encap : Encapsulation} {packet : Packet} {err : Option String}
    {ref : Nat} (input : event.input = .session encap packet) (ends : EndsOnly ending now event)
    (found : now.store.activeSessions.lookup (frameKey encap packet) = some ref)
    (isLcp : packet.pppProtocol = PPPProto.lcp)
    (processed : (now.ensureStarted event.env ref).processLcp event.env ref packet =
      some (after, err)) (here : holds now) : holds after := by
  have started : Plain view now (now.ensureStarted event.env ref) := .ensureStarted blind now _ ref
  have keyed := kept_ensureStarted lcpBlind_key now event.env ref
  have ready := keyed.invariant tables
  have active : (now.ensureStarted event.env ref).store.activeSessions.Holds ref := by
    rw [keyed.active]
    exact ⟨_, found⟩
  rcases processLcp_cases processed with ⟨session, out, present, received, outcome⟩
  have applied := Plain.applyLcp blind present received
  have there := moves.plain _ _ (started.trans applied) here
  rcases outcome with ⟨_, _, up⟩ | ⟨_, down, ended⟩ | ⟨_, quiet⟩
  · rw [up]
    exact moves.plain _ _ (.openAuth blind _ event.env ref) there
  · rw [ended]
    refine moves.ends _ _ (started.trans applied) ?_ there
    intro other object isTarget isObject
    have equal : ref = other := Option.some.inj
      ((target_applyLcp ready active present received).symm.trans isTarget)
    rw [← equal, deref_apply_self present] at isObject
    have left := leavesOpened_of_layerDown received down
    rcases event with ⟨env, eventInput⟩
    dsimp only at input
    rw [input] at ends
    rcases EndsOnly.lcp ends found isLcp present left.1 left.2 with ⟨old, same, ended⟩
    have outside := (lcpFsm_leaves _ env).receive received
    have timers := congrArg PPPOESession.timer outside
    have timed : session.timer = old.timer := by rw [same]
    rw [← Option.some.inj isObject]
    refine ⟨old, ?_, Eq.trans timers timed, equal ▸ ended⟩
    exact (blind.lcp.lcp _ _ outside).trans (same ▸ blind.lcp.started old)
  · rw [quiet]
    exact there

theorem auth (moves : Moves view ending now event holds) (blind : SideBlind view)
    (entered : now.aaa.Entered) {encap : Encapsulation} {packet : Packet} {ref : Nat}
    {protocol : AuthProtocol} {username : Bytes} {credential : Credential}
    (input : event.input = .session encap packet)
    (found : now.store.activeSessions.lookup (frameKey encap packet) = some ref)
    (request : IsAuthRequest packet protocol)
    (received : (now.ensureStarted event.env ref).recvAuthReq event.env ref protocol username
      credential = some after) (here : holds now) : holds after := by
  have started : Plain view now (now.ensureStarted event.env ref) := .ensureStarted blind now _ ref
  rcases recvAuthReq_cases received with
    ⟨session, present, ⟨_, repeated⟩ | ⟨fresh, outcome, asked, finished⟩⟩
  · rw [repeated]
    exact moves.plain _ _ (started.trans (.apply _ present (blind.opens.start _ _ session))) here
  · have kept := kept_ensureStarted lcpBlind_asker now event.env ref
    rcases kept.symm.session present with ⟨old, wasPresent, same⟩
    have flags : protocol.started old = false := by
      rw [← fresh]
      have auth := congrArg (fun asker => asker.2.1) same
      have chap := congrArg (fun asker => asker.2.2) same
      cases protocol
      · exact auth
      · exact chap
    have link : old.encap = session.encap := congrArg Prod.fst same
    rw [← link, aaa_ensureStarted] at asked
    have plain := started.trans (.requested blind protocol username present)
    rw [finished]
    refine moves.calls _ _ outcome ⟨ref, protocol⟩ plain
      (@Causes.request _ _ _ _ _ _ _ username credential input request found wasPresent flags) ?_ ?_
      (moves.plain _ _ plain here)
    · rw [plain.aaa]
      exact asked
    · rw [plain.aaa]
      exact AAA.announces_of_started entered (AAA.started_of_startByMethods asked)

theorem session (moves : Moves view ending now event holds) (blind : SideBlind view)
    (tables : StoreInvariant now) (entered : now.aaa.Entered) {encap : Encapsulation}
    {packet : Packet} {err : Option String} (input : event.input = .session encap packet)
    (ends : EndsOnly ending now event)
    (processed : now.processPPP event.env encap packet = some (after, err)) (here : holds now) :
    holds after := by
  rcases processPPP_cases processed with dropped | ⟨ref, found, dispatched⟩
  · rw [dropped]
    exact here
  · have ready := moves.plain _ _ (.ensureStarted blind now event.env ref) here
    rcases dispatch_cases dispatched with
      ⟨isLcp, lcp⟩ | ⟨_, _, _, request, auth⟩ | ⟨isIpcp, ipcp⟩ | same | rejected
    · exact moves.lcp blind tables input ends found isLcp lcp here
    · exact moves.auth blind entered input found request auth here
    · rcases processIpcp_cases ipcp with ⟨session, out, present, received, outcome⟩
      have isPacket : IpcpPacket now event packet ref session out :=
        ⟨⟨encap, input, found⟩, isIpcp, present, received⟩
      have applied := moves.answers packet ref session out isPacket ready
      rcases outcome with ⟨noError, up, configured⟩ | ⟨_, quiet⟩
      · rw [configured, openDataPlane_eq]
        exact moves.plain _ _ (.update _ ref _ (fun object => blind.timer _ object))
          (moves.configures packet ref session out isPacket noError up applied)
      · rw [quiet]
        exact applied
    · rw [same]
      exact ready
    · rw [rejected]
      exact moves.plain _ _ (.withSession _ ref (fun _ => rfl)) ready

theorem echoTimer (moves : Moves view ending now event holds) (blind : SideBlind view)
    {ref index : Nat} (input : event.input = .echoTimer ref index)
    (ends : EndsOnly ending now event) (fired : now.echoTimer event.env ref index = some after)
    (here : holds now) : holds after := by
  have pop : Plain view now (now.popEcho ref index) :=
    .update now ref _ (fun session => blind.timer _ session)
  rcases echoTimer_cases fired with ⟨session, found, ⟨expired, handled⟩ | ⟨_, aborted⟩⟩
  · rw [handled]
    refine moves.collects _ ref index input ?_
    have popped := deref_popEcho found index
    rcases sendEchoReq_cases event.env popped with ⟨out, counted, outcome⟩
    have blindCount : view (countEcho { session with timer := session.timer.eraseIdx index }) =
        view { session with timer := session.timer.eraseIdx index } :=
      blind.lcp.lcp _ _ rfl
    have applied : Plain view now ((now.popEcho ref index).apply ref out) :=
      pop.trans (.apply out popped (by rw [counted]; exact blindCount))
    rcases outcome with ⟨silent, _, ended⟩ | ⟨_, again⟩
    · rw [ended]
      refine moves.ends _ _ applied ?_ (moves.plain _ _ applied here)
      intro other object isTarget present
      unfold EndsOnly at ends
      rw [input] at ends
      have keyed : Kept PPPOESession.key (now.popEcho ref index) ((now.popEcho ref index).apply ref out) :=
        kept_countEcho popped counted rfl
      rw [target_of_kept keyed] at isTarget
      rw [deref_apply] at present
      split at present
      · rename_i own
        rw [own, popped] at present
        have wasThere : (now.popEcho ref index).sessions.deref other =
            some { session with timer := session.timer.eraseIdx index } := by
          rw [own]
          exact popped
        rw [← Option.some.inj present, counted]
        exact ⟨_, blindCount, rfl, ends session found expired silent other isTarget _ wasThere⟩
      · exact ⟨object, rfl, rfl, ends session found expired silent other isTarget object present⟩
    · rw [again]
      exact moves.plain _ _ (applied.trans (.update _ ref _ (fun object => blind.timer _ object))) here
  · rw [aborted]
    exact moves.collects _ ref index input (moves.plain _ _ pop here)

/-- What every move keeps, every step keeps. -/
theorem step (moves : Moves view ending now event holds) (blind : SideBlind view)
    (tables : StoreInvariant now) (entered : now.aaa.Entered) (ends : EndsOnly ending now event)
    (taken : Runtime.step now event = some after) (here : holds now) : holds after := by
  have quietly : forall aaaEvent : AAAEvent, aaaEvent.Quiet ->
      (forall conf templates, aaaEvent ≠ .reload conf templates) ->
      forall aaa, now.aaa.step aaaEvent = some aaa -> holds (now.withAaa aaa) :=
    fun aaaEvent isQuiet other aaa handled =>
      moves.quiet aaaEvent aaa (.timed isQuiet other) isQuiet handled here
  cases input : event.input with
  | discovery encap packet =>
      rw [Runtime.step, input] at taken
      rcases Option.map_eq_some_iff.mp taken with ⟨⟨_, err⟩, processed, equal⟩
      exact equal ▸ moves.discovery input ends processed here
  | session encap packet =>
      rw [Runtime.step, input] at taken
      rcases Option.map_eq_some_iff.mp taken with ⟨⟨_, err⟩, processed, equal⟩
      exact equal ▸ moves.session blind tables entered input ends processed here
  | pendingTimer index =>
      rw [Runtime.step, input] at taken
      exact moves.plain now after ⟨kept_pendingTimer taken, .pendingTimer taken, aaa_pendingTimer taken⟩ here
  | echoExpires ref =>
      rw [Runtime.step, input] at taken
      rw [← Option.some.inj taken]
      exact moves.plain now _ (.update now ref _ (fun session => blind.timer _ session)) here
  | echoTimer ref index =>
      rw [Runtime.step, input] at taken
      exact moves.echoTimer blind input ends taken here
  | authDatagram datagram =>
      rw [Runtime.step, input] at taken
      rcases Option.map_eq_some_iff.mp taken with ⟨outcome, handled, equal⟩
      rcases AAA.announces_of_authDatagram entered handled with ⟨callback, announces⟩
      rw [← equal]
      exact moves.calls now _ outcome callback (.refl now) (.authDatagram input) handled announces here
  | authTimer id =>
      rw [Runtime.step, input] at taken
      rcases Option.map_eq_some_iff.mp taken with ⟨outcome, handled, equal⟩
      rcases AAA.announces_of_authTimer handled with ⟨callback, announces⟩
      rw [← equal]
      exact moves.calls now _ outcome callback (.refl now) (.authTimer input) handled announces here
  | authExpires id =>
      rw [Runtime.step, input] at taken
      rw [← Option.some.inj taken]
      exact quietly (.authExpires id) trivial (fun _ _ => nofun) _ rfl
  | acctDatagram datagram =>
      rw [Runtime.step, input] at taken
      rcases Option.map_eq_some_iff.mp taken with ⟨aaa, handled, equal⟩
      rw [← equal]
      exact quietly (.acctDatagram event.env.aaa datagram) trivial (fun _ _ => nofun) aaa handled
  | acctExpires id =>
      rw [Runtime.step, input] at taken
      rw [← Option.some.inj taken]
      exact quietly (.acctExpires id) trivial (fun _ _ => nofun) _ rfl
  | acctTimer id =>
      rw [Runtime.step, input] at taken
      rcases Option.map_eq_some_iff.mp taken with ⟨aaa, handled, equal⟩
      rw [← equal]
      exact quietly (.acctTimer id) trivial (fun _ _ => nofun) aaa handled
  | interimExpires ref =>
      rw [Runtime.step, input] at taken
      rw [← Option.some.inj taken]
      exact quietly (.interimExpires ref) trivial (fun _ _ => nofun) _ rfl
  | interimTimer ref index =>
      rw [Runtime.step, input] at taken
      rcases Option.map_eq_some_iff.mp taken with ⟨aaa, handled, equal⟩
      rw [← equal]
      exact quietly (.interimTimer now.counters ref index) trivial (fun _ _ => nofun) aaa handled
  | collectCounters counters =>
      rw [Runtime.step, input] at taken
      rw [← Option.some.inj taken]
      exact moves.plain now _ (.of_same rfl rfl rfl rfl) here
  | reload conf =>
      rw [Runtime.step, input] at taken
      dsimp only at taken
      split at taken
      · rename_i decoded
        rw [← Option.some.inj taken]
        have reloaded := moves.quiet (.reload conf.aaaConf conf.pppoeTemplates)
          (now.aaa.reload conf.aaaConf conf.pppoeTemplates) (.reload input) trivial
          (by rw [AAA.step, if_pos decoded]) here
        exact moves.plain (now.withAaa (now.aaa.reload conf.aaaConf conf.pppoeTemplates)) _
          (.of_same rfl rfl rfl rfl) reloaded
      · cases taken
  | periodic =>
      rw [Runtime.step, input] at taken
      rw [← Option.some.inj taken]
      exact moves.plain now _ (.of_same rfl rfl rfl rfl) here

end Moves

end Runtime

end Pppcpd
