import Pppcpd.Runtime.Frames

namespace Pppcpd

open Foundation

/-!
# The ends of sessions

Three events end a session: a PADT for its id, an LCP packet that takes its LCP
out of Opened, and the tenth tick of its echo timer without an answer.  What a
result about runs asks of the sessions that end is asked here, of the state and
the event, before the daemon handles it.
-/

namespace Runtime

/-- Something holds of every session object that the event takes out of the
active sessions.  A tick that is being handled is no longer among its waits. -/
def EndsOnly (holds : Nat -> PPPOESession -> Prop) (runtime : Runtime) (event : Event) : Prop :=
  match event.input with
  | .discovery _ packet => packet.pppoeCode = PPPOECode.padt ->
      ∀ ref ∈ runtime.target packet.pppoeSessionId, ∀ session ∈ runtime.sessions.deref ref,
        holds ref session
  | .session encap packet => packet.pppProtocol = PPPProto.lcp ->
      ∀ ref ∈ runtime.store.activeSessions.lookup (frameKey encap packet),
        ∀ session ∈ runtime.sessions.deref ref, session.lcp.state = .opened ->
          (runtime.lcpFsm event.env).leavesOpened session packet -> holds ref session
  | .echoTimer ref index => ∀ session ∈ runtime.sessions.deref ref,
      session.timer[index]? = some .expired -> 9 < session.lcp.echoCounter + 1 ->
        ∀ other ∈ (runtime.popEcho ref index).target session.sessionId,
          ∀ ended ∈ (runtime.popEcho ref index).sessions.deref other, holds other ended
  | _ => True

instance (holds : Nat -> PPPOESession -> Prop) [forall ref session, Decidable (holds ref session)]
    (runtime : Runtime) (event : Event) : Decidable (EndsOnly holds runtime event) := by
  match event with
  | ⟨env, input⟩ =>
    induction input using Input.casesOn <;> unfold EndsOnly <;> infer_instance

/-- An LCP packet ends the session of its frame only by taking LCP out of
Opened. -/
theorem leavesOpened_of_layerDown {runtime : Runtime} {env : Env} {packet : Packet}
    {session : PPPOESession} {out : FsmOut}
    (received : (runtime.lcpFsm env).receive session packet = some out)
    (down : out.action = .layerDown) :
    session.lcp.state = .opened ∧ (runtime.lcpFsm env).leavesOpened session packet := by
  have moved := (lcpFsm_lawful runtime env).receive received
  rw [down] at moved
  have left := moved.1.of_layerDown
  exact ⟨left.1, moved.2 left.1 left.2.1⟩

/-- What holds of the session that an LCP packet ends, once LCP was started for
that packet. -/
theorem EndsOnly.lcp {holds : Nat -> PPPOESession -> Prop} {runtime : Runtime} {env : Env}
    {encap : Encapsulation} {packet : Packet} {ref : Nat}
    (ends : EndsOnly holds runtime { env := env, input := .session encap packet })
    (found : runtime.store.activeSessions.lookup (frameKey encap packet) = some ref)
    (lcp : packet.pppProtocol = PPPProto.lcp) {later : PPPOESession}
    (present : (runtime.ensureStarted env ref).sessions.deref ref = some later)
    (opened : later.lcp.state = .opened)
    (leaves : ((runtime.ensureStarted env ref).lcpFsm env).leavesOpened later packet) :
    ∃ session, later = { session with started := true } ∧ holds ref session := by
  have started := kept_ensureStarted lcpBlind_key runtime env ref
  rcases started.symm.session present with ⟨session, earlier, _⟩
  rcases ensureStarted_session env earlier with ⟨same, samePresent, unchanged⟩
  rw [present] at samePresent
  have equal : later = { session with started := true } := by
    rw [← Option.some.inj samePresent] at unchanged
    exact unchanged opened
  rw [equal] at opened leaves
  exact ⟨session, equal, ends lcp ref found session earlier opened leaves⟩

/-- The session that an LCP packet ends is the one of the frame. -/
theorem target_applyLcp {runtime : Runtime} {env : Env} {ref : Nat} {packet : Packet}
    {session : PPPOESession} {out : FsmOut} (invariant : StoreInvariant runtime)
    (active : runtime.store.activeSessions.Holds ref)
    (found : runtime.sessions.deref ref = some session)
    (received : (runtime.lcpFsm env).receive session packet = some out) :
    (runtime.apply ref out).target session.sessionId = some ref := by
  have keyed := kept_applyLcp lcpBlind_key found received
  have same := keyed.objects ref
  rw [found, deref_apply_self found] at same
  have sid : out.session.sessionId = session.sessionId :=
    congrArg PPPOEKey.sessionId (Option.some.inj same)
  have self := target_of_holds (keyed.invariant invariant) (show
    (runtime.apply ref out).store.activeSessions.Holds ref from active) (deref_apply_self found out)
  exact sid ▸ self

theorem deref_popEcho {runtime : Runtime} {ref : Nat} {session : PPPOESession}
    (found : runtime.sessions.deref ref = some session) (index : Nat) :
    (runtime.popEcho ref index).sessions.deref ref =
      some { session with timer := session.timer.eraseIdx index } := by
  unfold popEcho
  dsimp only
  rw [Heap.deref_update, if_pos rfl, found]
  rfl

/-- The tick of an active session ends that session. -/
theorem target_popEcho {runtime : Runtime} {ref : Nat} {session : PPPOESession}
    (invariant : StoreInvariant runtime) (active : runtime.store.activeSessions.Holds ref)
    (found : runtime.sessions.deref ref = some session) (index : Nat) :
    (runtime.popEcho ref index).target session.sessionId = some ref := by
  have popped := deref_popEcho found index
  have inside := (kept_popEcho timerBlind_key runtime ref index).invariant invariant
  have self := target_of_holds inside
    (show (runtime.popEcho ref index).store.activeSessions.Holds ref from active) popped
  exact self

/-- Counting an echo request does not change what a deallocation finds. -/
theorem kept_countEcho {View : Type} {view : PPPOESession -> View} {runtime : Runtime} {ref : Nat}
    {session : PPPOESession} {out : FsmOut} (found : runtime.sessions.deref ref = some session)
    (counted : out.session = countEcho session) (blind : view (countEcho session) = view session) :
    Kept view runtime (runtime.apply ref out) :=
  kept_apply out found (by rw [counted]; exact blind)

end Runtime

end Pppcpd
