import Pppcpd.Aaa.Laws
import Pppcpd.Runtime.Frames

namespace Pppcpd

open Foundation

/-!
# Answers of the authentication server

`processRadiusAnswer` reports an answer that is not an Access-Accept to the
caller and then goes on as if it were one.  So a rejected subscriber is
answered twice, and the second answer is a success with a new AAA session.
-/

namespace Runtime

/-- What an authentication answer must not change in a session object unless it
is an Access-Accept. -/
structure AuthView where
  aaaSessionId : UInt32
  papStarted : Bool
  chapStarted : Bool
  ipcp : PPPFsm
  deriving DecidableEq

def authView (session : PPPOESession) : AuthView :=
  ⟨session.aaaSessionId, session.auth.started, session.chap.started, session.ipcp⟩

/-- What was logged between two states, newest first. -/
def logged (before after : Runtime) : List Observation :=
  after.log.take (after.log.length - before.log.length)

/-- Only an Access-Accept makes an AAA session and calls back with a success,
and every other answer calls back once, with an error, and changes nothing. -/
structure AnswerLaw (before after : Runtime) (callback : AAACallback) (code : UInt8) : Prop where
  inserted : (∃ sid, sid ∈ after.aaa.sessions ∧ sid ∉ before.aaa.sessions) ->
    code = RadiusCode.accessAccept
  succeeded : (∃ call : CallbackCall, call.err = none ∧ .callback call ∈ before.logged after) ->
    code = RadiusCode.accessAccept
  refused : code ≠ RadiusCode.accessAccept ->
    (∃ call, before.logged after = [.callback call] ∧ call.callback = callback ∧ call.err ≠ none) ∧
      after.aaa.sessions = before.aaa.sessions ∧
      after.aaa.conf.pools = before.aaa.conf.pools ∧
      forall ref, (after.sessions.deref ref).map authView = (before.sessions.deref ref).map authView

theorem log_callback (runtime : Runtime) (call : CallbackCall) :
    (runtime.callback call).log = .callback call :: runtime.log := by
  unfold callback observe withSession
  dsimp only
  split <;> rfl

/-- The callback calls are logged one after the other. -/
theorem log_callbacks (runtime : Runtime) (calls : List CallbackCall) :
    (runtime.callbacks calls).log = (calls.map Observation.callback).reverse ++ runtime.log := by
  induction calls generalizing runtime with
  | nil => rfl
  | cons call rest inductionHypothesis =>
      have onwards : runtime.callbacks (call :: rest) = (runtime.callback call).callbacks rest := rfl
      rw [onwards, inductionHypothesis, log_callback, List.map_cons, List.reverse_cons,
        List.append_assoc]
      rfl

/-- What was logged while calls were carried out. -/
theorem logged_callbacks {before runtime : Runtime} (same : runtime.log = before.log)
    (calls : List CallbackCall) :
    before.logged (runtime.callbacks calls) = (calls.map Observation.callback).reverse := by
  unfold logged
  rw [log_callbacks, same, List.length_append, Nat.add_sub_cancel, List.take_left]

/-- An answer is one error and one more call when it is not an Access-Accept,
and one call when it is. -/
theorem length_calls_of_answer {aaa : AAA} {inputs : AAAInputs} {handler : AuthHandler}
    {code : UInt8} {attributes : Bytes} {out : AAA × List CallbackCall}
    (processed : aaa.processRadiusAnswer inputs handler code attributes = some out) :
    out.2.length = if code = RadiusCode.accessAccept then 1 else 2 := by
  rcases AAA.processRadiusAnswer_cases processed with ⟨_, full⟩ | ⟨sid, made, _, _, entered⟩
  · rw [full]
    unfold AAA.noAcceptCalls
    by_cases accept : code = RadiusCode.accessAccept <;> simp [accept]
  · rw [entered]
    unfold AAA.noAcceptCalls
    by_cases accept : code = RadiusCode.accessAccept <;> simp [accept]

/-- Whatever the state of the daemon, the law holds for an answer exactly when
the answer is an Access-Accept. -/
theorem answerLaw_iff {runtime after : Runtime} {env : Env} {datagram : Bytes}
    {client filled : AuthClient RadiusRequest AuthHandler} {answer : AuthClient.Answer AuthHandler}
    (present : runtime.aaa.auth = some client)
    (received : client.onRcv runtime.aaa.md5 env.aaa.behind datagram = some (filled, some answer))
    (taken : runtime.step { env := env, input := .authDatagram datagram } = some after) :
    AnswerLaw runtime after answer.handler.callback answer.code ↔
      answer.code = RadiusCode.accessAccept := by
  rcases Option.map_eq_some_iff.mp taken with ⟨out, handled, equal⟩
  rcases AAA.authDatagram_cases handled with
    ⟨other, otherFilled, maybe, otherPresent, otherReceived, outcome⟩
  rw [present] at otherPresent
  rw [← Option.some.inj otherPresent, received] at otherReceived
  have parts := Prod.mk.inj (Option.some.inj otherReceived)
  rw [← parts.1, ← parts.2] at outcome
  rcases outcome with ⟨discarded, _⟩ | ⟨given, processed, same, processing, finished⟩
  · cases discarded
  · rw [← Option.some.inj same] at processing
    have count := length_calls_of_answer processing
    have calls : runtime.logged after = (processed.2.map Observation.callback).reverse := by
      rw [← equal, finished]
      exact logged_callbacks rfl processed.2
    constructor
    · intro law
      by_contra refusal
      rcases (law.refused refusal).1 with ⟨call, single, _⟩
      have lengths := congrArg List.length single
      rw [calls, List.length_reverse, List.length_map, count, if_neg refusal] at lengths
      cases lengths
    · intro accept
      exact ⟨fun _ => accept, fun _ => accept, fun refusal => absurd accept refusal⟩

/-- A daemon that authenticates by RADIUS, with LCP up on link 1 and the PAP
request of its subscriber under way. -/
def awaitingAnswer : Runtime :=
  Foundation.after step (sampleDaemon [.radius] papPolicy)
    (connect (sampleLink 1) ++ openLcp (sampleLink 1) 1 ++ [papRequest (sampleLink 1) 1])
    (by decide +kernel)

/-- The code of the answer that a datagram is for an outstanding request. -/
def answerCode (runtime : Runtime) (env : Env) (datagram : Bytes) : Option UInt8 :=
  runtime.aaa.auth.bind (fun client =>
    (client.onRcv runtime.aaa.md5 env.aaa.behind datagram).bind (fun received =>
      received.2.map AuthClient.Answer.code))

theorem exists_answer {runtime : Runtime} {env : Env} {datagram : Bytes} {code : UInt8}
    (answered : runtime.answerCode env datagram = some code) :
    ∃ client filled answer, runtime.aaa.auth = some client ∧
      client.onRcv runtime.aaa.md5 env.aaa.behind datagram = some (filled, some answer) ∧
      answer.code = code := by
  rcases Option.bind_eq_some_iff.mp answered with ⟨client, present, rest⟩
  rcases Option.bind_eq_some_iff.mp rest with ⟨⟨filled, maybe⟩, received, found⟩
  rcases Option.map_eq_some_iff.mp found with ⟨answer, isAnswer, code⟩
  dsimp only at isAnswer
  rw [isAnswer] at received
  exact ⟨client, filled, answer, present, received, code⟩

theorem awaitingAnswer_reachable :
    Reachable step (sampleDaemon [.radius] papPolicy) awaitingAnswer :=
  reachable_after _ _ _ _

/-- The daemon after an answer with a code. -/
def answeredBy (code : UInt8) : Option Runtime :=
  awaitingAnswer.step { input := .authDatagram (answerDatagram code) }

/-- An Access-Reject makes a session and calls back with a success. -/
theorem reject_starts_session :
    ¬ forall (runtime after : Runtime) (env : Env) (datagram : Bytes)
        (client filled : AuthClient RadiusRequest AuthHandler)
        (answer : AuthClient.Answer AuthHandler),
      Reachable step (sampleDaemon [.radius] papPolicy) runtime ->
      runtime.aaa.auth = some client ->
      client.onRcv runtime.aaa.md5 env.aaa.behind datagram = some (filled, some answer) ->
      runtime.step { env := env, input := .authDatagram datagram } = some after ->
        AnswerLaw runtime after answer.handler.callback answer.code := by
  intro claim
  have answered : awaitingAnswer.answerCode {} (answerDatagram RadiusCode.accessReject) =
      some RadiusCode.accessReject := by
    decide +kernel
  rcases exists_answer answered with ⟨client, filled, answer, present, received, code⟩
  have handled : (answeredBy RadiusCode.accessReject).isSome = true := by decide +kernel
  rcases Option.isSome_iff_exists.mp handled with ⟨after, taken⟩
  have law := claim _ _ _ _ _ _ _ awaitingAnswer_reachable present received taken
  have success : (answeredBy RadiusCode.accessReject).any (fun after =>
      decide (Observation.callback ⟨⟨0, .pap⟩, 0, none⟩ ∈ awaitingAnswer.logged after)) = true := by
    decide +kernel
  rw [taken, Option.any_some] at success
  have accept := law.succeeded ⟨_, rfl, of_decide_eq_true success⟩
  rw [code] at accept
  exact absurd accept (by decide)

/-- The law at an Access-Accept. -/
theorem answerLaw_at_accept :
    ∃ after answer, answeredBy RadiusCode.accessAccept = some after ∧
      AnswerLaw awaitingAnswer after answer RadiusCode.accessAccept := by
  have answered : awaitingAnswer.answerCode {} (answerDatagram RadiusCode.accessAccept) =
      some RadiusCode.accessAccept := by
    decide +kernel
  rcases exists_answer answered with ⟨client, filled, answer, present, received, code⟩
  have handled : (answeredBy RadiusCode.accessAccept).isSome = true := by decide +kernel
  rcases Option.isSome_iff_exists.mp handled with ⟨after, taken⟩
  have law := (answerLaw_iff present received taken).mpr code
  rw [code] at law
  exact ⟨after, answer.handler.callback, taken, law⟩

end Runtime

end Pppcpd
