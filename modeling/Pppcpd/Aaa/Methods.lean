import Pppcpd.Aaa.Neighbours
import Pppcpd.Foundation.Verdict
import Mathlib.Data.List.TakeWhile

namespace Pppcpd

open Foundation

/-!
# One request through the list of methods

A call of `startSession` or `startSessionCHAP` is over when the loop over the
methods has returned and the request to the server, if one was sent, has been
answered or has timed out.  By the documentation the methods are tried in order
until one is available, and that one decides.

A request ends once, as a rule.  But an answer that is delivered twice is
handled twice while its entry is there, and a timer that has expired already
calls back after an answer.
-/

/-- The arguments of a call. -/
structure StartCall where
  inputs : AAAInputs
  user : Bytes
  credential : Credential
  encap : Encapsulation
  callback : AAACallback

/-- A way in which a request ends.  An answer finds the state of a later time. -/
inductive Ending
  | answered (later : AAA) (inputs : AAAInputs) (code : UInt8) (attributes : Bytes)
  | timedOut

/-- What came of a call: the callback calls made before it returned and those
made at the end of its request, and the number of AAA sessions made. -/
structure WholeRun where
  startCalls : List CallbackCall
  endCalls : List CallbackCall
  made : Nat

namespace AAA

/-- A request was handed to the server. -/
def asks (before after : AAA) : Bool :=
  after.auth.map (fun client => client.sent.length) !=
    before.auth.map (fun client => client.sent.length)

/-- The handler that the end of a request runs, with the number of sessions it
makes. -/
def finish (handler : AuthHandler) : Ending -> Option (Nat × List CallbackCall)
  | .answered later inputs code attributes =>
      (later.processRadiusAnswer inputs handler code attributes).map (fun processed =>
        (processed.1.objects.length - later.objects.length, processed.2))
  | .timedOut => some (0, processRadiusError handler "Timeout for this radius request")

/-- The handlers of several ends, one after the other. -/
def finishAll (handler : AuthHandler) : List Ending -> Option (Nat × List CallbackCall)
  | [] => some (0, [])
  | ending :: again =>
      (finish handler ending).bind (fun first =>
        (finishAll handler again).map (fun later => (first.1 + later.1, first.2 ++ later.2)))

/-- A call, from its start to the end of its request and what comes again. -/
def wholeRun (call : StartCall) (ending : Ending) (again : List Ending) (aaa : AAA) :
    Option WholeRun :=
  (aaa.startSession call.inputs call.user call.credential call.encap call.callback).bind
    (fun started =>
      let made := started.1.objects.length - aaa.objects.length
      if asks aaa started.1 then
        (finishAll { callback := call.callback, user := call.user } (ending :: again)).map
          (fun finished =>
            { startCalls := started.2, endCalls := finished.2, made := made + finished.1 })
      else some { startCalls := started.2, endCalls := [], made := made })

/-! ## What the methods should decide -/

/-- NONE can start a session: there is a template, and an id is free. -/
def NoneUsable (aaa : AAA) : Prop := aaa.conf.localTemplate ≠ [] ∧ aaa.firstFreeId ≠ none

instance (aaa : AAA) : Decidable aaa.NoneUsable := inferInstanceAs (Decidable (_ ∧ _))

/-- There is a server, and the next request identifier is free. -/
def ServerUsable (aaa : AAA) : Prop :=
  aaa.auth.any (fun client => decide (client.lastId + 1 ∉ client.callbacks)) = true

instance (aaa : AAA) : Decidable aaa.ServerUsable := inferInstanceAs (Decidable (_ = _))

/-- An accept for which an id is free, another answer, or none. -/
def serverVerdict : Ending -> Verdict
  | .answered later _ code _ =>
      if code = RadiusCode.accessAccept ∧ later.firstFreeId ≠ none then .accepts else .rejects
  | .timedOut => .unavailable

/-- What a method says about a call.  LOCAL is not implemented. -/
def verdict (ending : Ending) (aaa : AAA) : AAAMethod -> Verdict
  | .none => if aaa.NoneUsable then .accepts else .unavailable
  | .radius => if aaa.ServerUsable then serverVerdict ending else .unavailable
  | .local => .unavailable

/-- The call of the callback that reports a success or an error. -/
def Reports (callback : AAACallback) (success : Prop) (calls : List CallbackCall) : Prop :=
  ∃ call, calls = [call] ∧ call.callback = callback ∧ (call.err = none ↔ success)

/-- The call makes at most one session and the callback is called once: with a
success by the method that decides in favour, and with an error when there is
none. -/
def DecidesOnce (call : StartCall) (ending : Ending) (again : List Ending) (aaa : AAA) : Prop :=
  ∃ run, aaa.wholeRun call ending again = some run ∧ run.made ≤ 1 ∧
    match decision (verdict ending aaa) aaa.conf.method with
    | some .none => Reports call.callback True run.startCalls ∧ run.endCalls = []
    | some .radius => run.startCalls = [] ∧ Reports call.callback True run.endCalls
    | _ => Reports call.callback False (run.startCalls ++ run.endCalls)

/-! ## When the code decides so -/

/-- The methods in front of the first RADIUS. -/
def beforeRadius (methods : List AAAMethod) : List AAAMethod :=
  methods.takeWhile (fun method => method != .radius)

/-- The session of NONE can be constructed: the search for an address ends. -/
def NoneReturns (call : StartCall) (aaa : AAA) : Prop :=
  forall sid, aaa.firstFreeId = some sid ->
    (aaa.constructNone call.inputs.ifindex sid call.user aaa.conf.localTemplate).isSome = true

/-- An accept can be handled: its attributes can be read, and when an id is
free, there is an accounting server and the session can be constructed. -/
def AnswerReturns (inputs : AAAInputs) (user attributes : Bytes) (aaa : AAA) : Prop :=
  ∃ response, RadiusResponse.deserialize aaa.dict { bytes := attributes, behind := inputs.behind }
      inputs.vendor = some response ∧
    forall sid, aaa.firstFreeId = some sid -> aaa.acct ≠ none ∧
      (aaa.constructRadius inputs.ifindex sid user aaa.conf.localTemplate response).isSome = true

/-- At most one id is free. -/
def LastId (aaa : AAA) : Prop :=
  forall sid, sid ≠ uint32Max -> aaa.firstFreeId ≠ some sid -> sid ∈ aaa.sessions

/-- With a server that is asked: no NONE in front of RADIUS can start a session,
the request ends once, and the answer is an accept, or there is none and no NONE
behind RADIUS can start a session either.  Without one: a NONE in front of
RADIUS can start a session, and no second NONE there can start another. -/
def DecidesWhen (call : StartCall) (ending : Ending) (again : List Ending) (aaa : AAA) : Prop :=
  if .radius ∈ aaa.conf.method ∧ aaa.ServerUsable then
    ¬ (aaa.NoneUsable ∧ .none ∈ beforeRadius aaa.conf.method) ∧ again = [] ∧
      match ending with
      | .answered later inputs code attributes =>
          code = RadiusCode.accessAccept ∧ later.AnswerReturns inputs call.user attributes
      | .timedOut => ¬ (aaa.NoneUsable ∧ .none ∈ aaa.conf.method)
  else
    aaa.NoneUsable ∧ .none ∈ beforeRadius aaa.conf.method ∧ aaa.NoneReturns call ∧
      ((beforeRadius aaa.conf.method).count .none = 1 ∨ aaa.LastId)

/-! ## The loop up to RADIUS -/

section Loop

variable {inputs : AAAInputs} {user : Bytes} {credential : Credential} {encap : Encapsulation}
  {callback : AAACallback}

/-- Without RADIUS in front, the rest of the list goes on where it ended. -/
theorem startByMethods_append {before : List AAAMethod} (rest : List AAAMethod)
    (noRadius : .radius ∉ before) (aaa : AAA) :
    startByMethods inputs user credential encap callback (before ++ rest) aaa =
      (startByMethods inputs user credential encap callback before aaa).bind (fun first =>
        (startByMethods inputs user credential encap callback rest first.1).map (fun later =>
          (later.1, first.2 ++ later.2))) := by
  induction before generalizing aaa with
  | nil =>
      rw [List.nil_append, startByMethods, Option.bind_some]
      cases startByMethods inputs user credential encap callback rest aaa <;> rfl
  | cons method before inductionHypothesis =>
      have elsewhere : .radius ∉ before := fun member => noRadius (List.mem_cons_of_mem _ member)
      cases method with
      | radius => exact absurd List.mem_cons_self noRadius
      | «local» => exact inductionHypothesis elsewhere aaa
      | none =>
          rw [List.cons_append, startByMethods, startByMethods]
          cases aaa.startSessionNone inputs user with
          | none => rfl
          | some started =>
              rw [Option.bind_some, Option.bind_some, inductionHypothesis elsewhere started.1]
              cases startByMethods inputs user credential encap callback before started.1 with
              | none => rfl
              | some first =>
                  rw [Option.bind_some, Option.map_some, Option.bind_some]
                  cases started.2 with
                  | error text => cases startByMethods inputs user credential encap callback rest first.1 <;> rfl
                  | ok sid => cases startByMethods inputs user credential encap callback rest first.1 <;> rfl

theorem startSessionNone_of_not_usable {aaa : AAA} (unusable : ¬ aaa.NoneUsable) :
    ∃ text, aaa.startSessionNone inputs user = some (aaa, .error text) := by
  unfold startSessionNone
  split
  · exact ⟨_, rfl⟩
  · rename_i template
    cases free : aaa.firstFreeId with
    | none => exact ⟨_, rfl⟩
    | some sid =>
        refine absurd ⟨template, ?_⟩ unusable
        rw [free]
        exact Option.some_ne_none sid

/-- A usable NONE constructs a session for the first free id. -/
theorem startSessionNone_of_usable {aaa : AAA} (usable : aaa.NoneUsable) :
    ∃ sid, aaa.firstFreeId = some sid ∧ aaa.startSessionNone inputs user =
      (aaa.constructNone inputs.ifindex sid user aaa.conf.localTemplate).map (fun made =>
        (made.enter sid aaa.objects.length, .ok sid)) := by
  rcases Option.ne_none_iff_exists'.mp usable.2 with ⟨sid, free⟩
  refine ⟨sid, free, ?_⟩
  unfold startSessionNone
  rw [if_neg usable.1, free]

/-- When no NONE can start a session, the loop does nothing. -/
theorem startByMethods_idle {before : List AAAMethod} {aaa : AAA} (noRadius : .radius ∉ before)
    (unusable : ¬ (aaa.NoneUsable ∧ .none ∈ before)) :
    startByMethods inputs user credential encap callback before aaa = some (aaa, []) := by
  induction before with
  | nil => rfl
  | cons method before inductionHypothesis =>
      have rest := inductionHypothesis (fun member => noRadius (List.mem_cons_of_mem _ member))
        (fun both => unusable ⟨both.1, List.mem_cons_of_mem _ both.2⟩)
      cases method with
      | radius => exact absurd List.mem_cons_self noRadius
      | «local» => exact rest
      | none =>
          rcases startSessionNone_of_not_usable
            (fun usable => unusable ⟨usable, List.mem_cons_self⟩) with ⟨text, failed⟩
          rw [startByMethods, failed, Option.bind_some, rest]
          rfl

/-- When NONE can start a session, the first NONE does, and the loop goes on
behind it. -/
theorem startByMethods_usable {before : List AAAMethod} {aaa : AAA} (noRadius : .radius ∉ before)
    (usable : aaa.NoneUsable) (member : .none ∈ before) :
    ∃ sid tail, aaa.firstFreeId = some sid ∧ .radius ∉ tail ∧
      before.count .none = tail.count .none + 1 ∧
      startByMethods inputs user credential encap callback before aaa =
        (aaa.constructNone inputs.ifindex sid user aaa.conf.localTemplate).bind (fun made =>
          (startByMethods inputs user credential encap callback tail
              (made.enter sid aaa.objects.length)).map (fun later =>
            (later.1, { callback := callback, sid := sid, err := none } :: later.2))) := by
  induction before with
  | nil => cases member
  | cons method before inductionHypothesis =>
      have elsewhere : .radius ∉ before := fun found => noRadius (List.mem_cons_of_mem _ found)
      cases method with
      | radius => exact absurd List.mem_cons_self noRadius
      | «local» =>
          rcases List.mem_cons.mp member with impossible | later
          · cases impossible
          · rcases inductionHypothesis elsewhere later with ⟨sid, tail, free, clean, count, runs⟩
            refine ⟨sid, tail, free, clean, ?_, runs⟩
            rw [← count, List.count_cons_of_ne (by decide)]
      | none =>
          rcases startSessionNone_of_usable usable with ⟨sid, free, starts⟩
          refine ⟨sid, before, free, elsewhere, List.count_cons_self, ?_⟩
          rw [startByMethods, starts, Option.bind_map]
          rfl

/-- The loop only reports successes, one for each session that it makes. -/
theorem Started.successes {aaa after : AAA} {calls : List CallbackCall}
    (path : Started inputs user credential encap callback aaa after calls) :
    (forall call, call ∈ calls -> call.callback = callback ∧ call.err = none) ∧
      after.objects.length = aaa.objects.length + calls.length := by
  induction path with
  | idle aaa => exact ⟨fun _ member => absurd member List.not_mem_nil, rfl⟩
  | asked aaa => exact ⟨fun _ member => absurd member List.not_mem_nil, rfl⟩
  | @made aaa made after sid calls free construction path inductionHypothesis =>
      refine ⟨fun call member => ?_, ?_⟩
      · rcases List.mem_cons.mp member with same | later
        · rw [same]
          exact ⟨rfl, rfl⟩
        · exact inductionHypothesis.1 call later
      · rcases construction with ⟨session, pools, _, _, built⟩
        have one : (made.enter sid aaa.objects.length).objects.length = aaa.objects.length + 1 := by
          rw [built]
          exact Heap.length_make _ _
        rw [inductionHypothesis.2, one, List.length_cons]
        omega

/-- Without RADIUS nothing is asked. -/
theorem auth_of_startByMethods {before : List AAAMethod} {aaa : AAA} {out : AAA × List CallbackCall}
    (noRadius : .radius ∉ before)
    (started : startByMethods inputs user credential encap callback before aaa = some out) :
    out.1.auth = aaa.auth := by
  induction before generalizing aaa out with
  | nil => rw [← Option.some.inj started]
  | cons method before inductionHypothesis =>
      have elsewhere : .radius ∉ before := fun member => noRadius (List.mem_cons_of_mem _ member)
      cases method with
      | radius => exact absurd List.mem_cons_self noRadius
      | «local» => exact inductionHypothesis elsewhere started
      | none =>
          rcases Option.bind_eq_some_iff.mp started with ⟨first, attempted, remaining⟩
          rcases Option.map_eq_some_iff.mp remaining with ⟨later, continued, equal⟩
          have onwards := inductionHypothesis elsewhere continued
          have here : first.1.auth = aaa.auth := by
            rcases startSessionNone_cases attempted with ⟨text, failed⟩ | ⟨sid, made, _, built, entered⟩
            · rw [failed]
            · rcases built with ⟨session, pools, _, _, built⟩
              rw [entered, built]
              rfl
          have same : out.1 = later.1 := by
            rw [← equal]
            split <;> rfl
          rw [same, onwards, here]

/-- A request is handed to a server exactly when it can be. -/
theorem asks_startSessionRadius {aaa reached : AAA} (same : reached.auth = aaa.auth) :
    asks aaa (reached.startSessionRadius inputs user credential encap callback) =
      decide aaa.ServerUsable := by
  have usable : decide aaa.ServerUsable =
      aaa.auth.any (fun client => decide (client.lastId + 1 ∉ client.callbacks)) :=
    Bool.decide_eq_true
  rw [usable, asks, startSessionRadius]
  dsimp only
  rw [same]
  cases aaa.auth with
  | none => rfl
  | some client =>
      simp only [Option.map_some, Option.any_some, AuthClient.request]
      by_cases used : client.lastId + 1 ∈ client.callbacks
      · simp [AuthClient.register, Table.emplace, used]
      · simp [AuthClient.register, Table.emplace, used]

end Loop

/-! ## The whole run -/

theorem not_mem_beforeRadius (methods : List AAAMethod) : .radius ∉ beforeRadius methods := by
  intro member
  have passes := List.mem_takeWhile_imp member
  cases passes

/-- A list is its part in front of RADIUS, or that part, RADIUS and more. -/
theorem beforeRadius_cases (methods : List AAAMethod) :
    (.radius ∉ methods ∧ methods = beforeRadius methods) ∨
      .radius ∈ methods ∧ ∃ rest, methods = beforeRadius methods ++ .radius :: rest := by
  have parts := List.takeWhile_append_dropWhile (p := fun method => method != AAAMethod.radius)
    (l := methods)
  cases behind : methods.dropWhile (fun method => method != AAAMethod.radius) with
  | nil =>
      rw [behind, List.append_nil] at parts
      have same : methods = beforeRadius methods := parts.symm
      refine .inl ⟨?_, same⟩
      rw [same]
      exact not_mem_beforeRadius methods
  | cons method rest =>
      have first : method = .radius := by
        have fails := List.head?_dropWhile_not (fun method => method != AAAMethod.radius) methods
        rw [behind] at fails
        simpa using fails
      rw [behind, first] at parts
      refine .inr ⟨?_, rest, parts.symm⟩
      rw [← parts]
      exact List.mem_append_right _ List.mem_cons_self

/-- The run in terms of the loop up to RADIUS. -/
theorem wholeRun_eq (call : StartCall) (ending : Ending) (again : List Ending) (aaa : AAA) :
    aaa.wholeRun call ending again =
      (startByMethods call.inputs call.user call.credential call.encap call.callback
          (beforeRadius aaa.conf.method) aaa).bind (fun first =>
        if .radius ∈ aaa.conf.method ∧ aaa.ServerUsable then
          (finishAll { callback := call.callback, user := call.user } (ending :: again)).map
            (fun finished =>
              { startCalls := first.2, endCalls := finished.2
                made := first.2.length + finished.1 })
        else some { startCalls := first.2, endCalls := [], made := first.2.length }) := by
  have clean := not_mem_beforeRadius aaa.conf.method
  unfold wholeRun startSession
  rcases beforeRadius_cases aaa.conf.method with ⟨absent, whole⟩ | ⟨present, rest, whole⟩
  · rw [← whole]
    cases loop : startByMethods call.inputs call.user call.credential call.encap call.callback
        aaa.conf.method aaa with
    | none => rfl
    | some first =>
        have length := (started_of_startByMethods loop).successes.2
        have quiet : asks aaa first.1 = false := by
          unfold asks
          rw [auth_of_startByMethods absent loop]
          exact bne_self_eq_false _
        rw [Option.bind_some, Option.bind_some, quiet, if_neg Bool.false_ne_true,
          if_neg (fun both => absent both.1), length, Nat.add_sub_cancel_left]
  · have split := @startByMethods_append call.inputs call.user call.credential call.encap
      call.callback _ (.radius :: rest) clean aaa
    rw [← whole] at split
    rw [split]
    cases loop : startByMethods call.inputs call.user call.credential call.encap call.callback
        (beforeRadius aaa.conf.method) aaa with
    | none => rfl
    | some first =>
        have length := (started_of_startByMethods loop).successes.2
        have asked := @asks_startSessionRadius call.inputs call.user call.credential call.encap
          call.callback _ _ (auth_of_startByMethods clean loop)
        rw [Option.bind_some, Option.bind_some, startByMethods, Option.map_some, Option.bind_some]
        dsimp only
        rw [asked, List.append_nil]
        have objects : (first.1.startSessionRadius call.inputs call.user call.credential call.encap
            call.callback).objects = first.1.objects := rfl
        rw [objects, length, Nat.add_sub_cancel_left]
        by_cases usable : aaa.ServerUsable
        · rw [if_pos (decide_eq_true usable), if_pos ⟨present, usable⟩]
        · rw [if_neg (by rw [decide_eq_false usable]; exact Bool.false_ne_true),
            if_neg (fun both => usable both.2)]

/-! ## The ends of a request -/

/-- An answer is handled exactly when its attributes can be read and its session
can be constructed. -/
theorem answerReturns_iff {aaa : AAA} {inputs : AAAInputs} {handler : AuthHandler} {code : UInt8}
    {attributes : Bytes} :
    (∃ out, aaa.processRadiusAnswer inputs handler code attributes = some out) ↔
      aaa.AnswerReturns inputs handler.user attributes := by
  unfold processRadiusAnswer AnswerReturns
  cases RadiusResponse.deserialize aaa.dict { bytes := attributes, behind := inputs.behind }
      inputs.vendor with
  | none =>
      constructor
      · rintro ⟨out, impossible⟩
        cases impossible
      · rintro ⟨response, impossible, _⟩
        cases impossible
  | some response =>
      rw [Option.bind_some]
      dsimp only
      cases aaa.firstFreeId with
      | none =>
          exact ⟨fun _ => ⟨response, rfl, fun _ impossible => by cases impossible⟩,
            fun _ => ⟨_, rfl⟩⟩
      | some sid =>
          dsimp only
          cases aaa.acct with
          | none =>
              constructor
              · rintro ⟨out, impossible⟩
                cases impossible
              · rintro ⟨_, _, returns⟩
                exact absurd rfl (returns sid rfl).1
          | some client =>
              dsimp only
              constructor
              · rintro ⟨out, answered⟩
                rcases Option.map_eq_some_iff.mp answered with ⟨made, construction, _⟩
                refine ⟨response, rfl, fun other free => ⟨Option.some_ne_none client, ?_⟩⟩
                rw [← Option.some.inj free, construction]
                rfl
              · rintro ⟨read, same, returns⟩
                rw [← Option.some.inj same] at returns
                rcases Option.isSome_iff_exists.mp (returns sid rfl).2 with ⟨made, construction⟩
                rw [construction]
                exact ⟨_, rfl⟩

/-- An answer that calls back once is an accept. -/
theorem accept_of_single {aaa : AAA} {inputs : AAAInputs} {handler : AuthHandler} {code : UInt8}
    {attributes : Bytes} {out : AAA × List CallbackCall}
    (answered : aaa.processRadiusAnswer inputs handler code attributes = some out)
    (single : out.2.length = 1) : code = RadiusCode.accessAccept := by
  apply Classical.byContradiction
  intro other
  have refused : (noAcceptCalls handler.callback code).length = 1 := by
    rw [noAcceptCalls, if_pos other]
    rfl
  rcases processRadiusAnswer_cases answered with ⟨_, full⟩ | ⟨sid, made, _, _, started⟩
  · rw [full, List.length_append, refused] at single
    cases single
  · rw [started, List.length_append, refused] at single
    cases single

/-- An accept calls back once, with a success when an id is free. -/
theorem accept_cases {aaa : AAA} {inputs : AAAInputs} {handler : AuthHandler} {attributes : Bytes}
    {out : AAA × List CallbackCall}
    (answered : aaa.processRadiusAnswer inputs handler RadiusCode.accessAccept attributes = some out) :
    Reports handler.callback (aaa.firstFreeId ≠ none) out.2 ∧
      out.1.objects.length ≤ aaa.objects.length + 1 := by
  have quiet : noAcceptCalls handler.callback RadiusCode.accessAccept = [] := by
    rw [noAcceptCalls, if_neg (fun different => different rfl)]
  rcases processRadiusAnswer_cases answered with ⟨none, full⟩ | ⟨sid, made, free, built, started⟩
  · rw [full, quiet]
    refine ⟨⟨_, rfl, rfl, ?_⟩, Nat.le_succ _⟩
    exact ⟨fun impossible => absurd impossible (Option.some_ne_none _), fun free => absurd none free⟩
  · rw [started, quiet]
    refine ⟨⟨_, rfl, rfl, ?_⟩, ?_⟩
    · rw [free]
      exact ⟨fun _ => Option.some_ne_none sid, fun _ => rfl⟩
    · rcases built with ⟨session, pools, _, _, built⟩
      have same : ((made.enter sid aaa.objects.length).start aaa.objects.length).objects =
          made.objects := by
        unfold start
        split
        · rfl
        · split <;> rfl
      rw [same, built]
      exact Nat.le_of_eq (Heap.length_make _ _)

/-- Every handler of an end calls back. -/
theorem length_finishAll {handler : AuthHandler} {endings : List Ending}
    {finished : Nat × List CallbackCall} (ended : finishAll handler endings = some finished) :
    endings.length ≤ finished.2.length := by
  induction endings generalizing finished with
  | nil => exact Nat.zero_le _
  | cons ending again inductionHypothesis =>
      rcases Option.bind_eq_some_iff.mp ended with ⟨first, here, rest⟩
      rcases Option.map_eq_some_iff.mp rest with ⟨later, continued, equal⟩
      have behind := inductionHypothesis continued
      have called : 1 ≤ first.2.length := by
        cases ending with
        | timedOut =>
            rw [← Option.some.inj here]
            exact Nat.le_refl 1
        | answered reached inputs code attributes =>
            rcases Option.map_eq_some_iff.mp here with ⟨processed, answered, same⟩
            rw [← same]
            rcases processRadiusAnswer_cases answered with ⟨_, full⟩ | ⟨sid, made, _, _, started⟩
            · rw [full, List.length_append]
              exact Nat.le_add_left _ _
            · rw [started, List.length_append]
              exact Nat.le_add_left _ _
      rw [← equal, List.length_cons, List.length_append]
      omega

theorem finishAll_single (handler : AuthHandler) (ending : Ending) :
    finishAll handler [ending] = finish handler ending := by
  rw [finishAll]
  cases finish handler ending with
  | none => rfl
  | some first =>
      rw [Option.bind_some, finishAll, Option.map_some, List.append_nil]
      rfl

theorem Reports.length {callback : AAACallback} {success : Prop} {calls : List CallbackCall}
    (reports : Reports callback success calls) : calls.length = 1 := by
  rcases reports with ⟨call, single, _⟩
  rw [single]
  rfl

theorem Reports.congr {callback : AAACallback} {left right : Prop} {calls : List CallbackCall}
    (same : left ↔ right) (reports : Reports callback left calls) : Reports callback right calls := by
  rcases reports with ⟨call, single, bound, outcome⟩
  exact ⟨call, single, bound, outcome.trans same⟩

/-! ## The decision -/

section Decision

variable {call : StartCall} {ending : Ending} {again : List Ending} {aaa : AAA}

/-- Methods among which no NONE can start a session, and whose server decides
nothing, are all unavailable. -/
theorem verdict_unavailable (ending : Ending) {methods : List AAAMethod}
    (unusable : ¬ (aaa.NoneUsable ∧ .none ∈ methods))
    (silent : .radius ∈ methods -> aaa.ServerUsable -> serverVerdict ending = .unavailable) :
    forall method, method ∈ methods -> verdict ending aaa method = .unavailable := by
  intro method member
  cases method with
  | none => exact if_neg (fun usable => unusable ⟨usable, member⟩)
  | «local» => rfl
  | radius =>
      rw [verdict]
      split
      · rename_i usable
        exact silent member usable
      · rfl

/-- The decision when the server is asked and no NONE stands in its way. -/
theorem decision_of_asked (ending : Ending) (present : .radius ∈ aaa.conf.method) (usable : aaa.ServerUsable)
    (unusable : ¬ (aaa.NoneUsable ∧ .none ∈ beforeRadius aaa.conf.method)) :
    (serverVerdict ending = .accepts -> decision (verdict ending aaa) aaa.conf.method = some .radius) ∧
      (serverVerdict ending = .rejects -> decision (verdict ending aaa) aaa.conf.method = none) := by
  rcases beforeRadius_cases aaa.conf.method with ⟨absent, _⟩ | ⟨_, rest, whole⟩
  · exact absurd present absent
  · have skipped := decision_append_of_unavailable (.radius :: rest)
      (verdict_unavailable ending unusable
        (fun member => absurd member (not_mem_beforeRadius _)))
    rw [← whole, decision, verdict, if_pos usable] at skipped
    constructor
    · intro accepts
      rw [skipped, accepts]
    · intro rejects
      rw [skipped, rejects]

/-- When only NONE is available, it decides. -/
theorem decision_of_none (usable : aaa.NoneUsable) (member : .none ∈ aaa.conf.method)
    (silent : .radius ∈ aaa.conf.method -> aaa.ServerUsable -> serverVerdict ending = .unavailable) :
    decision (verdict ending aaa) aaa.conf.method = some .none := by
  refine decision_eq_some_of_mem (if_pos usable) (fun method found different => ?_) member
  cases method with
  | none => exact absurd rfl different
  | «local» => rfl
  | radius =>
      rw [verdict]
      split
      · rename_i server
        exact silent found server
      · rfl

/-! ## With a server that is asked -/

theorem mem_of_mem_beforeRadius {methods : List AAAMethod} {method : AAAMethod}
    (member : method ∈ beforeRadius methods) : method ∈ methods :=
  List.takeWhile_subset _ member

/-- The law asks for one call of the callback in all, and for none at the end of
a request when NONE has decided. -/
theorem single_of_decidesOnce (lawful : DecidesOnce call ending again aaa) :
    ∃ run, aaa.wholeRun call ending again = some run ∧
      (run.startCalls ++ run.endCalls).length = 1 := by
  rcases lawful with ⟨run, whole, _, outcome⟩
  refine ⟨run, whole, ?_⟩
  split at outcome
  · rw [outcome.2, List.append_nil]
    exact outcome.1.length
  · rw [outcome.1]
    exact outcome.2.length
  · exact outcome.length

/-- A loop that calls nobody back has met no usable NONE. -/
theorem unusable_of_noCalls {before : List AAAMethod} {first : AAA × List CallbackCall}
    (noRadius : .radius ∉ before)
    (loop : startByMethods call.inputs call.user call.credential call.encap call.callback before
      aaa = some first)
    (noCalls : first.2 = []) : ¬ (aaa.NoneUsable ∧ .none ∈ before) := by
  intro both
  rcases startByMethods_usable noRadius both.1 both.2 with ⟨sid, tail, _, _, _, runs⟩
  rw [runs] at loop
  rcases Option.bind_eq_some_iff.mp loop with ⟨made, _, continued⟩
  rcases Option.map_eq_some_iff.mp continued with ⟨later, _, equal⟩
  rw [← equal] at noCalls
  cases noCalls

theorem decidesWhen_of_asked (present : .radius ∈ aaa.conf.method) (server : aaa.ServerUsable)
    (lawful : DecidesOnce call ending again aaa) : DecidesWhen call ending again aaa := by
  rcases single_of_decidesOnce lawful with ⟨run, whole, single⟩
  rw [wholeRun_eq] at whole
  rcases Option.bind_eq_some_iff.mp whole with ⟨first, loop, finishing⟩
  rw [if_pos ⟨present, server⟩] at finishing
  rcases Option.map_eq_some_iff.mp finishing with ⟨finished, ended, equal⟩
  have calls := length_finishAll ended
  rw [← equal, List.length_append] at single
  dsimp only at single
  rw [List.length_cons] at calls
  have noCalls : first.2 = [] := List.length_eq_zero_iff.mp (by omega)
  have once : again = [] := List.length_eq_zero_iff.mp (by omega)
  have unusable := unusable_of_noCalls (not_mem_beforeRadius _) loop noCalls
  unfold DecidesWhen
  rw [if_pos ⟨present, server⟩]
  refine ⟨unusable, once, ?_⟩
  rw [once, finishAll_single] at ended
  cases ending with
  | answered later inputs code attributes =>
      rcases Option.map_eq_some_iff.mp ended with ⟨processed, answered, same⟩
      refine ⟨accept_of_single answered ?_, answerReturns_iff.mp ⟨processed, answered⟩⟩
      rw [← same] at single
      dsimp only at single
      rw [noCalls, List.length_nil, Nat.zero_add] at single
      exact single
  | timedOut =>
      intro both
      rcases lawful with ⟨run', whole', _, outcome⟩
      rw [decision_of_none both.1 both.2 (fun _ _ => rfl)] at outcome
      rw [wholeRun_eq, loop, Option.bind_some, if_pos ⟨present, server⟩, once, finishAll_single,
        ended] at whole'
      rw [← Option.some.inj whole'] at outcome
      dsimp only at outcome
      rw [outcome.2] at calls
      cases calls

theorem decidesOnce_of_asked (present : .radius ∈ aaa.conf.method) (server : aaa.ServerUsable)
    (agrees : DecidesWhen call ending again aaa) : DecidesOnce call ending again aaa := by
  unfold DecidesWhen at agrees
  rw [if_pos ⟨present, server⟩] at agrees
  rcases agrees with ⟨unusable, once, ends⟩
  have idle := @startByMethods_idle call.inputs call.user call.credential call.encap call.callback
    _ _ (not_mem_beforeRadius _) unusable
  have whole : forall finished,
      finish { callback := call.callback, user := call.user } ending = some finished ->
      aaa.wholeRun call ending again =
        some { startCalls := [], endCalls := finished.2, made := 0 + finished.1 } := by
    intro finished ended
    rw [wholeRun_eq, idle, Option.bind_some, if_pos ⟨present, server⟩, once, finishAll_single, ended]
    rfl
  cases ending with
  | answered later inputs code attributes =>
      dsimp only at ends
      rw [ends.1] at whole ⊢
      rcases (@answerReturns_iff later inputs { callback := call.callback, user := call.user } _
        attributes).mpr ends.2 with ⟨out, answered⟩
      have outcome := accept_cases answered
      have decided := decision_of_asked (.answered later inputs RadiusCode.accessAccept attributes)
        present server unusable
      refine ⟨_, whole _ (by rw [finish, answered]; rfl), ?_, ?_⟩
      · dsimp only
        omega
      · by_cases free : later.firstFreeId = none
        · rw [decided.2 (if_neg (fun both => both.2 free))]
          exact outcome.1.congr ⟨fun some => some free, False.elim⟩
        · rw [decided.1 (if_pos ⟨rfl, free⟩)]
          exact ⟨rfl, outcome.1.congr ⟨fun _ => trivial, fun _ => free⟩⟩
  | timedOut =>
      refine ⟨_, whole _ rfl, Nat.zero_le _, ?_⟩
      rw [decision_eq_none_of_unavailable (verdict_unavailable _ ends (fun _ _ => rfl))]
      exact ⟨_, rfl, rfl, fun impossible => absurd impossible (Option.some_ne_none _), False.elim⟩

/-! ## Without a server that is asked -/

/-- A new entry leaves no id free exactly when it takes the last one. -/
theorem firstFreeId_insert {after : AAA} {sid : UInt32} {entry : Nat}
    (free : aaa.firstFreeId = some sid) (sessions : after.sessions = aaa.sessions.insert sid entry) :
    after.firstFreeId = none ↔ aaa.LastId := by
  rw [firstFreeId_eq_none_iff, sessions, LastId, free]
  constructor
  · intro used other notLast different
    rcases (AList.mem_insert aaa.sessions).mp (used other notLast) with same | old
    · exact absurd (congrArg some same.symm) different
    · exact old
  · intro used other notLast
    by_cases same : other = sid
    · exact (AList.mem_insert aaa.sessions).mpr (.inl same)
    · exact (AList.mem_insert aaa.sessions).mpr (.inr (used other notLast
        (fun equal => same (Option.some.inj equal).symm)))

instance : Decidable aaa.LastId :=
  match free : aaa.firstFreeId with
  | some sid =>
      decidable_of_iff (AAA.firstFreeId { aaa with sessions := aaa.sessions.insert sid 0 } = none)
        (firstFreeId_insert free rfl)
  | none => .isTrue (fun sid notLast _ => firstFreeId_eq_none_iff.mp free sid notLast)

/-- The session that NONE makes is such an entry. -/
theorem firstFreeId_enter {made : AAA} {sid : UInt32} (free : aaa.firstFreeId = some sid)
    (built : Built sid aaa made) :
    (made.enter sid aaa.objects.length).firstFreeId = none ↔ aaa.LastId := by
  rcases built with ⟨session, pools, _, _, built⟩
  refine @firstFreeId_insert aaa _ sid aaa.objects.length free ?_
  rw [built]
  rfl

theorem noneUsable_enter {made : AAA} {sid : UInt32} (usable : aaa.NoneUsable)
    (free : aaa.firstFreeId = some sid) (built : Built sid aaa made) :
    (made.enter sid aaa.objects.length).NoneUsable ↔ ¬ aaa.LastId := by
  rw [← firstFreeId_enter free built]
  rcases built with ⟨session, pools, _, _, built⟩
  have template : (made.enter sid aaa.objects.length).conf.localTemplate =
      aaa.conf.localTemplate := by
    rw [built]
    rfl
  unfold NoneUsable
  rw [template]
  exact ⟨And.right, fun left => ⟨usable.1, left⟩⟩

theorem decidesWhen_of_not_asked (notAsked : ¬ (.radius ∈ aaa.conf.method ∧ aaa.ServerUsable))
    (lawful : DecidesOnce call ending again aaa) : DecidesWhen call ending again aaa := by
  have silent : .radius ∈ aaa.conf.method -> aaa.ServerUsable ->
      serverVerdict ending = .unavailable := fun present server => absurd ⟨present, server⟩ notAsked
  rcases lawful with ⟨run, whole, _, outcome⟩
  rw [wholeRun_eq] at whole
  rcases Option.bind_eq_some_iff.mp whole with ⟨first, loop, finishing⟩
  rw [if_neg notAsked] at finishing
  rw [← Option.some.inj finishing] at outcome
  dsimp only at outcome
  by_cases both : aaa.NoneUsable ∧ .none ∈ aaa.conf.method
  · rw [decision_of_none both.1 both.2 silent] at outcome
    have single := outcome.1.length
    have inFront : .none ∈ beforeRadius aaa.conf.method := by
      apply Classical.byContradiction
      intro behind
      rw [startByMethods_idle (not_mem_beforeRadius _) (fun found => behind found.2)] at loop
      rw [← Option.some.inj loop] at single
      cases single
    rcases startByMethods_usable (not_mem_beforeRadius _) both.1 inFront with
      ⟨sid, tail, free, clean, count, runs⟩
    rw [runs] at loop
    rcases Option.bind_eq_some_iff.mp loop with ⟨made, construction, continued⟩
    rcases Option.map_eq_some_iff.mp continued with ⟨later, onwards, equal⟩
    unfold DecidesWhen
    rw [if_neg notAsked]
    refine ⟨both.1, inFront, ?_, ?_⟩
    · intro other found
      rw [free] at found
      rw [← Option.some.inj found, construction]
      rfl
    · have started := noneUsable_enter both.1 free (built_constructNone construction)
      have noMore : later.2 = [] := by
        rw [← equal] at single
        exact List.length_eq_zero_iff.mp (Nat.succ.inj single)
      have unusable := unusable_of_noCalls clean onwards noMore
      by_cases another : .none ∈ tail
      · refine .inr (Classical.byContradiction (fun more => ?_))
        exact unusable ⟨started.mpr more, another⟩
      · rw [List.count_eq_zero_of_not_mem another] at count
        exact .inl count
  · rw [decision_eq_none_of_unavailable (verdict_unavailable ending both silent)] at outcome
    rcases outcome with ⟨only, calls, _, error⟩
    rw [List.append_nil] at calls
    have success := ((started_of_startByMethods loop).successes.1 only (by
      rw [calls]
      exact List.mem_singleton_self only)).2
    exact (error.mp success).elim

theorem decidesOnce_of_not_asked (notAsked : ¬ (.radius ∈ aaa.conf.method ∧ aaa.ServerUsable))
    (agrees : DecidesWhen call ending again aaa) : DecidesOnce call ending again aaa := by
  unfold DecidesWhen at agrees
  rw [if_neg notAsked] at agrees
  rcases agrees with ⟨usable, inFront, returns, last⟩
  rcases startByMethods_usable (not_mem_beforeRadius _) usable inFront with
    ⟨sid, tail, free, clean, count, runs⟩
  rcases Option.isSome_iff_exists.mp (returns sid free) with ⟨made, construction⟩
  have started := noneUsable_enter usable free (built_constructNone construction)
  have unusable : ¬ ((made.enter sid aaa.objects.length).NoneUsable ∧ .none ∈ tail) := by
    intro both
    rcases last with single | last
    · have none : tail.count .none = 0 := by omega
      exact List.count_eq_zero.mp none both.2
    · exact started.mp both.1 last
  rw [construction, Option.bind_some, startByMethods_idle clean unusable, Option.map_some] at runs
  have whole : aaa.wholeRun call ending again =
      some { startCalls := [{ callback := call.callback, sid := sid, err := none }], endCalls := []
             made := 1 } := by
    rw [wholeRun_eq, runs, Option.bind_some, if_neg notAsked]
    rfl
  refine ⟨_, whole, Nat.le_refl 1, ?_⟩
  rw [decision_of_none usable (mem_of_mem_beforeRadius inFront)
    (fun present server => absurd ⟨present, server⟩ notAsked)]
  exact ⟨⟨_, rfl, rfl, fun _ => trivial, fun _ => rfl⟩, rfl⟩

end Decision

/-- A call decides as documented exactly when the loop, which asks the server
and returns, and goes on after a success of NONE, happens to come to that. -/
theorem decidesOnce_iff (call : StartCall) (ending : Ending) (again : List Ending) (aaa : AAA) :
    DecidesOnce call ending again aaa ↔ DecidesWhen call ending again aaa := by
  by_cases asked : .radius ∈ aaa.conf.method ∧ aaa.ServerUsable
  · exact ⟨decidesWhen_of_asked asked.1 asked.2, decidesOnce_of_asked asked.1 asked.2⟩
  · exact ⟨decidesWhen_of_not_asked asked, decidesOnce_of_not_asked asked⟩

/-! ## The entries that a start makes -/

/-- RADIUS itself enters nothing and calls nobody, so the part of the loop in
front of it decides. -/
theorem startSession_front {aaa : AAA} {inputs : AAAInputs} {user : Bytes}
    {credential : Credential} {encap : Encapsulation} {callback : AAACallback}
    {out : AAA × List CallbackCall}
    (started : aaa.startSession inputs user credential encap callback = some out) :
    ∃ first, startByMethods inputs user credential encap callback
      (beforeRadius aaa.conf.method) aaa = some first ∧ out.2 = first.2 ∧
        out.1.sessions = first.1.sessions ∧ out.1.objects = first.1.objects := by
  have noRadius := not_mem_beforeRadius aaa.conf.method
  unfold startSession at started
  rcases beforeRadius_cases aaa.conf.method with ⟨_, whole⟩ | ⟨_, rest, parts⟩
  · rw [whole] at started
    exact ⟨out, started, rfl, rfl, rfl⟩
  · rw [parts, startByMethods_append _ noRadius] at started
    rcases Option.bind_eq_some_iff.mp started with ⟨first, loop, asked⟩
    rcases Option.map_eq_some_iff.mp asked with ⟨later, request, equal⟩
    refine ⟨first, loop, ?_, ?_⟩
    · rw [← equal, ← Option.some.inj request]
      exact List.append_nil _
    · rw [← equal, ← Option.some.inj request]
      exact ⟨rfl, rfl⟩

/-- A start whose loop meets no second usable NONE in front of RADIUS enters
nothing and calls nobody, or it enters one session and announces it. -/
theorem startSession_of_single {aaa : AAA} {inputs : AAAInputs} {user : Bytes}
    {credential : Credential} {encap : Encapsulation} {callback : AAACallback}
    {out : AAA × List CallbackCall}
    (single : aaa.NoneUsable -> .none ∈ beforeRadius aaa.conf.method ->
      (beforeRadius aaa.conf.method).count .none = 1 ∨ aaa.LastId)
    (started : aaa.startSession inputs user credential encap callback = some out) :
    out.2 = [] ∧ out.1.sessions = aaa.sessions ∨
      aaa.NoneUsable ∧ .none ∈ beforeRadius aaa.conf.method ∧ ∃ sid made,
        aaa.constructNone inputs.ifindex sid user aaa.conf.localTemplate = some made ∧
          out.2 = [{ callback := callback, sid := sid, err := none }] ∧
          out.1.sessions = aaa.sessions.insert sid aaa.objects.length ∧
          out.1.objects = made.objects := by
  have noRadius := not_mem_beforeRadius aaa.conf.method
  rcases startSession_front started with ⟨first, loop, calls, sessions, objects⟩
  rw [calls, sessions, objects]
  by_cases both : aaa.NoneUsable ∧ .none ∈ beforeRadius aaa.conf.method
  · refine .inr ⟨both.1, both.2, ?_⟩
    rcases startByMethods_usable noRadius both.1 both.2 with ⟨sid, tail, free, clean, count, runs⟩
    rw [runs] at loop
    rcases Option.bind_eq_some_iff.mp loop with ⟨made, construction, continued⟩
    have built := built_constructNone construction
    have unusable : ¬ ((made.enter sid aaa.objects.length).NoneUsable ∧ .none ∈ tail) := by
      intro again
      rcases single both.1 both.2 with one | last
      · have none : tail.count .none = 0 := by omega
        exact List.count_eq_zero.mp none again.2
      · exact (noneUsable_enter both.1 free built).mp again.1 last
    rw [startByMethods_idle clean unusable, Option.map_some] at continued
    rw [← Option.some.inj continued]
    refine ⟨sid, made, construction, rfl, ?_, rfl⟩
    rcases built with ⟨session, pools, _, _, equal⟩
    rw [equal]
    rfl
  · rw [startByMethods_idle noRadius both] at loop
    rw [← Option.some.inj loop]
    exact .inl ⟨rfl, rfl⟩

/-- A subscriber who asks while RADIUS is in front of NONE. -/
def sampleCall : StartCall where
  inputs := sampleInputs
  user := ascii "user"
  credential := .pap (ascii "pass")
  encap := ⟨⟨2, 0, 0, 0, 1, 1⟩, ⟨2, 0, 0, 0, 0, 1⟩, 0, 0, 0⟩
  callback := { session := 0, protocol := .pap }

/-- NONE does not apply when RADIUS does not respond: the callback gets an error. -/
theorem timeout_does_not_pass_on : ¬ DecidesOnce sampleCall .timedOut [] (sample [.radius, .none]) := by
  intro lawful
  have asked : .radius ∈ (sample [.radius, .none]).conf.method ∧
      (sample [.radius, .none]).ServerUsable := by decide +kernel
  have agrees := decidesWhen_of_asked asked.1 asked.2 lawful
  unfold DecidesWhen at agrees
  rw [if_pos asked] at agrees
  have usable : (sample [.radius, .none]).NoneUsable := by decide +kernel
  exact agrees.2.2 ⟨usable, by decide⟩

end AAA

end Pppcpd
