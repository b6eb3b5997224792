import Pppcpd.Aaa.Step

namespace Pppcpd

open Foundation

/-!
# What the operations of AAA can do

One lemma for each operation that lists its outcomes.  Later proofs use these
lists and do not unfold the operations again.
-/

namespace AAA

/-- A new object for an id was put into the heap.  Besides it, only the pools
changed. -/
def Built (sid : UInt32) (aaa after : AAA) : Prop :=
  ∃ session pools, session.timer = [] ∧ session.sessionId = sid ∧
    after = AAA.makeObject { aaa with conf := { aaa.conf with pools := pools } } session

/-- The same for an object that is accounted or not, and whose accounting has not
started. -/
def BuiltAs (accounted : Bool) (sid : UInt32) (aaa after : AAA) : Prop :=
  ∃ session pools, (session.timer = [] ∧ session.sessionId = sid) ∧
    (session.acct = accounted ∧ session.toStopAcct = false) ∧
    after = AAA.makeObject { aaa with conf := { aaa.conf with pools := pools } } session

theorem BuiltAs.built {accounted : Bool} {sid : UInt32} {aaa after : AAA}
    (construction : BuiltAs accounted sid aaa after) : Built sid aaa after := by
  rcases construction with ⟨session, pools, ⟨idle, isId⟩, _, made⟩
  exact ⟨session, pools, idle, isId, made⟩

theorem takeAddress_pools {aaa : AAA} {name : Bytes} {taken : (UInt32 × Bool) × AAA}
    (took : aaa.takeAddress name = some taken) :
    ∃ pools, taken.2 = { aaa with conf := { aaa.conf with pools := pools } } := by
  unfold takeAddress at took
  split at took
  · exact ⟨aaa.conf.pools, congrArg Prod.snd (Option.some.inj took).symm⟩
  · rcases Option.map_eq_some_iff.mp took with ⟨allocated, _, equal⟩
    exact ⟨_, congrArg Prod.snd equal.symm⟩

theorem builtAs_constructNone {aaa after : AAA} {ifindex sid : UInt32} {user templateName : Bytes}
    (made : aaa.constructNone ifindex sid user templateName = some after) :
    BuiltAs false sid aaa after := by
  rcases Option.map_eq_some_iff.mp made with ⟨taken, took, equal⟩
  rcases takeAddress_pools took with ⟨pools, rest⟩
  rw [rest] at equal
  exact ⟨_, pools, ⟨rfl, rfl⟩, ⟨rfl, rfl⟩, equal.symm⟩

theorem built_constructNone {aaa after : AAA} {ifindex sid : UInt32} {user templateName : Bytes}
    (made : aaa.constructNone ifindex sid user templateName = some after) : Built sid aaa after :=
  (builtAs_constructNone made).built

theorem builtAs_constructRadius {aaa after : AAA} {ifindex sid : UInt32} {user templateName : Bytes}
    {response : RadiusResponse}
    (made : aaa.constructRadius ifindex sid user templateName response = some after) :
    BuiltAs true sid aaa after := by
  rcases Option.map_eq_some_iff.mp made with ⟨taken, took, equal⟩
  have rest : ∃ pools, taken.2 = { aaa with conf := { aaa.conf with pools := pools } } := by
    generalize (if response.framedPool = [] then _ else response.framedPool) = pool at took
    split at took
    · exact takeAddress_pools took
    · exact ⟨aaa.conf.pools, congrArg Prod.snd (Option.some.inj took).symm⟩
  rcases rest with ⟨pools, rest⟩
  rw [rest] at equal
  exact ⟨_, pools, ⟨rfl, rfl⟩, ⟨rfl, rfl⟩, equal.symm⟩

/-- A free id is not in use and is not the value that stands for no session. -/
theorem firstFreeId_spec {aaa : AAA} {sid : UInt32} (search : aaa.firstFreeId = some sid) :
    sid ∉ aaa.sessions ∧ sid ≠ uint32Max := by
  rcases Option.map_eq_some_iff.mp search with ⟨id, found, equal⟩
  have spec := firstFrom_spec found
  have small : id < 4294967295 := by
    have bound := spec.2.2
    unfold firstFreeId.uint32Count at bound
    omega
  rw [← equal]
  refine ⟨by simpa using spec.1, ?_⟩
  intro same
  have value := congrArg UInt32.toNat same
  rw [UInt32.toNat_ofNat_of_lt' (by unfold UInt32.size; omega)] at value
  have greatest : uint32Max.toNat = 4294967295 := by decide
  omega

/-- No id is free exactly when all that can be handed out are in use. -/
theorem firstFreeId_eq_none_iff {aaa : AAA} :
    aaa.firstFreeId = none ↔ forall sid, sid ≠ uint32Max -> sid ∈ aaa.sessions := by
  unfold firstFreeId firstFreeId.uint32Count
  rw [Option.map_eq_none_iff, firstFrom_eq_none_iff]
  constructor
  · intro used sid notLast
    have different : sid.toNat ≠ 4294967295 := by
      intro same
      exact notLast (UInt32.toNat_inj.mp same)
    have below := sid.toNat_lt
    have found := used sid.toNat (Nat.zero_le _) (by omega)
    rw [UInt32.ofNat_toNat] at found
    simpa using found
  · intro used number _ below
    have member := used (UInt32.ofNat number) ?_
    · simpa using member
    · intro same
      have value := congrArg UInt32.toNat same
      rw [UInt32.toNat_ofNat_of_lt' (by unfold UInt32.size; omega)] at value
      have greatest : uint32Max.toNat = 4294967295 := by decide
      omega

/-- `startSessionNone` fails without an effect, or enters a new session. -/
theorem startSessionNone_cases {aaa : AAA} {inputs : AAAInputs} {user : Bytes}
    {out : AAA × Except String UInt32} (started : aaa.startSessionNone inputs user = some out) :
    (∃ text, out = (aaa, .error text)) ∨
      ∃ sid made, aaa.firstFreeId = some sid ∧ Built sid aaa made ∧
        out = (made.enter sid aaa.objects.length, .ok sid) := by
  unfold startSessionNone at started
  split at started
  · exact .inl ⟨_, (Option.some.inj started).symm⟩
  · split at started
    · exact .inl ⟨_, (Option.some.inj started).symm⟩
    · rename_i sid free
      rcases Option.map_eq_some_iff.mp started with ⟨made, construction, equal⟩
      exact .inr ⟨sid, made, free, built_constructNone construction, equal.symm⟩

/-- How the loop over the methods goes from one state to another, with the
callback calls on the way: sessions are made, and at the end a server is asked
or nothing happens. -/
inductive Started (inputs : AAAInputs) (user : Bytes) (credential : Credential)
    (encap : Encapsulation) (callback : AAACallback) : AAA -> AAA -> List CallbackCall -> Prop
  | idle (aaa : AAA) : Started inputs user credential encap callback aaa aaa []
  | asked (aaa : AAA) : Started inputs user credential encap callback aaa
      (aaa.startSessionRadius inputs user credential encap callback) []
  | made {aaa made after : AAA} {sid : UInt32} {calls : List CallbackCall} :
      aaa.firstFreeId = some sid -> Built sid aaa made ->
      Started inputs user credential encap callback (made.enter sid aaa.objects.length) after calls ->
      Started inputs user credential encap callback aaa after
        ({ callback := callback, sid := sid, err := none } :: calls)

theorem started_of_startByMethods {inputs : AAAInputs} {user : Bytes} {credential : Credential}
    {encap : Encapsulation} {callback : AAACallback} {methods : List AAAMethod} {aaa : AAA}
    {out : AAA × List CallbackCall}
    (started : startByMethods inputs user credential encap callback methods aaa = some out) :
    Started inputs user credential encap callback aaa out.1 out.2 := by
  induction methods generalizing aaa out with
  | nil =>
      rw [← Option.some.inj started]
      exact .idle aaa
  | cons method rest inductionHypothesis =>
      cases method with
      | none =>
          rcases Option.bind_eq_some_iff.mp started with ⟨first, attempted, remaining⟩
          rcases Option.map_eq_some_iff.mp remaining with ⟨later, continued, equal⟩
          have onwards := inductionHypothesis continued
          rcases startSessionNone_cases attempted with ⟨text, failed⟩ | ⟨sid, made, free, built, entered⟩
          · rw [failed] at equal onwards
            rw [← equal]
            exact onwards
          · rw [entered] at equal onwards
            rw [← equal]
            exact .made free built onwards
      | radius =>
          rw [← Option.some.inj started]
          exact .asked aaa
      | «local» => exact inductionHypothesis started

/-- What asking a server and entering a session of NONE keep is kept by the loop
over the methods. -/
theorem startByMethods_induction {holds : AAA -> Prop} {inputs : AAAInputs} {user : Bytes}
    {credential : Credential} {encap : Encapsulation} {callback : AAACallback}
    {methods : List AAAMethod} {aaa : AAA} {out : AAA × List CallbackCall}
    (asked : forall aaa auth, holds aaa -> holds { aaa with auth := auth })
    (entered : forall aaa sid templateName made, holds aaa -> aaa.firstFreeId = some sid ->
      aaa.constructNone inputs.ifindex sid user templateName = some made ->
        holds (made.enter sid aaa.objects.length))
    (start : holds aaa)
    (started : startByMethods inputs user credential encap callback methods aaa = some out) :
    holds out.1 := by
  induction methods generalizing aaa out with
  | nil =>
      rw [← Option.some.inj started]
      exact start
  | cons method rest inductionHypothesis =>
      cases method with
      | radius =>
          rw [← Option.some.inj started]
          exact asked aaa _ start
      | «local» => exact inductionHypothesis start started
      | none =>
          rcases Option.bind_eq_some_iff.mp started with ⟨first, attempted, remaining⟩
          rcases Option.map_eq_some_iff.mp remaining with ⟨later, continued, equal⟩
          have same : out.1 = later.1 := by
            rw [← equal]
            split <;> rfl
          have first_holds : holds first.1 := by
            unfold startSessionNone at attempted
            split at attempted
            · rw [← Option.some.inj attempted]
              exact start
            · split at attempted
              · rw [← Option.some.inj attempted]
                exact start
              · rename_i sid free
                rcases Option.map_eq_some_iff.mp attempted with ⟨made, construction, is⟩
                rw [← is]
                exact entered aaa sid _ made start free construction
          rw [same]
          exact inductionHypothesis first_holds continued

/-- `processRadiusAnswer` finds no free id, or constructs, enters and starts a new
session from what the answer says. -/
theorem processRadiusAnswer_constructs {aaa : AAA} {inputs : AAAInputs} {handler : AuthHandler}
    {code : UInt8} {attributes : Bytes} {out : AAA × List CallbackCall}
    (processed : aaa.processRadiusAnswer inputs handler code attributes = some out) :
    (aaa.firstFreeId = none ∧ out = (aaa, noAcceptCalls handler.callback code ++
      [{ callback := handler.callback, sid := 0, err := some "No space for new sessions" }])) ∨
    ∃ sid made response, aaa.firstFreeId = some sid ∧
      RadiusResponse.deserialize aaa.dict { bytes := attributes, behind := inputs.behind }
        inputs.vendor = some response ∧
      aaa.constructRadius inputs.ifindex sid handler.user aaa.conf.localTemplate response =
        some made ∧
      out = ((made.enter sid aaa.objects.length).start aaa.objects.length,
        noAcceptCalls handler.callback code ++
          [{ callback := handler.callback, sid := sid, err := none }]) := by
  rcases Option.bind_eq_some_iff.mp processed with ⟨response, parsed, answered⟩
  dsimp only at answered
  cases search : aaa.firstFreeId with
  | none =>
      rw [search] at answered
      exact .inl ⟨rfl, (Option.some.inj answered).symm⟩
  | some sid =>
      rw [search] at answered
      dsimp only at answered
      split at answered
      · cases answered
      · rcases Option.map_eq_some_iff.mp answered with ⟨made, construction, equal⟩
        exact .inr ⟨sid, made, response, rfl, parsed, construction, equal.symm⟩

/-- `processRadiusAnswer` finds no free id, or enters and starts a new session.
Both happen whatever the code of the answer is. -/
theorem processRadiusAnswer_cases {aaa : AAA} {inputs : AAAInputs} {handler : AuthHandler}
    {code : UInt8} {attributes : Bytes} {out : AAA × List CallbackCall}
    (processed : aaa.processRadiusAnswer inputs handler code attributes = some out) :
    (aaa.firstFreeId = none ∧ out = (aaa, noAcceptCalls handler.callback code ++
      [{ callback := handler.callback, sid := 0, err := some "No space for new sessions" }])) ∨
    ∃ sid made, aaa.firstFreeId = some sid ∧ BuiltAs true sid aaa made ∧
      out = ((made.enter sid aaa.objects.length).start aaa.objects.length,
        noAcceptCalls handler.callback code ++
          [{ callback := handler.callback, sid := sid, err := none }]) := by
  rcases processRadiusAnswer_constructs processed with
    full | ⟨sid, made, _, free, _, construction, equal⟩
  · exact .inl full
  · exact .inr ⟨sid, made, free, builtAs_constructRadius construction, equal⟩

/-- A datagram at the authentication client is discarded, or it is an answer
that is processed for one of the outstanding requests. -/
theorem authDatagram_cases {aaa : AAA} {inputs : AAAInputs} {datagram : Bytes}
    {out : AAA × List CallbackCall} (received : aaa.authDatagram inputs datagram = some out) :
    ∃ client filled answer, aaa.auth = some client ∧
      client.onRcv aaa.md5 inputs.behind datagram = some (filled, answer) ∧
      (answer = none ∧ out = ({ aaa with auth := some filled }, []) ∨
        ∃ given processed, answer = some given ∧
          AAA.processRadiusAnswer inputs given.handler given.code given.attributes
            { aaa with auth := some filled } = some processed ∧
          out = ({ processed.1 with auth := processed.1.auth.map (AuthClient.cancelTimer given.id) },
            processed.2)) := by
  rcases Option.bind_eq_some_iff.mp received with ⟨client, present, handled⟩
  rcases Option.bind_eq_some_iff.mp handled with ⟨⟨filled, answer⟩, filling, finished⟩
  refine ⟨client, filled, answer, present, filling, ?_⟩
  cases answer with
  | none => exact .inl ⟨rfl, (Option.some.inj finished).symm⟩
  | some given =>
      rcases Option.map_eq_some_iff.mp finished with ⟨processed, answered, equal⟩
      exact .inr ⟨given, processed, rfl, answered, equal.symm⟩

/-- The end of an authentication request erases it and calls back at most once,
with an error. -/
theorem authTimer_cases {aaa : AAA} {id : UInt8} {out : AAA × List CallbackCall}
    (fired : aaa.authTimer id = some out) :
    ∃ client entry, aaa.auth = some client ∧ client.callbacks.lookup id = some entry ∧
      out.1 = { aaa with auth := some (client.eraseEntry id) } ∧
      (out.2 = [] ∨ out.2 = processRadiusError entry.handler "Timeout for this radius request") := by
  rcases Option.bind_eq_some_iff.mp fired with ⟨client, present, handled⟩
  rcases Option.bind_eq_some_iff.mp handled with ⟨entry, found, finished⟩
  refine ⟨client, entry, present, found, ?_⟩
  dsimp only at finished
  split at finished
  · cases finished
  · rw [← Option.some.inj finished]
    exact ⟨rfl, .inl rfl⟩
  · rw [← Option.some.inj finished]
    exact ⟨rfl, .inr rfl⟩

/-- A datagram at the accounting client is discarded, or it is an answer for one
of the outstanding requests. -/
theorem acctDatagram_cases {aaa after : AAA} {inputs : AAAInputs} {datagram : Bytes}
    (received : aaa.acctDatagram inputs datagram = some after) :
    ∃ client filled answer, aaa.acct = some client ∧
      client.onRcv aaa.md5 inputs.behind datagram = some (filled, answer) ∧
      (answer = none ∧ after = { aaa with acct := some filled } ∨
        ∃ given, answer = some given ∧
          after = (AAA.acctAnswer { aaa with
            acct := some (filled.cancelTimer given.id) } given.handler)) := by
  rcases Option.bind_eq_some_iff.mp received with ⟨client, present, handled⟩
  rcases Option.bind_eq_some_iff.mp handled with ⟨⟨filled, answer⟩, filling, finished⟩
  refine ⟨client, filled, answer, present, filling, ?_⟩
  cases answer with
  | none => exact .inl ⟨rfl, (Option.some.inj finished).symm⟩
  | some given =>
      rcases Option.map_eq_some_iff.mp finished with ⟨_, _, equal⟩
      refine .inr ⟨given, rfl, ?_⟩
      rw [← equal]
      unfold acctAnswer
      split <;> rfl

/-- The end of an accounting request erases it and gives up its session. -/
theorem acctTimer_cases {aaa after : AAA} {id : UInt8} (fired : aaa.acctTimer id = some after) :
    ∃ client entry, aaa.acct = some client ∧ client.callbacks.lookup id = some entry ∧
      after = AAA.collect { aaa with acct := some (client.eraseEntry id) } entry.handler.session := by
  rcases Option.bind_eq_some_iff.mp fired with ⟨client, present, handled⟩
  rcases Option.bind_eq_some_iff.mp handled with ⟨entry, found, finished⟩
  refine ⟨client, entry, present, found, ?_⟩
  split at finished
  · cases finished
  · exact (Option.some.inj finished).symm

/-- A handler of an interim wait runs for an expired or for an aborted wait. -/
theorem interimTimer_cases {aaa after : AAA} {counters : Table UInt32 VPPIfaceCounters}
    {ref index : Nat} (fired : aaa.interimTimer counters ref index = some after) :
    ∃ session, aaa.objects.deref ref = some session ∧
      (session.timer[index]? = some .expired ∧
          after = AAA.collect ((aaa.updateObject ref (onTimer (fun timer => timer.eraseIdx index))).onInterim
            counters ref) ref ∨
        session.timer[index]? = some .aborted ∧
          after = AAA.collect (aaa.updateObject ref (onTimer (fun timer => timer.eraseIdx index)))
            ref) := by
  rcases Option.bind_eq_some_iff.mp fired with ⟨session, present, finished⟩
  refine ⟨session, present, ?_⟩
  dsimp only at finished
  split at finished
  · rename_i expired
    exact .inl ⟨expired, (Option.some.inj finished).symm⟩
  · rename_i aborted
    exact .inr ⟨aborted, (Option.some.inj finished).symm⟩
  · cases finished

/-- The step of a handler of a RADIUS request that timed out or was answered. -/
theorem step_authTimer {now after : AAA} {id : UInt8} (taken : step now (.authTimer id) = some after) :
    ∃ auth, after = { now with auth := auth } := by
  rcases Option.map_eq_some_iff.mp taken with ⟨out, fired, equal⟩
  rcases authTimer_cases fired with ⟨client, _, _, _, erased, _⟩
  exact ⟨_, equal.symm.trans erased⟩

/-- Only a configuration without used addresses is loaded. -/
theorem step_reload {now after : AAA} {conf : AAAConf} {templates : Table Bytes PPPOELocalTemplate}
    (taken : step now (.reload conf templates) = some after) :
    conf.Decoded ∧ after = now.reload conf templates := by
  rw [step] at taken
  split at taken
  · rename_i decoded
    exact ⟨decoded, (Option.some.inj taken).symm⟩
  · cases taken

/-! ## Bookkeeping -/

/-- A change of what a session has of accounting, its interface and its timer. -/
def Minor (change : AAASession -> AAASession) : Prop :=
  forall session, ∃ toStopAcct ifindex timer,
    change session = { session with toStopAcct := toStopAcct, ifindex := ifindex, timer := timer }

/-- A relation between states that accounting stays in: minor changes of objects and
requests to the accounting server. -/
structure Bookkeeping (relation : AAA -> AAA -> Prop) : Prop where
  refl : forall aaa, relation aaa aaa
  trans : forall {first second third}, relation first second -> relation second third ->
    relation first third
  object : forall aaa ref change, Minor change -> relation aaa (aaa.updateObject ref change)
  request : forall aaa request handler, relation aaa (aaa.acctRequest request handler)

namespace Bookkeeping

variable {relation : AAA -> AAA -> Prop} (keeps : Bookkeeping relation) (aaa : AAA)
  (counters : Table UInt32 VPPIfaceCounters) (ref : Nat)

include keeps

theorem onTimer (change : Timer -> Timer) :
    relation aaa (aaa.updateObject ref (AAA.onTimer change)) :=
  keeps.object aaa ref _ (fun session => ⟨session.toStopAcct, session.ifindex, change session.timer, rfl⟩)

theorem start : relation aaa (aaa.start ref) := by
  unfold AAA.start
  split
  · exact keeps.refl aaa
  · split
    · exact keeps.request aaa _ _
    · exact keeps.refl aaa

theorem stop : relation aaa (aaa.stop counters ref) := by
  unfold AAA.stop
  split
  · exact keeps.refl aaa
  · dsimp only
    split
    · exact keeps.trans (keeps.onTimer aaa ref _) (keeps.request _ _ _)
    · exact keeps.onTimer aaa ref _

theorem onInterim : relation aaa (aaa.onInterim counters ref) := by
  unfold AAA.onInterim
  split
  · exact keeps.refl aaa
  · split
    · exact keeps.trans (keeps.onTimer aaa ref _) (keeps.request _ _ _)
    · exact keeps.refl aaa

theorem acctAnswer (handler : AcctHandler) : relation aaa (aaa.acctAnswer handler) := by
  unfold AAA.acctAnswer
  split
  · exact keeps.object aaa _ _ (fun session => ⟨true, session.ifindex, session.timer.restart, rfl⟩)
  · exact keeps.onTimer aaa _ _
  · exact keeps.onTimer aaa _ _

theorem mapIfaceToSession (sid ifindex : UInt32) :
    relation aaa (aaa.mapIfaceToSession sid ifindex) := by
  unfold AAA.mapIfaceToSession
  split
  · exact keeps.refl aaa
  · exact keeps.object aaa _ _ (fun session => ⟨session.toStopAcct, ifindex, session.timer, rfl⟩)

end Bookkeeping

end AAA

end Pppcpd
