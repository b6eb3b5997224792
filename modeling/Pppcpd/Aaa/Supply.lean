import Pppcpd.Aaa.Grants
import Pppcpd.Aaa.Leases
import Pppcpd.Aaa.PoolCalls
import Pppcpd.Ppp.Numbered

namespace Pppcpd

open Foundation

/-!
# Attempts that find no address

A pool answers zero when it has no address, and the constructors of AAA sessions
store what they get.  They cannot fail, so an attempt fails only where no id is
free.  The law of an attempt asks that a success comes with an address, and that
an attempt without one ends in an error and leaves nothing behind.
-/

/-- What a callback call reports. -/
def CallbackCall.result (call : CallbackCall) : Except String UInt32 :=
  match call.err with
  | none => .ok call.sid
  | some text => .error text

/-- The range has a free address, and the first one is not zero. -/
def FramedPool.Supplies (pool : FramedPool) : Prop :=
  ¬ pool.Full ∧ (pool.startIp = 0 -> 0 ∈ pool.ips)

instance (pool : FramedPool) : Decidable pool.Supplies := inferInstanceAs (Decidable (_ ∧ _))

namespace AAA

/-- One authentication: by NONE, or by an answer of a server. -/
inductive Attempt
  | none (inputs : AAAInputs) (user : Bytes)
  | answer (inputs : AAAInputs) (handler : AuthHandler) (code : UInt8) (attributes : Bytes)

/-- The pool that a session of NONE takes its address from. -/
def nonePool (aaa : AAA) : Bytes :=
  ((aaa.templates.lookup aaa.conf.localTemplate).getD {}).framedPool

/-- The pool that a session takes its address from when the answer names none. -/
def radiusPool (aaa : AAA) (response : RadiusResponse) : Bytes :=
  let name := if response.pppoeTemplate = [] then aaa.conf.localTemplate else response.pppoeTemplate
  if response.framedPool = [] then ((aaa.templates.lookup name).getD {}).framedPool
  else response.framedPool

/-- The pool is missing or exhausted. -/
def Lacks (aaa : AAA) (pool : Bytes) : Prop := ∀ found ∈ aaa.conf.pools.lookup pool, found.Full

/-- The pool is there and has an address that is not zero. -/
def Provides (aaa : AAA) (pool : Bytes) : Prop :=
  ∃ found ∈ aaa.conf.pools.lookup pool, found.Supplies

/-- There is no address for the session of an answer. -/
def RadiusLacks (aaa : AAA) (response : RadiusResponse) : Prop :=
  response.framedIp = 0 ∧ (aaa.radiusPool response ≠ [] -> aaa.Lacks (aaa.radiusPool response))

/-- The answer or a pool gives the session an address. -/
def RadiusProvides (aaa : AAA) (response : RadiusResponse) : Prop :=
  response.framedIp = 0 -> aaa.radiusPool response ≠ [] ∧ aaa.Provides (aaa.radiusPool response)

/-- What an attempt must have done: a session that is reported has an address,
and when there was none, only errors are reported and no session is kept. -/
structure Honest (lacking : Prop) (before after : AAA) (reported : List (Except String UInt32)) :
    Prop where
  success : forall sid, .ok sid ∈ reported ->
    ∃ record, after.getSession sid = some record ∧ record.address ≠ 0
  failure : lacking -> reported ≠ [] ∧ (forall sid, .ok sid ∉ reported) ∧
    after.sessions = before.sessions ∧ after.objects = before.objects

/-- The law of an attempt.  An answer is asked for it when it can be read and
there is an accounting server, which its sessions are made with. -/
def Lawful (aaa : AAA) : Attempt -> Prop
  | .none inputs user => ∃ out, aaa.startSessionNone inputs user = some out ∧
      Honest (aaa.Lacks aaa.nonePool) aaa out.1 [out.2]
  | .answer inputs handler code attributes =>
      ∀ response ∈ RadiusResponse.deserialize aaa.dict
          { bytes := attributes, behind := inputs.behind } inputs.vendor, aaa.acct ≠ none ->
        ∃ out, aaa.processRadiusAnswer inputs handler code attributes = some out ∧
          Honest (aaa.RadiusLacks response) aaa out.1 (out.2.map CallbackCall.result)

/-- An attempt that makes a session has an address for it. -/
def Provided (aaa : AAA) : Attempt -> Prop
  | .none _ _ => aaa.NoneUsable -> aaa.Provides aaa.nonePool
  | .answer inputs _ _ attributes =>
      ∀ response ∈ RadiusResponse.deserialize aaa.dict
          { bytes := attributes, behind := inputs.behind } inputs.vendor,
        aaa.acct ≠ none -> aaa.firstFreeId ≠ none -> aaa.RadiusProvides response

/-- The attempts of the loop over the methods, each with the state it finds. -/
def noneAttempts (inputs : AAAInputs) (user : Bytes) : List AAAMethod -> AAA -> List (AAA × Attempt)
  | [], _ => []
  | .none :: rest, aaa => (aaa, .none inputs user) ::
      ((aaa.startSessionNone inputs user).map (fun started =>
        noneAttempts inputs user rest started.1)).getD []
  | .radius :: _, _ => []
  | .local :: rest, aaa => noneAttempts inputs user rest aaa

/-- The attempts that an event makes. -/
def attempts (aaa : AAA) : AAAEvent -> List (AAA × Attempt)
  | .startSession inputs user _ _ _ => noneAttempts inputs user aaa.conf.method aaa
  | .authDatagram inputs datagram =>
      ((aaa.auth.bind (fun client => client.onRcv aaa.md5 inputs.behind datagram)).bind (fun received =>
        received.2.map (fun answer => [({ aaa with auth := some received.1 },
          Attempt.answer inputs answer.handler answer.code answer.attributes)]))).getD []
  | _ => []

/-- Every attempt of the event has an address for its session. -/
def Supplied (aaa : AAA) (event : AAAEvent) : Prop :=
  ∀ attempt ∈ aaa.attempts event, attempt.1.Provided attempt.2

/-- Every session in the table has an address. -/
def Addressed (aaa : AAA) : Prop :=
  forall sid record, aaa.getSession sid = some record -> record.address ≠ 0

instance (aaa : AAA) (pool : Bytes) : Decidable (aaa.Provides pool) :=
  inferInstanceAs (Decidable (∃ found ∈ aaa.conf.pools.lookup pool, _))

instance (aaa : AAA) (response : RadiusResponse) : Decidable (aaa.RadiusProvides response) :=
  inferInstanceAs (Decidable (_ -> _))

instance (aaa : AAA) (attempt : Attempt) : Decidable (aaa.Provided attempt) := by
  induction attempt using Attempt.casesOn <;> unfold Provided <;> infer_instance

instance (aaa : AAA) (event : AAAEvent) : Decidable (aaa.Supplied event) :=
  inferInstanceAs (Decidable (∀ attempt ∈ aaa.attempts event, _))

/-! ## What the constructors get -/

/-- A pool with room gives an address. -/
theorem takeAddress_of_room {aaa : AAA} {pool : Bytes} {found : FramedPool}
    (isPool : aaa.conf.pools.lookup pool = some found) (room : ¬ found.Full) :
    ∃ taken, aaa.takeAddress pool = some taken ∧
      (taken.1.1 = 0 ↔ found.startIp = 0 ∧ 0 ∉ found.ips) := by
  rcases FramedPool.allocateIp_of_room room with ⟨address, allocated, zero⟩
  unfold takeAddress
  rw [isPool]
  dsimp only
  rw [allocated]
  exact ⟨_, rfl, zero⟩

/-- An address that is not zero came from a pool with room, or the range of the
pool is exhausted. -/
theorem provides_iff (aaa : AAA) (pool : Bytes) : aaa.Provides pool ↔
    ¬ aaa.Lacks pool ∧ ∃ taken, aaa.takeAddress pool = some taken ∧ taken.1.1 ≠ 0 := by
  constructor
  · rintro ⟨found, isPool, room, zero⟩
    rcases takeAddress_of_room isPool room with ⟨taken, took, isZero⟩
    exact ⟨fun lacks => room (lacks found isPool), taken, took,
      fun nothing => (isZero.mp nothing).2 (zero (isZero.mp nothing).1)⟩
  · rintro ⟨some_room, taken, took, nonzero⟩
    unfold Lacks at some_room
    push Not at some_room
    rcases some_room with ⟨found, isPool, room⟩
    rcases takeAddress_of_room isPool room with ⟨other, also, isZero⟩
    rw [took] at also
    rw [← Option.some.inj also] at isZero
    refine ⟨found, isPool, room, fun atZero => ?_⟩
    by_contra free
    exact nonzero (isZero.mpr ⟨atZero, free⟩)

/-- The new session of NONE has the address that was taken. -/
theorem constructNone_newest {aaa made : AAA} {ifindex sid : UInt32} {user : Bytes}
    (construction : aaa.constructNone ifindex sid user aaa.conf.localTemplate = some made) :
    ∃ taken, aaa.takeAddress aaa.nonePool = some taken ∧ Newest aaa made taken.1.1 := by
  rcases Option.map_eq_some_iff.mp construction with ⟨taken, took, _⟩
  have gives : aaa.NoneGives taken.1.1 :=
    fun other also => by rw [Option.some.inj (also.symm.trans took)]
  exact ⟨taken, took, constructNone_gives gives construction⟩

/-- The new session of an answer has the given address, or the one that was
taken, or none. -/
theorem constructRadius_newest {aaa made : AAA} {ifindex sid : UInt32} {user : Bytes}
    {response : RadiusResponse}
    (construction : aaa.constructRadius ifindex sid user aaa.conf.localTemplate response =
      some made) :
    ∃ address, Newest aaa made address ∧
      (address ≠ 0 ∧ ¬ aaa.RadiusLacks response ↔ aaa.RadiusProvides response) := by
  rcases Option.map_eq_some_iff.mp construction with ⟨taken, took, _⟩
  have gives : aaa.RadiusGives response taken.1.1 ∧
      (taken.1.1 ≠ 0 ∧ ¬ aaa.RadiusLacks response ↔ aaa.RadiusProvides response) := by
    by_cases fromPool : response.framedIp = 0 ∧ aaa.radiusPool response ≠ []
    · have own : aaa.takeAddress (aaa.radiusPool response) = some taken :=
        (if_pos fromPool).symm.trans took
      refine ⟨(if_pos fromPool).mpr (fun other also => ?_), ?_⟩
      · rw [Option.some.inj (also.symm.trans own)]
      · have both := aaa.provides_iff (aaa.radiusPool response)
        constructor
        · rintro ⟨nonzero, some_pool⟩ _
          refine ⟨fromPool.2, both.mpr ⟨fun lacks => some_pool ⟨fromPool.1, fun _ => lacks⟩, ?_⟩⟩
          exact ⟨taken, own, nonzero⟩
        · intro provides
          rcases both.mp (provides fromPool.1).2 with ⟨some_room, other, also, nonzero⟩
          rw [Option.some.inj (also.symm.trans own)] at nonzero
          exact ⟨nonzero, fun lacks => some_room (lacks.2 fromPool.2)⟩
    · have own : some ((response.framedIp, false), aaa) = some taken :=
        (if_neg fromPool).symm.trans took
      rw [← Option.some.inj own]
      refine ⟨(if_neg fromPool).mpr rfl, ?_⟩
      constructor
      · rintro ⟨nonzero, _⟩ zero
        exact absurd zero nonzero
      · intro provides
        have nonzero : response.framedIp ≠ 0 := fun zero => fromPool ⟨zero, (provides zero).1⟩
        exact ⟨nonzero, fun lacks => nonzero lacks.1⟩
  exact ⟨taken.1.1, constructRadius_gives gives.1 construction, gives.2⟩

/-- A session with an address can be constructed. -/
theorem exists_constructNone {aaa : AAA} (provides : aaa.Provides aaa.nonePool) (ifindex sid : UInt32)
    (user : Bytes) : ∃ made, aaa.constructNone ifindex sid user aaa.conf.localTemplate = some made := by
  rcases ((aaa.provides_iff _).mp provides).2 with ⟨taken, took, _⟩
  exact ⟨_, Option.map_eq_some_iff.mpr ⟨taken, took, rfl⟩⟩

theorem exists_constructRadius {aaa : AAA} {response : RadiusResponse}
    (provides : aaa.RadiusProvides response) (ifindex sid : UInt32) (user : Bytes) :
    ∃ made, aaa.constructRadius ifindex sid user aaa.conf.localTemplate response = some made := by
  by_cases fromPool : response.framedIp = 0 ∧ aaa.radiusPool response ≠ []
  · rcases ((aaa.provides_iff _).mp (provides fromPool.1).2).2 with ⟨taken, took, _⟩
    exact ⟨_, Option.map_eq_some_iff.mpr ⟨taken, (if_pos fromPool).trans took, rfl⟩⟩
  · exact ⟨_, Option.map_eq_some_iff.mpr ⟨_, if_neg fromPool, rfl⟩⟩

/-! ## One attempt -/

section

variable {lacking : Prop} {before after : AAA} {errors : List (Except String UInt32)}

/-- Errors alone are honest when nothing was changed. -/
theorem honest_of_errors (some_error : errors ≠ []) (failed : forall sid, .ok sid ∉ errors) :
    Honest lacking before before errors :=
  ⟨fun sid member => absurd member (failed sid), fun _ => ⟨some_error, failed, rfl, rfl⟩⟩

/-- A success is honest exactly when its session has an address that was there to
be had. -/
theorem honest_iff_of_success {sid : UInt32} {record : AAASession}
    (failed : forall sid, .ok sid ∉ errors) (announced : after.getSession sid = some record) :
    Honest lacking before after (errors ++ [.ok sid]) ↔ record.address ≠ 0 ∧ ¬ lacking := by
  have last : .ok sid ∈ errors ++ [.ok sid] := List.mem_append_right _ (List.mem_singleton.mpr rfl)
  constructor
  · intro honest
    rcases honest.success sid last with ⟨other, also, nonzero⟩
    rw [Option.some.inj (also.symm.trans announced)] at nonzero
    exact ⟨nonzero, fun lacks => (honest.failure lacks).2.1 sid last⟩
  · rintro ⟨nonzero, some_address⟩
    refine ⟨fun other member => ?_, fun lacks => absurd lacks some_address⟩
    rcases List.mem_append.mp member with error | same
    · exact absurd error (failed other)
    · have equal : other = sid := Except.ok.inj (List.mem_singleton.mp same)
      rw [equal]
      exact ⟨record, announced, nonzero⟩

end

/-- An attempt of NONE obeys the law exactly when there is an address for its
session. -/
theorem lawful_none_iff (aaa : AAA) (inputs : AAAInputs) (user : Bytes) :
    aaa.Lawful (.none inputs user) ↔ aaa.Provided (.none inputs user) := by
  by_cases usable : aaa.NoneUsable
  · rcases @startSessionNone_of_usable inputs user aaa usable with ⟨sid, free, starts⟩
    -- What is said of the session that the constructor makes.
    have entered : forall made,
        aaa.constructNone inputs.ifindex sid user aaa.conf.localTemplate = some made ->
          (Honest (aaa.Lacks aaa.nonePool) aaa (made.enter sid aaa.objects.length) [.ok sid] ↔
            aaa.Provides aaa.nonePool) := by
      intro made construction
      rcases constructNone_newest construction with ⟨taken, took, newest⟩
      have announced := @getSession_newest aaa (made.enter sid aaa.objects.length) sid taken.1.1
        (AList.lookup_insert _) newest
      rcases announced with ⟨record, found, address⟩
      have iff := @honest_iff_of_success (aaa.Lacks aaa.nonePool) aaa _ [] sid record
        (fun _ => List.not_mem_nil) found
      rw [List.nil_append] at iff
      rw [iff, provides_iff, address]
      constructor
      · rintro ⟨nonzero, some_room⟩
        exact ⟨some_room, taken, took, nonzero⟩
      · rintro ⟨some_room, other, also, nonzero⟩
        rw [Option.some.inj (also.symm.trans took)] at nonzero
        exact ⟨nonzero, some_room⟩
    constructor
    · rintro ⟨out, started, honest⟩ _
      rw [starts] at started
      rcases Option.map_eq_some_iff.mp started with ⟨made, construction, equal⟩
      rw [← equal] at honest
      exact (entered made construction).mp honest
    · intro provided
      rcases exists_constructNone (provided usable) inputs.ifindex sid user with ⟨made, construction⟩
      refine ⟨(made.enter sid aaa.objects.length, .ok sid), ?_,
        (entered made construction).mpr (provided usable)⟩
      rw [starts, construction]
      rfl
  · rcases @startSessionNone_of_not_usable inputs user aaa usable with ⟨text, failed⟩
    refine ⟨fun _ other => absurd other usable, fun _ => ⟨_, failed, ?_⟩⟩
    exact honest_of_errors (List.cons_ne_nil _ _) (by simp)

theorem result_noAcceptCalls (callback : AAACallback) (code : UInt8) (sid : UInt32) :
    .ok sid ∉ (noAcceptCalls callback code).map CallbackCall.result := by
  unfold noAcceptCalls
  split <;> simp [CallbackCall.result]

/-- An answer that can be read, with a server for the accounting. -/
theorem processRadiusAnswer_eq {aaa : AAA} {inputs : AAAInputs} {handler : AuthHandler} {code : UInt8}
    {attributes : Bytes} {response : RadiusResponse}
    (parsed : RadiusResponse.deserialize aaa.dict { bytes := attributes, behind := inputs.behind }
      inputs.vendor = some response) (server : aaa.acct ≠ none) :
    aaa.processRadiusAnswer inputs handler code attributes =
      match aaa.firstFreeId with
      | none => some (aaa, noAcceptCalls handler.callback code ++
          [{ callback := handler.callback, sid := 0, err := some "No space for new sessions" }])
      | some sid =>
          (aaa.constructRadius inputs.ifindex sid handler.user aaa.conf.localTemplate response).map
            (fun made => ((made.enter sid aaa.objects.length).start aaa.objects.length,
              noAcceptCalls handler.callback code ++
                [{ callback := handler.callback, sid := sid, err := none }])) := by
  unfold processRadiusAnswer
  rw [parsed, Option.bind_some]
  cases aaa.firstFreeId with
  | none => rfl
  | some sid =>
      cases isServer : aaa.acct with
      | none => exact absurd isServer server
      | some client => rfl

/-- An answer obeys the law exactly when there is an address for its session. -/
theorem lawful_answer_iff (aaa : AAA) (inputs : AAAInputs) (handler : AuthHandler) (code : UInt8)
    (attributes : Bytes) : aaa.Lawful (.answer inputs handler code attributes) ↔
      aaa.Provided (.answer inputs handler code attributes) := by
  refine forall₂_congr (fun response parsed => forall_congr' (fun server => ?_))
  have answers := @processRadiusAnswer_eq aaa inputs handler code attributes response parsed server
  cases free : aaa.firstFreeId with
  | none =>
      rw [free] at answers
      refine ⟨fun _ other => absurd rfl other, fun _ => ⟨_, answers, honest_of_errors ?_ ?_⟩⟩
      · simp
      · intro sid member
        rw [List.map_append] at member
        rcases List.mem_append.mp member with refused | last
        · exact result_noAcceptCalls _ _ _ refused
        · simp [CallbackCall.result] at last
  | some sid =>
      rw [free] at answers
      dsimp only at answers
      -- What is said of the session that the constructor makes.
      have entered : forall made,
          aaa.constructRadius inputs.ifindex sid handler.user aaa.conf.localTemplate response =
            some made ->
          (Honest (aaa.RadiusLacks response) aaa
              ((made.enter sid aaa.objects.length).start aaa.objects.length)
              (List.map CallbackCall.result (noAcceptCalls handler.callback code ++
                [{ callback := handler.callback, sid := sid, err := none }])) ↔
            aaa.RadiusProvides response) := by
        intro made construction
        rcases constructRadius_newest construction with ⟨address, newest, iff⟩
        have started : Newest aaa ((made.enter sid aaa.objects.length).start aaa.objects.length)
            address := by
          unfold Newest
          rw [start_objects]
          exact newest
        have isEntry : ((made.enter sid aaa.objects.length).start aaa.objects.length).sessions.lookup
            sid = some aaa.objects.length := by
          rw [start_sessions]
          exact AList.lookup_insert _
        rcases getSession_newest isEntry started with ⟨record, found, same⟩
        rw [List.map_append, ← iff, ← same]
        exact honest_iff_of_success (result_noAcceptCalls handler.callback code) found
      constructor
      · rintro ⟨out, answered, honest⟩ _
        rw [answers] at answered
        rcases Option.map_eq_some_iff.mp answered with ⟨made, construction, equal⟩
        rw [← equal] at honest
        exact (entered made construction).mp honest
      · intro provided
        have provides := provided (Option.some_ne_none sid)
        rcases exists_constructRadius provides inputs.ifindex sid handler.user with
          ⟨made, construction⟩
        refine ⟨((made.enter sid aaa.objects.length).start aaa.objects.length,
          noAcceptCalls handler.callback code ++
            [{ callback := handler.callback, sid := sid, err := none }]), ?_,
          (entered made construction).mpr provides⟩
        rw [answers, construction]
        rfl

theorem lawful_iff_provided (aaa : AAA) (attempt : Attempt) :
    aaa.Lawful attempt ↔ aaa.Provided attempt := by
  cases attempt with
  | none inputs user => exact lawful_none_iff aaa inputs user
  | answer inputs handler code attributes =>
      exact lawful_answer_iff aaa inputs handler code attributes

/-! ## All attempts of a run -/

/-- A new session with an address joins the others. -/
theorem Addressed.enter {aaa made : AAA} (addressed : aaa.Addressed) (entered : Entered aaa)
    {sid : UInt32} (construction : Built sid aaa made)
    (own : ∃ record, (made.enter sid aaa.objects.length).getSession sid = some record ∧
      record.address ≠ 0) : (made.enter sid aaa.objects.length).Addressed := by
  intro other record found
  by_cases same : other = sid
  · rcases own with ⟨newest, isNewest, nonzero⟩
    rw [same, isNewest] at found
    exact Option.some.inj found ▸ nonzero
  · rcases construction with ⟨session, pools, _, _, isMade⟩
    rcases Option.bind_eq_some_iff.mp found with ⟨ref, isEntry, isRecord⟩
    rw [isMade] at isEntry isRecord
    have was : aaa.sessions.lookup other = some ref := by
      rw [← isEntry]
      exact (AList.lookup_insert_ne same).symm
    have before : aaa.objects.deref ref = some record := by
      rw [← isRecord]
      exact (Heap.deref_make_of_lt _ (entered.made other ref was)).symm
    exact addressed other record (Option.bind_eq_some_iff.mpr ⟨ref, was, before⟩)

/-- What adds no session and changes no address keeps them. -/
theorem Addressed.of_settled {before after : AAA} (addressed : before.Addressed)
    (entered : Entered before)
    (fewer : forall sid ref, after.sessions.lookup sid = some ref ->
      before.sessions.lookup sid = some ref)
    (settled : forall ref session, before.objects.deref ref = some session ->
      ∃ later, after.objects.deref ref = some later ∧ lease later = lease session) :
    after.Addressed := by
  intro sid record found
  rcases Option.bind_eq_some_iff.mp found with ⟨ref, isEntry, isRecord⟩
  have was := fewer sid ref isEntry
  rcases Option.map_eq_some_iff.mp (entered.named sid ref was) with ⟨old, present, _⟩
  rcases settled ref old present with ⟨later, still, same⟩
  have equal : later.address = old.address := (Prod.mk.inj same).1
  rw [Option.some.inj (isRecord.symm.trans still), equal]
  exact addressed sid old (Option.bind_eq_some_iff.mpr ⟨ref, was, present⟩)

theorem sessions_stopAllSessions (aaa : AAA) (counters : Table UInt32 VPPIfaceCounters) :
    (aaa.stopAllSessions counters).sessions = ∅ := by
  have collected : forall (refs : List Nat) (aaa : AAA),
      (refs.foldl (fun aaa ref => aaa.collect ref) aaa).sessions = aaa.sessions := by
    intro refs
    induction refs with
    | nil => exact fun _ => rfl
    | cons ref rest inductionHypothesis =>
        intro aaa
        exact (inductionHypothesis (aaa.collect ref)).trans (collect_sessions aaa ref)
  exact collected _ _

theorem Addressed.start {aaa : AAA} (addressed : aaa.Addressed) (ref : Nat) :
    (aaa.start ref).Addressed := by
  unfold Addressed getSession
  rw [start_sessions, start_objects]
  exact addressed

/-- The loop over the methods, when every attempt of it has an address. -/
theorem Addressed.startByMethods {aaa : AAA} {inputs : AAAInputs} {user : Bytes}
    {credential : Credential} {encap : Encapsulation} {callback : AAACallback}
    {methods : List AAAMethod} {out : AAA × List CallbackCall} (addressed : aaa.Addressed)
    (entered : Entered aaa)
    (supplied : ∀ attempt ∈ noneAttempts inputs user methods aaa, attempt.1.Provided attempt.2)
    (started : startByMethods inputs user credential encap callback methods aaa = some out) :
    out.1.Addressed := by
  induction methods generalizing aaa out with
  | nil =>
      rw [← Option.some.inj started]
      exact addressed
  | cons method rest inductionHypothesis =>
      cases method with
      | radius =>
          rw [← Option.some.inj started]
          exact addressed
      | «local» => exact inductionHypothesis addressed entered supplied started
      | none =>
          rcases Option.bind_eq_some_iff.mp started with ⟨first, attempted, remaining⟩
          rcases Option.map_eq_some_iff.mp remaining with ⟨later, continued, equal⟩
          have same : out.1 = later.1 := by
            rw [← equal]
            split <;> rfl
          unfold noneAttempts at supplied
          rw [attempted, Option.map_some, Option.getD_some] at supplied
          rcases List.forall_mem_cons.mp supplied with ⟨provided, others⟩
          rcases (lawful_none_iff aaa inputs user).mpr provided with ⟨done, also, honest⟩
          rw [Option.some.inj (also.symm.trans attempted)] at honest
          rw [same]
          rcases startSessionNone_cases attempted with ⟨text, failed⟩ | ⟨sid, made, free, built, entry⟩
          · rw [failed] at continued others
            exact inductionHypothesis addressed entered others continued
          · rw [entry] at continued others honest
            have own := honest.success sid (List.mem_singleton.mpr rfl)
            exact inductionHypothesis (addressed.enter entered built own)
              ((Grows.enter free built).entered entered) others continued

/-- An answer, when there is an address for its session. -/
theorem Addressed.processRadiusAnswer {aaa : AAA} {inputs : AAAInputs} {handler : AuthHandler}
    {code : UInt8} {attributes : Bytes} {out : AAA × List CallbackCall} (addressed : aaa.Addressed)
    (entered : Entered aaa) (provided : aaa.Provided (.answer inputs handler code attributes))
    (processed : aaa.processRadiusAnswer inputs handler code attributes = some out) :
    out.1.Addressed := by
  rcases processRadiusAnswer_constructs processed with
    ⟨_, full⟩ | ⟨sid, made, response, free, parsed, construction, equal⟩
  · rw [full]
    exact addressed
  · rcases answerReturns_iff.mp ⟨out, processed⟩ with ⟨_, _, ready⟩
    have lawful := (lawful_answer_iff aaa inputs handler code attributes).mpr provided
    rcases lawful response parsed (ready sid free).1 with ⟨done, also, honest⟩
    rw [Option.some.inj (also.symm.trans processed), equal] at honest
    rcases honest.success sid (List.mem_map_of_mem (List.mem_append_right _
      (List.mem_singleton.mpr rfl))) with ⟨record, found, nonzero⟩
    unfold getSession at found
    rw [start_sessions, start_objects] at found
    rw [equal]
    exact (addressed.enter entered (builtAs_constructRadius construction).built
      ⟨record, found, nonzero⟩).start _

/-- Every event keeps the addresses, when its attempts have one each. -/
theorem addressed_step {now after : AAA} {event : AAAEvent} (entered : Entered now)
    (addressed : now.Addressed) (supplied : now.Supplied event)
    (taken : step now event = some after) : after.Addressed := by
  have same : (forall sid ref, after.sessions.lookup sid = some ref ->
      now.sessions.lookup sid = some ref) -> now.KeepsApart event -> after.Addressed :=
    fun fewer apart => addressed.of_settled entered fewer (carries_step apart taken).settled
  have quiet : event.Quiet -> now.KeepsApart event -> after.Addressed :=
    fun isQuiet => same (fun sid ref found => sessions_of_quiet isQuiet taken ▸ found)
  cases event with
  | startSession inputs user credential encap callback =>
      rcases Option.map_eq_some_iff.mp taken with ⟨out, started, equal⟩
      rw [← equal]
      exact addressed.startByMethods entered supplied started
  | stopSession counters sid =>
      refine same (fun other ref found => ?_) trivial
      rw [← Option.some.inj taken, lookup_stopSession] at found
      split at found
      · cases found
      · exact found
  | stopAllSessions counters =>
      refine same (fun other ref found => ?_) trivial
      have empty : after.sessions = ∅ := by
        rw [← Option.some.inj taken]
        exact sessions_stopAllSessions now counters
      rw [empty] at found
      cases found
  | mapIfaceToSession sid ifindex =>
      refine same (fun other ref found => ?_) trivial
      rw [← Option.some.inj taken, mapIfaceToSession_sessions] at found
      exact found
  | authDatagram inputs datagram =>
      rcases Option.map_eq_some_iff.mp taken with ⟨out, received, equal⟩
      rcases authDatagram_cases received with ⟨client, filled, answer, present, filling,
        ⟨_, discarded⟩ | ⟨given, processed, isAnswer, answered, finished⟩⟩
      · rw [← equal, discarded]
        exact addressed
      · have provided : Provided { now with auth := some filled }
            (.answer inputs given.handler given.code given.attributes) := by
          refine supplied ({ now with auth := some filled }, _) ?_
          unfold attempts
          dsimp only
          rw [present, Option.bind_some, filling, Option.bind_some, isAnswer]
          exact List.mem_singleton.mpr rfl
        have waiting : Addressed { now with auth := some filled } := addressed
        have kept := waiting.processRadiusAnswer ((Grows.auth now (some filled)).entered entered)
          provided answered
        rw [← equal, finished]
        exact kept
  | authTimer id =>
      refine same (fun sid ref found => ?_) trivial
      rcases step_authTimer taken with ⟨auth, erased⟩
      rw [erased] at found
      exact found
  | reload conf templates =>
      rw [(step_reload taken).2]
      exact addressed
  | _ => exact quiet trivial trivial

/-- In a run whose attempts all have an address for their session, the next
attempt obeys the law exactly when it has one too, and IPCP neither acknowledges
nor sends back 0.0.0.0. -/
theorem addressed_of_run {start aaa : AAA} {past : List (AAA × AAAEvent)}
    (unused : start.sessions = ∅) (run : Run step Supplied start past aaa) :
    (forall event, ∀ attempt ∈ aaa.attempts event,
      attempt.1.Lawful attempt.2 ↔ attempt.1.Provided attempt.2) ∧
    aaa.Addressed ∧
    forall hwaddr session packet, IPCPFsm.NeverZero hwaddr aaa.getSession session packet := by
  have both : Entered aaa ∧ aaa.Addressed := by
    refine @Run.invariant _ _ step Supplied start aaa past (fun aaa => Entered aaa ∧ aaa.Addressed)
      ⟨entered_empty unused, fun sid record found => ?_⟩ ?_ run
    · unfold getSession at found
      rw [unused] at found
      cases found
    · intro now event after here supplied taken
      exact ⟨(grows_step taken).entered here.1, addressed_step here.1 here.2 supplied taken⟩
  refine ⟨fun event attempt _ => lawful_iff_provided attempt.1 attempt.2, both.2, ?_⟩
  intro hwaddr session packet
  exact IPCPFsm.neverZero_of_address hwaddr packet (both.2 session.aaaSessionId)

/-- A user of NONE comes. -/
def arrival : AAAEvent :=
  .startSession {} [] (.pap []) ⟨⟨2, 0, 0, 0, 1, 1⟩, ⟨2, 0, 0, 0, 0, 1⟩, 0, 0, ethPppoeSession⟩ ⟨0, .pap⟩

/-- Two users come, and the first one goes. -/
def twoUsers : List AAAEvent := [arrival, arrival, .stopSession ∅ 0]

/-- AAA with the second user. -/
def secondUser : AAA := after step (sample [.none]) twoUsers (by decide +kernel)

theorem addressed_at_secondUser : ∃ past, Run step Supplied (sample [.none]) past secondUser ∧
    secondUser.Addressed := by
  rcases run_after step Supplied (sample [.none]) twoUsers (by decide +kernel) (by decide +kernel) with
    ⟨past, run⟩
  exact ⟨past, run, (addressed_of_run rfl run).2.1⟩

/-- AAA with a pool of one address. -/
def narrow : AAA := { sample [.none] with conf := { sampleConf [.none] with
  pools := (∅ : Table Bytes FramedPool).insert (ascii "p") { startIp := 10, stopIp := 10 } } }

/-- The only address is given. -/
def narrowFull : AAA := after step narrow [arrival] (by decide +kernel)

/-- One more user came. -/
def narrowOver : AAA := after step narrow [arrival, arrival] (by decide +kernel)

/-- The PPPoE session of that user, and a request that asks for 0.0.0.0. -/
def unnumbered : PPPOESession :=
  { IPCPFsm.access.setState (.construct ⟨0, 0, 0, 0⟩
      ⟨⟨2, 0, 0, 0, 1, 1⟩, ⟨2, 0, 0, 0, 0, 1⟩, 0, 0, ethPppoeSession⟩ 1) .reqSent with aaaSessionId := 1 }

def zeroRequest : Packet where
  bytes := pppoeSessionHdr 1 12 PPPProto.ipcp ++ pppHdr LCPCode.confReq 1 10 ++
    opt4B IPCPOption.ipAddress 0
  behind := fun _ => 0

/-- The second user of a pool of one address is let in with 0.0.0.0, which IPCP
acknowledges. -/
theorem second_user_gets_zero :
    Reachable step narrow narrowFull ∧ ¬ narrowFull.Lawful (.none {} []) ∧
      (narrowOver.getSession 1).map AAASession.address = some 0 ∧
      ¬ IPCPFsm.NeverZero ⟨2, 0, 0, 0, 0, 1⟩ narrowOver.getSession unnumbered zeroRequest := by
  have address : (narrowOver.getSession 1).map AAASession.address = some 0 := by decide +kernel
  refine ⟨reachable_after _ _ _ _, ?_, address, ?_⟩
  · rintro ⟨out, started, honest⟩
    have reported : (narrowFull.startSessionNone {} []).map
        (fun out => (out.2.toOption, (out.1.getSession 1).map AAASession.address)) =
          some (some 1, some 0) := by decide +kernel
    rw [started] at reported
    have parts := Prod.mk.inj (Option.some.inj reported)
    cases result : out.2 with
    | error text =>
        rw [result] at parts
        cases parts.1
    | ok sid =>
        rw [result] at parts honest
        have isOne : sid = 1 := Option.some.inj parts.1
        rcases honest.success sid (List.mem_singleton.mpr rfl) with ⟨record, found, nonzero⟩
        rw [← isOne, found] at parts
        exact nonzero (Option.some.inj parts.2)
  · intro never
    have acknowledged : (IPCPFsm.checkConf ⟨2, 0, 0, 0, 0, 1⟩ narrowOver.getSession unnumbered
        zeroRequest).map FsmOut.sent =
          some [unnumbered.frame ⟨2, 0, 0, 0, 0, 1⟩ (zeroRequest.bytes.set 8 LCPCode.confAck)] := by
      decide +kernel
    rcases Option.map_eq_some_iff.mp acknowledged with ⟨out, checked, sent⟩
    rcases never out checked _ (by rw [sent]; exact List.mem_singleton.mpr rfl) with
      ⟨⟨bytes, behind⟩, same, numbered⟩
    have isReply : zeroRequest.bytes.set 8 LCPCode.confAck = bytes := List.append_cancel_left same
    rw [← isReply] at numbered
    have value : Packet.optionVal32 ⟨zeroRequest.bytes.set 8 LCPCode.confAck, behind⟩ 0 = 0 := by
      unfold Packet.optionVal32
      rw [Buffer.field32_eq _ behind (fun _ => 0) (by decide)]
      decide +kernel
    exact numbered (.inl rfl) [0] (by decide +kernel) 0 (List.mem_singleton.mpr rfl) rfl value

end AAA

end Pppcpd
