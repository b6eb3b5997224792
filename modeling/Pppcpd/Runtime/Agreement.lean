import Pppcpd.Aaa.Grants
import Pppcpd.Runtime.Settings

namespace Pppcpd

open Foundation

/-!
# Agreement on the address of a session

The address of a session is copied from AAA, acknowledged to the peer and given
to VPP at three different times.  Between them a second success of the
authentication can put another AAA session under the PPPoE session, which IPCP
does not look at until the next Configure-Request.  The three agree as long as
such a success brings the address that was acknowledged before.
-/

open IPCPFsm (Acked settings)

namespace Runtime

/-- IPCP answers for the session object with a Configure-Ack of a kind. -/
def SendsAck (ref : Nat) (kind : Packet -> Prop) (now : Runtime) (event : Event) : Prop :=
  ∃ packet session out, IpcpPacket now event packet ref session out ∧
    IPCPFsm.Acks (now.ensureStarted event.env ref).hwaddr session packet out ∧
      kind (packet.setCode LCPCode.confAck)

/-- IPCP has sent a Configure-Ack for the session object, and the IP-Address
option of the last one has the value, when there is one. -/
def LastAckHas (ref : Nat) (address : UInt32) (past : List (Runtime × Event)) (now : Runtime) : Prop :=
  Latest (fun _ _ => False) (SendsAck ref (fun _ => True))
    (SendsAck ref (fun ack => IPCPFsm.AddressIs ack address)) past now

/-- The AAA session that the session names has its address. -/
def Agrees (runtime : Runtime) (session : PPPOESession) : Prop :=
  ∃ record, runtime.aaa.getSession session.aaaSessionId = some record ∧
    record.address = session.address

/-- While IPCP is in Opened, a session has the address of its AAA session and of
the last Configure-Ack. -/
def AddressesAgree (past : List (Runtime × Event)) (now : Runtime) : Prop :=
  forall ref session, now.Up ref session ->
    now.Agrees session ∧ LastAckHas ref session.address past now

/-! ## The condition on a step -/

/-- A request that NONE answers, and an answer of the server that makes an AAA
session, bring a session whose options were acknowledged the address that it has
already. -/
def BringsSame (runtime : Runtime) (event : Event) : Prop :=
  match event.input with
  | .session encap packet =>
      ∀ ref ∈ runtime.store.activeSessions.lookup (frameKey encap packet),
        ∀ session ∈ runtime.sessions.deref ref, forall protocol : AuthProtocol,
          IsAuthRequest packet protocol -> protocol.started session = false -> Acked session ->
            runtime.aaa.NoneUsable -> .none ∈ AAA.beforeRadius runtime.aaa.conf.method ->
              runtime.aaa.NoneGives session.address ∧
                ((AAA.beforeRadius runtime.aaa.conf.method).count .none = 1 ∨ runtime.aaa.LastId)
  | .authDatagram datagram =>
      ∀ client ∈ runtime.aaa.auth,
        ∀ received ∈ client.onRcv runtime.aaa.md5 event.env.aaa.behind datagram,
          ∀ answer ∈ received.2, runtime.aaa.firstFreeId ≠ none ->
            runtime.isActive answer.handler.callback.session = true ->
              ∀ session ∈ runtime.sessions.deref answer.handler.callback.session, Acked session ->
                ∀ response ∈ RadiusResponse.deserialize runtime.aaa.dict
                    { bytes := answer.attributes, behind := event.env.aaa.behind }
                    event.env.aaa.vendor,
                  runtime.aaa.RadiusGives response session.address
  | _ => True

instance (runtime : Runtime) (event : Event) : Decidable (runtime.BringsSame event) := by
  match event with
  | ⟨env, input⟩ =>
    induction input using Input.casesOn <;> unfold BringsSame <;> infer_instance

/-! ## The AAA session of a session -/

/-- Every active session whose options were acknowledged has the address of its
AAA session. -/
def Agreeing (runtime : Runtime) : Prop :=
  forall ref session, runtime.store.activeSessions.Holds ref ->
    runtime.sessions.deref ref = some session -> Acked session -> runtime.Agrees session

theorem Agrees.of_retains {before after : Runtime} {old session : PPPOESession}
    (agrees : before.Agrees old) (retains : AAA.Retains before.aaa after.aaa)
    (number : session.aaaSessionId = old.aaaSessionId) (address : session.address = old.address) :
    after.Agrees session := by
  rcases agrees with ⟨record, found, equal⟩
  rcases retains _ record found with ⟨later, still, same⟩
  refine ⟨later, number ▸ still, ?_⟩
  rw [address, ← equal]
  exact (Prod.mk.inj same).1

theorem Agreeing.of_kept {before after : Runtime} (agreeing : Agreeing before)
    (kept : Kept tenancy before after) (retains : AAA.Retains before.aaa after.aaa) :
    Agreeing after := by
  intro ref session active present acked
  rw [kept.active] at active
  rcases kept.symm.session present with ⟨old, was, same⟩
  have number := Prod.mk.inj (Prod.mk.inj same).2
  have rest := Prod.mk.inj number.2
  have wasAcked := (decide_eq_decide.mp rest.2).mpr acked
  exact (agreeing ref old active was wasAcked).of_retains retains number.1.symm
    (Prod.mk.inj rest.1).1.symm

/-- An IPCP packet leaves the address, or brings that of the AAA session. -/
theorem Agreeing.apply {runtime : Runtime} (agreeing : Agreeing runtime) {ref : Nat}
    {session : PPPOESession} {packet : Packet} {out : FsmOut}
    (active : runtime.store.activeSessions.Holds ref)
    (present : runtime.sessions.deref ref = some session)
    (received : runtime.ipcpFsm.receive session packet = some out) :
    Agreeing (runtime.apply ref out) := by
  have number : out.session.aaaSessionId = session.aaaSessionId :=
    congrArg Prod.snd (ipcpBlind_reference _ _ ((ipcpFsm_leaves runtime).receive received))
  intro other object otherActive found acked
  by_cases here : other = ref
  · rw [here, deref_apply_self present] at found
    rw [← Option.some.inj found] at acked ⊢
    cases IPCPFsm.adoption_of_receive received with
    | kept settled wasAcked =>
        have retains : AAA.Retains runtime.aaa (runtime.apply ref out).aaa :=
          fun _ record isRecord => ⟨record, isRecord, rfl⟩
        exact (agreeing ref session active present (wasAcked acked).1).of_retains retains number
          (Prod.mk.inj settled).1
    | adopted isRecord settled _ => exact ⟨_, number ▸ isRecord, (Prod.mk.inj settled).1.symm⟩
    | accepted isRecord settled _ _ _ => exact ⟨_, number ▸ isRecord, (Prod.mk.inj settled).1.symm⟩
  · rw [deref_apply_of_ne runtime here] at found
    exact agreeing other object otherActive found acked

/-- The end of a session stops no AAA session but its own. -/
theorem Agreeing.deallocateSession {runtime : Runtime} (agreeing : Agreeing runtime)
    (references : ReferenceInvariant runtime) (sid : UInt16) :
    Agreeing (runtime.deallocateSession sid).1 := by
  intro ref session active present acked
  rw [deref_deallocateSession] at present
  have was := (holds_deallocateSession references.tables sid ref).mp active
  rcases agreeing ref session was.1 present acked with ⟨record, found, equal⟩
  rcases Option.bind_eq_some_iff.mp found with ⟨entry, isEntry, there⟩
  have spared := references.spares sid was.1 present was.2 isEntry
  exact ⟨record, Option.bind_eq_some_iff.mpr ⟨entry, spared.1, spared.2.1.trans there⟩, equal⟩

/-- The session objects after an allocation, with those that were there before. -/
theorem older_of_allocateSession {runtime : Runtime} (tables : StoreInvariant runtime) {env : Env}
    {encap : Encapsulation} {result : Runtime × UInt16 × Option String}
    (allocated : runtime.allocateSession env encap = some result) {ref : Nat}
    {session : PPPOESession} (active : result.1.store.activeSessions.Holds ref)
    (present : result.1.sessions.deref ref = some session) (acked : Acked session) :
    runtime.store.activeSessions.Holds ref ∧ runtime.sessions.deref ref = some session := by
  rcases allocateSession_cases tables env encap allocated with full | ⟨id, free, _, entered⟩
  · rw [full] at active present
    exact ⟨active, present⟩
  · have fresh := key_not_mem_of_free tables encap free
    rw [entered] at active present
    dsimp only at active present
    rw [Heap.deref_make] at present
    split at present
    · rw [← Option.some.inj present] at acked
      rcases acked with state | state <;> cases state
    · rename_i old
      exact ⟨((Table.holds_insert_of_not_mem fresh _ ref).mp active).resolve_left old, present⟩

/-! ## Calls of callbacks -/

/-- Successes that bring the address keep the agreement. -/
theorem Agreeing.withCalls {runtime : Runtime} (agreeing : Agreeing runtime)
    {outcome : AAA × List CallbackCall} (retains : AAA.Retains runtime.aaa outcome.1)
    (brings : forall call, call ∈ outcome.2 -> call.err = none -> forall session,
      runtime.store.activeSessions.Holds call.callback.session ->
        runtime.sessions.deref call.callback.session = some session -> Acked session ->
          ∃ record, outcome.1.getSession call.sid = some record ∧ record.address = session.address) :
    Agreeing (runtime.withCalls outcome) := by
  have kept := kept_withCalls authBlind_holding runtime outcome
  have aaa : (runtime.withCalls outcome).aaa = outcome.1 :=
    aaa_callbacks (runtime.withAaa outcome.1) outcome.2
  intro ref session active present acked
  rw [kept.active] at active
  rcases kept.symm.session present with ⟨old, was, same⟩
  have rest := Prod.mk.inj (Prod.mk.inj same).2
  have address : session.address = old.address := (Prod.mk.inj rest.1).1.symm
  have wasAcked := (decide_eq_decide.mp rest.2).mpr acked
  rcases deref_callbacks present with ⟨earlier, found, number | ⟨call, member, here, success, number⟩⟩
  · have equal : earlier = old := Option.some.inj (found.symm.trans was)
    rw [equal] at number
    exact (agreeing ref old active was wasAcked).of_retains (aaa ▸ retains) number address
  · rw [here] at active was
    rcases brings call member success old active was wasAcked with ⟨record, isRecord, equal⟩
    refine ⟨record, ?_, equal.trans address.symm⟩
    rw [aaa, number]
    exact isRecord

/-- What the calls of an event announce has the address that was acknowledged. -/
theorem BringsSame.brings {now before : Runtime} {event : Event} {aaaEvent : AAAEvent}
    {outcome : AAA × List CallbackCall} (same : now.BringsSame event)
    (plain : Plain tenancy now before) (causes : Causes now event aaaEvent)
    (served : before.aaa.serve aaaEvent = some outcome)
    {call : CallbackCall} (member : call ∈ outcome.2) (success : call.err = none) {session : PPPOESession}
    (active : before.store.activeSessions.Holds call.callback.session)
    (present : before.sessions.deref call.callback.session = some session) (acked : Acked session) :
    ∃ record, outcome.1.getSession call.sid = some record ∧ record.address = session.address := by
  rcases plain.kept.symm.session present with ⟨old, was, equal⟩
  have rest := Prod.mk.inj (Prod.mk.inj (Prod.mk.inj equal).2).2
  have address : old.address = session.address := (Prod.mk.inj rest.1).1
  have wasAcked := (decide_eq_decide.mp rest.2).mpr acked
  rw [plain.kept.active] at active
  rw [plain.aaa] at served
  rw [← address]
  unfold BringsSame at same
  cases causes with
  | @request encap packet ref asker protocol username credential input isRequest found isAsker fresh =>
      have started : now.aaa.startSession event.env.aaa username credential asker.encap
          ⟨ref, protocol⟩ = some outcome := served
      have own : call.callback.session = ref := by
        rw [((AAA.started_of_startByMethods started).successes.1 call member).1]
      rw [own, isAsker] at was
      have isOld := Option.some.inj was
      rw [input] at same
      rw [← isOld] at wasAcked ⊢
      exact AAA.startSession_gives
        (fun usable isNone => same ref found asker isAsker protocol isRequest fresh wasAcked usable isNone)
        started call member
  | authDatagram input =>
      rw [input] at same
      rcases AAA.authDatagram_cases served with
        ⟨client, filled, answer, isClient, filling, ⟨_, discarded⟩ |
          ⟨given, processed, isAnswer, answered, finished⟩⟩
      · rw [discarded] at member
        cases member
      · rw [finished] at member ⊢
        have own := AAA.callback_of_processRadiusAnswer answered member
        rw [own] at active was
        have gives : now.aaa.firstFreeId ≠ none -> ∀ response ∈ RadiusResponse.deserialize
            now.aaa.dict { bytes := given.attributes, behind := event.env.aaa.behind }
              event.env.aaa.vendor, now.aaa.RadiusGives response old.address :=
          fun free => same client isClient (filled, answer) filling given isAnswer free
            ((isActive_iff now _).mpr active) old was wasAcked
        exact @AAA.processRadiusAnswer_gives { now.aaa with auth := some filled } _ _ _ _ _ _
          (fun free response parsed => (gives free response parsed).withAuth (some filled))
          answered call member success
  | authTimer input =>
      rcases AAA.authTimer_cases served with ⟨_, _, _, _, _, silent | errors⟩
      · rw [silent] at member
        cases member
      · rw [errors] at member
        rw [List.mem_singleton.mp member] at success
        cases success
  | reload =>
      rw [AAA.calls_of_quiet (by trivial) served] at member
      cases member
  | timed quiet _ =>
      rw [AAA.calls_of_quiet quiet served] at member
      cases member

/-- The invariant goes through every move. -/
theorem moves_agreeing {now : Runtime} {event : Event} (same : now.BringsSame event) :
    Moves tenancy (fun _ _ => True) now event
      (fun runtime => ReferenceInvariant runtime ∧ Agreeing runtime) where
  plain := by
    rintro before after plain ⟨references, agreeing⟩
    exact ⟨(steady_of_plain plain).invariant references,
      agreeing.of_kept plain.kept (fun _ record found => ⟨record, plain.aaa ▸ found, rfl⟩)⟩
  allocates := by
    rintro before encap result _ allocated ⟨references, agreeing⟩
    refine ⟨references.allocateSession allocated, fun ref session active present acked => ?_⟩
    have older := older_of_allocateSession references.tables allocated active present acked
    rcases allocateSession_cases references.tables event.env encap allocated with full | ⟨_, _, _, entered⟩
    · rw [full]
      exact agreeing ref session older.1 older.2 acked
    · rw [entered]
      exact agreeing ref session older.1 older.2 acked
  ends := by
    rintro before sid _ _ ⟨references, agreeing⟩
    exact ⟨references.deallocateSession sid, agreeing.deallocateSession references sid⟩
  collects := by
    rintro before ref _ _ ⟨references, agreeing⟩
    refine ⟨(Steady.of_kept (kept_collect before ref) (collect_aaa before ref)).invariant references,
      agreeing.of_kept (kept_collect before ref) (fun _ record found => ⟨record, ?_, rfl⟩)⟩
    rw [collect_aaa]
    exact found
  calls := by
    rintro before aaaEvent outcome callback plain causes served announces ⟨references, agreeing⟩
    exact ⟨references.withCalls (AAA.grows_step (AAA.step_of_serve served)) announces,
      agreeing.withCalls announces.retains (fun _ member success _ active present acked =>
        same.brings plain causes served member success active present acked)⟩
  quiet := by
    rintro aaaEvent aaa _ isQuiet handled ⟨references, agreeing⟩
    exact ⟨(quiet_withAaa aaaEvent isQuiet handled).steady.invariant references,
      agreeing.of_kept (.of_same rfl rfl) (.of_quiet isQuiet handled)⟩
  answers := by
    rintro packet ref session out isPacket ⟨references, agreeing⟩
    exact ⟨(steady_apply isPacket.present isPacket.received).invariant references,
      agreeing.apply isPacket.active isPacket.present isPacket.received⟩
  configures := by
    rintro packet ref session out _ _ _ ⟨references, agreeing⟩
    have steady := steady_configured ((now.ensureStarted event.env ref).apply ref out) ref out.session
    exact ⟨steady.invariant references, agreeing.of_kept
      (kept_configured (fun _ _ => rfl) _ ref out.session) (Tracks.configured _ ref out.session).retains⟩

/-! ## The last Configure-Ack -/

theorem IpcpPacket.unique {now : Runtime} {event : Event} {packet other : Packet} {ref : Nat}
    {session otherSession : PPPOESession} {out otherOut : FsmOut}
    (isPacket : IpcpPacket now event packet ref session out)
    (isOther : IpcpPacket now event other ref otherSession otherOut) :
    other = packet ∧ otherSession = session ∧ otherOut = out := by
  rcases isPacket.input with ⟨_, input, _⟩
  rcases isOther.input with ⟨_, otherInput, _⟩
  rw [input] at otherInput
  have same : packet = other := (Input.session.inj otherInput).2
  have object : session = otherSession :=
    Option.some.inj (isPacket.present.symm.trans isOther.present)
  have received := isOther.received
  rw [← same, ← object, isPacket.received] at received
  exact ⟨same.symm, object.symm, (Option.some.inj received).symm⟩

/-- An IPCP packet for the session object decides what becomes of its settings. -/
theorem tenancy_of_packet {now after : Runtime} {event : Event} {packet : Packet} {ref : Nat}
    {session later : PPPOESession} {out : FsmOut}
    (isPacket : IpcpPacket now event packet ref session out) (taken : step now event = some after)
    (present : after.sessions.deref ref = some later) : tenancy later = tenancy out.session := by
  have processed : (now.ensureStarted event.env ref).processIpcp ref packet = some after := by
    rcases isPacket.input with ⟨encap, input, found⟩
    rw [step, input] at taken
    rcases Option.map_eq_some_iff.mp taken with ⟨result, dispatched, equal⟩
    have protocol := isPacket.protocol
    rw [processPPP, found] at dispatched
    dsimp only at dispatched
    rw [dispatch, if_neg (by rw [protocol]; decide), if_neg (by rw [protocol]; decide),
      if_neg (by rw [protocol]; decide), if_pos protocol] at dispatched
    rcases Option.map_eq_some_iff.mp dispatched with ⟨_, ipcp, same⟩
    rw [← equal, ← same]
    exact ipcp
  have applied := deref_apply_self isPacket.present out
  rcases processIpcp_cases processed with ⟨same, _, there, received, outcome⟩
  rw [Option.some.inj (there.symm.trans isPacket.present), isPacket.received] at received
  rw [← Option.some.inj received] at outcome
  rcases outcome with ⟨_, _, configured⟩ | ⟨_, quiet⟩
  · have kept : Kept tenancy ((now.ensureStarted event.env ref).apply ref out) after := by
      rw [configured]
      exact kept_openDataPlane ⟨fun _ _ => rfl, fun _ _ => rfl⟩ _ ref out.session
    rcases kept.session applied with ⟨still, isStill, same⟩
    rw [Option.some.inj (present.symm.trans isStill)]
    exact same
  · rw [quiet, applied] at present
    rw [Option.some.inj present]

/-- A session that has acknowledged options had done so before, with the same
address. -/
def Remembers (now : Runtime) (ref : Nat) (runtime : Runtime) : Prop :=
  forall session, runtime.store.activeSessions.Holds ref ->
    runtime.sessions.deref ref = some session -> Acked session ->
      now.store.activeSessions.Holds ref ∧ ∃ old, now.sessions.deref ref = some old ∧
        Acked old ∧ old.address = session.address

theorem Remembers.of_kept {now before after : Runtime} {ref : Nat}
    (remembers : Remembers now ref before) (kept : Kept holding before after) :
    Remembers now ref after := by
  intro session active present acked
  rw [kept.active] at active
  rcases kept.symm.session present with ⟨old, was, same⟩
  have rest := Prod.mk.inj (Prod.mk.inj same).2
  rcases remembers old active was ((decide_eq_decide.mp rest.2).mpr acked) with
    ⟨wasActive, earlier, found, wasAcked, equal⟩
  exact ⟨wasActive, earlier, found, wasAcked, equal.trans (Prod.mk.inj rest.1).1⟩

/-- Without an IPCP packet for it the session keeps what was acknowledged. -/
theorem moves_remembers {now : Runtime} {event : Event} {ref : Nat} (tables : StoreInvariant now)
    (noPacket : forall packet session out, ¬ IpcpPacket now event packet ref session out) :
    Moves tenancy (fun _ _ => True) now event (Remembers now ref) where
  plain := fun _ _ plain here =>
    here.of_kept (plain.kept.map (fun tenancy => (tenancy.1, tenancy.2.2.1, tenancy.2.2.2)))
  allocates := by
    intro before encap result plain allocated here session active present acked
    have older := older_of_allocateSession ((plain.kept.map Prod.fst).invariant tables) allocated
      active present acked
    exact here session older.1 older.2 acked
  ends := by
    intro before sid plain _ here session active present acked
    rw [deref_deallocateSession] at present
    have keyed := (plain.kept.map Prod.fst).invariant tables
    exact here session ((holds_deallocateSession keyed sid ref).mp active).1 present acked
  collects := fun before other _ _ here => here.of_kept (kept_collect before other)
  calls := fun before _ outcome _ _ _ _ _ here =>
    here.of_kept (kept_withCalls authBlind_holding before outcome)
  quiet := fun _ _ _ _ _ here => here.of_kept (.of_same rfl rfl)
  answers := by
    intro packet other session out isPacket here object active present acked
    have apart : ref ≠ other := by
      intro same
      rw [← same] at isPacket
      exact noPacket packet session out isPacket
    rw [deref_apply_of_ne _ apart] at present
    exact here object active present acked
  configures := fun _ other session out _ _ _ here =>
    here.of_kept (kept_configured (fun _ _ => rfl) _ other out.session)

/-- Every active session whose options were acknowledged has the address of the
last Configure-Ack. -/
def AcksKept (past : List (Runtime × Event)) (now : Runtime) : Prop :=
  forall ref session, now.store.activeSessions.Holds ref -> now.sessions.deref ref = some session ->
    Acked session -> LastAckHas ref session.address past now

theorem acksKept_step {past : List (Runtime × Event)} {now after : Runtime} {event : Event}
    (references : ReferenceInvariant now) (agreeing : Agreeing now) (here : AcksKept past now)
    (taken : step now event = some after) : AcksKept ((now, event) :: past) after := by
  intro ref session active present acked
  by_cases packets : ∃ packet object out, IpcpPacket now event packet ref object out
  · rcases packets with ⟨packet, object, out, isPacket⟩
    have started := kept_ensureStarted sideBlind_tenancy.lcp now event.env ref
    rcases started.symm.session isPacket.present with ⟨old, was, wasSame⟩
    have wasActive : now.store.activeSessions.Holds ref := by
      rw [← started.active]
      exact isPacket.active
    have wasNamed := Prod.mk.inj (Prod.mk.inj wasSame).2
    have wasRest := Prod.mk.inj wasNamed.2
    have same := tenancy_of_packet isPacket taken present
    have rest := Prod.mk.inj (Prod.mk.inj (Prod.mk.inj same).2).2
    have ackedOut := (decide_eq_decide.mp rest.2).mp acked
    -- The last Configure-Ack stays the last one, and the address stays too.
    have earlier : out.session.address = old.address ->
        ¬ IPCPFsm.Acks (now.ensureStarted event.env ref).hwaddr object packet out ->
          Acked object -> LastAckHas ref session.address ((now, event) :: past) after := by
      intro address silent wasAcked
      have last := here ref old wasActive was ((decide_eq_decide.mp wasRest.2).mpr wasAcked)
      rw [(Prod.mk.inj rest.1).1, address]
      refine last.later id ?_
      rintro ⟨other, otherObject, otherOut, isOther, acks, _⟩
      rcases isPacket.unique isOther with ⟨samePacket, sameObject, sameOut⟩
      rw [samePacket, sameObject, sameOut] at acks
      exact silent acks
    cases IPCPFsm.adoption_of_receive isPacket.received with
    | kept settled kept =>
        refine earlier ?_ (kept ackedOut).2 (kept ackedOut).1
        rw [(Prod.mk.inj settled).1, (Prod.mk.inj wasRest.1).1]
    | @adopted record isRecord settled kept =>
        refine earlier ?_ (kept ackedOut).2 (kept ackedOut).1
        have oldAcked := (decide_eq_decide.mp wasRest.2).mpr (kept ackedOut).1
        rcases agreeing ref old wasActive was oldAcked with ⟨own, isOwn, equal⟩
        rw [aaa_ensureStarted, ← wasNamed.1, isOwn] at isRecord
        rw [(Prod.mk.inj settled).1, ← Option.some.inj isRecord]
        exact equal
    | accepted isRecord settled parsed agreed acks =>
        refine .here id ⟨packet, object, out, isPacket, acks, trivial⟩
          ⟨packet, object, out, isPacket, acks, ?_⟩
        rw [(Prod.mk.inj rest.1).1, (Prod.mk.inj settled).1]
        exact IPCPFsm.addressIs_of_agreed parsed agreed
  · have noPacket : forall packet object out, ¬ IpcpPacket now event packet ref object out :=
      fun packet object out isPacket => packets ⟨packet, object, out, isPacket⟩
    have remembers := (moves_remembers references.tables noPacket).step sideBlind_tenancy
      references.tables references.entered (endsOnly_always now event) taken
      (fun old wasActive was wasAcked => ⟨wasActive, old, was, wasAcked, rfl⟩)
    rcases remembers session active present acked with ⟨wasActive, old, was, wasAcked, equal⟩
    have last := here ref old wasActive was wasAcked
    rw [← equal]
    refine last.later id ?_
    rintro ⟨packet, object, out, isPacket, _⟩
    exact noPacket packet object out isPacket

/-! ## Runs -/

theorem agreement_of_run {start now : Runtime} {past : List (Runtime × Event)} (fresh : start.Fresh)
    (run : Run step BringsSame start past now) :
    ReferenceInvariant now ∧ Agreeing now ∧ AcksKept past now := by
  have inactive : forall ref, ¬ start.store.activeSessions.Holds ref := by
    rintro ref ⟨key, found⟩
    rw [fresh.store] at found
    cases found
  refine @Run.invariantPast _ _ step BringsSame start now past
    (fun past runtime => ReferenceInvariant runtime ∧ Agreeing runtime ∧ AcksKept past runtime)
    ⟨referenceInvariant_fresh fresh, fun ref _ active => absurd active (inactive ref),
      fun ref _ active => absurd active (inactive ref)⟩ ?_ run
  rintro past before event after ⟨references, agreeing, kept⟩ same taken
  have both := (moves_agreeing same).step sideBlind_tenancy references.tables references.entered
    (endsOnly_always before event) taken ⟨references, agreeing⟩
  exact ⟨both.1, both.2, acksKept_step references agreeing kept taken⟩

/-- In a run in which no acknowledged session is brought another address, the
addresses agree in every state. -/
theorem addressesAgree_of_run {start now : Runtime} {past : List (Runtime × Event)}
    (fresh : start.Fresh) (run : Run step BringsSame start past now) : AddressesAgree past now := by
  rcases agreement_of_run fresh run with ⟨_, agreeing, kept⟩
  intro ref session up
  exact ⟨agreeing ref session up.1 up.2.1 (.inr up.2.2),
    kept ref session up.1 up.2.1 (.inr up.2.2)⟩

/-- The session of a subscriber who is up has the address 10 everywhere. -/
theorem addressesAgree_at_established : ∃ past session,
    Run step BringsSame (sampleDaemon [.none] papPolicy) past established ∧
      established.Up 0 session ∧ session.address = 10 ∧ AddressesAgree past established := by
  have run : ∃ past, Run step BringsSame (sampleDaemon [.none] papPolicy) past established :=
    run_after _ _ _ _ _ (by decide +kernel)
  rcases run with ⟨past, run⟩
  have up : (established.sessions.deref 0).any (fun session =>
      decide (established.isActive 0 = true ∧ session.ipcp.state = .opened ∧ session.address = 10)) =
        true := by decide +kernel
  rcases (Option.any_eq_true _ _).mp up with ⟨session, present, facts⟩
  rcases of_decide_eq_true facts with ⟨active, opened, address⟩
  exact ⟨past, session, run, ⟨(isActive_iff established 0).mp active, present, opened⟩, address,
    addressesAgree_of_run (fresh_sampleDaemon _ _) run⟩

/-- A subscriber who is up by PAP sends a CHAP response, which NONE answers
too. -/
def chapAfterPap : List Event :=
  establish ++ [{ env := { aaa := AAA.sampleInputs }
                  input := .session (sampleLink 1) (sessionPacket 1 PPPProto.chap
                    (pppHdr CHAPCode.response 1 21 ++ List.replicate 17 0)) }]

def authenticatedTwice : Runtime :=
  Foundation.after step (sampleDaemon [.none] papPolicy) chapAfterPap (by decide +kernel)

/-- The session is left in Opened with the address of the first AAA session, and
names the second one. -/
theorem second_success_changes_address :
    ¬ forall (past : List (Runtime × Event)) (now : Runtime),
      Run step anyStep (sampleDaemon [.none] papPolicy) past now -> AddressesAgree past now := by
  intro claim
  have run : ∃ past, Run step anyStep (sampleDaemon [.none] papPolicy) past authenticatedTwice :=
    run_after _ _ _ _ _ (permitted_anyStep _ _ _)
  rcases run with ⟨past, run⟩
  have up : (authenticatedTwice.sessions.deref 0).any (fun session =>
      decide (authenticatedTwice.isActive 0 = true ∧ session.ipcp.state = .opened) &&
        (authenticatedTwice.aaa.getSession session.aaaSessionId).any (fun record =>
          decide (record.address ≠ session.address))) = true := by decide +kernel
  rcases (Option.any_eq_true _ _).mp up with ⟨session, present, facts⟩
  rcases Bool.and_eq_true_iff.mp facts with ⟨isUp, differs⟩
  rcases of_decide_eq_true isUp with ⟨active, opened⟩
  rcases (Option.any_eq_true _ _).mp differs with ⟨record, found, different⟩
  rcases (claim past authenticatedTwice run 0 session
    ⟨(isActive_iff authenticatedTwice 0).mp active, present, opened⟩).1 with ⟨own, isOwn, equal⟩
  rw [found] at isOwn
  rw [Option.some.inj isOwn] at different
  exact of_decide_eq_true different equal

end Runtime

end Pppcpd
