import Pppcpd.Ppp.Addressing
import Pppcpd.Runtime.References

namespace Pppcpd

open Foundation

/-!
# What a session packet can reach

`processPPP` works on the session that is registered under the full key of the
frame.  It reaches other sessions through nothing: the session ends by its id,
which is its own, and its AAA session stops by a number that no other session
names.  What it queues is for the link of the session.
-/

namespace Runtime

/-- A step that touches one session object, the AAA sessions among the given
ones, and the queue of session frames, with frames for one link. -/
structure Confined (ref : Nat) (encap : Encapsulation) (own : UInt32 -> Prop)
    (before after : Runtime) : Prop where
  objects : forall other, other ≠ ref ->
    after.sessions.deref other = before.sessions.deref other ∧
      after.sessions.isAlive other = before.sessions.isAlive other
  active : forall key, before.store.activeSessions.lookup key ≠ some ref ->
    after.store.activeSessions.lookup key = before.store.activeSessions.lookup key
  aaa : AAA.Spares own before.aaa after.aaa
  hwaddr : after.hwaddr = before.hwaddr
  replies : after.pppoeOutcoming = before.pppoeOutcoming
  queue : ∃ frames, after.pppOutcoming = before.pppOutcoming ++ frames ∧
    forall frame, frame ∈ frames -> Headed before.hwaddr encap frame

namespace Confined

variable {ref : Nat} {encap : Encapsulation} {own : UInt32 -> Prop}

/-- A step that changes neither the objects nor the tables nor the queues. -/
theorem of_same {before after : Runtime} (sessions : after.sessions = before.sessions)
    (active : after.store.activeSessions = before.store.activeSessions)
    (aaa : AAA.Spares own before.aaa after.aaa) (hwaddr : after.hwaddr = before.hwaddr)
    (replies : after.pppoeOutcoming = before.pppoeOutcoming)
    (queue : after.pppOutcoming = before.pppOutcoming) :
    Confined ref encap own before after := by
  refine ⟨fun other _ => ?_, fun key _ => by rw [active], aaa, hwaddr, replies, [],
    by rw [queue, List.append_nil], fun _ member => absurd member List.not_mem_nil⟩
  rw [sessions]
  exact ⟨rfl, rfl⟩

theorem refl (runtime : Runtime) : Confined ref encap own runtime runtime :=
  of_same rfl rfl (.refl _) rfl rfl rfl

theorem trans {first second third : Runtime} (left : Confined ref encap own first second)
    (right : Confined ref encap own second third) : Confined ref encap own first third := by
  rcases left.queue with ⟨early, sentEarly, headedEarly⟩
  rcases right.queue with ⟨late, sentLate, headedLate⟩
  refine ⟨fun other different => ?_, fun key different => ?_, left.aaa.trans right.aaa, right.hwaddr.trans left.hwaddr,
    right.replies.trans left.replies, early ++ late, ?_, fun frame member => ?_⟩
  · have earlier := left.objects other different
    have later := right.objects other different
    exact ⟨later.1.trans earlier.1, later.2.trans earlier.2⟩
  · have same := left.active key different
    exact (right.active key (same ▸ different)).trans same
  · rw [sentLate, sentEarly, List.append_assoc]
  · rcases List.mem_append.mp member with isEarly | isLate
    · exact headedEarly frame isEarly
    · rw [← left.hwaddr]
      exact headedLate frame isLate

/-- A change of the session object. -/
theorem update (runtime : Runtime) (change : PPPOESession -> PPPOESession) :
    Confined ref encap own runtime
      { runtime with sessions := runtime.sessions.update ref change } := by
  refine ⟨fun other different => ?_, fun _ _ => rfl, .refl _, rfl, rfl, [],
    (List.append_nil _).symm, fun _ member => absurd member List.not_mem_nil⟩
  dsimp only
  rw [Heap.deref_update, if_neg different, Heap.isAlive_update]
  exact ⟨rfl, rfl⟩

/-- A method of the session's automata that sends for its link. -/
theorem apply {runtime : Runtime} {session : PPPOESession} {out : FsmOut}
    (sends : Sends runtime.hwaddr session out) (link : session.encap = encap) :
    Confined ref encap own runtime (runtime.apply ref out) := by
  refine ⟨fun other different => ?_, fun _ _ => rfl, .refl _, rfl, rfl, out.sent, rfl,
    fun frame member => link ▸ sends.headed frame member⟩
  unfold Runtime.apply
  dsimp only
  rw [Heap.deref_update, if_neg different, Heap.isAlive_update]
  exact ⟨rfl, rfl⟩

/-- The method of the session that is run when there is one. -/
theorem withSession {runtime : Runtime} {method : PPPOESession -> FsmOut}
    (sends : forall session, Sends runtime.hwaddr session (method session))
    (link : forall session, runtime.sessions.deref ref = some session -> session.encap = encap) :
    Confined ref encap own runtime (runtime.withSession ref method) :=
  withSession_rule (refl runtime) (fun session found => apply (sends session) (link session found))

theorem collect (runtime : Runtime) : Confined ref encap own runtime (runtime.collect ref) := by
  unfold Runtime.collect
  split
  · exact refl runtime
  · split
    · refine ⟨fun other different => ?_, fun _ _ => rfl, .refl _, rfl, rfl, [],
        (List.append_nil _).symm, fun _ member => absurd member List.not_mem_nil⟩
      dsimp only
      rw [Heap.deref_destroy, Heap.isAlive_destroy, if_neg different]
      exact ⟨rfl, rfl⟩
    · exact refl runtime

/-- The end of the session. -/
theorem deallocateSession {runtime : Runtime} (invariant : ReferenceInvariant runtime)
    {sid : UInt16} {session : PPPOESession} (isTarget : runtime.target sid = some ref)
    (present : runtime.sessions.deref ref = some session) (isOwn : own session.aaaSessionId) :
    Confined ref encap own runtime (runtime.deallocateSession sid).1 := by
  by_cases member : sid ∈ runtime.store.sessionSet
  · rcases deallocateSession_of_mem invariant.tables member with
      ⟨key, goneRef, _, found, registered, unfolded, _⟩
    have same : goneRef = ref := by
      rw [target, if_pos member, registered] at isTarget
      exact Option.some.inj isTarget
    rw [same] at found unfolded
    rw [unfolded]
    have erased : Confined ref encap own runtime
        { runtime with
          aaa := runtime.aaa.stopSession runtime.counters session.aaaSessionId
          store := { runtime.store with
            activeSessions := runtime.store.activeSessions.erase key } } := by
      refine ⟨fun _ _ => ⟨rfl, rfl⟩, fun other different => ?_,
        .stopSession invariant.entered _ isOwn, rfl, rfl, [], (List.append_nil _).symm,
        fun _ member => absurd member List.not_mem_nil⟩
      dsimp only
      rw [Table.lookup_erase_eq, if_neg]
      intro here
      rw [here, found] at different
      exact different rfl
    have removed : Confined ref encap own runtime (runtime.removeSession key ref) := by
      simp only [removeSession, present]
      exact erased.trans (collect _)
    exact removed.trans (of_same rfl rfl (.refl _) rfl rfl rfl)
  · rw [deallocateSession_of_not_mem member]
    exact refl runtime

end Confined

/-! ## The handlers -/

/-- The link of a session and its reference into AAA, when there is a session. -/
def Linked (ref : Nat) (encap : Encapsulation) (sid : UInt32) (runtime : Runtime) : Prop :=
  forall session, runtime.sessions.deref ref = some session ->
    session.encap = encap ∧ session.aaaSessionId = sid

/-- The view of a session that a linked session shows. -/
def linkage (session : PPPOESession) : Encapsulation × UInt32 :=
  (session.encap, session.aaaSessionId)

theorem Linked.kept {before after : Runtime} {ref : Nat} {encap : Encapsulation} {sid : UInt32}
    (linked : before.Linked ref encap sid) (kept : Kept linkage before after) :
    after.Linked ref encap sid := by
  intro session present
  rcases kept.symm.session present with ⟨earlier, found, same⟩
  have was := linked earlier found
  exact ⟨(congrArg Prod.fst same).symm.trans was.1, (congrArg Prod.snd same).symm.trans was.2⟩

theorem lcpBlind_linkage : LcpBlind linkage where
  lcp := by
    intro first second same
    have parts := congrArg linkage same
    exact parts
  started := fun _ => rfl

section

variable {ref : Nat} {encap : Encapsulation} {sid : UInt32}

theorem confined_ensureStarted {runtime : Runtime} (env : Env)
    (linked : runtime.Linked ref encap sid) :
    Confined ref encap (fun id => id = sid) runtime (runtime.ensureStarted env ref) := by
  refine .withSession (fun session => ?_) (fun session found => (linked session found).1)
  split
  · exact .silent rfl rfl
  · have addresses := LCPFsm.protocol_addresses
      { hwaddr := runtime.hwaddr, lcpConf := runtime.lcpConf, random := env.random }
    exact (addresses.start session).mono rfl rfl rfl

theorem confined_openAuth {runtime : Runtime} (env : Env) (linked : runtime.Linked ref encap sid) :
    Confined ref encap (fun id => id = sid) runtime (runtime.openAuth env ref) := by
  unfold openAuth
  split
  · unfold openChap
    cases found : runtime.sessions.deref ref with
    | none => exact .refl runtime
    | some session =>
        dsimp only
        exact (Confined.apply (sends_challenge _ _ _ session) (linked session found).1).trans
          (.of_same rfl rfl (.refl _) rfl rfl rfl)
  · split
    · exact .refl runtime
    · exact .withSession (IPCPFsm.protocol_addresses _ _).start
        (fun session found => (linked session found).1)

theorem confined_callback {runtime : Runtime} {call : CallbackCall}
    (isOwn : call.callback.session = ref) (linked : forall session,
      runtime.sessions.deref ref = some session -> session.encap = encap) {own : UInt32 -> Prop} :
    Confined ref encap own runtime (runtime.callback call) := by
  have called : Confined ref encap own runtime (runtime.withSession call.callback.session
      (call.callback.protocol.authCallback runtime.hwaddr call.sid call.err)) := by
    rw [isOwn]
    exact .withSession (AuthProtocol.sends_authCallback _ _ _ _) linked
  exact called.trans (.of_same rfl rfl (.refl _) rfl rfl rfl)

/-- PAP and CHAP leave the link of a session. -/
theorem authBlind_encap : AuthBlind PPPOESession.encap :=
  .of_outside (by
    intro first second same
    have parts := congrArg PPPOESession.encap same
    exact parts) (fun _ _ => rfl)

theorem confined_callbacks {runtime : Runtime} {calls : List CallbackCall}
    (isOwn : forall call, call ∈ calls -> call.callback.session = ref)
    (linked : forall session, runtime.sessions.deref ref = some session -> session.encap = encap)
    {own : UInt32 -> Prop} : Confined ref encap own runtime (runtime.callbacks calls) := by
  unfold callbacks
  induction calls generalizing runtime with
  | nil => exact .refl runtime
  | cons call rest inductionHypothesis =>
      have first := @confined_callback ref encap runtime call (isOwn call List.mem_cons_self) linked own
      refine first.trans (inductionHypothesis (fun later member =>
        isOwn later (List.mem_cons_of_mem _ member)) (fun session present => ?_))
      rcases (kept_callback authBlind_encap runtime call).symm.session present with
        ⟨earlier, found, same⟩
      exact same.symm.trans (linked earlier found)

theorem confined_recvAuthReq {runtime after : Runtime} {env : Env} {protocol : AuthProtocol}
    {username : Bytes} {credential : Credential} (entered : runtime.aaa.Entered)
    (linked : runtime.Linked ref encap sid)
    (received : runtime.recvAuthReq env ref protocol username credential = some after) :
    Confined ref encap (fun id => id = sid) runtime after := by
  rcases recvAuthReq_cases received with
    ⟨session, found, ⟨_, repeated⟩ | ⟨_, started, asked, finished⟩⟩
  · rw [repeated]
    exact .apply (AuthProtocol.sends_authAck _ _ session) (linked session found).1
  · rw [finished]
    have path := AAA.started_of_startByMethods asked
    have announces := AAA.announces_of_started entered path
    have named : Confined ref encap (fun id => id = sid) runtime
        (runtime.requested ref protocol username session) := by
      have sends : Sends runtime.hwaddr session
          (PPPOESession.done { session with username := username }) := .silent rfl rfl
      exact (Confined.apply sends (linked session found).1).trans
        (.of_same rfl rfl (.refl _) rfl rfl rfl)
    have entries : Confined ref encap (fun id => id = sid)
        (runtime.requested ref protocol username session)
        ((runtime.requested ref protocol username session).withAaa started.1) :=
      .of_same rfl rfl (fun other entry _ => announces.spares other entry (fun no => no)) rfl rfl rfl
    refine named.trans (entries.trans (confined_callbacks (fun call member => ?_)
      (fun object present => ?_)))
    · rw [announces.callbacks call member]
    · have there : (runtime.requested ref protocol username session).sessions.deref ref =
          some { session with username := username } := deref_apply_self found _
      have same := Option.some.inj (there.symm.trans present)
      rw [← same]
      exact (linked session found).1

theorem confined_processLcp {runtime after : Runtime} {env : Env} {packet : Packet}
    {err : Option String} (invariant : ReferenceInvariant runtime)
    (active : runtime.store.activeSessions.Holds ref) (linked : runtime.Linked ref encap sid)
    (processed : runtime.processLcp env ref packet = some (after, err)) :
    Confined ref encap (fun id => id = sid) runtime after := by
  rcases processLcp_cases processed with
    ⟨session, out, found, received, ⟨_, _, up⟩ | ⟨_, _, down⟩ | ⟨_, quiet⟩⟩
  all_goals
    have addresses := LCPFsm.protocol_addresses
      { hwaddr := runtime.hwaddr, lcpConf := runtime.lcpConf, random := env.random }
    have applied : Confined ref encap (fun id => id = sid) runtime (runtime.apply ref out) :=
      .apply (addresses.receive received) (linked session found).1
    have later : (runtime.apply ref out).Linked ref encap sid :=
      linked.kept (kept_applyLcp lcpBlind_linkage found received)
  · rw [up]
    exact applied.trans (confined_openAuth env later)
  · rw [down]
    have steady : Steady runtime (runtime.apply ref out) :=
      .of_kept (kept_applyLcp lcpBlind_reference found received) rfl
    have there := deref_apply_self found out
    have ready := steady.invariant invariant
    have isTarget : (runtime.apply ref out).target session.sessionId = some ref := by
      have outside := (lcpFsm_leaves runtime env).receive received
      have same := congrArg PPPOESession.sessionId outside
      change out.session.sessionId = session.sessionId at same
      rw [← same]
      exact target_of_holds ready.tables (steady.kept.active ▸ active) there
    exact applied.trans (.deallocateSession ready isTarget there (later out.session there).2)
  · rw [quiet]
    exact applied

theorem confined_processIpcp {runtime after : Runtime} {packet : Packet}
    (entered : runtime.aaa.Entered) (linked : runtime.Linked ref encap sid)
    (processed : runtime.processIpcp ref packet = some after) :
    Confined ref encap (fun id => id = sid) runtime after := by
  rcases processIpcp_cases processed with
    ⟨session, out, found, received, ⟨_, _, up⟩ | ⟨_, quiet⟩⟩
  all_goals
    have applied : Confined ref encap (fun id => id = sid) runtime (runtime.apply ref out) :=
      .apply ((IPCPFsm.protocol_addresses _ _).receive received) (linked session found).1
  · rw [up, openDataPlane_eq]
    have outside := (ipcpFsm_leaves runtime).receive received
    have same := congrArg PPPOESession.aaaSessionId outside
    have number : out.session.aaaSessionId = sid := same.trans (linked session found).2
    have objects : Confined ref encap (fun id => id = sid) (runtime.apply ref out)
        { runtime.apply ref out with
          sessions := (runtime.apply ref out).sessions.update ref (fun object =>
            { object with ifindex :=
              ((runtime.apply ref out).vpp.provisionDp ref out.session).2.2 }) } := .update _ _
    have configured : Confined ref encap (fun id => id = sid) (runtime.apply ref out)
        ((runtime.apply ref out).configured ref out.session) :=
      objects.trans (.of_same rfl rfl (.mapIfaceToSession entered _ number) rfl rfl rfl)
    exact applied.trans (configured.trans (.update _ _))
  · rw [quiet]
    exact applied

theorem confined_rejectProtocol {runtime : Runtime} (packet : Packet)
    (linked : runtime.Linked ref encap sid) :
    Confined ref encap (fun id => id = sid) runtime (runtime.rejectProtocol ref packet) :=
  .withSession (fun _ => .single rfl rfl rfl) (fun session found => (linked session found).1)

end

/-- A session packet is confined to the session registered under its key. -/
theorem confined_processPPP {runtime after : Runtime} {env : Env} {encap : Encapsulation}
    {packet : Packet} {err : Option String} (invariant : ReferenceInvariant runtime) {ref : Nat}
    {session : PPPOESession}
    (registered : runtime.store.activeSessions.lookup (frameKey encap packet) = some ref)
    (present : runtime.sessions.deref ref = some session)
    (processed : runtime.processPPP env encap packet = some (after, err)) :
    Confined ref session.encap (fun id => id = session.aaaSessionId) runtime after := by
  have linked : runtime.Linked ref session.encap session.aaaSessionId := by
    intro object found
    rw [← Option.some.inj (present.symm.trans found)]
    exact ⟨rfl, rfl⟩
  have started := confined_ensureStarted env linked
  have steady : Steady runtime (runtime.ensureStarted env ref) :=
    .of_kept (kept_ensureStarted lcpBlind_reference runtime env ref)
      (aaa_ensureStarted runtime env ref)
  have ready := steady.invariant invariant
  have later := linked.kept (kept_ensureStarted lcpBlind_linkage runtime env ref)
  have active : (runtime.ensureStarted env ref).store.activeSessions.Holds ref := by
    rw [steady.kept.active]
    exact ⟨_, registered⟩
  rcases processPPP_cases processed with dropped | ⟨same, found, dispatched⟩
  · rw [dropped]
    exact .refl runtime
  · rw [registered] at found
    rw [← Option.some.inj found] at dispatched
    refine started.trans ?_
    rcases dispatch_cases dispatched with
      ⟨_, lcp⟩ | ⟨_, _, _, _, auth⟩ | ⟨_, ipcp⟩ | unchanged | rejected
    · exact confined_processLcp ready active later lcp
    · exact confined_recvAuthReq ready.entered later auth
    · exact confined_processIpcp ready.entered later ipcp
    · rw [unchanged]
      exact .refl _
    · rw [rejected]
      exact confined_rejectProtocol packet later

/-! ## The law -/

/-- What an active session other than the one of the packet keeps: its entry,
its object and its AAA session. -/
structure Keeps (key : PPPOEKey) (ref : Nat) (session : PPPOESession) (before after : Runtime) :
    Prop where
  entry : after.store.activeSessions.lookup key = some ref
  object : after.sessions.deref ref = some session
  alive : after.sessions.isAlive ref = before.sessions.isAlive ref
  aaa : forall number, before.aaa.sessions.lookup session.aaaSessionId = some number ->
    after.aaa.sessions.lookup session.aaaSessionId = some number ∧
      after.aaa.objects.deref number = before.aaa.objects.deref number ∧
      after.aaa.objects.isAlive number = before.aaa.objects.isAlive number

/-- What a session packet may do: nothing to the sessions of other keys, and
frames for the session of its own key alone. -/
structure FrameLaw (encap : Encapsulation) (packet : Packet) (before after : Runtime) : Prop where
  others : forall key ref session, key ≠ frameKey encap packet ->
    before.store.activeSessions.lookup key = some ref ->
    before.sessions.deref ref = some session -> Keeps key ref session before after
  entries : forall key, key ≠ frameKey encap packet ->
    after.store.activeSessions.lookup key = before.store.activeSessions.lookup key
  addressed : forall ref session,
    before.store.activeSessions.lookup (frameKey encap packet) = some ref ->
    before.sessions.deref ref = some session ->
      ∃ frames, after.pppOutcoming = before.pppOutcoming ++ frames ∧ forall frame, frame ∈ frames ->
        AddressedTo session.encap.sourceMac session.encap.outerVlan session.encap.innerVlan frame
  replies : after.pppoeOutcoming = before.pppoeOutcoming
  unregistered : before.store.activeSessions.lookup (frameKey encap packet) = none ->
    after = before

/-- Every session of another key is spared. -/
theorem Confined.keeps {before after : Runtime} {ref other : Nat} {session object : PPPOESession}
    {key otherKey : PPPOEKey} {encap : Encapsulation}
    (confined : Confined ref encap (fun id => id = session.aaaSessionId) before after)
    (invariant : ReferenceInvariant before)
    (registered : before.store.activeSessions.lookup key = some ref)
    (present : before.sessions.deref ref = some session)
    (different : otherKey ≠ key)
    (otherRegistered : before.store.activeSessions.lookup otherKey = some other)
    (otherPresent : before.sessions.deref other = some object) :
    Keeps otherKey other object before after := by
  have apart : other ≠ ref := by
    intro same
    rw [same] at otherRegistered
    exact different (key_eq_of_holds invariant.tables otherRegistered registered)
  have objects := confined.objects other apart
  refine ⟨?_, objects.1.trans otherPresent, objects.2, fun number found => ?_⟩
  · rw [confined.active otherKey (fun same => apart (Option.some.inj (otherRegistered.symm.trans same)))]
    exact otherRegistered
  · refine confined.aaa object.aaaSessionId number (fun same => apart ?_) found
    exact invariant.unshared other ref object session ⟨_, otherRegistered⟩ ⟨_, registered⟩
      otherPresent present same (invariant.entered.id _ number found)

/-- The law, where the session's link is not one with an inner VLAN alone. -/
theorem frameLaw_of_processPPP {runtime after : Runtime} (invariant : ReferenceInvariant runtime)
    {env : Env} {encap : Encapsulation} {packet : Packet} {err : Option String}
    (tagged : runtime.store.activeSessions.lookup (frameKey encap packet) ≠ none ->
      encap.outerVlan = 0 -> encap.innerVlan = 0)
    (processed : runtime.processPPP env encap packet = some (after, err)) :
    FrameLaw encap packet runtime after := by
  cases registered : runtime.store.activeSessions.lookup (frameKey encap packet) with
  | none =>
      have same : after = runtime := by
        rcases processPPP_cases processed with dropped | ⟨ref, found, _⟩
        · exact dropped
        · rw [registered] at found
          cases found
      rw [same]
      refine ⟨fun _ _ _ _ found present => ⟨found, present, rfl, fun _ here => ⟨here, rfl, rfl⟩⟩,
        fun _ _ => rfl, fun _ _ found => ?_, rfl, fun _ => rfl⟩
      rw [registered] at found
      cases found
  | some ref =>
      rcases invariant.tables.keyed _ ref registered with ⟨session, present, keyed⟩
      have confined := confined_processPPP invariant registered present processed
      refine ⟨fun key other object different found there => ?_, fun key different => ?_,
        fun other object sameRef there => ?_, confined.replies, fun none => ?_⟩
      · exact confined.keeps invariant registered present different found there
      · refine confined.active key (fun same => different ?_)
        exact key_eq_of_holds invariant.tables same registered
      · rw [← Option.some.inj (registered.symm.trans sameRef), present] at there
        rw [← Option.some.inj there]
        rcases confined.queue with ⟨frames, sent, headed⟩
        refine ⟨frames, sent, fun frame member => addressedTo_of_headed (headed frame member) ?_⟩
        have outer : session.encap.outerVlan = encap.outerVlan := congrArg PPPOEKey.outerVlan keyed
        have inner : session.encap.innerVlan = encap.innerVlan := congrArg PPPOEKey.innerVlan keyed
        rw [outer, inner]
        exact tagged (by rw [registered]; exact Option.some_ne_none ref)
      · rw [registered] at none
        cases none

/-- A packet of a protocol that the daemon does not know. -/
def unknownPacket (sid : UInt16) : Packet := sessionPacket sid 0x0057 []

theorem unknownPacket_sessionId (sid : UInt16) : (unknownPacket sid).pppoeSessionId = sid :=
  be16_bytes16 sid

theorem unknownPacket_key (encap : Encapsulation) (sid : UInt16) :
    frameKey encap (unknownPacket sid) = .ofEncap encap sid := by
  rw [frameKey, unknownPacket_sessionId]

theorem dispatch_unknownPacket (runtime : Runtime) (env : Env) (ref : Nat) (sid : UInt16) :
    runtime.dispatch env ref (unknownPacket sid) =
      some (runtime.rejectProtocol ref (unknownPacket sid), none) := by
  have protocol : (unknownPacket sid).pppProtocol = 0x0057 := be16_bytes16 0x0057
  simp only [dispatch, protocol]
  simp [PPPProto.lcp, PPPProto.pap, PPPProto.chap, PPPProto.ipcp]

/-- It is answered, whatever the state of the session. -/
theorem sent_unknownPacket {runtime : Runtime} {encap : Encapsulation} {sid : UInt16} {ref : Nat}
    {session : PPPOESession}
    (registered : runtime.store.activeSessions.lookup (.ofEncap encap sid) = some ref)
    (present : runtime.sessions.deref ref = some session) :
    ∃ after frames frame, runtime.processPPP {} encap (unknownPacket sid) = some (after, none) ∧
      after.pppOutcoming = runtime.pppOutcoming ++ (frames ++ [frame]) ∧
      Headed runtime.hwaddr session.encap frame := by
  have linked : runtime.Linked ref session.encap session.aaaSessionId := by
    intro object found
    rw [← Option.some.inj (present.symm.trans found)]
    exact ⟨rfl, rfl⟩
  have kept := kept_ensureStarted lcpBlind_linkage runtime {} ref
  have started := confined_ensureStarted {} linked
  rcases kept.session present with ⟨later, there, same⟩
  have link : later.encap = session.encap := congrArg Prod.fst same
  rcases started.queue with ⟨frames, sent, _⟩
  refine ⟨(runtime.ensureStarted {} ref).rejectProtocol ref (unknownPacket sid), frames,
    later.frame (runtime.ensureStarted {} ref).hwaddr
      ((unknownPacket sid).setCode LCPCode.codeRej).bytes, ?_, ?_, ?_⟩
  · unfold processPPP
    rw [unknownPacket_key, registered]
    exact dispatch_unknownPacket _ _ _ _
  · rw [rejectProtocol, withSession_eq there, ← List.append_assoc, ← sent]
    rfl
  · rw [started.hwaddr, ← link]
    exact headed_frame _ _ _

/-- On a link with an inner VLAN alone the answer breaks the law. -/
theorem not_frameLaw_unknownPacket {runtime : Runtime} (tables : StoreInvariant runtime)
    {encap : Encapsulation} {sid : UInt16}
    (registered : runtime.store.activeSessions.lookup (.ofEncap encap sid) ≠ none)
    (noOuter : encap.outerVlan = 0) (inner : encap.innerVlan ≠ 0) :
    ∃ after, runtime.processPPP {} encap (unknownPacket sid) = some (after, none) ∧
      ¬ FrameLaw encap (unknownPacket sid) runtime after := by
  rcases Option.ne_none_iff_exists'.mp registered with ⟨ref, found⟩
  rcases tables.keyed _ ref found with ⟨session, present, keyed⟩
  rcases sent_unknownPacket found present with ⟨after, frames, frame, processed, sent, headed⟩
  refine ⟨after, processed, fun law => ?_⟩
  rcases law.addressed ref session ((unknownPacket_key encap sid).symm ▸ found) present with
    ⟨addressed, same, towards⟩
  have exactly := List.append_cancel_left (sent.symm.trans same)
  refine not_addressedTo_of_headed headed ?_ ?_ (towards frame ?_)
  · exact (congrArg PPPOEKey.outerVlan keyed).trans noOuter
  · intro zero
    exact inner ((congrArg PPPOEKey.innerVlan keyed).symm.trans zero)
  · rw [← exactly]
    exact List.mem_append_right _ (List.mem_singleton_self frame)

/-- The link of frames with a priority tag and VLAN 7 inside. -/
def priorityLink : Encapsulation := { sampleLink 1 with innerVlan := 7 }

def priorityTagged : Runtime :=
  Foundation.after step (sampleDaemon [.none] papPolicy) (connect priorityLink) (by decide +kernel)

/-- The answer to a packet of an unknown protocol leaves without its tag. -/
theorem answer_leaves_untagged :
    ¬ forall start runtime env encap packet after err, start.Fresh -> Reachable step start runtime ->
      runtime.processPPP env encap packet = some (after, err) ->
        FrameLaw encap packet runtime after := by
  intro lawful
  have fresh := fresh_sampleDaemon [.none] papPolicy
  have reached : Reachable step (sampleDaemon [.none] papPolicy) priorityTagged :=
    reachable_after _ _ _ _
  have invariant : ReferenceInvariant priorityTagged :=
    reached.invariant (referenceInvariant_fresh fresh)
      (fun _ _ _ here taken => referenceInvariant_step here taken)
  have registered : priorityTagged.store.activeSessions.lookup (.ofEncap priorityLink 1) ≠ none := by
    decide +kernel
  rcases not_frameLaw_unknownPacket invariant.tables registered rfl (by decide) with
    ⟨after, processed, broken⟩
  exact broken (lawful _ _ {} priorityLink _ after none fresh reached processed)

/-- The law holds for all packets of a session id on a link if and only if no
session is registered there, or the link is not one with an inner VLAN alone. -/
theorem frameLaw_iff {start runtime : Runtime} (fresh : start.Fresh)
    (reached : Reachable step start runtime) (encap : Encapsulation) (sid : UInt16) :
    (forall env packet after err, packet.pppoeSessionId = sid ->
      runtime.processPPP env encap packet = some (after, err) ->
        FrameLaw encap packet runtime after) ↔
      ¬ (runtime.store.activeSessions.lookup (.ofEncap encap sid) ≠ none ∧
        encap.outerVlan = 0 ∧ encap.innerVlan ≠ 0) := by
  have invariant : ReferenceInvariant runtime :=
    reached.invariant (referenceInvariant_fresh fresh)
      (fun _ _ _ here taken => referenceInvariant_step here taken)
  constructor
  · rintro lawful ⟨registered, noOuter, inner⟩
    rcases not_frameLaw_unknownPacket invariant.tables registered noOuter inner with
      ⟨after, processed, broken⟩
    exact broken (lawful {} _ after none (unknownPacket_sessionId sid) processed)
  · intro lacks env packet after err number processed
    refine frameLaw_of_processPPP invariant (fun registered noOuter => ?_) processed
    rw [frameKey, number] at registered
    exact Decidable.byContradiction (fun inner => lacks ⟨registered, noOuter, inner⟩)

/-- A session registered on the first sample link. -/
theorem frameLaw_iff_at_established :
    (established.store.activeSessions.lookup (.ofEncap (sampleLink 1) 1) ≠ none ∧
      established.pppOutcoming ≠ []) ∧
      ((forall env packet after err, packet.pppoeSessionId = 1 ->
        established.processPPP env (sampleLink 1) packet = some (after, err) ->
          FrameLaw (sampleLink 1) packet established after) ↔
        ¬ (established.store.activeSessions.lookup (.ofEncap (sampleLink 1) 1) ≠ none ∧
          (sampleLink 1).outerVlan = 0 ∧ (sampleLink 1).innerVlan ≠ 0)) :=
  ⟨by decide +kernel, frameLaw_iff (fresh_sampleDaemon [.none] papPolicy) established_reachable _ _⟩

end Runtime

end Pppcpd
