import Pppcpd.Runtime.Endings
import Pppcpd.Vpp.Commands

namespace Pppcpd

open Foundation

/-!
# The data plane against the control plane

A session is added to VPP when its IPCP opens and deleted by the destructor of
its object.  Neither place is the counterpart of the other: IPCP can leave
Opened without a delete, an object that never opened IPCP is deleted all the
same, and a destructor runs only when the last wait of the echo timer is gone.
The two levels agree in the runs that avoid all three.
-/

namespace Runtime

/-- Commands alternate, beginning with the expected one. -/
def AlternatesFrom : Bool -> List Bool -> Prop
  | _, [] => True
  | expected, command :: rest => command = expected ∧ AlternatesFrom (!expected) rest

/-- An active session whose IPCP is Opened. -/
def Up (runtime : Runtime) (ref : Nat) (session : PPPOESession) : Prop :=
  runtime.store.activeSessions.Holds ref ∧ runtime.sessions.deref ref = some session ∧
    session.ipcp.state = .opened

/-- The commands for each session object alternate, the first is an add, and
VPP holds the sessions that are active with IPCP in Opened. -/
structure Mirrors (runtime : Runtime) : Prop where
  alternates : forall ref, AlternatesFrom true (runtime.vpp.commands ref)
  held : forall mac sid, (mac, sid) ∈ runtime.vpp.held ↔
    ∃ ref session, runtime.Up ref session ∧ session.encap.sourceMac = mac ∧ session.sessionId = sid

/-- Every call into VPP that the event leads to succeeds. -/
def CallsSucceed (runtime : Runtime) (event : Event) : Prop :=
  ∀ after ∈ step runtime event, after.vpp.AllOk

/-- An IPCP packet for a session whose IPCP is Opened leaves it there. -/
def StaysOpen (runtime : Runtime) (event : Event) : Prop :=
  match event.input with
  | .session encap packet => packet.pppProtocol = PPPProto.ipcp ->
      ∀ ref ∈ runtime.store.activeSessions.lookup (frameKey encap packet),
        ∀ session ∈ runtime.sessions.deref ref, session.ipcp.state = .opened ->
          ¬ runtime.ipcpFsm.leavesOpened session packet
  | _ => True

/-- No Opened IPCP is taken out of Opened, and a session ends only with its IPCP
in Opened and without another wait of its echo timer. -/
def PlaneSafe (runtime : Runtime) (event : Event) : Prop :=
  EndsOnly (fun _ session => session.ipcp.state = .opened ∧ session.timer = []) runtime event ∧
    runtime.StaysOpen event

instance (runtime : Runtime) (event : Event) : Decidable (runtime.CallsSucceed event) :=
  inferInstanceAs (Decidable (∀ after ∈ step runtime event, after.vpp.AllOk))

instance (runtime : Runtime) (event : Event) : Decidable (runtime.StaysOpen event) := by
  match event with
  | ⟨env, input⟩ =>
    induction input using Input.casesOn <;> unfold StaysOpen <;> infer_instance

instance (runtime : Runtime) (event : Event) : Decidable (runtime.PlaneSafe event) :=
  inferInstanceAs (Decidable (_ ∧ _))

/-! ## What shows of a session -/

/-- What the data plane mirrors of a session object. -/
def plane (session : PPPOESession) : PPPOEKey × Bool :=
  (session.key, decide (session.ipcp.state = .opened))

/-- What decides when the data plane changes for a session object. -/
def link (session : PPPOESession) : Timer × PPPOEKey × Bool := (session.timer, plane session)

theorem link_eq {first second : PPPOESession}
    (outside : AuthProtocol.outside first = AuthProtocol.outside second)
    (opened : first.ipcp.state = .opened ↔ second.ipcp.state = .opened) :
    link first = link second := by
  have keys : first.key = second.key := by
    have same := congrArg PPPOESession.key outside
    exact same
  have timers : first.timer = second.timer := by
    have same := congrArg PPPOESession.timer outside
    exact same
  unfold link plane
  rw [keys, timers, decide_eq_decide.mpr opened]

theorem of_plane_eq {first second : PPPOESession} (same : plane first = plane second) :
    first.key = second.key ∧ (first.ipcp.state = .opened ↔ second.ipcp.state = .opened) :=
  ⟨(Prod.mk.inj same).1, decide_eq_decide.mp (Prod.mk.inj same).2⟩

theorem link_startIpcp (hwaddr : Mac) (getSession : IPCPFsm.SessionLookup) (session : PPPOESession) :
    link ((IPCPFsm.protocol hwaddr getSession).start session).session = link session :=
  link_eq (AuthProtocol.outside_of_ipcp ((IPCPFsm.protocol_leaves hwaddr getSession).start session))
    ((IPCPFsm.protocol_lawful hwaddr getSession).start_opened_iff session)

theorem lcpBlind_link : LcpBlind link where
  lcp := by
    intro first second same
    have links := congrArg link same
    exact links
  started := fun _ => rfl

theorem authBlind_link : AuthBlind link where
  callback := by
    intro hwaddr protocol sid err session
    cases err with
    | none =>
        refine (link_startIpcp hwaddr (fun _ => none) _).trans ?_
        cases protocol <;> rfl
    | some text => rfl
  ack := fun hwaddr _ session => link_startIpcp hwaddr (fun _ => none) session
  named := fun _ _ => rfl

theorem openBlind_link : OpenBlind link := ⟨link_startIpcp, fun _ _ => rfl⟩

/-- The data plane is the same, and so are the session objects that are alive. -/
structure Untouched (before after : Runtime) : Prop where
  vpp : after.vpp = before.vpp
  alive : forall ref, after.sessions.isAlive ref = before.sessions.isAlive ref

namespace Untouched

theorem refl (runtime : Runtime) : Untouched runtime runtime := ⟨rfl, fun _ => rfl⟩

theorem trans {first second third : Runtime} (left : Untouched first second)
    (right : Untouched second third) : Untouched first third :=
  ⟨right.vpp.trans left.vpp, fun ref => (right.alive ref).trans (left.alive ref)⟩

theorem of_same {before after : Runtime} (vpp : after.vpp = before.vpp)
    (sessions : after.sessions = before.sessions) : Untouched before after :=
  ⟨vpp, fun _ => by rw [sessions]⟩

theorem update (runtime : Runtime) (ref : Nat) (change : PPPOESession -> PPPOESession) :
    Untouched runtime { runtime with sessions := runtime.sessions.update ref change } :=
  ⟨rfl, fun other => Heap.isAlive_update _ ref other change⟩

theorem apply (runtime : Runtime) (ref : Nat) (out : FsmOut) :
    Untouched runtime (runtime.apply ref out) :=
  ⟨rfl, fun other => Heap.isAlive_update runtime.sessions ref other (fun _ => out.session)⟩

theorem withSession (runtime : Runtime) (ref : Nat) (method : PPPOESession -> FsmOut) :
    Untouched runtime (runtime.withSession ref method) := by
  unfold Runtime.withSession
  split
  · exact refl runtime
  · exact apply runtime ref _

theorem openAuth (runtime : Runtime) (env : Env) (ref : Nat) :
    Untouched runtime (runtime.openAuth env ref) := by
  unfold Runtime.openAuth
  split
  · unfold openChap
    split
    · exact refl runtime
    · dsimp only
      exact (apply runtime ref _).trans (of_same rfl rfl)
  · split
    · exact refl runtime
    · exact withSession runtime ref _

theorem callbacks (runtime : Runtime) (calls : List CallbackCall) :
    Untouched runtime (runtime.callbacks calls) := by
  unfold Runtime.callbacks
  induction calls generalizing runtime with
  | nil => exact refl runtime
  | cons call rest inductionHypothesis =>
      have called : Untouched runtime (runtime.callback call) :=
        (withSession runtime _ _).trans (of_same rfl rfl)
      exact called.trans (inductionHypothesis _)

theorem withCalls (runtime : Runtime) (outcome : AAA × List CallbackCall) :
    Untouched runtime (runtime.withCalls outcome) := by
  have same : Untouched runtime (runtime.withAaa outcome.1) := of_same rfl rfl
  exact same.trans (callbacks _ outcome.2)

theorem recvAuthReq {runtime after : Runtime} {env : Env} {ref : Nat} {protocol : AuthProtocol}
    {username : Bytes} {credential : Credential}
    (received : runtime.recvAuthReq env ref protocol username credential = some after) :
    Untouched runtime after := by
  rcases recvAuthReq_cases received with ⟨session, _, ⟨_, repeated⟩ | ⟨_, started, _, asked⟩⟩
  · rw [repeated]
    exact apply runtime ref _
  · rw [asked]
    have named : Untouched runtime (runtime.requested ref protocol username session) :=
      (apply runtime ref _).trans (of_same rfl rfl)
    exact named.trans (withCalls _ started)

theorem pendeSession (runtime : Runtime) (conn : PPPOEConn) :
    Untouched runtime (runtime.pendeSession conn).1 := by
  unfold Runtime.pendeSession
  split
  · exact refl runtime
  · exact of_same rfl rfl

theorem checkSession (runtime : Runtime) (conn : PPPOEConn) :
    Untouched runtime (runtime.checkSession conn).1 := by
  unfold Runtime.checkSession
  split
  · exact of_same rfl rfl
  · exact refl runtime

theorem pendingTimer {runtime after : Runtime} {index : Nat}
    (fired : runtime.pendingTimer index = some after) : Untouched runtime after := by
  rcases Option.map_eq_some_iff.mp fired with ⟨conn, _, equal⟩
  rw [← equal]
  exact of_same rfl rfl

end Untouched

/-! ## The invariant -/

/-- What is commanded for a session object in each of its phases. -/
structure PlaneInvariant (runtime : Runtime) : Prop where
  tables : StoreInvariant runtime
  alive : forall ref, runtime.sessions.isAlive ref = true ↔ runtime.store.activeSessions.Holds ref
  silent : forall ref session, ¬ runtime.store.activeSessions.Holds ref ->
    runtime.sessions.deref ref = some session -> session.timer = []
  up : forall ref session, runtime.Up ref session -> runtime.vpp.commands ref = [true]
  down : forall ref session, runtime.store.activeSessions.Holds ref ->
    runtime.sessions.deref ref = some session -> session.ipcp.state ≠ .opened ->
      runtime.vpp.commands ref = []
  gone : forall ref, ¬ runtime.store.activeSessions.Holds ref ->
    runtime.vpp.commands ref = [] ∨ runtime.vpp.commands ref = [true, false]
  unmade : forall ref, runtime.sessions.deref ref = none -> runtime.vpp.commands ref = []
  held : forall mac sid, (mac, sid) ∈ runtime.vpp.held ↔
    ∃ ref session, runtime.Up ref session ∧ session.encap.sourceMac = mac ∧ session.sessionId = sid

namespace PlaneInvariant

theorem mirrors {runtime : Runtime} (invariant : PlaneInvariant runtime) : Mirrors runtime := by
  refine ⟨?_, invariant.held⟩
  intro ref
  have phases : runtime.vpp.commands ref = [] ∨ runtime.vpp.commands ref = [true] ∨
      runtime.vpp.commands ref = [true, false] := by
    by_cases active : runtime.store.activeSessions.Holds ref
    · cases found : runtime.sessions.deref ref with
      | none => exact .inl (invariant.unmade ref found)
      | some session =>
          by_cases opened : session.ipcp.state = .opened
          · exact .inr (.inl (invariant.up ref session ⟨active, found, opened⟩))
          · exact .inl (invariant.down ref session active found opened)
    · exact (invariant.gone ref active).imp id .inr
  rcases phases with empty | added | deleted
  · rw [empty]
    trivial
  · rw [added]
    exact ⟨rfl, trivial⟩
  · rw [deleted]
    exact ⟨rfl, rfl, trivial⟩

/-- What shows nothing to the data plane keeps the invariant, if the objects
that are not active stay without waits. -/
theorem of_plane {before after : Runtime} (invariant : PlaneInvariant before)
    (kept : Kept plane before after) (untouched : Untouched before after)
    (silent : forall ref session, ¬ before.store.activeSessions.Holds ref ->
      after.sessions.deref ref = some session -> session.timer = []) : PlaneInvariant after := by
  have keyed : Kept PPPOESession.key before after := kept.map Prod.fst
  have ups : forall ref session, after.Up ref session -> ∃ old, before.Up ref old ∧
      plane old = plane session := by
    rintro ref session ⟨active, present, opened⟩
    rcases kept.symm.session present with ⟨old, found, same⟩
    exact ⟨old, ⟨by rw [← kept.active]; exact active, found, (of_plane_eq same).2.mpr opened⟩, same⟩
  refine ⟨keyed.invariant invariant.tables, ?_, ?_, ?_, ?_, ?_, ?_, ?_⟩
  · intro ref
    rw [kept.active, untouched.alive]
    exact invariant.alive ref
  · intro ref session dead present
    rw [kept.active] at dead
    exact silent ref session dead present
  · intro ref session isUp
    rcases ups ref session isUp with ⟨old, wasUp, _⟩
    rw [untouched.vpp]
    exact invariant.up ref old wasUp
  · intro ref session active present notOpened
    rw [kept.active] at active
    rcases kept.symm.session present with ⟨old, found, same⟩
    rw [untouched.vpp]
    exact invariant.down ref old active found
      (fun opened => notOpened ((of_plane_eq same).2.mp opened))
  · intro ref dead
    rw [kept.active] at dead
    rw [untouched.vpp]
    exact invariant.gone ref dead
  · intro ref missing
    have same := kept.objects ref
    rw [missing] at same
    rw [untouched.vpp]
    exact invariant.unmade ref (Option.map_eq_none_iff.mp same.symm)
  · intro mac sid
    rw [untouched.vpp, invariant.held]
    constructor
    · rintro ⟨ref, old, ⟨active, found, opened⟩, isMac, isSid⟩
      rcases kept.session found with ⟨session, present, same⟩
      have shown := of_plane_eq same
      refine ⟨ref, session, ⟨by rw [kept.active]; exact active, present, shown.2.mpr opened⟩, ?_, ?_⟩
      · exact (congrArg PPPOEKey.mac shown.1).trans isMac
      · exact (congrArg PPPOEKey.sessionId shown.1).trans isSid
    · rintro ⟨ref, session, isUp, isMac, isSid⟩
      rcases ups ref session isUp with ⟨old, wasUp, same⟩
      have shown := of_plane_eq same
      exact ⟨ref, old, wasUp, (congrArg PPPOEKey.mac shown.1).trans isMac,
        (congrArg PPPOEKey.sessionId shown.1).trans isSid⟩

/-- What shows nothing at all keeps the invariant. -/
theorem of_link {before after : Runtime} (invariant : PlaneInvariant before)
    (kept : Kept link before after) (untouched : Untouched before after) :
    PlaneInvariant after := by
  refine invariant.of_plane (kept.map Prod.snd) untouched ?_
  intro ref session dead present
  rcases kept.symm.session present with ⟨old, found, same⟩
  exact (Prod.mk.inj same).1.symm.trans (invariant.silent ref old dead found)

/-- A change of the timer of one object, which gives an object that is not
active no wait. -/
theorem of_timer {runtime : Runtime} (invariant : PlaneInvariant runtime) (ref : Nat)
    (change : Timer -> Timer)
    (quiet : ¬ runtime.store.activeSessions.Holds ref -> change [] = []) :
    PlaneInvariant { runtime with
      sessions := runtime.sessions.update ref (fun session =>
        { session with timer := change session.timer }) } := by
  refine invariant.of_plane (kept_update runtime ref _ (fun _ => rfl)) (.update runtime ref _) ?_
  intro other session dead present
  dsimp only at present
  rw [Heap.deref_update] at present
  split at present
  · rename_i here
    rcases Option.map_eq_some_iff.mp present with ⟨old, found, changed⟩
    rw [← changed]
    dsimp only
    rw [invariant.silent other old dead found]
    exact quiet (here ▸ dead)
  · exact invariant.silent other session dead present

/-! ## The operations that change the data plane -/

/-- A new session is not in the data plane. -/
theorem allocateSession {runtime : Runtime} (invariant : PlaneInvariant runtime) {env : Env}
    {encap : Encapsulation} {result : Runtime × UInt16 × Option String}
    (allocated : runtime.allocateSession env encap = some result) : PlaneInvariant result.1 := by
  rcases allocateSession_cases invariant.tables env encap allocated with
    full | ⟨id, free, positive, entered⟩
  · rw [full]
    exact invariant
  · have fresh := key_not_mem_of_free invariant.tables encap free
    have tables := storeInvariant_allocateSession invariant.tables env encap allocated
    rw [entered] at tables ⊢
    have missing := runtime.sessions.deref_length
    have holds := Table.holds_insert_of_not_mem fresh runtime.sessions.length
    have ups : forall ref session, Up { runtime with
          sessions := runtime.sessions.make (.construct env.session encap id)
          store := { runtime.store with
            activeSessions :=
              runtime.store.activeSessions.insert (.ofEncap encap id) runtime.sessions.length
            sessionSet := insert id runtime.store.sessionSet
            nextSessionId := if id + 1 = 0 then 1 else id + 1 } } ref session ↔
        runtime.Up ref session := by
      intro ref session
      constructor
      · rintro ⟨active, present, opened⟩
        rcases Heap.deref_make_cases present with ⟨_, new⟩ | ⟨older, found⟩
        · rw [new] at opened
          cases opened
        · exact ⟨((holds ref).mp active).resolve_left older, found, opened⟩
      · rintro ⟨active, found, opened⟩
        refine ⟨(holds ref).mpr (.inr active), ?_, opened⟩
        dsimp only
        rw [Heap.deref_make_of_lt _ (Heap.lt_length_of_deref found)]
        exact found
    refine ⟨tables, ?_, ?_, ?_, ?_, ?_, ?_, ?_⟩
    · intro ref
      dsimp only
      rw [Heap.isAlive_make, holds]
      split
      · rename_i new
        exact ⟨fun _ => .inl new, fun _ => rfl⟩
      · rename_i older
        rw [invariant.alive]
        exact ⟨.inr, fun either => either.resolve_left older⟩
    · intro ref session dead present
      rcases Heap.deref_make_cases present with ⟨new, _⟩ | ⟨_, found⟩
      · exact absurd ((holds ref).mpr (.inl new)) dead
      · exact invariant.silent ref session (fun active => dead ((holds ref).mpr (.inr active))) found
    · intro ref session isUp
      exact invariant.up ref session ((ups ref session).mp isUp)
    · intro ref session active present notOpened
      rcases Heap.deref_make_cases present with ⟨new, _⟩ | ⟨older, found⟩
      · rw [new]
        exact invariant.unmade _ missing
      · exact invariant.down ref session (((holds ref).mp active).resolve_left older) found notOpened
    · intro ref dead
      exact invariant.gone ref (fun active => dead ((holds ref).mpr (.inr active)))
    · intro ref absent
      dsimp only at absent
      rw [Heap.deref_make] at absent
      split at absent
      · cases absent
      · exact invariant.unmade ref absent
    · intro mac sid
      refine (invariant.held mac sid).trans ?_
      constructor
      · rintro ⟨ref, session, wasUp, named⟩
        exact ⟨ref, session, (ups ref session).mpr wasUp, named⟩
      · rintro ⟨ref, session, isUp, named⟩
        exact ⟨ref, session, (ups ref session).mp isUp, named⟩

/-- The removal of a session object that nothing else holds destroys it. -/
theorem removeSession_collects {runtime : Runtime} {key : PPPOEKey} {ref : Nat}
    {session : PPPOESession} (found : runtime.sessions.deref ref = some session)
    (alive : runtime.sessions.isAlive ref = true) (idle : session.timer = [])
    (last : ¬ Table.Holds (runtime.store.activeSessions.erase key) ref) :
    (runtime.removeSession key ref).vpp = runtime.vpp.deprovisionDp ref session ∧
      forall other, (runtime.removeSession key ref).sessions.isAlive other =
        if other = ref then false else runtime.sessions.isAlive other := by
  unfold removeSession
  rw [found]
  dsimp only
  unfold collect
  dsimp only
  rw [found]
  dsimp only
  rw [if_pos ⟨alive, fun active => last ((isActive_iff _ ref).mp active), idle⟩]
  exact ⟨rfl, fun other => Heap.isAlive_destroy _ ref other⟩

/-- A session that ends with its IPCP in Opened and without a wait is deleted. -/
theorem deallocateSession {runtime : Runtime} (invariant : PlaneInvariant runtime) {sid : UInt16}
    (clean : ∀ ref ∈ runtime.target sid, ∀ session ∈ runtime.sessions.deref ref,
      session.ipcp.state = .opened ∧ session.timer = [])
    (ok : (runtime.deallocateSession sid).1.vpp.AllOk) :
    PlaneInvariant (runtime.deallocateSession sid).1 := by
  by_cases member : sid ∈ runtime.store.sessionSet
  · rcases deallocateSession_of_mem invariant.tables member with
      ⟨key, ref, id, active, registered, unfolded, store⟩
    rcases invariant.tables.keyed key ref active with ⟨session, found, keyed⟩
    have isTarget : runtime.target sid = some ref := by
      rw [target, if_pos member, registered]
      rfl
    have ended := clean ref isTarget session found
    have holds := holds_deallocateSession invariant.tables sid
    have left : forall other, (runtime.deallocateSession sid).1.store.activeSessions.Holds other ->
        runtime.store.activeSessions.Holds other ∧ other ≠ ref := by
      intro other still
      have parts := (holds other).mp still
      exact ⟨parts.1, fun same => parts.2 (same ▸ isTarget)⟩
    have stays : forall other, runtime.store.activeSessions.Holds other -> other ≠ ref ->
        (runtime.deallocateSession sid).1.store.activeSessions.Holds other := by
      intro other was different
      refine (holds other).mpr ⟨was, fun same => different ?_⟩
      exact Option.some.inj (same.symm.trans isTarget)
    have last : ¬ Table.Holds (runtime.store.activeSessions.erase key) ref := by
      intro still
      rw [store] at left
      exact (left ref still).2 rfl
    have collected := removeSession_collects found ((invariant.alive ref).mpr ⟨key, active⟩) ended.2 last
    have tables := storeInvariant_deallocateSession invariant.tables sid
    have deref := deref_deallocateSession runtime sid
    have released : (runtime.deallocateSession sid).1.vpp = runtime.vpp.deprovisionDp ref session ∧
        forall other, (runtime.deallocateSession sid).1.sessions.isAlive other =
          if other = ref then false else runtime.sessions.isAlive other := by
      rw [unfolded]
      exact collected
    rw [released.1] at ok
    have deleted := VPP.deprovisionDp_spec ok
    have same : forall other, other ≠ ref ->
        (runtime.deallocateSession sid).1.vpp.commands other = runtime.vpp.commands other := by
      intro other different
      rw [released.1, deleted.commands, if_neg different]
    refine ⟨tables, ?_, ?_, ?_, ?_, ?_, ?_, ?_⟩
    · intro other
      rw [released.2, holds]
      split
      · rename_i here
        rw [here]
        exact ⟨fun impossible => absurd impossible Bool.false_ne_true,
          fun still => absurd isTarget still.2⟩
      · rename_i elsewhere
        rw [invariant.alive, isTarget]
        exact ⟨fun was => ⟨was, fun same => elsewhere (Option.some.inj same).symm⟩, And.left⟩
    · intro other object dead present
      rw [deref] at present
      by_cases here : other = ref
      · rw [here, found] at present
        rw [← Option.some.inj present]
        exact ended.2
      · exact invariant.silent other object (fun was => dead (stays other was here)) present
    · rintro other object ⟨still, present, opened⟩
      rw [deref] at present
      rw [same other (left other still).2]
      exact invariant.up other object ⟨(left other still).1, present, opened⟩
    · intro other object still present notOpened
      rw [deref] at present
      rw [same other (left other still).2]
      exact invariant.down other object (left other still).1 present notOpened
    · intro other dead
      by_cases here : other = ref
      · rw [here, released.1, deleted.commands, if_pos rfl,
          invariant.up ref session ⟨⟨key, active⟩, found, ended.1⟩]
        exact .inr rfl
      · rw [same other here]
        exact invariant.gone other (fun was => dead (stays other was here))
    · intro other missing
      rw [deref] at missing
      have different : other ≠ ref := by
        intro here
        rw [here, found] at missing
        cases missing
      rw [same other different]
      exact invariant.unmade other missing
    · intro mac other
      rw [released.1, deleted.held, if_neg Bool.false_ne_true, Finset.mem_erase, invariant.held]
      constructor
      · rintro ⟨different, there, object, ⟨was, present, opened⟩, isMac, isSid⟩
        have elsewhere : there ≠ ref := by
          intro here
          rw [here, found] at present
          rw [← isMac, ← isSid, Option.some.inj present] at different
          exact different rfl
        exact ⟨there, object, ⟨stays there was elsewhere, by rw [deref]; exact present, opened⟩,
          isMac, isSid⟩
      · rintro ⟨there, object, ⟨still, present, opened⟩, isMac, isSid⟩
        rw [deref] at present
        refine ⟨?_, there, object, ⟨(left there still).1, present, opened⟩, isMac, isSid⟩
        intro equal
        have otherTarget := target_of_holds invariant.tables (left there still).1 present
        have ownTarget := target_of_holds invariant.tables ⟨key, active⟩ found
        rw [isSid, (Prod.mk.inj equal).2, ownTarget] at otherTarget
        exact (left there still).2 (Option.some.inj otherTarget).symm
  · rw [deallocateSession_of_not_mem member]
    exact invariant

/-- A session whose IPCP opens is added. -/
theorem configured {runtime : Runtime} (invariant : PlaneInvariant runtime) {ref : Nat}
    {session : PPPOESession} {out : FsmOut} (active : runtime.store.activeSessions.Holds ref)
    (earlier : runtime.sessions.deref ref = some session)
    (outside : IPCPFsm.outside out.session = IPCPFsm.outside session)
    (notOpened : session.ipcp.state ≠ .opened) (opened : out.session.ipcp.state = .opened)
    (ok : ((runtime.apply ref out).configured ref out.session).vpp.AllOk) :
    PlaneInvariant ((runtime.apply ref out).configured ref out.session) := by
  have keyed : Kept PPPOESession.key runtime ((runtime.apply ref out).configured ref out.session) :=
    (kept_apply out earlier (ipcpBlind_key _ _ outside)).trans
      (kept_configured timerBlind_key.ifindex _ ref _)
  have added := VPP.provisionDp_spec ok
  have own : ∃ later, ((runtime.apply ref out).configured ref out.session).sessions.deref ref =
      some later ∧ later.ipcp.state = .opened ∧ later.encap = out.session.encap ∧
        later.sessionId = out.session.sessionId := by
    refine ⟨{ out.session with ifindex := ((runtime.apply ref out).vpp.provisionDp ref
      out.session).2.2 }, ?_, opened, rfl, rfl⟩
    unfold Runtime.configured
    dsimp only
    rw [Heap.deref_update, if_pos rfl, deref_apply_self earlier]
    rfl
  have others : forall other, other ≠ ref ->
      ((runtime.apply ref out).configured ref out.session).sessions.deref other =
        runtime.sessions.deref other := by
    intro other different
    unfold Runtime.configured
    dsimp only
    rw [Heap.deref_update, if_neg different, deref_apply_of_ne _ different]
  have same : forall other, other ≠ ref ->
      ((runtime.apply ref out).configured ref out.session).vpp.commands other =
        runtime.vpp.commands other := by
    intro other different
    have commands := added.commands other
    rw [if_neg different] at commands
    exact commands
  rcases own with ⟨later, present, laterOpened, laterEncap, laterId⟩
  refine ⟨keyed.invariant invariant.tables, ?_, ?_, ?_, ?_, ?_, ?_, ?_⟩
  · intro other
    have kept := (Untouched.apply runtime ref out).alive other
    unfold Runtime.configured
    dsimp only
    rw [Heap.isAlive_update, kept]
    exact invariant.alive other
  · intro other object dead found
    have elsewhere : other ≠ ref := fun here => dead (here ▸ active)
    rw [others other elsewhere] at found
    exact invariant.silent other object dead found
  · rintro other object ⟨was, found, isOpened⟩
    by_cases here : other = ref
    · have commands := added.commands ref
      rw [if_pos rfl] at commands
      rw [here]
      refine commands.trans ?_
      have none := invariant.down ref session active earlier notOpened
      exact congrArg (· ++ [true]) none
    · rw [others other here] at found
      rw [same other here]
      exact invariant.up other object ⟨was, found, isOpened⟩
  · intro other object was found isNotOpened
    by_cases here : other = ref
    · rw [here, present] at found
      rw [← Option.some.inj found] at isNotOpened
      exact absurd laterOpened isNotOpened
    · rw [others other here] at found
      rw [same other here]
      exact invariant.down other object was found isNotOpened
  · intro other dead
    have elsewhere : other ≠ ref := fun here => dead (here ▸ active)
    rw [same other elsewhere]
    exact invariant.gone other dead
  · intro other missing
    have elsewhere : other ≠ ref := by
      intro here
      rw [here, present] at missing
      cases missing
    rw [others other elsewhere] at missing
    rw [same other elsewhere]
    exact invariant.unmade other missing
  · intro mac sid
    have held := added.held
    rw [if_pos rfl] at held
    have members : (mac, sid) ∈ ((runtime.apply ref out).configured ref out.session).vpp.held ↔
        (mac, sid) = (out.session.encap.sourceMac, out.session.sessionId) ∨
          (mac, sid) ∈ runtime.vpp.held := by
      have unfolded : ((runtime.apply ref out).configured ref out.session).vpp.held =
          insert (out.session.encap.sourceMac, out.session.sessionId) runtime.vpp.held := held
      rw [unfolded, Finset.mem_insert]
    rw [members, invariant.held]
    constructor
    · rintro (own | ⟨other, object, ⟨was, found, isOpened⟩, named⟩)
      · exact ⟨ref, later, ⟨active, present, laterOpened⟩,
          (congrArg Encapsulation.sourceMac laterEncap).trans (Prod.mk.inj own).1.symm,
          laterId.trans (Prod.mk.inj own).2.symm⟩
      · have elsewhere : other ≠ ref := by
          intro here
          rw [here, earlier] at found
          rw [← Option.some.inj found] at isOpened
          exact notOpened isOpened
        exact ⟨other, object, ⟨was, by rw [others other elsewhere]; exact found, isOpened⟩, named⟩
    · rintro ⟨other, object, ⟨was, found, isOpened⟩, isMac, isSid⟩
      by_cases here : other = ref
      · rw [here, present] at found
        rw [← isMac, ← isSid, ← Option.some.inj found, laterEncap, laterId]
        exact .inl rfl
      · rw [others other here] at found
        exact .inr ⟨other, object, ⟨was, found, isOpened⟩, isMac, isSid⟩

/-- No object is left to be destroyed. -/
theorem collect_eq {runtime : Runtime} (invariant : PlaneInvariant runtime) (ref : Nat) :
    runtime.collect ref = runtime := by
  unfold collect
  split
  · rfl
  · rw [if_neg]
    rintro ⟨alive, inactive, _⟩
    exact inactive ((isActive_iff runtime ref).mpr ((invariant.alive ref).mp alive))

/-- A destruction that succeeds follows calls that succeeded. -/
theorem allOk_of_collect {runtime : Runtime} {ref : Nat} (ok : (runtime.collect ref).vpp.AllOk) :
    runtime.vpp.AllOk := by
  unfold collect at ok
  split at ok
  · exact ok
  · split at ok
    · exact (VPP.deprovisionDp_spec ok).allOk ok
    · exact ok

/-! ## The handlers -/

theorem processLcp {runtime after : Runtime} {env : Env} {ref : Nat} {packet : Packet}
    {err : Option String} (invariant : PlaneInvariant runtime)
    (active : runtime.store.activeSessions.Holds ref)
    (ends : ∀ session ∈ runtime.sessions.deref ref, session.lcp.state = .opened ->
      (runtime.lcpFsm env).leavesOpened session packet ->
        session.ipcp.state = .opened ∧ session.timer = [])
    (processed : runtime.processLcp env ref packet = some (after, err)) (ok : after.vpp.AllOk) :
    PlaneInvariant after := by
  rcases processLcp_cases processed with ⟨session, out, found, received, outcome⟩
  have applied := invariant.of_link (kept_applyLcp lcpBlind_link found received)
    (.apply runtime ref out)
  rcases outcome with ⟨_, _, up⟩ | ⟨_, down, ended⟩ | ⟨_, quiet⟩
  · rw [up]
    exact applied.of_link (kept_openAuth openBlind_link _ env ref) (.openAuth _ env ref)
  · rw [ended] at ok ⊢
    refine applied.deallocateSession ?_ ok
    intro other isTarget object present
    have equal : ref = other := Option.some.inj
      ((target_applyLcp invariant.tables active found received).symm.trans isTarget)
    have left := leavesOpened_of_layerDown received down
    have clean := ends session found left.1 left.2
    rw [← equal, deref_apply_self found] at present
    have same := lcpBlind_link.lcp _ _ ((lcpFsm_leaves runtime env).receive received)
    rw [← Option.some.inj present]
    exact ⟨(of_plane_eq (Prod.mk.inj same).2).2.mpr clean.1, (Prod.mk.inj same).1.trans clean.2⟩
  · rw [quiet]
    exact applied

theorem processIpcp {runtime after : Runtime} {ref : Nat} {packet : Packet}
    (invariant : PlaneInvariant runtime) (active : runtime.store.activeSessions.Holds ref)
    (stays : ∀ session ∈ runtime.sessions.deref ref, session.ipcp.state = .opened ->
      ¬ runtime.ipcpFsm.leavesOpened session packet)
    (processed : runtime.processIpcp ref packet = some after) (ok : after.vpp.AllOk) :
    PlaneInvariant after := by
  rcases processIpcp_cases processed with ⟨session, out, found, received, outcome⟩
  have outside := (ipcpFsm_leaves runtime).receive received
  have moved := (ipcpFsm_lawful runtime).receive received
  rcases outcome with ⟨_, up, configured⟩ | ⟨notUp, quiet⟩
  · rw [up] at moved
    have opened := moved.1.of_layerUp
    rw [configured, openDataPlane_eq] at ok ⊢
    exact (invariant.configured active found outside opened.1 opened.2.2.1 ok).of_timer ref
      Timer.restart (fun dead => absurd active dead)
  · rw [quiet]
    refine invariant.of_link (kept_apply out found (link_eq (AuthProtocol.outside_of_ipcp outside)
      ?_)) (.apply runtime ref out)
    cases action : out.action with
    | none =>
        rw [action] at moved
        exact moved.1.of_none.1
    | layerUp =>
        rw [action] at moved
        exact absurd ⟨moved.1.of_layerUp.2.2.2, action⟩ notUp
    | layerDown =>
        rw [action] at moved
        have left := moved.1.of_layerDown
        exact absurd (moved.2 left.1 left.2.1) (stays session found left.1)

theorem processPPP {runtime after : Runtime} {env : Env} {encap : Encapsulation} {packet : Packet}
    {err : Option String} (invariant : PlaneInvariant runtime)
    (safe : runtime.PlaneSafe { env := env, input := .session encap packet })
    (processed : runtime.processPPP env encap packet = some (after, err)) (ok : after.vpp.AllOk) :
    PlaneInvariant after := by
  rcases processPPP_cases processed with dropped | ⟨ref, found, dispatched⟩
  · rw [dropped]
    exact invariant
  · have started := kept_ensureStarted lcpBlind_link runtime env ref
    have inside := invariant.of_link started (.withSession runtime ref _)
    have active : (runtime.ensureStarted env ref).store.activeSessions.Holds ref := by
      rw [started.active]
      exact ⟨_, found⟩
    rcases dispatch_cases dispatched with
      ⟨lcp, processed⟩ | ⟨_, _, _, _, auth⟩ | ⟨ipcp, processed⟩ | same | rejected
    · refine inside.processLcp active ?_ processed ok
      intro later present opened leaves
      rcases EndsOnly.lcp safe.1 found lcp present opened leaves with ⟨session, same, clean⟩
      rw [same]
      exact clean
    · exact inside.of_link (kept_recvAuthReq authBlind_link auth) (.recvAuthReq auth)
    · refine inside.processIpcp active ?_ processed ok
      intro later present opened leaves
      have kept := kept_ensureStarted lcpBlind_ipcp runtime env ref
      rcases kept.symm.session present with ⟨session, earlier, same⟩
      refine safe.2 ipcp ref found session earlier (same ▸ opened) ?_
      rcases leaves with confReq | termReq | ⟨confAck, identifier⟩
      · exact .inl confReq
      · exact .inr (.inl termReq)
      · exact .inr (.inr ⟨confAck, identifier.trans (congrArg PPPFsm.pktId same.symm)⟩)
    · rw [same]
      exact inside
    · rw [rejected]
      exact inside.of_link (kept_rejectProtocol _ ref packet) (.withSession _ ref _)

theorem processPPPOE {runtime after : Runtime} {env : Env} {encap : Encapsulation}
    {packet : Packet} {err : Option String} (invariant : PlaneInvariant runtime)
    (safe : runtime.PlaneSafe { env := env, input := .discovery encap packet })
    (processed : runtime.processPPPOE env encap packet = some (after, err))
    (ok : after.vpp.AllOk) : PlaneInvariant after := by
  rcases processPPPOE_cases processed with ⟨_, before, queue, queued, handled⟩ | ⟨padt, ended⟩
  · have same : Kept link before after := .of_same (by rw [queued]) (by rw [queued])
    refine PlaneInvariant.of_link ?_ same (.of_same (by rw [queued]) (by rw [queued]))
    have checked : forall conn, PlaneInvariant (runtime.checkSession conn).1 := fun conn =>
      invariant.of_link (kept_checkSession runtime conn) (.checkSession runtime conn)
    rcases handled with same | ⟨conn, pended⟩ | ⟨conn, found⟩ | ⟨conn, result, allocated, entered⟩
    · rw [same]
      exact invariant
    · rw [pended]
      exact invariant.of_link (kept_pendeSession runtime conn) (.pendeSession runtime conn)
    · rw [found]
      exact checked conn
    · rw [entered]
      exact (checked conn).allocateSession allocated
  · rw [ended] at ok ⊢
    exact invariant.deallocateSession (safe.1 padt) ok

theorem echoTimer {runtime after : Runtime} {env : Env} {ref index : Nat}
    (invariant : PlaneInvariant runtime)
    (safe : runtime.PlaneSafe { env := env, input := .echoTimer ref index })
    (fired : runtime.echoTimer env ref index = some after) (ok : after.vpp.AllOk) :
    PlaneInvariant after := by
  rcases echoTimer_cases fired with ⟨session, found, handled⟩
  have popped := deref_popEcho found index
  have inside : PlaneInvariant (runtime.popEcho ref index) :=
    invariant.of_timer ref (fun timer => timer.eraseIdx index) (fun _ => rfl)
  have active : runtime.store.activeSessions.Holds ref := by
    by_contra dead
    have none := invariant.silent ref session dead found
    rw [none] at handled
    rcases handled with ⟨expired, _⟩ | ⟨aborted, _⟩
    · cases expired
    · cases aborted
  rcases handled with ⟨expired, handled⟩ | ⟨_, aborted⟩
  · rcases sendEchoReq_cases env popped with ⟨out, counted, outcome⟩
    have applied := inside.of_link (kept_countEcho popped counted rfl)
      (.apply (runtime.popEcho ref index) ref out)
    rcases outcome with ⟨silent, _, ended⟩ | ⟨_, again⟩
    · rw [ended] at handled
      have clean : ∀ other ∈ ((runtime.popEcho ref index).apply ref out).target session.sessionId,
          ∀ object ∈ ((runtime.popEcho ref index).apply ref out).sessions.deref other,
            object.ipcp.state = .opened ∧ object.timer = [] := by
        intro other isTarget object present
        have self := target_of_holds applied.tables (show
          ((runtime.popEcho ref index).apply ref out).store.activeSessions.Holds ref from active)
          (deref_apply_self popped out)
        rw [counted] at self
        have equal : ref = other := Option.some.inj (self.symm.trans isTarget)
        rw [← equal, deref_apply_self popped, counted] at present
        have was := safe.1 session found expired silent ref
          (target_popEcho invariant.tables active found index) _ popped
        rw [← Option.some.inj present]
        exact was
      rw [handled] at ok ⊢
      have deallocated := applied.deallocateSession clean (allOk_of_collect ok)
      rw [deallocated.collect_eq]
      exact deallocated
    · rw [handled, again]
      have restarted : PlaneInvariant (((runtime.popEcho ref index).apply ref out).startEcho ref) :=
        applied.of_timer ref Timer.restart (fun dead => absurd active dead)
      rw [restarted.collect_eq]
      exact restarted
  · rw [aborted, inside.collect_eq]
    exact inside

theorem step {now after : Runtime} {event : Event} (invariant : PlaneInvariant now)
    (succeed : now.CallsSucceed event) (safe : now.PlaneSafe event)
    (taken : Runtime.step now event = some after) : PlaneInvariant after := by
  have ok := succeed after taken
  rcases event with ⟨env, input⟩
  cases step_cases taken with
  | discovery processed => exact invariant.processPPPOE safe processed ok
  | session processed => exact invariant.processPPP safe processed ok
  | pendingTimer fired => exact invariant.of_link (kept_pendingTimer fired) (.pendingTimer fired)
  | echoExpires expired =>
      rw [expired]
      exact invariant.of_timer _ Timer.expire (fun _ => rfl)
  | echoTimer fired => exact invariant.echoTimer safe fired ok
  | authDatagram _ called =>
      rw [called]
      exact invariant.of_link (kept_withCalls authBlind_link now _) (.withCalls now _)
  | authTimer _ called =>
      rw [called]
      exact invariant.of_link (kept_withCalls authBlind_link now _) (.withCalls now _)
  | quiet quiet => exact invariant.of_link quiet.kept (.of_same quiet.vpp quiet.sessions)

theorem empty {start : Runtime} (fresh : start.Fresh) : PlaneInvariant start := by
  have inactive : forall ref, ¬ start.store.activeSessions.Holds ref := by
    rintro ref ⟨key, found⟩
    rw [fresh.store] at found
    cases found
  have commands : forall ref, start.vpp.commands ref = [] := by
    intro ref
    rw [VPP.commands, fresh.calls]
    rfl
  have missing : forall ref session, start.sessions.deref ref ≠ some session := by
    intro ref session found
    rw [fresh.sessions] at found
    cases found
  refine ⟨storeInvariant_empty fresh.store, ?_, fun ref session _ found => absurd found
    (missing ref session), fun ref _ isUp => absurd isUp.1 (inactive ref), fun ref _ _ _ _ => commands ref,
    fun ref _ => .inl (commands ref), fun ref _ => commands ref, ?_⟩
  · intro ref
    rw [fresh.sessions]
    exact ⟨fun impossible => absurd impossible Bool.false_ne_true, fun holds => absurd holds
      (inactive ref)⟩
  · intro mac sid
    rw [fresh.held]
    exact ⟨fun member => absurd member (Finset.notMem_empty _), fun ⟨ref, _, isUp, _⟩ => absurd isUp.1
      (inactive ref)⟩

end PlaneInvariant

/-- The data plane mirrors the control plane in every run in which every call
into VPP succeeds, no Opened IPCP is left, and every session ends with its IPCP
in Opened and without another wait of its echo timer. -/
theorem mirrors_of_run {start now : Runtime} {past : List (Runtime × Event)} (fresh : start.Fresh)
    (run : Run step (fun now event => now.CallsSucceed event ∧ now.PlaneSafe event) start past now) :
    Mirrors now := by
  have invariant : PlaneInvariant now :=
    run.invariant (PlaneInvariant.empty fresh)
      (fun _ _ _ here allowed taken => here.step allowed.1 allowed.2 taken)
  exact invariant.mirrors

/-- The daemon after an IPCP Terminate-Request for its session that is up. -/
def terminated : Runtime :=
  Foundation.after step (sampleDaemon [.none] papPolicy)
    (establish ++ [sessionEvent (sampleLink 1) 1 PPPProto.ipcp (pppHdr LCPCode.termReq 1 4)])
    (by decide +kernel)

/-- VPP keeps a session whose IPCP was terminated. -/
theorem held_after_termination :
    ¬ forall (past : List (Runtime × Event)) (now : Runtime),
      Run step CallsSucceed (sampleDaemon [.none] papPolicy) past now -> Mirrors now := by
  intro claim
  have run : ∃ past, Run step CallsSucceed (sampleDaemon [.none] papPolicy) past terminated :=
    run_after _ _ _ _ _ (by decide +kernel)
  rcases run with ⟨past, run⟩
  have held : (⟨2, 0, 0, 0, 1, 1⟩, 1) ∈ terminated.vpp.held := by decide +kernel
  rcases ((claim past terminated run).held _ _).mp held with
    ⟨ref, session, ⟨active, found, opened⟩, _⟩
  have closed : ∀ ref ∈ terminated.store.activeSessions.values,
      ∀ session ∈ terminated.sessions.deref ref, session.ipcp.state ≠ .opened := by
    decide +kernel
  exact closed ref (Table.mem_values_iff.mpr active) session found opened

/-- The two levels agree when the session ends by its tenth unanswered request. -/
theorem mirrors_after_silence :
    ∃ past now, Run step (fun now event => now.CallsSucceed event ∧ now.PlaneSafe event)
        (sampleDaemon [.none] papPolicy) past now ∧
      now.vpp.commands 0 = [true, false] ∧ Mirrors now := by
  have run : ∃ past, Run step (fun now event => now.CallsSucceed event ∧ now.PlaneSafe event)
      (sampleDaemon [.none] papPolicy) past silenced :=
    run_after _ _ _ _ _ (by decide +kernel)
  rcases run with ⟨past, run⟩
  have commands : silenced.vpp.commands 0 = [true, false] := by decide +kernel
  exact ⟨past, silenced, run, commands, mirrors_of_run (fresh_sampleDaemon _ _) run⟩

end Runtime

end Pppcpd
