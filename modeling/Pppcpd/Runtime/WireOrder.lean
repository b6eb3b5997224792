import Pppcpd.Foundation.Warrant
import Pppcpd.Runtime.Confinement
import Pppcpd.Runtime.Consistency

namespace Pppcpd

open Foundation

/-!
# The order of frames on the wire

Discovery replies and session frames wait in two queues, and `periodic` writes out first
the one and then the other.  So the order in which frames were queued is not the order
in which they are written.  What a peer relies on is kept: he never sees a frame of a
session before the PADS that gave it to him.
-/

namespace Runtime

variable {hwaddr : Mac} {now after : Runtime} {event : Event} {frames more : List Bytes}

/-- What an event writes out. -/
def written (now : Runtime) (event : Event) : List Bytes :=
  match event.input with
  | .periodic => now.pppoeOutcoming ++ now.pppOutcoming
  | _ => []

/-- What a run has written out, oldest first. -/
def wire : List (Runtime × Event) -> List Bytes
  | [] => []
  | (now, event) :: past => wire past ++ written now event

/-- A discovery frame on some link. -/
def IsDiscovery (hwaddr : Mac) (frame : Bytes) : Prop :=
  ∃ encap : Encapsulation, encap.generateHeader hwaddr ethPppoeDiscovery <+: frame

/-- A PADS with a session id is among the frames for a link. -/
def Offered (hwaddr : Mac) (frames : List Bytes) (encap : Encapsulation) (sid : UInt16) : Prop :=
  ∃ packet, encap.generateHeader hwaddr ethPppoeDiscovery ++ packet ∈ frames ∧
    forall behind, Packet.pppoeCode ⟨packet, behind⟩ = PPPOECode.pads ∧
      Packet.pppoeSessionId ⟨packet, behind⟩ = sid

/-- A frame of a session whose PADS is among the frames. -/
def Prefaced (hwaddr : Mac) (frames : List Bytes) (frame : Bytes) : Prop :=
  ∃ encap sid, FrameOf hwaddr encap sid frame ∧ Offered hwaddr frames encap sid

/-- What may follow the frames. -/
def MayFollow (hwaddr : Mac) (frames : List Bytes) (frame : Bytes) : Prop :=
  IsDiscovery hwaddr frame ∨ Prefaced hwaddr frames frame

theorem Offered.mono {encap : Encapsulation} {sid : UInt16} (offered : Offered hwaddr frames encap sid)
    (within : frames ⊆ more) : Offered hwaddr more encap sid := by
  rcases offered with ⟨packet, member, isPads⟩
  exact ⟨packet, within member, isPads⟩

theorem Prefaced.mono {frame : Bytes} (prefaced : Prefaced hwaddr frames frame) (within : frames ⊆ more) :
    Prefaced hwaddr more frame := by
  rcases prefaced with ⟨encap, sid, isFrame, offered⟩
  exact ⟨encap, sid, isFrame, offered.mono within⟩

theorem mayFollow_mono {longer : List Bytes} {frame : Bytes} (begins : frames <+: longer)
    (follows : MayFollow hwaddr frames frame) : MayFollow hwaddr longer frame :=
  follows.imp (fun discovery => discovery) (fun prefaced => prefaced.mono begins.subset)

/-- What a step adds to the discovery queue: replies, and one for every session object
that it makes. -/
structure Replies (now after : Runtime) : Prop where
  hwaddr : after.hwaddr = now.hwaddr
  queue : ∃ replies, after.pppoeOutcoming = now.pppoeOutcoming ++ replies ∧
    (∀ frame ∈ replies, IsDiscovery now.hwaddr frame) ∧
      forall ref session, after.sessions.deref ref = some session ->
        (now.sessions.deref ref).map PPPOESession.identity = some session.identity ∨
          Offered now.hwaddr replies session.encap session.sessionId

theorem Replies.of_same (hwaddr : after.hwaddr = now.hwaddr)
    (queue : after.pppoeOutcoming = now.pppoeOutcoming)
    (objects : forall ref, (after.sessions.deref ref).map PPPOESession.identity =
      (now.sessions.deref ref).map PPPOESession.identity) : Replies now after := by
  refine ⟨hwaddr, [], by rw [queue, List.append_nil], fun _ member => absurd member List.not_mem_nil,
    fun ref session found => .inl ?_⟩
  rw [← objects ref, found]
  rfl

/-! ## Steps that leave the discovery queue -/

theorem pppoeOutcoming_collect (runtime : Runtime) (ref : Nat) :
    (runtime.collect ref).pppoeOutcoming = runtime.pppoeOutcoming := by
  unfold collect
  split
  · rfl
  · split <;> rfl

theorem pppoeOutcoming_deallocateSession (runtime : Runtime) (sid : UInt16) :
    (runtime.deallocateSession sid).1.pppoeOutcoming = runtime.pppoeOutcoming := by
  unfold deallocateSession
  split
  · split
    · unfold releaseId removeSession
      split
      · rfl
      · exact pppoeOutcoming_collect _ _
    · rfl
  · rfl

theorem callbacks_outside (runtime : Runtime) (calls : List CallbackCall) :
    (runtime.callbacks calls).hwaddr = runtime.hwaddr ∧
      (runtime.callbacks calls).pppoeOutcoming = runtime.pppoeOutcoming := by
  unfold callbacks
  induction calls generalizing runtime with
  | nil => exact ⟨rfl, rfl⟩
  | cons call rest inductionHypothesis =>
      have called : (runtime.callback call).hwaddr = runtime.hwaddr ∧
          (runtime.callback call).pppoeOutcoming = runtime.pppoeOutcoming := by
        unfold callback withSession
        split <;> exact ⟨rfl, rfl⟩
      have later := inductionHypothesis (runtime.callback call)
      exact ⟨later.1.trans called.1, later.2.trans called.2⟩

theorem pppoeOutcoming_echoTimer {env : Env} {ref index : Nat}
    (fired : now.echoTimer env ref index = some after) :
    after.pppoeOutcoming = now.pppoeOutcoming := by
  rcases echoTimer_cases fired with ⟨session, found, ⟨_, expired⟩ | ⟨_, aborted⟩⟩
  · rw [expired, pppoeOutcoming_collect]
    have popped : (now.popEcho ref index).sessions.deref ref =
        some { session with timer := session.timer.eraseIdx index } := by
      unfold popEcho
      dsimp only
      rw [Heap.deref_update, if_pos rfl, found]
      rfl
    rcases sendEchoReq_cases env popped with ⟨out, _, ⟨_, _, ended⟩ | ⟨_, again⟩⟩
    · rw [ended, pppoeOutcoming_deallocateSession]
      rfl
    · rw [again]
      rfl
  · rw [aborted, pppoeOutcoming_collect]
    rfl

theorem replies_withCalls (outcome : AAA × List CallbackCall) : Replies now (now.withCalls outcome) := by
  have outside := callbacks_outside (now.withAaa outcome.1) outcome.2
  exact .of_same outside.1 outside.2 (kept_withCalls authBlind_identity now outcome).objects

/-! ## Discovery packets -/

/-- A PADS names its session. -/
theorem packet_pads (made : Discovery.Reply) (sid : UInt16) (behind : Nat -> UInt8) :
    Packet.pppoeCode ⟨made.packet PPPOECode.pads sid, behind⟩ = PPPOECode.pads ∧
      Packet.pppoeSessionId ⟨made.packet PPPOECode.pads sid, behind⟩ = sid :=
  ⟨rfl, be16_bytes16 sid⟩

/-- A reply is queued, and it is the PADS of the session objects that are new. -/
theorem replies_reply {encap : Encapsulation} {outcome : Runtime × Except String Bytes}
    (hwaddr : outcome.1.hwaddr = now.hwaddr)
    (queue : outcome.1.pppoeOutcoming = now.pppoeOutcoming)
    (objects : forall ref session, outcome.1.sessions.deref ref = some session ->
      (now.sessions.deref ref).map PPPOESession.identity = some session.identity ∨
        session.encap = encap ∧ ∃ made : Discovery.Reply,
          outcome.2 = .ok (made.packet PPPOECode.pads session.sessionId)) :
    Replies now (reply encap outcome).1 := by
  unfold reply
  cases answered : outcome.2 with
  | error err =>
      refine ⟨hwaddr, [], by rw [List.append_nil]; exact queue,
        fun _ member => absurd member List.not_mem_nil, fun ref session found => ?_⟩
      rcases objects ref session found with old | ⟨_, made, isPads⟩
      · exact .inl old
      · cases answered.symm.trans isPads
  | ok packet =>
      refine ⟨hwaddr, [encap.generateHeader now.hwaddr ethPppoeDiscovery ++ packet], ?_,
        fun frame member => ?_, fun ref session found => ?_⟩
      · dsimp only
        rw [queue, hwaddr]
      · rw [List.mem_singleton.mp member]
        exact ⟨encap, List.prefix_append _ _⟩
      · rcases objects ref session found with old | ⟨isEncap, made, isPads⟩
        · exact .inl old
        · refine .inr ⟨packet, ?_, ?_⟩
          · rw [isEncap]
            exact List.mem_singleton_self _
          · rw [Except.ok.inj (answered.symm.trans isPads)]
            exact packet_pads made session.sessionId

theorem identity_of_kept (kept : Kept PPPOESession.identity now after) (ref : Nat)
    {session : PPPOESession} (found : after.sessions.deref ref = some session) :
    (now.sessions.deref ref).map PPPOESession.identity = some session.identity := by
  rw [← kept.objects ref, found]
  rfl

/-- A PADI makes no session object. -/
theorem replies_processPadi (env : Env) (encap : Encapsulation) (packet : Packet) :
    Replies now (reply encap (now.processPadi env encap packet)).1 := by
  have pended (conn : PPPOEConn) : (now.pendeSession conn).1.hwaddr = now.hwaddr ∧
      (now.pendeSession conn).1.pppoeOutcoming = now.pppoeOutcoming := by
    unfold pendeSession
    split <;> exact ⟨rfl, rfl⟩
  unfold processPadi
  split
  · exact replies_reply rfl rfl (fun ref session found => .inl (by rw [found]; rfl))
  · dsimp only
    split
    · exact replies_reply (pended _).1 (pended _).2 (fun ref session found =>
        .inl (identity_of_kept (kept_pendeSession now _) ref found))
    · exact replies_reply (pended _).1 (pended _).2 (fun ref session found =>
        .inl (identity_of_kept (kept_pendeSession now _) ref found))

/-- A PADR queues the PADS of the session object that it makes. -/
theorem replies_processPadr {env : Env} {encap : Encapsulation} {packet : Packet}
    {outcome : Runtime × Except String Bytes} (tables : StoreInvariant now)
    (handled : now.processPadr env encap packet = some outcome) :
    Replies now (reply encap outcome).1 := by
  have checked (conn : PPPOEConn) : (now.checkSession conn).1.hwaddr = now.hwaddr ∧
      (now.checkSession conn).1.pppoeOutcoming = now.pppoeOutcoming := by
    simp only [checkSession]
    split <;> exact ⟨rfl, rfl⟩
  have same (conn : PPPOEConn) (ref : Nat) (session : PPPOESession)
      (found : (now.checkSession conn).1.sessions.deref ref = some session) :=
    identity_of_kept (kept_checkSession now conn) ref found
  unfold processPadr at handled
  split at handled
  · rw [← Option.some.inj handled]
    exact replies_reply rfl rfl (fun ref session found => .inl (by rw [found]; rfl))
  · rename_i tags _
    dsimp only at handled
    split at handled
    · rcases Option.map_eq_some_iff.mp handled with ⟨result, allocated, equal⟩
      rcases allocateSession_cases ((kept_checkSession now _).invariant tables) env encap allocated with
        full | ⟨id, _, _, entered⟩
      · rw [full] at equal
        rw [← equal]
        exact replies_reply (checked _).1 (checked _).2 (fun ref session found =>
          .inl (same _ ref session found))
      · rw [entered] at equal
        rw [← equal]
        refine replies_reply (checked _).1 (checked _).2 (fun ref session found => ?_)
        dsimp only at found
        rw [Heap.deref_make] at found
        split at found
        · rw [← Option.some.inj found]
          exact .inr ⟨rfl, padsTags tags, rfl⟩
        · exact .inl (same _ ref session found)
    · rw [← Option.some.inj handled]
      exact replies_reply (checked _).1 (checked _).2 (fun ref session found =>
        .inl (same _ ref session found))

theorem replies_processPPPOE {env : Env} {encap : Encapsulation} {packet : Packet}
    {err : Option String} (tables : StoreInvariant now)
    (processed : now.processPPPOE env encap packet = some (after, err)) : Replies now after := by
  unfold processPPPOE at processed
  split at processed
  · rw [← show _ = after from congrArg Prod.fst (Option.some.inj processed)]
    exact replies_processPadi env encap packet
  · split at processed
    · rcases Option.map_eq_some_iff.mp processed with ⟨outcome, handled, equal⟩
      rw [← show _ = after from congrArg Prod.fst equal]
      exact replies_processPadr tables handled
    · split at processed
      · rw [← show _ = after from congrArg Prod.fst (Option.some.inj processed)]
        refine .of_same (deallocateSession_link now _).1 (pppoeOutcoming_deallocateSession now _)
          (fun ref => ?_)
        rw [deref_deallocateSession]
      · rw [← show _ = after from congrArg Prod.fst (Option.some.inj processed)]
        exact .of_same rfl rfl (fun _ => rfl)

/-- Only `periodic` takes frames from the discovery queue. -/
theorem replies_step (references : ReferenceInvariant now) (waits : event.input ≠ .periodic)
    (taken : step now event = some after) : Replies now after := by
  rcases event with ⟨env, input⟩
  cases input with
  | discovery encap packet =>
      rcases Option.map_eq_some_iff.mp taken with ⟨⟨_, err⟩, processed, equal⟩
      exact equal ▸ replies_processPPPOE references.tables processed
  | session encap packet =>
      rcases Option.map_eq_some_iff.mp taken with ⟨⟨_, err⟩, processed, equal⟩
      rw [← equal]
      rcases processPPP_cases processed with dropped | ⟨ref, registered, _⟩
      · rw [show _ = _ from dropped]
        exact .of_same rfl rfl (fun _ => rfl)
      · rcases references.tables.keyed _ ref registered with ⟨session, present, _⟩
        have confined := confined_processPPP references registered present processed
        exact .of_same confined.hwaddr confined.replies (@queues_processPPP False _ _ _ _ _ _ ref
          session references.entered registered present False.elim False.elim processed).objects
  | pendingTimer index =>
      have kept := @kept_pendingTimer _ PPPOESession.identity _ _ _ taken
      rcases Option.map_eq_some_iff.mp taken with ⟨conn, _, equal⟩
      rw [← equal] at kept ⊢
      exact .of_same rfl rfl kept.objects
  | echoTimer ref index =>
      rcases echoTimer_cases taken with ⟨session, present, _⟩
      have queues := @queues_echoTimer False 0 session.identity ref now after env index
        (fun object found => by rw [← Option.some.inj (present.symm.trans found)]) taken
      exact .of_same queues.hwaddr (pppoeOutcoming_echoTimer taken) queues.objects
  | authDatagram datagram | authTimer id =>
      rcases Option.map_eq_some_iff.mp taken with ⟨outcome, _, equal⟩
      exact equal ▸ replies_withCalls outcome
  | acctDatagram datagram | acctTimer id | interimTimer ref index =>
      rcases Option.map_eq_some_iff.mp taken with ⟨aaa, _, equal⟩
      exact equal ▸ .of_same rfl rfl (fun _ => rfl)
  | echoExpires ref =>
      rw [← Option.some.inj taken]
      exact .of_same rfl rfl (kept_echoExpires timerBlind_identity now ref).objects
  | authExpires id | acctExpires id | interimExpires ref | collectCounters counters =>
      exact Option.some.inj taken ▸ .of_same rfl rfl (fun _ => rfl)
  | reload conf =>
      unfold step at taken
      dsimp only at taken
      split at taken
      · exact Option.some.inj taken ▸ .of_same rfl rfl (fun _ => rfl)
      · cases taken
  | periodic => exact absurd rfl waits

/-! ## Runs -/

/-- The session packets are well formed, and the names of the daemon are short. -/
def Polite (now : Runtime) (event : Event) : Prop :=
  (forall encap packet, event.input = .session encap packet -> WellFormedFrame packet) ∧
    forall vlan, (now.policy vlan).acName.length < 1400

/-- Everything that was written out is in order, and so will be what waits in the queues. -/
structure InOrder (hwaddr : Mac) (frames : List Bytes) (now : Runtime) : Prop where
  references : ReferenceInvariant now
  agree : now.IdsAgree
  isHwaddr : now.hwaddr = hwaddr
  warranted : Warranted (MayFollow hwaddr) frames
  replies : ∀ frame ∈ now.pppoeOutcoming, IsDiscovery hwaddr frame
  queued : ∀ frame ∈ now.pppOutcoming, Prefaced hwaddr (frames ++ now.pppoeOutcoming) frame
  offered : forall ref session, now.sessions.deref ref = some session ->
    Offered hwaddr (frames ++ now.pppoeOutcoming) session.encap session.sessionId

/-- Writing out both queues, the discovery queue first. -/
theorem InOrder.periodic (inOrder : InOrder hwaddr frames now) :
    InOrder hwaddr (frames ++ (now.pppoeOutcoming ++ now.pppOutcoming))
      { now with pppoeOutcoming := [], pppOutcoming := [] } := by
  have steady : Steady now { now with pppoeOutcoming := [], pppOutcoming := [] } :=
    .of_kept (.of_same rfl rfl) rfl
  rw [← List.append_assoc]
  refine ⟨?_, inOrder.agree, inOrder.isHwaddr, ?_, fun _ member => absurd member List.not_mem_nil,
    fun _ member => absurd member List.not_mem_nil, fun ref session found => ?_⟩
  · exact steady.invariant inOrder.references
  · have first : Warranted (MayFollow hwaddr) (frames ++ now.pppoeOutcoming) :=
      inOrder.warranted.append (fun _ _ _ => mayFollow_mono)
        (fun frame member => .inl (inOrder.replies frame member))
    exact first.append (fun _ _ _ => mayFollow_mono)
      (fun frame member => .inr (inOrder.queued frame member))
  · refine (inOrder.offered ref session found).mono ?_
    exact List.Subset.trans (List.subset_append_left _ _) (List.subset_append_left _ _)

/-- Any other event only adds to the queues. -/
theorem InOrder.queue (inOrder : InOrder hwaddr frames now) (polite : Polite now event)
    (waits : event.input ≠ .periodic) (taken : step now event = some after) :
    InOrder hwaddr frames after := by
  have replied := replies_step inOrder.references waits taken
  rcases replied.queue with ⟨replies, queue, discovery, objects⟩
  rcases framesConsistent_step inOrder.references inOrder.agree polite.1 polite.2 taken with
    ⟨queued, more, sent, before, consistent⟩
  have within : frames ++ now.pppoeOutcoming ⊆ frames ++ after.pppoeOutcoming := by
    rw [queue, ← List.append_assoc]
    exact List.subset_append_left _ _
  have isHwaddr := inOrder.isHwaddr
  refine ⟨referenceInvariant_step inOrder.references taken,
    idsAgree_step inOrder.references inOrder.agree taken, replied.hwaddr.trans isHwaddr,
    inOrder.warranted, fun frame member => ?_, fun frame member => ?_, fun ref session found => ?_⟩
  · rw [queue] at member
    rcases List.mem_append.mp member with old | new
    · exact inOrder.replies frame old
    · exact isHwaddr ▸ discovery frame new
  · rw [sent] at member
    rcases List.mem_append.mp member with old | new
    · rcases before with same | none
      · exact (inOrder.queued frame (same ▸ old)).mono within
      · rw [none] at old
        exact absurd old List.not_mem_nil
    · rcases consistent frame new with ⟨ref, session, _, found, isFrame⟩
      exact ⟨_, _, isHwaddr ▸ isFrame, (inOrder.offered ref session found).mono within⟩
  · rcases objects ref session found with old | new
    · rcases Option.map_eq_some_iff.mp old with ⟨earlier, was, same⟩
      have isEncap : earlier.encap = session.encap := congrArg Identity.encap same
      have isSid : earlier.sessionId = session.sessionId := congrArg Identity.sessionId same
      rw [← isEncap, ← isSid]
      exact (inOrder.offered ref earlier was).mono within
    · rw [isHwaddr] at new
      refine new.mono (fun frame member => List.mem_append_right _ ?_)
      rw [queue]
      exact List.mem_append_right _ member

theorem InOrder.step (inOrder : InOrder hwaddr frames now) (polite : Polite now event)
    (taken : step now event = some after) :
    InOrder hwaddr (frames ++ written now event) after := by
  by_cases writes : event.input = .periodic
  · rcases event with ⟨env, input⟩
    cases writes
    rw [← Option.some.inj taken]
    exact inOrder.periodic
  · have nothing : written now event = [] := by
      unfold written
      split
      · exact absurd ‹_› writes
      · rfl
    rw [nothing, List.append_nil]
    exact inOrder.queue polite writes taken

/-- In every run, each frame that is written out is a discovery frame, or a frame of a
session whose PADS, to the same link and with the same id, was written out before it. -/
theorem pads_precedes_frames {start : Runtime} {past : List (Runtime × Event)} (fresh : start.Fresh)
    (silent : start.pppoeOutcoming = [] ∧ start.pppOutcoming = [])
    (run : Run step Polite start past now) : Warranted (MayFollow start.hwaddr) (wire past) := by
  refine (@Run.invariantPast _ _ step Polite start now past
    (fun past current => InOrder start.hwaddr (wire past) current) ?_ ?_ run).warranted
  · refine ⟨referenceInvariant_fresh fresh, fun ref session found => ?_, rfl, warranted_nil _, ?_, ?_,
      fun ref session found => ?_⟩
    · rw [fresh.sessions] at found
      cases found
    · rw [silent.1]
      exact fun _ member => absurd member List.not_mem_nil
    · rw [silent.2]
      exact fun _ member => absurd member List.not_mem_nil
    · rw [fresh.sessions] at found
      cases found
  · exact fun past current event after inOrder polite taken => inOrder.step polite taken

/-- The daemon has one policy, with a short name. -/
def ShortName (now : Runtime) : Prop :=
  now.pppoeConfs.entries = [] ∧ now.defaultPppoeConf.acName.length < 1400

instance (now : Runtime) : Decidable now.ShortName := inferInstanceAs (Decidable (_ ∧ _))

theorem permitted_polite {start : Runtime} {events : List Event}
    (wellFormed : ∀ event ∈ events, forall encap packet, event.input = .session encap packet ->
      WellFormedFrame packet)
    (short : Permitted step (fun now _ => now.ShortName) start events) :
    Permitted step Polite start events := by
  induction events generalizing start with
  | nil => trivial
  | cons event rest inductionHypothesis =>
      refine ⟨⟨wellFormed event List.mem_cons_self, fun vlan => ?_⟩, fun later taken => ?_⟩
      · have absent : start.pppoeConfs.lookup vlan = none := by
          rw [AList.lookup, short.1.1, List.dlookup_nil]
        unfold policy
        rw [absent, Option.getD_none]
        exact short.1.2
      · exact inductionHypothesis (fun other member => wellFormed other (List.mem_cons_of_mem _ member))
          (short.2 later taken)

/-- A subscriber connects and asks for LCP at once. -/
def askLcp : Packet := receivedPacket (configurePacket 1 PPPProto.lcp LCPCode.confReq 1 [])

def hasty : List Event := connect (sampleLink 1) ++ [{ input := .session (sampleLink 1) askLcp }]

/-- Then frames wait in both queues. -/
def hurried : Runtime :=
  Foundation.after step (sampleDaemon [.none] papPolicy) hasty (by decide +kernel)

/-- They are written out in order. -/
theorem pads_precedes_frames_at_hurried : ∃ past,
    hurried.pppoeOutcoming ≠ [] ∧ hurried.pppOutcoming ≠ [] ∧
      Warranted (MayFollow (sampleDaemon [.none] papPolicy).hwaddr)
        (wire past ++ (hurried.pppoeOutcoming ++ hurried.pppOutcoming)) := by
  have configures : Configures askLcp.bytes 1 PPPProto.lcp LCPCode.confReq 1 [] :=
    configures_configurePacket 1 PPPProto.lcp LCPCode.confReq 1 (by decide)
  have wellFormed : WellFormedFrame askLcp :=
    ⟨configures.selfConsistent _, fun isIpcp => absurd isIpcp (by decide +kernel)⟩
  have frames : ∀ event ∈ hasty, forall encap packet, event.input = .session encap packet ->
      WellFormedFrame packet := by
    intro event member encap packet isFrame
    rcases List.mem_append.mp member with first | last
    · rcases List.mem_pair.mp first with padi | padr
      · rw [padi] at isFrame
        cases isFrame
      · rw [padr] at isFrame
        cases isFrame
    · rw [List.mem_singleton.mp last] at isFrame
      rw [← (Input.session.inj isFrame).2]
      exact wellFormed
  rcases run_after step Polite (sampleDaemon [.none] papPolicy) hasty (by decide +kernel)
    (permitted_polite frames (by decide +kernel)) with ⟨past, run⟩
  have polite : Polite hurried { input := .periodic } :=
    (@permitted_polite hurried [{ input := .periodic }] (fun event member encap packet isFrame => by
      rw [List.mem_singleton.mp member] at isFrame
      cases isFrame) (by decide +kernel)).1
  exact ⟨past, by decide +kernel, by decide +kernel,
    pads_precedes_frames (fresh_sampleDaemon [.none] papPolicy) ⟨rfl, rfl⟩ (.next run polite rfl)⟩

end Runtime

end Pppcpd
