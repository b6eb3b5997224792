import Pppcpd.Runtime.Confinement
import Pppcpd.Runtime.Openable
import Pppcpd.Runtime.Service
import Pppcpd.Runtime.Tags

namespace Pppcpd

open Foundation Discovery

/-!
# The way of a newcomer

A subscriber whose link has no session yet asks for one with a PADI and a PADR, and
then opens it.  He needs a session id that is not in use, and AAA has to admit him.
Nothing else of the state matters, neither the other sessions nor what is pending,
and no other session loses its entry while he comes up.
-/

/-- What a newcomer and the server of AAA do: discovery packets of his link, and
messages for a session. -/
inductive Arrival
  | discovers (bytes : Bytes)
  | sends (message : Message)

/-- What chance contributes: the random values, with a cookie as long as
`random_string( 16 )` makes it, and the memory behind the bytes of a packet. -/
structure Draw where
  env : Env
  behind : Nat -> UInt8
  cookie : env.cookie.length = 16

namespace Arrival

def event (encap : Encapsulation) (draw : Draw) : Arrival -> Event
  | .discovers bytes =>
      { env := draw.env, input := .discovery encap { bytes := bytes, behind := draw.behind } }
  | .sends message => message.event (draw.env, draw.behind)

/-- Every frame is of the link. -/
def IsOf (encap : Encapsulation) : Arrival -> Prop
  | .discovers _ => True
  | .sends message => ∃ id, message.IsFor (.ofEncap encap id)

end Arrival

namespace Discovery

/-- A discovery packet without a session id: a header and its payload. -/
def newcomerPacket (code : UInt8) (payload : Bytes) : Bytes :=
  [0x11, code, 0, 0] ++ bytes16 (UInt16.ofNat payload.length) ++ payload

/-- A PADI without a service name, and a PADR with the cookie of a PADO. -/
def newcomerPadi : Bytes := newcomerPacket PPPOECode.padi (tagBytes PPPOETag.endOfList [])

def newcomerPadr (cookie : Bytes) : Bytes :=
  newcomerPacket PPPOECode.padr (encodeTags [(PPPOETag.acCookie, cookie)])

theorem tagsOf_newcomerPacket {code : UInt8} {payload : Bytes} {behind : Nat -> UInt8} {tags : Tags}
    (name : String) (parsed : parseTags ⟨payload, behind⟩ = (tags, none)) :
    tagsOf name ⟨newcomerPacket code payload, behind⟩ = .ok tags := by
  have long : ¬ (newcomerPacket code payload).length < sizeofPPPOEDiscHdr := by
    unfold newcomerPacket
    rw [List.length_append]
    exact Nat.not_lt_of_ge (Nat.le_add_right 6 _)
  have isRest : Discovery.payload ⟨newcomerPacket code payload, behind⟩ = .ok ⟨payload, behind⟩ := by
    unfold Discovery.payload
    rw [if_neg long]
    rfl
  unfold tagsOf
  rw [isRest]
  simp only [Except.bind, parsed]

theorem parsed_newcomerPadi (behind : Nat -> UInt8) :
    tagsOf "PADI" ⟨newcomerPadi, behind⟩ = .ok ∅ := by
  refine tagsOf_newcomerPacket "PADI" ?_
  have isTag : Buffer.field16 ⟨tagBytes PPPOETag.endOfList [], behind⟩ 0 = PPPOETag.endOfList :=
    Buffer.field16_bytes16 PPPOETag.endOfList _ behind
  unfold parseTags
  rw [parseTagsFrom, isTag]
  exact if_pos (by rfl)

/-- The daemon reads the cookie of the PADR. -/
theorem parsed_newcomerPadr {cookie : Bytes} (fits : cookie.length < 65536)
    (behind : Nat -> UInt8) :
    ∃ tags, tagsOf "PADR" ⟨newcomerPadr cookie, behind⟩ = .ok tags ∧
      Runtime.padrCookie tags = cookie := by
  have wellFormed : WellFormed [(PPPOETag.acCookie, cookie)] := by
    refine ⟨List.nodup_singleton _, fun tag member => ?_, fun tag member => ?_⟩
    · rw [List.mem_singleton.mp member]
      show PPPOETag.acCookie ≠ PPPOETag.endOfList
      decide
    · rw [List.mem_singleton.mp member]
      exact fits
  rcases parseTags_encodeTags wellFormed (.inl rfl) (.inl (List.cons_ne_nil _ _)) behind with
    ⟨tags, parsed, holds⟩
  rw [List.append_nil] at parsed
  have found := (holds PPPOETag.acCookie cookie).mpr (List.mem_singleton_self _)
  refine ⟨tags, tagsOf_newcomerPacket "PADR" parsed, ?_⟩
  unfold Runtime.padrCookie
  rw [found]
  rfl

end Discovery

namespace Runtime

variable {key : PPPOEKey} {ref : Nat} {now before after : Runtime} {encap : Encapsulation}

/-- Every session that is active before is active afterwards, under the same key and
with the same object. -/
def Retains (before after : Runtime) : Prop := forall key ref, Lives key ref before -> Lives key ref after

/-- The newcomer has a session under an id that was not in use, and it is open. -/
def Arrived (encap : Encapsulation) (before after : Runtime) : Prop :=
  ∃ id, id ∉ before.store.sessionSet ∧
    Lives (.ofEncap encap id) before.sessions.length after ∧ BothOpened before.sessions.length after

/-- A session packet leaves the entries of other keys. -/
theorem lookup_processPPP {env : Env} {packet : Packet} {err : Option String}
    (references : ReferenceInvariant now) (different : key ≠ frameKey encap packet)
    (processed : now.processPPP env encap packet = some (after, err)) :
    after.store.activeSessions.lookup key = now.store.activeSessions.lookup key := by
  rcases processPPP_cases processed with dropped | ⟨ref, registered, _⟩
  · rw [dropped]
  · rcases references.tables.keyed _ ref registered with ⟨session, present, _⟩
    refine (confined_processPPP references registered present processed).active key (fun same => ?_)
    exact different (key_eq_of_holds references.tables same registered)

/-- What is said for one session leaves the entries of the others. -/
theorem lookup_message {chance : Env × (Nat -> UInt8)} {message : Message}
    (references : ReferenceInvariant now) {other : PPPOEKey} (different : key ≠ other)
    (isFor : message.IsFor other) (taken : step now (message.event chance) = some after) :
    after.store.activeSessions.lookup key = now.store.activeSessions.lookup key := by
  cases message with
  | frame encap bytes =>
      rcases Option.map_eq_some_iff.mp taken with ⟨⟨_, err⟩, processed, equal⟩
      rw [← equal]
      refine lookup_processPPP references ?_ processed
      rw [isFor chance.2]
      exact different
  | answer datagram =>
      rcases Option.map_eq_some_iff.mp taken with ⟨outcome, _, equal⟩
      rw [← equal, (kept_withCalls authBlind_key now outcome).active]
  | expires id =>
      rw [← Option.some.inj taken]
      rfl
  | timeout id =>
      rcases Option.map_eq_some_iff.mp taken with ⟨outcome, _, equal⟩
      rw [← equal, (kept_withCalls authBlind_key now outcome).active]

/-- A session that can be opened is opened, and the sessions of other keys are
retained. -/
theorem canOpen_retains (canOpen : CanOpen key ref now) (references : ReferenceInvariant now)
    (retains : Retains before now) (new : forall ref, ¬ Lives key ref before) :
    Forces step Message.event (Message.IsFor key) (Retains before)
      (fun later => BothOpened ref later ∧ Lives key ref later) now := by
  have start : ReferenceInvariant now ∧ Retains before now := ⟨references, retains⟩
  have kept : forall current chance choice (later : Runtime),
      ReferenceInvariant current ∧ Retains before current -> Message.IsFor key choice ->
        step current (Message.event chance choice) = some later ->
          ReferenceInvariant later ∧ Retains before later := by
    intro current chance message later here isFor taken
    refine ⟨referenceInvariant_step here.1 taken, fun other ref lives => ?_⟩
    have different : other ≠ key := fun same => new ref (same ▸ lives)
    unfold Lives
    rw [lookup_message here.1 different isFor taken]
    exact here.2 other ref lives
  exact (@Forces.keeping _ _ _ _ _ _ _ _ _ _
    (fun later => ReferenceInvariant later ∧ Retains before later) start kept canOpen).weaken
      (fun _ both => both.2) (fun _ both => both)

/-- The daemon after the PADR of a newcomer. -/
theorem step_newcomerPadr {env : Env} {behind : Nat -> UInt8} {cookie : Bytes} {id : UInt16}
    (tables : StoreInvariant now) (pends : connOf encap cookie ∈ now.store.pendingSession)
    (short : cookie.length < 65536) (free : now.freeId = some id) :
    ∃ after, step now { env := env, input := .discovery encap ⟨newcomerPadr cookie, behind⟩ } =
        some after ∧ after.aaa = now.aaa ∧
      after.store = ((now.clearPendingSession (connOf encap cookie)).registering env encap id).store ∧
      after.sessions = now.sessions.make (.construct env.session encap id) := by
  rcases parsed_newcomerPadr short behind with ⟨tags, parsed, isCookie⟩
  have padr : Packet.pppoeCode ⟨newcomerPadr cookie, behind⟩ = PPPOECode.padr := rfl
  have handled := @processPPPOE_of_padr now env encap _ tables padr
  rw [padrOutcome_registers parsed (isCookie.symm ▸ pends) free, isCookie] at handled
  exact ⟨_, congrArg (Option.map Prod.fst) handled, rfl, rfl, rfl⟩

/-- A newcomer who has got a PADO gets a session with a PADR, and opens it. -/
theorem forces_padr (invariant : ProgressInvariant now) (retains : Retains before now)
    (inUse : now.store.sessionSet = before.store.sessionSet)
    (objects : now.sessions = before.sessions) {cookie : Bytes}
    (pends : connOf encap cookie ∈ now.store.pendingSession) (short : cookie.length < 65536)
    (tables : StoreInvariant before) (room : ¬ now.IdsExhausted)
    (admits : now.aaa.Admits encap ⟨now.sessions.length, .pap⟩) :
    Forces step (Arrival.event encap) (Arrival.IsOf encap) (Retains before) (Arrived encap before)
      now := by
  rcases Option.ne_none_iff_exists'.mp (fun none =>
    room ((freeId_eq_none_iff invariant.references.tables).mp none)) with ⟨id, free⟩
  have unused := not_mem_of_freeId free
  have new : forall other, ¬ Lives (.ofEncap encap id) other before := by
    intro other lives
    rw [inUse] at unused
    exact key_not_mem_of_free tables encap unused (Table.mem_iff_lookup.mpr ⟨other, lives⟩)
  refine .next (.discovers (newcomerPadr cookie)) retains trivial (fun draw => ?_)
  rcases @step_newcomerPadr now encap draw.env draw.behind cookie id invariant.references.tables pends
    short free with ⟨after, taken, aaa, store, sessions⟩
  have spares : SparesIpcp now
      { env := draw.env, input := .discovery encap ⟨newcomerPadr cookie, draw.behind⟩ } := trivial
  have progresses := progressInvariant_step invariant spares taken
  have lives : Lives (.ofEncap encap id) now.sessions.length after := by
    unfold Lives
    rw [store]
    exact AList.lookup_insert _
  have kept : Retains before after := by
    intro key ref active
    have different : key ≠ .ofEncap encap id := fun same => new ref (same ▸ active)
    unfold Lives
    rw [store]
    exact (AList.lookup_insert_ne different).trans (retains key ref active)
  have present : after.sessions.deref now.sessions.length =
      some (.construct draw.env.session encap id) := by
    rw [sessions]
    exact Heap.deref_make_self _ _
  have canOpen : CanOpen (.ofEncap encap id) now.sessions.length after := by
    refine canOpen_of_admissible ⟨progresses, lives, _, present, fun _ => ?_⟩
    rw [aaa]
    exact admits
  have opens : Forces step (Arrival.event encap) (Arrival.IsOf encap) (Retains before)
      (fun later => BothOpened now.sessions.length later ∧
        Lives (.ofEncap encap id) now.sessions.length later) after :=
    Forces.relabel Arrival.sends (fun draw => (draw.env, draw.behind)) (fun _ _ => rfl)
      (fun _ isFor => ⟨id, isFor⟩) (canOpen_retains canOpen progresses.references kept new)
  refine ⟨after, taken, opens.weaken (fun _ same => same) (fun later both => ?_)⟩
  rw [objects] at both
  exact ⟨id, inUse ▸ unused, both.2, both.1⟩

/-- The daemon after the PADI of a newcomer. -/
theorem step_newcomerPadi {env : Env} {behind : Nat -> UInt8}
    (idle : connOf encap (now.padoCookie env encap) ∉ now.store.pendingSession) :
    ∃ after, step now { env := env, input := .discovery encap ⟨newcomerPadi, behind⟩ } =
        some after ∧ after.aaa = now.aaa ∧ after.sessions = now.sessions ∧
      after.store = { now.store with
        pendingSession := insert (connOf encap (now.padoCookie env encap)) now.store.pendingSession
        pendingTimers := now.store.pendingTimers ++ [connOf encap (now.padoCookie env encap)] } := by
  have padi : Packet.pppoeCode ⟨newcomerPadi, behind⟩ = PPPOECode.padi := rfl
  have handled := @processPPPOE_of_padi now env encap _ padi
  have built : ∃ made, now.padoTags env encap ⟨newcomerPadi, behind⟩ = .ok made := by
    refine (exists_padoTags_iff (parsed_newcomerPadi behind)).mpr ⟨.inl ?_, fun nameless => ?_⟩
    · exact Table.lookup_empty _
    · cases (Table.lookup_empty _).symm.trans nameless.1
  rcases built with ⟨made, isMade⟩
  rcases padoTags_ok isMade with ⟨_, _, _, same⟩
  rw [processPadi_eq isMade, same, if_neg idle] at handled
  refine ⟨_, congrArg (Option.map Prod.fst) handled, ?_⟩
  unfold pendeSession
  rw [if_neg idle]
  exact ⟨rfl, rfl, rfl⟩

/-- From every reachable state in which an id is not in use and AAA would admit the
next session, a newcomer comes up, whatever the daemon draws and whatever memory lies
behind his packets, and no other session is lost on the way. -/
theorem newcomer_comes_up {start : Runtime} {past : List (Runtime × Event)} (fresh : start.Fresh)
    (chosen : start.lcpConf.authProtocol ≠ none) (run : Run step SparesIpcp start past now)
    (room : ¬ now.IdsExhausted) (encap : Encapsulation)
    (admits : now.aaa.Admits encap ⟨now.sessions.length, .pap⟩) :
    Forces step (Arrival.event encap) (Arrival.IsOf encap) (Retains now) (Arrived encap now) now := by
  have invariant := progressInvariant_of_run fresh chosen run
  have tables := invariant.references.tables
  have same : Retains now now := fun _ _ lives => lives
  by_cases offered : ∃ cookie : Bytes, cookie.length < 65536 ∧
      connOf encap cookie ∈ now.store.pendingSession
  · -- A PADO was sent before, and its PADR is still awaited.
    rcases offered with ⟨cookie, short, pends⟩
    exact forces_padr invariant same rfl rfl pends short tables room admits
  · refine .next (.discovers newcomerPadi) same trivial (fun draw => ?_)
    have short : (now.padoCookie draw.env encap).length < 65536 := by
      unfold padoCookie
      split
      · rw [draw.cookie]
        decide
      · decide
    rcases @step_newcomerPadi now encap draw.env draw.behind
      (fun pends => offered ⟨_, short, pends⟩) with
      ⟨after, taken, aaa, sessions, store⟩
    have inUse : after.store.sessionSet = now.store.sessionSet := by rw [store]
    have spares : SparesIpcp now
        { env := draw.env, input := .discovery encap ⟨newcomerPadi, draw.behind⟩ } := trivial
    refine ⟨after, taken, forces_padr (progressInvariant_step invariant spares taken)
      (fun key ref lives => ?_) inUse sessions ?_ short tables (fun full => ?_) ?_⟩
    · unfold Lives
      rw [store]
      exact lives
    · rw [store]
      exact Finset.mem_insert_self _ _
    · exact room (fun id nonzero => inUse ▸ full id nonzero)
    · rw [aaa, sessions]
      exact admits

/-- A second subscriber, while the first one is up. -/
theorem newcomer_comes_up_beside_established :
    Forces step (Arrival.event (sampleLink 2)) (Arrival.IsOf (sampleLink 2)) (Retains established)
      (Arrived (sampleLink 2) established) established := by
  rcases run_after step SparesIpcp (sampleDaemon [.none] papPolicy) establish (by decide +kernel)
    (by decide +kernel) with ⟨past, run⟩
  refine newcomer_comes_up (fresh_sampleDaemon [.none] papPolicy) (by decide) run (fun full => ?_) _
    ?_
  · exact absurd (full 2 (by decide)) (by decide +kernel)
  · exact AAA.admits_of_none (by decide +kernel) (by decide +kernel) (by decide +kernel)

end Runtime
end Pppcpd
