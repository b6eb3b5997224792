import Pppcpd.Runtime.Pending
import Pppcpd.Runtime.Tags

namespace Pppcpd

open Foundation Discovery

/-!
# The replies to discovery packets

A PADO carries the name of the concentrator, the host tag and the service of
the PADI, and the cookie.  A PADS carries the service and the host tag of the
PADR.  Every reply is complete as long as no value has more than 251 bytes: the
size of a tag is returned in eight bits.
-/

namespace Runtime

/-- A tag when there is a value for it. -/
def optionalTag (tag : UInt16) (value : Option Bytes) : List Tag :=
  value.toList.map (fun value => (tag, value))

/-- What a PADO for a PADI with the given tags is to carry. -/
def padoContents (runtime : Runtime) (env : Env) (encap : Encapsulation) (tags : Tags) : List Tag :=
  let policy := runtime.policy encap.outerVlan
  (PPPOETag.acName, policy.acName) ::
    (optionalTag PPPOETag.hostUniq (tags.lookup PPPOETag.hostUniq) ++
      optionalTag PPPOETag.serviceName (tags.lookup PPPOETag.serviceName) ++
      optionalTag PPPOETag.acCookie (if policy.insertCookie then some env.cookie else none))

/-- What a PADS for a PADR with the given tags is to carry. -/
def padsContents (tags : Tags) : List Tag :=
  optionalTag PPPOETag.serviceName (tags.lookup PPPOETag.serviceName) ++
    optionalTag PPPOETag.hostUniq (tags.lookup PPPOETag.hostUniq)

/-- What the reply to a PADI or PADR is to carry. -/
def replyContents (runtime : Runtime) (env : Env) (encap : Encapsulation) (packet : Packet) :
    List Tag :=
  if packet.pppoeCode = PPPOECode.padi then
    match tagsOf "PADI" packet with
    | .ok tags => runtime.padoContents env encap tags
    | .error _ => []
  else
    match tagsOf "PADR" packet with
    | .ok tags => padsContents tags
    | .error _ => []

/-- One reply is queued for the link of the request, and it carries its tags.
The cookie of a PADO is the one that pends. -/
structure ReplyLaw (env : Env) (encap : Encapsulation) (packet : Packet) (before after : Runtime) :
    Prop where
  queued : ∃ reply, after.pppoeOutcoming = before.pppoeOutcoming ++
      [encap.generateHeader before.hwaddr ethPppoeDiscovery ++ reply] ∧
    Carries reply (before.replyContents env encap packet)
  pended : packet.pppoeCode = PPPOECode.padi ->
    connOf encap (before.padoCookie env encap) ∈ after.store.pendingSession

/-! ## The tags of a reply -/

theorem insertOptional_eq (reply : Reply) (tag : UInt16) (value : Option Bytes) :
    reply.insertOptional tag value = reply.insertTags (optionalTag tag value) := by
  cases value <;> rfl

theorem insertTags_append (reply : Reply) (first second : List Tag) :
    reply.insertTags (first ++ second) = (reply.insertTags first).insertTags second :=
  List.foldl_append

theorem padoReply_eq (runtime : Runtime) (env : Env) (encap : Encapsulation) (tags : Tags) :
    runtime.padoReply env encap tags =
      ({} : Reply).insertTags (runtime.padoContents env encap tags) := by
  simp only [padoReply, insertOptional_eq, ← insertTags_append]
  rw [padoContents, List.append_assoc]
  rfl

theorem padsTags_eq (tags : Tags) : padsTags tags = ({} : Reply).insertTags (padsContents tags) := by
  simp only [padsTags, insertOptional_eq, ← insertTags_append, padsContents]

theorem types_optionalTag (tag : UInt16) (value : Option Bytes) :
    ((optionalTag tag value).map Prod.fst).Sublist [tag] := by
  cases value with
  | none => exact List.nil_sublist _
  | some value => exact List.Sublist.refl _

/-- The tags of a reply are among a few types, and no type occurs twice. -/
theorem types_replyContents (runtime : Runtime) (env : Env) (encap : Encapsulation)
    (packet : Packet) :
    ∃ types : List UInt16, ((runtime.replyContents env encap packet).map Prod.fst).Sublist types ∧
      types.Nodup ∧ PPPOETag.endOfList ∉ types ∧ types.length ≤ 256 := by
  unfold replyContents
  split
  · refine ⟨[PPPOETag.acName, PPPOETag.hostUniq, PPPOETag.serviceName, PPPOETag.acCookie], ?_,
      by decide, by decide, by decide⟩
    split
    · simp only [padoContents, List.map_cons, List.map_append]
      exact .cons_cons _ (((types_optionalTag _ _).append (types_optionalTag _ _)).append
        (types_optionalTag _ _))
    · exact List.nil_sublist _
  · refine ⟨[PPPOETag.serviceName, PPPOETag.hostUniq], ?_, by decide, by decide, by decide⟩
    split
    · simp only [padsContents, List.map_append]
      exact (types_optionalTag _ _).append (types_optionalTag _ _)
    · exact List.nil_sublist _

/-! ## The reply that is queued -/

section

variable {runtime after : Runtime} {env : Env} {encap : Encapsulation} {packet : Packet}

/-- A reply without an error is queued for the link of the request. -/
theorem queue_reply {outcome : Runtime × Except String Bytes}
    (replied : reply encap outcome = (after, none)) :
    ∃ bytes, outcome.2 = .ok bytes ∧ after.store = outcome.1.store ∧
      after.pppoeOutcoming = outcome.1.pppoeOutcoming ++
        [encap.generateHeader outcome.1.hwaddr ethPppoeDiscovery ++ bytes] := by
  unfold reply at replied
  split at replied
  · cases replied
  · rename_i bytes made
    rw [← (Prod.mk.inj replied).1]
    exact ⟨bytes, made, rfl, rfl⟩

/-- The answer to a PADI. -/
theorem queue_pado (padi : packet.pppoeCode = PPPOECode.padi)
    (replied : reply encap (runtime.processPadi env encap packet) = (after, none)) :
    connOf encap (runtime.padoCookie env encap) ∈ after.store.pendingSession ∧
      ∃ code sid, after.pppoeOutcoming = runtime.pppoeOutcoming ++
        [encap.generateHeader runtime.hwaddr ethPppoeDiscovery ++
          (({} : Reply).insertTags (runtime.replyContents env encap packet)).packet code sid] := by
  rcases queue_reply replied with ⟨bytes, answered, store, queued⟩
  rcases idle_of_processPadi (Prod.ext rfl answered) with ⟨made, built, idle⟩
  rcases padoTags_ok built with ⟨tags, parsed, isReply, cookie⟩
  have contents : runtime.replyContents env encap packet = runtime.padoContents env encap tags := by
    rw [replyContents, if_pos padi, parsed]
  rw [processPadi_eq built, if_neg idle] at answered queued store
  simp only [pendeSession, idle, if_false] at queued store
  rw [contents, ← padoReply_eq, ← isReply, store, ← cookie]
  rw [← Except.ok.inj answered] at queued
  exact ⟨Finset.mem_insert_self _ _, _, _, queued⟩

/-- An allocation that returns an id leaves the queue of replies. -/
theorem queue_allocateSession {result : Runtime × UInt16 × Option String}
    (allocated : runtime.allocateSession env encap = some result) (issued : result.2.2 = none) :
    result.1.pppoeOutcoming = runtime.pppoeOutcoming ∧ result.1.hwaddr = runtime.hwaddr := by
  unfold allocateSession at allocated
  rcases Option.map_eq_some_iff.mp allocated with ⟨search, _, equal⟩
  cases search with
  | none =>
      rw [← equal] at issued
      cases issued
  | some id =>
      dsimp only [enterSession] at equal
      rw [← equal] at issued ⊢
      split at issued
      · cases issued
      · rename_i free
        rw [if_neg free]
        split at issued
        · rename_i entered
          rw [if_pos entered]
          exact ⟨rfl, rfl⟩
        · cases issued

/-- The answer to a PADR. -/
theorem queue_pads (padr : packet.pppoeCode = PPPOECode.padr)
    (processed : (runtime.processPadr env encap packet).map (reply encap) = some (after, none)) :
    ∃ code sid, after.pppoeOutcoming = runtime.pppoeOutcoming ++
      [encap.generateHeader runtime.hwaddr ethPppoeDiscovery ++
        (({} : Reply).insertTags (runtime.replyContents env encap packet)).packet code sid] := by
  rcases Option.map_eq_some_iff.mp processed with ⟨outcome, handled, replied⟩
  rcases queue_reply replied with ⟨bytes, answered, _, queued⟩
  cases parsed : tagsOf "PADR" packet with
  | error err =>
      rw [processPadr, parsed] at handled
      rw [← Option.some.inj handled] at answered
      cases answered
  | ok tags =>
      have contents : runtime.replyContents env encap packet = padsContents tags := by
        rw [replyContents, if_neg (by rw [padr]; decide), parsed]
      rw [processPadr, parsed] at handled
      dsimp only at handled
      split at handled
      · rcases Option.map_eq_some_iff.mp handled with ⟨result, allocated, equal⟩
        have checked : forall conn, (runtime.checkSession conn).1.pppoeOutcoming =
            runtime.pppoeOutcoming ∧ (runtime.checkSession conn).1.hwaddr = runtime.hwaddr := by
          intro conn
          simp only [checkSession]
          split <;> exact ⟨rfl, rfl⟩
        split at equal
        · rw [← equal] at answered
          cases answered
        · rename_i issued
          have same := queue_allocateSession allocated issued
          rw [(checked _).1, (checked _).2] at same
          rw [← equal] at answered queued
          dsimp only at queued
          rw [same.1, same.2, ← Except.ok.inj answered, padsTags_eq] at queued
          rw [contents]
          exact ⟨_, _, queued⟩
      · rw [← Option.some.inj handled] at answered
        cases answered

/-- The law is about the reply that is queued. -/
theorem replyLaw_iff_carries {code : UInt8} {sid : UInt16}
    (pended : packet.pppoeCode = PPPOECode.padi ->
      connOf encap (runtime.padoCookie env encap) ∈ after.store.pendingSession)
    (queued : after.pppoeOutcoming = runtime.pppoeOutcoming ++
      [encap.generateHeader runtime.hwaddr ethPppoeDiscovery ++
        (({} : Reply).insertTags (runtime.replyContents env encap packet)).packet code sid]) :
    ReplyLaw env encap packet runtime after ↔
      runtime.replyContents env encap packet ≠ [] ∧
        forall tag, tag ∈ runtime.replyContents env encap packet -> tag.2.length ≤ 251 := by
  rcases types_replyContents runtime env encap packet with ⟨types, among, distinct, typed, few⟩
  have length := among.length_le
  rw [List.length_map] at length
  rw [← carries_iff (among.nodup distinct)
    (fun tag member same => typed (same ▸ among.subset (List.mem_map_of_mem member)))
    (Nat.le_trans length few) code sid]
  constructor
  · rintro ⟨⟨reply, same, carries⟩, _⟩
    rw [queued] at same
    have frame := List.append_cancel_left same
    rw [List.append_cancel_left (List.singleton_inj.mp frame)]
    exact carries
  · intro carries
    exact ⟨⟨_, queued, carries⟩, pended⟩

end

/-- A PADI or PADR that is answered is answered in full if and only if the
answer has a tag, and no value in it is too long. -/
theorem replyLaw_iff {runtime after : Runtime} {env : Env} {encap : Encapsulation} {packet : Packet}
    (asks : packet.pppoeCode = PPPOECode.padi ∨ packet.pppoeCode = PPPOECode.padr)
    (answered : runtime.processPPPOE env encap packet = some (after, none)) :
    ReplyLaw env encap packet runtime after ↔
      runtime.replyContents env encap packet ≠ [] ∧
        forall tag, tag ∈ runtime.replyContents env encap packet -> tag.2.length ≤ 251 := by
  unfold processPPPOE at answered
  rcases asks with padi | padr
  · rw [if_pos padi] at answered
    rcases queue_pado padi (Option.some.inj answered) with ⟨pends, code, sid, queued⟩
    exact replyLaw_iff_carries (fun _ => pends) queued
  · have other : packet.pppoeCode ≠ PPPOECode.padi := by
      rw [padr]
      decide
    rw [if_neg other, if_pos padr] at answered
    rcases queue_pads padr answered with ⟨code, sid, queued⟩
    exact replyLaw_iff_carries (fun padi => absurd padi other) queued

/-- A PADI whose only tag is a host tag of the given length. -/
def hostUniqPacket (length : Nat) : Packet :=
  receivedPacket ([0x11, PPPOECode.padi, 0, 0] ++ bytes16 (UInt16.ofNat (4 + length)) ++
    tagBytes PPPOETag.hostUniq (List.replicate length 0x5a))

/-- The state after such a PADI was answered first. -/
def answeredHostUniq (length : Nat) : Option Runtime :=
  ((sampleDaemon [.none] papPolicy).processPPPOE {} (sampleLink 1) (hostUniqPacket length)).bind
    (fun outcome => if outcome.2 = none then some outcome.1 else none)

theorem answeredHostUniq_spec {length : Nat} {after : Runtime}
    (answered : answeredHostUniq length = some after) :
    (sampleDaemon [.none] papPolicy).processPPPOE {} (sampleLink 1) (hostUniqPacket length) =
      some (after, none) :=
  eq_of_unlessError answered

/-- The answer to a host tag of 251 bytes is whole. -/
theorem replyLaw_iff_at_longest :
    ∃ after, answeredHostUniq 251 = some after ∧
      ReplyLaw {} (sampleLink 1) (hostUniqPacket 251) (sampleDaemon [.none] papPolicy) after := by
  have answered : (answeredHostUniq 251).isSome = true := by decide +kernel
  rcases Option.isSome_iff_exists.mp answered with ⟨after, same⟩
  refine ⟨after, same, ?_⟩
  refine (replyLaw_iff (.inl (by decide +kernel)) (answeredHostUniq_spec same)).mpr ?_
  decide +kernel

/-- The answer to a host tag of 252 bytes is cut. -/
theorem pado_cut_short :
    ¬ forall start runtime after env encap packet, start.Fresh -> Reachable step start runtime ->
      (packet.pppoeCode = PPPOECode.padi ∨ packet.pppoeCode = PPPOECode.padr) ->
      runtime.processPPPOE env encap packet = some (after, none) ->
        ReplyLaw env encap packet runtime after := by
  intro claim
  have answered : (answeredHostUniq 252).isSome = true := by decide +kernel
  rcases Option.isSome_iff_exists.mp answered with ⟨after, same⟩
  have padi : (hostUniqPacket 252).pppoeCode = PPPOECode.padi := by decide +kernel
  have processed := answeredHostUniq_spec same
  have law := claim _ _ after {} (sampleLink 1) _ (fresh_sampleDaemon [.none] papPolicy)
    (.refl step _) (.inl padi) processed
  unfold processPPPOE at processed
  rw [if_pos padi] at processed
  rcases queue_pado padi (Option.some.inj processed) with ⟨pends, code, sid, queued⟩
  exact absurd ((replyLaw_iff_carries (fun _ => pends) queued).mp law) (by decide +kernel)

end Runtime

end Pppcpd
