import Pppcpd.Runtime.Pending

namespace Pppcpd

open Foundation Discovery

/-!
# Repeated discovery packets

The key of an answered PADI pends until a PADR or its timer takes it out.  A
repeated PADI is refused as long as its answer would pend under a key that is
there, which a new cookie avoids.  A PADR takes its key out, so a repeated one
is not expected any more.
-/

namespace Runtime

/-- The key that the answer to a PADI leaves, or that a PADR takes out. -/
def conversation (runtime : Runtime) (env : Env) (encap : Encapsulation) (packet : Packet) :
    PPPOEConn :=
  if packet.pppoeCode = PPPOECode.padi then connOf encap (runtime.padoCookie env encap)
  else
    match tagsOf "PADR" packet with
    | .ok tags => connOf encap (padrCookie tags)
    | .error _ => connOf encap []

section

variable {now after : Runtime} {env again : Env} {encap : Encapsulation} {packet : Packet}

/-- A PADI that was answered left its key. -/
theorem offers_of_answered (padi : packet.pppoeCode = PPPOECode.padi)
    (answered : now.processPPPOE env encap packet = some (after, none)) :
    Offers (now.conversation env encap packet) now ⟨env, .discovery encap packet⟩ := by
  have replied := Option.some.inj ((processPPPOE_of_padi padi).symm.trans answered)
  cases outcome : now.processPadi env encap packet with
  | mk made result =>
      cases result with
      | error err =>
          rw [outcome] at replied
          cases (Prod.mk.inj replied).2
      | ok pado =>
          refine ⟨encap, packet, made, pado, rfl, padi, outcome, ?_⟩
          rw [conversation, if_pos padi]

/-- A PADR that was answered took out its key. -/
theorem uses_of_answered (padr : packet.pppoeCode = PPPOECode.padr)
    (answered : now.processPPPOE env encap packet = some (after, none)) :
    Uses (now.conversation env encap packet) now ⟨env, .discovery encap packet⟩ := by
  have other : packet.pppoeCode ≠ PPPOECode.padi := by
    rw [padr]
    decide
  unfold processPPPOE at answered
  rw [if_neg other, if_pos padr] at answered
  rcases Option.map_eq_some_iff.mp answered with ⟨outcome, handled, replied⟩
  unfold conversation
  rw [if_neg other]
  unfold processPadr at handled
  cases parsed : tagsOf "PADR" packet with
  | error err =>
      rw [parsed] at handled
      rw [← Option.some.inj handled] at replied
      cases (Prod.mk.inj replied).2
  | ok tags =>
      refine ⟨encap, packet, tags, rfl, padr, parsed, rfl, ?_⟩
      rw [parsed] at handled
      dsimp only at handled
      by_contra absent
      have unexpected : now.checkSession (connOf encap (padrCookie tags)) = (now, false) := by
        rw [checkSession, if_neg absent]
      unfold padrCookie at unexpected
      rw [unexpected] at handled
      rw [← Option.some.inj handled] at replied
      cases (Prod.mk.inj replied).2

/-- Tags of a PADO that could be made can be made again under the same policy. -/
theorem padoTags_again {later : Runtime} {made : Reply × Bytes}
    (policy : later.policy encap.outerVlan = now.policy encap.outerVlan)
    (built : now.padoTags env encap packet = .ok made) :
    ∃ reply, later.padoTags again encap packet = .ok (reply, later.padoCookie again encap) := by
  have isMade : ∃ reply cookie, later.padoTags again encap packet = .ok (reply, cookie) := by
    unfold padoTags at built ⊢
    rw [policy]
    cases parsed : tagsOf "PADI" packet with
    | error err =>
        rw [parsed] at built
        cases built
    | ok tags =>
        rw [parsed] at built
        dsimp only [Except.bind] at built ⊢
        cases service : tags.lookup PPPOETag.serviceName with
        | none => exact ⟨_, _, rfl⟩
        | some requested =>
            rw [service] at built
            dsimp only at built ⊢
            cases chosen : selectService (now.policy encap.outerVlan) requested with
            | error err =>
                rw [chosen] at built
                cases built
            | ok selected => exact ⟨_, _, rfl⟩
  rcases isMade with ⟨reply, cookie, isReply⟩
  rcases padoTags_ok isReply with ⟨_, _, _, same⟩
  exact ⟨reply, same ▸ isReply⟩

/-- How a PADI or PADR is processed that was answered before. -/
structure RepeatLaw (again : Env) (encap : Encapsulation) (packet : Packet) (later : Runtime) :
    Prop where
  fresh : packet.pppoeCode = PPPOECode.padi -> (later.policy encap.outerVlan).insertCookie = true ->
    connOf encap again.cookie ∉ later.store.pendingSession ->
      ∃ answered, later.processPPPOE again encap packet = some (answered, none)
  pending : packet.pppoeCode = PPPOECode.padi ->
    ¬ ((later.policy encap.outerVlan).insertCookie = true ∧
      connOf encap again.cookie ∉ later.store.pendingSession) ->
    later.processPPPOE again encap packet =
      some (later, some "Cannot pende session: Cannot allocate new Pending session")
  unexpected : packet.pppoeCode = PPPOECode.padr ->
    later.processPPPOE again encap packet = some (later, some "We don't expect this session")

/-- A PADI whose key does not pend is answered, and one whose key pends is not. -/
theorem processPPPOE_padi {made : Reply × Bytes} (padi : packet.pppoeCode = PPPOECode.padi)
    (built : now.padoTags env encap packet = .ok made) :
    (connOf encap made.2 ∉ now.store.pendingSession ->
      ∃ answered, now.processPPPOE env encap packet = some (answered, none)) ∧
    (connOf encap made.2 ∈ now.store.pendingSession ->
      now.processPPPOE env encap packet =
        some (now, some "Cannot pende session: Cannot allocate new Pending session")) := by
  rw [processPPPOE_of_padi padi, processPadi_eq built]
  constructor
  · intro free
    rw [if_neg free]
    exact ⟨_, rfl⟩
  · intro pends
    rw [if_pos pends]
    rfl

/-- A PADR whose key does not pend is not expected. -/
theorem processPPPOE_unexpected {tags : Tags} (padr : packet.pppoeCode = PPPOECode.padr)
    (parsed : tagsOf "PADR" packet = .ok tags)
    (absent : connOf encap (padrCookie tags) ∉ now.store.pendingSession) :
    now.processPPPOE env encap packet = some (now, some "We don't expect this session") := by
  have unexpected := checkSession_of_notMem absent
  unfold padrCookie at unexpected
  have refused : now.processPadr env encap packet =
      some (now, .error "We don't expect this session") := by
    unfold processPadr
    rw [parsed]
    dsimp only
    rw [unexpected]
    rfl
  unfold processPPPOE
  rw [if_neg (by rw [padr]; decide), if_pos padr, refused]
  rfl

/-- **Repeated packets.**  A PADI or PADR was answered, and the key of its
conversation is left alone until it is processed again.  A repeated PADI is
answered exactly when the policy inserts a cookie and the new one makes a key
that does not pend, and a repeated PADR is refused.  What is refused leaves the
daemon as it is. -/
theorem repeatLaw_of_answered {later : Runtime} {past : List (Runtime × Event)}
    (kind : packet.pppoeCode = PPPOECode.padi ∨ packet.pppoeCode = PPPOECode.padr)
    (answered : now.processPPPOE env encap packet = some (after, none))
    (between : Run step (pendingTickets.Leaves (now.conversation env encap packet)) after past later)
    (policy : later.policy encap.outerVlan = now.policy encap.outerVlan) :
    RepeatLaw again encap packet later := by
  have taken : step now ⟨env, .discovery encap packet⟩ = some after := by
    show (now.processPPPOE env encap packet).map Prod.fst = some after
    rw [answered]
    rfl
  have kept := pendingTickets_sound.valid_of_leaves between
  have changed := pendingTickets_sound.valid_after now ⟨env, .discovery encap packet⟩ after
    (now.conversation env encap packet) taken
  rcases kind with padi | padr
  · have offers := offers_of_answered padi answered
    have pends : now.conversation env encap packet ∈ later.store.pendingSession :=
      kept.mpr (changed.mpr (.inl offers))
    rw [conversation, if_pos padi] at pends
    have built : ∃ made, now.padoTags env encap packet = .ok made := by
      rcases offers with ⟨link, received, made, pado, input, _, outcome, _⟩
      injection input with sameLink samePacket
      rw [← sameLink, ← samePacket] at outcome
      rcases idle_of_processPadi outcome with ⟨made, built, _⟩
      exact ⟨made, built⟩
    rcases built with ⟨made, built⟩
    rcases @padoTags_again now env again encap packet later made policy built with ⟨reply, rebuilt⟩
    rcases processPPPOE_padi padi rebuilt with ⟨whenFree, whenPending⟩
    refine ⟨fun _ inserts free => ?_, fun _ stale => ?_, fun padr => ?_⟩
    · apply whenFree
      unfold padoCookie
      rw [if_pos inserts]
      exact free
    · apply whenPending
      unfold padoCookie at pends ⊢
      by_cases inserts : (later.policy encap.outerVlan).insertCookie = true
      · rw [if_pos inserts]
        by_contra free
        exact stale ⟨inserts, free⟩
      · rw [← policy, if_neg inserts] at pends
        rw [if_neg inserts]
        exact pends
    · rw [padi] at padr
      exact absurd padr (by decide)
  · have uses := uses_of_answered padr answered
    have absent : now.conversation env encap packet ∉ later.store.pendingSession := by
      intro pends
      rcases changed.mp (kept.mp pends) with offers | ⟨_, unused, _⟩
      · exact not_uses_of_offers offers uses
      · exact unused uses
    have other : packet.pppoeCode ≠ PPPOECode.padi := by
      rw [padr]
      decide
    rcases uses with ⟨link, received, tags, input, _, parsed, key, _⟩
    injection input with sameLink samePacket
    rw [← samePacket] at parsed
    rw [← key, ← sameLink] at absent
    exact ⟨fun padi => absurd padi other, fun padi => absurd padi other,
      fun _ => processPPPOE_unexpected padr parsed absent⟩

end

/-! ## A PADI and a PADR that are repeated -/

/-- The state after a packet of the first link was answered, and after it was
answered twice. -/
def answeredOnce (code : UInt8) (runtime : Runtime) : Option Runtime :=
  unlessError (runtime.processPPPOE {} (sampleLink 1) (discoveryPacket code 0))

def answeredTwice (code : UInt8) (runtime : Runtime) : Option Runtime :=
  (answeredOnce code runtime).bind (answeredOnce code)

/-- A daemon that has offered a session. -/
def offered : Runtime :=
  Foundation.after step (sampleDaemon [.none] papPolicy)
    [discoveryEvent (sampleLink 1) PPPOECode.padi 0] (by decide +kernel)

theorem offered_reachable : Reachable step (sampleDaemon [.none] papPolicy) offered :=
  reachable_after _ _ _ _

/-- A packet of another subscriber leaves the key of a conversation alone. -/
theorem leaves_of_otherMac {now : Runtime} {env : Env} {encap : Encapsulation} {packet : Packet}
    {conn : PPPOEConn} (other : conn.mac ≠ encap.sourceMac) :
    pendingTickets.Leaves conn now ⟨env, .discovery encap packet⟩ := by
  refine ⟨?_, ?_, not_expires_of_discovery rfl⟩
  · rintro ⟨link, _, _, _, input, _, _, key⟩
    injection input with sameLink _
    rw [← key, sameLink] at other
    exact other rfl
  · rintro ⟨link, _, _, input, _, _, key, _⟩
    injection input with sameLink _
    rw [← key, sameLink] at other
    exact other rfl

/-- The states after a packet of the first link was answered, and after the second
link asked for a session as well. -/
def askedBeside (code : UInt8) (runtime : Runtime) : Option (Runtime × Runtime) :=
  (answeredOnce code runtime).bind (fun after =>
    (step after (discoveryEvent (sampleLink 2) PPPOECode.padi 0)).map (fun later => (after, later)))

/-- The second link leaves another key, and the policy is as it was. -/
def Beside (code : UInt8) (runtime after later : Runtime) : Prop :=
  answeredOnce code runtime = some after ∧
    step after (discoveryEvent (sampleLink 2) PPPOECode.padi 0) = some later ∧
      after.store.pendingSession ≠ later.store.pendingSession ∧ later.policy 0 = runtime.policy 0

theorem exists_beside (code : UInt8) (runtime : Runtime)
    (asked : (askedBeside code runtime).any (fun both =>
      both.1.store.pendingSession ≠ both.2.store.pendingSession ∧
        both.2.policy 0 = runtime.policy 0) = true) : ∃ after later, Beside code runtime after later := by
  rcases (Option.any_eq_true _ _).mp asked with ⟨both, reached, holds⟩
  rcases Option.bind_eq_some_iff.mp reached with ⟨after, once, beside⟩
  rcases Option.map_eq_some_iff.mp beside with ⟨later, taken, same⟩
  rw [← same, decide_eq_true_iff] at holds
  exact ⟨after, later, once, taken, holds⟩

/-- The PADI and the PADR of the first subscriber, each repeated after a PADI of the
second. -/
theorem repeatLaw_beside :
    (∃ after later, Beside PPPOECode.padi (sampleDaemon [.none] papPolicy) after later ∧
      RepeatLaw {} (sampleLink 1) (discoveryPacket PPPOECode.padi 0) later) ∧
    ∃ after later, Beside PPPOECode.padr offered after later ∧
      RepeatLaw {} (sampleLink 1) (discoveryPacket PPPOECode.padr 0) later := by
  constructor
  · rcases exists_beside PPPOECode.padi (sampleDaemon [.none] papPolicy)
      (by decide +kernel) with ⟨after, later, beside⟩
    exact ⟨after, later, beside, repeatLaw_of_answered (.inl (by decide +kernel))
      (eq_of_unlessError beside.1)
      (.next .start (leaves_of_otherMac (by decide +kernel)) beside.2.1) beside.2.2.2⟩
  · rcases exists_beside PPPOECode.padr offered (by decide +kernel) with ⟨after, later, beside⟩
    exact ⟨after, later, beside, repeatLaw_of_answered (.inr (by decide +kernel))
      (eq_of_unlessError beside.1)
      (.next .start (leaves_of_otherMac (by decide +kernel)) beside.2.1) beside.2.2.2⟩

/-- Every packet with the code that was just answered is answered again. -/
def AnsweredAgain (code : UInt8) : Prop :=
  forall start now after env again encap packet, start.Fresh -> Reachable step start now ->
    packet.pppoeCode = code -> now.processPPPOE env encap packet = some (after, none) ->
      ∃ answered, after.processPPPOE again encap packet = some (answered, none)

/-- A packet that is answered once and not twice is not answered again. -/
theorem not_answeredAgain {start now : Runtime} {code : UInt8} (fresh : start.Fresh)
    (reached : Reachable step start now) (kind : (discoveryPacket code 0).pppoeCode = code)
    (once : (answeredOnce code now).isSome = true) (twice : answeredTwice code now = none) :
    ¬ AnsweredAgain code := by
  intro always
  rcases Option.isSome_iff_exists.mp once with ⟨after, same⟩
  rcases always start now after {} {} (sampleLink 1) (discoveryPacket code 0) fresh reached kind
    (eq_of_unlessError same) with ⟨answered, processed⟩
  have passed : answeredOnce code after = some answered := by
    unfold answeredOnce
    rw [processed]
    rfl
  rw [answeredTwice, same, Option.bind_some, passed] at twice
  cases twice

/-- Neither the PADI nor the PADR of a peer that lost the answer is answered
again. -/
theorem repeats_refused : ¬ AnsweredAgain PPPOECode.padi ∧ ¬ AnsweredAgain PPPOECode.padr := by
  constructor
  · exact not_answeredAgain (fresh_sampleDaemon [.none] papPolicy) (.refl _ _) (by decide +kernel)
      (by decide +kernel) (by decide +kernel)
  · exact not_answeredAgain (fresh_sampleDaemon [.none] papPolicy) offered_reachable
      (by decide +kernel) (by decide +kernel) (by decide +kernel)

end Runtime

end Pppcpd
