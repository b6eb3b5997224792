import Pppcpd.Foundation.Tickets
import Pppcpd.Runtime.Endings

namespace Pppcpd

open Foundation Discovery

/-!
# Pending sessions

An answered PADI leaves a key in `pendingSession` and starts a timer.  A PADR
with the key takes it out, and so does the timer.  The rest of the daemon
touches neither the set nor the timers.
-/

/-- A service that is selected is the one that was asked for. -/
theorem selectService_ok {policy : PPPOEPolicy} {requested selected : Bytes}
    (chosen : selectService policy requested = .ok selected) : selected = requested := by
  unfold selectService at chosen
  by_cases member : requested ∈ policy.serviceName
  · simp only [member, if_true] at chosen
    split at chosen
    · split at chosen
      · exact (Except.ok.inj chosen).symm
      · cases chosen
    · exact (Except.ok.inj chosen).symm
  · simp only [member, if_false, if_true] at chosen
    split at chosen
    · exact (Except.ok.inj chosen).symm
    · cases chosen

namespace Runtime

/-- A step that leaves the pending sessions and makes no session active. -/
structure Undisturbed (before after : Runtime) : Prop where
  pending : after.store.pendingSession = before.store.pendingSession
  timers : after.store.pendingTimers = before.store.pendingTimers
  active : forall ref, after.store.activeSessions.Holds ref ->
    before.store.activeSessions.Holds ref

namespace Undisturbed

theorem of_store {before after : Runtime} (store : after.store = before.store) :
    Undisturbed before after := by
  refine ⟨by rw [store], by rw [store], fun ref holds => ?_⟩
  rw [store] at holds
  exact holds

theorem refl (runtime : Runtime) : Undisturbed runtime runtime := of_store rfl

theorem trans {first second third : Runtime} (left : Undisturbed first second)
    (right : Undisturbed second third) : Undisturbed first third :=
  ⟨right.pending.trans left.pending, right.timers.trans left.timers,
    fun ref holds => left.active ref (right.active ref holds)⟩

theorem deallocateSession (runtime : Runtime) (sid : UInt16) :
    Undisturbed runtime (runtime.deallocateSession sid).1 := by
  unfold Runtime.deallocateSession
  split
  · split
    · rename_i key ref _
      cases present : runtime.sessions.deref ref with
      | none =>
          simp only [releaseId, removeSession, present]
          exact ⟨rfl, rfl, fun _ holds => holds⟩
      | some session =>
          have store := @removeSession_store runtime key ref session present
          refine ⟨?_, ?_, fun other holds => ?_⟩
          · simp only [releaseId, store]
          · simp only [releaseId, store]
          · simp only [releaseId, store] at holds
            rcases holds with ⟨place, found⟩
            rw [Table.lookup_erase_eq] at found
            split at found
            · cases found
            · exact ⟨place, found⟩
    · exact ⟨rfl, rfl, fun _ holds => holds⟩
  · exact refl runtime

end Undisturbed

/-! ## Handlers that leave the session store -/

@[simp] theorem store_withSession (runtime : Runtime) (ref : Nat)
    (method : PPPOESession -> FsmOut) : (runtime.withSession ref method).store = runtime.store := by
  simp only [withSession]
  split <;> rfl

@[simp] theorem store_ensureStarted (runtime : Runtime) (env : Env) (ref : Nat) :
    (runtime.ensureStarted env ref).store = runtime.store :=
  store_withSession runtime ref _

@[simp] theorem store_openAuth (runtime : Runtime) (env : Env) (ref : Nat) :
    (runtime.openAuth env ref).store = runtime.store := by
  simp only [openAuth]
  split
  · simp only [openChap]
    split <;> rfl
  · split
    · rfl
    · exact store_withSession runtime ref _

@[simp] theorem store_rejectProtocol (runtime : Runtime) (ref : Nat) (packet : Packet) :
    (runtime.rejectProtocol ref packet).store = runtime.store :=
  store_withSession runtime ref _

@[simp] theorem store_callbacks (runtime : Runtime) (calls : List CallbackCall) :
    (runtime.callbacks calls).store = runtime.store := by
  unfold callbacks
  induction calls generalizing runtime with
  | nil => rfl
  | cons call rest inductionHypothesis =>
      have called : (runtime.callback call).store = runtime.store :=
        store_withSession runtime _ _
      exact (inductionHypothesis (runtime.callback call)).trans called

theorem store_recvAuthReq {runtime after : Runtime} {env : Env} {ref : Nat}
    {protocol : AuthProtocol} {username : Bytes} {credential : Credential}
    (received : runtime.recvAuthReq env ref protocol username credential = some after) :
    after.store = runtime.store := by
  rcases recvAuthReq_cases received with ⟨session, _, ⟨_, repeated⟩ | ⟨_, started, _, finished⟩⟩
  · rw [repeated]
    rfl
  · rw [finished]
    exact store_callbacks _ _

theorem store_processIpcp {runtime after : Runtime} {ref : Nat} {packet : Packet}
    (processed : runtime.processIpcp ref packet = some after) : after.store = runtime.store := by
  rcases processIpcp_cases processed with ⟨session, out, _, _, ⟨_, _, up⟩ | ⟨_, quiet⟩⟩
  · rw [up, openDataPlane_eq]
    rfl
  · rw [quiet]
    rfl

namespace Undisturbed

theorem processLcp {runtime after : Runtime} {env : Env} {ref : Nat} {packet : Packet}
    {err : Option String} (processed : runtime.processLcp env ref packet = some (after, err)) :
    Undisturbed runtime after := by
  rcases processLcp_cases processed with
    ⟨session, out, _, _, ⟨_, _, up⟩ | ⟨_, _, down⟩ | ⟨_, quiet⟩⟩
  · rw [up]
    exact of_store (store_openAuth _ _ _)
  · rw [down]
    have applied : Undisturbed runtime (runtime.apply ref out) := of_store rfl
    exact applied.trans (deallocateSession _ _)
  · rw [quiet]
    exact of_store rfl

theorem processPPP {runtime after : Runtime} {env : Env} {encap : Encapsulation} {packet : Packet}
    {err : Option String} (processed : runtime.processPPP env encap packet = some (after, err)) :
    Undisturbed runtime after := by
  rcases processPPP_cases processed with dropped | ⟨ref, _, dispatched⟩
  · exact dropped ▸ refl runtime
  · have started : Undisturbed runtime (runtime.ensureStarted env ref) :=
      of_store (store_ensureStarted _ _ _)
    refine started.trans ?_
    rcases dispatch_cases dispatched with
      ⟨_, lcp⟩ | ⟨_, _, _, _, auth⟩ | ⟨_, ipcp⟩ | unchanged | rejected
    · exact processLcp lcp
    · exact of_store (store_recvAuthReq auth)
    · exact of_store (store_processIpcp ipcp)
    · exact unchanged ▸ refl _
    · rw [rejected]
      exact of_store (store_rejectProtocol _ _ _)

theorem echoTimer {runtime after : Runtime} {env : Env} {ref index : Nat}
    (fired : runtime.echoTimer env ref index = some after) : Undisturbed runtime after := by
  rcases echoTimer_cases fired with ⟨session, found, ⟨_, expired⟩ | ⟨_, aborted⟩⟩
  · rw [expired]
    have popped : Undisturbed runtime (runtime.popEcho ref index) := of_store rfl
    have there := deref_popEcho found index
    refine (popped.trans ?_).trans (of_store (collect_store _ _))
    rcases sendEchoReq_cases env there with ⟨out, _, ⟨_, _, ended⟩ | ⟨_, again⟩⟩
    · rw [ended]
      have applied : Undisturbed (runtime.popEcho ref index)
          ((runtime.popEcho ref index).apply ref out) := of_store rfl
      exact applied.trans (deallocateSession _ _)
    · rw [again]
      exact of_store rfl
  · rw [aborted]
    exact of_store (collect_store _ _)

end Undisturbed

/-! ## What the handlers check -/

section

variable {now : Runtime} {env : Env} {encap : Encapsulation} {packet : Packet} {conn : PPPOEConn}

theorem processPPPOE_of_padi (padi : packet.pppoeCode = PPPOECode.padi) :
    now.processPPPOE env encap packet = some (reply encap (now.processPadi env encap packet)) := by
  rw [processPPPOE, if_pos padi]

theorem processPadi_of_error {err : String}
    (built : now.padoTags env encap packet = .error err) :
    now.processPadi env encap packet = (now, .error err) := by
  rw [processPadi, built]

/-- A PADI whose tags of the PADO are made pends a session, unless it pends. -/
theorem processPadi_eq {made : Reply × Bytes} (built : now.padoTags env encap packet = .ok made) :
    now.processPadi env encap packet =
      if connOf encap made.2 ∈ now.store.pendingSession then
        (now, .error ("Cannot pende session: " ++ "Cannot allocate new Pending session"))
      else ((now.pendeSession (connOf encap made.2)).1, .ok (made.1.packet PPPOECode.pado 0)) := by
  by_cases pends : connOf encap made.2 ∈ now.store.pendingSession
  · simp only [processPadi, built, pendeSession, pends, if_true]
  · simp only [processPadi, built, pendeSession, pends, if_false]

/-- A PADI that is answered has the tags of its PADO made, and no session pended. -/
theorem idle_of_processPadi {after : Runtime} {pado : Bytes}
    (answered : now.processPadi env encap packet = (after, .ok pado)) :
    ∃ made, now.padoTags env encap packet = .ok made ∧
      connOf encap made.2 ∉ now.store.pendingSession := by
  cases built : now.padoTags env encap packet with
  | error err =>
      rw [processPadi_of_error built] at answered
      exact nomatch (Prod.mk.inj answered).2
  | ok made =>
      refine ⟨made, rfl, fun pends => ?_⟩
      rw [processPadi_eq built, if_pos pends] at answered
      exact nomatch (Prod.mk.inj answered).2

theorem checkSession_of_mem (pends : conn ∈ now.store.pendingSession) :
    now.checkSession conn = (now.clearPendingSession conn, true) := by
  rw [checkSession, if_pos pends]
  rfl

theorem checkSession_of_notMem (absent : conn ∉ now.store.pendingSession) :
    now.checkSession conn = (now, false) := by
  rw [checkSession, if_neg absent]

end

/-! ## What pends, uses and expires a key -/

/-- The cookie of the PADO that answers a PADI on a link. -/
def padoCookie (runtime : Runtime) (env : Env) (encap : Encapsulation) : Bytes :=
  if (runtime.policy encap.outerVlan).insertCookie then env.cookie else []

/-- The cookie of a PADR. -/
def padrCookie (tags : Tags) : Bytes := (tags.lookup PPPOETag.acCookie).getD []

/-- The reply of a PADO to a PADI with the given tags. -/
def padoReply (runtime : Runtime) (env : Env) (encap : Encapsulation) (tags : Tags) : Reply :=
  let policy := runtime.policy encap.outerVlan
  (((({} : Reply).insertTag PPPOETag.acName policy.acName).insertOptional
    PPPOETag.hostUniq (tags.lookup PPPOETag.hostUniq)).insertOptional
    PPPOETag.serviceName (tags.lookup PPPOETag.serviceName)).insertOptional
    PPPOETag.acCookie (if policy.insertCookie then some env.cookie else none)

/-- The tags of a PADO, whichever way the service was selected. -/
theorem padoTags_ok {runtime : Runtime} {env : Env} {encap : Encapsulation} {packet : Packet}
    {reply : Reply} {cookie : Bytes}
    (built : runtime.padoTags env encap packet = .ok (reply, cookie)) :
    ∃ tags, tagsOf "PADI" packet = .ok tags ∧ reply = runtime.padoReply env encap tags ∧
      cookie = runtime.padoCookie env encap := by
  unfold padoTags at built
  cases parsed : tagsOf "PADI" packet with
  | error err =>
      rw [parsed] at built
      cases built
  | ok tags =>
      rw [parsed] at built
      refine ⟨tags, rfl, ?_⟩
      unfold padoReply padoCookie
      -- The last step of both, for whatever the tags are so far.
      have finish : forall serviced : Reply,
          (if (runtime.policy encap.outerVlan).insertCookie then
            (serviced.insertTag PPPOETag.acCookie env.cookie, env.cookie) else (serviced, [])) =
            (reply, cookie) ->
          reply = serviced.insertOptional PPPOETag.acCookie
              (if (runtime.policy encap.outerVlan).insertCookie then some env.cookie else none) ∧
            cookie = if (runtime.policy encap.outerVlan).insertCookie then env.cookie else [] := by
        intro serviced same
        split at same
        · rename_i inserts
          rw [if_pos inserts, if_pos inserts]
          exact ⟨(Prod.mk.inj same).1.symm, (Prod.mk.inj same).2.symm⟩
        · rename_i lacks
          rw [if_neg lacks, if_neg lacks]
          exact ⟨(Prod.mk.inj same).1.symm, (Prod.mk.inj same).2.symm⟩
      cases service : tags.lookup PPPOETag.serviceName with
      | none =>
          simp only [Except.bind, service] at built
          exact finish _ (Except.ok.inj built)
      | some requested =>
          simp only [Except.bind, service] at built
          cases chosen : selectService (runtime.policy encap.outerVlan) requested with
          | error err =>
              rw [chosen] at built
              cases built
          | ok selected =>
              rw [chosen, selectService_ok chosen] at built
              exact finish _ (Except.ok.inj built)

/-- The event is a PADI that is answered, and this is the key it leaves. -/
def Offers (conn : PPPOEConn) (now : Runtime) (event : Event) : Prop :=
  ∃ encap packet after pado, event.input = .discovery encap packet ∧
    packet.pppoeCode = PPPOECode.padi ∧
    now.processPadi event.env encap packet = (after, .ok pado) ∧
    connOf encap (now.padoCookie event.env encap) = conn

/-- The event is a PADR that finds its key pending. -/
def Uses (conn : PPPOEConn) (now : Runtime) (event : Event) : Prop :=
  ∃ encap packet tags, event.input = .discovery encap packet ∧
    packet.pppoeCode = PPPOECode.padr ∧ tagsOf "PADR" packet = .ok tags ∧
    connOf encap (padrCookie tags) = conn ∧ conn ∈ now.store.pendingSession

/-- The event is the end of a timer that was started for the key. -/
def Expires (conn : PPPOEConn) (now : Runtime) (event : Event) : Prop :=
  ∃ index, event.input = .pendingTimer index ∧ now.store.pendingTimers[index]? = some conn

/-- What an event does to the pending sessions. -/
inductive PendingCase (now : Runtime) (event : Event) (after : Runtime) : Prop
  | undisturbed : (forall conn, ¬ Offers conn now event ∧ ¬ Uses conn now event ∧
      ¬ Expires conn now event) -> Undisturbed now after -> PendingCase now event after
  | offered {conn : PPPOEConn} : Offers conn now event -> conn ∉ now.store.pendingSession ->
      after.store.pendingSession = insert conn now.store.pendingSession ->
      after.store.pendingTimers = now.store.pendingTimers ++ [conn] ->
      after.store.activeSessions = now.store.activeSessions -> PendingCase now event after
  | used {conn : PPPOEConn} {encap : Encapsulation} : Uses conn now event ->
      conn.mac = encap.sourceMac ∧ conn.outerVlan = encap.outerVlan ∧
        conn.innerVlan = encap.innerVlan ->
      after.store.pendingSession = now.store.pendingSession.erase conn ->
      after.store.pendingTimers = now.store.pendingTimers ->
      (∃ result, (now.checkSession conn).1.allocateSession event.env encap = some result ∧
        after.store = result.1.store) -> PendingCase now event after
  | expired {conn : PPPOEConn} {index : Nat} : event.input = .pendingTimer index ->
      now.store.pendingTimers[index]? = some conn ->
      after.store.pendingSession = now.store.pendingSession.erase conn ->
      after.store.pendingTimers = now.store.pendingTimers.eraseIdx index ->
      after.store.activeSessions = now.store.activeSessions -> PendingCase now event after

section

variable {now : Runtime} {env : Env} {encap : Encapsulation} {packet : Packet}

/-- A discovery packet expires nothing. -/
theorem not_expires_discovery (conn : PPPOEConn) :
    ¬ Expires conn now ⟨env, .discovery encap packet⟩ := by
  rintro ⟨index, input, _⟩
  cases input

theorem not_offers_of_code (other : packet.pppoeCode ≠ PPPOECode.padi) (conn : PPPOEConn) :
    ¬ Offers conn now ⟨env, .discovery encap packet⟩ := by
  rintro ⟨link, received, _, _, input, code, _⟩
  injection input with _ same
  exact other (same ▸ code)

theorem not_uses_of_code (other : packet.pppoeCode ≠ PPPOECode.padr) (conn : PPPOEConn) :
    ¬ Uses conn now ⟨env, .discovery encap packet⟩ := by
  rintro ⟨link, received, _, input, code, _⟩
  injection input with _ same
  exact other (same ▸ code)

/-- A PADI that gets an error offers nothing. -/
theorem not_offers_of_error {after : Runtime} {err : String}
    (refused : now.processPadi env encap packet = (after, .error err)) (conn : PPPOEConn) :
    ¬ Offers conn now ⟨env, .discovery encap packet⟩ := by
  rintro ⟨link, received, _, _, input, _, answered, _⟩
  injection input with sameLink samePacket
  rw [← sameLink, ← samePacket, refused] at answered
  exact nomatch (Prod.mk.inj answered).2

theorem pendingCase_padi {after : Runtime} {err : Option String}
    (padi : packet.pppoeCode = PPPOECode.padi)
    (processed : reply encap (now.processPadi env encap packet) = (after, err)) :
    PendingCase now ⟨env, .discovery encap packet⟩ after := by
  rcases reply_fst encap (now.processPadi env encap packet) with ⟨queue, replied⟩
  rw [processed] at replied
  dsimp only at replied
  have notUses := @not_uses_of_code now env encap packet (by rw [padi]; decide)
  cases built : now.padoTags env encap packet with
  | error err =>
      have refused := processPadi_of_error built
      rw [replied, refused]
      exact .undisturbed (fun conn => ⟨not_offers_of_error refused conn, notUses conn,
        not_expires_discovery conn⟩) (.of_store rfl)
  | ok made =>
      rcases padoTags_ok built with ⟨tags, _, _, cookie⟩
      have outcome := processPadi_eq built
      by_cases taken : connOf encap made.2 ∈ now.store.pendingSession
      · have refused := outcome.trans (if_pos taken)
        rw [replied, refused]
        exact .undisturbed (fun conn => ⟨not_offers_of_error refused conn, notUses conn,
          not_expires_discovery conn⟩) (.of_store rfl)
      · have answered := outcome.trans (if_neg taken)
        have offers : Offers (connOf encap made.2) now ⟨env, .discovery encap packet⟩ :=
          ⟨encap, packet, _, _, rfl, padi, answered, by rw [← cookie]⟩
        rw [replied, answered]
        simp only [pendeSession, taken, if_false]
        exact .offered offers taken rfl rfl rfl

/-- An allocation leaves the pending sessions, whatever its outcome. -/
theorem pending_allocateSession {runtime : Runtime} {result : Runtime × UInt16 × Option String}
    (allocated : runtime.allocateSession env encap = some result) :
    result.1.store.pendingSession = runtime.store.pendingSession ∧
      result.1.store.pendingTimers = runtime.store.pendingTimers := by
  unfold allocateSession at allocated
  rcases Option.map_eq_some_iff.mp allocated with ⟨search, _, equal⟩
  cases search with
  | none =>
      rw [← equal]
      exact ⟨rfl, rfl⟩
  | some id =>
      dsimp only [enterSession] at equal
      rw [← equal]
      split
      · exact ⟨rfl, rfl⟩
      · split
        · exact ⟨rfl, rfl⟩
        · simp only [collect_store, and_self]

theorem pendingCase_padr {after : Runtime} {err : Option String}
    (padr : packet.pppoeCode = PPPOECode.padr)
    (processed : (now.processPadr env encap packet).map (reply encap) = some (after, err)) :
    PendingCase now ⟨env, .discovery encap packet⟩ after := by
  rcases Option.map_eq_some_iff.mp processed with ⟨outcome, handled, equal⟩
  rcases reply_fst encap outcome with ⟨queue, replied⟩
  rw [equal] at replied
  dsimp only at replied
  have notOffers := @not_offers_of_code now env encap packet (by rw [padr]; decide)
  cases parsed : tagsOf "PADR" packet with
  | error err =>
      rw [processPadr, parsed] at handled
      have notUses : forall conn, ¬ Uses conn now ⟨env, .discovery encap packet⟩ := by
        rintro conn ⟨link, received, tags, input, _, accepted, _⟩
        injection input with _ same
        rw [← same, parsed] at accepted
        cases accepted
      rw [replied, ← Option.some.inj handled]
      exact .undisturbed (fun conn => ⟨notOffers conn, notUses conn, not_expires_discovery conn⟩)
        (.of_store rfl)
  | ok tags =>
      rw [processPadr, parsed] at handled
      dsimp only at handled
      by_cases pends : connOf encap (padrCookie tags) ∈ now.store.pendingSession
      · have uses : Uses (connOf encap (padrCookie tags)) now ⟨env, .discovery encap packet⟩ :=
          ⟨encap, packet, tags, rfl, padr, parsed, rfl, pends⟩
        have checked := checkSession_of_mem pends
        have taken := checked
        unfold padrCookie at taken
        rw [taken, if_pos rfl] at handled
        rcases Option.map_eq_some_iff.mp handled with ⟨result, allocated, outcomeIs⟩
        have same : outcome.1 = result.1 := by
          rw [← outcomeIs]
          split <;> rfl
        have waiting := pending_allocateSession allocated
        rw [replied, same]
        refine .used uses ⟨rfl, rfl, rfl⟩ waiting.1 waiting.2 ⟨result, ?_, rfl⟩
        rw [checked]
        exact allocated
      · have checked := checkSession_of_notMem pends
        have notUses : forall conn, ¬ Uses conn now ⟨env, .discovery encap packet⟩ := by
          rintro conn ⟨link, received, other, input, _, accepted, key, member⟩
          injection input with sameLink same
          rw [← same, parsed] at accepted
          rw [← sameLink, ← Except.ok.inj accepted] at key
          exact pends (key ▸ member)
        unfold padrCookie at checked
        rw [checked] at handled
        rw [replied, ← Option.some.inj handled]
        exact .undisturbed (fun conn => ⟨notOffers conn, notUses conn, not_expires_discovery conn⟩)
          (.of_store rfl)

theorem pendingCase_discovery {after : Runtime} {err : Option String}
    (processed : now.processPPPOE env encap packet = some (after, err)) :
    PendingCase now ⟨env, .discovery encap packet⟩ after := by
  unfold processPPPOE at processed
  split at processed
  · rename_i padi
    exact pendingCase_padi padi (Option.some.inj processed)
  · rename_i notPadi
    split at processed
    · rename_i padr
      exact pendingCase_padr padr processed
    · rename_i notPadr
      refine .undisturbed (fun conn => ⟨not_offers_of_code notPadi conn,
        not_uses_of_code notPadr conn, not_expires_discovery conn⟩) ?_
      split at processed
      · rw [← (Prod.mk.inj (Option.some.inj processed)).1]
        exact .deallocateSession _ _
      · rw [← (Prod.mk.inj (Option.some.inj processed)).1]
        exact .refl now

end

/-- An event that is neither a discovery packet nor the end of a pending timer
leaves the pending sessions. -/
theorem pendingCase_other {now after : Runtime} {event : Event} (taken : step now event = some after)
    (notDiscovery : forall encap packet, event.input ≠ .discovery encap packet)
    (notTimer : forall index, event.input ≠ .pendingTimer index) : PendingCase now event after := by
  refine .undisturbed (fun conn => ⟨?_, ?_, ?_⟩) ?_
  · rintro ⟨encap, packet, _, _, input, _⟩
    exact notDiscovery encap packet input
  · rintro ⟨encap, packet, _, input, _⟩
    exact notDiscovery encap packet input
  · rintro ⟨index, input, _⟩
    exact notTimer index input
  · rcases event with ⟨env, input⟩
    cases step_cases taken with
    | discovery => exact absurd rfl (notDiscovery _ _)
    | session processed => exact .processPPP processed
    | pendingTimer => exact absurd rfl (notTimer _)
    | echoExpires equal =>
        rw [equal]
        exact .of_store rfl
    | echoTimer fired => exact .echoTimer fired
    | authDatagram _ equal =>
        rw [equal]
        exact .of_store (store_callbacks _ _)
    | authTimer _ equal =>
        rw [equal]
        exact .of_store (store_callbacks _ _)
    | quiet quiet => exact .of_store quiet.store

theorem pending_cases {now after : Runtime} {event : Event} (taken : step now event = some after) :
    PendingCase now event after := by
  rcases event with ⟨env, input⟩
  cases input with
  | discovery encap packet =>
      rcases Option.map_eq_some_iff.mp taken with ⟨⟨_, _⟩, processed, equal⟩
      exact equal ▸ pendingCase_discovery processed
  | pendingTimer index =>
      rcases Option.map_eq_some_iff.mp taken with ⟨conn, found, equal⟩
      rw [← equal]
      exact .expired rfl found rfl rfl rfl
  | _ => exact pendingCase_other taken nofun nofun

/-! ## Pending sessions are tickets -/

/-- The ticket of a key is its entry in `pendingSession`. -/
def pendingTickets : Tickets Runtime Event PPPOEConn where
  valid := fun runtime conn => conn ∈ runtime.store.pendingSession
  issues := Offers
  uses := Uses
  voids := Expires

theorem offers_once {conn other : PPPOEConn} {now : Runtime} {event : Event}
    (offers : Offers conn now event) (otherOffers : Offers other now event) : conn = other := by
  rcases offers with ⟨encap, packet, _, _, input, _, _, key⟩
  rcases otherOffers with ⟨link, received, _, _, same, _, _, otherKey⟩
  rw [input] at same
  injection same with sameLink _
  rw [← key, ← otherKey, sameLink]

theorem uses_once {conn other : PPPOEConn} {now : Runtime} {event : Event}
    (uses : Uses conn now event) (otherUses : Uses other now event) : conn = other := by
  rcases uses with ⟨encap, packet, tags, input, _, parsed, key, _⟩
  rcases otherUses with ⟨link, received, otherTags, same, _, otherParsed, otherKey, _⟩
  rw [input] at same
  injection same with sameLink samePacket
  rw [← samePacket, parsed] at otherParsed
  rw [← key, ← otherKey, sameLink, Except.ok.inj otherParsed]

theorem not_uses_of_offers {conn other : PPPOEConn} {now : Runtime} {event : Event}
    (offers : Offers conn now event) : ¬ Uses other now event := by
  rcases offers with ⟨encap, packet, _, _, input, padi, _⟩
  rintro ⟨link, received, _, same, padr, _⟩
  rw [input] at same
  injection same with _ samePacket
  rw [samePacket, padr] at padi
  exact absurd padi (by decide)

theorem not_expires_of_discovery {conn : PPPOEConn} {now : Runtime} {event : Event}
    {encap : Encapsulation} {packet : Packet} (input : event.input = .discovery encap packet) :
    ¬ Expires conn now event := by
  rintro ⟨index, same, _⟩
  rw [input] at same
  cases same

/-- A PADI is answered when its key does not pend. -/
theorem not_pending_of_offers {conn : PPPOEConn} {now : Runtime} {event : Event}
    (offers : Offers conn now event) : conn ∉ now.store.pendingSession := by
  rcases offers with ⟨encap, packet, after, pado, _, _, answered, key⟩
  rcases idle_of_processPadi answered with ⟨made, built, idle⟩
  rcases padoTags_ok built with ⟨_, _, _, cookie⟩
  rw [← key, ← cookie]
  exact idle

theorem pendingTickets_sound : pendingTickets.Sound step where
  valid_after := by
    intro now event after conn taken
    dsimp only [pendingTickets]
    cases pending_cases taken with
    | undisturbed none same =>
        rw [same.pending]
        exact ⟨fun pends => .inr ⟨pends, (none conn).2⟩,
          fun either => either.elim (fun offers => absurd offers (none conn).1) And.left⟩
    | @offered key offers _ inserted =>
        have discovery := offers
        rcases discovery with ⟨_, _, _, _, input, _⟩
        rw [inserted, Finset.mem_insert]
        constructor
        · rintro (same | pends)
          · exact .inl (same ▸ offers)
          · exact .inr ⟨pends, not_uses_of_offers offers, not_expires_of_discovery input⟩
        · exact Or.imp (fun other => offers_once other offers) And.left
    | @used key encap uses _ erased =>
        have discovery := uses
        rcases discovery with ⟨_, _, _, input, _⟩
        rw [erased, Finset.mem_erase]
        constructor
        · rintro ⟨different, pends⟩
          exact .inr ⟨pends, fun other => different (uses_once other uses),
            not_expires_of_discovery input⟩
        · rintro (offers | ⟨pends, notUses, _⟩)
          · exact absurd uses (not_uses_of_offers offers)
          · exact ⟨fun same => notUses (same ▸ uses), pends⟩
    | @expired key index input found erased =>
        rw [erased, Finset.mem_erase]
        constructor
        · rintro ⟨different, pends⟩
          refine .inr ⟨pends, ?_, ?_⟩
          · rintro ⟨_, _, _, same, _⟩
            rw [input] at same
            cases same
          · rintro ⟨other, same, there⟩
            rw [input] at same
            injection same with sameIndex
            rw [← sameIndex, found] at there
            exact different (Option.some.inj there).symm
        · rintro (⟨_, _, _, _, same, _⟩ | ⟨pends, _, notExpires⟩)
          · rw [input] at same
            cases same
          · exact ⟨fun same => notExpires ⟨index, input, same ▸ found⟩, pends⟩
  fresh := fun _ _ _ => not_pending_of_offers
  used := fun _ _ _ ⟨_, _, _, _, _, _, _, pends⟩ => pends
  issued_once := fun _ _ _ _ => offers_once
  used_once := fun _ _ _ _ => uses_once

end Runtime

end Pppcpd
