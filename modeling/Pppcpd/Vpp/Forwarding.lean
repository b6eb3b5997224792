import Pppcpd.Vpp.Exchanges
import Pppcpd.Vpp.Provisioned

namespace Pppcpd

open Foundation

/-!
# What VPP forwards

The effect of each request lies with VPP: a request other than an add command
takes effect when it was sent and the reply says zero, and a refused add command
is answered with the index ~0.  `set_interface_table` takes every reply but -1
for a success, so what the daemon believes and what VPP does can differ.
-/

/-- A PPPoE session of VPP, with the call that made it, its interface, the table
of that interface and the interface whose address it borrows. -/
structure Forwarding where
  made : Nat
  index : UInt32
  mac : Mac
  sid : UInt16
  address : UInt32
  table : UInt32 := 0
  unnumbered : Option UInt32 := none
  deriving DecidableEq, Repr

/-- VPP has done what it was asked for. -/
def VPPReply.Accepts (reply : VPPReply) : Prop := reply.executed = true ∧ reply.retval = 0

instance (reply : VPPReply) : Decidable reply.Accepts := inferInstanceAs (Decidable (_ ∧ _))

namespace Forwarding

/-- A session after a request that neither adds nor deletes one. -/
def change (exchange : VPPExchange) (forwarding : Forwarding) : Forwarding :=
  match exchange.call.request with
  | .setTable ifindex vrfId =>
      if exchange.reply.Accepts ∧ forwarding.index = ifindex then { forwarding with table := vrfId }
      else forwarding
  | .setUnnumbered unnumbered iface true =>
      if exchange.reply.Accepts ∧ forwarding.index = unnumbered then
        { forwarding with unnumbered := some iface }
      else forwarding
  | .setUnnumbered unnumbered iface false =>
      if exchange.reply.Accepts ∧ forwarding.index = unnumbered ∧ forwarding.unnumbered = some iface then
        { forwarding with unnumbered := none }
      else forwarding
  | _ => forwarding

/-- The sessions of VPP after a call with the given number. -/
def next (number : Nat) (sessions : List Forwarding) (exchange : VPPExchange) : List Forwarding :=
  match exchange.call.request with
  | .addDelSession _ mac sid address _ true =>
      if exchange.reply.swIfIndex = uint32Max then sessions
      else { made := number, index := exchange.reply.swIfIndex, mac, sid, address } :: sessions
  | .addDelSession _ mac sid _ _ false =>
      sessions.filter (fun forwarding => ¬ (forwarding.mac = mac ∧ forwarding.sid = sid))
  | _ => sessions.map (change exchange)

theorem made_change (exchange : VPPExchange) (forwarding : Forwarding) :
    (forwarding.change exchange).made = forwarding.made := by
  unfold change
  split
  · split <;> rfl
  · split <;> rfl
  · split <;> rfl
  · rfl

end Forwarding

namespace VPP

/-- The sessions that VPP has by the calls made so far. -/
def forwards (vpp : VPP) : List Forwarding :=
  vpp.exchanges.zipIdx.foldl (fun sessions exchange => Forwarding.next exchange.2 sessions exchange.1) []

theorem length_exchanges (vpp : VPP) : vpp.exchanges.length = vpp.calls.length :=
  List.length_mapIdx

theorem forwards_called (vpp : VPP) (request : VPPRequest) (ok : Bool) :
    (vpp.called request ok).forwards =
      Forwarding.next vpp.calls.length vpp.forwards ⟨⟨request, ok⟩, vpp.reply⟩ := by
  unfold forwards
  rw [exchanges_called, List.zipIdx_append, List.foldl_append, length_exchanges, Nat.zero_add]
  rfl

/-- Every session was made by one of the calls so far. -/
theorem made_lt (vpp : VPP) : ∀ forwarding ∈ vpp.forwards, forwarding.made < vpp.calls.length := by
  have bounded : forall (exchanges : List VPPExchange) (start : Nat) (sessions : List Forwarding),
      (∀ forwarding ∈ sessions, forwarding.made < start) ->
        ∀ forwarding ∈ (exchanges.zipIdx start).foldl
          (fun sessions exchange => Forwarding.next exchange.2 sessions exchange.1) sessions,
          forwarding.made < start + exchanges.length := by
    intro exchanges
    induction exchanges with
    | nil => exact fun _ _ old => old
    | cons exchange rest inductionHypothesis =>
        intro start sessions old forwarding member
        rw [List.zipIdx_cons, List.foldl_cons] at member
        have later := inductionHypothesis (start + 1) _ ?_ forwarding member
        · rw [List.length_cons]
          omega
        · have older : ∀ forwarding ∈ sessions, forwarding.made < start + 1 := fun other is =>
            Nat.lt_succ_of_lt (old other is)
          intro other is
          unfold Forwarding.next at is
          split at is
          · split at is
            · exact older other is
            · rcases List.mem_cons.mp is with new | before
              · rw [new]
                exact Nat.lt_succ_self _
              · exact older other before
          · exact older other (List.mem_filter.mp is).1
          · rcases List.mem_map.mp is with ⟨before, isBefore, changed⟩
            rw [← changed, Forwarding.made_change]
            exact older before isBefore
  have all := bounded vpp.exchanges 0 [] (fun _ member => absurd member List.not_mem_nil)
  rw [Nat.zero_add, length_exchanges] at all
  exact all

/-- The newest session after a call that concerns no session, and the others. -/
theorem forwards_aside {vpp : VPP} {request : VPPRequest} (aside : request.isAside = true) (ok : Bool)
    {first : Forwarding} {rest : List Forwarding} (are : vpp.forwards = first :: rest) :
    (vpp.called request ok).forwards = first.change ⟨⟨request, ok⟩, vpp.reply⟩ ::
      rest.map (Forwarding.change ⟨⟨request, ok⟩, vpp.reply⟩) := by
  rw [forwards_called, are]
  cases request with
  | addDelSession | unknownVrf => cases aside
  | setTable | setUnnumbered | dumpUnnumbered | dumpIfaces => rfl

/-! ## The calls of `provision_dp` -/

section

variable {owner : Nat} {session : PPPOESession} {vpp : VPP}

/-- With a VRF that VPP does not know, or when it refuses the add command, nothing
is made. -/
theorem addPppoeSession_refused
    (refused : ¬ (vpp.Knows session.vrf ∧ vpp.reply.swIfIndex ≠ uint32Max)) :
    (vpp.addPppoeSession owner session true).2 = none ∧
      (vpp.addPppoeSession owner session true).1.forwards = vpp.forwards := by
  unfold addPppoeSession
  dsimp only
  split
  · refine ⟨rfl, ?_⟩
    rw [forwards_called]
    exact List.map_id' _
  · rename_i vrfId found
    have known : vpp.Knows session.vrf := by
      by_cases global : session.vrf = []
      · exact .inl global
      · rw [if_neg global] at found
        exact .inr (found ▸ Option.some_ne_none vrfId)
    have isMax : vpp.reply.swIfIndex = uint32Max :=
      Classical.not_not.mp (fun answered => refused ⟨known, answered⟩)
    rw [if_neg (fun answered => answered isMax)]
    refine ⟨rfl, ?_⟩
    rw [forwards_called]
    exact if_pos isMax

/-- The session that an accepted add command makes. -/
def madeSession (vpp : VPP) (session : PPPOESession) : Forwarding where
  made := vpp.calls.length
  index := vpp.reply.swIfIndex
  mac := session.encap.sourceMac
  sid := session.sessionId
  address := session.address

/-- What an accepted add command leaves. -/
structure Adds (session : PPPOESession) (before : VPP) (added : VPP × Option UInt32) : Prop where
  ifindex : added.2 = some before.reply.swIfIndex
  calls : added.1.calls.length = before.calls.length + 1
  replies : added.1.replies = before.replies
  vrfs : added.1.vrfs = before.vrfs
  forwards : added.1.forwards = before.madeSession session :: before.forwards

theorem addPppoeSession_adds (known : vpp.Knows session.vrf)
    (answered : vpp.reply.swIfIndex ≠ uint32Max) :
    Adds session vpp (vpp.addPppoeSession owner session true) := by
  unfold addPppoeSession
  dsimp only
  split
  · rename_i unknown
    rcases known with global | known
    · rw [if_pos global] at unknown
      cases unknown
    · split at unknown
      · cases unknown
      · exact absurd unknown known
  · rename_i vrfId _
    rw [if_pos answered]
    refine ⟨rfl, List.length_append, rfl, rfl, ?_⟩
    have forwards := forwards_called vpp
      (.addDelSession owner session.encap.sourceMac session.sessionId session.address vrfId true)
      (decide (vpp.reply.swIfIndex ≠ uint32Max))
    exact forwards.trans (if_neg answered)

/-- The state after the table of the interface was set, if there is a VRF. -/
def tabled (ifindex : UInt32) (session : PPPOESession) (vpp : VPP) : VPP :=
  if session.vrf = [] then vpp else (vpp.setInterfaceTable ifindex session.vrf).1

theorem tabled_replies (ifindex : UInt32) (session : PPPOESession) (vpp : VPP) :
    (vpp.tabled ifindex session).replies = vpp.replies := by
  unfold tabled
  split <;> rfl

theorem length_calls_tabled (ifindex : UInt32) (session : PPPOESession) (vpp : VPP) :
    (vpp.tabled ifindex session).calls.length =
      vpp.calls.length + if session.vrf = [] then 0 else 1 := by
  unfold tabled
  split
  · rfl
  · exact List.length_append

/-- The index of an interface with the name in the reply to a dump. -/
def listed (name : Bytes) (reply : VPPReply) : Option UInt32 :=
  (reply.ifaces.find? (fun iface => iface.1 == name)).map Prod.snd

/-- `configure` in terms of the replies. -/
theorem configure_eq (ifindex : UInt32) (session : PPPOESession) (vpp : VPP) :
    vpp.configure ifindex session =
      if session.vrf ≠ [] ∧ vpp.reply.retval = -1 then
        (vpp.tabled ifindex session, some "Cannot move new session to vrf")
      else if session.unnumbered = [] then (vpp.tabled ifindex session, none)
      else
        match listed session.unnumbered (vpp.tabled ifindex session).reply with
        | none =>
            (((vpp.tabled ifindex session).getIfaceByName session.unnumbered).1,
              some "Cannot set unnumbered to new session: can't find interface with such name")
        | some iface =>
            let set := ((vpp.tabled ifindex session).getIfaceByName session.unnumbered).1.setUnnumbered
              ifindex iface true
            (set.1, if set.2 then none else some "Cannot set unnumbered to new session") := by
  have moved : (if session.vrf = [] then (vpp, true) else vpp.setInterfaceTable ifindex session.vrf) =
      (vpp.tabled ifindex session, decide (¬ (session.vrf ≠ [] ∧ vpp.reply.retval = -1))) := by
    unfold tabled
    by_cases global : session.vrf = []
    · rw [if_pos global, if_pos global,
        decide_eq_true (p := ¬ (session.vrf ≠ [] ∧ vpp.reply.retval = -1)) (fun both => both.1 global)]
    · have answer : (vpp.setInterfaceTable ifindex session.vrf).2 = decide (vpp.reply.retval ≠ -1) := rfl
      have same : (vpp.reply.retval ≠ -1) = ¬ (session.vrf ≠ [] ∧ vpp.reply.retval = -1) :=
        propext ⟨fun other both => other both.2, fun other isRefused => other ⟨global, isRefused⟩⟩
      rw [if_neg global, if_neg global]
      refine Prod.ext rfl ?_
      rw [answer]
      exact decide_eq_decide.mpr (iff_of_eq same)
  unfold configure
  dsimp only
  rw [moved]
  by_cases refused : session.vrf ≠ [] ∧ vpp.reply.retval = -1
  · rw [decide_eq_false (not_not.mpr refused), if_pos refused]
    rfl
  · rw [decide_eq_true refused, if_neg refused]
    rfl

/-- The number of the reply to the dump of the interfaces. -/
def dumpNumber (vpp : VPP) (session : PPPOESession) : Nat :=
  vpp.calls.length + 1 + if session.vrf = [] then 0 else 1

/-- No call of `provision_dp` looks refused to the daemon. -/
structure NotRefused (vpp : VPP) (session : PPPOESession) : Prop where
  known : vpp.Knows session.vrf
  added : vpp.reply.swIfIndex ≠ uint32Max
  moved : ¬ (session.vrf ≠ [] ∧ (vpp.replies (vpp.calls.length + 1)).retval = -1)
  found : session.unnumbered ≠ [] ->
    ∃ iface, listed session.unnumbered (vpp.replies (vpp.dumpNumber session)) = some iface
  borrowed : session.unnumbered ≠ [] -> (vpp.replies (vpp.dumpNumber session + 1)).Accepts

/-- Every call of `provision_dp` takes effect.  The table zero is the one of a new
interface already. -/
structure Provisionable (vpp : VPP) (session : PPPOESession) : Prop extends NotRefused vpp session where
  tabled : session.vrf ≠ [] ->
    vpp.vrfs.lookup session.vrf = some 0 ∨ (vpp.replies (vpp.calls.length + 1)).Accepts

/-- VPP has a session that was made after a state: with its address, in the table
of its VRF and with its unnumbered interface. -/
def Forwards (vpp : VPP) (session : PPPOESession) (ifindex : UInt32) (after : VPP) : Prop :=
  ∃ forwarding ∈ after.forwards, vpp.calls.length ≤ forwarding.made ∧ forwarding.index = ifindex ∧
    forwarding.mac = session.encap.sourceMac ∧ forwarding.sid = session.sessionId ∧
    forwarding.address = session.address ∧
    (if session.vrf = [] then forwarding.table = 0
      else vpp.vrfs.lookup session.vrf = some forwarding.table) ∧
    (session.unnumbered ≠ [] -> ∃ iface,
      listed session.unnumbered (vpp.replies (vpp.dumpNumber session)) = some iface ∧
        forwarding.unnumbered = some iface)

/-- The newest session of VPP, and the only one made since a state. -/
def Newest (vpp : VPP) (first : Forwarding) (after : VPP) : Prop :=
  ∃ rest, after.forwards = first :: rest ∧ ∀ forwarding ∈ rest, forwarding.made < vpp.calls.length

theorem Newest.aside {first : Forwarding} {after : VPP} (newest : Newest vpp first after)
    {request : VPPRequest} (aside : request.isAside = true) (ok : Bool) :
    Newest vpp (first.change ⟨⟨request, ok⟩, after.reply⟩) (after.called request ok) := by
  rcases newest with ⟨rest, are, older⟩
  refine ⟨_, forwards_aside aside ok are, fun forwarding member => ?_⟩
  rcases List.mem_map.mp member with ⟨before, isBefore, changed⟩
  rw [← changed, Forwarding.made_change]
  exact older before isBefore

/-- The session that `provision_dp` made, after the table was set. -/
def tabledSession (vpp : VPP) (session : PPPOESession) : Forwarding :=
  if session.vrf ≠ [] ∧ (vpp.replies (vpp.calls.length + 1)).Accepts then
    { vpp.madeSession session with table := (vpp.vrfs.lookup session.vrf).getD 0 }
  else vpp.madeSession session

theorem newest_tabled {added : VPP × Option UInt32} (adds : Adds session vpp added) :
    Newest vpp (vpp.tabledSession session) (added.1.tabled vpp.reply.swIfIndex session) := by
  have made : Newest vpp (vpp.madeSession session) added.1 := ⟨_, adds.forwards, vpp.made_lt⟩
  have reply : added.1.reply = vpp.replies (vpp.calls.length + 1) := by
    rw [VPP.reply, adds.replies, adds.calls]
  unfold tabled tabledSession
  by_cases global : session.vrf = []
  · rw [if_pos global, if_neg (fun both => both.1 global)]
    exact made
  · have set : Newest vpp ((vpp.madeSession session).change ⟨⟨.setTable vpp.reply.swIfIndex
          ((added.1.vrfs.lookup session.vrf).getD 0), decide (added.1.reply.retval ≠ -1)⟩,
          added.1.reply⟩) (added.1.setInterfaceTable vpp.reply.swIfIndex session.vrf).1 :=
      made.aside rfl _
    rw [if_neg global]
    have changed : (vpp.madeSession session).change ⟨⟨.setTable vpp.reply.swIfIndex
          ((added.1.vrfs.lookup session.vrf).getD 0), decide (added.1.reply.retval ≠ -1)⟩,
          added.1.reply⟩ =
        if session.vrf ≠ [] ∧ (vpp.replies (vpp.calls.length + 1)).Accepts then
          { vpp.madeSession session with table := (vpp.vrfs.lookup session.vrf).getD 0 }
        else vpp.madeSession session := by
      rw [Forwarding.change, reply, adds.vrfs]
      dsimp only
      by_cases accepted : (vpp.replies (vpp.calls.length + 1)).Accepts
      · rw [if_pos ⟨accepted, rfl⟩, if_pos ⟨global, accepted⟩]
      · rw [if_neg (fun both => accepted both.1), if_neg (fun both => accepted both.2)]
    exact changed ▸ set

/-- The session that `provision_dp` made, after all its calls. -/
def provisionedSession (vpp : VPP) (session : PPPOESession) : Forwarding :=
  if session.unnumbered = [] then vpp.tabledSession session
  else { vpp.tabledSession session with
    unnumbered := listed session.unnumbered (vpp.replies (vpp.dumpNumber session)) }

theorem tabledSession_fields (vpp : VPP) (session : PPPOESession) :
    (vpp.tabledSession session).made = vpp.calls.length ∧
      (vpp.tabledSession session).index = vpp.reply.swIfIndex ∧
      (vpp.tabledSession session).mac = session.encap.sourceMac ∧
      (vpp.tabledSession session).sid = session.sessionId ∧
      (vpp.tabledSession session).address = session.address := by
  unfold tabledSession
  split <;> exact ⟨rfl, rfl, rfl, rfl, rfl⟩

theorem reply_getIfaceByName (name : Bytes) (vpp : VPP) :
    (vpp.getIfaceByName name).1.reply = vpp.replies (vpp.calls.length + 1) := by
  show vpp.replies (vpp.calls ++ [_]).length = _
  rw [List.length_append]
  rfl

/-- The newest session after its unnumbered interface was looked up and set. -/
theorem Newest.borrows {first : Forwarding} {after : VPP} (newest : Newest vpp first after)
    {ifindex : UInt32} (isIndex : first.index = ifindex) (name : Bytes) (iface : UInt32)
    (accepted : (after.getIfaceByName name).1.reply.Accepts) :
    Newest vpp { first with unnumbered := some iface }
      ((after.getIfaceByName name).1.setUnnumbered ifindex iface true).1 := by
  have isAside : VPPRequest.isAside .dumpIfaces = true := rfl
  have asked : Newest vpp first (after.getIfaceByName name).1 := newest.aside isAside _
  have set : Newest vpp (first.change ⟨⟨.setUnnumbered ifindex iface true,
      decide (after.getIfaceByName name).1.reply.Accepts⟩, (after.getIfaceByName name).1.reply⟩)
      ((after.getIfaceByName name).1.setUnnumbered ifindex iface true).1 := asked.aside rfl _
  have changed : first.change ⟨⟨.setUnnumbered ifindex iface true,
      decide (after.getIfaceByName name).1.reply.Accepts⟩, (after.getIfaceByName name).1.reply⟩ =
        { first with unnumbered := some iface } := if_pos ⟨accepted, isIndex⟩
  exact changed ▸ set

/-- `provision_dp` returns no error exactly when no call looks refused, and then it
has made a session with what was accepted. -/
theorem provisionDp_outcome (owner : Nat) (session : PPPOESession) (vpp : VPP) :
    ((vpp.provisionDp owner session).2.1 = none ↔ vpp.NotRefused session) ∧
      (vpp.NotRefused session ->
        (vpp.provisionDp owner session).2.2 = vpp.reply.swIfIndex ∧
          Newest vpp (vpp.provisionedSession session) (vpp.provisionDp owner session).1) := by
  by_cases adding : vpp.Knows session.vrf ∧ vpp.reply.swIfIndex ≠ uint32Max
  · have adds := @addPppoeSession_adds owner session vpp adding.1 adding.2
    have reply : (vpp.addPppoeSession owner session true).1.reply =
        vpp.replies (vpp.calls.length + 1) := by
      rw [VPP.reply, adds.replies, adds.calls]
    have provisioned : vpp.provisionDp owner session =
        (((vpp.addPppoeSession owner session true).1.configure vpp.reply.swIfIndex session).1,
          ((vpp.addPppoeSession owner session true).1.configure vpp.reply.swIfIndex session).2,
          vpp.reply.swIfIndex) := by
      rw [provisionDp, adds.ifindex]
    have tabled := newest_tabled adds
    have dumped : ((vpp.addPppoeSession owner session true).1.tabled vpp.reply.swIfIndex session).reply =
        vpp.replies (vpp.dumpNumber session) := by
      rw [VPP.reply, tabled_replies, adds.replies, length_calls_tabled, adds.calls]
      rfl
    have borrowing : (((vpp.addPppoeSession owner session true).1.tabled vpp.reply.swIfIndex
        session).getIfaceByName session.unnumbered).1.reply =
          vpp.replies (vpp.dumpNumber session + 1) := by
      rw [reply_getIfaceByName, tabled_replies, adds.replies, length_calls_tabled, adds.calls]
      rfl
    rw [provisioned, configure_eq, reply, dumped]
    dsimp only
    by_cases moved : session.vrf ≠ [] ∧ (vpp.replies (vpp.calls.length + 1)).retval = -1
    · rw [if_pos moved]
      refine ⟨iff_of_false (Option.some_ne_none _) (fun fine => fine.moved moved),
        fun fine => absurd moved fine.moved⟩
    · rw [if_neg moved]
      by_cases own : session.unnumbered = []
      · rw [if_pos own, provisionedSession, if_pos own]
        refine ⟨iff_of_true rfl ⟨adding.1, adding.2, moved, fun named => absurd own named,
          fun named => absurd own named⟩, fun _ => ⟨rfl, tabled⟩⟩
      · rw [if_neg own, provisionedSession, if_neg own]
        cases isListed : listed session.unnumbered (vpp.replies (vpp.dumpNumber session)) with
        | none =>
            refine ⟨iff_of_false (Option.some_ne_none _) (fun fine => ?_), fun fine => ?_⟩
            · rcases fine.found own with ⟨iface, there⟩
              rw [isListed] at there
              cases there
            · rcases fine.found own with ⟨iface, there⟩
              rw [isListed] at there
              cases there
        | some iface =>
            have answer : ((((vpp.addPppoeSession owner session true).1.tabled vpp.reply.swIfIndex
                session).getIfaceByName session.unnumbered).1.setUnnumbered vpp.reply.swIfIndex iface
                  true).2 = decide (vpp.replies (vpp.dumpNumber session + 1)).Accepts := by
              rw [← borrowing]
              rfl
            dsimp only
            rw [answer]
            by_cases accepted : (vpp.replies (vpp.dumpNumber session + 1)).Accepts
            · rw [decide_eq_true accepted, if_pos rfl]
              refine ⟨iff_of_true rfl ⟨adding.1, adding.2, moved, fun _ => ⟨iface, isListed⟩,
                fun _ => accepted⟩, fun _ => ⟨rfl, ?_⟩⟩
              exact tabled.borrows (vpp.tabledSession_fields session).2.1 session.unnumbered iface
                (borrowing ▸ accepted)
            · rw [decide_eq_false accepted]
              exact ⟨iff_of_false (Option.some_ne_none _) (fun fine => accepted (fine.borrowed own)),
                fun fine => absurd (fine.borrowed own) accepted⟩
  · rcases @addPppoeSession_refused owner session vpp adding with ⟨nothing, _⟩
    have failed : (vpp.provisionDp owner session).2.1 = some "Cannot add new session to vpp " := by
      rw [provisionDp, nothing]
    rw [failed]
    exact ⟨iff_of_false (Option.some_ne_none _) (fun fine => adding ⟨fine.known, fine.added⟩),
      fun fine => absurd ⟨fine.known, fine.added⟩ adding⟩

/-- When `provision_dp` returns no error, VPP has the session that was asked for,
provided that it set the table. -/
theorem forwards_provisionDp_iff (owner : Nat) {session : PPPOESession} {vpp : VPP}
    (fine : vpp.NotRefused session) :
    vpp.Forwards session (vpp.provisionDp owner session).2.2 (vpp.provisionDp owner session).1 ↔
      vpp.Provisionable session := by
  rcases (vpp.provisionDp_outcome owner session).2 fine with ⟨ifindex, rest, are, older⟩
  rcases vpp.tabledSession_fields session with ⟨made, index, mac, sid, address⟩
  have fields : (vpp.provisionedSession session).made = vpp.calls.length ∧
      (vpp.provisionedSession session).index = vpp.reply.swIfIndex ∧
      (vpp.provisionedSession session).mac = session.encap.sourceMac ∧
      (vpp.provisionedSession session).sid = session.sessionId ∧
      (vpp.provisionedSession session).address = session.address ∧
      (vpp.provisionedSession session).table = (vpp.tabledSession session).table := by
    unfold provisionedSession
    split <;> exact ⟨made, index, mac, sid, address, rfl⟩
  rw [ifindex]
  unfold Forwards
  rw [are]
  constructor
  · rintro ⟨forwarding, member, recent, _, _, _, _, table, _⟩
    refine ⟨fine, fun ruled => ?_⟩
    rcases List.mem_cons.mp member with new | old
    · rw [if_neg ruled, new, fields.2.2.2.2.2, tabledSession] at table
      by_cases accepted : (vpp.replies (vpp.calls.length + 1)).Accepts
      · exact .inr accepted
      · rw [if_neg (fun both => accepted both.2)] at table
        exact .inl table
    · exact absurd (older forwarding old) (Nat.not_lt_of_ge recent)
  · intro provisionable
    refine ⟨vpp.provisionedSession session, List.mem_cons_self, Nat.le_of_eq fields.1.symm,
      fields.2.1, fields.2.2.1, fields.2.2.2.1, fields.2.2.2.2.1, ?_, fun own => ?_⟩
    · rw [fields.2.2.2.2.2, tabledSession]
      by_cases global : session.vrf = []
      · rw [if_pos global, if_neg (fun both => both.1 global)]
        rfl
      · rw [if_neg global]
        rcases fine.known with isGlobal | known
        · exact absurd isGlobal global
        · rcases Option.ne_none_iff_exists'.mp known with ⟨table, isTable⟩
          by_cases accepted : (vpp.replies (vpp.calls.length + 1)).Accepts
          · rw [if_pos ⟨global, accepted⟩, isTable]
            rfl
          · rw [if_neg (fun both => accepted both.2)]
            exact (provisionable.tabled global).resolve_right accepted
    · rcases fine.found own with ⟨iface, isListed⟩
      refine ⟨iface, isListed, ?_⟩
      rw [provisionedSession, if_neg own]
      exact isListed

end

end VPP

end Pppcpd
