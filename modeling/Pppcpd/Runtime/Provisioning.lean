import Pppcpd.Vpp.Forwarding
import Pppcpd.Runtime.Frames
import Pppcpd.Runtime.Step

namespace Pppcpd

open Foundation

/-!
# Provisioning a session

`provision_dp` makes up to three changes in VPP, one after the other.  When a
later one fails it returns an error and leaves the earlier ones in place, and
`processPPP` only logs the error before it maps the interface and starts the
echo mechanism.
-/

namespace Runtime

/-- The IPCP case of `processPPP` up to `provision_dp`, when the packet opens IPCP:
the state, the reference and the session there. -/
def ipcpOpening (runtime : Runtime) (env : Env) (encap : Encapsulation) (packet : Packet) :
    Option (Runtime × Nat × PPPOESession) :=
  (runtime.store.activeSessions.lookup (frameKey encap packet)).bind (fun ref =>
    let started := runtime.ensureStarted env ref
    if packet.pppProtocol = PPPProto.ipcp then
      (started.sessions.deref ref).bind (fun session =>
        (started.ipcpFsm.receive session packet).bind (fun out =>
          if out.err = none ∧ out.action = .layerUp then some (started.apply ref out, ref, out.session)
          else none))
    else none)

/-- Provisioning from a state was all or nothing: a success gives VPP the session as
it was asked for, and an error leaves nothing of the call in VPP and starts neither
the echo mechanism nor the mapping of the interface. -/
structure AllOrNothing (before : Runtime) (ref : Nat) (session : PPPOESession) (after : Runtime) :
    Prop where
  whole : (before.vpp.provisionDp ref session).2.1 = none ->
    before.vpp.Forwards session (before.vpp.provisionDp ref session).2.2 after.vpp
  nothing : (before.vpp.provisionDp ref session).2.1 ≠ none ->
    ∀ forwarding ∈ after.vpp.forwards, forwarding.made < before.vpp.calls.length
  noEcho : (before.vpp.provisionDp ref session).2.1 ≠ none ->
    forall known, after.sessions.deref ref = some known -> known.timer = session.timer
  noMapping : (before.vpp.provisionDp ref session).2.1 ≠ none -> after.aaa = before.aaa

section

variable {runtime before : Runtime} {env : Env} {encap : Encapsulation} {packet : Packet} {ref : Nat}
  {session : PPPOESession}

/-- What a packet that opens IPCP does. -/
theorem of_ipcpOpening (opening : runtime.ipcpOpening env encap packet = some (before, ref, session)) :
    runtime.processPPP env encap packet = some (before.openDataPlane ref session, none) ∧
      before.vpp = runtime.vpp ∧ before.sessions.deref ref = some session := by
  unfold ipcpOpening at opening
  rcases Option.bind_eq_some_iff.mp opening with ⟨found, isFound, rest⟩
  dsimp only at rest
  split at rest
  · rename_i ipcp
    rcases Option.bind_eq_some_iff.mp rest with ⟨known, present, received⟩
    rcases Option.bind_eq_some_iff.mp received with ⟨out, isOut, opened⟩
    split at opened
    · rename_i up
      have parts := Option.some.inj opened
      have isBefore : (runtime.ensureStarted env found).apply found out = before :=
        (Prod.mk.inj parts).1
      have isRef : found = ref := (Prod.mk.inj (Prod.mk.inj parts).2).1
      have isSession : out.session = session := (Prod.mk.inj (Prod.mk.inj parts).2).2
      refine ⟨?_, ?_, ?_⟩
      · unfold processPPP
        rw [isFound]
        dsimp only
        unfold dispatch processIpcp
        rw [if_neg (by rw [ipcp]; decide), if_neg (by rw [ipcp]; decide),
          if_neg (by rw [ipcp]; decide), if_pos ipcp, present, Option.bind_some, isOut]
        rw [← isBefore, ← isRef, ← isSession]
        simp only [Option.map_some, up.1, up.2]
      · rw [← isBefore]
        unfold ensureStarted withSession
        split <;> rfl
      · rw [← isBefore, ← isRef, ← isSession]
        unfold apply
        dsimp only
        rw [Heap.deref_update, if_pos rfl, present]
        rfl
    · cases opened
  · cases rest

/-- The echo mechanism is started whatever became of the provisioning. -/
theorem echo_openDataPlane (present : before.sessions.deref ref = some session) :
    ∃ known, (before.openDataPlane ref session).sessions.deref ref = some known ∧
      known.timer ≠ session.timer := by
  refine ⟨{ session with
    ifindex := (before.vpp.provisionDp ref session).2.2
    timer := Timer.restart session.timer }, ?_, ?_⟩
  · unfold openDataPlane startEcho
    dsimp only
    rw [Heap.deref_update, if_pos rfl, Heap.deref_update, if_pos rfl, present]
    rfl
  · intro same
    have lengths := congrArg List.length same
    unfold Timer.restart Timer.cancel at lengths
    rw [List.length_append, List.length_map, List.length_singleton] at lengths
    omega

end

/-- Whenever a packet opens IPCP, the session is provisioned all or nothing exactly
when every request to VPP takes effect. -/
theorem allOrNothing_iff {runtime before after : Runtime} {env : Env} {encap : Encapsulation}
    {packet : Packet} {ref : Nat} {session : PPPOESession} {err : Option String}
    (opening : runtime.ipcpOpening env encap packet = some (before, ref, session))
    (processed : runtime.processPPP env encap packet = some (after, err)) :
    AllOrNothing before ref session after ↔ runtime.vpp.Provisionable session := by
  rcases of_ipcpOpening opening with ⟨handled, sameVpp, present⟩
  have isAfter : before.openDataPlane ref session = after :=
    (Prod.mk.inj (Option.some.inj (handled.symm.trans processed))).1
  rcases before.vpp.provisionDp_outcome ref session with ⟨fine_iff, _⟩
  rw [← isAfter, ← sameVpp]
  constructor
  · intro allOrNothing
    rcases echo_openDataPlane present with ⟨known, isKnown, echoes⟩
    have succeeded : (before.vpp.provisionDp ref session).2.1 = none :=
      Classical.byContradiction (fun failed => echoes (allOrNothing.noEcho failed known isKnown))
    exact (VPP.forwards_provisionDp_iff ref (fine_iff.mp succeeded)).mp (allOrNothing.whole succeeded)
  · intro provisionable
    have succeeded := fine_iff.mpr provisionable.toNotRefused
    refine ⟨fun _ => (VPP.forwards_provisionDp_iff ref provisionable.toNotRefused).mpr provisionable,
      fun failed => absurd succeeded failed, fun failed => absurd succeeded failed,
      fun failed => absurd succeeded failed⟩

/-- The acknowledgement that opens IPCP in the establishment of a session. -/
def openingAck : Packet := sessionPacket 1 PPPProto.ipcp (pppHdr LCPCode.confAck 1 4)

/-- A daemon whose RADIUS subscribers belong to a VRF and borrow the address of a unit. -/
def ruledBorrower : Runtime :=
  let replies : List VPPReply := [{ swIfIndex := 5 }, {}, { ifaces := [(ascii "u", 7)] }, {}]
  { boot { pppoeTemplates := (∅ : Table Bytes PPPOELocalTemplate).insert (ascii "t")
            { framedPool := ascii "p", vrf := ascii "red", unnumbered := ascii "u" }
           aaaConf := AAA.sampleConf [.radius] } papPolicy AAA.sampleSecret ⟨2, 0, 0, 0, 0, 1⟩
      MD5.digest (fun _ => {}) with
    vpp := { vrfs := (∅ : Table Bytes UInt32).insert (ascii "red") 7
             replies := fun number => replies.getD number {} } }

/-- That daemon right before the acknowledgement. -/
def almostUp : Runtime :=
  Foundation.after step ruledBorrower establishAccepted.dropLast (by decide +kernel)

theorem allOrNothing_at_almostUp : ∃ before ref session after,
    almostUp.ipcpOpening {} (sampleLink 1) openingAck = some (before, ref, session) ∧
      almostUp.processPPP {} (sampleLink 1) openingAck = some (after, none) ∧
        session.vrf = ascii "red" ∧ session.unnumbered = ascii "u" ∧
          AllOrNothing before ref session after := by
  have opens : (almostUp.ipcpOpening {} (sampleLink 1) openingAck).any (fun opening =>
      decide (opening.2.2.vrf = ascii "red" ∧ opening.2.2.unnumbered = ascii "u")) = true := by
    decide +kernel
  rcases (Option.any_eq_true _ _).mp opens with ⟨⟨before, ref, session⟩, opening, named⟩
  rcases of_decide_eq_true named with ⟨vrf, unnumbered⟩
  rcases of_ipcpOpening opening with ⟨processed, _, _⟩
  have number : almostUp.vpp.dumpNumber session = 2 := by
    have calls : almostUp.vpp.calls.length = 0 := by decide +kernel
    have ruled : session.vrf ≠ [] := by
      rw [vrf]
      decide
    unfold VPP.dumpNumber
    rw [calls, if_neg ruled]
  have moves : (almostUp.vpp.replies (almostUp.vpp.calls.length + 1)).Accepts := by decide +kernel
  have calm : (almostUp.vpp.replies (almostUp.vpp.calls.length + 1)).retval ≠ -1 := by
    decide +kernel
  have lends : VPP.listed (ascii "u") (almostUp.vpp.replies 2) = some 7 := by decide +kernel
  have borrows (dump : Nat) (isDump : dump = 2) : (almostUp.vpp.replies (dump + 1)).Accepts := by
    rw [isDump]
    decide +kernel
  refine ⟨before, ref, session, _, opening, processed, vrf, unnumbered,
    (allOrNothing_iff opening processed).mpr ⟨⟨.inr ?_, ?_, fun both => calm both.2, fun _ => ⟨7, ?_⟩,
      fun _ => ?_⟩, fun _ => .inr moves⟩⟩
  · rw [vrf]
    decide +kernel
  · decide +kernel
  · exact (congrArg₂ (fun name number => VPP.listed name (almostUp.vpp.replies number))
      unnumbered number).trans lends
  · exact borrows _ number

/-- A daemon whose subscribers belong to a VRF, with a VPP that refuses to move an
interface there. -/
def refusedDaemon : Runtime :=
  { boot { pppoeTemplates := (∅ : Table Bytes PPPOELocalTemplate).insert (ascii "t")
            { framedPool := ascii "p", vrf := ascii "red" }
           aaaConf := AAA.sampleConf [.none] } papPolicy AAA.sampleSecret ⟨2, 0, 0, 0, 0, 1⟩ MD5.digest
      (fun _ => {}) with
    vpp := { vrfs := (∅ : Table Bytes UInt32).insert (ascii "red") 7
             replies := fun number => { retval := if number = 1 then -1 else 0 } } }

/-- The daemon right before the session of such a subscriber is provisioned. -/
def refusedSoon : Runtime := Foundation.after step refusedDaemon establish.dropLast (by decide +kernel)

/-- The session stays in VPP, outside its VRF. -/
theorem half_provisioned : ¬ (forall runtime, Reachable step refusedDaemon runtime ->
    forall (env : Env) (encap : Encapsulation) (packet : Packet) (before : Runtime) (ref : Nat)
      (session : PPPOESession) (after : Runtime) (err : Option String),
      runtime.ipcpOpening env encap packet = some (before, ref, session) ->
      runtime.processPPP env encap packet = some (after, err) ->
        AllOrNothing before ref session after) := by
  intro claimed
  have opens : (refusedSoon.ipcpOpening {} (sampleLink 1) openingAck).any (fun opening =>
      decide ((opening.1.vpp.provisionDp opening.2.1 opening.2.2).2.1 ≠ none ∧
        ∃ forwarding ∈ (opening.1.openDataPlane opening.2.1 opening.2.2).vpp.forwards,
          opening.1.vpp.calls.length ≤ forwarding.made)) = true := by
    decide +kernel
  rcases (Option.any_eq_true _ _).mp opens with ⟨⟨before, ref, session⟩, opening, facts⟩
  rcases of_decide_eq_true facts with ⟨failed, forwarding, left, recent⟩
  have allOrNothing := claimed refusedSoon (reachable_after _ _ _ _) _ _ _ _ _ _ _ _ opening
    (of_ipcpOpening opening).1
  exact absurd (allOrNothing.nothing failed forwarding left) (Nat.not_lt_of_ge recent)

end Runtime

end Pppcpd
