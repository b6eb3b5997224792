import Pppcpd.Ppp.Automata
import Pppcpd.Ppp.Emits

namespace Pppcpd

open Foundation

/-!
# The addresses of the frames of a session

Every frame of the automata and of the authentication protocols begins with the
header that `generate_header` makes for the link of the session.  The header
names the peer and both VLANs, but for a link with an inner VLAN alone: there it
has room for a tag that is not written.
-/

/-- A frame begins with the header of a link. -/
def Headed (hwaddr : Mac) (encap : Encapsulation) (frame : Bytes) : Prop :=
  encap.generateHeader hwaddr ethPppoeSession <+: frame

/-- A method leaves the link of the session, and its frames are for that link. -/
structure Sends (hwaddr : Mac) (session : PPPOESession) (out : FsmOut) : Prop where
  encap : out.session.encap = session.encap
  headed : forall frame, frame ∈ out.sent -> Headed hwaddr session.encap frame

theorem headed_frame (hwaddr : Mac) (session : PPPOESession) (packet : Bytes) :
    Headed hwaddr session.encap (session.frame hwaddr packet) :=
  List.prefix_append _ _

namespace Sends

variable {hwaddr : Mac} {session : PPPOESession}

theorem silent {out : FsmOut} (encap : out.session.encap = session.encap) (nothing : out.sent = []) :
    Sends hwaddr session out :=
  ⟨encap, fun _ member => absurd (nothing ▸ member) List.not_mem_nil⟩

theorem single {out : FsmOut} {sender : PPPOESession} {packet : Bytes}
    (encap : out.session.encap = session.encap) (link : sender.encap = session.encap)
    (sent : out.sent = [sender.frame hwaddr packet]) : Sends hwaddr session out := by
  refine ⟨encap, fun frame member => ?_⟩
  rw [sent] at member
  rw [List.mem_singleton.mp member, ← link]
  exact headed_frame hwaddr sender packet

theorem emits {out : FsmOut} (sends : Sends hwaddr session out) :
    Emits PPPOESession.encap (Headed hwaddr) session out :=
  ⟨sends.encap, sends.headed⟩

theorem of_emits {out : FsmOut} (emits : Emits PPPOESession.encap (Headed hwaddr) session out) :
    Sends hwaddr session out :=
  ⟨emits.kept, emits.good⟩

/-- The frames of a method, with another session afterwards. -/
theorem mono {first out : FsmOut} {origin : PPPOESession} (sends : Sends hwaddr origin first)
    (link : origin.encap = session.encap) (sent : out.sent = first.sent)
    (last : out.session.encap = first.session.encap) : Sends hwaddr session out := by
  refine ⟨last.trans (sends.encap.trans link), fun frame member => ?_⟩
  rw [sent] at member
  exact link ▸ sends.headed frame member

end Sends

/-- Every virtual method of an automaton sends for the link of its session. -/
structure FsmClass.Addresses (protocol : FsmClass) (hwaddr : Mac) : Prop where
  setFsm : protocol.toFsmAccess.Leaves PPPOESession.encap
  sendConfReq : forall session, Sends hwaddr session (protocol.sendConfReq session)
  checkConf : forall session packet out, protocol.checkConf session packet = some out ->
    Sends hwaddr session out
  sendTermAck : forall session packet, Sends hwaddr session (protocol.sendTermAck session packet)
  sendEchoRep : forall session packet, Sends hwaddr session (protocol.sendEchoRep session packet)
  recvEchoRep : forall session packet, Sends hwaddr session (protocol.recvEchoRep session packet)

namespace FsmClass.Addresses

variable {protocol : FsmClass} {hwaddr : Mac}

/-- A frame that begins with the header of the link is a good one. -/
theorem emitting (addresses : protocol.Addresses hwaddr) :
    protocol.Emitting PPPOESession.encap (Headed hwaddr) (fun _ => True) where
  setFsm := fun session fsm _ _ => addresses.setFsm session fsm
  sendConfReq := fun session => (addresses.sendConfReq session).emits
  checkConf := fun session packet out _ _ returned =>
    (addresses.checkConf session packet out returned).emits
  sendTermAck := fun session packet _ => (addresses.sendTermAck session packet).emits
  sendEchoRep := fun session packet _ => (addresses.sendEchoRep session packet).emits
  recvEchoRep := fun session packet _ => (addresses.recvEchoRep session packet).emits

theorem start (addresses : protocol.Addresses hwaddr) (session : PPPOESession) :
    Sends hwaddr session (protocol.start session) :=
  .of_emits (addresses.emitting.start session)

/-- Whatever packet is received, the frames are for the link of the session. -/
theorem receive (addresses : protocol.Addresses hwaddr) {session : PPPOESession} {packet : Packet}
    {out : FsmOut} (received : protocol.receive session packet = some out) :
    Sends hwaddr session out :=
  .of_emits (addresses.emitting.receive trivial received)

end FsmClass.Addresses

/-! ## The protocols -/

theorem FsmAccess.Leaves.sends_acceptConf {access : FsmAccess}
    (leaves : access.Leaves PPPOESession.encap) {hwaddr : Mac} {session walked : PPPOESession}
    (packet : Packet) (same : walked.encap = session.encap) :
    Sends hwaddr session (access.acceptConf hwaddr walked packet) := by
  have kept := leaves.acceptConf hwaddr walked packet
  exact .single (kept.trans same) (kept.trans same) rfl

theorem sends_confRej {access : FsmAccess} {hwaddr : Mac} {session refused : PPPOESession}
    (proto : UInt16) (rejected : Bytes) (identifier : UInt8)
    (same : refused.encap = session.encap) :
    Sends hwaddr session (access.sendConfRej proto hwaddr refused rejected identifier) :=
  .single same same rfl

namespace LCPFsm

theorem sends_answerMagic (answer : UInt8) (context : LinkContext) (session : PPPOESession)
    (packet : Packet) :
    Sends context.hwaddr session (answerMagic answer context session packet) := by
  unfold answerMagic
  dsimp only
  split
  · exact .silent rfl rfl
  · exact .single rfl rfl rfl

theorem sends_confReq (context : LinkContext) (session : PPPOESession) :
    Sends context.hwaddr session (sendConfReq context session) := by
  unfold sendConfReq
  split
  · exact .silent rfl rfl
  · exact ⟨rfl, fun _ member => List.mem_singleton.mp member ▸ headed_frame _ _ _⟩

theorem protocol_addresses (context : LinkContext) :
    (protocol context).Addresses context.hwaddr where
  setFsm := fun _ _ => rfl
  sendConfReq := sends_confReq context
  checkConf := by
    intro session packet out returned
    rw [protocol_checkConf] at returned
    have leaves : access.Leaves PPPOESession.encap := fun _ _ => rfl
    rcases checkConf_cases returned with empty | ⟨walked, kept, _, accepted | ⟨rejected, refused⟩⟩
    · rw [empty]
      exact .silent rfl rfl
    · rw [accepted]
      exact leaves.sends_acceptConf packet (congrArg (fun session => session.encap) kept)
    · rw [refused]
      exact sends_confRej _ _ _ ((leaves.refuseState walked).trans
        (congrArg (fun session => session.encap) kept))
  sendTermAck := sends_answerMagic LCPCode.termAck context
  sendEchoRep := sends_answerMagic LCPCode.echoReply context
  recvEchoRep := fun _ _ => .silent rfl rfl

end LCPFsm

namespace IPCPFsm

theorem sends_confNak {hwaddr : Mac} {getSession : SessionLookup} {session : PPPOESession}
    {packet : Packet} {out : FsmOut}
    (returned : sendConfNak hwaddr getSession session packet = some out) :
    Sends hwaddr session out := by
  unfold sendConfNak at returned
  split at returned
  · rw [← Option.some.inj returned]
    exact .silent rfl rfl
  · rcases Option.map_eq_some_iff.mp returned with ⟨offsets, _, equal⟩
    rw [← equal]
    exact .single rfl rfl rfl

theorem sends_checkConf {hwaddr : Mac} {getSession : SessionLookup} {session : PPPOESession}
    {packet : Packet} {out : FsmOut}
    (returned : checkConf hwaddr getSession session packet = some out) :
    Sends hwaddr session out := by
  have leaves : access.Leaves PPPOESession.encap := fun _ _ => rfl
  unfold checkConf at returned
  split at returned
  · rw [← Option.some.inj returned]
    exact .silent rfl rfl
  · split at returned
    · rw [← Option.some.inj returned]
      exact .silent rfl rfl
    · dsimp only at returned
      rcases Option.bind_eq_some_iff.mp returned with ⟨offsets, _, checked⟩
      split at checked
      · rw [← Option.some.inj checked]
        exact sends_confRej _ _ _ rfl
      · split at checked
        · exact (sends_confNak checked).mono (leaves.refuseState _) rfl rfl
        · rw [← Option.some.inj checked]
          exact leaves.sends_acceptConf packet rfl

theorem protocol_addresses (hwaddr : Mac) (getSession : SessionLookup) :
    (protocol hwaddr getSession).Addresses hwaddr where
  setFsm := fun _ _ => rfl
  sendConfReq := fun _ => .single rfl rfl rfl
  checkConf := by
    intro session packet out returned
    rw [protocol_checkConf] at returned
    exact sends_checkConf returned
  sendTermAck := fun _ _ => .silent rfl rfl
  sendEchoRep := fun _ _ => .silent rfl rfl
  recvEchoRep := fun _ _ => .silent rfl rfl

end IPCPFsm

namespace AuthProtocol

theorem sends_authAck (hwaddr : Mac) (protocol : AuthProtocol) (session : PPPOESession) :
    Sends hwaddr session (protocol.sendAuthAck hwaddr session) := by
  have up := (IPCPFsm.protocol_addresses hwaddr (fun _ => none)).start session
  refine ⟨up.encap, fun frame member => ?_⟩
  rcases List.mem_cons.mp member with first | later
  · rw [first]
    exact headed_frame _ _ _
  · exact up.headed frame later

theorem sends_authCallback (hwaddr : Mac) (protocol : AuthProtocol) (sid : UInt32)
    (err : Option String) (session : PPPOESession) :
    Sends hwaddr session (protocol.authCallback hwaddr sid err session) := by
  cases err with
  | none =>
      refine (sends_authAck hwaddr protocol _).mono ?_ rfl rfl
      cases protocol <;> rfl
  | some text => exact .single rfl rfl rfl

end AuthProtocol

theorem sends_challenge (hwaddr : Mac) (acName digest : Bytes) (session : PPPOESession) :
    Sends hwaddr session (sendChallenge hwaddr acName digest session) :=
  ⟨rfl, fun _ member => List.mem_singleton.mp member ▸ headed_frame _ _ _⟩

/-! ## The header on the wire -/

/-- The 802.1Q tags of the VLAN ids that are set. -/
def vlanTags (ids : List UInt16) : Bytes :=
  (ids.filter (fun id => id ≠ 0)).flatMap (fun id => bytes16 ethVlan ++ bytes16 id)

/-- A session frame is addressed to a peer in two VLANs: destination address,
any source address, the tags, and the ethertype. -/
def AddressedTo (mac : Mac) (outerVlan innerVlan : UInt16) (frame : Bytes) : Prop :=
  ∃ source : Mac, ∃ rest, frame = mac.bytes ++ source.bytes ++ vlanTags [outerVlan, innerVlan] ++
    bytes16 ethPppoeSession ++ rest

theorem addressedTo_of_headed {hwaddr : Mac} {encap : Encapsulation} {frame : Bytes}
    (headed : Headed hwaddr encap frame) (tagged : encap.outerVlan = 0 -> encap.innerVlan = 0) :
    AddressedTo encap.sourceMac encap.outerVlan encap.innerVlan frame := by
  rcases headed with ⟨rest, whole⟩
  refine ⟨hwaddr, rest, ?_⟩
  rw [← whole]
  unfold Encapsulation.generateHeader vlanTags
  dsimp only
  by_cases noOuter : encap.outerVlan = 0
  · simp [noOuter, tagged noOuter]
  · by_cases noInner : encap.innerVlan = 0
    · simp [noOuter, noInner]
    · simp [noOuter, noInner]

/-- A link with an inner VLAN alone: the ethertype stands where the tag should
be. -/
theorem not_addressedTo_of_headed {hwaddr : Mac} {encap : Encapsulation} {frame : Bytes}
    (headed : Headed hwaddr encap frame) (noOuter : encap.outerVlan = 0)
    (inner : encap.innerVlan ≠ 0) :
    ¬ AddressedTo encap.sourceMac encap.outerVlan encap.innerVlan frame := by
  rintro ⟨source, rest, addressed⟩
  rcases headed with ⟨behind, whole⟩
  rw [← whole] at addressed
  have bytes := congrArg (fun frame => frame[12]?) addressed
  unfold Encapsulation.generateHeader vlanTags at bytes
  simp [noOuter, inner, Mac.bytes, bytes16, ethPppoeSession, ethVlan] at bytes

end Pppcpd
