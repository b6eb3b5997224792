import Pppcpd.Ppp.Handshake
import Pppcpd.Ppp.OptionWalk

namespace Pppcpd

open Foundation

/-!
# Where the address of a session comes from

IPCP copies the address and the VRF of the AAA session whenever it looks at the
options of a Configure-Request, whether or not it then accepts them.  Only a
request that it accepts brings it into Ack_Sent or Opened, and such a request
asks for nothing else than what was just copied.
-/

namespace IPCPFsm

/-- This side has acknowledged the options of the peer. -/
def Acked (session : PPPOESession) : Prop :=
  session.ipcp.state = .ackSent ∨ session.ipcp.state = .opened

instance (session : PPPOESession) : Decidable (Acked session) :=
  inferInstanceAs (Decidable (_ ∨ _))

/-- The settings of a session that reach the data plane. -/
def settings (session : PPPOESession) : UInt32 × Bytes := (session.address, session.vrf)

/-- The packet is a Configure-Request, and it is answered with a Configure-Ack. -/
def Acks (hwaddr : Mac) (session : PPPOESession) (packet : Packet) (out : FsmOut) : Prop :=
  packet.code = LCPCode.confReq ∧ acceptance hwaddr session packet ∈ out.sent

/-- What a packet does to the settings and to what was acknowledged. -/
inductive Adoption (hwaddr : Mac) (getSession : SessionLookup) (session : PPPOESession)
    (packet : Packet) (out : FsmOut) : Prop
  | kept : settings out.session = settings session ->
      (Acked out.session -> Acked session ∧ ¬ Acks hwaddr session packet out) ->
      Adoption hwaddr getSession session packet out
  | adopted {record : AAASession} : getSession session.aaaSessionId = some record ->
      settings out.session = (record.address, record.vrf) ->
      (Acked out.session -> Acked session ∧ ¬ Acks hwaddr session packet out) ->
      Adoption hwaddr getSession session packet out
  | accepted {record : AAASession} {offsets : List Nat} :
      getSession session.aaaSessionId = some record ->
      settings out.session = (record.address, record.vrf) ->
      parseIPCPOptions packet = some offsets -> mismatch record packet offsets = false ->
      Acks hwaddr session packet out -> Adoption hwaddr getSession session packet out

/-- Every IP-Address option of the packet has the value. -/
def AddressIs (packet : Packet) (address : UInt32) : Prop :=
  forall offsets, parseIPCPOptions packet = some offsets -> ∀ offset ∈ offsets,
    packet.optionType offset = IPCPOption.ipAddress -> packet.optionVal32 offset = address

/-- A request without a mismatch is acknowledged with the address of AAA. -/
theorem addressIs_of_agreed {record : AAASession} {packet : Packet} {offsets : List Nat}
    (parsed : parseIPCPOptions packet = some offsets)
    (agreed : mismatch record packet offsets = false) :
    AddressIs (packet.setCode LCPCode.confAck) record.address := by
  intro others again offset member isAddress
  unfold parseIPCPOptions at parsed again
  rw [nextOption_setCode, optionArea_setCode, parsed] at again
  rw [← Option.some.inj again] at member
  rw [Packet.optionType_setCode] at isAddress
  rw [Packet.optionVal32_setCode]
  have asked : wanted record (packet.optionType offset) = some record.address := by
    rw [wanted, if_pos isAddress]
  have equal := List.any_eq_false.mp agreed offset member
  rw [asked] at equal
  simpa using Eq.symm (of_not_not (fun different => equal (bne_iff_ne.mpr different)))

/-- A Configure-Reject is not the request with another code. -/
theorem acceptance_ne_confRej (hwaddr : Mac) (session : PPPOESession) (packet : Packet)
    (sid length : UInt16) (identifier : UInt8) (options : Bytes) :
    acceptance hwaddr session packet ≠ session.frame hwaddr
      (pppoeSessionHdr sid (length + 2) PPPProto.ipcp ++ pppHdr LCPCode.confRej identifier length ++
        options) := by
  intro same
  have payload : (packet.setCode LCPCode.confAck).bytes = _ := List.append_cancel_left same
  have ninth := congrArg (fun bytes => bytes[8]?) payload
  have code : (packet.setCode LCPCode.confAck).bytes[8]? = some LCPCode.confRej := ninth
  unfold Packet.setCode Buffer.set at code
  split at code
  · rename_i inside
    dsimp only at code
    rw [List.getElem?_set_self inside] at code
    cases code
  · rename_i short
    rw [List.getElem?_eq_none (Nat.le_of_not_lt short)] at code
    cases code

/-- What accepts a request is sent on the link of the session. -/
theorem acceptance_sent (hwaddr : Mac) {session walked : PPPOESession} (packet : Packet)
    (link : walked.encap = session.encap) :
    acceptance hwaddr session packet ∈ (access.acceptConf hwaddr walked packet).sent := by
  unfold acceptance PPPOESession.frame
  rw [← link]
  exact List.mem_singleton_self _

/-- The ways `check_conf` returns, with what it has compared when it accepts. -/
theorem checkConf_adopts {hwaddr : Mac} {getSession : SessionLookup} {session : PPPOESession}
    {packet : Packet} {out : FsmOut}
    (returned : checkConf hwaddr getSession session packet = some out) :
    (∃ text, out = session.fail text) ∨
      ∃ record, getSession session.aaaSessionId = some record ∧
        settings out.session = (record.address, record.vrf) ∧
          ((∃ rejected, out = access.sendConfRej PPPProto.ipcp hwaddr (adopt record session) rejected
              packet.identifier) ∨
            ¬ Acked out.session ∨
            ∃ offsets, parseIPCPOptions packet = some offsets ∧
              mismatch record packet offsets = false ∧
              out = access.acceptConf hwaddr (adopt record session) packet) := by
  unfold checkConf at returned
  split at returned
  · exact .inl ⟨_, (Option.some.inj returned).symm⟩
  · cases found : getSession session.aaaSessionId with
    | none =>
        rw [found] at returned
        exact .inl ⟨_, (Option.some.inj returned).symm⟩
    | some record =>
        rw [found] at returned
        dsimp only at returned
        refine .inr ⟨record, rfl, ?_⟩
        rcases Option.bind_eq_some_iff.mp returned with ⟨offsets, parsed, checked⟩
        split at checked
        · rw [← Option.some.inj checked]
          exact ⟨rfl, .inl ⟨_, rfl⟩⟩
        · split at checked
          · have answered : forall counted answer,
                sendConfNak hwaddr getSession counted packet = some answer ->
                  answer.session = counted := by
              intro counted answer sent
              unfold sendConfNak at sent
              split at sent
              · exact (congrArg FsmOut.session (Option.some.inj sent)).symm
              · rcases Option.map_eq_some_iff.mp sent with ⟨_, _, equal⟩
                exact (congrArg FsmOut.session equal).symm
            have same := answered _ _ checked
            rw [same]
            unfold FsmAccess.refuseState
            split
            · rename_i ackRcvd
              have state : session.ipcp.state = .ackRcvd := ackRcvd
              refine ⟨rfl, .inr (.inl ?_)⟩
              rintro (ackSent | opened)
              · exact absurd (state.symm.trans ackSent) (by decide)
              · exact absurd (state.symm.trans opened) (by decide)
            · refine ⟨rfl, .inr (.inl ?_)⟩
              rintro (ackSent | opened)
              · cases ackSent
              · cases opened
          · rename_i agreed
            rw [← Option.some.inj checked]
            exact ⟨rfl, .inr (.inr ⟨offsets, parsed, Bool.eq_false_iff.mpr agreed, rfl⟩)⟩

/-- A Configure-Request outside of Stopped is kept, adopted or accepted. -/
theorem adoption_of_checkConf {hwaddr : Mac} {getSession : SessionLookup} {session : PPPOESession}
    {packet : Packet} {out : FsmOut} (request : packet.code = LCPCode.confReq)
    (returned : checkConf hwaddr getSession session packet = some out) :
    Adoption hwaddr getSession session packet out := by
  rcases checkConf_adopts returned with
    ⟨text, failed⟩ | ⟨record, found, adopts, ⟨rejected, refused⟩ | notAcked |
      ⟨offsets, parsed, agreed, accepted⟩⟩
  · rw [failed]
    exact .kept rfl (fun acked => ⟨acked, fun acks => absurd acks.2 List.not_mem_nil⟩)
  · refine .adopted found adopts (fun acked => ?_)
    rw [refused] at acked ⊢
    exact ⟨acked, fun acks =>
      acceptance_ne_confRej _ _ _ _ _ _ _ (List.mem_singleton.mp acks.2)⟩
  · exact .adopted found adopts (fun acked => absurd acked notAcked)
  · refine .accepted found adopts parsed agreed ⟨request, ?_⟩
    rw [accepted]
    exact acceptance_sent hwaddr packet rfl

/-- Any packet is kept, adopted or accepted. -/
theorem adoption_of_receive {hwaddr : Mac} {getSession : SessionLookup} {session : PPPOESession}
    {packet : Packet} {out : FsmOut}
    (received : (protocol hwaddr getSession).receive session packet = some out) :
    Adoption hwaddr getSession session packet out := by
  have silent : forall {other : FsmOut}, settings other.session = settings session ->
      (Acked other.session -> Acked session) -> other.sent = [] ->
        Adoption hwaddr getSession session packet other := by
    intro other same acked nothing
    refine .kept same (fun after => ⟨acked after, fun acks => ?_⟩)
    have member := acks.2
    rw [nothing] at member
    exact absurd member List.not_mem_nil
  have noRequest : forall {other : FsmOut}, settings other.session = settings session ->
      (Acked other.session -> Acked session) -> packet.code ≠ LCPCode.confReq ->
        Adoption hwaddr getSession session packet other :=
    fun same acked notRequest => .kept same (fun after => ⟨acked after, fun acks => notRequest acks.1⟩)
  have reqSent : forall later : PPPOESession, later.ipcp.state = .reqSent -> ¬ Acked later := by
    rintro later state (ackSent | opened)
    · exact absurd (state.symm.trans ackSent) (by decide)
    · exact absurd (state.symm.trans opened) (by decide)
  unfold FsmClass.receive at received
  dsimp only at received
  split at received
  · rw [← Option.some.inj received]
    exact silent rfl id rfl
  · split at received
    · rename_i request
      unfold FsmClass.recvConfReq at received
      split at received
      · rw [← Option.some.inj received]
        exact silent rfl id rfl
      · rw [← Option.some.inj received]
        exact silent rfl id rfl
      · rw [← Option.some.inj received]
        exact silent rfl id rfl
      · rw [← Option.some.inj received]
        exact .kept rfl (fun acked => absurd acked (reqSent _ rfl))
      · rcases Option.map_eq_some_iff.mp received with ⟨checked, returned, equal⟩
        rw [protocol_checkConf] at returned
        rw [← equal]
        rcases checkConf_adopts returned with
          ⟨text, failed⟩ | ⟨record, found, adopts, ⟨rejected, refused⟩ | notAcked |
            ⟨offsets, parsed, agreed, accepted⟩⟩
        · refine .kept ?_ (fun acked => absurd acked (reqSent _ ?_))
          · rw [failed]
            rfl
          · rw [failed]
            rfl
        · refine .adopted found adopts (fun acked => absurd acked (reqSent _ ?_))
          rw [refused]
          rfl
        · exact .adopted found adopts (fun acked => absurd acked notAcked)
        · refine .accepted found adopts parsed agreed ⟨request, List.mem_append_right _ ?_⟩
          rw [accepted]
          exact acceptance_sent hwaddr packet rfl
      · rw [protocol_checkConf] at received
        exact adoption_of_checkConf request received
    · rename_i notRequest
      split at received
      · rw [← Option.some.inj received]
        unfold FsmClass.recvConfAck
        split
        · exact noRequest rfl id notRequest
        · dsimp only
          split
          · exact noRequest rfl (fun acked => by rcases acked with state | state <;> cases state)
              notRequest
          · rename_i ackSent
            exact noRequest rfl (fun _ => .inl ackSent) notRequest
          · exact noRequest rfl (fun acked => absurd acked (reqSent _ rfl)) notRequest
          · exact noRequest rfl id notRequest
      · split at received
        · rw [← Option.some.inj received]
          unfold FsmClass.recvTermReq
          split
          · exact noRequest rfl (fun acked => absurd acked (reqSent _ rfl)) notRequest
          · exact noRequest rfl (fun acked => absurd acked (reqSent _ rfl)) notRequest
          · exact noRequest rfl (fun acked => by rcases acked with state | state <;> cases state)
              notRequest
          · exact noRequest rfl id notRequest
        · split at received
          · rw [← Option.some.inj received]
            exact noRequest rfl id notRequest
          · split at received
            · rw [← Option.some.inj received]
              exact noRequest rfl id notRequest
            · rw [← Option.some.inj received]
              exact noRequest rfl id notRequest

/-- The start of IPCP acknowledges nothing and takes nothing back. -/
theorem acked_start (hwaddr : Mac) (getSession : SessionLookup) (session : PPPOESession) :
    Acked ((protocol hwaddr getSession).start session).session ↔ Acked session := by
  cases state : session.ipcp.state <;>
    simp [Acked, FsmClass.start, FsmClass.openFsm, FsmClass.layerUp, FsmClass.requestOrLog,
      protocol, FsmAccess.state, FsmAccess.setState, access, sendConfReq, state, PPPOESession.done,
      PPPOESession.queue]

theorem settings_start (hwaddr : Mac) (getSession : SessionLookup) (session : PPPOESession) :
    settings ((protocol hwaddr getSession).start session).session = settings session := by
  cases state : session.ipcp.state <;>
    simp [settings, FsmClass.start, FsmClass.openFsm, FsmClass.layerUp, FsmClass.requestOrLog,
      protocol, FsmAccess.state, FsmAccess.setState, access, sendConfReq, state, PPPOESession.done,
      PPPOESession.queue]

end IPCPFsm

end Pppcpd
