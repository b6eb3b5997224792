import Pppcpd.Ppp.Handshake

namespace Pppcpd

open Foundation

/-!
# Refusals and the ack before them

An automaton that acked a request of the peer and then refuses another one must
take the ack back, or the peer's own ack opens the link on parameters that were
refused.  `check_conf` of LCP moves to Req_Sent, and so does the part of IPCP
that sends a Configure-Nak.  Its part that sends a Configure-Reject returns
before the state is written.
-/

namespace Automaton

variable {automaton : Automaton}

/-- In Ack_Sent and Opened the latest request that was answered is acked, and a
refusal in Ack_Sent goes back to Req_Sent. -/
structure RefusalLaw (automaton : Automaton) (past : List (PPPOESession × FsmCall))
    (now : PPPOESession) : Prop where
  acked : automaton.state now = .ackSent ∨ automaton.state now = .opened ->
    Latest automaton.Enters automaton.Answers automaton.SendsAck past now
  takenBack : forall before call, (before, call) ∈ past -> forall after,
    automaton.step before call = some after -> automaton.state before = .ackSent ->
    automaton.Answers before call -> ¬ automaton.SendsAck before call ->
      automaton.state after = .reqSent

/-- The call is not a request that an automaton in Ack_Sent refuses without
writing its state: an IPCP request with an option that is not known. -/
def TakesBack (automaton : Automaton) (session : PPPOESession) : FsmCall -> Prop
  | .receive surroundings packet =>
      automaton.state session = .ackSent -> packet.code = LCPCode.confReq ->
        ¬ automaton.InPlace surroundings session packet
  | _ => True

instance (automaton : Automaton) (session : PPPOESession) (call : FsmCall) :
    Decidable (automaton.TakesBack session call) := by
  cases call with
  | receive surroundings packet => exact inferInstanceAs (Decidable (_ -> _ -> ¬ _))
  | _ => exact inferInstanceAs (Decidable True)

/-- A request that is acked is answered. -/
theorem SendsAck.answers {session : PPPOESession} {call : FsmCall}
    (sends : automaton.SendsAck session call) : automaton.Answers session call := by
  cases call with
  | receive surroundings packet =>
      rcases sends with ⟨request, notOpened, out, received, member⟩
      exact ⟨request, notOpened, out, received, List.ne_nil_of_mem member⟩
  | _ => exact sends

/-- A call that accepts an ack answers no request. -/
theorem AcceptsAck.not_answers {session : PPPOESession} {call : FsmCall}
    (accepts : automaton.AcceptsAck session call) : ¬ automaton.Answers session call := by
  cases call with
  | receive surroundings packet =>
      intro answers
      have both := accepts.1.symm.trans answers.1
      exact absurd both (by decide)
  | _ => exact fun answers => answers

/-- One call that takes its ack back keeps the law. -/
theorem RefusalLaw.step {past : List (PPPOESession × FsmCall)} {before after : PPPOESession}
    {call : FsmCall} (law : automaton.RefusalLaw past before)
    (permitted : automaton.TakesBack before call) (taken : automaton.step before call = some after) :
    automaton.RefusalLaw ((before, call) :: past) after := by
  rcases Option.map_eq_some_iff.mp taken with ⟨out, called, equal⟩
  have handshake := handshake_of_call called
  rw [equal] at handshake
  refine ⟨fun there => ?_, fun other event member later stepped ackSent answers refuses => ?_⟩
  · rcases there with ackSent | opened
    · have behind := not_enters before ackSent (by decide)
      rcases handshake.toAckSent ackSent with sends | ⟨still, inPlace⟩
      · exact .here behind sends.answers sends
      · refine (law.acked (.inl still)).later behind (fun answers => ?_)
        rcases inPlace answers with ⟨surroundings, packet, isCall, kept⟩
        rw [isCall] at permitted answers
        exact permitted still answers.1 kept
    · have behind := not_enters before opened (by decide)
      rcases handshake.toOpened opened with ⟨_, sends⟩ | ⟨still | ⟨ackSent, _⟩, silent⟩
      · exact .here behind sends.answers sends
      · exact (law.acked (.inr still)).later behind silent
      · exact (law.acked (.inl ackSent)).later behind silent
  · rcases List.mem_cons.mp member with same | older
    · rcases Prod.mk.inj same with ⟨isBefore, isCall⟩
      rw [isBefore, isCall] at stepped answers refuses
      rw [isBefore] at ackSent
      cases call with
      | receive surroundings packet =>
          rw [stepped] at taken
          rw [Option.some.inj taken, ← equal]
          exact takenBack_of_receive called ackSent answers refuses
            (permitted ackSent answers.1)
      | _ => exact answers.elim
    · exact law.takenBack other event older later stepped ackSent answers refuses

/-- The law holds in every run in which every refusal takes the ack back. -/
theorem refusalLaw_of_run {start state : PPPOESession} {past : List (PPPOESession × FsmCall)}
    (initial : automaton.state start = .initial)
    (run : Run automaton.step automaton.TakesBack start past state) :
    automaton.RefusalLaw past state := by
  induction run with
  | start =>
      refine ⟨fun there => ?_, fun _ _ member => absurd member List.not_mem_nil⟩
      rw [initial] at there
      rcases there with other | other <;> cases other
  | next _ permitted taken inductionHypothesis => exact inductionHypothesis.step permitted taken

/-- LCP always takes the ack back. -/
theorem takesBack_lcp (session : PPPOESession) (call : FsmCall) : lcp.TakesBack session call := by
  cases call with
  | receive surroundings packet => exact fun _ _ inPlace => inPlace
  | _ => trivial

/-- IPCP stays in Ack_Sent when it refuses an option that it does not know. -/
theorem ackSent_of_rejects {surroundings : Surroundings} {session : PPPOESession} {packet : Packet}
    (ackSent : ipcp.state session = .ackSent) (request : packet.code = LCPCode.confReq)
    (rejects : IPCPFsm.Rejects surroundings.getSession session packet) :
    ∃ out, (ipcp.protocol surroundings).receive session packet = some out ∧ out.sent ≠ [] ∧
      ipcp.state out.session = .ackSent := by
  rcases rejects with ⟨filled, aaaSession, offsets, found, parsed, unknown⟩
  have state : (IPCPFsm.protocol surroundings.link.hwaddr surroundings.getSession).state session =
      .ackSent := ackSent
  have checked : (IPCPFsm.protocol surroundings.link.hwaddr surroundings.getSession).checkConf
      session packet = some (IPCPFsm.access.sendConfRej PPPProto.ipcp surroundings.link.hwaddr
        (IPCPFsm.adopt aaaSession session) (IPCPFsm.rejectedOptions aaaSession packet offsets)
        packet.identifier) := by
    rw [IPCPFsm.protocol_checkConf]
    unfold IPCPFsm.checkConf
    rw [if_neg filled, found]
    dsimp only
    rw [parsed, Option.bind_some, if_pos unknown]
  have dispatched : (IPCPFsm.protocol surroundings.link.hwaddr surroundings.getSession).receive
      session packet =
        (IPCPFsm.protocol surroundings.link.hwaddr surroundings.getSession).recvConfReq
          session packet := by
    unfold FsmClass.receive
    rw [state, if_neg (by decide), if_pos request]
  unfold FsmClass.recvConfReq at dispatched
  rw [state] at dispatched
  exact ⟨_, dispatched.trans checked, List.cons_ne_nil _ _, ackSent⟩

/-- A request for an option that is not known. -/
def sampleRejected : Packet := samplePacket LCPCode.confReq (opt2B 2 45)

/-- The session after each of its calls: it acks a request, refuses another one,
and receives the peer's ack. -/
def sampleAfter (calls : List FsmCall)
    (executed : (execute ipcp.step sampleSession calls).isSome = true) : PPPOESession :=
  Foundation.after ipcp.step sampleSession calls executed

def ackedSession : PPPOESession := sampleAfter sampleAcked runs_sampleAcked

def refusedSession : PPPOESession :=
  sampleAfter (sampleAcked ++ [.receive sampleSurroundings sampleRejected]) (by decide +kernel)

def openedSession : PPPOESession :=
  sampleAfter (sampleAcked ++
    [.receive sampleSurroundings sampleRejected, sampleCall LCPCode.confAck []]) (by decide +kernel)

/-- What the automaton returns for the request that it refuses. -/
def refusal : Option FsmOut :=
  (ipcp.protocol sampleSurroundings).receive ackedSession sampleRejected

/-- IPCP opens on a request that it refused. -/
theorem ipcp_opens_on_refused_request :
    ¬ forall (automaton : Automaton) (start state : PPPOESession)
        (past : List (PPPOESession × FsmCall)), automaton.state start = .initial ->
      Run automaton.step anyStep start past state -> automaton.RefusalLaw past state := by
  intro claim
  rcases run_after ipcp.step anyStep sampleSession sampleAcked (by decide +kernel)
    (permitted_anyStep _ _ _) with ⟨past, acked⟩
  have refused : ipcp.step ackedSession (.receive sampleSurroundings sampleRejected) =
      some refusedSession := by
    decide +kernel
  have opened : ipcp.step refusedSession (sampleCall LCPCode.confAck []) = some openedSession := by
    decide +kernel
  have law := claim ipcp sampleSession openedSession _ rfl
    ((Run.next acked trivial refused).next trivial opened)
  have isOpened : ipcp.state openedSession = .opened := by decide +kernel
  have answered : refusal.any (fun out => decide (out.sent ≠ [] ∧
      acceptance sampleSurroundings.link.hwaddr ackedSession sampleRejected ∉ out.sent)) = true := by
    decide +kernel
  rcases (Option.any_eq_true _ _).mp answered with ⟨out, received, sent⟩
  rcases of_decide_eq_true sent with ⟨nonempty, noAck⟩
  rcases law.acked (.inr isOpened) with ⟨_, ⟨answers, _⟩ | ⟨_, _, ⟨_, sends⟩ | ⟨silent, _⟩⟩⟩
  · exact absurd answers.1 (by decide)
  · rcases sends with ⟨_, _, same, again, member⟩
    have equal : out = same := Option.some.inj (received.symm.trans again)
    exact noAck (equal ▸ member)
  · exact silent ⟨by decide, by decide +kernel, out, received, nonempty⟩

/-- An ack, a Configure-Nak, another ack, and the peer's ack. -/
def sampleTakenBack : List FsmCall :=
  sampleAcked ++
    [sampleCall LCPCode.confReq (opt4B IPCPOption.ipAddress 11),
      sampleCall LCPCode.confReq (opt4B IPCPOption.ipAddress 10), sampleCall LCPCode.confAck []]

/-- The law at an automaton that took its ack back before it opened. -/
theorem refusalLaw_after_nak :
    ipcp.state (sampleAfter sampleTakenBack (by decide +kernel)) = .opened ∧
      ∃ past, ipcp.RefusalLaw past (sampleAfter sampleTakenBack (by decide +kernel)) := by
  rcases run_after ipcp.step ipcp.TakesBack sampleSession sampleTakenBack (by decide +kernel)
    (by decide +kernel) with ⟨past, run⟩
  exact ⟨by decide +kernel, past, refusalLaw_of_run rfl run⟩

end Automaton

end Pppcpd
