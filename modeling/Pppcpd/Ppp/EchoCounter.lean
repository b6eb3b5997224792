import Pppcpd.Ppp.EchoMagic

namespace Pppcpd

open Foundation

/-!
# The counter of unanswered echo requests

`send_echo_req` raises `echo_counter` and `recv_echo_rep` sets it to zero.  No other
method of LCP writes it, so a packet resets it exactly when it is an Echo-Reply that
the state of LCP lets through.
-/

/-- What LCP counts of a session. -/
def echoCount (session : PPPOESession) : UInt8 := session.lcp.echoCounter

/-- LCP has left the states in which `receive` refuses every packet. -/
def Receives (session : PPPOESession) : Prop :=
  session.lcp.state ≠ .initial ∧ session.lcp.state ≠ .starting

instance (session : PPPOESession) : Decidable (Receives session) :=
  inferInstanceAs (Decidable (_ ∧ _))

/-- The automaton without its reaction to an Echo-Reply. -/
def FsmClass.deaf (protocol : FsmClass) : FsmClass :=
  { protocol with recvEchoRep := fun session _ => session.done }

theorem FsmClass.checkConf_deaf (protocol : FsmClass) :
    protocol.deaf.checkConf = protocol.checkConf := rfl

theorem FsmClass.start_deaf (protocol : FsmClass) : protocol.deaf.start = protocol.start := rfl

/-- The two automata differ in nothing but that. -/
theorem FsmClass.receive_deaf {protocol : FsmClass} {session : PPPOESession} {packet : Packet}
    (other : packet.code ≠ LCPCode.echoReply) :
    protocol.deaf.receive session packet = protocol.receive session packet := by
  unfold FsmClass.receive
  rw [if_neg other, if_neg other]
  rfl

namespace LCPFsm

theorem deaf_leaves (context : LinkContext) : (protocol context).deaf.Leaves echoCount where
  setFsm := fun _ _ => rfl
  sendConfReq := by
    intro session
    have same := congrArg (fun lcp => lcp.echoCounter) (sendConfReq_session context session).2
    exact same
  checkConf := by
    intro session packet out returned
    rw [FsmClass.checkConf_deaf, protocol_checkConf] at returned
    rcases checkConf_cases returned with empty | ⟨walked, _, kept, accepted | ⟨rejected, refused⟩⟩
    · rw [empty]
      rfl
    · have same := congrArg (fun lcp => lcp.echoCounter) kept
      rw [accepted]
      exact same
    · have same := congrArg (fun lcp => lcp.echoCounter) kept
      have leaves : access.Leaves echoCount := fun _ _ => rfl
      rw [refused]
      exact (leaves.refuseState walked).trans same
  sendTermAck := by
    intro session packet
    exact congrArg echoCount (answerMagic_session _ context session packet).1
  sendEchoRep := by
    intro session packet
    exact congrArg echoCount (answerMagic_session _ context session packet).1
  recvEchoRep := fun _ _ => rfl

theorem echoCount_start (context : LinkContext) (session : PPPOESession) :
    echoCount ((protocol context).start session).session = echoCount session := by
  rw [← FsmClass.start_deaf]
  exact (deaf_leaves context).start session

/-- A packet resets the counter if it is an Echo-Reply that is received, and else it
leaves the counter. -/
theorem echoCount_receive {context : LinkContext} {session : PPPOESession} {packet : Packet}
    {out : FsmOut} (received : (protocol context).receive session packet = some out) :
    echoCount out.session =
      if packet.code = LCPCode.echoReply ∧ Receives session then 0 else echoCount session := by
  by_cases isReply : packet.code = LCPCode.echoReply
  · unfold FsmClass.receive at received
    dsimp only at received
    by_cases receives : Receives session
    · have passes : ¬ ((protocol context).state session = .initial ∨
          (protocol context).state session = .starting) := not_or.mpr receives
      rw [if_pos ⟨isReply, receives⟩]
      rw [if_neg passes, isReply, if_neg (by decide), if_neg (by decide), if_neg (by decide),
        if_neg (by decide), if_pos rfl] at received
      rw [← Option.some.inj received]
      rfl
    · rw [if_neg (fun both => receives both.2)]
      have refused : (protocol context).state session = .initial ∨
          (protocol context).state session = .starting := by
        by_contra neither
        exact receives (not_or.mp neither)
      rw [if_pos refused] at received
      rw [← Option.some.inj received]
      rfl
  · rw [if_neg (fun both => isReply both.1)]
    exact (deaf_leaves context).receive ((FsmClass.receive_deaf isReply).trans received)

end LCPFsm

end Pppcpd
