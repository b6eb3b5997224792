import Pppcpd.Ppp.FsmLaws

namespace Pppcpd

open Foundation

/-!
# The two automata keep to their part of the session

`outside` erases from a session what an automaton may write.  A method that
keeps the erased session changes nothing else: not the identity of the session,
its timer, its AAA session or the other automaton.
-/

namespace LCPFsm

/-- A session without what LCP may write. -/
def outside (session : PPPOESession) : PPPOESession :=
  { session with
    lcp := { sessionId := 0 }, peerMRU := 0, ourMagicNumber := 0, peerMagicNumber := 0 }

theorem access_lawful : access.Lawful := fun _ _ => rfl

theorem access_leaves : access.Leaves outside := fun _ _ => rfl

/-- The walk over the options writes only negotiated values. -/
theorem foldl_checkOption (packet : Packet) (offsets : List Nat)
    (walk : PPPOESession × UInt8 × Bytes) :
    outside (offsets.foldl (checkOption packet) walk).1 = outside walk.1 ∧
      (offsets.foldl (checkOption packet) walk).1.lcp = walk.1.lcp := by
  induction offsets generalizing walk with
  | nil => exact ⟨rfl, rfl⟩
  | cons offset rest inductionHypothesis =>
      have later := inductionHypothesis (checkOption packet walk offset)
      have here : outside (checkOption packet walk offset).1 = outside walk.1 ∧
          (checkOption packet walk offset).1.lcp = walk.1.lcp := by
        unfold checkOption
        dsimp only
        split
        · exact ⟨rfl, rfl⟩
        · split <;> exact ⟨rfl, rfl⟩
      exact ⟨later.1.trans here.1, later.2.trans here.2⟩

/-- The ways `check_conf` can return: without options, accepting, refusing. -/
theorem checkConf_cases {context : LinkContext} {session : PPPOESession} {packet : Packet}
    {out : FsmOut} (returned : checkConf context session packet = some out) :
    out = session.fail "There is no options" ∨
      ∃ walked, outside walked = outside session ∧ walked.lcp = session.lcp ∧
        (out = access.acceptConf context.hwaddr walked packet ∨
          ∃ rejected, out = access.sendConfRej PPPProto.lcp context.hwaddr
            (access.refuseState walked) rejected packet.identifier) := by
  unfold checkConf at returned
  dsimp only at returned
  split at returned
  · exact .inl (Option.some.inj returned).symm
  · rcases Option.map_eq_some_iff.mp returned with ⟨offsets, _walked, equal⟩
    have kept := foldl_checkOption packet offsets (session, LCPCode.confAck, [])
    refine .inr ⟨_, kept.1, kept.2, ?_⟩
    split at equal
    · exact .inl equal.symm
    · exact .inr ⟨_, equal.symm⟩

theorem state_eq_of_lcp {first second : PPPOESession} (same : first.lcp = second.lcp) :
    access.state first = access.state second := by
  unfold FsmAccess.state access
  dsimp only
  rw [same]

theorem answerMagic_session (answer : UInt8) (context : LinkContext) (session : PPPOESession)
    (packet : Packet) :
    (answerMagic answer context session packet).session = session ∧
      (answerMagic answer context session packet).action = .none := by
  unfold answerMagic
  dsimp only
  split <;> exact ⟨rfl, rfl⟩

theorem sendConfReq_session (context : LinkContext) (session : PPPOESession) :
    outside (sendConfReq context session).session = outside session ∧
      (sendConfReq context session).session.lcp = session.lcp := by
  unfold sendConfReq
  split <;> exact ⟨rfl, rfl⟩

theorem protocol_checkConf (context : LinkContext) :
    (protocol context).checkConf = checkConf context := by
  dsimp only [protocol]

theorem protocol_leaves (context : LinkContext) : (protocol context).Leaves outside where
  setFsm := access_leaves
  sendConfReq := fun session => (sendConfReq_session context session).1
  checkConf := by
    intro session packet out returned
    rw [protocol_checkConf] at returned
    rcases checkConf_cases returned with empty | ⟨walked, kept, _, accepted | ⟨rejected, refused⟩⟩
    · rw [empty]
      rfl
    · rw [accepted]
      exact (access_leaves.acceptConf _ _ _).trans kept
    · rw [refused]
      exact (access_leaves.refuseState walked).trans kept
  sendTermAck := by
    intro session packet
    exact congrArg outside (answerMagic_session _ context session packet).1
  sendEchoRep := by
    intro session packet
    exact congrArg outside (answerMagic_session _ context session packet).1
  recvEchoRep := fun _ _ => rfl

theorem protocol_lawful (context : LinkContext) : (protocol context).Lawful where
  setFsm := access_lawful
  sendConfReq := fun session => state_eq_of_lcp (sendConfReq_session context session).2
  checkConf := by
    intro session packet out returned notOpened notInitial
    rw [protocol_checkConf] at returned
    rcases checkConf_cases returned with empty | ⟨walked, _, kept, accepted | ⟨rejected, refused⟩⟩
    · rw [empty]
      exact FsmClass.Lawful.unmoved _ rfl
    · rw [accepted]
      have same : (protocol context).state session = access.state walked :=
        (state_eq_of_lcp kept).symm
      rw [same] at notOpened notInitial ⊢
      exact access_lawful.acceptConf _ packet notOpened notInitial
    · rw [refused]
      have same : (protocol context).state session = access.state walked :=
        (state_eq_of_lcp kept).symm
      rw [same] at notOpened notInitial ⊢
      exact access_lawful.refuseState _ notOpened notInitial
  sendTermAck := by
    intro session packet
    exact congrArg access.state (answerMagic_session _ context session packet).1
  sendEchoRep := by
    intro session packet
    have answered := answerMagic_session LCPCode.echoReply context session packet
    exact ⟨congrArg access.state answered.1, answered.2⟩
  recvEchoRep := fun _ _ => ⟨rfl, rfl⟩

/-- An echo request changes nothing but the echo counter, and it reports that
the layer is down exactly when the counter passes nine. -/
theorem sendEchoReq_session (context : LinkContext) (session : PPPOESession) :
    (sendEchoReq context session).session =
        { session with lcp := { session.lcp with echoCounter := session.lcp.echoCounter + 1 } } ∧
      ((sendEchoReq context session).action = .layerDown ∧
          9 < session.lcp.echoCounter + 1 ∧ (sendEchoReq context session).sent = [] ∨
        (sendEchoReq context session).action = .none ∧ ¬ 9 < session.lcp.echoCounter + 1) := by
  unfold sendEchoReq
  dsimp only
  split
  · rename_i silent
    exact ⟨rfl, .inl ⟨rfl, silent, rfl⟩⟩
  · rename_i alive
    exact ⟨rfl, .inr ⟨rfl, alive⟩⟩

end LCPFsm

namespace IPCPFsm

/-- A session without what IPCP may write. -/
def outside (session : PPPOESession) : PPPOESession :=
  { session with ipcp := { sessionId := 0 }, address := 0, vrf := [], unnumbered := [] }

theorem access_lawful : access.Lawful := fun _ _ => rfl

theorem access_leaves : access.Leaves outside := fun _ _ => rfl

/-- A Configure-Request that `check_conf` answers with a Configure-Reject: the
AAA session is found, and some option is not known. -/
def Rejects (getSession : SessionLookup) (session : PPPOESession) (packet : Packet) : Prop :=
  LCPFsm.optionArea packet ≠ 0 ∧
    ∃ aaaSession offsets, getSession session.aaaSessionId = some aaaSession ∧
      parseIPCPOptions packet = some offsets ∧ rejectedOptions aaaSession packet offsets ≠ []

instance (getSession : SessionLookup) (session : PPPOESession) (packet : Packet) :
    Decidable (Rejects getSession session packet) :=
  decidable_of_iff (LCPFsm.optionArea packet ≠ 0 ∧
      (getSession session.aaaSessionId).any (fun aaaSession =>
        (parseIPCPOptions packet).any (fun offsets =>
          decide (rejectedOptions aaaSession packet offsets ≠ []))) = true) (by
    simp only [Rejects, Option.any_eq_true, decide_eq_true_eq, exists_and_left])

/-- The ways `check_conf` can return: with an error, rejecting, accepting, or
with the outcome of a Configure-Nak, which writes nothing more. -/
theorem checkConf_cases {hwaddr : Mac} {getSession : SessionLookup} {session : PPPOESession}
    {packet : Packet} {out : FsmOut}
    (returned : checkConf hwaddr getSession session packet = some out) :
    (∃ text, out = session.fail text) ∨
      ∃ aaaSession, getSession session.aaaSessionId = some aaaSession ∧
        ((Rejects getSession session packet ∧ ∃ rejected, out = access.sendConfRej PPPProto.ipcp
            hwaddr (adopt aaaSession session) rejected packet.identifier) ∨
          out = access.acceptConf hwaddr (adopt aaaSession session) packet ∨
          outside out.session = outside session ∧ out.action = .none ∧
            access.state out.session =
              access.state (access.refuseState (adopt aaaSession session))) := by
  unfold checkConf at returned
  split at returned
  · exact .inl ⟨_, (Option.some.inj returned).symm⟩
  · rename_i filled
    cases found : getSession session.aaaSessionId with
    | none =>
        rw [found] at returned
        exact .inl ⟨_, (Option.some.inj returned).symm⟩
    | some aaaSession =>
        rw [found] at returned
        dsimp only at returned
        refine .inr ⟨aaaSession, rfl, ?_⟩
        rcases Option.bind_eq_some_iff.mp returned with ⟨offsets, parsed, checked⟩
        split at checked
        · rename_i unknown
          exact .inl ⟨⟨filled, aaaSession, offsets, found, parsed, unknown⟩, _,
            (Option.some.inj checked).symm⟩
        · split at checked
          · have kept : forall counted : PPPOESession, forall answered,
                sendConfNak hwaddr getSession counted packet = some answered ->
                  answered.session = counted ∧ answered.action = .none := by
              intro counted answered sent
              unfold sendConfNak at sent
              split at sent
              · rw [← Option.some.inj sent]
                exact ⟨rfl, rfl⟩
              · rcases Option.map_eq_some_iff.mp sent with ⟨_, _, equal⟩
                rw [← equal]
                exact ⟨rfl, rfl⟩
            have answered := kept _ _ checked
            refine .inr (.inr ⟨?_, answered.2, ?_⟩)
            · rw [answered.1]
              exact access_leaves.refuseState (adopt aaaSession session)
            · rw [answered.1]
              rfl
          · exact .inr (.inl (Option.some.inj checked).symm)

theorem protocol_checkConf (hwaddr : Mac) (getSession : SessionLookup) :
    (protocol hwaddr getSession).checkConf = checkConf hwaddr getSession := by
  dsimp only [protocol]

theorem protocol_leaves (hwaddr : Mac) (getSession : SessionLookup) :
    (protocol hwaddr getSession).Leaves outside where
  setFsm := access_leaves
  sendConfReq := fun _ => rfl
  checkConf := by
    intro session packet out returned
    rw [protocol_checkConf] at returned
    rcases checkConf_cases returned with ⟨text, failed⟩ |
      ⟨aaaSession, _, ⟨_, rejected, refused⟩ | accepted | ⟨kept, _, _⟩⟩
    · rw [failed]
      rfl
    · rw [refused]
      rfl
    · rw [accepted]
      exact access_leaves.acceptConf _ _ _
    · exact kept
  sendTermAck := fun _ _ => rfl
  sendEchoRep := fun _ _ => rfl
  recvEchoRep := fun _ _ => rfl

theorem protocol_lawful (hwaddr : Mac) (getSession : SessionLookup) :
    (protocol hwaddr getSession).Lawful where
  setFsm := access_lawful
  sendConfReq := fun _ => rfl
  checkConf := by
    intro session packet out returned notOpened notInitial
    rw [protocol_checkConf] at returned
    rcases checkConf_cases returned with ⟨text, failed⟩ |
      ⟨aaaSession, _, ⟨_, rejected, refused⟩ | accepted | ⟨_, silent, state⟩⟩
    · rw [failed]
      exact FsmClass.Lawful.unmoved _ rfl
    · rw [refused]
      exact FsmClass.Lawful.unmoved _ rfl
    · rw [accepted]
      have same : (protocol hwaddr getSession).state session =
          access.state (adopt aaaSession session) := rfl
      rw [same] at notOpened notInitial ⊢
      exact access_lawful.acceptConf _ packet notOpened notInitial
    · have moved : (protocol hwaddr getSession).state out.session =
          access.state (access.refuseState (adopt aaaSession session)) := state
      have same : (protocol hwaddr getSession).state session =
          access.state (adopt aaaSession session) := rfl
      rw [moved, silent]
      rw [same] at notOpened notInitial ⊢
      exact access_lawful.refuseState _ notOpened notInitial
  sendTermAck := fun _ _ => rfl
  sendEchoRep := fun _ _ => ⟨rfl, rfl⟩
  recvEchoRep := fun _ _ => ⟨rfl, rfl⟩

end IPCPFsm

end Pppcpd
