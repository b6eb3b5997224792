import Pppcpd.Foundation.Alternation
import Pppcpd.Ppp.Handshake

namespace Pppcpd

open Foundation

/-!
# What the automata report to the daemon

The daemon starts authentication on LAYER_UP and ends sessions on LAYER_DOWN.
`receive` reports the first when it moved its automaton into Opened, the second
when it moved it out, and neither otherwise.  So the reports of an automaton
take turns, whatever else is called or changed between two packets.
-/

/-- What is reported fits how the state has moved. -/
structure Tells (before after : PPPFsmState) (action : PPPFsmAction) (err : Option String) :
    Prop where
  up : action = .layerUp ∧ err = none ↔ before ≠ .opened ∧ after = .opened
  down : action = .layerDown ∧ err = none ↔ before = .opened ∧ after ≠ .opened
  quiet : action = .none ↔
    ¬ (before ≠ .opened ∧ after = .opened) ∧ ¬ (before = .opened ∧ after ≠ .opened)

/-- A move that an automaton can make is reported as it is. -/
theorem StateMove.tells {before after : PPPFsmState} {action : PPPFsmAction} {err : Option String}
    (move : StateMove before after action err) : Tells before after action err := by
  cases move with
  | opens notOpened _ =>
      refine ⟨?_, ?_, ?_⟩
      · exact ⟨fun _ => ⟨notOpened, rfl⟩, fun _ => ⟨rfl, rfl⟩⟩
      · exact ⟨fun told => (nomatch told.1), fun left => absurd left.1 notOpened⟩
      · exact ⟨fun told => (nomatch told), fun kept => absurd ⟨notOpened, rfl⟩ kept.1⟩
  | stays notOpened afterNotOpened _ =>
      refine ⟨?_, ?_, ?_⟩
      · exact ⟨fun told => (nomatch told.1), fun moved => absurd moved.2 afterNotOpened⟩
      · exact ⟨fun told => (nomatch told.1), fun left => absurd left.1 notOpened⟩
      · exact ⟨fun _ => ⟨fun moved => afterNotOpened moved.2, fun left => notOpened left.1⟩,
          fun _ => rfl⟩
  | leaves afterNotOpened _ =>
      refine ⟨?_, ?_, ?_⟩
      · exact ⟨fun told => (nomatch told.1), fun moved => absurd rfl moved.1⟩
      · exact ⟨fun _ => ⟨rfl, afterNotOpened⟩, fun _ => ⟨rfl, rfl⟩⟩
      · exact ⟨fun told => (nomatch told), fun kept => absurd ⟨rfl, afterNotOpened⟩ kept.2⟩
  | remains =>
      refine ⟨?_, ?_, ?_⟩
      · exact ⟨fun told => (nomatch told.1), fun moved => absurd rfl moved.1⟩
      · exact ⟨fun told => (nomatch told.1), fun left => absurd rfl left.2⟩
      · exact ⟨fun _ => ⟨fun moved => moved.1 rfl, fun left => left.2 rfl⟩, fun _ => rfl⟩

namespace Automaton

variable (automaton : Automaton)

/-- What `receive` reports in a call, unless that is NONE. -/
def report (session : PPPOESession) : FsmCall -> Option PPPFsmAction
  | .receive surroundings packet =>
      (((automaton.protocol surroundings).receive session packet).map FsmOut.action).filter
        (fun action => decide (action ≠ .none))
  | _ => none

variable {automaton}

theorem state_protocol (surroundings : Surroundings) (session : PPPOESession) :
    (automaton.protocol surroundings).state session = automaton.state session := by
  cases automaton <;> rfl

/-- What one packet makes an automaton report. -/
theorem tells_receive {surroundings : Surroundings} {session : PPPOESession} {packet : Packet}
    {out : FsmOut}
    (received : (automaton.protocol surroundings).receive session packet = some out) :
    Tells (automaton.state session) (automaton.state out.session) out.action out.err := by
  have move := ((automaton.protocol_lawful surroundings).receive received).1
  rw [state_protocol, state_protocol] at move
  exact move.tells

/-- The other calls do not change whether an automaton is Opened. -/
theorem opened_openFsm (surroundings : Surroundings) (session : PPPOESession) :
    automaton.state ((automaton.protocol surroundings).openFsm session).session = .opened ↔
      automaton.state session = .opened := by
  have kept := (automaton.protocol_lawful surroundings).openFsm_opened_iff session
  rw [state_protocol, state_protocol] at kept
  exact kept

theorem opened_layerUp (surroundings : Surroundings) (session : PPPOESession) :
    automaton.state ((automaton.protocol surroundings).layerUp session).session = .opened ↔
      automaton.state session = .opened := by
  have kept := (automaton.protocol_lawful surroundings).layerUp_opened_iff session
  rw [state_protocol, state_protocol] at kept
  exact kept

theorem report_of_received {surroundings : Surroundings} {session : PPPOESession}
    {packet : Packet} {out : FsmOut}
    (received : (automaton.protocol surroundings).receive session packet = some out) :
    automaton.report session (.receive surroundings packet) =
      if out.action = .none then none else some out.action := by
  dsimp only [report]
  rw [received, Option.map_some, Option.filter_some]
  by_cases silent : out.action = .none
  · rw [if_pos silent, silent]
    rfl
  · rw [if_neg silent, if_pos (by rw [decide_eq_true_eq]; exact silent)]

/-- The reports of an automaton mark where its state enters and leaves Opened. -/
theorem marks_report (automaton : Automaton) :
    Marks automaton.step (fun session => automaton.state session = .opened) .layerUp .layerDown
      automaton.report where
  marked := by
    intro now call after mark taken reported
    cases call with
    | receive surroundings packet =>
        rcases Option.map_eq_some_iff.mp taken with ⟨out, received, equal⟩
        have told := tells_receive received
        rw [equal] at told
        rw [report_of_received received] at reported
        split at reported
        · cases reported
        · rename_i loud
          have isMark : out.action = mark := Option.some.inj reported
          by_cases opens : automaton.state now ≠ .opened ∧ automaton.state after = .opened
          · exact .inl ⟨isMark.symm.trans (told.up.mpr opens).1, opens⟩
          · by_cases leaves : automaton.state now = .opened ∧ automaton.state after ≠ .opened
            · exact .inr ⟨isMark.symm.trans (told.down.mpr leaves).1, leaves⟩
            · exact absurd (told.quiet.mpr ⟨opens, leaves⟩) loud
    | openFsm surroundings => cases reported
    | layerUp surroundings => cases reported
    | elsewhere later => cases reported
  unmarked := by
    intro now call after taken silent
    cases call with
    | receive surroundings packet =>
        rcases Option.map_eq_some_iff.mp taken with ⟨out, received, equal⟩
        have told := tells_receive received
        rw [equal] at told
        rw [report_of_received received] at silent
        split at silent
        · rename_i quiet
          have kept := told.quiet.mp quiet
          constructor
          · intro opened
            by_contra notOpened
            exact kept.1 ⟨notOpened, opened⟩
          · intro opened
            by_contra notOpened
            exact kept.2 ⟨opened, notOpened⟩
        · cases silent
    | openFsm surroundings =>
        rw [← Option.some.inj taken]
        exact opened_openFsm surroundings now
    | layerUp surroundings =>
        rw [← Option.some.inj taken]
        exact opened_layerUp surroundings now
    | elsewhere later =>
        rcases Option.map_eq_some_iff.mp taken with ⟨out, called, equal⟩
        have disturbed : (if automaton.access.fsm later = automaton.access.fsm now
            then some later.done else none) = some out := called
        split at disturbed
        · rename_i same
          rw [← equal, ← Option.some.inj disturbed]
          have unmoved : automaton.state later = automaton.state now := congrArg PPPFsm.state same
          exact unmoved ▸ Iff.rfl
        · cases disturbed

/-- `receive` reports exactly how it moved the automaton into and out of Opened,
and so the reports of every run of calls take turns, LAYER_UP first. -/
theorem reports_take_turns (automaton : Automaton) :
    (forall surroundings session packet out,
      (automaton.protocol surroundings).receive session packet = some out ->
        Tells (automaton.state session) (automaton.state out.session) out.action out.err) ∧
      forall start state past, Run automaton.step anyStep start past state ->
        automaton.state start ≠ .opened ->
          Alternates .layerUp .layerDown (labelsOf automaton.report past) := by
  refine ⟨fun _ _ _ _ received => tells_receive received, fun start state past run closed => ?_⟩
  exact (automaton.marks_report.alternates closed run).1

/-- The session whose peer is acked and has not acked yet. -/
def sampleAcking : PPPOESession :=
  Foundation.after ipcp.step sampleSession sampleAcked runs_sampleAcked

/-- The reports of a session that is opened, and of the packet that opens it. -/
theorem reports_take_turns_at_sampleOpened :
    (∃ out, (ipcp.protocol sampleSurroundings).receive sampleAcking
        (samplePacket LCPCode.confAck []) = some out ∧
      Tells (ipcp.state sampleAcking) (ipcp.state out.session) out.action out.err) ∧
      ∃ past, Run ipcp.step anyStep sampleSession past sampleOpened ∧
        Alternates .layerUp .layerDown (labelsOf ipcp.report past) := by
  constructor
  · rcases Option.isSome_iff_exists.mp (show ((ipcp.protocol sampleSurroundings).receive sampleAcking
        (samplePacket LCPCode.confAck [])).isSome = true by decide +kernel) with ⟨out, received⟩
    exact ⟨out, received, (reports_take_turns ipcp).1 _ _ _ _ received⟩
  · rcases run_after ipcp.step anyStep sampleSession _ (by decide +kernel)
      (permitted_anyStep _ _ (sampleAcked ++ [sampleCall LCPCode.confAck []])) with ⟨past, run⟩
    exact ⟨past, run, (reports_take_turns ipcp).2 _ _ _ run (by decide)⟩

end Automaton

end Pppcpd
