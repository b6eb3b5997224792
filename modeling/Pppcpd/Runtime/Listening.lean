import Pppcpd.Ppp.EchoCounter
import Pppcpd.Runtime.DeadEnds

namespace Pppcpd

open Foundation

/-!
# When LCP receives packets

`receive` refuses every packet while LCP is Initial or Starting.  With a protocol to
authenticate by, the start of LCP sends its request, and LCP negotiates from then on
until the session ends.
-/

theorem receives_of_negotiates {session : PPPOESession} (negotiates : session.lcp.state.Negotiates) :
    Receives session := by
  unfold Receives
  rcases negotiates with state | state | state | state <;> rw [state] <;> decide

namespace Runtime

/-- LCP receives packets once the session was started. -/
structure Listens (session : PPPOESession) : Prop where
  waiting : session.started = false -> session.lcp.state = .initial
  lcp : session.started = true -> session.lcp.state.Negotiates

namespace Listens

variable {now : Runtime} {event : Event} {old session : PPPOESession}

theorem congr (listens : Listens old) (started : session.started = old.started)
    (lcp : session.lcp.state = old.lcp.state) : Listens session := by
  refine ⟨fun waits => ?_, fun began => ?_⟩
  · exact lcp.trans (listens.waiting (started.symm.trans waits))
  · exact lcp ▸ listens.lcp (started.symm.trans began)

theorem of_negotiates (started : session.started = true) (negotiates : session.lcp.state.Negotiates) :
    Listens session := by
  refine ⟨fun waits => ?_, fun _ => negotiates⟩
  rw [started] at waits
  cases waits

theorem of_unused (unused : Unused session) : Listens session := by
  have started : session.started = false := congrArg Course.started unused
  refine ⟨fun _ => congrArg Course.lcp unused, fun began => ?_⟩
  rw [started] at began
  cases began

theorem start (listens : Listens old) (hwaddr : Mac) (getSession : IPCPFsm.SessionLookup) :
    Listens ((IPCPFsm.protocol hwaddr getSession).start old).session := by
  rcases course_of_ipcp ((IPCPFsm.protocol_leaves hwaddr getSession).start old) with ⟨started, lcp, _⟩
  exact listens.congr started (congrArg (fun lcp => lcp.state) lcp)

/-- With an authentication protocol every touch keeps LCP listening. -/
theorem touch (listens : Listens old) (chosen : now.lcpConf.authProtocol ≠ none)
    (touched : Touch now event old session) : Listens session := by
  cases touched with
  | aside same => exact listens.congr (congrArg Course.started same) (congrArg Course.lcp same)
  | begins context policy waits =>
      have sends := fun asking => LCPFsm.sendConfReq_silent
        (fun none => chosen (policy ▸ (LCPFsm.authOption_eq_none_iff context.lcpConf).mp none)) asking
      have state := FsmClass.start_of_initial (LCPFsm.protocol_lawful context)
        (listens.waiting waits) sends
      exact of_negotiates rfl (.inl state)
  | lcp context began received stays =>
      rcases course_of_lcp ((LCPFsm.protocol_leaves context).receive received) with ⟨started, _⟩
      rcases (LCPFsm.protocol_progressive context).receive received (listens.lcp began) with
        negotiates | ⟨_, _, noError, down⟩
      · exact of_negotiates (started.trans began) negotiates
      · exact absurd ⟨noError, down⟩ stays
  | unguarded hwaddr getSession _ => exact listens.start hwaddr getSession
  | granted hwaddr protocol sid _ =>
      have before : Listens (protocol.setStarted { old with aaaSessionId := sid }) := by
        cases protocol <;> exact ⟨listens.waiting, listens.lcp⟩
      exact before.start hwaddr _
  | repeated hwaddr protocol _ => exact listens.start hwaddr _
  | ipcp hwaddr getSession received _ =>
      rcases course_of_ipcp ((IPCPFsm.protocol_leaves hwaddr getSession).receive received) with
        ⟨started, lcp, _⟩
      exact listens.congr started (congrArg (fun lcp => lcp.state) lcp)

end Listens

structure ListenInvariant (runtime : Runtime) : Prop where
  references : ReferenceInvariant runtime
  chosen : runtime.lcpConf.authProtocol ≠ none
  sessions : forall ref session, runtime.store.activeSessions.Holds ref ->
    runtime.sessions.deref ref = some session -> Listens session

theorem listenInvariant_of_reachable {start now : Runtime} (fresh : start.Fresh)
    (chosen : start.lcpConf.authProtocol ≠ none) (reached : Reachable step start now) :
    ListenInvariant now := by
  refine reached.invariant ⟨referenceInvariant_fresh fresh, chosen, ?_⟩
    (fun before event after here taken => ?_)
  · intro ref session active
    rw [fresh.store] at active
    rcases active with ⟨key, found⟩
    cases found
  · refine ⟨referenceInvariant_step here.references taken,
      lcpConf_step here.references taken ▸ here.chosen, fun ref session active present => ?_⟩
    exact sessions_step here.references (fun _ unused => .of_unused unused)
      (fun listens => listens.touch here.chosen) here.sessions taken active present

end Runtime

end Pppcpd
