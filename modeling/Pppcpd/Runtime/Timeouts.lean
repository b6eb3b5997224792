import Pppcpd.Runtime.Pending

namespace Pppcpd

open Foundation Discovery

/-!
# The timers of pending sessions

The timer of a pending session carries the key of its entry and nothing else,
and it is never cancelled.  So it takes out whatever entry has the key when it
ends.  That entry is its own unless a later timer of the key is running.
-/

namespace Runtime

/-- The event starts the timer of a pending session. -/
def StartsTimer (now : Runtime) (event : Event) : Prop :=
  ∃ after ∈ step now event, now.store.pendingTimers.length < after.store.pendingTimers.length

instance (now : Runtime) (event : Event) : Decidable (StartsTimer now event) :=
  inferInstanceAs (Decidable (∃ after ∈ step now event, _))

/-- The steps that started the running timers, in the order of `pendingTimers`. -/
def timerOrigins : List (Runtime × Event) -> List Nat
  | [] => []
  | (now, event) :: earlier =>
      match event.input with
      | .pendingTimer index => (timerOrigins earlier).eraseIdx index
      | _ =>
          if StartsTimer now event then timerOrigins earlier ++ [earlier.length]
          else timerOrigins earlier

/-- The event takes a key out of the pending sessions. -/
def Unpends (conn : PPPOEConn) (now : Runtime) (event : Event) : Prop :=
  ∃ after, step now event = some after ∧ conn ∈ now.store.pendingSession ∧
    conn ∉ after.store.pendingSession

/-- A step that takes out an entry is the PADR that uses it, or the end of the
timer that the step started which made the entry. -/
def RemovesOwn (earlier : List (Runtime × Event)) (now : Runtime) (event : Event) : Prop :=
  forall conn, Unpends conn now event -> Uses conn now event ∨
    ∃ index origin, event.input = .pendingTimer index ∧
      (timerOrigins earlier)[index]? = some origin ∧
      pendingTickets.Backed earlier conn origin earlier.length

/-- Every entry that was ever removed was removed so. -/
def RemovalLaw (past : List (Runtime × Event)) : Prop :=
  forall later now event earlier, past = later ++ (now, event) :: earlier ->
    RemovesOwn earlier now event

/-- Where the timer of a pending key ends, no later timer of the key is running. -/
def EndsLast (now : Runtime) (event : Event) : Prop :=
  match event.input with
  | .pendingTimer index => ∀ conn ∈ now.store.pendingTimers[index]?,
      conn ∈ now.store.pendingSession -> conn ∉ now.store.pendingTimers.drop (index + 1)
  | _ => True

instance (now : Runtime) (event : Event) : Decidable (EndsLast now event) := by
  unfold EndsLast
  split <;> infer_instance

/-- The running timers and the steps that started them. -/
structure TimerInvariant (past : List (Runtime × Event)) (now : Runtime) : Prop where
  length : (timerOrigins past).length = now.store.pendingTimers.length
  started : forall (index : Nat) conn, now.store.pendingTimers[index]? = some conn ->
    ∃ origin before event, (timerOrigins past)[index]? = some origin ∧
        stepAt past origin = some (before, event) ∧ Offers conn before event
  sorted : (timerOrigins past).Pairwise (· < ·)
  running : forall conn, conn ∈ now.store.pendingSession ->
    ∃ origin, pendingTickets.Backed past conn origin past.length ∧ origin ∈ timerOrigins past

/-- A step that neither ends a timer nor starts one. -/
theorem timerOrigins_same {now after : Runtime} {event : Event} {earlier : List (Runtime × Event)}
    (taken : step now event = some after)
    (notTimer : forall index, event.input ≠ .pendingTimer index)
    (same : after.store.pendingTimers = now.store.pendingTimers) :
    timerOrigins ((now, event) :: earlier) = timerOrigins earlier := by
  have starts : ¬ StartsTimer now event := by
    rintro ⟨later, returned, longer⟩
    rw [← Option.some.inj (taken.symm.trans returned), same] at longer
    exact Nat.lt_irrefl _ longer
  rw [timerOrigins]
  split
  · rename_i index input
    exact absurd input (notTimer index)
  · rw [if_neg starts]

/-- A step that starts a timer. -/
theorem timerOrigins_started {now after : Runtime} {event : Event}
    {earlier : List (Runtime × Event)} {conn : PPPOEConn} (taken : step now event = some after)
    (offers : Offers conn now event)
    (started : after.store.pendingTimers = now.store.pendingTimers ++ [conn]) :
    timerOrigins ((now, event) :: earlier) = timerOrigins earlier ++ [earlier.length] := by
  have starts : StartsTimer now event := by
    refine ⟨after, taken, ?_⟩
    rw [started, List.length_append]
    exact Nat.lt_succ_self _
  rcases offers with ⟨_, _, _, _, discovery, _⟩
  rw [timerOrigins]
  split
  · rename_i index input
    rw [discovery] at input
    cases input
  · rw [if_pos starts]

theorem timerOrigins_ended {now : Runtime} {event : Event} {index : Nat}
    (input : event.input = .pendingTimer index) (earlier : List (Runtime × Event)) :
    timerOrigins ((now, event) :: earlier) = (timerOrigins earlier).eraseIdx index := by
  rw [timerOrigins, input]

/-- The steps of a longer history. -/
theorem TimerInvariant.started_cons {past : List (Runtime × Event)} {now : Runtime}
    (invariant : TimerInvariant past now) (entry : Runtime × Event) {index : Nat} {conn : PPPOEConn}
    (found : now.store.pendingTimers[index]? = some conn) :
    ∃ origin before event, (timerOrigins past)[index]? = some origin ∧
      stepAt (entry :: past) origin = some (before, event) ∧ Offers conn before event := by
  rcases invariant.started index conn found with ⟨origin, before, event, listed, there, offers⟩
  refine ⟨origin, before, event, listed, ?_, offers⟩
  rw [stepAt_earlier entry (lt_of_stepAt there)]
  exact there

/-- The step that started a running timer. -/
theorem TimerInvariant.origin {past : List (Runtime × Event)} {now : Runtime}
    (invariant : TimerInvariant past now) {place origin : Nat}
    (listed : (timerOrigins past)[place]? = some origin) :
    ∃ conn before event, now.store.pendingTimers[place]? = some conn ∧
      stepAt past origin = some (before, event) ∧ Offers conn before event := by
  rcases List.getElem?_eq_some_iff.mp listed with ⟨within, _⟩
  rw [invariant.length] at within
  have found := List.getElem?_eq_getElem within
  rcases invariant.started place _ found with ⟨same, before, event, there, taken, offers⟩
  rw [← Option.some.inj (listed.symm.trans there)] at taken
  exact ⟨_, before, event, found, taken, offers⟩

/-- The end of a timer is about its own key alone. -/
theorem alone_of_timer {now : Runtime} {event : Event} {conn other : PPPOEConn} {index : Nat}
    (input : event.input = .pendingTimer index)
    (found : now.store.pendingTimers[index]? = some conn) (different : other ≠ conn) :
    ¬ Offers other now event ∧ ¬ Uses other now event ∧ ¬ Expires other now event := by
  refine ⟨?_, ?_, ?_⟩
  · rintro ⟨_, _, _, _, same, _⟩
    rw [input] at same
    cases same
  · rintro ⟨_, _, _, same, _⟩
    rw [input] at same
    cases same
  · rintro ⟨place, same, there⟩
    rw [input] at same
    injection same with samePlace
    rw [← samePlace, found] at there
    exact different (Option.some.inj there).symm

/-- What is left of the steps and the timers when one timer ends. -/
theorem TimerInvariant.ended {past : List (Runtime × Event)} {now after : Runtime} {event : Event}
    (invariant : TimerInvariant past now) {conn : PPPOEConn} {index : Nat}
    (input : event.input = .pendingTimer index)
    (found : now.store.pendingTimers[index]? = some conn)
    (erased : after.store.pendingSession = now.store.pendingSession.erase conn)
    (timers : after.store.pendingTimers = now.store.pendingTimers.eraseIdx index) :
    TimerInvariant ((now, event) :: past) after := by
  have origins := @timerOrigins_ended now event index input past
  refine ⟨?_, fun place key there => ?_, ?_, fun key pends => ?_⟩
  · rw [origins, timers, List.length_eraseIdx, List.length_eraseIdx, invariant.length]
  · rw [timers, List.getElem?_eraseIdx] at there
    rw [origins, List.getElem?_eraseIdx]
    split at there
    · rename_i before
      rw [if_pos before]
      exact invariant.started_cons (now, event) there
    · rename_i behind
      rw [if_neg behind]
      exact invariant.started_cons (now, event) there
  · rw [origins]
    exact invariant.sorted.eraseIdx index
  · rw [erased, Finset.mem_erase] at pends
    rcases invariant.running key pends.2 with ⟨origin, backed, listed⟩
    refine ⟨origin, backed.later (alone_of_timer input found pends.1), ?_⟩
    rcases List.mem_iff_getElem?.mp listed with ⟨place, there⟩
    rw [origins, List.mem_eraseIdx_iff_getElem?]
    refine ⟨place, fun same => pends.1 ?_, there⟩
    rcases invariant.started index conn found with ⟨ended, before, cause, atIndex, taken, offers⟩
    rcases backed.issued with ⟨otherBefore, otherCause, otherTaken, otherOffers⟩
    rw [← same, there] at atIndex
    rw [← Option.some.inj atIndex, otherTaken] at taken
    have parts := Prod.mk.inj (Option.some.inj taken)
    rw [← parts.1, ← parts.2] at offers
    exact offers_once otherOffers offers

/-- A step that leaves the timers, and the entries that it does not take out. -/
theorem TimerInvariant.same {past : List (Runtime × Event)} {now after : Runtime} {event : Event}
    (invariant : TimerInvariant past now) (taken : step now event = some after)
    (notTimer : forall index, event.input ≠ .pendingTimer index)
    (timers : after.store.pendingTimers = now.store.pendingTimers)
    (left : forall conn, conn ∈ after.store.pendingSession -> conn ∈ now.store.pendingSession ∧
      ¬ Offers conn now event ∧ ¬ Uses conn now event ∧ ¬ Expires conn now event) :
    TimerInvariant ((now, event) :: past) after := by
  have origins := @timerOrigins_same now after event past taken notTimer timers
  refine ⟨?_, fun place key there => ?_, ?_, fun key pends => ?_⟩
  · rw [origins, timers, invariant.length]
  · rw [timers] at there
    rw [origins]
    exact invariant.started_cons (now, event) there
  · rw [origins]
    exact invariant.sorted
  · rcases left key pends with ⟨was, alone⟩
    rcases invariant.running key was with ⟨origin, backed, listed⟩
    rw [origins]
    exact ⟨origin, backed.later alone, listed⟩

/-- The answer to a PADI starts a timer. -/
theorem TimerInvariant.offered {past : List (Runtime × Event)} {now after : Runtime} {event : Event}
    {conn : PPPOEConn} (invariant : TimerInvariant past now) (taken : step now event = some after)
    (offers : Offers conn now event)
    (inserted : after.store.pendingSession = insert conn now.store.pendingSession)
    (started : after.store.pendingTimers = now.store.pendingTimers ++ [conn])
    (left : forall other, other ≠ conn ->
      ¬ Offers other now event ∧ ¬ Uses other now event ∧ ¬ Expires other now event) :
    TimerInvariant ((now, event) :: past) after := by
  have origins := @timerOrigins_started now after event past conn taken offers started
  refine ⟨?_, fun place key there => ?_, ?_, fun key pends => ?_⟩
  · rw [origins, started, List.length_append, List.length_append, invariant.length]
    rfl
  · rw [started] at there
    rw [origins]
    rcases Nat.lt_trichotomy place now.store.pendingTimers.length with within | last | beyond
    · rw [List.getElem?_append_left within] at there
      rw [List.getElem?_append_left (invariant.length ▸ within)]
      exact invariant.started_cons (now, event) there
    · rw [last, List.getElem?_concat_length] at there
      rw [last, ← invariant.length, List.getElem?_concat_length]
      exact ⟨past.length, now, event, rfl, stepAt_last _ _, Option.some.inj there ▸ offers⟩
    · rw [List.getElem?_eq_none] at there
      · cases there
      · rw [List.length_append]
        exact beyond
  · rw [origins]
    refine List.pairwise_append.mpr ⟨invariant.sorted, List.pairwise_singleton _ _, ?_⟩
    intro origin listed last isLast
    rw [List.mem_singleton.mp isLast]
    rcases List.mem_iff_getElem?.mp listed with ⟨place, there⟩
    rcases invariant.origin there with ⟨_, _, _, _, issued, _⟩
    exact lt_of_stepAt issued
  · rw [inserted, Finset.mem_insert] at pends
    rw [origins]
    by_cases same : key = conn
    · rw [same]
      exact ⟨past.length, .here past offers, List.mem_append_right _ (List.mem_singleton_self _)⟩
    · rcases invariant.running key (pends.resolve_left same) with ⟨origin, backed, listed⟩
      exact ⟨origin, backed.later (left key same), List.mem_append_left _ listed⟩

theorem timerInvariant_step {past : List (Runtime × Event)} {now after : Runtime} {event : Event}
    (invariant : TimerInvariant past now) (taken : step now event = some after) :
    TimerInvariant ((now, event) :: past) after := by
  cases pending_cases taken with
  | undisturbed none same =>
      refine invariant.same taken (fun index input => ?_) same.timers (fun conn pends => ?_)
      · rcases event with ⟨env, _⟩
        subst input
        rcases Option.map_eq_some_iff.mp taken with ⟨conn, found, _⟩
        exact (none conn).2.2 ⟨index, rfl, found⟩
      · rw [same.pending] at pends
        exact ⟨pends, none conn⟩
  | @offered conn offers fresh inserted started _ =>
      have discovery := offers
      rcases discovery with ⟨_, _, _, _, input, _⟩
      exact invariant.offered taken offers inserted started (fun other different =>
        ⟨fun otherOffers => different (offers_once otherOffers offers),
          not_uses_of_offers offers, not_expires_of_discovery input⟩)
  | @used conn encap uses _ erased timers _ =>
      have discovery := uses
      rcases discovery with ⟨_, _, _, input, _⟩
      refine invariant.same taken (fun index other => ?_) timers (fun key pends => ?_)
      · rw [input] at other
        cases other
      · rw [erased, Finset.mem_erase] at pends
        exact ⟨pends.2, fun offers => not_uses_of_offers offers uses,
          fun other => pends.1 (uses_once other uses), not_expires_of_discovery input⟩
  | expired input found erased timers _ => exact invariant.ended input found erased timers

theorem timerInvariant_of_run {start now : Runtime} {past : List (Runtime × Event)}
    {allowed : Runtime -> Event -> Prop} (empty : start.store = {})
    (run : Run step allowed start past now) : TimerInvariant past now := by
  refine run.invariantPast ?_ (fun _ _ _ _ here _ taken => timerInvariant_step here taken)
  refine ⟨?_, fun _ _ found => ?_, .nil, fun conn pends => ?_⟩
  · rw [empty]
    rfl
  · rw [empty] at found
    cases found
  · rw [empty] at pends
    exact absurd pends (Finset.notMem_empty conn)

/-! ## Whose timer ends -/

/-- An entry is taken out by the PADR that uses it or by a timer of its key. -/
theorem unpends_iff {conn : PPPOEConn} {now after : Runtime} {event : Event}
    (taken : step now event = some after) :
    Unpends conn now event ↔
      conn ∈ now.store.pendingSession ∧ (Uses conn now event ∨ Expires conn now event) := by
  have valid := pendingTickets_sound.valid_after now event after conn taken
  dsimp only [pendingTickets] at valid
  constructor
  · rintro ⟨later, returned, pends, gone⟩
    rw [← Option.some.inj (taken.symm.trans returned), valid] at gone
    refine ⟨pends, Classical.byContradiction (fun neither => gone (.inr ⟨pends, ?_⟩))⟩
    exact ⟨fun uses => neither (.inl uses), fun expires => neither (.inr expires)⟩
  · rintro ⟨pends, either⟩
    refine ⟨after, taken, pends, fun left => ?_⟩
    rcases valid.mp left with offers | ⟨_, notUses, notExpires⟩
    · exact not_pending_of_offers offers pends
    · exact either.elim notUses notExpires

/-- A timer that was started later stands behind in the list. -/
theorem TimerInvariant.lt_iff {past : List (Runtime × Event)} {now : Runtime}
    (invariant : TimerInvariant past now) {first second origin other : Nat}
    (listed : (timerOrigins past)[first]? = some origin)
    (otherListed : (timerOrigins past)[second]? = some other) : origin < other ↔ first < second := by
  have ordered := List.pairwise_iff_getElem.mp invariant.sorted
  rcases List.getElem?_eq_some_iff.mp listed with ⟨within, is⟩
  rcases List.getElem?_eq_some_iff.mp otherListed with ⟨otherWithin, otherIs⟩
  rcases Nat.lt_trichotomy first second with before | same | behind
  · have less := ordered first second within otherWithin before
    rw [is, otherIs] at less
    exact ⟨fun _ => before, fun _ => less⟩
  · rw [same, otherListed] at listed
    rw [same, Option.some.inj listed]
    exact ⟨fun less => absurd less (Nat.lt_irrefl _), fun less => absurd less (Nat.lt_irrefl _)⟩
  · have less := ordered second first otherWithin within behind
    rw [is, otherIs] at less
    omega

/-- The timer that ends is the one of the entry if and only if it is the last
of its key. -/
theorem removesOwn_iff {earlier : List (Runtime × Event)} {now after : Runtime} {event : Event}
    (invariant : TimerInvariant earlier now) (taken : step now event = some after) :
    RemovesOwn earlier now event ↔ EndsLast now event := by
  constructor
  · intro own
    unfold EndsLast
    split
    · rename_i index input
      intro conn found pends later
      have unpends := (unpends_iff taken).mpr ⟨pends, .inr ⟨index, input, found⟩⟩
      rcases own conn unpends with ⟨_, _, _, discovery, _⟩ | ⟨place, origin, same, listed, backed⟩
      · rw [input] at discovery
        cases discovery
      · rw [input] at same
        injection same with samePlace
        rw [← samePlace] at listed
        -- The later timer was started by an answer that came after the entry.
        rcases List.mem_iff_getElem?.mp later with ⟨offset, there⟩
        rw [List.getElem?_drop] at there
        rcases invariant.started _ conn there with
          ⟨other, before, cause, otherListed, issued, offers⟩
        have less := (invariant.lt_iff listed otherListed).mpr (by omega)
        exact (backed.untouched other before cause less (lt_of_stepAt issued) issued).1 offers
    · trivial
  · intro ends conn unpends
    rcases (unpends_iff taken).mp unpends with ⟨pends, uses | ⟨index, input, found⟩⟩
    · exact .inl uses
    · rcases invariant.running conn pends with ⟨origin, backed, member⟩
      rcases invariant.started index conn found with
        ⟨other, before, cause, listed, issued, offers⟩
      refine .inr ⟨index, other, input, listed, ?_⟩
      rcases Nat.lt_trichotomy other origin with older | same | newer
      · -- Then the timer of the entry is running behind the one that ends.
        rcases List.mem_iff_getElem?.mp member with ⟨place, there⟩
        have behind := (invariant.lt_iff listed there).mp older
        rcases invariant.origin there with ⟨key, otherBefore, otherCause, running, was, made⟩
        rcases backed.issued with ⟨state, reason, atOrigin, issues⟩
        have parts := Prod.mk.inj (Option.some.inj (atOrigin.symm.trans was))
        rw [parts.1, parts.2] at issues
        rw [offers_once made issues] at running
        unfold EndsLast at ends
        rw [input] at ends
        refine absurd (List.mem_iff_getElem?.mpr ⟨place - (index + 1), ?_⟩) (ends conn found pends)
        rw [List.getElem?_drop, Nat.add_sub_cancel' behind]
        exact running
      · rw [same]
        exact backed
      · exact absurd offers
          (backed.untouched other before cause newer (lt_of_stepAt issued) issued).1

/-- Entries are removed by their own timers in exactly the runs in which a timer
never ends before a later one of its key while the key is pending. -/
theorem removalLaw_iff {start now : Runtime} {past : List (Runtime × Event)}
    (fresh : start.Fresh) (run : Run step anyStep start past now) :
    RemovalLaw past ↔ forall entry, entry ∈ past -> EndsLast entry.1 entry.2 := by
  have each : forall later before event earlier, past = later ++ (before, event) :: earlier ->
      (RemovesOwn earlier before event ↔ EndsLast before event) := by
    intro later before event earlier whole
    rw [whole] at run
    rcases run.split with ⟨middle, first, _⟩
    cases first with
    | next shorter _ taken =>
        exact removesOwn_iff (timerInvariant_of_run fresh.store shorter) taken
  constructor
  · rintro law ⟨before, event⟩ member
    rcases List.append_of_mem member with ⟨later, earlier, whole⟩
    exact (each later before event earlier whole).mp (law later before event earlier whole)
  · intro last later before event earlier whole
    refine (each later before event earlier whole).mpr (last (before, event) ?_)
    rw [whole]
    exact List.mem_append_right _ List.mem_cons_self

/-- A peer whose session was made asks for another one before its first timer
has ended. -/
def askedAgain : Runtime :=
  Foundation.after step (sampleDaemon [.none] papPolicy)
    (connect (sampleLink 1) ++ [discoveryEvent (sampleLink 1) PPPOECode.padi 0]) (by decide +kernel)

/-- The first timer takes out the second entry. -/
theorem staleTimer_removes :
    ¬ forall (past : List (Runtime × Event)) (now : Runtime),
      Run step anyStep (sampleDaemon [.none] papPolicy) past now -> RemovalLaw past := by
  intro claim
  have reached : Reachable step (sampleDaemon [.none] papPolicy) askedAgain :=
    reachable_after _ _ _ _
  rcases reached with ⟨past, run⟩
  have taken : step askedAgain { input := .pendingTimer 0 } =
      some ((askedAgain.pendingTimer 0).get (by decide +kernel)) := (Option.some_get _).symm
  have law := claim _ _ (run.next trivial taken) [] askedAgain _ past rfl
  have invariant := timerInvariant_of_run (fresh_sampleDaemon [.none] papPolicy).store run
  exact absurd ((removesOwn_iff invariant taken).mp law) (by decide +kernel)

/-- The same peer when its first timer ends before it asks again. -/
def askedLater : Runtime :=
  Foundation.after step (sampleDaemon [.none] papPolicy)
    (connect (sampleLink 1) ++ [{ input := .pendingTimer 0 },
      discoveryEvent (sampleLink 1) PPPOECode.padi 0, { input := .pendingTimer 0 }])
    (by decide +kernel)

theorem removalLaw_after_askedLater :
    ∃ past, Run step anyStep (sampleDaemon [.none] papPolicy) past askedLater ∧
      askedLater.store.pendingSession = ∅ ∧ RemovalLaw past := by
  have run : ∃ past, Run step EndsLast (sampleDaemon [.none] papPolicy) past askedLater :=
    run_after _ _ _ _ _ (by decide +kernel)
  rcases run with ⟨past, run⟩
  have unrestricted : Run step anyStep (sampleDaemon [.none] papPolicy) past askedLater :=
    run.weaken (fun _ _ _ => trivial)
  refine ⟨past, unrestricted, by decide +kernel, ?_⟩
  refine (removalLaw_iff (fresh_sampleDaemon [.none] papPolicy) unrestricted).mpr ?_
  rintro ⟨before, event⟩ member
  rcases run.recorded member with ⟨_, _, _, last, _⟩
  exact last

end Runtime

end Pppcpd
