import SplunkLogs.Properties.Completion

/-!
# What a cancellation stops

`Cancel` acts on the connection there is. A producer that has passed its check of
`context.interrupted` and has not begun its request yet is not reached by it; every other
producer sends nothing more.
-/
namespace SplunkLogs

open Foundation

/-- Between a passed interrupt check and the beginning of the request. -/
def ProducerPc.AboutToSend : ProducerPc → Prop
  | .connect => True
  | .ready => True
  | _ => False

/-- `Cancel` runs in this step only if the producer is not about to send. -/
def CancelsInTime (s t : State) : Prop :=
  t.cancelRan = true → s.cancelRan = true ∨ ¬s.producer.pc.AboutToSend

/-- What ends a scan call. -/
def State.Settled (s : State) : Prop :=
  s.interrupted = true ∨ s.delivered ≠ [] ∨ s.finished = true ∨ s.error ≠ none ∨
    s.started = false

/-- Outside a scan call something has settled it, an error stands behind the `try` block,
and `Cancel` belongs to the end. -/
structure State.Calls (s : State) : Prop where
  settled : s.main ≠ .scanning → s.Settled
  error : s.error ≠ none → s.producer.pc.ended = true
  cancelRan : s.cancelRan = true → s.main.Ending ∨ s.main.Threw

theorem ProducerStep.calls {sys : Setup} {s t : State} (step : ProducerStep sys s t)
    (known : s.Calls) : t.Calls := by
  obtain ⟨settled, error, cancelRan⟩ := known
  cases step with
  | own p moved =>
    exact ⟨settled, fun failed => absurd (error failed) (by simp [moved.history.1]), cancelRan⟩
  | sleepForSpace | wakeForSpace => exact ⟨settled, error, cancelRan⟩
  | caught found at_ =>
    -- The error takes its place among what settles a call.
    refine ⟨?_, fun _ => rfl, cancelRan⟩
    intro outside
    rcases settled outside with seen | rows | past | failed | unstarted
    · exact Or.inl seen
    · exact Or.inr (Or.inl rows)
    · exact Or.inr (Or.inr (Or.inl past))
    · exact absurd (error failed) (by simp [at_, ProducerPc.ended])
    · exact Or.inr (Or.inr (Or.inr (Or.inr unstarted)))
  | finish at_ =>
    exact ⟨fun _ => Or.inr (Or.inr (Or.inl rfl)), fun _ => rfl, cancelRan⟩
  | notifyFinished at_ => exact ⟨settled, fun _ => rfl, cancelRan⟩
  | interruptSeen at_ | interruptUnseen at_ | getConnection at_ | beginSend at_
  | returned _ at_ | threw _ _ at_ | retried _ _ at_ | backoffInterrupted _ at_
  | push _ _ _ at_ | drop _ _ _ at_ | notifyRow _ _ _ at_ =>
    exact ⟨settled, fun failed => absurd (error failed) (by simp [at_, ProducerPc.ended]),
      cancelRan⟩

theorem MainStep.calls {sys : Setup} {s t : State} (step : MainStep sys s t)
    (started : s.ProducerInv sys) (known : s.Calls) : t.Calls := by
  obtain ⟨settled, error, cancelRan⟩ := known
  cases step with
  | beginFirstScan last at_ unstarted =>
    have idle := started.idle.mp unstarted
    refine ⟨by simp, ?_, ?_⟩
    · intro failed
      simpa [idle, ProducerPc.ended] using error failed
    · intro ran
      simpa [at_, MainPc.Ending, MainPc.Threw] using cancelRan ran
  | beginScan last at_ _ =>
    refine ⟨by simp, error, ?_⟩
    intro ran
    simpa [at_, MainPc.Ending, MainPc.Threw] using cancelRan ran
  | interruptSeen _ _ _ _ _ seen => exact ⟨fun _ => Or.inl seen, error, fun _ => Or.inl trivial⟩
  | sleepForRows | wakeForRows => exact ⟨settled, error, cancelRan⟩
  | rethrow found _ _ failed =>
    exact ⟨fun _ => Or.inr (Or.inr (Or.inr (Or.inl (by simp [failed])))), error,
      fun _ => Or.inr trivial⟩
  | drain at_ awake clean some_ =>
    refine ⟨?_, error, ?_⟩
    · -- Rows have come, or the producer has finished.
      intro _
      rcases some_ with rows | past
      · have positive := sys.vectorSize_pos
        exact Or.inr (Or.inl (by simp [rows, positive.ne']))
      · exact Or.inr (Or.inr (Or.inl past))
    · intro ran
      simpa [at_, MainPc.Ending, MainPc.Threw] using cancelRan ran
  | drainedNotify count sleepers at_ =>
    refine ⟨fun _ => settled (by simp [at_]), error, ?_⟩
    intro ran
    simpa [at_, MainPc.Ending, MainPc.Threw] using cancelRan ran
  | interruptNotify at_ | destroyNotify at_ | destroyCancel at_ | join at_ =>
    exact ⟨fun _ => settled (by simp [at_]), error, fun _ => Or.inl trivial⟩
  | interruptCancel at_ =>
    exact ⟨fun _ => settled (by simp [at_]), error, fun _ => Or.inr trivial⟩
  | destroy at_ =>
    refine ⟨?_, error, fun _ => Or.inl trivial⟩
    intro _
    apply settled
    rcases at_ with ⟨_, at_⟩ | ⟨_, at_⟩ <;> simp [at_]

theorem native_calls (sys : Setup) (s : State) (reachable : (native sys).Reachable s) :
    s.Calls := by
  refine (native sys).invariant (State.ProducerInv sys) (native_producerInv sys) ?_ ?_ s reachable
  · rintro _ rfl
    exact ⟨fun _ => Or.inr (Or.inr (Or.inr (Or.inr rfl))), by simp, by simp⟩
  · intro s t started known next
    cases next with
    | interrupt => exact ⟨fun _ => Or.inl rfl, known.error, known.cancelRan⟩
    | producer t step => exact step.calls known
    | main t step => exact step.calls started known

/-- A producer that comes back to the interrupt check after the end of a call finds the
flag set: without it, a call ends only when rows have come or the producer has left its
`try` block, and neither is followed by another attempt. -/
theorem interrupted_at_top (sys : Setup) (s : State) (reachable : (native sys).Reachable s)
    (settled : s.Settled) (at_ : s.producer.pc = .attemptTop) : s.interrupted = true := by
  have producer := native_producerInv sys s reachable
  rcases settled with seen | rows | past | failed | unstarted
  · exact seen
  · -- Rows were delivered, but a producer at this check has read nothing.
    have order := (native_pushed sys s reachable).1
    obtain ⟨_, _, _, reading⟩ := producer.inv.reads
    simp only [Reading, at_] at reading
    rw [reading, List.append_eq_nil_iff] at order
    exact absurd order.1 rows
  · rcases (native_flags sys s reachable).finished past with late | late <;> simp [at_] at late
  · have ended := (native_calls sys s reachable).error failed
    simp [at_, ProducerPc.ended] at ended
  · have idle := producer.idle.mp unstarted
    simp [at_] at idle

/-- Nothing but a passed check leads to a request. -/
theorem LocalStep.not_aboutToSend {sys : Setup} {p q : Producer} (step : LocalStep sys p q) :
    ¬q.pc.AboutToSend := by
  cases step <;> simp_all [ProducerPc.AboutToSend]

/-- One step after a `Cancel` that came in time. -/
theorem Step.sends_nothing {sys : Setup} {s t : State} (reachable : (native sys).Reachable s)
    (ran : s.cancelRan = true) (quiet : ¬s.producer.pc.AboutToSend) (step : Step sys s t) :
    t.cancelRan = true ∧ ¬t.producer.pc.AboutToSend ∧ t.sends = s.sends ∧
      t.creations = s.creations := by
  have calls := native_calls sys s reachable
  have outside : s.main ≠ .scanning := by
    intro scanning
    simpa [scanning, MainPc.Ending, MainPc.Threw] using calls.cancelRan ran
  cases step with
  | interrupt => exact ⟨ran, quiet, rfl, rfl⟩
  | producer t step =>
    cases step with
    | own p moved => exact ⟨ran, moved.not_aboutToSend, rfl, rfl⟩
    | interruptUnseen at_ calm =>
      -- The only step towards a request: the flag stops it.
      have seen := interrupted_at_top sys s reachable (calls.settled outside) at_
      simp [seen] at calm
    | getConnection at_ | beginSend at_ =>
      exact absurd quiet (by simp [at_, ProducerPc.AboutToSend])
    | sleepForSpace | wakeForSpace => exact ⟨ran, quiet, rfl, rfl⟩
    | _ => exact ⟨ran, id, rfl, rfl⟩
  | main t step =>
    cases step with
    | beginFirstScan => exact ⟨ran, id, rfl, rfl⟩
    | interruptCancel | destroyCancel => exact ⟨rfl, quiet, rfl, rfl⟩
    | _ => exact ⟨ran, quiet, rfl, rfl⟩

/-- `Cancel` itself leaves the producer where it is. -/
theorem Step.cancels {sys : Setup} {s t : State} (step : Step sys s t)
    (before : ¬s.cancelRan = true) (ran : t.cancelRan = true) : t.producer = s.producer := by
  cases step with
  | interrupt => rfl
  | producer t step => cases step <;> exact absurd ran before
  | main t step => cases step <;> first | rfl | exact absurd ran before

theorem cancelled_quiet (sys : Setup) (s : State)
    (reachable : ((native sys).restrict CancelsInTime).Reachable s) :
    s.cancelRan = true → ¬s.producer.pc.AboutToSend := by
  refine ((native sys).restrict CancelsInTime).invariant
    (P := fun s => s.cancelRan = true → ¬s.producer.pc.AboutToSend)
    ((native sys).Reachable) (fun _ known => known.of_restrict) ?_ ?_ s reachable
  · rintro _ rfl ran
    cases ran
  · rintro s t before known ⟨step, inTime⟩ ran
    -- `Cancel` has run before this step, or runs in it.
    by_cases already : s.cancelRan = true
    · exact (step.sends_nothing before already (known already)).2.1
    · rw [step.cancels already ran]
      exact (inTime ran).resolve_left already

/-- In every run in which `Cancel` never runs while the producer stands between its
interrupt check and its request, no connection is created and no request is sent once
`Cancel` has run. -/
theorem cancelled_scan_sends_nothing (sys : Setup) (s t : State)
    (reachable : ((native sys).restrict CancelsInTime).Reachable s)
    (ran : s.cancelRan = true) (run : (native sys).Steps s t) :
    t.sends = s.sends ∧ t.creations = s.creations := by
  have whole := reachable.of_restrict
  refine (((native sys).stable (P := fun u => u.cancelRan = true ∧
    ¬u.producer.pc.AboutToSend ∧ u.sends = s.sends ∧ u.creations = s.creations)
    ((native sys).Reachable) (fun _ known => known) ?_ whole
    ⟨ran, cancelled_quiet sys s reachable ran, rfl, rfl⟩ run)).2.2
  rintro u v known ⟨ran, quiet, sends, creations⟩ step
  obtain ⟨ran', quiet', sends', creations'⟩ := step.sends_nothing known ran quiet
  exact ⟨ran', quiet', sends'.trans sends, creations'.trans creations⟩

/-- A scan interrupted while its producer has a row in hand: one request in all. -/
theorem cancelled_scan_sends_nothing_one_row :
    ∃ s t, s.cancelRan = true ∧ (native oneRecordSetup).Steps s t ∧
      t.producer.dropped = true ∧ t.sends = 1 := by
  have built := oneRowBuilt_reachable_within CancelsInTime fun s t _ same ran =>
    Or.inl (same ▸ ran)
  have interrupted := built.step ⟨.interrupt, Or.inl⟩
  have awake := interrupted.step ⟨.main _ (.wakeForRows (by decide)), Or.inl⟩
  have seen := awake.step
    ⟨.main _ (.interruptSeen rfl (by decide) rfl rfl rfl rfl), Or.inl⟩
  have notified := seen.step ⟨.main _ (.interruptNotify rfl), Or.inl⟩
  have cancelled := notified.step ⟨.main _ (.interruptCancel rfl), fun _ => Or.inr id⟩
  have sends := cancelled_scan_sends_nothing oneRecordSetup _ _ cancelled rfl
    (.single (.producer _ (.drop _ [] _ rfl (by decide) (Or.inl rfl))))
  exact ⟨_, _, rfl, .single (.producer _ (.drop _ [] _ rfl (by decide) (Or.inl rfl))), rfl,
    sends.1⟩

/-- A `Cancel` that comes between the interrupt check and the request finds no connection;
the producer then creates one and sends its request. -/
theorem cancelled_scan_sends_late :
    ∃ s t, (native oneRecordSetup).Reachable s ∧ s.cancelled = true ∧ s.cancelRan = true ∧
      s.sends = 0 ∧ s.creations = 0 ∧ (native oneRecordSetup).Steps s t ∧
      t.creations = 1 ∧ t.sends = 1 := by
  have start : (native oneRecordSetup).Reachable {} := TransitionSystem.reachable_init _ rfl
  have scan := start.step (.main _ (.beginFirstScan none rfl rfl))
  have checked := scan.step (.producer _ (.interruptUnseen rfl rfl))
  -- The interrupt comes too late for the check and too early for `Cancel`.
  have interrupted := checked.step .interrupt
  have seen := interrupted.step (.main _ (.interruptSeen rfl (by decide) rfl rfl rfl rfl))
  have notified := seen.step (.main _ (.interruptNotify rfl))
  have cancelled := notified.step (.main _ (.interruptCancel rfl))
  exact ⟨_, _, cancelled, rfl, rfl, rfl, rfl, .tail (.single (.producer _ (.getConnection rfl)))
    (.producer _ (.beginSend rfl)), rfl, rfl⟩

end SplunkLogs
