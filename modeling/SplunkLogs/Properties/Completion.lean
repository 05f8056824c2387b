import SplunkLogs.Properties.Wakeups

/-!
# What the end of the data means

A scan that returns no rows tells DuckDB that the result is complete. That is true unless
the producer gave up a row before anybody had set `cancelled`: then it ends without an
error, and the scan with it.
-/
namespace SplunkLogs

open Foundation

/-- An exception has left the scan. -/
def MainPc.Threw : MainPc → Prop
  | .threw _ => True
  | _ => False

/-- A scan has found the end of the data. -/
def MainPc.Drained : MainPc → Prop
  | .drained 0 => True
  | .between (some 0) => True
  | _ => False

/-- The flags that the threads leave for each other. -/
structure State.Flags (s : State) : Prop where
  cancelled : s.cancelled = true → s.main.Ending ∨ s.main.Threw
  finished : s.finished = true → s.producer.pc = .notifyFinished ∨ s.producer.pc = .exited
  thrown : s.cancelled = false → s.producer.thrown = s.error
  drained : s.main.Drained → s.buffer = [] ∧ s.finished = true ∧ s.error = none

/-- A producer that stands before its last two places has not finished. -/
theorem State.Flags.running {s : State} (known : s.Flags)
    (early : s.producer.pc ≠ .notifyFinished) (early' : s.producer.pc ≠ .exited) :
    s.finished ≠ true := by
  intro past
  rcases known.finished past with at_ | at_
  · exact early at_
  · exact early' at_

theorem LocalStep.unfinished {sys : Setup} {p q : Producer} (step : LocalStep sys p q) :
    p.pc ≠ .notifyFinished ∧ p.pc ≠ .exited := by
  cases step <;> simp_all

theorem ProducerStep.flags {sys : Setup} {s t : State} (step : ProducerStep sys s t)
    (known : s.Flags) : t.Flags := by
  obtain ⟨cancelled, finished, thrown, drained⟩ := id known
  cases step with
  | own p moved =>
    have running := known.running moved.unfinished.1 moved.unfinished.2
    refine ⟨cancelled, fun past => absurd past running, ?_, drained⟩
    intro open_
    rw [moved.history.2.2.1]
    exact thrown open_
  | sleepForSpace | wakeForSpace => exact ⟨cancelled, finished, thrown, drained⟩
  | push row rest resume at_ =>
    -- A producer with a row in hand has not finished.
    have running := known.running (by simp [at_]) (by simp [at_])
    exact ⟨cancelled, fun past => absurd past running, thrown,
      fun done => absurd (drained done).2.1 running⟩
  | drop row rest resume at_ =>
    have running := known.running (by simp [at_]) (by simp [at_])
    exact ⟨cancelled, fun past => absurd past running, thrown, drained⟩
  | caught error at_ =>
    -- Unless cancelled, the exception kept is the one thrown.
    have running := known.running (by simp [at_]) (by simp [at_])
    refine ⟨cancelled, fun past => absurd past running, ?_,
      fun done => absurd (drained done).2.1 running⟩
    intro (open_ : s.cancelled = false)
    simp [open_]
  | finish at_ => exact ⟨cancelled, fun _ => Or.inl rfl, thrown, fun done =>
      absurd (finished (drained done).2.1) (by simp [at_])⟩
  | notifyFinished at_ => exact ⟨cancelled, fun _ => Or.inr rfl, thrown, drained⟩
  | interruptSeen at_ | interruptUnseen at_ | getConnection at_ | beginSend at_
  | returned _ at_ | threw _ _ at_ | retried _ _ at_ | backoffInterrupted _ at_
  | notifyRow _ _ _ at_ =>
    have running := known.running (by simp [at_]) (by simp [at_])
    exact ⟨cancelled, fun past => absurd past running, thrown, drained⟩

theorem MainStep.flags {sys : Setup} {s t : State} (step : MainStep sys s t)
    (started : s.ProducerInv sys) (known : s.Flags) : t.Flags := by
  obtain ⟨cancelled, finished, thrown, drained⟩ := known
  cases step with
  | beginFirstScan last at_ unstarted =>
    have idle := started.idle.mp unstarted
    refine ⟨?_, ?_, thrown, False.elim⟩
    · intro set
      simpa [at_, MainPc.Ending, MainPc.Threw] using cancelled set
    · intro past
      simpa [idle] using finished past
  | beginScan last at_ _ =>
    refine ⟨?_, finished, thrown, False.elim⟩
    intro set
    simpa [at_, MainPc.Ending, MainPc.Threw] using cancelled set
  | interruptSeen => exact ⟨fun _ => Or.inl trivial, finished, by simp, False.elim⟩
  | sleepForRows | wakeForRows => exact ⟨cancelled, finished, thrown, drained⟩
  | rethrow error => exact ⟨fun _ => Or.inr trivial, finished, thrown, False.elim⟩
  | drain at_ awake clean some_ =>
    refine ⟨?_, finished, thrown, ?_⟩
    · intro set
      simpa [at_, MainPc.Ending, MainPc.Threw] using cancelled set
    · -- Nothing was taken, so the buffer was empty and the producer had finished.
      intro done
      have empty : s.buffer = [] := by
        obtain ⟨size, positive⟩ := Nat.exists_eq_succ_of_ne_zero sys.vectorSize_pos.ne'
        cases rows : s.buffer with
        | nil => rfl
        | cons row rest => exact absurd done (by simp [rows, positive, MainPc.Drained])
      exact ⟨by simp [empty], some_.resolve_left (by simp [empty]), clean⟩
  | drainedNotify count sleepers at_ =>
    refine ⟨?_, finished, thrown, ?_⟩
    · intro set
      simpa [at_, MainPc.Ending, MainPc.Threw] using cancelled set
    · intro done
      apply drained
      rw [at_]
      cases count with
      | zero => trivial
      | succ => exact done
  | interruptNotify | destroyNotify | destroyCancel | join =>
    exact ⟨fun _ => Or.inl trivial, finished, thrown, False.elim⟩
  | interruptCancel => exact ⟨fun _ => Or.inr trivial, finished, thrown, False.elim⟩
  | destroy => exact ⟨fun _ => Or.inl trivial, finished, by simp, False.elim⟩

theorem native_flags (sys : Setup) (s : State) (reachable : (native sys).Reachable s) :
    s.Flags := by
  refine (native sys).invariant (State.ProducerInv sys) (native_producerInv sys) ?_ ?_ s reachable
  · rintro _ rfl
    constructor <;> simp [MainPc.Drained]
  · intro s t started known next
    cases next with
    | interrupt => exact ⟨known.cancelled, known.finished, known.thrown, known.drained⟩
    | producer t step => exact step.flags known
    | main t step => exact step.flags started known

/-- The producer gives up a row in this step only if `cancelled` has been set. -/
def DropsCancelled (s t : State) : Prop :=
  t.producer.dropped = true → s.producer.dropped = true ∨ s.cancelled = true

theorem Step.cancelled_stays {sys : Setup} {s t : State} (step : Step sys s t)
    (cancelled : s.cancelled = true) : t.cancelled = true := by
  cases step with
  | interrupt => exact cancelled
  | producer t step => cases step <;> exact cancelled
  | main t step => cases step <;> first | exact cancelled | rfl

/-- In runs that give up rows only after a cancellation, a row given up means a
cancellation. -/
theorem dropped_cancelled (sys : Setup) (s : State)
    (reachable : ((native sys).restrict DropsCancelled).Reachable s) :
    s.producer.dropped = true → s.cancelled = true := by
  refine ((native sys).restrict DropsCancelled).invariant
    (P := fun s => s.producer.dropped = true → s.cancelled = true)
    (fun _ => True) (fun _ _ => trivial) ?_ ?_ s reachable
  · rintro _ rfl dropped
    cases dropped
  · rintro s t _ known ⟨step, allowed⟩ dropped
    rcases allowed dropped with before | cancelled
    · exact step.cancelled_stays (known before)
    · exact step.cancelled_stays cancelled

/-- A scan that finds the end of the data has returned all there is, unless a row was given
up. -/
theorem zero_rows_reads_all (sys : Setup) (s : State) (reachable : (native sys).Reachable s)
    (returned : s.main = .between (some 0)) (kept : s.producer.dropped = false) :
    (sys.server s.producer.attempt).1.success = true ∧
    expected sys s.producer = ⟨s.delivered, none⟩ ∧ s.producer.thrown = none := by
  obtain ⟨cancelled, finished, thrown, drained⟩ := native_flags sys s reachable
  obtain ⟨empty, past, clean⟩ := drained (by simp [returned, MainPc.Drained])
  have open_ : s.cancelled = false := by
    cases set : s.cancelled with
    | false => rfl
    | true => simpa [returned, MainPc.Ending, MainPc.Threw] using cancelled set
  have unthrown : s.producer.thrown = none := (thrown open_).trans clean
  have order := (native_pushed sys s reachable).1
  obtain ⟨result, _, complete, reading⟩ := (native_producerInv sys s reachable).inv.reads
  -- A finished producer is behind its `try` block, and nothing was thrown there.
  have ended : Reading.Over sys s.producer result := by
    rcases finished past with at_ | at_ <;> simpa only [Reading, at_] using reading
  obtain ⟨success, rows⟩ := ended.1 unthrown
  rw [empty, List.append_nil] at order
  exact ⟨success, by rw [← complete kept, rows, order], unthrown⟩

/-- In every run whose producer gives up rows only once `cancelled` is set, a scan returns
normally with zero rows only after the full list of mapped and capped events of a
successful response, which has no search error, and with nothing thrown in the producer. -/
theorem zero_rows_means_complete (sys : Setup) (s : State)
    (reachable : ((native sys).restrict DropsCancelled).Reachable s)
    (returned : s.main = .between (some 0)) :
    (sys.server s.producer.attempt).1.success = true ∧
    s.delivered = (reference sys.input (sys.server s.producer.attempt).2).rows ∧
    (reference sys.input (sys.server s.producer.attempt).2).error = none ∧
    s.producer.thrown = none := by
  have whole := reachable.of_restrict
  have kept : s.producer.dropped = false := by
    cases dropped : s.producer.dropped with
    | false => rfl
    | true =>
      -- A cancelled scan does not return, so no row was given up.
      have set := dropped_cancelled sys s reachable dropped
      have ending := (native_flags sys s whole).cancelled set
      simp [returned, MainPc.Ending, MainPc.Threw] at ending
  obtain ⟨success, rows, unthrown⟩ := zero_rows_reads_all sys s whole returned kept
  rw [expected] at rows
  exact ⟨success, by rw [rows], by rw [rows], unthrown⟩

/-- A run to the end: one row, and then no more. -/
theorem zero_rows_means_complete_one_row :
    ∃ s : State, s.main = .between (some 0) ∧ s.delivered = [[.varchar (ascii "a")]] ∧
      s.delivered =
        (reference oneRecordSetup.input (oneRecord ++ [newline])).rows := by
  have built := oneRowBuilt_reachable_within DropsCancelled fun s t same _ dropped =>
    Or.inl (same ▸ dropped)
  have pushed := built.step
    ⟨.producer _ (.push _ [] _ rfl (by decide) rfl rfl (by decide)), Or.inl⟩
  have woken := pushed.step
    ⟨.producer _ (.notifyRow [] _ _ rfl (.wakes .scan (by decide))), Or.inl⟩
  have read := woken.step ⟨.producer _ (.own _ (.lineDone _ rfl)), Or.inl⟩
  have taken := read.step ⟨.producer _ (.own _ (.chunkTaken _ rfl rfl (by decide))), Or.inl⟩
  have complete := taken.step ⟨.producer _ (.own _ (.complete rfl rfl)), Or.inl⟩
  have returned := complete.step ⟨.producer _ (.returned _ rfl rfl), Or.inl⟩
  have parsed := returned.step ⟨.producer _ (.own _ (.noTail rfl (Or.inr rfl))), Or.inl⟩
  have finished := parsed.step ⟨.producer _ (.finish rfl), Or.inl⟩
  have first := finished.step
    ⟨.main _ (.drain rfl (by decide) rfl (Or.inr rfl)), Or.inl⟩
  have between := first.step ⟨.main _ (.drainedNotify _ _ rfl (.nobody rfl)), Or.inl⟩
  have second := between.step ⟨.main _ (.beginScan _ rfl rfl), Or.inl⟩
  have empty := second.step ⟨.main _ (.drain rfl (by decide) rfl (Or.inr rfl)), Or.inl⟩
  have past := empty.step ⟨.main _ (.drainedNotify _ _ rfl (.nobody rfl)), Or.inl⟩
  exact ⟨_, rfl, by decide, (zero_rows_means_complete oneRecordSetup _ past rfl).2.1⟩

/-- An interrupt that the producer sees first: it gives up its row and finishes without an
error, and the scan returns normally with zero rows although the response holds one. -/
theorem zero_rows_after_interrupt :
    ∃ s, (native oneRecordSetup).Reachable s ∧ s.main = .between (some 0) ∧
      s.interrupted = true ∧ s.delivered = [] ∧
      (reference oneRecordSetup.input
        (oneRecordSetup.server s.producer.attempt).2).rows = [[.varchar (ascii "a")]] := by
  have interrupted := oneRowBuilt_reachable.step .interrupt
  -- The producer sees the interrupt in its wait, the scan sleeps on until it has finished.
  have dropped := interrupted.step
    (.producer _ (.drop _ [] _ rfl (by decide) (Or.inr rfl)))
  have left := dropped.step (.producer _ (.own _ (.lineDone _ rfl)))
  have refused := left.step (.producer _ (.own _ (.chunkRefused _ rfl rfl)))
  have returned := refused.step (.producer _ (.returned _ rfl rfl))
  have ended := returned.step (.producer _ (.own _ (.noTail rfl (Or.inl rfl))))
  have finished := ended.step (.producer _ (.finish rfl))
  have woken := finished.step (.producer _ (.notifyFinished rfl))
  have drained := woken.step (.main _ (.drain rfl (by decide) rfl (Or.inr rfl)))
  have past := drained.step (.main _ (.drainedNotify _ _ rfl (.nobody rfl)))
  exact ⟨_, past, rfl, rfl, rfl, by decide⟩

end SplunkLogs
