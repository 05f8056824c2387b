import SplunkLogs.Properties.Cancellation

/-!
# How many requests a scan sends

The producer thread sends at most one request more than there are retries, and none once a row
has been handed over; the connections it creates keep to the same bounds.
-/
namespace SplunkLogs

open Foundation (TransitionSystem)

variable {sys : Setup}

/-- Up to the beginning of the attempt's request. -/
@[simp] def ProducerPc.BeforeSend : ProducerPc → Prop
  | .idle => True
  | .attemptTop => True
  | pc => pc.AboutToSend

/-- The attempt has begun its request, and its loop has not been left by an exception. -/
@[simp] def ProducerPc.HasSent : ProducerPc → Prop
  | .failed _ => False
  | pc => pc.ended = false ∧ ¬pc.BeforeSend

/-- The requests sent and the connections created, by the position of the producer. -/
structure State.Counted (sys : Setup) (s : State) : Prop where
  budget : s.producer.attempt ≤ sys.client.retries
  waiting : ∀ delay, s.producer.pc = .backoff delay → s.producer.attempt < sys.client.retries
  before : s.producer.pc.BeforeSend → s.sends = s.producer.attempt
  after : s.producer.pc.HasSent → s.sends = s.producer.attempt + 1
  sends : s.sends ≤ s.producer.attempt + 1
  creations : s.creations ≤ s.sends + 1
  created : s.producer.pc ≠ .ready → s.creations ≤ s.sends

/-- The producer's own moves begin no request; only the end of a backoff begins an attempt. -/
theorem LocalStep.counted {p q : Producer} (step : LocalStep sys p q) :
    (q.attempt = p.attempt ∧ (q.pc.HasSent → p.pc.HasSent) ∧ ¬q.pc.BeforeSend ∧
      (∀ delay, q.pc ≠ .backoff delay) ∧ p.pc ≠ .ready) ∨
    ∃ delay, p.pc = .backoff delay ∧ q.attempt = p.attempt + 1 ∧ q.pc = .attemptTop := by
  cases step with
  | backoffOver delay at_ => exact Or.inr ⟨delay, at_, rfl, rfl⟩
  | _ =>
    refine Or.inl ⟨rfl, ?_⟩
    simp_all [ProducerPc.AboutToSend, ProducerPc.ended]

theorem ProducerStep.counted {s t : State} (step : ProducerStep sys s t)
    (known : s.Counted sys) : t.Counted sys := by
  obtain ⟨budget, waiting, before, after, sends, creations, created⟩ := known
  cases step with
  | own p moved =>
    rcases moved.counted with
      ⟨attempt, sent, unsent, advancing, elsewhere⟩ | ⟨delay, at_, attempt, top⟩
    · exact ⟨attempt ▸ budget, fun delay at_ => absurd at_ (advancing delay),
        fun unbegun => absurd unbegun unsent, fun begun => attempt ▸ after (sent begun),
        attempt ▸ sends, creations, fun _ => created elsewhere⟩
    · -- The request of the attempt that has failed is the last one.
      have begun := after (by simp [at_, ProducerPc.ended, ProducerPc.AboutToSend])
      have within := waiting delay at_
      exact ⟨by dsimp only; omega, by simp [top], fun _ => by rw [attempt]; exact begun,
        by simp [top], by dsimp only; omega,
        creations, fun _ => created (by simp [at_])⟩
  | interruptUnseen at_ =>
    exact ⟨budget, by simp, fun _ => before (by simp [at_]),
      by simp [ProducerPc.AboutToSend], sends,
      creations, fun _ => created (by simp [at_])⟩
  | getConnection at_ =>
    have unsent := before (by simp [at_, ProducerPc.AboutToSend])
    have old := created (by simp [at_])
    refine ⟨budget, by simp [State.goto], fun _ => unsent, ?_, sends, ?_, ?_⟩
    · simp [State.goto, ProducerPc.AboutToSend]
    · dsimp only
      split <;> simp only [State.goto] <;> omega
    · simp [State.goto]
  | beginSend at_ =>
    -- The connection at hand, created for this request or kept, is used now.
    have unsent := before (by simp [at_, ProducerPc.AboutToSend])
    refine ⟨budget, by simp [State.goto], ?_, fun _ => ?_, ?_, ?_, fun _ => ?_⟩
    · simp [State.goto, ProducerPc.AboutToSend]
    all_goals simp only [State.goto]; omega
  | retried result delay at_ decided =>
    have begun := after (by simp [at_, ProducerPc.ended, ProducerPc.AboutToSend])
    exact ⟨budget, fun _ _ => afterSend_retry_lt decided,
      by simp [State.goto, ProducerPc.AboutToSend], fun _ => begun, sends,
      creations, fun _ => created (by simp [at_])⟩
  | sleepForSpace | wakeForSpace =>
    exact ⟨budget, waiting, before, after, sends, creations, created⟩
  | push _ _ _ at_ | drop _ _ _ at_ | notifyRow _ _ _ at_ =>
    have begun := after (by simp [at_, ProducerPc.ended, ProducerPc.AboutToSend])
    exact ⟨budget, by simp [State.goto],
      by simp [State.goto, ProducerPc.AboutToSend], fun _ => begun, sends,
      creations, fun _ => created (by simp [at_])⟩
  | returned _ at_ =>
    have begun := after (by simp [at_, ProducerPc.ended, ProducerPc.AboutToSend])
    exact ⟨budget, by simp [State.goto],
      by simp [State.goto, ProducerPc.AboutToSend], fun _ => begun, sends,
      creations, fun _ => created (by simp [at_])⟩
  | interruptSeen at_ | threw _ _ at_ | backoffInterrupted _ at_ | caught _ at_ | finish at_
  | notifyFinished at_ =>
    exact ⟨budget, by simp [State.goto],
      by simp [State.goto, ProducerPc.AboutToSend],
      by simp [State.goto, ProducerPc.ended], sends, creations,
      fun _ => created (by simp [at_])⟩

theorem MainStep.counted {s t : State} (step : MainStep sys s t) (started : s.ProducerInv sys)
    (known : s.Counted sys) : t.Counted sys := by
  obtain ⟨budget, waiting, before, after, sends, creations, created⟩ := known
  cases step with
  | beginFirstScan _ _ unstarted =>
    have idle := started.idle.mp unstarted
    exact ⟨budget, by simp [State.goto], fun _ => before (by simp [idle]), by simp [State.goto],
      sends, creations, fun _ => created (by simp [idle])⟩
  | _ => exact ⟨budget, waiting, before, after, sends, creations, created⟩

theorem native_counted (s : State) (reachable : (native sys).Reachable s) : s.Counted sys := by
  refine (native sys).invariant (State.ProducerInv sys) (native_producerInv sys) ?_ ?_ s reachable
  · rintro _ rfl
    exact ⟨Nat.zero_le _, by simp, fun _ => rfl, by simp, Nat.zero_le _, Nat.zero_le _,
      fun _ => Nat.le_refl _⟩
  · intro s t started known next
    cases next with
    | interrupt => exact ⟨known.budget, known.waiting, known.before, known.after, known.sends,
        known.creations, known.created⟩
    | producer t step => exact step.counted known
    | main t step => exact step.counted started known

/-- A producer that has handed over a row is past its last request, and a row handed over
stays so. -/
theorem Step.after_row {s t : State} (reachable : (native sys).Reachable s)
    (handed : s.producer.reader.rows ≠ []) (step : Step sys s t) :
    t.producer.reader.rows ≠ [] ∧ t.sends = s.sends ∧ t.creations = s.creations := by
  obtain ⟨_, _, _, reading⟩ := (native_producerInv sys s reachable).inv.reads
  cases step with
  | interrupt => exact ⟨handed, rfl, rfl⟩
  | producer t step =>
    cases step with
    | own p moved => exact ⟨by rwa [moved.history.2.2.2.1], rfl, rfl⟩
    | getConnection at_ | beginSend at_ =>
      -- At these places nothing has been read.
      simp only [Reading, at_] at reading
      simp [reading.1] at handed
    | push => exact ⟨by simp [Reader.push], rfl, rfl⟩
    | _ => exact ⟨handed, rfl, rfl⟩
  | main t step =>
    cases step with
    | _ => exact ⟨handed, rfl, rfl⟩

theorem State.Counted.bounded {s : State} (known : s.Counted sys) :
    s.sends ≤ sys.client.retries + 1 ∧ s.creations ≤ sys.client.retries + 1 := by
  obtain ⟨budget, _, before, _, sends, creations, created⟩ := known
  refine ⟨by omega, ?_⟩
  by_cases at_ : s.producer.pc = .ready
  · -- The connection is there before its request.
    have unsent := before (by simp [at_, ProducerPc.AboutToSend])
    omega
  · have := created at_
    omega

/-- In every reachable state at most `retries + 1` requests have been sent and as many
connections created; and once a row has been handed over, neither follows. -/
theorem native_requests_bounded (s t : State) (reachable : (native sys).Reachable s)
    (run : (native sys).Steps s t) :
    (t.sends ≤ sys.client.retries + 1 ∧ t.creations ≤ sys.client.retries + 1) ∧
      (s.delivered ++ s.buffer ≠ [] → t.sends = s.sends ∧ t.creations = s.creations) := by
  refine ⟨(native_counted t (reachable.steps run)).bounded, fun handed => ?_⟩
  rw [(native_pushed sys s reachable).1] at handed
  refine ((native sys).stable (P := fun u => u.producer.reader.rows ≠ [] ∧
    u.sends = s.sends ∧ u.creations = s.creations) ((native sys).Reachable)
    (fun _ known => known) ?_ reachable ⟨handed, rfl, rfl⟩ run).2
  rintro u v known ⟨rows, sends, creations⟩ step
  obtain ⟨rows', sends', creations'⟩ := step.after_row known rows
  exact ⟨rows', sends'.trans sends, creations'.trans creations⟩

/-- One row has been handed over: the scan sends nothing more. -/
theorem native_requests_bounded_one_row : ∃ s, (native oneRecordSetup).Reachable s ∧
    s.buffer ≠ [] ∧ ∀ t, (native oneRecordSetup).Steps s t → t.sends = 1 := by
  have pushed := oneRowBuilt_reachable.step
    (.producer _ (.push _ [] _ rfl (by decide) rfl rfl (by decide)))
  refine ⟨_, pushed, by decide, fun t run => ?_⟩
  exact ((native_requests_bounded _ t pushed run).2 (by decide)).1

end SplunkLogs
