import SplunkLogs.Properties.Exhaustion

/-!
# Every scan comes to its end

Whatever the interleaving, the threads can do only finitely much work, and as long as the
scan's state has not been destroyed some thread has work to do that needs no spurious
wake-up and no timeout. So a run that does not idle for ever ends in the destructor, with
the producer joined.
-/
namespace SplunkLogs

open Foundation (NotifyOne TransitionSystem findFrom findFrom_some slice)

/-- A step that only sets the interrupt flag, or moves a sleeper. -/
def Idle (s t : State) : Prop :=
  t = { s with
    interrupted := t.interrupted
    spaceAvailable := t.spaceAvailable
    rowsAvailable := t.rowsAvailable }

/-- The network delivers content in pieces that are not empty, and no scan is called behind
one that has returned no rows. -/
structure Orderly (s t : State) : Prop where
  pieces : s.producer.pc = .receiving → t.producer.pc = .lines 0 →
    t.producer.remaining ≠ s.producer.remaining
  calls : s.main = .between (some 0) → t.main ≠ .scanning

/-- An exception or the end of the text has ended the attempts. -/
def ProducerPc.over : ProducerPc → Bool
  | .failed _ => true
  | pc => pc.ended

/-- The attempts that may still follow. -/
def Producer.attemptsLeft (client : NativeClient) (p : Producer) : Nat :=
  if p.pc.over then 0
  else
    match p.pc with
    | .backoff _ => client.retries - p.attempt - 1
    | _ => client.retries - p.attempt

/-- What is left for the producer, all attempts included. -/
def Producer.work (client : NativeClient) (p : Producer) :
    Nat ×ₗ Nat ×ₗ Nat ×ₗ Nat ×ₗ Nat :=
  toLex (p.attemptsLeft client, p.left)

/-- What is left for the scan calls and the destructor, with this many rows in the buffer. -/
def MainPc.work (rows : Nat) : MainPc → Nat
  | .gone => 0
  | .joining => 1
  | .destroyCancel => 2
  | .destroyNotify => 3
  | .threw _ => 4
  | .between (some 0) => 4
  | .interruptCancel => 5
  | .drained 0 => 5
  | .interruptNotify => 6
  | .scanning => 4 * rows + 7
  | .between _ => 4 * rows + 8
  | .drained _ => 4 * rows + 9

/-- What is left for all. A row pushed is more work for the scan calls, and less for the
producer. -/
def State.work (client : NativeClient) (s : State) :
    (Nat ×ₗ Nat ×ₗ Nat ×ₗ Nat ×ₗ Nat) ×ₗ Nat :=
  toLex (s.producer.work client, s.main.work s.buffer.length)

theorem Idle.work {client : NativeClient} {s t : State} (idle : Idle s t) :
    t.work client = s.work client := by
  rw [idle]
  rfl

section Work

variable {client : NativeClient}

theorem Producer.work_lt_attempts {p q : Producer}
    (fewer : q.attemptsLeft client < p.attemptsLeft client) : q.work client < p.work client :=
  Prod.Lex.toLex_lt_toLex.mpr (Or.inl fewer)

theorem Producer.work_lt_left {p q : Producer}
    (attempts : q.attemptsLeft client ≤ p.attemptsLeft client) (less : q.left < p.left) :
    q.work client < p.work client := by
  rcases attempts.lt_or_eq with fewer | same
  · exact work_lt_attempts fewer
  · exact Prod.Lex.toLex_lt_toLex.mpr (Or.inr ⟨same, less⟩)

/-- The producer comes closer to its end. -/
theorem State.work_lt_producer {s t : State}
    (less : t.producer.work client < s.producer.work client) :
    t.work client < s.work client :=
  Prod.Lex.toLex_lt_toLex.mpr (Or.inl less)

/-- The scan calls or the destructor come closer to theirs. -/
theorem State.work_lt_main {s t : State} (same : t.producer = s.producer)
    (less : t.main.work t.buffer.length < s.main.work s.buffer.length) :
    t.work client < s.work client :=
  Prod.Lex.toLex_lt_toLex.mpr (Or.inr ⟨congrArg (Producer.work client) same, less⟩)

/-- Outside a backoff all attempts behind this one are left. -/
theorem Producer.attemptsLeft_of {p : Producer} (advancing : ∀ delay, p.pc ≠ .backoff delay)
    (running : p.pc.over = false) : p.attemptsLeft client = client.retries - p.attempt := by
  unfold attemptsLeft
  rw [running]
  cases at_ : p.pc with
  | backoff delay => exact absurd at_ (advancing delay)
  | _ => rfl

theorem Producer.attemptsLeft_le (p : Producer) :
    p.attemptsLeft client ≤ client.retries - p.attempt := by
  unfold attemptsLeft
  split
  · exact Nat.zero_le _
  · split <;> omega

/-- A move within one attempt. -/
theorem Producer.work_lt_within {p q : Producer} (attempt : q.attempt = p.attempt)
    (advancing : ∀ delay, p.pc ≠ .backoff delay) (running : p.pc.over = false)
    (less : q.left < p.left) : q.work client < p.work client := by
  refine work_lt_left ?_ less
  rw [attemptsLeft_of advancing running, ← attempt]
  exact q.attemptsLeft_le

/-- A move to the end of the attempts. -/
theorem Producer.work_lt_over {p q : Producer} (left : q.pc.over = true)
    (less : q.left < p.left) : q.work client < p.work client := by
  refine work_lt_left ?_ less
  simp [attemptsLeft, left]

end Work

/-- Every move of the producer's own is idle or brings it closer to its end. -/
theorem LocalStep.work {sys : Setup} {p q : Producer} (step : LocalStep sys p q)
    (pieces : p.pc = .receiving → q.pc = .lines 0 → q.remaining ≠ p.remaining) :
    q = p ∨ q.work sys.client < p.work sys.client := by
  cases step with
  | content data rest at_ _ split =>
    -- A piece that is not empty leaves less in the network.
    have some_ : data ≠ [] := fun nothing => pieces at_ rfl (by simp [split, nothing])
    have positive := List.length_pos_iff.mpr some_
    refine Or.inr (Producer.work_lt_within rfl (by simp [at_]) (by rw [at_]; rfl) ?_)
    exact Producer.left_lt_remaining (by simp [at_]) (by simp [split, positive])
  | errorContent data rest at_ _ split =>
    -- An empty piece changes nothing.
    cases data with
    | nil =>
      have kept : p.receiver.keepError [] = p.receiver := by simp [Receiver.keepError]
      exact Or.inl (by rw [kept, show rest = p.remaining by simpa using split.symm])
    | cons byte data =>
      refine Or.inr (Producer.work_lt_within rfl (by simp [at_]) (by rw [at_]; rfl) ?_)
      refine Producer.left_lt_remaining rfl ?_
      simp only [split, List.length_append, List.length_cons]
      omega
  | line start stop events at_ _ found =>
    obtain ⟨after, before, _, _⟩ := findFrom_some found
    refine Or.inr (Producer.work_lt_within rfl (by simp [at_]) (by rw [at_]; rfl) ?_)
    refine Producer.left_lt_chunk (by simp [at_]) rfl (Or.inl ?_)
    simp only [at_, ProducerPc.textLeft]
    omega
  | chunkTaken start at_ | lineDone start at_ =>
    refine Or.inr (Producer.work_lt_within rfl (by simp [at_]) (by rw [at_]; rfl) ?_)
    exact Producer.left_lt_chunk (by simp [at_]) rfl (by simp [at_])
  | skipEvent _ _ resume at_ | capReached _ _ resume at_ | mapRow _ _ resume at_ =>
    refine Or.inr (Producer.work_lt_within rfl (by simp [at_]) (by rw [at_]; rfl) ?_)
    cases resume <;> exact Producer.left_lt_chunk (by simp [at_]) rfl (by simp [at_]; try omega)
  | backoffOver delay at_ =>
    -- The attempt that begins has been counted off when the backoff began.
    refine Or.inr (Producer.work_lt_left ?_ (Producer.left_lt_stage (by simp [at_])))
    simp only [Producer.attemptsLeft, at_, ProducerPc.over, ProducerPc.ended]
    simp only [Bool.false_eq_true, if_false]
    omega
  | refused _ at_ | head at_ | complete at_ | broken _ at_ | lineError _ _ _ at_
  | chunkRefused _ at_ | tailDone at_ | tailLine _ at_ | tailError _ at_ | noTail at_ =>
    refine Or.inr (Producer.work_lt_within rfl (by simp [at_]) (by rw [at_]; rfl) ?_)
    exact Producer.left_lt_stage (by simp [at_])

theorem ProducerStep.work {sys : Setup} {s t : State} (step : ProducerStep sys s t)
    (orderly : Orderly s t) : Idle s t ∨ t.work sys.client < s.work sys.client := by
  cases step with
  | own p moved =>
    rcases moved.work orderly.pieces with same | less
    · exact Or.inl (by rw [same]; rfl)
    · exact Or.inr (State.work_lt_producer less)
  | sleepForSpace | wakeForSpace => exact Or.inl rfl
  | retried result delay at_ decided =>
    -- Another attempt follows only within the budget.
    have within := afterSend_retry_lt decided
    refine Or.inr (State.work_lt_producer (Producer.work_lt_attempts ?_))
    simp only [State.goto, Producer.attemptsLeft, at_, ProducerPc.over, ProducerPc.ended,
      Bool.false_eq_true, if_false]
    omega
  | push row rest resume at_ | drop row rest resume at_ | notifyRow rest resume _ at_ =>
    refine Or.inr (State.work_lt_producer (Producer.work_lt_within rfl (by simp [at_])
      (by rw [at_]; rfl) ?_))
    cases resume <;>
      exact Producer.left_lt_chunk (by simp [State.goto, at_]) rfl
        (by simp [State.goto, Reader.push, at_])
  | interruptSeen at_ | backoffInterrupted _ at_ | threw _ _ at_ | caught _ at_ | finish at_
  | notifyFinished at_ =>
    refine Or.inr (State.work_lt_producer (Producer.work_lt_over rfl ?_))
    exact Producer.left_lt_stage (by simp [State.goto, at_])
  | interruptUnseen at_ | getConnection at_ | beginSend at_ | returned _ at_ =>
    refine Or.inr (State.work_lt_producer (Producer.work_lt_within rfl (by simp [at_])
      (by rw [at_]; rfl) ?_))
    exact Producer.left_lt_stage (by simp [State.goto, at_])

theorem MainStep.work {sys : Setup} {s t : State} (step : MainStep sys s t)
    (started : s.ProducerInv sys) (orderly : Orderly s t) :
    Idle s t ∨ t.work sys.client < s.work sys.client := by
  cases step with
  | beginFirstScan last at_ unstarted =>
    have idle := started.idle.mp unstarted
    refine Or.inr (State.work_lt_producer (Producer.work_lt_within rfl (by simp [idle])
      (by rw [idle]; rfl) ?_))
    exact Producer.left_lt_stage (by simp [State.goto, idle])
  | beginScan last at_ begun =>
    refine Or.inr (State.work_lt_main rfl ?_)
    rcases last with _ | _ | count
    · simp [at_, MainPc.work]
    · exact absurd rfl (orderly.calls at_)
    · simp [at_, MainPc.work]
  | sleepForRows | wakeForRows => exact Or.inl rfl
  | drain at_ awake clean some_ =>
    refine Or.inr (State.work_lt_main rfl ?_)
    obtain ⟨size, positive⟩ := Nat.exists_eq_succ_of_ne_zero sys.vectorSize_pos.ne'
    -- A call that returns rows leaves fewer of them.
    cases rows : s.buffer with
    | nil => simp [at_, MainPc.work]
    | cons row rest =>
      simp only [at_, MainPc.work, positive, List.take_succ_cons, List.drop_succ_cons,
        List.length_cons, List.length_drop]
      omega
  | drainedNotify count _ at_ =>
    refine Or.inr (State.work_lt_main rfl ?_)
    cases count <;> simp [at_, MainPc.work]
  | interruptSeen at_ | rethrow _ at_ | interruptNotify at_ | interruptCancel at_
  | destroyNotify at_ | destroyCancel at_ | join at_ =>
    refine Or.inr (State.work_lt_main rfl ?_)
    simp only [at_, MainPc.work]
    omega
  | destroy at_ =>
    refine Or.inr (State.work_lt_main rfl ?_)
    rcases at_ with ⟨last, at_⟩ | ⟨_, at_⟩
    · rcases last with _ | _ | count <;> simp only [at_, MainPc.work] <;> omega
    · simp [at_, MainPc.work]

/-- Where the threads are, by the flags. -/
structure State.Places (s : State) : Prop where
  past : s.producer.pc = .notifyFinished ∨ s.producer.pc = .exited → s.finished = true
  begun : s.main = .scanning → s.started = true
  joined : s.main = .gone → s.producer.pc = .idle ∨ s.producer.pc = .exited

/-- A thread that has not begun or has ended takes no step of its own. -/
theorem ProducerStep.awake {sys : Setup} {s t : State} (step : ProducerStep sys s t)
    (still : s.producer.pc = .idle ∨ s.producer.pc = .exited) :
    .producer ∈ s.spaceAvailable := by
  cases step with
  | own p moved => rcases still with at_ | at_ <;> simp [moved.not_idle, moved.unfinished] at at_
  | wakeForSpace asleep => exact asleep
  | _ => simp_all

theorem ProducerStep.places {sys : Setup} {s t : State} (step : ProducerStep sys s t)
    (waits : .producer ∈ s.spaceAvailable → s.producer.pc.Waits) (known : s.Places) :
    t.Places := by
  obtain ⟨past, begun, joined⟩ := known
  -- A producer that has been joined takes no step.
  have alive : s.main ≠ .gone := by
    intro gone
    have waiting := waits (step.awake (joined gone))
    rcases joined gone with at_ | at_ <;> simp [at_, ProducerPc.Waits] at waiting
  have joined {t : State} (still : t.main = s.main) :
      t.main = .gone → t.producer.pc = .idle ∨ t.producer.pc = .exited :=
    fun gone => absurd (still ▸ gone) alive
  cases step with
  | own p moved =>
    exact ⟨fun late => absurd late (by simp [moved.unfinished_after]), begun, joined rfl⟩
  | sleepForSpace | wakeForSpace => exact ⟨past, begun, joined rfl⟩
  | finish => exact ⟨fun _ => rfl, begun, joined rfl⟩
  | notifyFinished at_ => exact ⟨fun _ => past (Or.inl at_), begun, joined rfl⟩
  | _ => exact ⟨by simp [State.goto], begun, joined rfl⟩

theorem MainStep.places {sys : Setup} {s t : State} (step : MainStep sys s t)
    (known : s.Places) : t.Places := by
  obtain ⟨past, begun, joined⟩ := known
  cases step with
  | beginFirstScan => exact ⟨by simp [State.goto], fun _ => rfl, by simp⟩
  | beginScan _ _ started => exact ⟨past, fun _ => started, by simp⟩
  | sleepForRows | wakeForRows => exact ⟨past, begun, joined⟩
  | join _ ended => exact ⟨past, by simp, fun _ => ended⟩
  | _ => exact ⟨past, by simp, by simp⟩

theorem native_places (sys : Setup) (s : State) (reachable : (native sys).Reachable s) :
    s.Places := by
  refine (native sys).invariant (State.Wakeups sys) (native_wakeups sys) ?_ ?_ s reachable
  · rintro _ rfl
    exact ⟨by simp, by simp, by simp⟩
  · intro s t wakeups known next
    cases next with
    | interrupt => exact ⟨known.past, known.begun, known.joined⟩
    | producer t step => exact step.places wakeups.producerWaits known
    | main t step => exact step.places known

/-- A thread can take a step that is not idle, and that orderly runs take. -/
def State.Works (sys : Setup) (s : State) : Prop :=
  ∃ t, ((native sys).restrict Orderly).step s t ∧ ¬Idle s t

section Works

variable {sys : Setup} {s : State}

theorem State.works_main {t : State} (step : MainStep sys s t) (moved : t.main ≠ s.main)
    (calls : s.main ≠ .between (some 0) ∨ t.main ≠ .scanning)
    (still : t.producer = s.producer) : s.Works sys := by
  refine ⟨t, ⟨.main t step, ?_, ?_⟩, fun idle => moved (by rw [idle])⟩
  · intro at_ lines
    rw [still, at_] at lines
    cases lines
  · intro last
    exact calls.resolve_left (not_not.mpr last)

theorem State.works_producer {t : State} (step : ProducerStep sys s t)
    (moved : t.producer ≠ s.producer) (still : t.main = s.main)
    (pieces : s.producer.pc = .receiving → t.producer.pc = .lines 0 →
      t.producer.remaining ≠ s.producer.remaining) : s.Works sys := by
  refine ⟨t, ⟨.producer t step, pieces, ?_⟩, fun idle => moved (by rw [idle])⟩
  intro last
  rw [still, last]
  simp

/-- A move of the producer's own to another position. -/
theorem State.works_own {q : Producer} (step : LocalStep sys s.producer q)
    (moved : q.pc ≠ s.producer.pc) (elsewhere : s.producer.pc ≠ .receiving) : s.Works sys :=
  works_producer (.own q step) (fun same => moved (congrArg Producer.pc same)) rfl
    fun at_ => absurd at_ elsewhere

/-- A step of the producer on the shared state, to another position. -/
theorem State.works_shared {t : State} (step : ProducerStep sys s t)
    (moved : t.producer.pc ≠ s.producer.pc) (still : t.main = s.main)
    (elsewhere : s.producer.pc ≠ .receiving) : s.Works sys :=
  works_producer step (fun same => moved (congrArg Producer.pc same)) still
    fun at_ => absurd at_ elsewhere

/-- The network has more of the response, or its end. -/
theorem State.works_receiving (at_ : s.producer.pc = .receiving) : s.Works sys := by
  by_cases all : s.producer.remaining = []
  · refine works_producer (.own _ (.complete at_ all)) ?_ rfl (by simp)
    intro same
    simpa [at_] using congrArg Producer.pc same
  · cases status : s.producer.receiver.successStatus with
    | true =>
      refine works_producer (.own _ (.content _ [] at_ status (List.append_nil _).symm)) ?_ rfl
        fun _ _ => Ne.symm all
      intro same
      simpa [at_] using congrArg Producer.pc same
    | false =>
      refine works_producer (.own _ (.errorContent _ [] at_ status (List.append_nil _).symm)) ?_
        rfl fun _ _ => Ne.symm all
      intro same
      exact all (congrArg Producer.remaining same).symm

theorem State.works_advances (own : s.producer.Advances sys)
    (elsewhere : s.producer.pc ≠ .receiving) : s.Works sys := by
  obtain ⟨q, step, _, less⟩ := own
  refine works_producer (.own q step) (fun same => ?_) rfl fun at_ => absurd at_ elsewhere
  exact absurd (congrArg Producer.left same) (ne_of_lt less)

/-- A producer that has begun and not ended can move, unless it waits for space. -/
theorem State.works_running (begun : s.producer.pc ≠ .idle) (running : s.producer.pc ≠ .exited)
    (waits : s.producer.pc.Waits → .producer ∉ s.spaceAvailable ∧
      (s.cancelled = true ∨ s.interrupted = true ∨ s.buffer.length < sys.capacity)) :
    s.Works sys := by
  cases at_ : s.producer.pc with
  | idle => exact absurd at_ begun
  | exited => exact absurd at_ running
  | attemptTop =>
    cases flag : s.interrupted with
    | true =>
      exact works_shared (.interruptSeen at_ flag) (by simp [State.goto, at_]) rfl (by simp [at_])
    | false => exact works_shared (.interruptUnseen at_ flag) (by simp [at_]) rfl (by simp [at_])
  | connect =>
    exact works_shared (.getConnection at_) (by simp [State.goto, at_]) rfl (by simp [at_])
  | ready => exact works_shared (.beginSend at_) (by simp [State.goto, at_]) rfl (by simp [at_])
  | awaiting => exact works_own (.head at_) (by simp [at_]) (by simp [at_])
  | receiving => exact works_receiving at_
  | lines => exact works_advances (Producer.advances_lines at_) (by simp [at_])
  | events => exact works_advances (Producer.advances_events at_) (by simp [at_])
  | exported => exact works_advances (Producer.advances_exported at_) (by simp [at_])
  | wait row rest resume =>
    obtain ⟨awake, reason⟩ := waits (by simp [at_, ProducerPc.Waits])
    by_cases stop : s.cancelled = true ∨ s.interrupted = true
    · exact works_shared (.drop row rest resume at_ awake stop) (by simp [at_]) rfl (by simp [at_])
    · -- Neither flag is set, so there is room.
      obtain ⟨kept, calm⟩ := not_or.mp stop
      have room := (reason.resolve_left kept).resolve_left calm
      exact works_shared (.push row rest resume at_ awake (Bool.eq_false_iff.mpr kept)
        (Bool.eq_false_iff.mpr calm) room) (by simp [at_]) rfl (by simp [at_])
  | notifyRows rest resume =>
    obtain ⟨sleepers, notified, _⟩ := NotifyOne.exists s.rowsAvailable
    exact works_shared (.notifyRow rest resume sleepers at_ notified) (by simp [State.goto, at_])
      rfl (by simp [at_])
  | sent result =>
    cases decided : afterSend (ε := SearchError) sys.client s.producer.attempt
        s.producer.receiver result with
    | «return» =>
      exact works_shared (.returned result at_ decided) (by simp [State.goto, at_]) rfl
        (by simp [at_])
    | throw error =>
      exact works_shared (.threw result error at_ decided) (by simp [State.goto, at_]) rfl
        (by simp [at_])
    | retry delay =>
      exact works_shared (.retried result delay at_ decided) (by simp [State.goto, at_]) rfl
        (by simp [at_])
  | backoff delay => exact works_own (.backoffOver delay at_) (by simp [at_]) (by simp [at_])
  | failed error => exact works_shared (.caught error at_) (by simp [at_]) rfl (by simp [at_])
  | finishing => exact works_shared (.finish at_) (by simp [State.goto, at_]) rfl (by simp [at_])
  | notifyFinished =>
    exact works_shared (.notifyFinished at_) (by simp [State.goto, at_]) rfl (by simp [at_])

/-- In a scan call: it can return or throw, or the producer can move. -/
theorem State.works_scanning (started : s.ProducerInv sys) (known : s.Wakeups sys)
    (places : s.Places) (main : s.main = .scanning) : s.Works sys := by
  have begun : s.producer.pc ≠ .idle := by
    intro idle
    simpa [places.begun main] using started.idle.mpr idle
  -- Nobody is about to notify the producer, so it is awake if there is room.
  have awake (empty : s.buffer = []) : .producer ∉ s.spaceAvailable := by
    intro asleep
    have room : s.buffer.length < sys.capacity := by
      simp [empty, Setup.capacity, sys.vectorSize_pos]
    simpa [main, MainPc.NotifiesSpace] using known.space asleep (Or.inl room)
  by_cases asleep : .scan ∈ s.rowsAvailable
  · by_cases reason : s.buffer ≠ [] ∨ s.finished = true ∨ s.error ≠ none
    · -- The notification is ahead of the producer.
      have notifies := known.rows asleep reason
      refine works_running begun ?_ fun waits => absurd notifies waits.not_notifies
      intro at_
      simp [at_, ProducerPc.NotifiesRows] at notifies
    · simp only [not_or, not_not] at reason
      refine works_running begun ?_ fun _ => ⟨awake reason.1, Or.inr (Or.inr ?_)⟩
      · exact fun at_ => reason.2.1 (places.past (Or.inr at_))
      · simp [reason.1, Setup.capacity, sys.vectorSize_pos]
  · cases clean : s.error with
    | some error =>
      exact works_main (.rethrow error main asleep clean) (by simp [main]) (by simp) rfl
    | none =>
      by_cases some_ : s.buffer ≠ [] ∨ s.finished = true
      · exact works_main (.drain main asleep clean some_) (by simp [main]) (by simp) rfl
      · simp only [not_or, not_not] at some_
        refine works_running begun ?_ fun _ => ⟨awake some_.1, Or.inr (Or.inr ?_)⟩
        · exact fun at_ => some_.2 (places.past (Or.inr at_))
        · simp [some_.1, Setup.capacity, sys.vectorSize_pos]

/-- In the destructor's `join`: the producer has ended, or it can move. -/
theorem State.works_joining (known : s.Wakeups sys) (main : s.main = .joining) :
    s.Works sys := by
  by_cases gone : s.producer.pc = .idle ∨ s.producer.pc = .exited
  · exact works_main (.join main gone) (by simp [main]) (by simp) rfl
  · obtain ⟨begun, running⟩ := not_or.mp gone
    have cancelled := known.ending (by simp [main, MainPc.Ending])
    refine works_running begun running fun _ => ⟨fun asleep => ?_, Or.inl cancelled⟩
    simpa [main, MainPc.NotifiesSpace] using known.space asleep (Or.inr cancelled)

end Works

/-- Until the scan's state has been destroyed, some thread has work to do that needs neither a
spurious wake-up nor the end of a timed wait. -/
theorem native_never_stuck (sys : Setup) (s : State) (reachable : (native sys).Reachable s)
    (alive : s.main ≠ .gone) : s.Works sys := by
  have started := native_producerInv sys s reachable
  have known := native_wakeups sys s reachable
  cases main : s.main with
  | gone => exact absurd main alive
  | scanning => exact State.works_scanning started known (native_places sys s reachable) main
  | joining => exact State.works_joining known main
  | between last =>
    exact State.works_main (.destroy (Or.inl ⟨last, main⟩)) (by simp [main]) (by simp) rfl
  | threw error =>
    exact State.works_main (.destroy (Or.inr ⟨error, main⟩)) (by simp [main]) (by simp) rfl
  | drained count =>
    obtain ⟨sleepers, notified, _⟩ := NotifyOne.exists s.spaceAvailable
    exact State.works_main (.drainedNotify count sleepers main notified) (by simp [main])
      (by simp) rfl
  | interruptNotify =>
    exact State.works_main (.interruptNotify main) (by simp [main]) (by simp) rfl
  | interruptCancel =>
    exact State.works_main (.interruptCancel main) (by simp [main]) (by simp) rfl
  | destroyNotify => exact State.works_main (.destroyNotify main) (by simp [main]) (by simp) rfl
  | destroyCancel => exact State.works_main (.destroyCancel main) (by simp [main]) (by simp) rfl

theorem Step.work {sys : Setup} {s t : State} (step : Step sys s t)
    (started : s.ProducerInv sys) (orderly : Orderly s t) :
    Idle s t ∨ t.work sys.client < s.work sys.client := by
  cases step with
  | interrupt => exact Or.inl rfl
  | producer t step => exact step.work orderly
  | main t step => exact step.work started orderly

/-- Every run in which the network hands over content in pieces that are not empty, and no
scan is called behind the end of the data, ends in the destructor with the producer joined,
unless it idles for ever while a thread has work to do. -/
theorem native_ends (sys : Setup) (run : Nat → State)
    (runs : ((native sys).restrict Orderly).Run run)
    (fair : ((native sys).restrict Orderly).Fair Idle run) :
    ∃ n, (run n).main = .gone := by
  refine runs.ends (P := fun s => s.main = .gone) (State.work sys.client)
    (fun _ _ idle => idle.work) ?_ fair ?_
  · rintro s t reachable ⟨step, orderly⟩
    exact step.work (native_producerInv sys s reachable.of_restrict) orderly
  · intro s reachable alive
    exact native_never_stuck sys s reachable.of_restrict alive

/-- One step after the destructor. -/
theorem Step.gone {sys : Setup} {s t : State} (reachable : (native sys).Reachable s)
    (gone : s.main = .gone) (step : Step sys s t) : t = { s with interrupted := true } := by
  have known := native_wakeups sys s reachable
  have still := (native_places sys s reachable).joined gone
  cases step with
  | interrupt => rfl
  | producer t step =>
    have waits := known.producerWaits (step.awake still)
    rcases still with at_ | at_ <;> simp [at_, ProducerPc.Waits] at waits
  | main t step =>
    cases step with
    | wakeForRows asleep => simp [known.scanWaits asleep] at gone
    | _ => simp_all

/-- Once the destructor has returned, no thread reads or writes the scan's state: only the
query's interrupt flag may still change. -/
theorem native_gone_untouched (sys : Setup) (s t : State)
    (reachable : (native sys).Reachable s) (gone : s.main = .gone)
    (run : (native sys).Steps s t) :
    t = { s with interrupted := t.interrupted } ∧
      (s.producer.pc = .idle ∨ s.producer.pc = .exited) := by
  refine ⟨?_, (native_places sys s reachable).joined gone⟩
  refine (native sys).stable (P := fun t => t = { s with interrupted := t.interrupted })
    ((native sys).Reachable) (fun _ known => known) ?_ reachable rfl run
  intro u v known same step
  rw [Step.gone known (by rw [same]; exact gone) step, same]

theorem Orderly.elsewhere {s t : State} (sending : s.producer.pc ≠ .receiving)
    (open_ : s.main ≠ .between (some 0)) : Orderly s t :=
  ⟨fun at_ => absurd at_ sending, fun last => absurd last open_⟩

/-- A scan that is interrupted at once, throws, and is destroyed. -/
theorem interrupted_scan_gone : ∃ s, ((native oneRecordSetup).restrict Orderly).Reachable s ∧
    s.main = .gone ∧ s.interrupted = true := by
  have start : ((native oneRecordSetup).restrict Orderly).Reachable {} :=
    TransitionSystem.reachable_init _ rfl
  have scan := start.step ⟨.main _ (.beginFirstScan none rfl rfl), .elsewhere nofun nofun⟩
  have interrupted := scan.step ⟨.interrupt, .elsewhere nofun nofun⟩
  have seen := interrupted.step ⟨.producer _ (.interruptSeen rfl rfl), .elsewhere nofun nofun⟩
  have caught := seen.step ⟨.producer _ (.caught _ rfl), .elsewhere nofun nofun⟩
  have finished := caught.step ⟨.producer _ (.finish rfl), .elsewhere nofun nofun⟩
  have exited := finished.step ⟨.producer _ (.notifyFinished rfl), .elsewhere nofun nofun⟩
  have threw := exited.step
    ⟨.main _ (.rethrow _ rfl (by decide) rfl), .elsewhere nofun nofun⟩
  have destroyed := threw.step
    ⟨.main _ (.destroy (Or.inr ⟨_, rfl⟩)), .elsewhere nofun nofun⟩
  have notified := destroyed.step ⟨.main _ (.destroyNotify rfl), .elsewhere nofun nofun⟩
  have cancelled := notified.step ⟨.main _ (.destroyCancel rfl), .elsewhere nofun nofun⟩
  have joined := cancelled.step
    ⟨.main _ (.join rfl (Or.inr rfl)), .elsewhere nofun nofun⟩
  exact ⟨_, joined, rfl, rfl⟩

/-- A run that ends up in a destroyed scan is fair: nothing is left to be done. -/
theorem fair_of_gone {sys : Setup} {s : State} {run : Nat → State} {N : Nat}
    (reachable : (native sys).Reachable s) (gone : s.main = .gone)
    (past : ∀ n, N ≤ n → run n = s) : ((native sys).restrict Orderly).Fair Idle run := by
  intro n
  refine ⟨max n N, by omega, Or.inr ?_⟩
  rw [past _ (by omega)]
  intro t step
  rw [Step.gone reachable gone step.1]
  rfl

/-- A destroyed scan of an interrupted query stays as it is. -/
theorem gone_stays (sys : Setup) {s : State} (gone : s.main = .gone)
    (flag : s.interrupted = true) : ((native sys).restrict Orderly).step s s := by
  refine ⟨?_, fun at_ lines => ?_, by simp [gone]⟩
  · have step : Step sys s { s with interrupted := true } := .interrupt
    rwa [show { s with interrupted := true } = s by rw [← flag]] at step
  · simp [at_] at lines

/-- The destroyed scan stays as it is, and the run to there is a fair one. -/
theorem native_ends_interrupted : ∃ run, ((native oneRecordSetup).restrict Orderly).Run run ∧
    ∃ n, (run n).main = .gone := by
  obtain ⟨s, reachable, gone, flag⟩ := interrupted_scan_gone
  obtain ⟨run, runs, N, past⟩ := reachable.stays (gone_stays oneRecordSetup gone flag)
  exact ⟨run, runs, native_ends oneRecordSetup run runs
    (fair_of_gone reachable.of_restrict gone past)⟩

/-- What the destructor has left of that scan stays. -/
theorem native_gone_untouched_interrupted : ∃ s, s.main = .gone ∧
    ∀ t, (native oneRecordSetup).Steps s t → t.buffer = s.buffer ∧ t.error = s.error := by
  obtain ⟨s, reachable, gone, _⟩ := interrupted_scan_gone
  refine ⟨s, gone, fun t run => ?_⟩
  rw [(native_gone_untouched oneRecordSetup s t reachable.of_restrict gone run).1]
  exact ⟨rfl, rfl⟩

end SplunkLogs
