import SplunkLogs.Properties.Handover

/-!
# What the parser keeps

A partial line is the only text the native reader keeps from one chunk to the next, so its
buffer never outgrows one line of the response and the chunk in hand.
-/
namespace SplunkLogs

open Foundation (AtStart atStart_of_findFrom findFrom findFrom_none prefix_piece)

variable {sys : Setup} {p q : Producer}

/-- Inside `on_chunk`: `pending` is a partial line and the chunk behind it, and a line begins
at `start`. -/
def Producer.InChunk (sys : Setup) (p : Producer) (start : Nat) : Prop :=
  ∃ front line chunk,
    (sys.server p.attempt).2 = front ++ (p.reader.pending ++ p.remaining) ∧
    p.reader.pending = line ++ chunk ∧ newline ∉ line ∧ AtStart newline front ∧
    chunk.length = p.chunkLength ∧ AtStart newline (front ++ p.reader.pending.take start)

/-- `pending` is no longer than a line of the response and the last chunk. -/
def Producer.Short (sys : Setup) (p : Producer) : Prop :=
  ∃ line ∈ (sys.server p.attempt).2.splitOn newline,
    p.reader.pending.length ≤ line.length + p.chunkLength

/-- In a record of a chunk, or in that of the unterminated last line. -/
def Producer.InRecordOf (sys : Setup) (p : Producer) : Option Nat → Prop
  | some start => p.InChunk sys start
  | none => p.Short sys

/-- What `pending` holds, by the position of the producer. -/
def Producer.Pending (sys : Setup) (p : Producer) : Prop :=
  match p.pc with
  | .idle => True
  | .attemptTop => True
  | .connect => True
  | .ready => True
  | .awaiting => True
  | .backoff _ => True
  | .receiving => p.receiver.successStatus = true → ∃ front,
      (sys.server p.attempt).2 = front ++ (p.reader.pending ++ p.remaining) ∧
        AtStart newline front
  | .lines start => p.InChunk sys start
  | .events _ resume => p.InRecordOf sys resume
  | .wait _ _ resume => p.InRecordOf sys resume
  | .notifyRows _ resume => p.InRecordOf sys resume
  | _ => p.Short sys

theorem Producer.short_of_empty (nothing : p.reader.pending = []) : p.Short sys := by
  obtain ⟨line, member⟩ := List.exists_mem_of_ne_nil _
    (List.splitOn_ne_nil newline (sys.server p.attempt).2)
  exact ⟨line, member, by simp [nothing]⟩

theorem Producer.InChunk.short {start : Nat} (inside : p.InChunk sys start) : p.Short sys := by
  obtain ⟨front, line, chunk, body, pending, clean, begins, length, _⟩ := inside
  obtain ⟨whole, member, part⟩ := prefix_piece begins clean (chunk ++ p.remaining)
  refine ⟨whole, ?_, ?_⟩
  · rw [body, pending, List.append_assoc]
    exact member
  · have := part.length_le
    rw [pending, List.length_append]
    omega

/-- While the network is waited for, `pending` is the front of a line. -/
theorem Producer.Pending.line (known : p.Pending sys) (inv : p.Inv sys)
    (at_ : p.pc = .receiving) :
    ∃ line ∈ (sys.server p.attempt).2.splitOn newline, p.reader.pending <+: line := by
  obtain ⟨whole, _, _, reading⟩ := inv.reads
  simp only [Reading, at_] at reading
  simp only [Pending, at_] at known
  cases status : p.receiver.successStatus with
  | false =>
    -- An unsuccessful response leaves the reader fresh.
    obtain ⟨line, member⟩ := List.exists_mem_of_ne_nil _
      (List.splitOn_ne_nil newline (sys.server p.attempt).2)
    exact ⟨line, member, by simp [reading.2.2.2.1 status]⟩
  | true =>
    obtain ⟨front, body, begins⟩ := known status
    rw [body]
    exact prefix_piece begins (reading.2.2.2.2 status).2.1 p.remaining

theorem Producer.Pending.short (known : p.Pending sys) (inv : p.Inv sys) : p.Short sys := by
  obtain ⟨whole, _, _, reading⟩ := inv.reads
  cases at_ : p.pc with
  | receiving =>
    obtain ⟨line, member, part⟩ := known.line inv at_
    exact ⟨line, member, part.length_le.trans (Nat.le_add_right _ _)⟩
  | idle | attemptTop | backoff =>
    simp only [Reading, at_] at reading
    exact short_of_empty (by simp [reading])
  | connect | ready | awaiting =>
    simp only [Reading, at_] at reading
    exact short_of_empty (by simp [reading.1])
  | lines =>
    simp only [Pending, at_] at known
    exact known.short
  | events _ resume | wait _ _ resume | notifyRows _ resume =>
    simp only [Pending, at_] at known
    cases resume with
    | none => exact known
    | some start => exact known.short
  | _ => simpa only [Pending, at_] using known

theorem LocalStep.pending (step : LocalStep sys p q) (inv : p.Inv sys)
    (known : p.Pending sys) : q.Pending sys := by
  obtain ⟨whole, _, _, reading⟩ := inv.reads
  cases step with
  | head at_ =>
    simp only [Reading, at_] at reading
    exact fun _ => ⟨[], by simp [reading.1], Or.inl rfl⟩
  | content data rest at_ success split =>
    simp only [Reading, at_] at reading
    simp only [Producer.Pending, at_] at known
    obtain ⟨front, body, begins⟩ := known success
    refine ⟨front, p.reader.pending, data, ?_, rfl, (reading.2.2.2.2 success).2.1, begins, rfl, ?_⟩
    · rw [body, split, List.append_assoc]
    · simpa using begins
  | errorContent data rest at_ failure =>
    have status : (p.receiver.keepError data).successStatus = false := by
      unfold Receiver.keepError
      split <;> exact failure
    simp [Producer.Pending, at_, status]
  | line start stop events at_ _ found =>
    simp only [Producer.Pending, at_] at known
    obtain ⟨front, line, chunk, body, pending, clean, begins, length, _⟩ := known
    exact ⟨front, line, chunk, body, pending, clean, begins, length,
      atStart_of_findFrom front found⟩
  | chunkTaken start at_ _ exhausted =>
    -- What is kept stands behind the last newline.
    simp only [Producer.Pending, at_] at known
    obtain ⟨front, _, _, body, _, _, _, _, cut⟩ := known
    refine fun _ => ⟨front ++ p.reader.pending.take start, ?_, cut⟩
    rw [body, List.append_assoc, ← List.append_assoc (List.take _ _), List.take_append_drop]
  | chunkRefused start at_ =>
    obtain ⟨line, member, bound⟩ := known.short inv
    refine ⟨line, member, ?_⟩
    simp only [List.length_drop]
    omega
  | lineDone _ at_ | skipEvent _ _ _ at_ | capReached _ _ _ at_ | mapRow _ _ _ at_
  | tailDone at_ | tailLine _ at_ =>
    simp only [Producer.Pending, at_] at known
    exact known
  | backoffOver => trivial
  -- The other moves end the reading, and leave `pending` as it stands.
  | _ => exact known.short inv

/-- A step of the producer on the shared state leaves `pending` alone. -/
theorem ProducerStep.pending {s t : State} (step : ProducerStep sys s t)
    (inv : s.producer.Inv sys) (known : s.producer.Pending sys) : t.producer.Pending sys := by
  cases step with
  | own p moved => exact moved.pending inv known
  | push _ _ _ at_ | drop _ _ _ at_ | notifyRow _ _ _ at_ =>
    simp only [Producer.Pending, at_] at known
    exact known
  | sleepForSpace | wakeForSpace => exact known
  | interruptUnseen | getConnection | beginSend | retried => trivial
  | _ => exact known.short inv

theorem native_pending (s : State) (reachable : (native sys).Reachable s) :
    s.producer.Pending sys := by
  refine (native sys).invariant (P := fun s => s.producer.Pending sys) (State.ProducerInv sys)
    (native_producerInv sys) ?_ ?_ s reachable
  · rintro _ rfl
    trivial
  · intro s t producer known next
    cases next with
    | interrupt => exact known
    | producer t step => exact step.pending producer.inv known
    | main t step =>
      rcases step.producer with ⟨same, _⟩ | ⟨_, _, begun⟩
      · exact same ▸ known
      · rw [begun]
        trivial

/-- In every reachable state the text kept by the parser is no longer than one line of the
response and the chunk handed over last; between chunks it is the front of a line. -/
theorem native_pending_bounded (s : State) (reachable : (native sys).Reachable s) :
    (∃ line ∈ (sys.server s.producer.attempt).2.splitOn newline,
      s.producer.reader.pending.length ≤ line.length + s.producer.chunkLength) ∧
    (s.producer.pc = .receiving →
      ∃ line ∈ (sys.server s.producer.attempt).2.splitOn newline,
        s.producer.reader.pending <+: line) := by
  have inv := (native_producerInv sys s reachable).inv
  have known := native_pending s reachable
  exact ⟨known.short inv, known.line inv⟩

/-- Three bytes of a record have come: they are the front of its line. -/
theorem native_pending_bounded_partial : ∃ s : State,
    s.producer.reader.pending = oneRecord.take 3 ∧
    ∃ line ∈ (oneRecord ++ [newline]).splitOn newline,
      s.producer.reader.pending <+: line := by
  have received := (answerBegun_reachable oneRecordSetup).step (.producer _ (.own _
    (.content (oneRecord.take 3) (oneRecord.drop 3 ++ [newline]) rfl rfl rfl)))
  have taken := received.step (.producer _ (.own _ (.chunkTaken 0 rfl rfl (by decide))))
  exact ⟨_, rfl, (native_pending_bounded _ taken).2 rfl⟩

end SplunkLogs
