import Mathlib.Data.Prod.Lex
import SplunkLogs.Properties.Completion

/-!
# Undisturbed scans

A scan that is neither interrupted nor cancelled, and whose first request gets its whole
response, can always be run to its end. There it has either returned the rows of the
reference reading or thrown its search error.
-/
namespace SplunkLogs

open Foundation (NotifyOne TransitionSystem findFrom findFrom_some slice)

/-- No interrupt, no cancellation and no failure of the network in this step. -/
structure Undisturbed (_ t : State) : Prop where
  calm : t.interrupted = false
  kept : t.cancelled = false
  transferred : ∀ error, t.producer.pc = .sent (.failed error) →
    t.producer.receiver.stoppedByConsumer = true

/-- What a scan run to exhaustion has come to. -/
def State.result (s : State) : Option (Except (ClientError SearchError) (List Row)) :=
  match s.main with
  | .between (some 0) => some (.ok s.delivered)
  | .threw error => some (.error error)
  | _ => none

/-- An undisturbed scan makes one attempt, gives up no row and throws search errors only. -/
structure State.Smooth (s : State) : Prop where
  undisturbed : Undisturbed s s
  attempt : s.producer.attempt = 0
  dropped : s.producer.dropped = false
  advancing : ∀ delay, s.producer.pc ≠ .backoff delay
  failed : ∀ error, s.producer.pc = .failed error → ∃ found, error = .consumer found
  thrown : ∀ error, s.producer.thrown = some error → ∃ found, error = .consumer found
  threw : ∀ error, s.main = .threw error → s.error = some error
  unstarted : s.started = false → ∃ last, s.main = .between last
  past : s.producer.pc = .notifyFinished ∨ s.producer.pc = .exited → s.finished = true

theorem LocalStep.smooth {sys : Setup} {p q : Producer} (step : LocalStep sys p q)
    (advancing : ∀ delay, p.pc ≠ .backoff delay) :
    q.attempt = p.attempt ∧ (∀ delay, q.pc ≠ .backoff delay) ∧
      ∀ error, q.pc = .failed error → ∃ found, error = .consumer found := by
  cases step <;> simp_all

theorem LocalStep.unfinished_after {sys : Setup} {p q : Producer} (step : LocalStep sys p q) :
    q.pc ≠ .notifyFinished ∧ q.pc ≠ .exited := by
  cases step <;> simp_all

/-- The one request of an undisturbed scan is taken as it is. -/
theorem State.Smooth.returns {sys : Setup} {s : State} (smooth : s.Smooth)
    (known : s.producer.Inv sys) (success : (sys.server 0).1.success = true)
    {result : SendResult} (at_ : s.producer.pc = .sent result) :
    afterSend (ε := SearchError) sys.client s.producer.attempt s.producer.receiver result =
      .return := by
  obtain ⟨_, _, _, reading⟩ := known.reads
  simp only [Reading, at_] at reading
  cases stopped : s.producer.receiver.stoppedByConsumer with
  | true => exact if_pos stopped
  | false =>
    have running := reading.2 stopped
    cases result with
    | failed error =>
      -- Nothing but a stop of the consumer ends an undisturbed transfer early.
      have stop := smooth.undisturbed.transferred error at_
      simp [stopped] at stop
    | response head =>
      rw [smooth.attempt] at running
      exact afterSend_success stopped (running.1 ▸ success)

theorem ProducerStep.smooth {sys : Setup} {s t : State} (step : ProducerStep sys s t)
    (known : s.producer.Inv sys) (flags : s.Flags)
    (success : (sys.server 0).1.success = true) (smooth : s.Smooth)
    (undisturbed : Undisturbed s t) : t.Smooth := by
  have returns {result : SendResult} (at_ : s.producer.pc = .sent result) :=
    smooth.returns known success at_
  obtain ⟨⟨calm, kept, _⟩, attempt, dropped, advancing, failed, thrown, threw, unstarted, past⟩ :=
    smooth
  have undisturbed : Undisturbed t t := ⟨undisturbed.1, undisturbed.2, undisturbed.3⟩
  cases step with
  | own p moved =>
    obtain ⟨same, advances, failures⟩ := moved.smooth advancing
    obtain ⟨_, given, threwSame, _⟩ := moved.history
    exact ⟨undisturbed, same.trans attempt, given.trans dropped, advances, failures,
      fun error found => thrown error (threwSame ▸ found), threw, unstarted,
      fun late => absurd late (by simp [moved.unfinished_after])⟩
  | interruptSeen _ seen => simp [calm] at seen
  | backoffInterrupted delay at_ => exact absurd at_ (advancing delay)
  | threw result error at_ decided => simp [returns at_] at decided
  | retried result delay at_ decided => simp [returns at_] at decided
  | drop row rest resume at_ awake stop => simp [calm, kept] at stop
  | caught error at_ =>
    obtain ⟨found, rfl⟩ := failed error at_
    refine ⟨undisturbed, attempt, dropped, by simp, by simp, ?_, ?_, unstarted, by simp⟩
    · rintro _ ⟨⟩
      exact ⟨found, rfl⟩
    · -- No exception has left the scan before, since none was kept.
      intro error outside
      have early : s.producer.pc.ended = false := by rw [at_]; rfl
      have none_ := (flags.thrown kept).symm.trans (known.unthrown early)
      simp [none_] at threw
      exact absurd outside (threw error)
  | sleepForSpace | wakeForSpace =>
    exact ⟨undisturbed, attempt, dropped, advancing, failed, thrown, threw, unstarted, past⟩
  | finish at_ =>
    exact ⟨undisturbed, attempt, dropped, by simp [State.goto], by simp [State.goto], thrown,
      threw, unstarted, fun _ => rfl⟩
  | notifyFinished at_ =>
    exact ⟨undisturbed, attempt, dropped, by simp [State.goto], by simp [State.goto], thrown,
      threw, unstarted, fun _ => past (Or.inl at_)⟩
  | _ =>
    exact ⟨undisturbed, attempt, dropped, by simp [State.goto], by simp [State.goto], thrown,
      threw, unstarted, by simp [State.goto]⟩

theorem MainStep.smooth {sys : Setup} {s t : State} (step : MainStep sys s t)
    (ending : s.main.Ending → s.cancelled = true) (smooth : s.Smooth)
    (undisturbed : Undisturbed s t) : t.Smooth := by
  obtain ⟨⟨_, kept, _⟩, attempt, dropped, advancing, failed, thrown, threw, unstarted, past⟩ :=
    smooth
  have undisturbed : Undisturbed t t := ⟨undisturbed.1, undisturbed.2, undisturbed.3⟩
  cases step with
  | beginFirstScan last at_ fresh =>
    exact ⟨undisturbed, attempt, dropped, by simp [State.goto], by simp [State.goto], thrown,
      by simp, by simp, by simp [State.goto]⟩
  | wakeForRows =>
    exact ⟨undisturbed, attempt, dropped, advancing, failed, thrown, threw, unstarted, past⟩
  | sleepForRows =>
    exact ⟨undisturbed, attempt, dropped, advancing, failed, thrown, threw, unstarted, past⟩
  | rethrow error at_ awake found =>
    refine ⟨undisturbed, attempt, dropped, advancing, failed, thrown, ?_, fun fresh => ?_, past⟩
    · rintro _ ⟨⟩
      exact found
    · simpa [at_] using unstarted fresh
  | drainedNotify count =>
    exact ⟨undisturbed, attempt, dropped, advancing, failed, thrown, by simp,
      fun _ => ⟨_, rfl⟩, past⟩
  | interruptSeen | destroy => cases undisturbed.kept
  | interruptCancel at_ =>
    have cancelled := ending (by simp [at_, MainPc.Ending])
    simp [kept] at cancelled
  | _ =>
    exact ⟨undisturbed, attempt, dropped, advancing, failed, thrown, by simp, by simp_all, past⟩

section Undisturbed

variable {sys : Setup} (success : (sys.server 0).1.success = true)
include success

theorem undisturbed_smooth (s : State)
    (reachable : ((native sys).restrict Undisturbed).Reachable s) : s.Smooth := by
  refine ((native sys).restrict Undisturbed).invariant ((native sys).Reachable)
    (fun _ known => known.of_restrict) ?_ ?_ s reachable
  · rintro _ rfl
    exact ⟨⟨rfl, rfl, by simp⟩, rfl, rfl, by simp, by simp, by simp, by simp,
      fun _ => ⟨_, rfl⟩, by simp⟩
  · rintro s t known smooth ⟨step, undisturbed⟩
    have producer := native_producerInv sys s known
    cases step with
    | interrupt => cases undisturbed.calm
    | producer t step =>
      exact step.smooth producer.inv (native_flags sys s known) success smooth undisturbed
    | main t step => exact step.smooth (native_wakeups sys s known).ending smooth undisturbed

/-- At its end an undisturbed scan has come to the reference reading. -/
theorem undisturbed_result (s : State)
    (reachable : ((native sys).restrict Undisturbed).Reachable s)
    {result : Except (ClientError SearchError) (List Row)} (ended : s.result = some result) :
    result = (reference sys.input (sys.server 0).2).result := by
  have whole := reachable.of_restrict
  have smooth := undisturbed_smooth success s reachable
  have same : expected sys s.producer = reference sys.input (sys.server 0).2 := by
    rw [expected, smooth.attempt]
  rw [← same]
  unfold State.result at ended
  split at ended
  next returned =>
    rw [(zero_rows_reads_all sys s whole returned smooth.dropped).2.1]
    exact (Option.some.inj ended).symm
  next error threw =>
    -- The scan rethrows what the producer threw, which is the error of the reading.
    have thrown : s.producer.thrown = some error :=
      ((native_flags sys s whole).thrown smooth.undisturbed.kept).trans (smooth.threw error threw)
    obtain ⟨found, rfl⟩ := smooth.thrown error thrown
    have inv := (native_producerInv sys s whole).inv
    obtain ⟨_, _, complete, reading⟩ := inv.reads
    have past : Reading.Over sys s.producer (expected sys s.producer) := by
      rw [← complete smooth.dropped]
      cases at_ : s.producer.pc with
      | finishing | notifyFinished | exited => simpa only [Reading, at_] using reading
      | _ => simp [inv.unthrown (by rw [at_]; rfl)] at thrown
    rw [(past.2 _ thrown).2 found rfl]
    exact (Option.some.inj ended).symm
  · cases ended

end Undisturbed

/-- The positions of the producer, counted from the last one. -/
@[simp] def ProducerPc.stage : ProducerPc → Nat
  | .exited => 0
  | .notifyFinished => 1
  | .finishing => 2
  | .failed _ => 3
  | .events _ none => 4
  | .wait _ _ none => 4
  | .notifyRows _ none => 4
  | .exported => 5
  | .sent _ => 6
  | .receiving => 7
  | .lines _ => 7
  | .events _ (some _) => 7
  | .wait _ _ (some _) => 7
  | .notifyRows _ (some _) => 7
  | .awaiting => 8
  | .ready => 9
  | .connect => 10
  | .attemptTop => 11
  | .backoff _ => 12
  | .idle => 13

/-- The text of the chunk still to be cut into lines, for a chunk of this length. -/
@[simp] def ProducerPc.textLeft (length : Nat) : ProducerPc → Nat
  | .lines start => 2 * (length - start) + 1
  | .events _ (some start) => 2 * (length - start) + 2
  | .wait _ _ (some start) => 2 * (length - start) + 2
  | .notifyRows _ (some start) => 2 * (length - start) + 2
  | _ => 0

/-- The moves left in the current record. -/
@[simp] def ProducerPc.recordLeft : ProducerPc → Nat
  | .events waiting _ => 3 * waiting.length
  | .wait _ rest _ => 3 * rest.length + 2
  | .notifyRows rest _ => 3 * rest.length + 1
  | _ => 0

/-- What is left for the producer. -/
def Producer.left (p : Producer) : Nat ×ₗ Nat ×ₗ Nat ×ₗ Nat :=
  toLex (p.pc.stage, toLex (p.remaining.length,
    toLex (p.pc.textLeft p.reader.pending.length, p.pc.recordLeft)))

theorem Producer.left_lt_stage {p q : Producer} (earlier : q.pc.stage < p.pc.stage) :
    q.left < p.left :=
  Prod.Lex.toLex_lt_toLex.mpr (Or.inl earlier)

theorem Producer.left_lt_remaining {p q : Producer} (stage : q.pc.stage = p.pc.stage)
    (shorter : q.remaining.length < p.remaining.length) : q.left < p.left :=
  Prod.Lex.toLex_lt_toLex.mpr (Or.inr ⟨stage, Prod.Lex.toLex_lt_toLex.mpr (Or.inl shorter)⟩)

theorem Producer.left_lt_chunk {p q : Producer} (stage : q.pc.stage = p.pc.stage)
    (remaining : q.remaining = p.remaining)
    (less : q.pc.textLeft q.reader.pending.length < p.pc.textLeft p.reader.pending.length ∨
      q.pc.textLeft q.reader.pending.length = p.pc.textLeft p.reader.pending.length ∧
        q.pc.recordLeft < p.pc.recordLeft) : q.left < p.left := by
  refine Prod.Lex.toLex_lt_toLex.mpr (Or.inr ⟨stage, Prod.Lex.toLex_lt_toLex.mpr
    (Or.inr ⟨congrArg List.length remaining, Prod.Lex.toLex_lt_toLex.mpr less⟩)⟩)

/-- What is left for the scan calls, with this many rows in the buffer. -/
def MainPc.left (rows : Nat) : MainPc → Nat
  | .between (some 0) => 0
  | .drained 0 => 1
  | .scanning => 4 * rows + 2
  | .between _ => 4 * rows + 3
  | .drained _ => 4 * rows + 4
  | _ => 0

/-- What is left for all: the producer's moves first, then those of the scan calls and the
sleepers. -/
def State.left (s : State) : (Nat ×ₗ Nat ×ₗ Nat ×ₗ Nat) ×ₗ Nat :=
  toLex (s.producer.left,
    s.main.left s.buffer.length + s.spaceAvailable.card + s.rowsAvailable.card)

/-- The producer is not waiting for another thread. -/
def State.Runs (sys : Setup) (s : State) : Prop :=
  match s.producer.pc with
  | .idle => False
  | .exited => False
  | .wait _ _ _ => .producer ∉ s.spaceAvailable ∧ s.buffer.length < sys.capacity
  | _ => True

/-- A move of the producer's own, none of a transfer that fails, brings it closer to its end. -/
def Producer.Advances (sys : Setup) (p : Producer) : Prop :=
  ∃ q, LocalStep sys p q ∧
    (∀ error, q.pc = .sent (.failed error) → q.receiver.stoppedByConsumer = true) ∧
    q.left < p.left

section Advances

variable {sys : Setup} {p : Producer}

/-- In the loop over `pending`: the next line is read, or the chunk is done with. -/
theorem Producer.advances_lines {start : Nat} (at_ : p.pc = .lines start) : p.Advances sys := by
  cases limit : p.reader.limitReached with
  | true =>
    refine ⟨_, .chunkRefused start at_ limit, by simp, ?_⟩
    exact left_lt_stage (by simp [at_])
  | false =>
    cases found : findFrom newline p.reader.pending start with
    | none =>
      refine ⟨_, .chunkTaken start at_ limit found, by simp, ?_⟩
      exact left_lt_chunk (by simp [at_]) rfl (by simp [at_])
    | some stop =>
      obtain ⟨after, before, _, _⟩ := findFrom_some found
      cases parsed : parseExportLine sys.input.env (slice p.reader.pending start stop) with
      | ok events =>
        refine ⟨_, .line start stop events at_ limit found parsed, by simp, ?_⟩
        refine left_lt_chunk (by simp [at_]) rfl (Or.inl ?_)
        simp only [at_, ProducerPc.textLeft]
        omega
      | error error =>
        refine ⟨_, .lineError start stop error at_ limit found parsed, by simp, ?_⟩
        exact left_lt_stage (by simp [at_])

/-- In a record: the next event is skipped, mapped or refused, or the record is done with. -/
theorem Producer.advances_events {events : List Json} {resume : Option Nat}
    (at_ : p.pc = .events events resume) : p.Advances sys := by
  cases events with
  | nil =>
    cases resume with
    | none =>
      refine ⟨_, .tailDone at_, by simp, ?_⟩
      exact left_lt_stage (by simp [at_])
    | some start =>
      refine ⟨_, .lineDone start at_, by simp, ?_⟩
      exact left_lt_chunk (by simp [at_]) rfl (by simp [at_])
  | cons event rest =>
    cases limit : p.reader.limitReached with
    | true =>
      refine ⟨_, .skipEvent event rest resume at_ limit, by simp, ?_⟩
      cases resume <;> exact left_lt_chunk (by simp [at_]) rfl (by simp [at_])
    | false =>
      by_cases full : 0 < sys.input.cap ∧ sys.input.cap ≤ p.reader.produced
      · refine ⟨_, .capReached event rest resume at_ limit full, by simp, ?_⟩
        cases resume <;> exact left_lt_chunk (by simp [at_]) rfl (by simp [at_])
      · refine ⟨_, .mapRow event rest resume at_ limit full, by simp, ?_⟩
        cases resume <;> exact left_lt_chunk (by simp [at_]) rfl (by simp [at_]; omega)

/-- Behind `ExportSearch`: the tail is read, if there is one. -/
theorem Producer.advances_exported (at_ : p.pc = .exported) : p.Advances sys := by
  by_cases nothing : p.reader.limitReached = true ∨ p.reader.pending = []
  · refine ⟨_, .noTail at_ nothing, by simp, ?_⟩
    exact left_lt_stage (by simp [at_])
  · obtain ⟨running, some_⟩ := not_or.mp nothing
    rw [Bool.not_eq_true] at running
    cases parsed : parseExportLine sys.input.env p.reader.pending with
    | ok events =>
      refine ⟨_, .tailLine events at_ running some_ parsed, by simp, ?_⟩
      exact left_lt_stage (by simp [at_])
    | error error =>
      refine ⟨_, .tailError error at_ running some_ parsed, by simp, ?_⟩
      exact left_lt_stage (by simp [at_])

/-- In a successful response: all that is left of the body may come at once. -/
theorem Producer.advances_receiving (at_ : p.pc = .receiving)
    (success : p.receiver.successStatus = true) : p.Advances sys := by
  by_cases all : p.remaining = []
  · refine ⟨_, .complete at_ all, by simp, ?_⟩
    exact left_lt_stage (by simp [at_])
  · refine ⟨_, .content p.remaining [] at_ success (by simp), by simp, ?_⟩
    have some_ := List.length_pos_iff.mpr all
    exact left_lt_remaining (by simp [at_]) (by simpa using some_)

end Advances

/-- An undisturbed producer that can run comes closer to its end. -/
theorem State.Smooth.advances {sys : Setup} {s : State} (smooth : s.Smooth)
    (known : s.producer.Inv sys) (success : (sys.server 0).1.success = true)
    (runs : s.Runs sys) :
    ∃ t, ProducerStep sys s t ∧ Undisturbed s t ∧ t.producer.left < s.producer.left := by
  have returns {result : SendResult} (at_ : s.producer.pc = .sent result) :=
    smooth.returns known success at_
  obtain ⟨⟨calm, kept, _⟩, attempt, dropped, advancing, _, _, _, _⟩ := smooth
  obtain ⟨whole, _, _, reading⟩ := known.reads
  -- The producer's own moves share nothing with the other threads.
  have alone (own : s.producer.Advances sys) :
      ∃ t, ProducerStep sys s t ∧ Undisturbed s t ∧ t.producer.left < s.producer.left := by
    obtain ⟨q, moved, transferred, less⟩ := own
    exact ⟨_, .own q moved, ⟨calm, kept, transferred⟩, less⟩
  -- One case for each position of the producer: its step, and what decreases.
  cases at_ : s.producer.pc with
  | idle => simp [State.Runs, at_] at runs
  | exited => simp [State.Runs, at_] at runs
  | backoff delay => exact absurd at_ (advancing delay)
  | attemptTop =>
    refine ⟨_, .interruptUnseen at_ calm, ⟨calm, kept, by simp⟩, ?_⟩
    exact Producer.left_lt_stage (by simp [at_])
  | connect =>
    refine ⟨_, .getConnection at_, ⟨calm, kept, by simp [State.goto]⟩, ?_⟩
    exact Producer.left_lt_stage (by simp [State.goto, at_])
  | ready =>
    refine ⟨_, .beginSend at_, ⟨calm, kept, by simp [State.goto]⟩, ?_⟩
    exact Producer.left_lt_stage (by simp [State.goto, at_])
  | awaiting =>
    exact alone ⟨_, .head at_, by simp, Producer.left_lt_stage (by simp [at_])⟩
  | receiving =>
    simp only [Reading, at_, attempt, success] at reading
    exact alone (Producer.advances_receiving at_ reading.2.1)
  | lines start => exact alone (Producer.advances_lines at_)
  | events events resume => exact alone (Producer.advances_events at_)
  | wait row rest resume =>
    simp only [State.Runs, at_] at runs
    refine ⟨_, .push row rest resume at_ runs.1 kept calm runs.2, ⟨calm, kept, by simp⟩, ?_⟩
    cases resume <;> exact Producer.left_lt_chunk (by simp [at_]) rfl (by simp [at_, Reader.push])
  | notifyRows rest resume =>
    obtain ⟨sleepers, notified, _⟩ := NotifyOne.exists s.rowsAvailable
    refine ⟨_, .notifyRow rest resume sleepers at_ notified,
      ⟨calm, kept, by simp [State.goto]⟩, ?_⟩
    cases resume <;> exact Producer.left_lt_chunk (by simp [State.goto, at_]) rfl
      (by simp [State.goto, at_])
  | sent result =>
    refine ⟨_, .returned result at_ (returns at_), ⟨calm, kept, by simp [State.goto]⟩, ?_⟩
    exact Producer.left_lt_stage (by simp [State.goto, at_])
  | exported => exact alone (Producer.advances_exported at_)
  | failed error =>
    refine ⟨_, .caught error at_, ⟨calm, kept, by simp⟩, ?_⟩
    exact Producer.left_lt_stage (by simp [at_])
  | finishing =>
    refine ⟨_, .finish at_, ⟨calm, kept, by simp [State.goto]⟩, ?_⟩
    exact Producer.left_lt_stage (by simp [State.goto, at_])
  | notifyFinished =>
    refine ⟨_, .notifyFinished at_, ⟨calm, kept, by simp [State.goto]⟩, ?_⟩
    exact Producer.left_lt_stage (by simp [State.goto, at_])

/-- While the producer cannot run, the scan calls come closer to the end, or wake it. -/
theorem State.Smooth.scans {sys : Setup} {s : State} (smooth : s.Smooth)
    (started : s.started = false ↔ s.producer.pc = .idle) (known : s.Wakeups sys)
    (waits : ¬s.Runs sys) (open_ : s.result = none) :
    ∃ t, Step sys s t ∧ Undisturbed s t ∧ t.left < s.left := by
  obtain ⟨⟨calm, kept, transferred⟩, _, _, _, _, _, _, unstarted, past⟩ := smooth
  have less : ∀ t : State, t.producer = s.producer →
      t.main.left t.buffer.length + t.spaceAvailable.card + t.rowsAvailable.card <
        s.main.left s.buffer.length + s.spaceAvailable.card + s.rowsAvailable.card →
      t.left < s.left := fun t same fewer =>
    Prod.Lex.toLex_lt_toLex.mpr (Or.inr ⟨congrArg Producer.left same, fewer⟩)
  -- Sleepers are woken first, which counts as progress.
  by_cases asleep : .producer ∈ s.spaceAvailable
  · refine ⟨_, .producer _ (.wakeForSpace asleep), ⟨calm, kept, transferred⟩, less _ rfl ?_⟩
    have woken := Finset.card_erase_lt_of_mem asleep
    dsimp only
    omega
  by_cases waiting : .scan ∈ s.rowsAvailable
  · refine ⟨_, .main _ (.wakeForRows waiting), ⟨calm, kept, transferred⟩, less _ rfl ?_⟩
    have woken := Finset.card_erase_lt_of_mem waiting
    dsimp only
    omega
  cases main : s.main with
  | between last =>
    cases begun : s.started with
    | false =>
      have idle := started.mp begun
      refine ⟨_, .main _ (.beginFirstScan last main begun), ⟨calm, kept, by simp [State.goto]⟩,
        Prod.Lex.toLex_lt_toLex.mpr (Or.inl ?_)⟩
      exact Producer.left_lt_stage (by simp [State.goto, idle])
    | true =>
      refine ⟨_, .main _ (.beginScan last main begun), ⟨calm, kept, transferred⟩, less _ rfl ?_⟩
      rcases last with _ | _ | count
      · simp [main, MainPc.left]
      · simp [State.result, main] at open_
      · simp [main, MainPc.left]
  | scanning =>
    cases clean : s.error with
    | some error =>
      refine ⟨_, .main _ (.rethrow error main waiting clean), ⟨calm, kept, transferred⟩,
        less _ rfl ?_⟩
      simp [main, MainPc.left]
    | none =>
      -- A producer that cannot run has filled the buffer or has finished.
      have some_ : s.buffer ≠ [] ∨ s.finished = true := by
        cases at_ : s.producer.pc with
        | idle =>
          obtain ⟨last, between⟩ := unstarted (started.mpr at_)
          simp [main] at between
        | exited => exact Or.inr (past (Or.inr at_))
        | wait row rest resume =>
          refine Or.inl fun empty => waits ?_
          simp [State.Runs, at_, asleep, empty, Setup.capacity, sys.vectorSize_pos]
        | _ => simp [State.Runs, at_] at waits
      refine ⟨_, .main _ (.drain main waiting clean some_), ⟨calm, kept, transferred⟩,
        less _ rfl ?_⟩
      have size := sys.vectorSize_pos
      cases rows : s.buffer with
      | nil => simp [main, MainPc.left]
      | cons row rest =>
        obtain ⟨more, positive⟩ := Nat.exists_eq_succ_of_ne_zero size.ne'
        simp only [main, MainPc.left, positive, List.take_succ_cons, List.drop_succ_cons,
          List.length_cons, List.length_drop]
        omega
  | drained count =>
    obtain ⟨sleepers, notified, fewer⟩ := NotifyOne.exists s.spaceAvailable
    refine ⟨_, .main _ (.drainedNotify count sleepers main notified),
      ⟨calm, kept, transferred⟩, less _ rfl ?_⟩
    cases count <;> simp only [main, MainPc.left] <;> omega
  | threw error => simp [State.result, main] at open_
  | interruptNotify | interruptCancel | destroyNotify | destroyCancel | joining | gone =>
    have cancelled := known.ending (by simp [main, MainPc.Ending])
    simp [kept] at cancelled

/-- An undisturbed scan can be run to its end from wherever it is. -/
theorem undisturbed_ends {sys : Setup} (success : (sys.server 0).1.success = true) (s : State)
    (reachable : ((native sys).restrict Undisturbed).Reachable s) :
    ∃ t, ((native sys).restrict Undisturbed).Steps s t ∧ t.result ≠ none := by
  refine ((native sys).restrict Undisturbed).reaches State.left ?_ s reachable
  intro s reachable open_
  have whole := reachable.of_restrict
  have smooth := undisturbed_smooth success s reachable
  have producer := native_producerInv sys s whole
  by_cases runs : s.Runs sys
  · obtain ⟨t, step, undisturbed, less⟩ := smooth.advances producer.inv success runs
    exact ⟨t, ⟨.producer t step, undisturbed⟩, Prod.Lex.toLex_lt_toLex.mpr (Or.inl less)⟩
  · obtain ⟨t, step, undisturbed, less⟩ := smooth.scans producer.idle
      (native_wakeups sys s whole) runs (not_not.mp open_)
    exact ⟨t, ⟨step, undisturbed⟩, less⟩

end SplunkLogs
