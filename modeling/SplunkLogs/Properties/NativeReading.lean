import SplunkLogs.Model.Native
import SplunkLogs.Properties.ChunkIndependence

/-!
# What the producer has read

At each point of its run the producer's reader, completed by the reference reading of what
is still to come, amounts to one outcome. Unless a row is given up, that outcome is the
reference reading of the response.
-/
namespace SplunkLogs

open Foundation (findFrom findFrom_none findFrom_some slice splitOn_of_findFrom)

/-- The reference reading of the response to the current attempt. -/
def expected (sys : Setup) (p : Producer) : Outcome :=
  reference sys.input (sys.server p.attempt).2

/-- What is read behind the current record: the text left in the chunk and in the network,
and nothing behind the last line. -/
def Producer.behind (sys : Setup) (p : Producer) : Option Nat → Nat → Outcome
  | some start =>
    referenceLines sys.input ((p.reader.pending.drop start ++ p.remaining).splitOn newline)
  | none => fun _ => .done

/-- A successful response is being received. -/
def Producer.Succeeding (sys : Setup) (p : Producer) : Prop :=
  p.receiver.successStatus = true ∧ (sys.server p.attempt).1.success = true ∧
    p.receiver.stoppedByConsumer = false

/-- A record belongs to a successful response; one in a chunk, to a response that has
delivered something. -/
def Producer.InRecord (sys : Setup) (p : Producer) : Option Nat → Prop
  | some _ => p.Succeeding sys ∧ 0 < p.receiver.successBytes + p.chunkLength
  | none => (sys.server p.attempt).1.success = true

/-- What the position of the producer says about `whole`, the outcome it is coming to. -/
def Reading (sys : Setup) (p : Producer) (whole : Outcome) : Prop :=
  match p.pc with
  | .idle => p.reader = {}
  | .attemptTop => p.reader = {}
  | .backoff _ => p.reader = {}
  | .connect => p.reader = {} ∧ p.receiver = { consumer := () }
  | .ready => p.reader = {} ∧ p.receiver = { consumer := () }
  | .awaiting => p.reader = {} ∧ p.receiver = { consumer := () }
  | .receiving => p.receiver.stoppedByConsumer = false ∧
      p.receiver.successStatus = (sys.server p.attempt).1.success ∧
      (p.receiver.successBytes = 0 → p.reader = {}) ∧
      (p.receiver.successStatus = false → p.reader = {}) ∧
      (p.receiver.successStatus = true → p.reader.limitReached = false ∧
        newline ∉ p.reader.pending ∧
        p.reader.account sys.input (p.reader.pending ++ p.remaining) = whole)
  | .lines start => p.Succeeding sys ∧
      (p.receiver.successBytes + p.chunkLength = 0 → p.reader = {}) ∧
      p.reader.settle (p.behind sys (some start)) = whole
  | .events events resume => p.InRecord sys resume ∧
      p.reader.settle (fun n => mapEvents sys.input (p.behind sys resume) n events) = whole
  | .wait row rest resume => p.InRecord sys resume ∧ p.reader.limitReached = false ∧
      (p.reader.push row).settle
        (fun n => mapEvents sys.input (p.behind sys resume) n rest) = whole
  | .notifyRows rest resume => p.InRecord sys resume ∧
      p.reader.settle (fun n => mapEvents sys.input (p.behind sys resume) n rest) = whole
  | .sent result =>
      (p.receiver.stoppedByConsumer = true → (sys.server p.attempt).1.success = true ∧
        p.reader.limitReached = true ∧ whole = ⟨p.reader.rows, none⟩) ∧
      (p.receiver.stoppedByConsumer = false →
        match result with
        | .failed _ => (p.receiver.successBytes = 0 → p.reader = {}) ∧
            p.reader.rows <+: whole.rows
        | .response head => head = (sys.server p.attempt).1 ∧
            (head.success = false → p.reader = {}) ∧
            (head.success = true → p.reader.limitReached = false ∧
              newline ∉ p.reader.pending ∧
              p.reader.account sys.input p.reader.pending = whole))
  | .exported => (sys.server p.attempt).1.success = true ∧
      (p.reader.limitReached = true → whole = ⟨p.reader.rows, none⟩) ∧
      (p.reader.limitReached = false → newline ∉ p.reader.pending ∧
        p.reader.account sys.input p.reader.pending = whole)
  | .failed error => p.reader.rows <+: whole.rows ∧
      ∀ found, error = .consumer found → whole = ⟨p.reader.rows, some found⟩
  | .finishing => Over sys p whole
  | .notifyFinished => Over sys p whole
  | .exited => Over sys p whole
where
  /-- The `try` block has been left. -/
  Over (sys : Setup) (p : Producer) (whole : Outcome) : Prop :=
    (p.thrown = none →
      (sys.server p.attempt).1.success = true ∧ whole = ⟨p.reader.rows, none⟩) ∧
    ∀ error, p.thrown = some error → p.reader.rows <+: whole.rows ∧
      ∀ found, error = .consumer found → whole = ⟨p.reader.rows, some found⟩

/-- Rows pushed stay at the front of what the reading comes to. -/
theorem rows_prefix_settle (reader : Reader) (next : Nat → Outcome) :
    reader.rows <+: (reader.settle next).rows := by
  simp [Reader.settle]

theorem rows_prefix_fresh {reader : Reader} (fresh : reader = {}) (whole : Outcome) :
    reader.rows <+: whole.rows := by
  subst fresh
  exact List.nil_prefix

theorem Reading.rows_prefix {sys : Setup} {p : Producer} {whole : Outcome}
    (reading : Reading sys p whole) : p.reader.rows <+: whole.rows := by
  -- The three positions behind the `try` block say the same.
  have past : Reading.Over sys p whole → p.reader.rows <+: whole.rows := by
    intro past
    cases thrown : p.thrown with
    | none => rw [(past.1 thrown).2]
    | some error => exact (past.2 error thrown).1
  cases at_ : p.pc with simp only [Reading, at_] at reading
  | idle => exact rows_prefix_fresh reading whole
  | attemptTop => exact rows_prefix_fresh reading whole
  | backoff => exact rows_prefix_fresh reading whole
  | connect => exact rows_prefix_fresh reading.1 whole
  | ready => exact rows_prefix_fresh reading.1 whole
  | awaiting => exact rows_prefix_fresh reading.1 whole
  | receiving =>
    -- An unsuccessful response leaves the reader fresh.
    obtain ⟨_, _, _, refused, streaming⟩ := reading
    cases status : p.receiver.successStatus with
    | false => exact rows_prefix_fresh (refused status) whole
    | true =>
      rw [← (streaming status).2.2]
      exact rows_prefix_settle _ _
  | lines => rw [← reading.2.2]; exact rows_prefix_settle _ _
  | events => rw [← reading.2]; exact rows_prefix_settle _ _
  | wait row =>
    -- The row in hand is not pushed yet.
    rw [← reading.2.2]
    exact (List.prefix_append _ [row]).trans (rows_prefix_settle (p.reader.push row) _)
  | notifyRows => rw [← reading.2]; exact rows_prefix_settle _ _
  | sent result =>
    cases stopped : p.receiver.stoppedByConsumer with
    | true => rw [(reading.1 stopped).2.2]
    | false =>
      have running := reading.2 stopped
      cases result with
      | failed => exact running.2
      | response head =>
        obtain ⟨_, refused, received⟩ := running
        cases success : head.success with
        | false => exact rows_prefix_fresh (refused success) whole
        | true =>
          rw [← (received success).2.2]
          exact rows_prefix_settle _ _
  | exported =>
    cases limit : p.reader.limitReached with
    | true => rw [reading.2.1 limit]
    | false =>
      rw [← (reading.2.2 limit).2]
      exact rows_prefix_settle _ _
  | failed => exact reading.1
  | finishing => exact past reading
  | notifyFinished => exact past reading
  | exited => exact past reading

/-- A producer that has read nothing comes to the reference reading of the response. -/
theorem settle_fresh (sys : Setup) {p : Producer} (fresh : p.reader = {}) :
    p.reader.account sys.input (sys.server p.attempt).2 = expected sys p := by
  rw [fresh, Reader.account_start, expected]

section Records

variable {sys : Setup} {p : Producer} {whole : Outcome}

/-- A complete line: its events are read before the text behind it. -/
theorem settle_line {start stop : Nat} {events : List Json}
    (running : p.reader.limitReached = false)
    (found : findFrom newline p.reader.pending start = some stop)
    (parsed : parseExportLine sys.input.env (slice p.reader.pending start stop) = .ok events)
    (reading : p.reader.settle (p.behind sys (some start)) = whole) :
    p.reader.settle (fun n => mapEvents sys.input (p.behind sys (some (stop + 1))) n events) =
      whole := by
  rw [← reading]
  simp only [Producer.behind, splitOn_of_findFrom found]
  rw [Reader.settle_parseLine sys.input p.reader _ _ running]
  simp only [Reader.parseLine, parsed, Reader.settle_events]

theorem settle_lineError {start stop : Nat} {error : SearchError}
    (running : p.reader.limitReached = false)
    (found : findFrom newline p.reader.pending start = some stop)
    (parsed : parseExportLine sys.input.env (slice p.reader.pending start stop) = .error error)
    (reading : p.reader.settle (p.behind sys (some start)) = whole) :
    whole = ⟨p.reader.rows, some error⟩ := by
  rw [← reading]
  simp only [Producer.behind, splitOn_of_findFrom found]
  rw [Reader.settle_parseLine sys.input p.reader _ _ running]
  simp only [Reader.parseLine, parsed]

/-- The unterminated last line. -/
theorem settle_tail {events : List Json} (running : p.reader.limitReached = false)
    (incomplete : newline ∉ p.reader.pending)
    (parsed : parseExportLine sys.input.env p.reader.pending = .ok events)
    (reading : p.reader.account sys.input p.reader.pending = whole) :
    p.reader.settle (fun n => mapEvents sys.input (p.behind sys none) n events) = whole := by
  rw [← reading, Reader.account, List.splitOn_eq_singleton incomplete,
    Reader.settle_parseLine sys.input p.reader _ _ running]
  simp only [Reader.parseLine, parsed, Reader.settle_events, Producer.behind]
  rfl

theorem settle_tailError {error : SearchError} (running : p.reader.limitReached = false)
    (incomplete : newline ∉ p.reader.pending)
    (parsed : parseExportLine sys.input.env p.reader.pending = .error error)
    (reading : p.reader.account sys.input p.reader.pending = whole) :
    whole = ⟨p.reader.rows, some error⟩ := by
  rw [← reading, Reader.account, List.splitOn_eq_singleton incomplete,
    Reader.settle_parseLine sys.input p.reader _ _ running]
  simp only [Reader.parseLine, parsed]

end Records

/-- The producer's own moves keep what it is coming to; only with a new response does that
become the reading of the new response. -/
theorem LocalStep.reading {sys : Setup} {p q : Producer} {whole : Outcome}
    (step : LocalStep sys p q) (unthrown : p.thrown = none) (reading : Reading sys p whole) :
    (q.attempt = p.attempt ∧ Reading sys q whole) ∨ Reading sys q (expected sys q) := by
  cases step with
  | refused error at_ =>
    simp only [Reading, at_] at reading
    obtain ⟨fresh, clean⟩ := reading
    exact Or.inl ⟨rfl, by simp [clean], fun _ => ⟨fun _ => fresh, rows_prefix_fresh fresh whole⟩⟩
  | head at_ =>
    simp only [Reading, at_] at reading
    obtain ⟨fresh, clean⟩ := reading
    -- A response begins: from here on the producer comes to its reading.
    refine Or.inr ⟨by simp [clean], rfl, fun _ => fresh, fun _ => fresh, fun _ => ?_⟩
    exact ⟨by simp [fresh], by simp [fresh],
      by simpa [fresh, expected] using settle_fresh sys fresh⟩
  | content data rest at_ success split =>
    simp only [Reading, at_] at reading
    obtain ⟨running, status, nothing, _, streaming⟩ := reading
    obtain ⟨_, _, accounted⟩ := streaming success
    -- The data moves from the network behind `pending`; the text in all stays the same.
    refine Or.inl ⟨rfl, ⟨success, status ▸ success, running⟩, fun none_ => ?_, ?_⟩
    · obtain ⟨noBytes, noData⟩ := Nat.add_eq_zero_iff.mp none_
      simp [nothing noBytes, List.eq_nil_of_length_eq_zero noData]
    · rw [← accounted, split, ← List.append_assoc]
      rfl
  | errorContent data rest at_ failure split =>
    simp only [Reading, at_] at reading
    obtain ⟨running, status, nothing, refused, _⟩ := reading
    have kept : (p.receiver.keepError data).stoppedByConsumer = p.receiver.stoppedByConsumer ∧
        (p.receiver.keepError data).successStatus = p.receiver.successStatus := by
      unfold Receiver.keepError
      split <;> exact ⟨rfl, rfl⟩
    refine Or.inl ⟨rfl, ?_⟩
    simp only [Reading, at_, kept, refused failure]
    simp [running, failure, status ▸ failure]
  | complete at_ all =>
    simp only [Reading, at_] at reading
    obtain ⟨running, status, _, refused, streaming⟩ := reading
    rw [all, List.append_nil] at streaming
    exact Or.inl ⟨rfl, by simp [running], fun _ => ⟨rfl,
      fun failure => refused (status.trans failure),
      fun success => streaming (status.trans success)⟩⟩
  | broken error at_ =>
    have front := reading.rows_prefix
    simp only [Reading, at_] at reading
    exact Or.inl ⟨rfl, by simp [reading.1], fun _ => ⟨reading.2.2.1, front⟩⟩
  | line start stop events at_ running found parsed =>
    simp only [Reading, at_] at reading
    obtain ⟨succeeding, nothing, settled⟩ := reading
    -- A line was found, so the chunk or those before it were not empty.
    refine Or.inl ⟨rfl, ⟨succeeding, Nat.pos_of_ne_zero fun none_ => ?_⟩,
      settle_line running found parsed settled⟩
    simp [nothing none_, findFrom] at found
  | lineError start stop error at_ running found parsed =>
    have front := reading.rows_prefix
    simp only [Reading, at_] at reading
    refine Or.inl ⟨rfl, front, ?_⟩
    rintro _ ⟨⟩
    exact settle_lineError running found parsed reading.2.2
  | chunkTaken start at_ running exhausted =>
    simp only [Reading, at_] at reading
    obtain ⟨⟨status, head, notStopped⟩, nothing, settled⟩ := reading
    refine Or.inl ⟨rfl, notStopped, status.trans head.symm, fun none_ => ?_, by simp [status],
      fun _ => ⟨running, findFrom_none exhausted, settled⟩⟩
    simp [nothing none_]
  | chunkRefused start at_ limit =>
    simp only [Reading, at_] at reading
    rw [Reader.settle_limit _ _ limit] at reading
    exact Or.inl ⟨rfl, fun _ => ⟨reading.1.2.1, limit, reading.2.2.symm⟩, by simp⟩
  | skipEvent event rest resume at_ limit =>
    simp only [Reading, at_] at reading
    rw [Reader.settle_limit _ _ limit] at reading
    exact Or.inl ⟨rfl, reading.1, (Reader.settle_limit _ _ limit).trans reading.2⟩
  | capReached event rest resume at_ running full =>
    simp only [Reading, at_] at reading
    obtain ⟨record, settled⟩ := reading
    rw [← Reader.settle_onEvent] at settled
    simp only [Reader.onEvent, running, full] at settled
    exact Or.inl ⟨rfl, record, settled⟩
  | mapRow event rest resume at_ running room =>
    simp only [Reading, at_] at reading
    obtain ⟨record, settled⟩ := reading
    rw [← Reader.settle_onEvent] at settled
    simp only [Reader.onEvent, running, room] at settled
    exact Or.inl ⟨rfl, record, running, settled⟩
  | lineDone start at_ =>
    simp only [Reading, at_] at reading
    obtain ⟨⟨succeeding, some_⟩, settled⟩ := reading
    exact Or.inl ⟨rfl, succeeding, fun none_ => absurd none_ (Nat.ne_of_gt some_), settled⟩
  | tailDone at_ =>
    simp only [Reading, at_] at reading
    refine Or.inl ⟨rfl, fun _ => ⟨reading.1, ?_⟩, by simp [unthrown]⟩
    rw [← reading.2]
    simp [Reader.settle, Producer.behind, mapEvents, Outcome.prepend, Outcome.done]
  | tailLine events at_ running nonempty parsed =>
    simp only [Reading, at_] at reading
    obtain ⟨incomplete, accounted⟩ := reading.2.2 running
    exact Or.inl ⟨rfl, reading.1, settle_tail running incomplete parsed accounted⟩
  | tailError error at_ running nonempty parsed =>
    have front := reading.rows_prefix
    simp only [Reading, at_] at reading
    obtain ⟨incomplete, accounted⟩ := reading.2.2 running
    refine Or.inl ⟨rfl, front, ?_⟩
    rintro _ ⟨⟩
    exact settle_tailError running incomplete parsed accounted
  | noTail at_ done =>
    simp only [Reading, at_] at reading
    refine Or.inl ⟨rfl, fun _ => ⟨reading.1, ?_⟩, by simp [unthrown]⟩
    cases limit : p.reader.limitReached with
    | true => exact reading.2.1 limit
    | false =>
      -- No text is left, and the empty line has no events.
      have nothing : p.reader.pending = [] := done.resolve_left (by simp [limit])
      obtain ⟨incomplete, accounted⟩ := reading.2.2 limit
      rw [← accounted, Reader.account_tail sys.input p.reader _ limit incomplete, nothing,
        Reader.parseLine_nil]
  | backoffOver delay at_ =>
    -- The next attempt reads another response, with a reader that is still fresh.
    simp only [Reading, at_] at reading
    exact Or.inr reading

/-- The positions behind the `try` block. -/
def ProducerPc.ended : ProducerPc → Bool
  | .finishing => true
  | .notifyFinished => true
  | .exited => true
  | _ => false

/-- What holds of the producer wherever it is. -/
structure Producer.Inv (sys : Setup) (p : Producer) : Prop where
  unthrown : p.pc.ended = false → p.thrown = none
  reads : ∃ whole, whole.rows <+: (expected sys p).rows ∧
    (p.dropped = false → whole = expected sys p) ∧ Reading sys p whole

theorem Producer.Inv.rows_prefix {sys : Setup} {p : Producer} (inv : p.Inv sys) :
    p.reader.rows <+: (expected sys p).rows := by
  obtain ⟨whole, front, _, reading⟩ := inv.reads
  exact reading.rows_prefix.trans front

/-- A move to the same response, with the same outcome. -/
theorem Producer.Inv.keep {sys : Setup} {p q : Producer} (inv : p.Inv sys)
    (attempt : q.attempt = p.attempt) (dropped : q.dropped = p.dropped)
    (unthrown : q.pc.ended = false → q.thrown = none)
    (kept : ∀ whole, Reading sys p whole → Reading sys q whole) : q.Inv sys := by
  obtain ⟨whole, front, complete, reading⟩ := inv.reads
  have same : expected sys q = expected sys p := by rw [expected, expected, attempt]
  exact ⟨unthrown, whole, same ▸ front, dropped ▸ same ▸ complete, kept whole reading⟩

/-- Such a move from inside the `try` block, with nothing thrown. -/
theorem Producer.Inv.keep_running {sys : Setup} {p q : Producer} (inv : p.Inv sys)
    (running : p.pc.ended = false) (attempt : q.attempt = p.attempt)
    (dropped : q.dropped = p.dropped) (thrown : q.thrown = p.thrown)
    (kept : ∀ whole, Reading sys p whole → Reading sys q whole) : q.Inv sys :=
  inv.keep attempt dropped (fun _ => thrown.trans (inv.unthrown running)) kept

theorem LocalStep.history {sys : Setup} {p q : Producer} (step : LocalStep sys p q) :
    p.pc.ended = false ∧ q.dropped = p.dropped ∧ q.thrown = p.thrown ∧
      q.reader.rows = p.reader.rows ∧ q.reader.produced = p.reader.produced := by
  cases step <;> simp_all [ProducerPc.ended]

theorem LocalStep.inv {sys : Setup} {p q : Producer} (step : LocalStep sys p q)
    (inv : p.Inv sys) : q.Inv sys := by
  obtain ⟨running, dropped, thrown, _, _⟩ := step.history
  have unthrown := inv.unthrown running
  obtain ⟨whole, front, complete, reading⟩ := inv.reads
  -- Either the outcome in view stays, or a new response renews it.
  rcases step.reading unthrown reading with ⟨attempt, kept⟩ | renewed
  · have same : expected sys q = expected sys p := by rw [expected, expected, attempt]
    exact ⟨fun _ => thrown.trans unthrown, whole, same ▸ front, dropped ▸ same ▸ complete, kept⟩
  · exact ⟨fun _ => thrown.trans unthrown, expected sys q, List.prefix_refl _, fun _ => rfl,
      renewed⟩

/-- The client itself throws no search error. -/
theorem afterSend_throw {client : NativeClient} {attempt : Nat} {r : Receiver Unit}
    {result : SendResult} {error : ClientError SearchError}
    (threw : afterSend client attempt r result = .throw error) (found : SearchError) :
    error ≠ .consumer found := by
  rintro rfl
  cases Decided.of_afterSend threw

/-- A return of `ExportSearch` leaves the reader at the end of a successful response, or
at its limit. -/
theorem Reading.returned {sys : Setup} {p : Producer} {whole : Outcome} {result : SendResult}
    (at_ : p.pc = .sent result)
    (returned : afterSend (ε := SearchError) sys.client p.attempt p.receiver result = .return)
    (reading : Reading sys p whole) : Reading sys { p with pc := .exported } whole := by
  simp only [Reading, at_] at reading
  cases stopped : p.receiver.stoppedByConsumer with
  | true =>
    obtain ⟨success, limit, past⟩ := reading.1 stopped
    exact ⟨success, fun _ => past, fun running => by simp [limit] at running⟩
  | false =>
    -- Only a successful head makes the loop return.
    have running := reading.2 stopped
    cases result with
    | failed => exact absurd returned (afterSend_failed_return stopped)
    | response head =>
      obtain ⟨same, _, received⟩ := running
      have success := afterSend_response_return stopped returned
      obtain ⟨open_, incomplete, accounted⟩ := received success
      exact ⟨same ▸ success, fun limit => by simp [open_] at limit,
        fun _ => ⟨incomplete, accounted⟩⟩

/-- Another attempt follows only if nothing has been read. -/
theorem Reading.retried {sys : Setup} {p : Producer} {whole : Outcome} {result : SendResult}
    {delay : Nat} (at_ : p.pc = .sent result)
    (retried : afterSend (ε := SearchError) sys.client p.attempt p.receiver result =
      .retry delay) (reading : Reading sys p whole) : p.reader = {} := by
  simp only [Reading, at_] at reading
  cases stopped : p.receiver.stoppedByConsumer with
  | true => simp [afterSend, stopped] at retried
  | false =>
    have running := reading.2 stopped
    cases result with
    | failed => exact running.1 (afterSend_failed_retry retried).1
    | response head =>
      refine running.2.1 ?_
      have status := afterSend_response_retry retried
      simp only [ResponseHead.success, Bool.and_eq_false_iff, decide_eq_false_iff_not]
      omega

theorem ProducerStep.inv {sys : Setup} {s t : State} (step : ProducerStep sys s t)
    (inv : s.producer.Inv sys) : t.producer.Inv sys := by
  cases step with
  | own p moved => exact moved.inv inv
  | interruptSeen at_ =>
    refine inv.keep_running (by rw [at_]; rfl) rfl rfl rfl ?_
    intro whole reading
    simp only [Reading, at_] at reading
    exact ⟨rows_prefix_fresh reading whole, by rintro _ ⟨⟩⟩
  | interruptUnseen at_ =>
    refine inv.keep_running (by rw [at_]; rfl) rfl rfl rfl ?_
    intro whole reading
    simp only [Reading, at_] at reading
    exact ⟨reading, rfl⟩
  | getConnection at_ =>
    refine inv.keep_running (by rw [at_]; rfl) rfl rfl rfl ?_
    intro whole reading
    simp only [Reading, at_] at reading
    exact reading
  | beginSend at_ =>
    refine inv.keep_running (by rw [at_]; rfl) rfl rfl rfl ?_
    intro whole reading
    simp only [Reading, at_] at reading
    exact reading
  | returned result at_ decided =>
    refine inv.keep_running (by rw [at_]; rfl) rfl rfl rfl ?_
    intro whole reading
    exact reading.returned at_ decided
  | threw result error at_ decided =>
    -- An error of the client itself says nothing about the rows but that they came first.
    refine inv.keep_running (by rw [at_]; rfl) rfl rfl rfl ?_
    intro whole reading
    exact ⟨reading.rows_prefix, fun found same => absurd same (afterSend_throw decided found)⟩
  | retried result delay at_ decided =>
    refine inv.keep_running (by rw [at_]; rfl) rfl rfl rfl ?_
    intro whole reading
    have fresh : s.producer.reader = {} := reading.retried at_ decided
    exact fresh
  | backoffInterrupted delay at_ =>
    refine inv.keep_running (by rw [at_]; rfl) rfl rfl rfl ?_
    intro whole reading
    simp only [Reading, at_] at reading
    exact ⟨rows_prefix_fresh reading whole, by rintro _ ⟨⟩⟩
  | sleepForSpace => exact inv
  | wakeForSpace => exact inv
  | push row rest resume at_ =>
    refine inv.keep_running (by rw [at_]; rfl) rfl rfl rfl ?_
    intro whole reading
    simp only [Reading, at_] at reading
    exact ⟨reading.1, reading.2.2⟩
  | drop row rest resume at_ =>
    -- The reading ends here, whatever was still to come.
    obtain ⟨whole, front, _, reading⟩ := inv.reads
    have rows := reading.rows_prefix.trans front
    simp only [Reading, at_] at reading
    refine ⟨fun _ => inv.unthrown (by rw [at_]; rfl), ⟨s.producer.reader.rows, none⟩, rows,
      by simp, reading.1, Reader.settle_limit _ _ rfl⟩
  | notifyRow rest resume sleepers at_ =>
    refine inv.keep_running (by rw [at_]; rfl) rfl rfl rfl ?_
    intro whole reading
    simp only [Reading, at_] at reading
    exact reading
  | caught error at_ =>
    refine inv.keep rfl rfl (by simp [ProducerPc.ended]) ?_
    intro whole reading
    simp only [Reading, at_] at reading
    refine ⟨by simp, ?_⟩
    rintro _ ⟨⟩
    exact reading
  | finish at_ =>
    refine inv.keep rfl rfl (by simp [State.goto, ProducerPc.ended]) ?_
    intro whole reading
    simp only [Reading, at_] at reading
    exact reading
  | notifyFinished at_ =>
    refine inv.keep rfl rfl (by simp [State.goto, ProducerPc.ended]) ?_
    intro whole reading
    simp only [Reading, at_] at reading
    exact reading

/-- The thread runs from the first scan on, and its invariant holds. -/
structure State.ProducerInv (sys : Setup) (s : State) : Prop where
  idle : s.started = false ↔ s.producer.pc = .idle
  inv : s.producer.Inv sys

theorem LocalStep.not_idle {sys : Setup} {p q : Producer} (step : LocalStep sys p q) :
    p.pc ≠ .idle ∧ q.pc ≠ .idle := by
  cases step <;> simp_all

theorem ProducerStep.keeps_started {sys : Setup} {s t : State} (step : ProducerStep sys s t) :
    t.started = s.started ∧ (t.producer.pc = .idle ↔ s.producer.pc = .idle) := by
  cases step with
  | own p moved => exact ⟨rfl, by simp [moved.not_idle]⟩
  | _ => simp_all [State.goto]

/-- The scan and the destructor leave the producer alone, but for starting it. -/
theorem MainStep.producer {sys : Setup} {s t : State} (step : MainStep sys s t) :
    (t.producer = s.producer ∧ t.started = s.started) ∨
    (s.started = false ∧ t.started = true ∧
      t.producer = { s.producer with pc := .attemptTop }) := by
  cases step with
  | beginFirstScan last _ unstarted => exact Or.inr ⟨unstarted, rfl, rfl⟩
  | _ => exact Or.inl ⟨rfl, rfl⟩

/-- What holds of the producer in every reachable state. -/
theorem native_producerInv (sys : Setup) (s : State) (reachable : (native sys).Reachable s) :
    s.ProducerInv sys := by
  refine (native sys).invariant (fun _ => True) (fun _ _ => trivial) ?_ ?_ s reachable
  · rintro _ rfl
    exact ⟨by simp, fun _ => rfl, _, List.prefix_refl _, fun _ => rfl, rfl⟩
  · intro s t _ known next
    cases next with
    | interrupt => exact ⟨known.idle, known.inv⟩
    | producer t step =>
      obtain ⟨started, idle⟩ := step.keeps_started
      exact ⟨by rw [started, idle, known.idle], step.inv known.inv⟩
    | main t step =>
      rcases step.producer with ⟨same, started⟩ | ⟨unstarted, started, begun⟩
      · exact ⟨by rw [started, same, known.idle], same ▸ known.inv⟩
      · -- The first scan starts the thread, which has read nothing.
        have idle := known.idle.mp unstarted
        refine ⟨by simp [started, begun], ?_⟩
        rw [begun]
        refine known.inv.keep_running (by rw [idle]; rfl) rfl rfl rfl ?_
        intro whole reading
        simp only [Reading, idle] at reading
        exact reading

end SplunkLogs
