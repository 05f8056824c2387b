import SplunkLogs.Properties.Delivery
import SplunkLogs.Properties.LineReading

/-!
# The native reader does not see the chunks

A reader has read some text and holds a part of it in `pending`. What it has pushed,
followed by the reference reading of everything it has not consumed, is the same before
and after each of its steps; at the end nothing is left to read.
-/
namespace SplunkLogs

open Foundation (findFrom findFrom_none slice splitOn_of_findFrom)

namespace Reader

/-- The rows a reader has pushed, followed by what `next` reads after them; nothing follows
once the limit is reached. -/
def settle (reader : Reader) (next : Nat → Outcome) : Outcome :=
  (if reader.limitReached then .done else next reader.produced).prepend reader.rows

/-- The reader's rows completed by the reference reading of `text`. -/
def account (input : ScanInput) (reader : Reader) (text : Bytes) : Outcome :=
  reader.settle (referenceLines input (text.splitOn newline))

theorem settle_limit (reader : Reader) (next : Nat → Outcome)
    (limit : reader.limitReached = true) : reader.settle next = ⟨reader.rows, none⟩ := by
  simp [settle, limit, Outcome.prepend, Outcome.done]

theorem account_start (input : ScanInput) (text : Bytes) :
    ({} : Reader).account input text = reference input text := by
  simp [account, settle, reference]

/-- One event: either it is pushed, or it is the first beyond the cap, or the limit has
been reached before. -/
theorem settle_onEvent (input : ScanInput) (reader : Reader) (event : Json)
    (rest : List Json) (next : Nat → Outcome) :
    (reader.onEvent input event).settle (fun n => mapEvents input next n rest) =
      reader.settle (fun n => mapEvents input next n (event :: rest)) := by
  by_cases limit : reader.limitReached
  · simp [onEvent, settle, limit]
  · by_cases full : 0 < input.cap ∧ input.cap ≤ reader.produced
    · simp [onEvent, settle, limit, mapEvents, full]
    · simp [onEvent, push, settle, limit, mapEvents, full]

theorem settle_events (input : ScanInput) (reader : Reader) (events : List Json)
    (next : Nat → Outcome) :
    (events.foldl (onEvent input) reader).settle next =
      reader.settle (fun n => mapEvents input next n events) := by
  -- Each event moves from what is still to be read into the reader.
  induction events generalizing reader with
  | nil => rfl
  | cons event rest ih => rw [List.foldl_cons, ih, settle_onEvent]

/-- One line, of the lines `line :: rest` still to read. -/
theorem settle_parseLine (input : ScanInput) (reader : Reader) (line : Bytes)
    (rest : List Bytes) (running : reader.limitReached = false) :
    reader.settle (referenceLines input (line :: rest)) =
      match reader.parseLine input line with
      | (after, some error) => ⟨after.rows, some error⟩
      | (after, none) => after.settle (referenceLines input rest) := by
  cases parsed : parseExportLine input.env line with
  | error error =>
    simp [parseLine, parsed, settle, running, referenceLines_cons, Outcome.prepend,
      Outcome.failed]
  | ok events =>
    simp only [parseLine, parsed, settle_events]
    simp [settle, running, referenceLines_cons, parsed]

/-- The loop over `pending`, with `more` still to come from the network. -/
theorem account_drainLines (input : ScanInput) (pending : Bytes) (reader : Reader)
    (start : Nat) (more : Bytes) :
    reader.account input (pending.drop start ++ more) =
      match reader.drainLines input pending start with
      | (after, _, some error) => ⟨after.rows, some error⟩
      | (after, stop, none) => after.account input (pending.drop stop ++ more) := by
  -- Induction along the loop: `start` moves behind one line after the other.
  fun_induction drainLines input pending reader start with
  | case1 => rfl
  | case2 => rfl
  | case3 reader start running stop found after error parsed =>
    have line := settle_parseLine input reader (slice pending start stop)
      ((pending.drop (stop + 1) ++ more).splitOn newline) (by simpa using running)
    rw [account, splitOn_of_findFrom found, line, parsed]
  | case4 reader start running stop found after parsed bounds ih =>
    have line := settle_parseLine input reader (slice pending start stop)
      ((pending.drop (stop + 1) ++ more).splitOn newline) (by simpa using running)
    rw [account, splitOn_of_findFrom found, line, parsed]
    exact ih

/-- Where the loop ends below the limit, no complete line is left. -/
theorem drainLines_exhausted (input : ScanInput) (pending : Bytes) (reader : Reader)
    (start : Nat) (finished : (reader.drainLines input pending start).2.2 = none)
    (running : (reader.drainLines input pending start).1.limitReached = false) :
    newline ∉ pending.drop (reader.drainLines input pending start).2.1 := by
  fun_induction drainLines input pending reader start with
  | case1 reader start limit => simp [limit] at running
  | case2 reader start _ missing => exact findFrom_none missing
  | case3 => simp at finished
  | case4 reader start _ stop found after parsed bounds ih => exact ih finished running

/-- What a reply of the consumer says about the reading `whole` of all the text, when `more`
is still to come: an error ends it, or the limit, or it goes on without a complete line
in `pending`. -/
def Answers (input : ScanInput) (whole : Outcome) (after : Reader) (more : Bytes) :
    Reply SearchError → Prop
  | .throw error => whole = ⟨after.rows, some error⟩
  | .stop => after.limitReached = true ∧ whole = ⟨after.rows, none⟩
  | .more =>
    after.limitReached = false ∧ newline ∉ after.pending ∧
      whole = after.account input (after.pending ++ more)

/-- One call of `on_chunk`, with `more` still to come. -/
theorem onChunk_answers (input : ScanInput) (reader : Reader) (data more : Bytes) :
    Answers input (reader.account input (reader.pending ++ data ++ more))
      (reader.onChunk input data).1 more (reader.onChunk input data).2 := by
  have drained := account_drainLines input (reader.pending ++ data) reader 0 more
  have exhausted := drainLines_exhausted input (reader.pending ++ data) reader 0
  rw [List.drop_zero] at drained
  -- The loop ends with an error, at the limit, or without another newline.
  rcases loop : reader.drainLines input (reader.pending ++ data) 0 with
    ⟨⟨_, produced, limit, rows⟩, stop, _ | error⟩
  · rw [loop] at drained exhausted
    cases limit with
    | true =>
      simp only [onChunk, loop, if_true, Answers, true_and]
      rw [drained]
      exact settle_limit _ _ rfl
    | false =>
      simp only [onChunk, loop, Bool.false_eq_true, if_false, Answers, true_and]
      exact ⟨exhausted rfl rfl, drained⟩
  · rw [loop] at drained
    simpa only [onChunk, loop, Answers] using drained

/-- The tail parse: what is left in `pending` is one more line. -/
theorem account_tail (input : ScanInput) (reader : Reader) (text : Bytes)
    (running : reader.limitReached = false) (incomplete : newline ∉ text) :
    reader.account input text =
      ⟨(reader.parseLine input text).1.rows, (reader.parseLine input text).2⟩ := by
  rw [account, List.splitOn_eq_singleton incomplete, settle_parseLine input reader text [] running]
  rcases reader.parseLine input text with ⟨after, _ | error⟩
  · simp [settle, Outcome.prepend, Outcome.done]
  · rfl

@[simp] theorem parseLine_nil (input : ScanInput) (reader : Reader) :
    reader.parseLine input [] = (reader, none) := rfl

end Reader

/-- The body of a successful response, fed piece by piece to the reader. -/
theorem receiveBody_answers (input : ScanInput) (attempt : Nat) (r : Receiver Reader)
    (chunks : List Bytes) (success : r.successStatus = true)
    (running : r.consumer.limitReached = false) (incomplete : newline ∉ r.consumer.pending) :
    Reader.Answers input (r.consumer.account input (r.consumer.pending ++ chunks.flatten))
      (receiveBody (readerConsumer input) attempt r chunks).1.consumer []
      (receiveBody (readerConsumer input) attempt r chunks).2.2 := by
  -- The account of the reader carries the induction: it does not depend on the cuts.
  induction chunks generalizing r with
  | nil => simpa [receiveBody, Reader.Answers] using ⟨running, incomplete⟩
  | cons data rest ih =>
    have spec := Reader.onChunk_answers input r.consumer data rest.flatten
    rw [List.append_assoc, ← List.flatten_cons] at spec
    rcases called : r.consumer.onChunk input data with ⟨after, _ | _ | error⟩
    · rw [called] at spec
      obtain ⟨goesOn, tail, accounted⟩ := spec
      have next := ih { r with
        consumer := after, successBytes := r.successBytes + data.length } success goesOn tail
      rw [accounted]
      simpa only [receiveBody, contentReceiver, success, if_true, readerConsumer, called] using next
    · rw [called] at spec
      simpa only [receiveBody, contentReceiver, success, if_true, readerConsumer, called,
        Reader.Answers] using spec
    · rw [called] at spec
      simpa only [receiveBody, contentReceiver, success, if_true, readerConsumer, called,
        Reader.Answers] using spec

/-- A reader that has seen nothing ignores empty pieces. -/
theorem readerConsumer_idle (input : ScanInput) :
    (readerConsumer input).onChunk {} [] = ({}, .more) := by
  have drained : Reader.drainLines input [] {} 0 = ({}, 0, none) := by
    rw [Reader.drainLines]
    rfl
  simp [readerConsumer, Reader.onChunk, drained]

theorem startExport_reference (client : NativeClient) (input : ScanInput)
    (attempts : Nat → Attempt) {last : Nat} {head : ResponseHead} {chunks : List Bytes}
    (repeated : ∀ n < last, (attempts n).Repeated client n)
    (quiet : (attempts last).interrupted = false)
    (answered : (attempts last).exchange = .answered head chunks none)
    (success : head.success = true) :
    (startExport client input attempts).1.rows = (reference input chunks.flatten).rows ∧
    (startExport client input attempts).2 =
      (reference input chunks.flatten).error.map .consumer := by
  obtain ⟨connected, sameConsumer, sameResult⟩ :=
    exportSearch_skips (readerConsumer_idle input) repeated false
  obtain ⟨consumer, result⟩ := exportSearch_complete client (readerConsumer input) attempts
    last connected {} quiet answered success
  have answers := receiveBody_answers input last { consumer := {}, successStatus := true } chunks
    rfl rfl (by simp)
  rw [List.nil_append, Reader.account_start] at answers
  generalize receiveBody (readerConsumer input) last { consumer := {}, successStatus := true }
    chunks = received at consumer result answers
  obtain ⟨reader, log, reply⟩ := received
  dsimp only at consumer result answers
  simp only [startExport, sameConsumer, sameResult, consumer, result]
  cases reply with
  | throw error =>
    simp only [Reader.Answers] at answers
    simp [answers, replyResult]
  | stop =>
    obtain ⟨limit, whole⟩ := answers
    simp [whole, replyResult, limit]
  | more =>
    -- The whole body has been taken; what is left in `pending` is the last line.
    obtain ⟨running, incomplete, whole⟩ := answers
    rw [List.append_nil, Reader.account_tail input reader.consumer _ running incomplete] at whole
    by_cases empty : reader.consumer.pending = []
    · simp [whole, replyResult, running, empty]
    · simp [whole, replyResult, running, empty]

/-- The producer run on its own reads what the reference reads, whatever the chunks, and
whatever attempts that handed over nothing came before. -/
theorem startExport_reads_reference (client : NativeClient) (input : ScanInput)
    (attempts : Nat → Attempt) {last : Nat} {head : ResponseHead} {chunks : List Bytes}
    (repeated : ∀ n < last, (attempts n).Repeated client n)
    (quiet : (attempts last).interrupted = false)
    (answered : (attempts last).exchange = .answered head chunks none)
    (success : head.success = true) :
    (startExport client input attempts).1.rows = (reference input chunks.flatten).rows ∧
    (startExport client input attempts).2 =
      (reference input chunks.flatten).error.map .consumer ∧
    (0 < input.maxRows →
      ((startExport client input attempts).1.rows.length : Int) ≤ input.maxRows) := by
  obtain ⟨rows, error⟩ :=
    startExport_reference client input attempts repeated quiet answered success
  refine ⟨rows, error, fun capped => ?_⟩
  have cap : input.cap = input.maxRows.toNat := if_pos capped
  have bounded := reference_capped input (by omega) chunks.flatten
  rw [rows]
  omega

/-- One record. -/
def oneRecord : Bytes := ascii "\x7b\"message\":\"a\"\x7d"

def oneEvent : Json := .obj [(ascii "message", .str (ascii "a"))]

/-- A record that lists four events. -/
def listRecord : Bytes :=
  ascii "\x7b\"results\":[\x7b\"_raw\":\"a\"\x7d,\x7b\"_raw\":\"b\"\x7d," ++
    ascii "\x7b\"_raw\":\"c\"\x7d,\x7b\"_raw\":\"d\"\x7d]\x7d"

def rawEvent (text : String) : Json := .obj [(ascii "_raw", .str (ascii text))]

def listRoot : Json :=
  .obj [(ascii "results", .arr [rawEvent "a", rawEvent "b", rawEvent "c", rawEvent "d"])]

/-- A record with an error and no event. -/
def errorRecord : Bytes := ascii "\x7b\"messages\":[\x7b\"type\":\"ERROR\"\x7d]\x7d"

def errorRoot : Json :=
  .obj [(ascii "messages", .arr [.obj [(ascii "type", .str (ascii "ERROR"))]])]

/-- A record whose line ends in CRLF, a line that is no JSON, a blank line, an error and another
record, cut within the first record, within its CRLF and behind the error. -/
def failingCut : List Bytes :=
  [oneRecord.take 3, [], oneRecord.drop 3 ++ [carriageReturn],
    newline :: ascii "oops" ++ newline :: carriageReturn :: newline :: errorRecord,
    [carriageReturn, newline] ++ oneRecord]

/-- The cut response is the answer to the second request. -/
def failingAttempts : Nat → Attempt
  | 0 => ⟨false, .answered ⟨503, none⟩ [ascii "busy"] none, false⟩
  | _ => ⟨false, .answered ⟨200, none⟩ failingCut none, false⟩

/-- Read with room for three rows: one row comes and the error follows it. -/
theorem startExport_reads_reference_cut :
    let run := startExport ⟨[], 1, fun _ => 1⟩
      ⟨.ofRecords [(oneRecord, oneEvent), (errorRecord, errorRoot)], [colBody], 3⟩
      failingAttempts
    run.1.rows = [[.varchar (ascii "a")]] ∧
      run.2 = some (.consumer ⟨ascii "ERROR", ascii "(no detail)"⟩) := by
  have repeated : ∀ n < 1, (failingAttempts n).Repeated ⟨[], 1, fun _ => 1⟩ n := by
    intro n first
    obtain rfl : n = 0 := by omega
    exact ⟨rfl, rfl, Nat.one_pos, Or.inr (by decide),
      by simp [failingAttempts, ResponseHead.success]⟩
  obtain ⟨rows, error, _⟩ := startExport_reads_reference _
    ⟨.ofRecords [(oneRecord, oneEvent), (errorRecord, errorRoot)], [colBody], 3⟩ failingAttempts
    repeated rfl rfl rfl
  exact ⟨rows.trans rfl, error.trans rfl⟩

end SplunkLogs
