import SplunkLogs.Foundation.ConditionVariable
import SplunkLogs.Foundation.TransitionSystem
import SplunkLogs.Model.Reader

/-!
# The native scan as a system of threads

The producer thread of `StartExport`, the calls of `SplunkLogsScan`, the destructor of
`SplunkLogsGlobalState` and the query interrupt, interleaved in any order. A step is one
critical section of `state.mutex` or `connection_mutex`, one read of `context.interrupted`,
one notification, one event of the network, or one move of the producer on its own
variables. What the server answers to each request is given; the network may cut the
answer into any pieces and fail at any moment.
-/
namespace SplunkLogs

open Foundation (NotifyOne TransitionSystem findFrom slice)

/-- One scan: its parameters, the server's answer to each attempt and the vector size. -/
structure Setup where
  client : NativeClient
  input : ScanInput
  server : Nat → ResponseHead × Bytes
  vectorSize : Nat
  vectorSize_pos : 0 < vectorSize

/-- `SPLUNK_BUFFER_CAPACITY`. -/
def Setup.capacity (sys : Setup) : Nat := sys.vectorSize * 2

/-- The threads that sleep on a condition variable. -/
inductive Party where
  | producer
  | scan
  deriving DecidableEq

/-- Where the producer thread is. Inside `parse_line`, `resume` says where the loop of
`on_chunk` goes on, or `none` for the parse of the unterminated last line. -/
inductive ProducerPc where
  | idle
  | attemptTop
  | connect
  | ready
  | awaiting
  | receiving
  | lines (start : Nat)
  | events (events : List Json) (resume : Option Nat)
  | wait (row : Row) (rest : List Json) (resume : Option Nat)
  | notifyRows (rest : List Json) (resume : Option Nat)
  | sent (result : SendResult)
  | backoff (delay : Nat)
  | exported
  | failed (error : ClientError SearchError)
  | finishing
  | notifyFinished
  | exited

/-- The producer's own variables. `remaining` is the content the network still holds; the
last two record whether a row was given up, and what the `try` block threw. -/
structure Producer where
  pc : ProducerPc := .idle
  attempt : Nat := 0
  receiver : Receiver Unit := { consumer := () }
  reader : Reader := {}
  chunkLength : Nat := 0
  remaining : Bytes := []
  dropped : Bool := false
  thrown : Option (ClientError SearchError) := none

/-- Where the thread that scans and destroys is. -/
inductive MainPc where
  | between (last : Option Nat)
  | scanning
  | drained (count : Nat)
  | interruptNotify
  | interruptCancel
  | threw (error : ClientError SearchError)
  | destroyNotify
  | destroyCancel
  | joining
  | gone
  deriving DecidableEq

/-- The shared state and the threads, and a record of what has happened: the rows returned
by scans, the connections created, the requests sent, whether `Cancel` has run, and the
connections it has stopped. A connection is known by its number in the order of creation;
`held` is the one the producer has a reference to. -/
structure State where
  producer : Producer := {}
  main : MainPc := .between none
  buffer : List Row := []
  error : Option (ClientError SearchError) := none
  started : Bool := false
  finished : Bool := false
  cancelled : Bool := false
  interrupted : Bool := false
  connection : Option Nat := none
  held : Option Nat := none
  spaceAvailable : Finset Party := ∅
  rowsAvailable : Finset Party := ∅
  delivered : List Row := []
  creations : Nat := 0
  sends : Nat := 0
  cancelRan : Bool := false
  stopped : List Nat := []

def State.goto (s : State) (pc : ProducerPc) : State :=
  { s with producer := { s.producer with pc := pc } }

/-- The moves of the producer that touch nothing shared: the network's events, the loop of
`on_chunk`, the event callback up to the lock, and the way out of `ExportSearch`. -/
inductive LocalStep (sys : Setup) (p : Producer) : Producer → Prop
  -- `send` fails before a response head, for instance on a stopped connection.
  | refused (error : TransportError) : p.pc = .awaiting →
      LocalStep sys p { p with pc := .sent (.failed error) }
  -- `response_handler` sets `success_status`.
  | head : p.pc = .awaiting →
      LocalStep sys p { p with
        pc := .receiving
        receiver := { p.receiver with successStatus := (sys.server p.attempt).1.success }
        remaining := (sys.server p.attempt).2 }
  -- `content_receiver` calls `on_chunk`, which appends the data to `pending`.
  | content (data rest : Bytes) : p.pc = .receiving → p.receiver.successStatus = true →
      p.remaining = data ++ rest →
      LocalStep sys p { p with
        pc := .lines 0
        reader := { p.reader with pending := p.reader.pending ++ data }
        chunkLength := data.length
        remaining := rest }
  -- Content of any other status goes to `error_body`.
  | errorContent (data rest : Bytes) : p.pc = .receiving → p.receiver.successStatus = false →
      p.remaining = data ++ rest →
      LocalStep sys p { p with receiver := p.receiver.keepError data, remaining := rest }
  -- The transfer ends, complete or broken off; `send` returns.
  | complete : p.pc = .receiving → p.remaining = [] →
      LocalStep sys p { p with pc := .sent (.response (sys.server p.attempt).1) }
  | broken (error : TransportError) : p.pc = .receiving →
      LocalStep sys p { p with pc := .sent (.failed error) }
  -- The `while (!limit_reached)` loop of `on_chunk`: the next complete line is parsed.
  | line (start stop : Nat) (events : List Json) : p.pc = .lines start →
      p.reader.limitReached = false → findFrom newline p.reader.pending start = some stop →
      parseExportLine sys.input.env (slice p.reader.pending start stop) = .ok events →
      LocalStep sys p { p with pc := .events events (some (stop + 1)) }
  -- `ThrowIfSearchError` throws through `on_chunk`, `send` and `ExportSearch`.
  | lineError (start stop : Nat) (error : SearchError) : p.pc = .lines start →
      p.reader.limitReached = false → findFrom newline p.reader.pending start = some stop →
      parseExportLine sys.input.env (slice p.reader.pending start stop) = .error error →
      LocalStep sys p { p with pc := .failed (.consumer error) }
  -- No newline is left: `pending.erase` and `return !limit_reached`, which is true here.
  | chunkTaken (start : Nat) : p.pc = .lines start → p.reader.limitReached = false →
      findFrom newline p.reader.pending start = none →
      LocalStep sys p { p with
        pc := .receiving
        reader := { p.reader with pending := p.reader.pending.drop start }
        receiver := { p.receiver with successBytes := p.receiver.successBytes + p.chunkLength } }
  -- The loop has stopped at the limit: `on_chunk` returns false and the transfer is canceled.
  | chunkRefused (start : Nat) : p.pc = .lines start → p.reader.limitReached = true →
      LocalStep sys p { p with
        pc := .sent (.failed .canceled)
        reader := { p.reader with pending := p.reader.pending.drop start }
        receiver := { p.receiver with stoppedByConsumer := true } }
  -- The event callback: behind the limit, at the cap, and with a row to hand over.
  | skipEvent (event : Json) (rest : List Json) (resume : Option Nat) :
      p.pc = .events (event :: rest) resume → p.reader.limitReached = true →
      LocalStep sys p { p with pc := .events rest resume }
  | capReached (event : Json) (rest : List Json) (resume : Option Nat) :
      p.pc = .events (event :: rest) resume → p.reader.limitReached = false →
      0 < sys.input.cap ∧ sys.input.cap ≤ p.reader.produced →
      LocalStep sys p { p with
        pc := .events rest resume
        reader := { p.reader with limitReached := true } }
  | mapRow (event : Json) (rest : List Json) (resume : Option Nat) :
      p.pc = .events (event :: rest) resume → p.reader.limitReached = false →
      ¬(0 < sys.input.cap ∧ sys.input.cap ≤ p.reader.produced) →
      LocalStep sys p { p with
        pc := .wait (mapEvent sys.input.env event sys.input.columnIds) rest resume }
  -- The record has no more events; `parse_line` returns to the loop or to the `try` block.
  | lineDone (start : Nat) : p.pc = .events [] (some start) →
      LocalStep sys p { p with pc := .lines start }
  | tailDone : p.pc = .events [] none → LocalStep sys p { p with pc := .finishing }
  -- Behind `ExportSearch`, an unterminated last line is parsed as well.
  | tailLine (events : List Json) : p.pc = .exported → p.reader.limitReached = false →
      p.reader.pending ≠ [] → parseExportLine sys.input.env p.reader.pending = .ok events →
      LocalStep sys p { p with pc := .events events none }
  | tailError (error : SearchError) : p.pc = .exported → p.reader.limitReached = false →
      p.reader.pending ≠ [] → parseExportLine sys.input.env p.reader.pending = .error error →
      LocalStep sys p { p with pc := .failed (.consumer error) }
  | noTail : p.pc = .exported → p.reader.limitReached = true ∨ p.reader.pending = [] →
      LocalStep sys p { p with pc := .finishing }
  -- The deadline of `SleepCheckingInterrupt` has passed.
  | backoffOver (delay : Nat) : p.pc = .backoff delay →
      LocalStep sys p { p with pc := .attemptTop, attempt := p.attempt + 1 }

/-- The producer's steps on the shared state. -/
inductive ProducerStep (sys : Setup) (s : State) : State → Prop
  | own (p : Producer) : LocalStep sys s.producer p → ProducerStep sys s { s with producer := p }
  -- The check of `context.interrupted` at the top of an attempt.
  | interruptSeen : s.producer.pc = .attemptTop → s.interrupted = true →
      ProducerStep sys s (s.goto (.failed .interrupt))
  | interruptUnseen : s.producer.pc = .attemptTop → s.interrupted = false →
      ProducerStep sys s { s with
        producer := { s.producer with pc := .connect, receiver := { consumer := () } } }
  -- `GetConnection` holds `connection_mutex`; `send` begins after it has been released.
  | getConnection : s.producer.pc = .connect →
      ProducerStep sys s { s.goto .ready with
        connection := some (s.connection.getD s.creations)
        held := some (s.connection.getD s.creations)
        creations := if s.connection.isSome then s.creations else s.creations + 1 }
  | beginSend : s.producer.pc = .ready →
      ProducerStep sys s { s.goto .awaiting with sends := s.sends + 1 }
  -- What the loop body does with the result of `send`; `connection.reset()` is part of it.
  | returned (result : SendResult) : s.producer.pc = .sent result →
      afterSend (ε := SearchError) sys.client s.producer.attempt s.producer.receiver result =
        .return →
      ProducerStep sys s { s.goto .exported with
        connection := if dropsConnection s.producer.receiver result then none else s.connection }
  | threw (result : SendResult) (error : ClientError SearchError) :
      s.producer.pc = .sent result →
      afterSend sys.client s.producer.attempt s.producer.receiver result = .throw error →
      ProducerStep sys s { s.goto (.failed error) with
        connection := if dropsConnection s.producer.receiver result then none else s.connection }
  | retried (result : SendResult) (delay : Nat) : s.producer.pc = .sent result →
      afterSend (ε := SearchError) sys.client s.producer.attempt s.producer.receiver result =
        .retry delay →
      ProducerStep sys s { s.goto (.backoff delay) with
        connection := if dropsConnection s.producer.receiver result then none else s.connection }
  -- `SleepCheckingInterrupt` polls the flag.
  | backoffInterrupted (delay : Nat) : s.producer.pc = .backoff delay → s.interrupted = true →
      ProducerStep sys s (s.goto (.failed .interrupt))
  -- `space_available.wait`: the predicate is evaluated under `state.mutex`. Where it fails the
  -- producer sleeps; a sleeper may wake by itself and evaluates the predicate again.
  | sleepForSpace (row : Row) (rest : List Json) (resume : Option Nat) :
      s.producer.pc = .wait row rest resume → .producer ∉ s.spaceAvailable →
      s.cancelled = false → s.interrupted = false → sys.capacity ≤ s.buffer.length →
      ProducerStep sys s { s with spaceAvailable := insert .producer s.spaceAvailable }
  | wakeForSpace : .producer ∈ s.spaceAvailable →
      ProducerStep sys s { s with spaceAvailable := s.spaceAvailable.erase .producer }
  -- The wait is over: the row is pushed, or given up.
  | push (row : Row) (rest : List Json) (resume : Option Nat) :
      s.producer.pc = .wait row rest resume → .producer ∉ s.spaceAvailable →
      s.cancelled = false → s.interrupted = false → s.buffer.length < sys.capacity →
      ProducerStep sys s { s with
        producer := { s.producer with
          pc := .notifyRows rest resume
          reader := s.producer.reader.push row }
        buffer := s.buffer ++ [row] }
  | drop (row : Row) (rest : List Json) (resume : Option Nat) :
      s.producer.pc = .wait row rest resume → .producer ∉ s.spaceAvailable →
      s.cancelled = true ∨ s.interrupted = true →
      ProducerStep sys s { s with
        producer := { s.producer with
          pc := .events rest resume
          reader := { s.producer.reader with limitReached := true }
          dropped := true } }
  -- `rows_available.notify_one()`, after `lock.unlock()`.
  | notifyRow (rest : List Json) (resume : Option Nat) (sleepers : Finset Party) :
      s.producer.pc = .notifyRows rest resume → NotifyOne s.rowsAvailable sleepers →
      ProducerStep sys s { s.goto (.events rest resume) with rowsAvailable := sleepers }
  -- The `catch` block keeps the exception unless the scan has been cancelled.
  | caught (error : ClientError SearchError) : s.producer.pc = .failed error →
      ProducerStep sys s { s with
        producer := { s.producer with pc := .finishing, thrown := some error }
        error := if s.cancelled then s.error else some error }
  -- The critical section that sets `finished`, and the notification behind it.
  | finish : s.producer.pc = .finishing →
      ProducerStep sys s { s.goto .notifyFinished with finished := true }
  | notifyFinished : s.producer.pc = .notifyFinished →
      ProducerStep sys s { s.goto .exited with rowsAvailable := ∅ }

/-- The steps of the scan calls, made one after the other, and of the destructor. An
exception ends the scan: only the destructor follows. -/
inductive MainStep (sys : Setup) (s : State) : State → Prop
  -- `StartExport` on the first call; a later call begins with the lock.
  | beginFirstScan (last : Option Nat) : s.main = .between last → s.started = false →
      MainStep sys s { s.goto .attemptTop with main := .scanning, started := true }
  | beginScan (last : Option Nat) : s.main = .between last → s.started = true →
      MainStep sys s { s with main := .scanning }
  -- The body of the `while` loop: the interrupt path, or a wait of 100 ms for rows.
  | interruptSeen : s.main = .scanning → .scan ∉ s.rowsAvailable → s.buffer = [] →
      s.finished = false → s.error = none → s.interrupted = true →
      MainStep sys s { s with main := .interruptNotify, cancelled := true }
  | sleepForRows : s.main = .scanning → .scan ∉ s.rowsAvailable → s.buffer = [] →
      s.finished = false → s.error = none → s.interrupted = false →
      MainStep sys s { s with rowsAvailable := insert .scan s.rowsAvailable }
  | wakeForRows : .scan ∈ s.rowsAvailable →
      MainStep sys s { s with rowsAvailable := s.rowsAvailable.erase .scan }
  -- An error goes first, even where rows are left in the buffer.
  | rethrow (error : ClientError SearchError) : s.main = .scanning → .scan ∉ s.rowsAvailable →
      s.error = some error → MainStep sys s { s with main := .threw error }
  -- At most one vector of rows is taken.
  | drain : s.main = .scanning → .scan ∉ s.rowsAvailable → s.error = none →
      s.buffer ≠ [] ∨ s.finished = true →
      MainStep sys s { s with
        main := .drained (s.buffer.take sys.vectorSize).length
        delivered := s.delivered ++ s.buffer.take sys.vectorSize
        buffer := s.buffer.drop sys.vectorSize }
  -- `space_available.notify_one()`, after `lock.unlock()`.
  | drainedNotify (count : Nat) (sleepers : Finset Party) : s.main = .drained count →
      NotifyOne s.spaceAvailable sleepers →
      MainStep sys s { s with main := .between (some count), spaceAvailable := sleepers }
  -- The rest of the interrupt path: `notify_all`, `Cancel`, `throw`. `Cancel` holds
  -- `connection_mutex` and stops the connection that is cached, if one is.
  | interruptNotify : s.main = .interruptNotify →
      MainStep sys s { s with main := .interruptCancel, spaceAvailable := ∅ }
  | interruptCancel : s.main = .interruptCancel →
      MainStep sys s { s with
        main := .threw .interrupt
        cancelRan := true
        stopped := s.stopped ++ s.connection.toList }
  -- `~SplunkLogsGlobalState`; it joins a producer that was started.
  | destroy : (∃ last, s.main = .between last) ∨ (∃ error, s.main = .threw error) →
      MainStep sys s { s with main := .destroyNotify, cancelled := true }
  | destroyNotify : s.main = .destroyNotify →
      MainStep sys s { s with main := .destroyCancel, spaceAvailable := ∅ }
  | destroyCancel : s.main = .destroyCancel →
      MainStep sys s { s with
        main := .joining
        cancelRan := true
        stopped := s.stopped ++ s.connection.toList }
  | join : s.main = .joining → s.producer.pc = .idle ∨ s.producer.pc = .exited →
      MainStep sys s { s with main := .gone }

/-- One step of any party; `context.interrupted` may be set at any moment. -/
inductive Step (sys : Setup) (s : State) : State → Prop
  | interrupt : Step sys s { s with interrupted := true }
  | producer (t : State) : ProducerStep sys s t → Step sys s t
  | main (t : State) : MainStep sys s t → Step sys s t

/-- The native scan from its creation by `SplunkLogsInitGlobal` on. -/
def native (sys : Setup) : TransitionSystem State := ⟨fun s => s = {}, Step sys⟩

end SplunkLogs
