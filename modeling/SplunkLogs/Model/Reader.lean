import SplunkLogs.Model.Response
import SplunkLogs.Model.Client

/-!
# The native export reader

`StartExport`'s producer run on its own: the `on_chunk` closure that cuts the streamed body
into lines, and the parse of the unterminated last line. A row handed to `state.buffer` is
appended to `rows`; the wait for space belongs to the threaded system.
-/
namespace SplunkLogs

open Foundation (findFrom findFrom_some slice)

/-- What a scan is asked for. -/
structure ScanInput where
  env : Externals
  columnIds : List Nat
  maxRows : Int

/-- The cap of the producer, 0 for none. -/
def ScanInput.cap (input : ScanInput) : Nat :=
  if 0 < input.maxRows then input.maxRows.toNat else 0

/-- The variables captured by the producer's closures, and the rows pushed so far. -/
structure Reader where
  pending : Bytes := []
  produced : Nat := 0
  limitReached : Bool := false
  rows : List Row := []

/-- A row handed over, and counted. -/
def Reader.push (reader : Reader) (row : Row) : Reader :=
  { reader with rows := reader.rows ++ [row], produced := reader.produced + 1 }

/-- The event callback of `parse_line`. -/
def Reader.onEvent (input : ScanInput) (reader : Reader) (event : Json) : Reader :=
  if reader.limitReached then reader
  -- The limit is noticed at the first event beyond the cap, not at the one that fills it.
  else if 0 < input.cap ∧ input.cap ≤ reader.produced then { reader with limitReached := true }
  else reader.push (mapEvent input.env event input.columnIds)

def Reader.parseLine (input : ScanInput) (reader : Reader) (line : Bytes) :
    Reader × Option SearchError :=
  match parseExportLine input.env line with
  | .error error => (reader, some error)
  | .ok events => (events.foldl (Reader.onEvent input) reader, none)

/-- The `while (!limit_reached)` loop over `pending`; also returns where it stopped. -/
def Reader.drainLines (input : ScanInput) (pending : Bytes) (reader : Reader) (start : Nat) :
    Reader × Nat × Option SearchError :=
  if reader.limitReached then (reader, start, none)
  else
    match found : findFrom newline pending start with
    | none => (reader, start, none)
    | some stop =>
      match reader.parseLine input (slice pending start stop) with
      | (reader, some error) => (reader, start, some error)
      | (reader, none) =>
        have := findFrom_some found
        reader.drainLines input pending (stop + 1)
  termination_by pending.length - start

/-- The `on_chunk` closure. -/
def Reader.onChunk (input : ScanInput) (reader : Reader) (data : Bytes) :
    Reader × Reply SearchError :=
  let pending := reader.pending ++ data
  match reader.drainLines input pending 0 with
  -- An exception leaves `pending` as it stands, before the erase.
  | (reader, _, some error) => ({ reader with pending := pending }, .throw error)
  | (reader, start, none) =>
    ({ reader with pending := pending.drop start }, if reader.limitReached then .stop else .more)

def readerConsumer (input : ScanInput) : Consumer Reader SearchError :=
  ⟨Reader.onChunk input⟩

/-- The `try` block of the producer thread: the reader it leaves and what it throws. -/
def startExport (client : NativeClient) (input : ScanInput) (attempts : Nat → Attempt) :
    Reader × Option (ClientError SearchError) :=
  let run := exportSearch client (readerConsumer input) attempts 0 false {}
  match run.result with
  | .error error => (run.consumer, some error)
  | .ok () =>
    -- The tail parse.
    if !run.consumer.limitReached && !run.consumer.pending.isEmpty then
      let (reader, error) := run.consumer.parseLine input run.consumer.pending
      (reader, error.map .consumer)
    else (run.consumer, none)

end SplunkLogs
