import SplunkLogs.Model.Time

/-! Mapping one Splunk event to the projected columns of an output row. -/
namespace SplunkLogs

/-- A DuckDB value of one of the column types the mapping fills. -/
inductive Value where
  | null
  | timestampNs (nanos : Int)
  | integer (n : Int)
  | varchar (text : Bytes)
  deriving DecidableEq

abbrev Row := List Value

@[match_pattern] def colTime : Nat := 0
@[match_pattern] def colObservedTime : Nat := 1
@[match_pattern] def colTraceId : Nat := 2
@[match_pattern] def colSpanId : Nat := 3
@[match_pattern] def colServiceName : Nat := 4
@[match_pattern] def colSeverityNumber : Nat := 7
@[match_pattern] def colSeverityText : Nat := 8
@[match_pattern] def colBody : Nat := 10
@[match_pattern] def colResourceAttrs : Nat := 11
@[match_pattern] def colLogAttrs : Nat := 15
def columnCount : Nat := 18

/-- The OTLP severity number of a severity string; 0 is unspecified. -/
def severityToNumber (severity : Bytes) : Int :=
  let s := lower severity
  if s = ascii "trace" then 1
  else if s = ascii "debug" then 5
  else if s = ascii "info" ∨ s = ascii "notice" ∨ s = ascii "ok" then 9
  else if s = ascii "warn" ∨ s = ascii "warning" then 13
  else if s = ascii "error" ∨ s = ascii "err" then 17
  else if s = ascii "critical" ∨ s = ascii "crit" ∨ s = ascii "alert" ∨ s = ascii "emergency" ∨
      s = ascii "fatal" then 21
  else 0

/-- `kResourceKeys`: Splunk metadata fields and their OTLP resource attributes. -/
def resourceKeys : List (Bytes × Bytes) :=
  [(ascii "host", ascii "host.name"),
   (ascii "source", ascii "com.splunk.source"),
   (ascii "sourcetype", ascii "com.splunk.sourcetype"),
   (ascii "index", ascii "com.splunk.index"),
   (ascii "splunk_server", ascii "com.splunk.server")]

def isResourceKey (key : Bytes) : Bool := resourceKeys.any fun mapping => key == mapping.1

/-- Fields kept out of `log_attributes`; `key` is a C string. -/
def isInternalField (key : Bytes) : Bool :=
  key.head? == some 95 || isResourceKey key ||
    [ascii "linecount", ascii "punct", ascii "eventtype"].contains key

/-- `yyjson_mut_write` of the members collected, or no text when there are none. -/
def buildResourceAttributes (env : Externals) (event : Json) : Bytes :=
  let members := resourceKeys.filterMap fun mapping =>
    (getStr (some event) mapping.1).map fun value => (mapping.2, Json.str value)
  if members.isEmpty then [] else env.writeJson (.obj members)

/-- One round of the loop: a member is skipped when it is internal or its key is already
present; otherwise it is appended and the flag set. -/
def copyField (state : List (Bytes × Json) × Bool) (member : Bytes × Json) :
    List (Bytes × Json) × Bool :=
  let key := cString member.1
  if isInternalField key then state
  -- Extracted fields win over the payload, and an earlier member over a later one.
  else if state.1.any fun present => present.1 == key then state
  else (state.1 ++ [(key, member.2)], true)

/-- The object with the fields of `source` added, and whether any was. -/
def copyNonInternalFields (root : List (Bytes × Json)) (source : Option Json) :
    List (Bytes × Json) × Bool :=
  match source with
  | some (.obj members) => members.foldl copyField (root, false)
  | _ => (root, false)

def buildLogAttributes (env : Externals) (event : Json) (rawObj : Option Json) : Bytes :=
  let (root, fromEvent) := copyNonInternalFields [] (some event)
  let (root, fromRaw) := copyNonInternalFields root rawObj
  if fromRaw || fromEvent then env.writeJson (.obj root) else []

/-- The JSON blanks skipped before looking for an opening brace. -/
def isJsonBlank (c : UInt8) : Bool := c == 32 || c == 9 || c == 10 || c == 13

/-- The object in `event._raw`, if that C string holds one. -/
def parseRawObject (env : Externals) (event : Json) : Option Json :=
  match getStr (some event) (ascii "_raw") with
  | none => none
  | some raw =>
    -- The cheap pre-check for an opening brace.
    if (raw.dropWhile isJsonBlank).head? = some 123 then
      match env.readJson raw with
      | some (.obj members) => some (.obj members)
      | _ => none
    else none

/-- The values several columns share. Each is `none` until the first column that needs it
computes it, and then keeps the result, a failure included. -/
structure Memo where
  rawCache : Option (Option Json) := none
  severityCache : Option (Option Bytes) := none
  timeCache : Option Value := none

namespace Memo

variable (env : Externals) (event : Json) (fields : Option Json)

def raw (memo : Memo) : Option Json × Memo :=
  match memo.rawCache with
  | some cached => (cached, memo)
  | none =>
    let parsed := parseRawObject env event
    (parsed, { memo with rawCache := some parsed })

def severity (memo : Memo) : Option Bytes × Memo :=
  match memo.severityCache with
  | some cached => (cached, memo)
  | none =>
    let (rawObj, memo) := memo.raw env event
    let found := lookupStr [some event, fields, rawObj]
      [ascii "level", ascii "severity", ascii "status"]
    (found, { memo with severityCache := some found })

def timestamp (memo : Memo) : Value × Memo :=
  match memo.timeCache with
  | some cached => (cached, memo)
  | none =>
    let value := match parseSplunkTimeToNanos env (event.objGet (ascii "_time")) with
      | some nanos => Value.timestampNs nanos
      | none => .null
    (value, { memo with timeCache := some value })

end Memo

/-- A text column: the first string under `keys`, the `_raw` payload being parsed for it. -/
def textColumn (env : Externals) (event : Json) (fields : Option Json) (keys : List Bytes)
    (memo : Memo) : Value × Memo :=
  let (rawObj, memo) := memo.raw env event
  match lookupStr [some event, fields, rawObj] keys with
  | some text => (.varchar text, memo)
  | none => (.null, memo)

/-- An attribute column: the JSON text, NULL when it is empty. -/
def attributesValue (json : Bytes) : Value := if json.isEmpty then .null else .varchar json

/-- The `switch` over `column_ids[c]`. -/
def mapColumn (env : Externals) (event : Json) (fields : Option Json) (column : Nat)
    (memo : Memo) : Value × Memo :=
  match column with
  | colTime => memo.timestamp env event
  | colObservedTime => memo.timestamp env event
  | colTraceId => textColumn env event fields [ascii "trace_id"] memo
  | colSpanId => textColumn env event fields [ascii "span_id"] memo
  | colServiceName => textColumn env event fields [ascii "service", ascii "service_name"] memo
  | colSeverityNumber =>
    match memo.severity env event fields with
    | (some s, memo) => (.integer (severityToNumber s), memo)
    | (none, memo) => (.null, memo)
  | colSeverityText =>
    match memo.severity env event fields with
    | (some s, memo) => (.varchar s, memo)
    | (none, memo) => (.null, memo)
  | colBody => textColumn env event fields [ascii "_raw", ascii "message"] memo
  | colResourceAttrs => (attributesValue (buildResourceAttributes env event), memo)
  | colLogAttrs =>
    let (rawObj, memo) := memo.raw env event
    (attributesValue (buildLogAttributes env event rawObj), memo)
  -- Columns Splunk has no data for, and virtual columns.
  | _ => (.null, memo)

/-- The `fields` object of an event, ignored when it is not an object. -/
def eventFields (event : Json) : Option Json :=
  (event.objGet (ascii "fields")).filter Json.isObj

def mapColumns (env : Externals) (event : Json) (fields : Option Json) :
    List Nat → Memo → Row
  | [], _ => []
  | column :: rest, memo =>
    let (value, memo) := mapColumn env event fields column memo
    value :: mapColumns env event fields rest memo

def mapEvent (env : Externals) (event : Json) (columnIds : List Nat) : Row :=
  mapColumns env event (eventFields event) columnIds {}

end SplunkLogs
