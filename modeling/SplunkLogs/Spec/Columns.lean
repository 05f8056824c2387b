import SplunkLogs.Model.Mapping

/-!
# What the columns of an event mean

Each column on its own, computed from the event with nothing shared or remembered, and the
meaning of the text columns on complete JSON strings.
-/
namespace SplunkLogs

/-- The value of a text column as the source reads it. -/
def textColumnValue (env : Externals) (event : Json) (keys : List Bytes) : Value :=
  match lookupStr [some event, eventFields event, parseRawObject env event] keys with
  | some text => .varchar text
  | none => .null

def severityString (env : Externals) (event : Json) : Option Bytes :=
  lookupStr [some event, eventFields event, parseRawObject env event]
    [ascii "level", ascii "severity", ascii "status"]

def timestampValue (env : Externals) (event : Json) : Value :=
  match parseSplunkTimeToNanos env (event.objGet (ascii "_time")) with
  | some nanos => .timestampNs nanos
  | none => .null

/-- One column of the unmemoised mapping. -/
def columnValue (env : Externals) (event : Json) (column : Nat) : Value :=
  match column with
  | colTime => timestampValue env event
  | colObservedTime => timestampValue env event
  | colTraceId => textColumnValue env event [ascii "trace_id"]
  | colSpanId => textColumnValue env event [ascii "span_id"]
  | colServiceName => textColumnValue env event [ascii "service", ascii "service_name"]
  | colSeverityNumber =>
    match severityString env event with
    | some s => .integer (severityToNumber s)
    | none => .null
  | colSeverityText =>
    match severityString env event with
    | some s => .varchar s
    | none => .null
  | colBody => textColumnValue env event [ascii "_raw", ascii "message"]
  | colResourceAttrs => attributesValue (buildResourceAttributes env event)
  | colLogAttrs => attributesValue (buildLogAttributes env event (parseRawObject env event))
  | _ => .null

/-- The full row of an event. -/
def fullRow (env : Externals) (event : Json) : Row :=
  (List.range columnCount).map (columnValue env event)

/-- The keys of the text columns, in the order they are tried. -/
def textKeys (column : Nat) : Option (List Bytes) :=
  match column with
  | colTraceId => some [ascii "trace_id"]
  | colSpanId => some [ascii "span_id"]
  | colServiceName => some [ascii "service", ascii "service_name"]
  | colSeverityText => some [ascii "level", ascii "severity", ascii "status"]
  | colBody => some [ascii "_raw", ascii "message"]
  | _ => none

/-- The complete string under `key`. -/
def wholeStr (object : Option Json) (key : Bytes) : Option Bytes :=
  match object.bind (·.objGet key) with
  | some (.str value) => some value
  | _ => none

/-- The first complete string under any of `keys`, sources before keys. -/
def wholeLookup (sources : List (Option Json)) (keys : List Bytes) : Option Bytes :=
  sources.findSome? fun source => keys.findSome? fun key => wholeStr source key

/-- The object a text holds, if it holds one. -/
def objectIn (env : Externals) (text : Bytes) : Option Json :=
  match env.readJson text with
  | some (.obj members) => some (.obj members)
  | _ => none

/-- The object parsed from the complete `_raw` string. -/
def rawObject (env : Externals) (event : Json) : Option Json :=
  (wholeStr (some event) (ascii "_raw")).bind (objectIn env)

/-- What a text column is meant to hold. -/
def textValue (env : Externals) (event : Json) (keys : List Bytes) : Value :=
  match wholeLookup [some event, eventFields event, rawObject env event] keys with
  | some text => .varchar text
  | none => .null

/-- The requirements on the row of a projection. -/
structure Faithful (env : Externals) (event : Json) (columnIds : List Nat) (row : Row) :
    Prop where
  length : row.length = columnIds.length
  slots : ∀ (c : Nat) (column : Nat), columnIds[c]? = some column →
    row[c]? = some ((fullRow env event).getD column .null)
  texts : ∀ (c : Nat) (column : Nat) (keys : List Bytes), columnIds[c]? = some column →
    textKeys column = some keys → row[c]? = some (textValue env event keys)
  timestamps : ∀ (c d : Nat), columnIds[c]? = some colTime →
    columnIds[d]? = some colObservedTime → row[c]? = row[d]?

/-- No NUL stands in the way of a text column: the string selected from the event or its
fields has none; and where neither has a string, `_raw` has none and neither does the
string selected from its object, or what precedes the NUL in `_raw` offers no string. -/
def Intact (env : Externals) (event : Json) (keys : List Bytes) : Prop :=
  match wholeLookup [some event, eventFields event] keys with
  | some text => 0 ∉ text
  | none =>
    match wholeStr (some event) (ascii "_raw") with
    | none => True
    | some raw =>
      -- The parser is given the text before the NUL.
      if 0 ∈ raw then wholeLookup [objectIn env (cString raw)] keys = none
      else ∀ text, wholeLookup [objectIn env raw] keys = some text → 0 ∉ text

/-- The documented severity names, in rows of one OTLP number. -/
def severityNames : List (List Bytes × Int) :=
  [([ascii "trace"], 1),
   ([ascii "debug"], 5),
   ([ascii "info", ascii "notice", ascii "ok"], 9),
   ([ascii "warn", ascii "warning"], 13),
   ([ascii "error", ascii "err"], 17),
   ([ascii "critical", ascii "crit", ascii "alert", ascii "emergency", ascii "fatal"], 21)]

/-- The documented number of a severity string; unknown strings and missing ones have 0. -/
def documentedNumber (severity : Option Bytes) : Int :=
  match severity with
  | none => 0
  | some s =>
    match severityNames.find? fun row => row.1.any fun name => ciEquals s name with
    | some row => row.2
    | none => 0

/-- What a severity string shows in `severity_text`. -/
def severityTextValue (severity : Option Bytes) : Value :=
  match severity with
  | some s => .varchar s
  | none => .null

/-- One severity string is behind both columns: the text shows it and the number is the
documented one. -/
structure SeverityDocumented (env : Externals) (event : Json) (columnIds : List Nat)
    (row : Row) : Prop where
  text : ∀ c : Nat, columnIds[c]? = some colSeverityText →
    row[c]? = some (severityTextValue (severityString env event))
  number : ∀ c : Nat, columnIds[c]? = some colSeverityNumber →
    row[c]? = some (.integer (documentedNumber (severityString env event)))

/-- The event, its fields or its payload has a string under one of the severity keys. -/
def HasSeverity (env : Externals) (event : Json) : Prop :=
  ∃ source ∈ [some event, eventFields event, parseRawObject env event],
    ∃ key ∈ [ascii "level", ascii "severity", ascii "status"],
      ∃ text, source.bind (·.objGet key) = some (Json.str text)

end SplunkLogs
