import Mathlib.Data.List.DropRight
import SplunkLogs.Model.Mapping

/-! One record of the export stream: its error messages and its events. -/
namespace SplunkLogs

/-- The `IOException` of an ERROR or FATAL message, as the two C strings put in its text. -/
structure SearchError where
  type : Bytes
  text : Bytes
  deriving DecidableEq

def SearchError.message (error : SearchError) : Bytes :=
  ascii "Splunk search error (" ++ error.type ++ ascii "): " ++ error.text

/-- The events of a parsed record, in the order `on_event` sees them. -/
def extractEventsFromRoot (root : Json) : List Json :=
  if !root.isObj then []
  else
    match root.objGet (ascii "preview") with
    -- A preview repeats results that come again later.
    | some (.bool true) => []
    | _ =>
      match root.objGet (ascii "result") with
      | some (.obj members) => [.obj members]
      | _ =>
        match root.objGet (ascii "results") with
        | some (.arr items) => items.filter Json.isObj
        | _ =>
          -- A flat event; a control record has none of these keys.
          if (root.objGet (ascii "_time")).isSome || (root.objGet (ascii "_raw")).isSome ||
              (root.objGet (ascii "message")).isSome then [root]
          else []

/-- The error a message stands for, if its type is FATAL or ERROR in any letter case. -/
def messageError (msg : Json) : Option SearchError :=
  match getStr (some msg) (ascii "type") with
  | some type =>
    if ciEquals type (ascii "FATAL") || ciEquals type (ascii "ERROR") then
      some ⟨type, (getStr (some msg) (ascii "text")).getD (ascii "(no detail)")⟩
    else none
  | none => none

/-- The first error among the messages of a record. -/
def throwIfSearchError (root : Json) : Except SearchError Unit :=
  match root.objGet (ascii "messages") with
  | some (.arr messages) =>
    match messages.findSome? messageError with
    | some error => .error error
    | none => .ok ()
  | _ => .ok ()

/-- A record without its trailing carriage returns. -/
def stripCarriageReturns (line : Bytes) : Bytes := line.rdropWhile (· == carriageReturn)

/-- The events of one line. An empty or unparseable line has none. -/
def parseExportLine (env : Externals) (line : Bytes) : Except SearchError (List Json) :=
  let record := stripCarriageReturns line
  if record.isEmpty then .ok []
  else
    match env.readJson record with
    | none => .ok []
    | some root => do
      -- The error is thrown before any event of the record is seen.
      throwIfSearchError root
      .ok (extractEventsFromRoot root)

@[simp] theorem parseExportLine_nil (env : Externals) : parseExportLine env [] = .ok [] := rfl

end SplunkLogs
