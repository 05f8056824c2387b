import SplunkLogs.Model.Response

/-!
# What one line means

The reading of a line on its own: the record on it, the failure the record reports and the
events it holds.
-/
namespace SplunkLogs

/-- What a line holds in front of the carriage returns at its end. -/
def lineContent : Bytes → Bytes
  | [] => []
  | byte :: rest =>
    match lineContent rest with
    | [] => if byte = carriageReturn then [] else [byte]
    | content => byte :: content

/-- The value of the first member with a name. -/
def Json.member (json : Json) (name : Bytes) : Option Json :=
  match json with
  | .obj members => members.lookup name
  | _ => none

/-- The text of a member as far as it can be printed. -/
def Json.memberText (json : Json) (name : Bytes) : Option Bytes :=
  match json.member name with
  | some (.str text) => some (text.takeWhile (· != 0))
  | _ => none

/-- The types of messages that fail a search. -/
def failureTypes : List Bytes := [ascii "ERROR", ascii "FATAL"]

/-- A text in capital letters. -/
def capitals (text : Bytes) : Bytes :=
  text.map fun byte => if 97 ≤ byte ∧ byte ≤ 122 then byte - 32 else byte

/-- The failure a message reports: its type is ERROR or FATAL, written in any letters. -/
def messageFailure (message : Json) : Option SearchError :=
  (message.memberText (ascii "type")).bind fun type =>
    if capitals type ∈ failureTypes then
      some ⟨type, (message.memberText (ascii "text")).getD (ascii "(no detail)")⟩
    else none

/-- The failure a record reports: that of the first of its messages with one. -/
def recordFailure (root : Json) : Option SearchError :=
  match root.member (ascii "messages") with
  | some (.arr messages) => (messages.filterMap messageFailure).head?
  | _ => none

/-- The names of members that make a record an event. -/
def eventNames : List Bytes := [ascii "_time", ascii "_raw", ascii "message"]

/-- The events a record holds, none if it is a preview: the one it wraps, or those it lists,
or itself. -/
def recordEvents (root : Json) : List Json :=
  match root.member (ascii "preview"), root.member (ascii "result"),
    root.member (ascii "results") with
  | some (.bool true), _, _ => []
  | _, some (.obj event), _ => [.obj event]
  | _, _, some (.arr items) => items.filter Json.isObj
  | _, _, _ => if ∃ name ∈ eventNames, (root.member name).isSome then [root] else []

/-- What a line says: a failure, or events. A line that is empty or cannot be parsed says
nothing. -/
def readLine (env : Externals) (line : Bytes) : Except SearchError (List Json) :=
  match lineContent line with
  | [] => .ok []
  | content =>
    match env.readJson content with
    | none => .ok []
    | some root =>
      match recordFailure root with
      | some failure => .error failure
      | none => .ok (recordEvents root)

end SplunkLogs
