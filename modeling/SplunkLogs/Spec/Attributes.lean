import SplunkLogs.Foundation.FirstWins
import SplunkLogs.Model.Mapping

/-!
# What the attribute columns mean

Each of the two columns is the text of one object. The fields in these objects are given here
without the loops that collect them.
-/
namespace SplunkLogs

open Foundation (addNew)

/-- The text of an attribute column: no text for no fields. -/
def attributesText (env : Externals) (fields : List (Bytes × Json)) : Bytes :=
  if fields.isEmpty then [] else env.writeJson (.obj fields)

/-- The members of a source, none if it is not an object. -/
def sourceMembers : Option Json → List (Bytes × Json)
  | some (.obj members) => members
  | _ => []

/-- Members under the keys the code reads, which end at their first NUL. -/
def readFields (members : List (Bytes × Json)) : List (Bytes × Json) :=
  members.map fun member => (cString member.1, member.2)

/-- The fields that belong in `log_attributes`. -/
def visibleFields (members : List (Bytes × Json)) : List (Bytes × Json) :=
  (readFields members).filter fun field => !isInternalField field.1

/-- The fields of `log_attributes`: those of the event, then the new ones of the payload. -/
def logFields (members : List (Bytes × Json)) (rawObj : Option Json) : List (Bytes × Json) :=
  (visibleFields members ++ visibleFields (sourceMembers rawObj)).foldl addNew []

/-- The fields of `resource_attributes`. -/
def resourceFields (event : Json) : List (Bytes × Json) :=
  resourceKeys.filterMap fun mapping =>
    (getStr (some event) mapping.1).map fun value => (mapping.2, Json.str value)

/-- The names of fields that are promoted to resource attributes, or are noise of the index. -/
def internalNames : List Bytes :=
  [ascii "host", ascii "source", ascii "sourcetype", ascii "index", ascii "splunk_server",
    ascii "linecount", ascii "punct", ascii "eventtype"]

/-- An internal field has one of these names or one that begins with an underscore. -/
def Internal (key : Bytes) : Prop := key.head? = some 95 ∨ key ∈ internalNames

instance (key : Bytes) : Decidable (Internal key) := inferInstanceAs (Decidable (_ ∨ _))

/-- The keys of a source that are not internal, as often as they occur. -/
def shownKeys (members : List (Bytes × Json)) : List Bytes :=
  ((readFields members).map Prod.fst).filter fun key => ¬Internal key

/-- The union of two sources in which the first one wins, without internal fields. -/
structure LeftBiasedUnion (first second fields : List (Bytes × Json)) : Prop where
  distinct : (fields.map Prod.fst).Nodup
  /-- A field has the value of its first occurrence, in the first source if it is there. -/
  values : ∀ key value, (key, value) ∈ fields ↔ ¬Internal key ∧
    ((readFields first).lookup key).or ((readFields second).lookup key) = some value
  /-- The fields of the first source in order of first occurrence, then the new ones. -/
  order : fields.map Prod.fst = (shownKeys first).eraseDups ++
    ((shownKeys second).filter fun key => key ∉ shownKeys first).eraseDups

/-- The field stands in `resource_attributes` under its mapped key. -/
def InResourceAttributes (event : Json) (key : Bytes) (value : Json) : Prop :=
  ∃ otlpKey, (key, otlpKey) ∈ resourceKeys ∧ (otlpKey, value) ∈ resourceFields event

/-- The field stands in `log_attributes`. -/
def InLogAttributes (members : List (Bytes × Json)) (rawObj : Option Json) (key : Bytes)
    (value : Json) : Prop :=
  (key, value) ∈ logFields members rawObj

/-- Exactly one bag has the field: a metadata field `resource_attributes`, any other field
`log_attributes`, where it leaves the resource attributes as they are without it. -/
def ReachesOneBag (members : List (Bytes × Json)) (rawObj : Option Json) (key : Bytes)
    (value : Json) : Prop :=
  if isResourceKey key then
    InResourceAttributes (.obj members) key value ∧
      ∀ other, ¬InLogAttributes members rawObj key other
  else
    InLogAttributes members rawObj key value ∧
      (∀ other, ¬InResourceAttributes (.obj members) key other) ∧
      resourceFields (.obj (members.filter fun member => member.1 != key)) =
        resourceFields (.obj members)

/-- A metadata field is a string without a NUL; any other field has a key without a NUL and
comes before all others with that key up to their first NUL, or has the same value. -/
def Carried (members : List (Bytes × Json)) (key : Bytes) (value : Json) : Prop :=
  if isResourceKey key then ∃ text, value = .str text ∧ 0 ∉ text
  else 0 ∉ key ∧ (readFields members).lookup key = some value

end SplunkLogs
