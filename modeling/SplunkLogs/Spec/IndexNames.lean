import SplunkLogs.Model.Catalog

/-!
# The tables an attached catalog is meant to have

The names written in the `INDEXES` option, or else in the discovery response, each once; and
how they are found.
-/
namespace SplunkLogs

/-- The value of an option; a later one replaces an earlier one. -/
def lastOption (options : List (Bytes × AttachValue)) (key : Bytes) : Option AttachValue :=
  (options.reverse.find? fun option => lower option.1 == key).map Prod.snd

def AttachValue.text : AttachValue → Option Bytes
  | .varchar text => some text
  | _ => none

/-- The elements of a list that are VARCHAR. -/
def AttachValue.texts : AttachValue → List Bytes
  | .list _ children => children.filterMap AttachValue.text
  | _ => []

/-- The complete name of an entry of the discovery response. -/
def entryName (entry : Json) : Option Bytes :=
  match entry.objGet (ascii "name") with
  | some (.str name) => some name
  | _ => none

/-- The response that discovery is given for the secret of the options, taken apart. -/
def discoveryEntries (env : Externals) (manager : SecretManager)
    (listIndexes : SplunkClient → Except Exception Bytes)
    (options : List (Bytes × AttachValue)) : Except Exception (List Json) := do
  let secretName := ((lastOption options (ascii "secret")).bind AttachValue.text).getD []
  let credentials ← getSplunkCredentials manager secretName
  let response ← listIndexes (discoveryClient credentials)
  discoveredEntries env response

/-- The non-empty names, as they are written. -/
def writtenNames (env : Externals) (manager : SecretManager)
    (listIndexes : SplunkClient → Except Exception Bytes)
    (options : List (Bytes × AttachValue)) : List Bytes :=
  match lastOption options (ascii "indexes") with
  | some value => value.texts
  | none =>
    match discoveryEntries env manager listIndexes options with
    | .ok entries => (entries.filterMap entryName).filter (!·.isEmpty)
    | .error _ => []

/-- Every list of names given is one of non-empty VARCHARs; the tables are the names in order
of first occurrence, each scanning its own index; a table is found by its exact name, another
name finds the first table that equals it without regard to case, and none only where there
is no such table. -/
structure AttachedIndexes (names : List Bytes) (options : List (Bytes × AttachValue))
    (schema : SplunkSchemaEntry) : Prop where
  given : ∀ option ∈ options, lower option.1 = ascii "indexes" →
    ∃ texts : List Bytes, option.2 = .list .varchar (texts.map .varchar) ∧ [] ∉ texts
  listed : (schema.scan .tableEntry).map SplunkTableEntry.name = names.eraseDups
  scans : ∀ table ∈ schema.scan .tableEntry, table.indexName = table.name
  exact : ∀ table ∈ schema.scan .tableEntry,
    schema.lookupEntry .tableEntry table.name = some table
  found : ∀ name table, schema.lookupEntry .tableEntry name = some table →
    table ∈ schema.scan .tableEntry ∧ ciEquals table.name name = true
  missing : ∀ name, schema.lookupEntry .tableEntry name = none ↔
    ∀ table ∈ schema.scan .tableEntry, ciEquals table.name name = false
  folded : ∀ name, (∀ table ∈ schema.scan .tableEntry, table.name ≠ name) →
    schema.lookupEntry .tableEntry name =
      (schema.scan .tableEntry).find? fun table => ciEquals table.name name

end SplunkLogs
