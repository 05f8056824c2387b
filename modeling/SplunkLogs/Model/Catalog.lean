import SplunkLogs.Model.Bind
import SplunkLogs.Model.Json

/-!
# The Splunk catalog

`ATTACH 'splunk:'`: the index names, given or discovered, and the `logs` schema with one table
for each of them.
-/
namespace SplunkLogs

/-- A logical type, as far as the options of `ATTACH` look at it. -/
inductive LogicalType where
  | varchar
  | list (child : LogicalType)
  | other (id : Nat)
  deriving DecidableEq

/-- A value given to an option of `ATTACH`. -/
inductive AttachValue where
  | null (type : LogicalType)
  | varchar (text : Bytes)
  | list (childType : LogicalType) (children : List AttachValue)
  | other (id : Nat)

/-- One round of the loop over the elements; `seen` holds the names of `result`. -/
def pushExplicit (result : List Bytes) (child : AttachValue) : Except Exception (List Bytes) :=
  match child with
  | .varchar name =>
    if name.isEmpty then
      .error (.invalidInput
        (ascii "Splunk ATTACH option INDEXES must not contain empty index names"))
    else if result.contains name then .ok result
    else .ok (result ++ [name])
  | _ =>
    .error (.invalidInput
      (ascii "Splunk ATTACH option INDEXES must contain only non-null VARCHAR names"))

def parseExplicitIndexes (value : AttachValue) : Except Exception (List Bytes) :=
  match value with
  | .list .varchar children => children.foldlM pushExplicit []
  | _ => .error (.invalidInput (ascii "Splunk ATTACH option INDEXES must be a VARCHAR[]"))

/-- One round of the loop over the entries of the response. -/
def pushDiscovered (result : List Bytes) (entry : Json) : List Bytes :=
  if entry.isObj then
    match entry.objGet (ascii "name") with
    | some (.str value) =>
      -- A `std::string` made of the C string that `yyjson_get_str` returns.
      let name := cString value
      if !name.isEmpty && !result.contains name then result ++ [name] else result
    | _ => result
  else result

/-- `root` and `entry` of a response, both checked. -/
def discoveredEntries (env : Externals) (response : Bytes) : Except Exception (List Json) :=
  match env.readJson response with
  | none => .error (.io (ascii "Splunk index discovery returned invalid JSON"))
  | some root =>
    match root.objGet (ascii "entry") with
    | some (.arr entries) => .ok entries
    | _ =>
      .error (.io (ascii "Splunk index discovery response did not contain an entry array"))

def parseDiscoveredIndexes (env : Externals) (response : Bytes) :
    Except Exception (List Bytes) := do
  let entries ← discoveredEntries env response
  return entries.foldl pushDiscovered []

/-- `SplunkTableEntry`; the name of the table is that of its index. -/
structure SplunkTableEntry where
  name : Bytes
  indexName : Bytes
  secretName : Bytes
  deriving DecidableEq

/-- `SplunkSchemaEntry`, the schema `logs`. -/
structure SplunkSchemaEntry where
  tables : List SplunkTableEntry

def SplunkSchemaEntry.create (indexes : List Bytes) (secretName : Bytes) : SplunkSchemaEntry where
  tables := indexes.map fun index => { name := index, indexName := index, secretName }

inductive CatalogType where
  | tableEntry
  | other (id : Nat)
  deriving DecidableEq

/-- The entries `Scan` calls back with. -/
def SplunkSchemaEntry.scan (schema : SplunkSchemaEntry) (type : CatalogType) :
    List SplunkTableEntry :=
  if type ≠ .tableEntry then [] else schema.tables

def SplunkSchemaEntry.lookupEntry (schema : SplunkSchemaEntry) (type : CatalogType)
    (name : Bytes) : Option SplunkTableEntry :=
  if type ≠ .tableEntry then none
  else
    -- Exact matches first, then the usual case-insensitive lookup.
    (schema.tables.find? fun table => table.name == name).or
      (schema.tables.find? fun table => ciEquals table.name name)

/-- `GetScanFunction` of a table. -/
def SplunkTableEntry.getScanFunction (manager : SecretManager) (table : SplunkTableEntry) :
    Except Exception SplunkLogsBindData :=
  getSplunkLogsTableScan manager table.secretName table.indexName

/-- The locals of `AttachSplunk` that its options set; `indexes` is `none` until supplied. -/
structure AttachLocals where
  secretName : Bytes := []
  indexes : Option (List Bytes) := none

/-- One round of the loop over the options. -/
def attachOption (locals : AttachLocals) (option : Bytes × AttachValue) :
    Except Exception AttachLocals :=
  let key := lower option.1
  if key == ascii "secret" then
    match option.2 with
    | .varchar secretName =>
      if secretName.isEmpty then
        .error (.invalidInput (ascii "Splunk ATTACH option SECRET must not be empty"))
      else .ok { locals with secretName := secretName }
    | _ =>
      .error (.invalidInput
        (ascii "Splunk ATTACH option SECRET must be a non-null VARCHAR name"))
  else if key == ascii "indexes" then do
    let indexes ← parseExplicitIndexes option.2
    return { locals with indexes := some indexes }
  else
    .error (.invalidInput (ascii "Unsupported Splunk ATTACH option '" ++ option.1 ++
      ascii "'; supported options are SECRET and INDEXES"))

/-- The client of index discovery. -/
def discoveryClient (credentials : SplunkCredentials) : SplunkClient :=
  ({} : SplunkClient).withCredentials credentials

/-- The indexes supplied, or else those discovered; `listIndexes` is what the network answers
to a client's `ListIndexes`. -/
def selectIndexes (env : Externals) (listIndexes : SplunkClient → Except Exception Bytes)
    (credentials : SplunkCredentials) (locals : AttachLocals) : Except Exception (List Bytes) :=
  match locals.indexes with
  -- Explicit names keep the attachment off the network.
  | some indexes => .ok indexes
  | none => do
    let response ← listIndexes (discoveryClient credentials)
    parseDiscoveredIndexes env response

def attachSplunk (env : Externals) (manager : SecretManager)
    (listIndexes : SplunkClient → Except Exception Bytes) (path : Bytes)
    (options : List (Bytes × AttachValue)) : Except Exception SplunkSchemaEntry := do
  if path != ascii "splunk:" then
    throw (.invalidInput (ascii "Splunk catalogs must be attached from the path 'splunk:'"))
  let locals ← options.foldlM attachOption {}
  -- The secret is validated and pinned when the catalog is attached.
  let credentials ← getSplunkCredentials manager locals.secretName
  let secretName := if locals.secretName.isEmpty then credentials.name else locals.secretName
  let indexes ← selectIndexes env listIndexes credentials locals
  return SplunkSchemaEntry.create indexes secretName

end SplunkLogs
