import SplunkLogs.Model.Mapping

/-!
# The output schema

`GetSplunkLogsSchema`: the columns of `read_splunk_logs` and of every catalog table.
-/
namespace SplunkLogs

/-- The logical types of the columns. -/
inductive ColumnType where
  | timestampNs
  | varchar
  | integer
  deriving DecidableEq

/-- `GetSplunkLogsSchema`: the types and the names, in the order of the columns. -/
def getSplunkLogsSchema : List ColumnType × List Bytes :=
  let names :=
    [ascii "time_unix_nano", ascii "observed_time_unix_nano", ascii "trace_id", ascii "span_id",
     ascii "service_name", ascii "service_namespace", ascii "service_instance_id",
     ascii "severity_number", ascii "severity_text", ascii "event_name", ascii "body",
     ascii "resource_attributes", ascii "scope_name", ascii "scope_version",
     ascii "scope_attributes", ascii "log_attributes", ascii "dropped_attributes_count",
     ascii "flags"]
  let types :=
    [.timestampNs, .timestampNs, .varchar, .varchar,
     .varchar, .varchar, .varchar, .integer,
     .varchar, .varchar, .varchar, .varchar,
     .varchar, .varchar, .varchar, .varchar,
     .integer, .integer]
  (types, names)

/-- The columns `SplunkTableEntry::CreateInfo` adds to a table. -/
def tableColumns : List (Bytes × ColumnType) :=
  getSplunkLogsSchema.2.zip getSplunkLogsSchema.1

/-- The assertion on the schema; the names of a table's columns must differ as well. -/
theorem tableColumns_wellFormed :
    getSplunkLogsSchema.2.length = columnCount ∧ getSplunkLogsSchema.1.length = columnCount ∧
      (tableColumns.map Prod.fst).Nodup := by
  decide

end SplunkLogs
