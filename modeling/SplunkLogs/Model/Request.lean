import SplunkLogs.Model.Text

/-! The export request. DuckDB's `StringUtil::URLEncode` is a parameter. -/
namespace SplunkLogs

/-- A leading `search ` unless the query begins with a Splunk command. -/
def normalizeSearchQuery (query : Bytes) : Bytes :=
  let trimmed := trim query
  if trimmed.isEmpty then ascii "search *"
  else if trimmed.head? = some 124 then trimmed
  else if startsWith (lower trimmed) (ascii "search ") then trimmed
  else ascii "search " ++ trimmed

/-- The search of a catalog table. Splunk literals escape quotes and backslashes. -/
def buildIndexQuery (indexName : Bytes) : Bytes :=
  let escaped := indexName.flatMap fun ch => if ch = 92 ∨ ch = 34 then [92, ch] else [ch]
  ascii "index=\"" ++ escaped ++ ascii "\""

/-- The form body of the export request; `count` is sent only when the rows are capped. -/
def buildExportBody (urlEncode : Bytes → Bytes) (query earliest latest : Bytes)
    (maxRows : Int) : Bytes :=
  let body := ascii "search=" ++ urlEncode (normalizeSearchQuery query)
  let body := body ++ (ascii "&earliest_time=" ++ urlEncode earliest)
  let body := body ++ (ascii "&latest_time=" ++ urlEncode latest)
  let body := body ++ ascii "&output_mode=json"
  if 0 < maxRows then body ++ (ascii "&count=" ++ decimal maxRows.toNat) else body

end SplunkLogs
