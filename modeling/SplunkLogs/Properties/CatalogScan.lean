import SplunkLogs.Properties.AttachedIndexes
import SplunkLogs.Properties.Authentication
import SplunkLogs.Properties.FormBody
import SplunkLogs.Properties.IndexQuery

/-!
# From `ATTACH` to the request of a table

The secret is chosen when the catalog is attached and its name is pinned to every table; the
credentials are read again for each scan. The request of a table restricts the search to its
index and asks for nothing else.
-/
namespace SplunkLogs

open Foundation

/-- The secret that the options of `ATTACH` name; empty for none. -/
def secretOption (options : List (Bytes × AttachValue)) : Bytes :=
  ((lastOption options (ascii "secret")).bind AttachValue.text).getD []

/-- The request that a scan sends says this much: the search is restricted to one index. -/
structure SearchesIndex (urlEncode : Bytes → Bytes) (index : Bytes) (bind : SplunkLogsBindData) :
    Prop where
  parameters : ∃ search,
    decodeForm (buildExportBody urlEncode bind.query bind.earliest bind.latest bind.maxRows) =
      [(ascii "search", search), (ascii "earliest_time", ascii "-15m"),
        (ascii "latest_time", ascii "now"), (ascii "output_mode", ascii "json")] ∧
    lexQuotes .outside search =
      some ((ascii "search index=").map .plain ++ [.literal index])

theorem searchesIndex_table {urlEncode : Bytes → Bytes} (encoder : PercentEncoder urlEncode)
    (index : Bytes) (client : SplunkClient) :
    SearchesIndex urlEncode index { query := buildIndexQuery index, client := client } := by
  refine ⟨normalizeSearchQuery (buildIndexQuery index), ?_, ?_⟩
  · rw [buildExportBody_eq encoder, encoder.decodeForm_encodeForm]
    rfl
  · rw [normalizeSearchQuery_index]
    exact lexQuotes_literal (by decide) index

/-- A table is bound by reading its secret again; nothing else can go wrong. -/
theorem getScanFunction_eq (manager : SecretManager) (table : SplunkTableEntry) :
    table.getScanFunction manager =
      (getSplunkCredentials manager table.secretName).map fun credentials =>
        { query := buildIndexQuery table.indexName, client := discoveryClient credentials } := by
  simp only [SplunkTableEntry.getScanFunction, getSplunkLogsTableScan]
  cases getSplunkCredentials manager table.secretName <;> rfl

/-- The tables of a successful attachment share the secret that was checked then. -/
theorem attachSplunk_secret {env : Externals} {manager : SecretManager}
    {listIndexes : SplunkClient → Except Exception Bytes} {path : Bytes}
    {options : List (Bytes × AttachValue)} {schema : SplunkSchemaEntry}
    (attached : attachSplunk env manager listIndexes path options = .ok schema) :
    ∃ credentials indexes,
      getSplunkCredentials manager (secretOption options) = .ok credentials ∧
      schema = .create indexes (if (secretOption options).isEmpty then credentials.name
        else secretOption options) := by
  unfold attachSplunk at attached
  split at attached
  · cases attached
  · obtain ⟨locals, folded, attached⟩ := bind_eq_ok.mp attached
    obtain ⟨credentials, accepted, attached⟩ := bind_eq_ok.mp attached
    obtain ⟨indexes, _, same⟩ := bind_eq_ok.mp attached
    cases same
    have named : locals.secretName = secretOption options := (foldlM_attachOption folded).secret
    exact ⟨credentials, indexes, named ▸ accepted, by rw [named]⟩

/-- For every catalog that was attached: its secret gave credentials then, and all its tables
are pinned to that secret. Whatever the manager holds later, a table that is looked up by some
name, equal to its own up to case, is bound exactly if the pinned secret still gives credentials;
its scan then uses those, and its request searches the index of the table and nothing else. -/
theorem attached_table_scans_index {urlEncode : Bytes → Bytes}
    (encoder : PercentEncoder urlEncode) {env : Externals} {manager : SecretManager}
    {listIndexes : SplunkClient → Except Exception Bytes} {path : Bytes}
    {options : List (Bytes × AttachValue)} {schema : SplunkSchemaEntry}
    (attached : attachSplunk env manager listIndexes path options = .ok schema) :
    ∃ credentials pinned,
      getSplunkCredentials manager (secretOption options) = .ok credentials ∧
      pinned = (if secretOption options = [] then credentials.name else secretOption options) ∧
      ∀ name table, schema.lookupEntry .tableEntry name = some table →
        ciEquals table.indexName name = true ∧
        ∀ later : SecretManager,
          (∀ error, getSplunkCredentials later pinned = .error error →
            table.getScanFunction later = .error error) ∧
          ∀ current, getSplunkCredentials later pinned = .ok current →
            ∃ bind, table.getScanFunction later = .ok bind ∧
              scanClient bind = discoveryClient current ∧
              SearchesIndex urlEncode table.indexName bind := by
  obtain ⟨credentials, indexes, resolved, rfl⟩ := attachSplunk_secret attached
  refine ⟨credentials, _, resolved, rfl, ?_⟩
  intro name table found
  obtain ⟨member, folded⟩ := findTwoPass_some found
  obtain ⟨index, _, rfl⟩ := List.mem_map.mp member
  refine ⟨beq_iff_eq.mpr folded, ?_⟩
  simp only [List.isEmpty_iff]
  intro later
  constructor
  · intro error failed
    rw [getScanFunction_eq, failed]
    rfl
  · intro current resolved
    refine ⟨{ query := buildIndexQuery index, client := discoveryClient current }, ?_, rfl, ?_⟩
    · rw [getScanFunction_eq, resolved]
      rfl
    · exact searchesIndex_table encoder index _

/-- The table `MAIN` of a catalog attached with a secret and three names. -/
theorem attached_table_scans_index_main :
    ∃ bind, (SplunkTableEntry.mk (ascii "main") (ascii "main") (ascii "local")).getScanFunction
        basicManager = .ok bind ∧ SearchesIndex percentEncode (ascii "main") bind := by
  have attached : attachSplunk (.ofRecords []) basicManager (fun _ => .ok []) (ascii "splunk:")
      ((ascii "SECRET", .varchar (ascii "local")) :: threeNames) =
        .ok (.create [ascii "main", ascii "Main"] (ascii "local")) := rfl
  obtain ⟨credentials, pinned, _, same, tables⟩ :=
    attached_table_scans_index percentEncoder_percentEncode attached
  have named : pinned = ascii "local" := same
  subst named
  obtain ⟨_, scans⟩ := tables (ascii "MAIN") _ rfl
  obtain ⟨bind, bound, _, searches⟩ := (scans basicManager).2 _ rfl
  exact ⟨bind, bound, searches⟩

end SplunkLogs
