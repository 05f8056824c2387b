import SplunkLogs.Properties.Binding
import SplunkLogs.Properties.CatalogScan
import SplunkLogs.Properties.Exhaustion
import SplunkLogs.Properties.Paging
import SplunkLogs.Spec.Server

/-!
# The answer to the search that was asked for

From a statement to its rows: a call of `read_splunk_logs` or a table of a catalog is bound to a
search and a secret, the server is asked for that search with that secret, and the rows are
those of its answer.
-/
namespace SplunkLogs

/-- What the server is to be asked. -/
def Search.asked (search : Search) (base64 : Bytes → Bytes) (secretMap : SecretMap) : Asked where
  parameters := exportParameters search.query search.earliest search.latest search.maxRows
  authorizations := [authorizationValue base64 secretMap]

/-- The bound data of a statement, the search it stands for and the secret it names. -/
inductive BoundTo (secretMap : SecretMap) : Search → SplunkLogsBindData → Prop
  | call {manager params bind} : Holds manager (secretParameter params) secretMap →
      splunkLogsBind manager params = .ok bind →
      BoundTo secretMap ⟨(meantBy params).query, (meantBy params).earliest,
        (meantBy params).latest, (meantBy params).maxRows⟩ bind
  | table {manager bind} {table : SplunkTableEntry} :
      Holds manager table.secretName secretMap → table.getScanFunction manager = .ok bind →
      BoundTo secretMap ⟨buildIndexQuery table.indexName, ascii "-15m", ascii "now", 0⟩ bind

section Binding

variable {secretMap : SecretMap} {search : Search} {bind : SplunkLogsBindData}

/-- The client of a scan uses the secret of its statement. -/
theorem BoundTo.usesSecret (bound : BoundTo secretMap search bind) :
    UsesSecret secretMap (scanClient bind) := by
  cases bound with
  | call holds accepted => exact .readSplunkLogs holds accepted
  | table holds scanned => exact .tableScan holds scanned

/-- The bound data is the search. -/
theorem BoundTo.eq (bound : BoundTo secretMap search bind) :
    search = ⟨bind.query, bind.earliest, bind.latest, bind.maxRows⟩ := by
  cases bound with
  | call _ accepted =>
    obtain ⟨_, _, _, _, rfl⟩ := splunkLogsBind_meant accepted
    rfl
  | table _ scanned =>
    obtain ⟨_, _, same⟩ := bind_eq_ok.mp scanned
    cases same
    rfl

variable {w : Surroundings} (documented : w.Documented)

include documented

/-- The form of the request says what the search says. -/
theorem decodeForm_exportCall (bind : SplunkLogsBindData) (headers : List Header) :
    (Surroundings.asked (w.exportCall bind).formBody headers).parameters =
      exportParameters bind.query bind.earliest bind.latest bind.maxRows := by
  rw [Surroundings.asked]
  change Foundation.decodeForm (buildExportBody _ _ _ _ _) = _
  rw [buildExportBody_eq documented.encoder, documented.encoder.decodeForm_encodeForm]

theorem BoundTo.nativeAsked (bound : BoundTo secretMap search bind) :
    w.nativeAsked bind = search.asked w.toBase64 secretMap := by
  obtain ⟨accepted, carries⟩ := bound.usesSecret.carries
  have parameters := decodeForm_exportCall documented bind
    (w.wireHeaders (scanClient bind).connection (nativeRequest (w.exportCall bind)).headers)
  have value := authorizations_native accepted carries documented.httplib (w.exportCall bind)
  rw [bound.eq]
  exact congrArg₂ Asked.mk parameters value

theorem BoundTo.browserAsked (bound : BoundTo secretMap search bind) :
    w.browserAsked bind = search.asked w.toBase64 secretMap := by
  obtain ⟨accepted, carries⟩ := bound.usesSecret.carries
  have parameters := decodeForm_exportCall documented bind
    (browserRequest w.toBase64 (scanClient bind) (w.exportCall bind)).headers
  have value := authorizations_browser accepted carries w.toBase64 (w.exportCall bind)
  rw [bound.eq]
  exact congrArg₂ Asked.mk parameters value

end Binding

/-- For every statement that is accepted, and whatever the server answers to what it is asked:
the rows of a native scan are the first ones of the answer to the search that is meant, asked
for with the secret that is named, in every reachable state; undisturbed and run to its end, the
scan has come to all of that answer; and the pages of a browser scan are the vectors of it. -/
theorem search_answered (w : Surroundings) (documented : w.Documented) {secretMap : SecretMap}
    {search : Search} {bind : SplunkLogsBindData} (bound : BoundTo secretMap search bind)
    (columnIds : List Nat) {vectorSize : Nat} (positive : 0 < vectorSize) :
    (∀ s, (native (w.nativeScan bind columnIds positive)).Reachable s →
      s.delivered ++ s.buffer <+: (reference ⟨w.env, columnIds, search.maxRows⟩
        (w.server (search.asked w.toBase64 secretMap) s.producer.attempt).2).rows) ∧
    ((w.server (search.asked w.toBase64 secretMap) 0).1.success = true → ∀ s result,
      ((native (w.nativeScan bind columnIds positive)).restrict Undisturbed).Reachable s →
      s.result = some result → result = (reference ⟨w.env, columnIds, search.maxRows⟩
        (w.server (search.asked w.toBase64 secretMap) 0).2).result) ∧
    ∀ attempt pages last, Browser.Calls (w.input bind columnIds) vectorSize
      (fetchBrowserResponse (w.server (w.browserAsked bind) attempt).2) pages last →
      pages.flatten = (referenceRows ⟨w.env, columnIds, search.maxRows⟩
        (w.server (search.asked w.toBase64 secretMap) attempt).2).take
          (pages.length * vectorSize) := by
  have server : (w.nativeScan bind columnIds positive).server =
      w.server (search.asked w.toBase64 secretMap) :=
    congrArg w.server (bound.nativeAsked documented)
  have input : w.input bind columnIds = ⟨w.env, columnIds, search.maxRows⟩ := by
    rw [bound.eq]
    rfl
  rw [← input, ← server]
  refine ⟨?_, ?_, ?_⟩
  · intro s reachable
    rw [(native_pushed _ s reachable).1]
    exact (native_producerInv _ s reachable).inv.rows_prefix
  · intro success s result reachable ended
    exact undisturbed_result success s reachable ended
  · intro attempt pages last calls
    rw [bound.browserAsked documented, ← server] at calls
    obtain ⟨single, _⟩ := calls.pages (Browser.awaits_start _ _)
    have all := vectors_flatten single pages.length le_rfl
    rwa [List.take_length] at all

/-- A server with one record; `YTpi` is the Base64 text of `a:b`. -/
def oneRecordSurroundings : Surroundings where
  env := .ofRecords [(oneRecord, oneEvent)]
  urlEncode := Foundation.percentEncode
  toBase64 _ := ascii "YTpi"
  wireHeaders := plainWireHeaders fun _ => ascii "YTpi"
  overlongShift _ := 1
  server _ _ := (⟨200, none⟩, oneRecord ++ [newline])

/-- What a call is bound to that names a secret and nothing else. -/
def localBind : SplunkLogsBindData where
  client := ({} : SplunkClient).withCredentials (readCredentials (ascii "local") basicMap)

/-- Its only page. -/
theorem search_answered_one_row :
    splunkLogsBind basicManager [.secret (some (ascii "local"))] = .ok localBind ∧
    ∃ page last, Browser.Calls (oneRecordSurroundings.input localBind [colBody]) 1
        (fetchBrowserResponse (oneRecord ++ [newline])) [page] last ∧
      page = [[.varchar (ascii "a")]] := by
  have documented : oneRecordSurroundings.Documented :=
    ⟨Foundation.percentEncoder_percentEncode,
      plainWireHeaders_authorization fun _ => ascii "YTpi"⟩
  have holds : Holds basicManager (ascii "local") basicMap :=
    ⟨⟨ascii "local", ascii "splunk", some basicMap⟩, rfl, rfl, rfl⟩
  have accepted : splunkLogsBind basicManager [.secret (some (ascii "local"))] =
      .ok localBind := rfl
  have reads := Browser.scan_reads (oneRecordSurroundings.input localBind [colBody]) 1
    (fetchBrowserResponse (oneRecord ++ [newline]))
  rcases returned : (fetchBrowserResponse (oneRecord ++ [newline])).scan
    (oneRecordSurroundings.input localBind [colBody]) 1 with ⟨next, error | page⟩
  · rw [returned] at reads
    cases reads
  · have calls := Browser.Calls.next returned (.none next)
    have shown := (search_answered oneRecordSurroundings documented (.call holds accepted)
      [colBody] Nat.one_pos).2.2 0 _ _ calls
    refine ⟨accepted, page, next, calls, ?_⟩
    rw [List.flatten_singleton] at shown
    exact shown

end SplunkLogs
