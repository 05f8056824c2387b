import SplunkLogs.Properties.BrowserBuffer
import SplunkLogs.Properties.Exceptions
import SplunkLogs.Properties.Handover

/-!
# Where rows come from

In both builds every row of a scan is an event of one line of the response, mapped. What holds
of all mapped events so holds of all rows.
-/
namespace SplunkLogs

/-- The row of an event on some line of a response. -/
def RowOf (input : ScanInput) (body : Bytes) (row : Row) : Prop :=
  ∃ line ∈ body.splitOn newline, ∃ event ∈ lineEvents input line,
    row = mapEvent input.env event input.columnIds

theorem rowOf_iff {input : ScanInput} {body : Bytes} {row : Row} :
    RowOf input body row ↔ row ∈ lineRows input (body.splitOn newline) := by
  constructor
  · rintro ⟨line, member, event, read, rfl⟩
    exact List.mem_map_of_mem (List.mem_flatMap_of_mem member read)
  · intro read
    obtain ⟨event, member, rfl⟩ := List.mem_map.mp read
    obtain ⟨line, inside, read⟩ := List.mem_flatMap.mp member
    exact ⟨line, inside, event, read, rfl⟩

section Reference

variable {input : ScanInput} {row : Row}

theorem mapEvents_mem {next : Nat → Outcome} {rest : List Row}
    (later : ∀ n, row ∈ (next n).rows → row ∈ rest) (events : List Json) (produced : Nat)
    (read : row ∈ (mapEvents input next produced events).rows) :
    row ∈ events.map (fun event => mapEvent input.env event input.columnIds) ++ rest := by
  induction events generalizing produced with
  | nil => exact later produced read
  | cons event events ih =>
    simp only [mapEvents] at read
    split at read
    · simp [Outcome.done] at read
    · rw [Outcome.prepend_rows, List.singleton_append, List.mem_cons] at read
      rcases read with rfl | read
      · exact List.mem_cons_self
      · exact List.mem_cons_of_mem _ (ih _ read)

theorem referenceLines_mem (lines : List Bytes) (produced : Nat)
    (read : row ∈ (referenceLines input lines produced).rows) : row ∈ lineRows input lines := by
  induction lines generalizing produced with
  | nil => simp [referenceLines, Outcome.done] at read
  | cons line rest ih =>
    simp only [referenceLines_cons] at read
    split at read
    · simp [Outcome.failed] at read
    next events parsed =>
      have own : lineEvents input line = events := lineEvents_of_ok parsed
      rw [lineRows, List.flatMap_cons, List.map_append, own]
      exact mapEvents_mem ih _ _ read

/-- An error of the reading is the error of a line. -/
theorem mapEvents_error {next : Nat → Outcome} {found : SearchError} {P : Prop}
    (later : ∀ n, (next n).error = some found → P) (events : List Json) (produced : Nat)
    (failed : (mapEvents input next produced events).error = some found) : P := by
  induction events generalizing produced with
  | nil => exact later produced failed
  | cons event events ih =>
    simp only [mapEvents] at failed
    split at failed
    · simp [Outcome.done] at failed
    · exact ih _ failed

theorem referenceLines_error {found : SearchError} (lines : List Bytes) (produced : Nat)
    (failed : (referenceLines input lines produced).error = some found) :
    ∃ line ∈ lines, parseExportLine input.env line = .error found := by
  induction lines generalizing produced with
  | nil => simp [referenceLines, Outcome.done] at failed
  | cons line rest ih =>
    simp only [referenceLines_cons] at failed
    split at failed
    next error parsed =>
      obtain rfl : error = found := by simpa [Outcome.failed] using failed
      exact ⟨line, List.mem_cons_self, parsed⟩
    next events _ =>
      obtain ⟨other, member, same⟩ := mapEvents_error (fun n failed => ih n failed) events _ failed
      exact ⟨other, List.mem_cons_of_mem _ member, same⟩

end Reference

/-- Natively, in every reachable state. -/
theorem native_rowOf (sys : Setup) (s : State) (reachable : (native sys).Reachable s) (row : Row)
    (handed : row ∈ s.delivered ++ s.buffer) :
    RowOf sys.input (sys.server s.producer.attempt).2 row := by
  rw [(native_pushed sys s reachable).1] at handed
  have read := (native_producerInv sys s reachable).inv.rows_prefix.mem handed
  exact rowOf_iff.mpr (referenceLines_mem _ _ read)

section Browser

variable {vectorSize : Nat}

theorem OneRecord.rowOf {input : ScanInput} {body : Bytes} {rows : List Row}
    (one : OneRecord input body rows) {row : Row} (waits : row ∈ rows) : RowOf input body row := by
  obtain ⟨line, member, part⟩ := one
  rw [rowOf_iff]
  have own : row ∈ lineRows input [line] := part.subset waits
  simp only [lineRows, List.flatMap_cons, List.flatMap_nil, List.append_nil] at own
  obtain ⟨event, read, rfl⟩ := List.mem_map.mp own
  exact List.mem_map_of_mem (List.mem_flatMap_of_mem member read)

/-- The second loop of the scan adds rows of the response. -/
theorem parseRecords_rowOf {input : ScanInput} {page : Page} (response : Bytes) (offset : Nat)
    (ordered : page.Ordered vectorSize)
    (start : offset < response.length → Foundation.AtStart newline (response.take offset))
    (known : ∀ row ∈ page.rows, RowOf input response row) :
    ∀ row ∈ (parseRecords input vectorSize response offset page).2.1.rows,
      RowOf input response row := by
  fun_induction parseRecords input vectorSize response offset page with
  | case1 => exact known
  | case2 => exact known
  | case3 offset page inside _ events parsed _ ih =>
    obtain ⟨kept, _, added, first, rows⟩ := Page.events_rows input events ordered
    refine ih kept (atStart_recordEnd response offset) fun row member => ?_
    rw [rows] at member
    rcases List.mem_append.mp member with before | new
    · exact known row before
    · obtain ⟨event, read, rfl⟩ := List.mem_map.mp (first.mem new)
      exact ⟨_, record_mem (start inside.2), event, (lineEvents_of_ok parsed).symm ▸ read, rfl⟩
  | case4 => exact known

/-- The rows of a call that returns. -/
theorem Browser.Decoded.rowOf {input : ScanInput} {state : Browser} {page : List Row}
    (decoded : state.Decoded input) (returned : (state.scan input vectorSize).2 = .ok page) :
    ∀ row ∈ page, RowOf input state.response row := by
  have drained : ∀ row ∈ (state.drainBuffer vectorSize).rows,
      RowOf input state.response row := by
    intro row member
    apply decoded.waiting.rowOf
    simpa [Page.rows, drainBuffer] using member
  have known := parseRecords_rowOf state.response state.responseOffset
    (state.drainBuffer_ordered vectorSize) decoded.start drained
  unfold Browser.scan at returned
  generalize parseRecords input vectorSize state.response state.responseOffset
    (state.drainBuffer vectorSize) = parsed at returned known
  obtain ⟨offset, decodedPage, _ | error⟩ := parsed
  · obtain rfl := Except.ok.inj returned
    exact fun row member => known row (List.mem_append_left _ member)
  · cases returned

/-- The response does not change once it is there. -/
theorem response_kept {input : ScanInput} {url : Bytes} (answers : List BrowserAnswer)
    (browser : Browser) :
    (answers.foldl (fun state answer => (state.scan input vectorSize url answer).1)
      (BrowserState.mk browser true)).browser.response = browser.response := by
  induction answers generalizing browser with
  | nil => rfl
  | cons answer rest ih =>
    have same : (browser.scan input vectorSize).1.response = browser.response := rfl
    rw [List.foldl_cons, scan_fetched, ih, same]

/-- The pages of any calls, of which others may throw, are rows of the response. -/
theorem results_rowOf {input : ScanInput} {url : Bytes} (answers : List BrowserAnswer)
    {state : BrowserState} (fresh : state.fetched = false → state = {})
    (decoded : state.browser.Decoded input) {page : List Row}
    (returned : .ok page ∈ state.results input vectorSize url answers) :
    ∀ row ∈ page, RowOf input (answers.foldl (fun state answer =>
      (state.scan input vectorSize url answer).1) state).browser.response row := by
  induction answers generalizing state with
  | nil => cases returned
  | cons answer rest ih =>
    rw [List.foldl_cons]
    rcases List.mem_cons.mp returned with first | later
    · -- The call worked on a response, and that is still there at the end.
      rcases scan_cases url answer fresh decoded with ⟨error, failed⟩ | ⟨browser, known, works⟩
      · rw [failed] at first
        cases first
      · rw [works] at first ⊢
        have shown : (browser.scan input vectorSize).2 = .ok page := by
          cases result : (browser.scan input vectorSize).2 with
          | error error => rw [result] at first; cases first
          | ok rows => rw [result] at first; cases first; rfl
        have same : (browser.scan input vectorSize).1.response = browser.response := rfl
        rw [response_kept, same]
        exact known.rowOf shown
    · exact ih (scan_decoded fresh decoded).1 (scan_decoded fresh decoded).2 later

/-- In browser builds, in every page that is returned and behind every sequence of calls. -/
theorem browser_rowOf (input : ScanInput) (vectorSize : Nat) (url : Bytes)
    (answers : List BrowserAnswer) :
    (∀ page, .ok page ∈ ({} : BrowserState).results input vectorSize url answers →
      ∀ row ∈ page,
        RowOf input (BrowserState.after input vectorSize url answers).browser.response row) ∧
    ∀ row ∈ (BrowserState.after input vectorSize url answers).browser.buffer,
      RowOf input (BrowserState.after input vectorSize url answers).browser.response row := by
  constructor
  · exact fun page => results_rowOf answers (fun _ => rfl) (fetchBrowserResponse_decoded input [])
  · exact fun row =>
      (browser_keeps_one_record input vectorSize url answers).waiting.rowOf

end Browser

/-- A search error that leaves a native scan is the error of a line. -/
theorem native_errorOf (sys : Setup) (s : State) (reachable : (native sys).Reachable s)
    (error : SearchError) (threw : s.main = .threw (.consumer error)) :
    ∃ line, parseExportLine sys.input.env line = .error error := by
  have known := native_errors s reachable
  rcases known.threw _ threw with kept | ⟨same, _⟩
  · obtain ⟨_, failed⟩ := known.thrown _ (known.error _ kept)
    obtain ⟨line, _, parsed⟩ := referenceLines_error _ _ failed
    exact ⟨line, parsed⟩
  · cases same

theorem parseRecords_errorOf {input : ScanInput} {vectorSize : Nat} {page : Page}
    {error : SearchError} (response : Bytes) (offset : Nat)
    (threw : (parseRecords input vectorSize response offset page).2.2 = some error) :
    ∃ line, parseExportLine input.env line = .error error := by
  fun_induction parseRecords input vectorSize response offset page with
  | case1 => cases threw
  | case2 _ _ _ _ found failed =>
    obtain rfl := Option.some.inj threw
    exact ⟨_, failed⟩
  | case3 _ _ _ _ _ _ _ ih => exact ih threw
  | case4 => cases threw

/-- And so is one that leaves a browser scan. -/
theorem Browser.scan_errorOf {input : ScanInput} {vectorSize : Nat} {state : Browser}
    {error : SearchError} (threw : (state.scan input vectorSize).2 = .error error) :
    ∃ line, parseExportLine input.env line = .error error := by
  have known : (parseRecords input vectorSize state.response state.responseOffset
      (state.drainBuffer vectorSize)).2.2 = some error → _ := parseRecords_errorOf _ _
  unfold Browser.scan at threw
  generalize parseRecords input vectorSize state.response state.responseOffset
    (state.drainBuffer vectorSize) = parsed at threw known
  obtain ⟨offset, page, _ | found⟩ := parsed
  · cases threw
  · obtain rfl := Except.error.inj threw
    exact known rfl

theorem results_errorOf {input : ScanInput} {vectorSize : Nat} {url : Bytes}
    {answers : List BrowserAnswer} {state : BrowserState} {error : SearchError}
    (threw : .error (.search error) ∈ state.results input vectorSize url answers) :
    ∃ line, parseExportLine input.env line = .error error := by
  induction answers generalizing state with
  | nil => cases threw
  | cons answer rest ih =>
    rcases List.mem_cons.mp threw with first | later
    · rw [BrowserState.scan] at first
      rcases fetch : state.ensureFetched url answer with ⟨fetched, failed | _⟩
      · rw [fetch] at first
        cases first
      · rw [fetch] at first
        rcases called : fetched.browser.scan input vectorSize with ⟨browser, found | rows⟩
        · simp only [called] at first
          cases first
          exact Browser.scan_errorOf (congrArg Prod.snd called)
        · simp only [called] at first
          cases first
    · exact ih later

end SplunkLogs
