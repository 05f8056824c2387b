import SplunkLogs.Model.Browser
import SplunkLogs.Properties.ChunkIndependence

/-!
# What the browser scan reads

The browser asks for the cap before each record, so it reads no record behind the one that
fills the cap. Over its calls it returns this reading of the response, page by page.
-/
namespace SplunkLogs

open Foundation (findFrom findFrom_none findFrom_some slice splitOn_of_findFrom)

/-- The cap has been reached. -/
def ScanInput.Full (input : ScanInput) (produced : Nat) : Prop :=
  0 < input.cap ∧ input.cap ≤ produced

instance (input : ScanInput) (produced : Nat) : Decidable (input.Full produced) :=
  inferInstanceAs (Decidable (_ ∧ _))

/-- The lines in order, none of them behind the cap. -/
def browserLines (input : ScanInput) : List Bytes → Nat → Outcome
  | [], _ => .done
  | line :: rest, produced =>
    if input.Full produced then .done
    else
      match parseExportLine input.env line with
      | .error error => .failed error
      | .ok events => mapEvents input (browserLines input rest) produced events

theorem browserLines_full {input : ScanInput} {produced : Nat} (full : input.Full produced)
    (lines : List Bytes) : browserLines input lines produced = .done := by
  cases lines with
  | nil => rfl
  | cons line rest => simp [browserLines, full]

namespace Page

/-- All rows of a page, the waiting ones last. -/
def rows (page : Page) : List Row := page.output ++ page.buffer

/-- Rows wait only behind a full output vector. -/
def Ordered (vectorSize : Nat) (page : Page) : Prop :=
  page.output.length < vectorSize → page.buffer = []

/-- The rows of a page, followed by what `next` reads after them. -/
def settle (page : Page) (next : Nat → Outcome) : Outcome :=
  (next page.produced).prepend page.rows

theorem onEvent_full {input : ScanInput} {vectorSize : Nat} {page : Page} {event : Json}
    (full : input.Full page.produced) : page.onEvent input vectorSize event = page :=
  if_pos full

theorem events_full {input : ScanInput} {vectorSize : Nat} {page : Page}
    (full : input.Full page.produced) (events : List Json) :
    events.foldl (onEvent input vectorSize) page = page := by
  induction events with
  | nil => rfl
  | cons event rest ih => rw [List.foldl_cons, onEvent_full full, ih]

theorem onEvent_open {input : ScanInput} {vectorSize : Nat} {page : Page} (event : Json)
    (ordered : page.Ordered vectorSize) (room : ¬input.Full page.produced) :
    (page.onEvent input vectorSize event).Ordered vectorSize ∧
    (page.onEvent input vectorSize event).produced = page.produced + 1 ∧
    (page.onEvent input vectorSize event).rows =
      page.rows ++ [mapEvent input.env event input.columnIds] := by
  have open_ : ¬(0 < input.cap ∧ input.cap ≤ page.produced) := room
  by_cases fits : page.output.length < vectorSize
  · have empty := ordered fits
    simp [onEvent, open_, fits, rows, Ordered, empty]
  · simp [onEvent, open_, fits, rows, Ordered]

/-- The events of one record, for any reading that ends at the cap. -/
theorem settle_events {input : ScanInput} {vectorSize : Nat} {next : Nat → Outcome}
    (stops : ∀ produced, input.Full produced → next produced = .done) (page : Page)
    (events : List Json) (ordered : page.Ordered vectorSize) :
    (events.foldl (onEvent input vectorSize) page).Ordered vectorSize ∧
    (events.foldl (onEvent input vectorSize) page).settle next =
      page.settle (fun n => mapEvents input next n events) := by
  -- Once the cap is reached the page stays as it is and so does the reading.
  induction events generalizing page with
  | nil => exact ⟨ordered, rfl⟩
  | cons event rest ih =>
    by_cases full : input.Full page.produced
    · have past : 0 < input.cap ∧ input.cap ≤ page.produced := full
      rw [events_full full]
      exact ⟨ordered, by simp [settle, mapEvents, past, stops _ full]⟩
    · obtain ⟨kept, counted, pushed⟩ := onEvent_open event ordered full
      have open_ : ¬(0 < input.cap ∧ input.cap ≤ page.produced) := full
      obtain ⟨order, settled⟩ := ih (page.onEvent input vectorSize event) kept
      refine ⟨order, settled.trans ?_⟩
      simp [settle, mapEvents, open_, counted, pushed]

end Page

/-- The browser's reading of a response from an offset on. -/
def browserFrom (input : ScanInput) (response : Bytes) (offset : Nat) : Nat → Outcome :=
  browserLines input ((response.drop offset).splitOn newline)

theorem browserLines_blank (input : ScanInput) : browserLines input [[]] = fun _ => .done := by
  funext produced
  simp [browserLines, mapEvents]

theorem browserFrom_end (input : ScanInput) {response : Bytes} {offset : Nat}
    (past : response.length ≤ offset) : browserFrom input response offset = fun _ => .done := by
  rw [browserFrom, List.drop_eq_nil_of_le past]
  exact browserLines_blank input

/-- The record at an offset, and the reading behind it. -/
theorem browserFrom_record (input : ScanInput) (response : Bytes) (offset : Nat)
    {produced : Nat} (room : ¬input.Full produced) :
    browserFrom input response offset produced =
      match parseExportLine input.env (slice response offset (recordEnd response offset)) with
      | .error error => .failed error
      | .ok events =>
        mapEvents input (browserFrom input response (recordEnd response offset + 1)) produced
          events := by
  unfold recordEnd
  cases found : findFrom newline response offset with
  | some stop =>
    have split := splitOn_of_findFrom found []
    simp only [List.append_nil] at split
    simp only [browserFrom, split, browserLines, room, if_false, Option.getD_some]
  | none =>
    -- The last record runs to the end of the response.
    have whole : slice response offset response.length = response.drop offset := by
      simp [slice]
    simp only [Option.getD_none, whole, browserFrom_end input (Nat.le_succ response.length)]
    rw [browserFrom, List.splitOn_eq_singleton (findFrom_none found)]
    simp only [browserLines, room, if_false]

/-- What the second loop of the scan comes to, for the reading `whole` of all there is. -/
def ParsedTo (input : ScanInput) (vectorSize : Nat) (response : Bytes) (whole : Outcome) :
    Nat × Page × Option SearchError → Prop
  | (_, _, some error) => whole.error = some error
  | (offset, page, none) => page.Ordered vectorSize ∧
      page.settle (browserFrom input response offset) = whole ∧
      (page.output.length < vectorSize → whole = ⟨page.output, none⟩)

theorem parseRecords_reads (input : ScanInput) (vectorSize : Nat) (response : Bytes)
    (offset : Nat) (page : Page) (ordered : page.Ordered vectorSize) :
    ParsedTo input vectorSize response (page.settle (browserFrom input response offset))
      (parseRecords input vectorSize response offset page) := by
  have alone : ∀ page : Page, page.Ordered vectorSize → page.output.length < vectorSize →
      Outcome.done.prepend page.rows = ⟨page.output, none⟩ := by
    intro page ordered room
    simp [Page.rows, ordered room, Outcome.prepend, Outcome.done]
  -- Induction along the loop, with the page as the accumulator.
  fun_induction parseRecords input vectorSize response offset page with
  | case1 offset page inside full =>
    have stop : browserFrom input response offset page.produced = .done :=
      browserLines_full full _
    refine ⟨ordered, ?_, fun room => ?_⟩
    · rw [browserFrom_end input le_rfl, Page.settle, Page.settle, stop]
    · rw [Page.settle, stop]
      exact alone page ordered room
  | case2 offset page inside room error parsed =>
    simp only [ParsedTo, Page.settle]
    rw [browserFrom_record input response offset room, parsed]
    rfl
  | case3 offset page inside room events parsed _ ih =>
    have record : page.settle (browserFrom input response offset) = page.settle
        (fun n => mapEvents input
          (browserFrom input response (recordEnd response offset + 1)) n events) := by
      rw [Page.settle, browserFrom_record input response offset room, parsed]
      rfl
    have stops : ∀ produced, input.Full produced →
        browserFrom input response (recordEnd response offset + 1) produced = .done :=
      fun _ full => browserLines_full full _
    obtain ⟨kept, settled⟩ := Page.settle_events stops page events ordered
    rw [record, ← settled]
    exact ih kept
  | case4 offset page outside =>
    -- With room in the vector the loop ends only behind the response.
    refine ⟨ordered, rfl, fun room => ?_⟩
    have past : response.length ≤ offset := Nat.le_of_not_lt fun inside => outside ⟨room, inside⟩
    rw [browserFrom_end input past]
    exact alone page ordered room

namespace Browser

/-- The rows that wait, followed by the reading of the rest of the response. -/
def account (input : ScanInput) (state : Browser) : Outcome :=
  (browserFrom input state.response state.responseOffset state.produced).prepend state.buffer

/-- The waiting rows fill the vector first. -/
theorem drainBuffer_ordered (vectorSize : Nat) (state : Browser) :
    (state.drainBuffer vectorSize).Ordered vectorSize := by
  intro room
  simp only [drainBuffer, List.length_take] at room ⊢
  exact List.drop_eq_nil_of_le (by omega)

/-- One call: it throws the error of the reading, or returns the first rows of it; a page
that is not full is the last one. -/
theorem scan_reads (input : ScanInput) (vectorSize : Nat) (state : Browser) :
    match state.scan input vectorSize with
    | (_, .error error) => (state.account input).error = some error
    | (next, .ok rows) => state.account input = (next.account input).prepend rows ∧
        (rows.length < vectorSize → state.account input = ⟨rows, none⟩) := by
  have start : (state.drainBuffer vectorSize).settle
      (browserFrom input state.response state.responseOffset) = state.account input := by
    simp [Page.settle, Page.rows, drainBuffer, account]
  have reads := parseRecords_reads input vectorSize state.response state.responseOffset
    (state.drainBuffer vectorSize) (state.drainBuffer_ordered vectorSize)
  rw [start] at reads
  unfold scan
  generalize parseRecords input vectorSize state.response state.responseOffset
    (state.drainBuffer vectorSize) = parsed at reads ⊢
  obtain ⟨offset, page, _ | error⟩ := parsed
  · obtain ⟨_, settled, last⟩ := reads
    refine ⟨?_, last⟩
    rw [← settled]
    simp [Page.settle, Page.rows, account]
  · exact reads

/-- Scanning to exhaustion gives the rows of the reading, or its error. -/
theorem run_reads (input : ScanInput) (vectorSize : Nat) (positive : 0 < vectorSize)
    (state : Browser) :
    (state.run input vectorSize).2 = (state.account input).error ∧
    ((state.account input).error = none →
      (state.run input vectorSize).1 = (state.account input).rows) := by
  -- A call that returns rows leaves the account of what is still to come.
  fun_induction run input vectorSize state with
  | case1 state next error returned =>
    have reads := scan_reads input vectorSize state
    rw [returned] at reads
    exact ⟨reads.symm, fun none_ => by simp [reads] at none_⟩
  | case2 state next returned =>
    have reads := scan_reads input vectorSize state
    rw [returned] at reads
    simp [reads.2 positive]
  | case3 state next row rows returned _ later error more ih =>
    have reads := scan_reads input vectorSize state
    rw [returned] at reads
    rw [more] at ih
    rw [reads.1]
    exact ⟨ih.1, fun none_ => congrArg (row :: rows ++ ·) (ih.2 none_)⟩

end Browser

end SplunkLogs
