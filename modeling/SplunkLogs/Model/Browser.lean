import SplunkLogs.Model.Reader

/-!
# The browser scan

`FetchBrowserResponse` and `SplunkLogsScan` under `__EMSCRIPTEN__`: the whole response is
kept, and each call decodes as many records as fill one output vector. Rows of a record that
do not fit wait in a buffer.
-/
namespace SplunkLogs

open Foundation (findFrom findFrom_some slice)

/-- The part of `SplunkLogsGlobalState` that browser builds use. -/
structure Browser where
  response : Bytes
  responseOffset : Nat := 0
  produced : Nat := 0
  buffer : List Row := []

/-- The state behind the first fetch: `on_chunk` appends the completed body. -/
def fetchBrowserResponse (body : Bytes) : Browser := { response := body }

/-- What the event callback changes: the counter, the overflow and the output vector. -/
structure Page where
  produced : Nat
  buffer : List Row
  output : List Row

/-- The event callback. -/
def Page.onEvent (input : ScanInput) (vectorSize : Nat) (page : Page) (event : Json) : Page :=
  if 0 < input.cap ∧ input.cap ≤ page.produced then page
  else
    let row := mapEvent input.env event input.columnIds
    -- `output.SetValue` while the vector has room, `buffer.push_back` behind it.
    if page.output.length < vectorSize then
      { page with produced := page.produced + 1, output := page.output ++ [row] }
    else { page with produced := page.produced + 1, buffer := page.buffer ++ [row] }

/-- The end of the record at `start`. -/
def recordEnd (response : Bytes) (start : Nat) : Nat :=
  (findFrom newline response start).getD response.length

theorem recordEnd_ge {response : Bytes} {start : Nat} (inside : start < response.length) :
    start ≤ recordEnd response start := by
  unfold recordEnd
  cases found : findFrom newline response start with
  | none => exact Nat.le_of_lt inside
  | some stop => exact (findFrom_some found).1

/-- The second loop of the scan; returns the offset, the page and the error it stops with. -/
def parseRecords (input : ScanInput) (vectorSize : Nat) (response : Bytes) (offset : Nat)
    (page : Page) : Nat × Page × Option SearchError :=
  if inside : page.output.length < vectorSize ∧ offset < response.length then
    -- At the cap the rest of the response is skipped, unread.
    if 0 < input.cap ∧ input.cap ≤ page.produced then (response.length, page, none)
    else
      match parseExportLine input.env (slice response offset (recordEnd response offset)) with
      -- The exception leaves `response_offset` at the record that threw.
      | .error error => (offset, page, some error)
      | .ok events =>
        have := recordEnd_ge inside.2
        parseRecords input vectorSize response (recordEnd response offset + 1)
          (events.foldl (Page.onEvent input vectorSize) page)
  else (offset, page, none)
  termination_by response.length - offset

/-- The first loop of the scan: waiting rows go out first. -/
def Browser.drainBuffer (vectorSize : Nat) (state : Browser) : Page where
  produced := state.produced
  buffer := state.buffer.drop vectorSize
  output := state.buffer.take vectorSize

/-- One call of the scan: the state it leaves, and its rows or the error it throws. -/
def Browser.scan (input : ScanInput) (vectorSize : Nat) (state : Browser) :
    Browser × Except SearchError (List Row) :=
  match parseRecords input vectorSize state.response state.responseOffset
      (state.drainBuffer vectorSize) with
  | (offset, page, error) =>
    ({ state with
        responseOffset := offset
        produced := page.produced
        buffer := page.buffer },
      match error with
      | some error => .error error
      | none => .ok page.output)

/-- The offset moves forward, or no record was parsed. -/
theorem parseRecords_offset (input : ScanInput) (vectorSize : Nat) (response : Bytes)
    (offset : Nat) (page : Page) :
    offset < response.length ∧
      offset < (parseRecords input vectorSize response offset page).1 ∨
    (parseRecords input vectorSize response offset page).1 = offset ∧
      (parseRecords input vectorSize response offset page).2.1 = page := by
  fun_induction parseRecords input vectorSize response offset page with
  | case1 offset page inside full => exact Or.inl ⟨inside.2, inside.2⟩
  | case2 => exact Or.inr ⟨rfl, rfl⟩
  | case3 offset page inside _ events _ bound ih =>
    refine Or.inl ⟨inside.2, ?_⟩
    rcases ih with ⟨_, later⟩ | ⟨same, _⟩ <;> omega
  | case4 => exact Or.inr ⟨rfl, rfl⟩

/-- A call that returns rows has moved on in the response or in the buffer. -/
theorem Browser.scan_progress {input : ScanInput} {vectorSize : Nat} {state next : Browser}
    {rows : List Row} (returned : state.scan input vectorSize = (next, .ok rows))
    (some_ : rows ≠ []) :
    next.response = state.response ∧
    (state.responseOffset < state.response.length ∧
        state.responseOffset < next.responseOffset ∨
      next.responseOffset = state.responseOffset ∧ next.buffer.length < state.buffer.length) := by
  unfold Browser.scan at returned
  have moved := parseRecords_offset input vectorSize state.response state.responseOffset
    (state.drainBuffer vectorSize)
  generalize parseRecords input vectorSize state.response state.responseOffset
    (state.drainBuffer vectorSize) = parsed at returned moved
  obtain ⟨offset, page, _ | error⟩ := parsed
  · simp only [Prod.mk.injEq, Except.ok.injEq] at returned
    obtain ⟨rfl, rfl⟩ := returned
    refine ⟨rfl, moved.imp id fun ⟨same, unchanged⟩ => ⟨same, ?_⟩⟩
    dsimp only at unchanged
    subst unchanged
    have taken : state.buffer.take vectorSize ≠ [] := some_
    have positive : 0 < vectorSize := Nat.pos_of_ne_zero fun zero => by simp [zero] at taken
    have rows : 0 < state.buffer.length :=
      List.length_pos_iff.mpr fun empty => by simp [empty] at taken
    simp only [drainBuffer, List.length_drop]
    omega
  · simp at returned

/-- Calls of the scan until one throws or returns no rows. -/
def Browser.run (input : ScanInput) (vectorSize : Nat) (state : Browser) :
    List Row × Option SearchError :=
  match returned : state.scan input vectorSize with
  | (_, .error error) => ([], some error)
  | (_, .ok []) => ([], none)
  | (next, .ok (row :: rows)) =>
    have := Browser.scan_progress returned (by simp)
    let (later, error) := next.run input vectorSize
    (row :: rows ++ later, error)
  termination_by (state.response.length + 1 - state.responseOffset, state.buffer.length)
  decreasing_by
    -- A call that returned rows has moved on, in the response or in the buffer.
    obtain ⟨same, ⟨inside, later⟩ | ⟨stays, shorter⟩⟩ := this
    · exact Prod.Lex.left _ _ (by rw [same]; omega)
    · rw [same, stays]
      exact Prod.Lex.right _ shorter

end SplunkLogs
