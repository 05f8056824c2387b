import SplunkLogs.Properties.BrowserFetch

/-!
# What the browser keeps decoded

The response is kept as text, and rows are decoded as vectors are filled. The only rows that
wait between two calls are those of one record that did not fit its vector.
-/
namespace SplunkLogs

open Foundation (AtStart atStart_of_findFrom findFrom findFrom_none mem_splitOn_behind slice
  splitOn_of_findFrom)

/-- Rows of one record of a response. -/
def OneRecord (input : ScanInput) (body : Bytes) (rows : List Row) : Prop :=
  ∃ line ∈ body.splitOn newline, rows <:+: lineRows input [line]

/-- Where a record begins, what the scan reads next is one. -/
theorem record_mem {response : Bytes} {offset : Nat}
    (start : AtStart newline (response.take offset)) :
    slice response offset (recordEnd response offset) ∈ response.splitOn newline := by
  have first : slice response offset (recordEnd response offset) ∈
      (response.drop offset).splitOn newline := by
    unfold recordEnd
    cases found : findFrom newline response offset with
    | some stop =>
      have split := splitOn_of_findFrom found []
      rw [List.append_nil] at split
      rw [split]
      exact List.mem_cons_self
    | none =>
      rw [List.splitOn_eq_singleton (findFrom_none found)]
      simp [slice]
  have member := mem_splitOn_behind start first
  rwa [List.take_append_drop] at member

/-- Behind a record the next one begins, or the response has ended. -/
theorem atStart_recordEnd (response : Bytes) (offset : Nat)
    (inside : recordEnd response offset + 1 < response.length) :
    AtStart newline (response.take (recordEnd response offset + 1)) := by
  unfold recordEnd at inside ⊢
  cases found : findFrom newline response offset with
  | some stop => exact atStart_of_findFrom [] found
  | none =>
    rw [found, Option.getD_none] at inside
    omega

section Waiting

variable {input : ScanInput} {vectorSize : Nat} {page : Page}

theorem OneRecord.nil (input : ScanInput) (body : Bytes) : OneRecord input body [] := by
  obtain ⟨line, _, pieces⟩ := List.exists_cons_of_ne_nil (List.splitOn_ne_nil newline body)
  exact ⟨line, pieces ▸ List.mem_cons_self, List.nil_infix⟩

theorem OneRecord.infix {body : Bytes} {rows part : List Row} (one : OneRecord input body rows)
    (inside : part <:+: rows) : OneRecord input body part := by
  obtain ⟨line, member, whole⟩ := one
  exact ⟨line, member, inside.trans whole⟩

/-- The events of a record add the first of their rows, none of them in front of the vector. -/
theorem Page.events_rows (input : ScanInput) (events : List Json)
    (ordered : page.Ordered vectorSize) :
    (events.foldl (Page.onEvent input vectorSize) page).Ordered vectorSize ∧
    page.output <+: (events.foldl (Page.onEvent input vectorSize) page).output ∧
    ∃ added, added <+: events.map (fun event => mapEvent input.env event input.columnIds) ∧
      (events.foldl (Page.onEvent input vectorSize) page).rows = page.rows ++ added := by
  induction events generalizing page with
  | nil => exact ⟨ordered, List.prefix_rfl, [], List.nil_prefix, by simp⟩
  | cons event rest ih =>
    by_cases full : input.Full page.produced
    · rw [Page.events_full full]
      exact ⟨ordered, List.prefix_rfl, [], List.nil_prefix, by simp⟩
    · obtain ⟨kept, _, pushed⟩ := Page.onEvent_open event ordered full
      have longer : page.output <+: (page.onEvent input vectorSize event).output := by
        unfold Page.onEvent
        split
        · exact List.prefix_rfl
        · dsimp only
          split
          · exact List.prefix_append _ _
          · exact List.prefix_rfl
      obtain ⟨order, front, added, first, rows⟩ := ih kept
      refine ⟨order, longer.trans front,
        mapEvent input.env event input.columnIds :: added, ?_, ?_⟩
      · exact (List.prefix_cons_inj _).mpr first
      · rw [List.foldl_cons, rows, pushed, List.append_assoc, List.singleton_append]

/-- Where no row waited before a record, those that wait behind it are its own. -/
theorem Page.events_waiting (events : List Json) (ordered : page.Ordered vectorSize)
    (empty : page.buffer = []) :
    (events.foldl (Page.onEvent input vectorSize) page).buffer <:+:
      events.map fun event => mapEvent input.env event input.columnIds := by
  obtain ⟨_, ⟨more, output⟩, added, first, rows⟩ := Page.events_rows input events ordered
  rw [Page.rows, Page.rows, empty, ← output, List.append_nil, List.append_assoc] at rows
  have behind : _ <:+ added := ⟨more, List.append_cancel_left rows⟩
  exact behind.isInfix.trans first.isInfix

/-- The second loop of the scan. -/
theorem parseRecords_waiting (response : Bytes) (offset : Nat) (ordered : page.Ordered vectorSize)
    (start : offset < response.length → AtStart newline (response.take offset))
    (one : OneRecord input response page.buffer) :
    ((parseRecords input vectorSize response offset page).1 < response.length →
      AtStart newline
        (response.take (parseRecords input vectorSize response offset page).1)) ∧
    OneRecord input response (parseRecords input vectorSize response offset page).2.1.buffer := by
  fun_induction parseRecords input vectorSize response offset page with
  | case1 => exact ⟨fun past => absurd past (Nat.lt_irrefl _), one⟩
  | case2 => exact ⟨start, one⟩
  | case3 offset page inside _ events parsed _ ih =>
    -- With room in the vector no row waits yet.
    obtain ⟨kept, _⟩ := Page.events_rows input events ordered
    refine ih kept (atStart_recordEnd response offset) ⟨_, record_mem (start inside.2), ?_⟩
    have own : lineRows input [slice response offset (recordEnd response offset)] =
        events.map fun event => mapEvent input.env event input.columnIds := by
      simp [lineRows, lineEvents_of_ok parsed]
    rw [own]
    exact Page.events_waiting events ordered (ordered inside.1)
  | case4 => exact ⟨start, one⟩

end Waiting

/-- The state of a scan between two calls. -/
structure Browser.Decoded (input : ScanInput) (state : Browser) : Prop where
  start : state.responseOffset < state.response.length →
    AtStart newline (state.response.take state.responseOffset)
  waiting : OneRecord input state.response state.buffer

section Calls

variable {input : ScanInput} {vectorSize : Nat}

/-- A call keeps to it, whether it returns or throws. -/
theorem Browser.Decoded.scan {state : Browser} (decoded : state.Decoded input) :
    (state.scan input vectorSize).1.Decoded input := by
  have drained : OneRecord input state.response (state.drainBuffer vectorSize).buffer :=
    decoded.waiting.infix (List.drop_suffix vectorSize _).isInfix
  obtain ⟨start, waiting⟩ := parseRecords_waiting state.response state.responseOffset
    (state.drainBuffer_ordered vectorSize) decoded.start drained
  exact ⟨start, waiting⟩

/-- The state behind a sequence of calls. -/
def BrowserState.after (input : ScanInput) (vectorSize : Nat) (url : Bytes)
    (answers : List BrowserAnswer) : BrowserState :=
  answers.foldl (fun state answer => (state.scan input vectorSize url answer).1) {}

theorem fetchBrowserResponse_decoded (input : ScanInput) (body : Bytes) :
    (fetchBrowserResponse body).Decoded input :=
  ⟨fun _ => Or.inl rfl, OneRecord.nil input body⟩

/-- A call whose request fails changes nothing; any other one is a call on a response. -/
theorem scan_cases (url : Bytes) (answer : BrowserAnswer) {state : BrowserState}
    (fresh : state.fetched = false → state = {}) (decoded : state.browser.Decoded input) :
    (∃ error, state.scan input vectorSize url answer = (state, .error (.request error))) ∨
    ∃ browser : Browser, browser.Decoded input ∧
      state.scan input vectorSize url answer =
        (⟨(browser.scan input vectorSize).1, true⟩,
          (browser.scan input vectorSize).2.mapError .search) := by
  cases there : state.fetched with
  | false =>
    obtain rfl := fresh there
    cases arrived : answer.body url with
    | error error => exact .inl ⟨error, scan_unfetched_error arrived⟩
    | ok body =>
      have first : ({} : BrowserState).scan input vectorSize url answer =
          (BrowserState.mk (fetchBrowserResponse body) true).scan input vectorSize url answer := by
        simp only [BrowserState.scan, ensureFetched_ok arrived]
        rfl
      exact .inr ⟨_, fetchBrowserResponse_decoded input body, first.trans (scan_fetched _ _ _)⟩
  | true =>
    obtain ⟨browser, _⟩ := state
    obtain rfl : _ = true := there
    exact .inr ⟨browser, decoded, scan_fetched browser url answer⟩

theorem scan_decoded {url : Bytes} {answer : BrowserAnswer} {state : BrowserState}
    (fresh : state.fetched = false → state = {}) (decoded : state.browser.Decoded input) :
    ((state.scan input vectorSize url answer).1.fetched = false →
      (state.scan input vectorSize url answer).1 = {}) ∧
    (state.scan input vectorSize url answer).1.browser.Decoded input := by
  rcases scan_cases url answer fresh decoded with ⟨error, failed⟩ | ⟨browser, known, works⟩
  · rw [failed]
    exact ⟨fresh, decoded⟩
  · rw [works]
    exact ⟨by simp, known.scan⟩

end Calls

/-- Between any two calls of a scan, whatever its requests meet and whether its calls return
or throw: the rows that wait are those of one record of the response, in their order, and the
scan goes on at the beginning of a record. -/
theorem browser_keeps_one_record (input : ScanInput) (vectorSize : Nat) (url : Bytes)
    (answers : List BrowserAnswer) :
    (BrowserState.after input vectorSize url answers).browser.Decoded input := by
  suffices kept : ∀ state : BrowserState, (state.fetched = false → state = {}) →
      state.browser.Decoded input →
      (answers.foldl (fun state answer => (state.scan input vectorSize url answer).1)
        state).browser.Decoded input from
    kept {} (fun _ => rfl) (fetchBrowserResponse_decoded input [])
  induction answers with
  | nil => exact fun _ _ decoded => decoded
  | cons answer rest ih =>
    intro state fresh decoded
    obtain ⟨next, later⟩ := scan_decoded fresh decoded
    exact ih _ next later

end SplunkLogs
