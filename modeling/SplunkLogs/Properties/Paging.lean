import SplunkLogs.Properties.BuildAgreement

/-!
# The browser scan pages through a response

Every call returns the next vector of the reference rows: no row is skipped or repeated at
the border of two vectors, and the last vectors are short or empty only when no row is left.
-/
namespace SplunkLogs

/-- The mapped events of the lines, in order. -/
def lineRows (input : ScanInput) (lines : List Bytes) : List Row :=
  (lines.flatMap (lineEvents input)).map fun event => mapEvent input.env event input.columnIds

/-- The rows that may still come when `produced` of them have been counted. -/
def capped (input : ScanInput) (produced : Nat) (rows : List Row) : List Row :=
  if 0 < input.cap then rows.take (input.cap - produced) else rows

/-- All rows of a response, cut at a positive `max_rows`. -/
def referenceRows (input : ScanInput) (body : Bytes) : List Row :=
  if 0 < input.maxRows then (lineRows input (body.splitOn newline)).take input.maxRows.toNat
  else lineRows input (body.splitOn newline)

/-- An outcome has the first of these rows, and all of them if it is no error. -/
def Outcome.Covers (outcome : Outcome) (rows : List Row) : Prop :=
  outcome.rows <+: rows ∧ (outcome.error = none → outcome.rows = rows)

section Covering

variable {input : ScanInput} {produced : Nat}

theorem capped_full (full : input.Full produced) (rows : List Row) :
    capped input produced rows = [] := by
  have none_ : input.cap - produced = 0 := Nat.sub_eq_zero_of_le full.2
  rw [capped, if_pos full.1, none_, List.take_zero]

theorem capped_cons (room : ¬input.Full produced) (row : Row) (rows : List Row) :
    capped input produced (row :: rows) = row :: capped input (produced + 1) rows := by
  unfold capped
  split
  next limited =>
    have below : ¬input.cap ≤ produced := fun reached => room ⟨limited, reached⟩
    have left : input.cap - produced = input.cap - (produced + 1) + 1 := by omega
    rw [left, List.take_succ_cons]
  · rfl

theorem Outcome.covers_done : Outcome.done.Covers [] := ⟨List.nil_prefix, fun _ => rfl⟩

theorem Outcome.Covers.prepend {outcome : Outcome} {rows : List Row} (covers : outcome.Covers rows)
    (before : List Row) : (outcome.prepend before).Covers (before ++ rows) := by
  obtain ⟨front, whole⟩ := covers
  constructor
  · exact (List.prefix_append_right_inj before).mpr front
  · intro clean
    exact congrArg (before ++ ·) (whole clean)

/-- What is left of the rows covered, behind the first ones. -/
theorem Outcome.Covers.rest {outcome : Outcome} {before rows : List Row}
    (covers : (outcome.prepend before).Covers rows) :
    outcome.Covers (rows.drop before.length) := by
  obtain ⟨⟨more, rfl⟩, whole⟩ := covers
  rw [Outcome.prepend_rows, List.append_assoc, List.drop_left]
  constructor
  · exact List.prefix_append _ _
  · intro clean
    have all := whole clean
    rw [Outcome.prepend_rows, List.append_assoc] at all
    exact List.append_cancel_left all

theorem mapEvents_covers {next : Nat → Outcome} {rest : List Row}
    (later : ∀ n, (next n).Covers (capped input n rest)) (events : List Json) :
    (mapEvents input next produced events).Covers (capped input produced
      (events.map (fun event => mapEvent input.env event input.columnIds) ++ rest)) := by
  induction events generalizing produced with
  | nil => exact later produced
  | cons event events ih =>
    by_cases full : input.Full produced
    · have past : 0 < input.cap ∧ input.cap ≤ produced := full
      rw [capped_full full, mapEvents, if_pos past]
      exact Outcome.covers_done
    · have open_ : ¬(0 < input.cap ∧ input.cap ≤ produced) := full
      rw [List.map_cons, List.cons_append, capped_cons full, mapEvents, if_neg open_]
      exact ih.prepend [mapEvent input.env event input.columnIds]

theorem browserLines_covers (lines : List Bytes) :
    (browserLines input lines produced).Covers (capped input produced (lineRows input lines)) := by
  induction lines generalizing produced with
  | nil =>
    have nothing : capped input produced (lineRows input []) = [] := by
      simp [capped, lineRows]
    rw [nothing]
    exact Outcome.covers_done
  | cons line lines ih =>
    by_cases full : input.Full produced
    · rw [capped_full full, browserLines_full full]
      exact Outcome.covers_done
    · rw [browserLines, if_neg full]
      cases parsed : parseExportLine input.env line with
      | error error => exact ⟨List.nil_prefix, fun clean => by cases clean⟩
      | ok events =>
        have split : lineRows input (line :: lines) =
            events.map (fun event => mapEvent input.env event input.columnIds) ++
              lineRows input lines := by
          simp [lineRows, lineEvents_of_ok parsed]
        rw [split]
        exact mapEvents_covers (fun n => ih) events

theorem referenceRows_eq (body : Bytes) :
    referenceRows input body = capped input 0 (lineRows input (body.splitOn newline)) := by
  by_cases limited : 0 < input.maxRows
  · have cap : input.cap = input.maxRows.toNat := if_pos limited
    have positive : 0 < input.maxRows.toNat := by omega
    simp [referenceRows, capped, limited, cap, positive]
  · have cap : input.cap = 0 := if_neg limited
    simp [referenceRows, capped, limited, cap]

end Covering

/-- The counter of a page: what was returned before it and all rows it holds. -/
structure Page.Counted (input : ScanInput) (vectorSize before : Nat) (page : Page) : Prop where
  fits : page.output.length ≤ vectorSize
  total : page.produced = before + page.output.length + page.buffer.length
  within : 0 < input.cap → page.produced ≤ input.cap

section Counting

variable {input : ScanInput} {vectorSize before : Nat} {page : Page}

theorem Page.Counted.onEvent (counted : page.Counted input vectorSize before) (event : Json) :
    (page.onEvent input vectorSize event).Counted input vectorSize before := by
  by_cases full : input.Full page.produced
  · rwa [Page.onEvent_full full]
  · obtain ⟨fits, total, within⟩ := counted
    have open_ : ¬(0 < input.cap ∧ input.cap ≤ page.produced) := full
    have below : 0 < input.cap → page.produced + 1 ≤ input.cap := by omega
    simp only [Page.onEvent, open_, if_false]
    -- The row goes to the vector, or behind it.
    split
    · exact ⟨by simp; omega, by simp; omega, below⟩
    · exact ⟨fits, by simp; omega, below⟩

theorem Page.Counted.events (counted : page.Counted input vectorSize before)
    (events : List Json) :
    (events.foldl (Page.onEvent input vectorSize) page).Counted input vectorSize before := by
  induction events generalizing page with
  | nil => exact counted
  | cons event rest ih => exact ih (counted.onEvent event)

theorem parseRecords_counted (response : Bytes) (offset : Nat)
    (counted : page.Counted input vectorSize before) :
    (parseRecords input vectorSize response offset page).2.1.Counted input vectorSize before := by
  fun_induction parseRecords input vectorSize response offset page with
  | case1 => exact counted
  | case2 => exact counted
  | case3 offset page _ _ events _ _ ih => exact ih (counted.events events)
  | case4 => exact counted

end Counting

namespace Browser

/-- Calls of the scan that return, with their pages, from one state to another. -/
inductive Calls (input : ScanInput) (vectorSize : Nat) :
    Browser → List (List Row) → Browser → Prop
  | none (state : Browser) : Calls input vectorSize state [] state
  | next {state middle last : Browser} {rows : List Row} {pages : List (List Row)}
      (returned : state.scan input vectorSize = (middle, .ok rows))
      (rest : Calls input vectorSize middle pages last) :
      Calls input vectorSize state (rows :: pages) last

/-- The state between two calls: `rows` are still to come and `before` have been returned. -/
structure Awaits (input : ScanInput) (rows : List Row) (before : Nat) (state : Browser) :
    Prop where
  covers : (state.account input).Covers rows
  total : state.produced = before + state.buffer.length
  within : 0 < input.cap → state.produced ≤ input.cap

variable {input : ScanInput} {vectorSize before : Nat} {state next : Browser}
  {rows page : List Row}

theorem awaits_start (input : ScanInput) (body : Bytes) :
    (fetchBrowserResponse body).Awaits input (referenceRows input body) 0 := by
  refine ⟨?_, rfl, fun _ => Nat.zero_le _⟩
  rw [referenceRows_eq]
  exact browserLines_covers _

/-- No call moves the offset backwards, whether it returns or throws. -/
theorem scan_offset (input : ScanInput) (vectorSize : Nat) (state : Browser) :
    state.responseOffset ≤ (state.scan input vectorSize).1.responseOffset := by
  have moved := parseRecords_offset input vectorSize state.response state.responseOffset
    (state.drainBuffer vectorSize)
  unfold scan
  generalize parseRecords input vectorSize state.response state.responseOffset
    (state.drainBuffer vectorSize) = parsed at moved ⊢
  obtain ⟨offset, last, error⟩ := parsed
  dsimp only at moved ⊢
  omega

/-- A call counts the rows it returns and those that wait behind them. -/
theorem scan_counted (total : state.produced = before + state.buffer.length)
    (within : 0 < input.cap → state.produced ≤ input.cap)
    (returned : state.scan input vectorSize = (next, .ok page)) :
    page.length ≤ vectorSize ∧ next.produced = before + page.length + next.buffer.length ∧
      (0 < input.cap → next.produced ≤ input.cap) := by
  have drained : (state.drainBuffer vectorSize).Counted input vectorSize before := by
    refine ⟨by simp [drainBuffer], ?_, within⟩
    simp only [drainBuffer, List.length_take, List.length_drop]
    omega
  have counted := parseRecords_counted state.response state.responseOffset drained
  unfold scan at returned
  generalize parseRecords input vectorSize state.response state.responseOffset
    (state.drainBuffer vectorSize) = parsed at returned counted
  obtain ⟨offset, last, _ | error⟩ := parsed
  · simp only [Prod.mk.injEq, Except.ok.injEq] at returned
    obtain ⟨rfl, rfl⟩ := returned
    exact ⟨counted.fits, counted.total, counted.within⟩
  · simp at returned

/-- One call returns the next vector. -/
theorem Awaits.scan (awaits : state.Awaits input rows before)
    (returned : state.scan input vectorSize = (next, .ok page)) :
    page = rows.take vectorSize ∧
      next.Awaits input (rows.drop vectorSize) (before + page.length) := by
  obtain ⟨covers, total, within⟩ := awaits
  obtain ⟨fits, counted, below⟩ := scan_counted total within returned
  have reads := scan_reads input vectorSize state
  rw [returned] at reads
  obtain ⟨account, last⟩ := reads
  have later : (next.account input).Covers (rows.drop page.length) := by
    rw [account] at covers
    exact covers.rest
  by_cases full : page.length = vectorSize
  · have front : page <+: rows := by
      rw [account] at covers
      exact (List.prefix_append _ _).trans covers.1
    refine ⟨?_, full ▸ later, counted, below⟩
    rw [← full]
    exact List.prefix_iff_eq_take.mp front
  · -- A short page is the last one, and nothing is left behind it.
    have whole := last (by omega)
    have all : page = rows := by
      rw [whole] at covers
      exact covers.2 rfl
    subst all
    have short : page.length ≤ vectorSize := fits
    rw [List.drop_length] at later
    refine ⟨(List.take_of_length_le short).symm, ?_, counted, below⟩
    rw [List.drop_eq_nil_of_le short]
    exact later

/-- A run of calls returns the rows vector by vector. -/
theorem Calls.pages {pages : List (List Row)} {last : Browser}
    (calls : Calls input vectorSize state pages last)
    (awaits : state.Awaits input rows before) :
    (∀ k, k < pages.length → pages[k]? = some ((rows.drop (k * vectorSize)).take vectorSize)) ∧
    last.Awaits input (rows.drop (pages.length * vectorSize))
      (before + pages.flatten.length) := by
  induction calls generalizing rows before with
  | none => simpa using awaits
  | @next state middle last first pages returned _ ih =>
    obtain ⟨page, later⟩ := awaits.scan returned
    obtain ⟨single, ended⟩ := ih later
    have position : ∀ k, vectorSize + k * vectorSize = (k + 1) * vectorSize := by
      intro k
      rw [Nat.succ_mul, Nat.add_comm]
    constructor
    · intro k inside
      cases k with
      | zero => simpa using page
      | succ k =>
        have found := single k (by simpa using inside)
        rw [List.drop_drop, position] at found
        simpa using found
    · rw [List.length_cons, ← position, List.flatten_cons, List.length_append, ← Nat.add_assoc,
        ← List.drop_drop]
      exact ended

/-- While no error is ahead, any number of calls return. -/
theorem Calls.of_clean (clean : (state.account input).error = Option.none) (count : Nat) :
    ∃ pages last, Calls input vectorSize state pages last ∧ pages.length = count := by
  induction count generalizing state with
  | zero => exact ⟨[], state, .none state, rfl⟩
  | succ count ih =>
    have reads := scan_reads input vectorSize state
    rcases returned : state.scan input vectorSize with ⟨next, error | rows⟩
    · rw [returned, clean] at reads
      cases reads
    · rw [returned] at reads
      have later : (next.account input).error = Option.none := by
        rwa [reads.1, Outcome.prepend_error] at clean
      obtain ⟨pages, last, calls, length⟩ := ih later
      exact ⟨rows :: pages, last, .next returned calls, congrArg (· + 1) length⟩

end Browser

/-- Vectors that are the next rows each are the first rows together. -/
theorem vectors_flatten {rows : List Row} {pages : List (List Row)} {size : Nat}
    (single : ∀ k, k < pages.length → pages[k]? = some ((rows.drop (k * size)).take size))
    (count : Nat) (inside : count ≤ pages.length) :
    (pages.take count).flatten = rows.take (count * size) := by
  induction count with
  | zero => simp
  | succ count ih =>
    rw [List.take_add_one, single count inside, List.flatten_append, ih (by omega), Nat.succ_mul,
      List.take_add]
    simp

/-- For every response, cap and vector size, over any number of calls that return: the k-th
call returns the k-th vector of the reference rows, so a page is short or empty only when all
rows have been returned; the counter covers the waiting rows and stays within the cap; and no
further call, returning or not, moves the offset backwards. -/
theorem browser_pages (input : ScanInput) {vectorSize : Nat} (positive : 0 < vectorSize)
    (body : Bytes) {pages : List (List Row)} {last : Browser}
    (calls : Browser.Calls input vectorSize (fetchBrowserResponse body) pages last) :
    pages.flatten = (referenceRows input body).take (pages.length * vectorSize) ∧
    (∀ k page, pages[k]? = some page →
      page = ((referenceRows input body).drop (k * vectorSize)).take vectorSize ∧
      (page.length < vectorSize → (pages.take (k + 1)).flatten = referenceRows input body) ∧
      (page = [] → (pages.take k).flatten = referenceRows input body)) ∧
    last.produced = pages.flatten.length + last.buffer.length ∧
    (0 < input.maxRows → (last.produced : Int) ≤ input.maxRows) ∧
    last.responseOffset ≤ (last.scan input vectorSize).1.responseOffset := by
  obtain ⟨single, ended⟩ := calls.pages (Browser.awaits_start input body)
  refine ⟨?_, ?_, ?_, ?_, last.scan_offset input vectorSize⟩
  · have all := vectors_flatten single pages.length le_rfl
    rwa [List.take_length] at all
  · intro k page found
    have inside : k < pages.length := (List.getElem?_eq_some_iff.mp found).1
    have shown : page = ((referenceRows input body).drop (k * vectorSize)).take vectorSize :=
      Option.some.inj (found.symm.trans (single k inside))
    refine ⟨shown, ?_, ?_⟩
    · intro short
      rw [shown, List.length_take, List.length_drop] at short
      rw [vectors_flatten single (k + 1) inside]
      apply List.take_of_length_le
      rw [Nat.succ_mul]
      omega
    · intro empty
      have none_ : ((referenceRows input body).drop (k * vectorSize)).length = 0 := by
        have size := congrArg List.length (shown.symm.trans empty)
        rw [List.length_take, List.length_nil] at size
        omega
      rw [List.length_drop] at none_
      rw [vectors_flatten single k inside.le]
      apply List.take_of_length_le
      omega
  · simpa using ended.total
  · intro limited
    have cap : input.cap = input.maxRows.toNat := if_pos limited
    have within := ended.within (by omega)
    omega

/-- A record of four events, read in vectors of two rows with a cap of three. -/
theorem browser_pages_overflow :
    ∃ pages last, Browser.Calls ⟨.ofRecords [(listRecord, listRoot)], [colBody], 3⟩ 2
        (fetchBrowserResponse (listRecord ++ [newline])) pages last ∧
      pages = [[textRow "a", textRow "b"], [textRow "c"], []] ∧ last.produced ≤ 3 := by
  have clean : ((fetchBrowserResponse (listRecord ++ [newline])).account
      ⟨.ofRecords [(listRecord, listRoot)], [colBody], 3⟩).error = none := rfl
  obtain ⟨pages, last, calls, length⟩ := Browser.Calls.of_clean clean 3
  obtain ⟨_, single, _, within, _⟩ := browser_pages _ Nat.two_pos _ calls
  obtain ⟨first, second, third, rfl⟩ := List.length_eq_three.mp length
  refine ⟨_, last, calls, ?_, Int.ofNat_le.mp (within (by decide))⟩
  rw [(single 0 first rfl).1, (single 1 second rfl).1, (single 2 third rfl).1]
  rfl

end SplunkLogs
