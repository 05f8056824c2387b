import SplunkLogs.Model.BrowserScan
import SplunkLogs.Properties.Paging

/-!
# The browser fetches once

A call whose request fails leaves the scan as it was, so the next call asks again. The first
response that arrives is the only one: no later call makes a request, and the pages come from
that response.
-/
namespace SplunkLogs

/-- What a request made in a call would come to. -/
def BrowserAnswer.body (url : Bytes) (answer : BrowserAnswer) : Except BrowserError Bytes :=
  browserAuthenticatedRequest url false answer.interrupted answer.response

/-- The calls of the scan on a response that is there, the ones that throw included. -/
def Browser.results (input : ScanInput) (vectorSize : Nat) (state : Browser) :
    Nat → List (Except SearchError (List Row))
  | 0 => []
  | count + 1 =>
    (state.scan input vectorSize).2 ::
      (state.scan input vectorSize).1.results input vectorSize count

section Fetching

variable {input : ScanInput} {vectorSize : Nat} {url : Bytes} {answer : BrowserAnswer}

/-- A failed request changes nothing. -/
theorem scan_unfetched_error {error : BrowserError} (failed : answer.body url = .error error) :
    ({} : BrowserState).scan input vectorSize url answer = ({}, .error (.request error)) := by
  simp only [BrowserAnswer.body] at failed
  simp [BrowserState.scan, BrowserState.ensureFetched, BrowserState.fetchBrowserResponse,
    browserExportSearch, failed]

/-- A successful one leaves the scan with its body, empty or not. -/
theorem ensureFetched_ok {body : Bytes} (arrived : answer.body url = .ok body) :
    ({} : BrowserState).ensureFetched url answer =
      (⟨fetchBrowserResponse body, true⟩, .ok ()) := by
  simp only [BrowserAnswer.body] at arrived
  cases empty : body.isEmpty with
  | true =>
    obtain rfl := List.isEmpty_iff.mp empty
    simp [BrowserState.ensureFetched, BrowserState.fetchBrowserResponse, browserExportSearch,
      arrived, fetchBrowserResponse]
  | false =>
    simp [BrowserState.ensureFetched, BrowserState.fetchBrowserResponse, browserExportSearch,
      arrived, empty, fetchBrowserResponse]

/-- With a response at hand a call looks at nothing else. -/
theorem scan_fetched (browser : Browser) (url : Bytes) (answer : BrowserAnswer) :
    (BrowserState.mk browser true).scan input vectorSize url answer =
      (⟨(browser.scan input vectorSize).1, true⟩,
        (browser.scan input vectorSize).2.mapError .search) := by
  simp only [BrowserState.scan, BrowserState.ensureFetched, if_true]
  rcases browser.scan input vectorSize with ⟨next, error | rows⟩ <;> rfl

theorem results_fetched (browser : Browser) (answers : List BrowserAnswer) :
    (BrowserState.mk browser true).results input vectorSize url answers =
      (browser.results input vectorSize answers.length).map (·.mapError .search) := by
  induction answers generalizing browser with
  | nil => rfl
  | cons answer rest ih =>
    rw [BrowserState.results, scan_fetched, List.length_cons, Browser.results, List.map_cons, ih]

/-- The calls from the first response on. -/
theorem results_arrived {body : Bytes} (arrived : answer.body url = .ok body)
    (rest : List BrowserAnswer) :
    ({} : BrowserState).results input vectorSize url (answer :: rest) =
      ((fetchBrowserResponse body).results input vectorSize (rest.length + 1)).map
        (·.mapError .search) := by
  have same : ({} : BrowserState).scan input vectorSize url answer =
      (BrowserState.mk (fetchBrowserResponse body) true).scan input vectorSize url answer := by
    rw [BrowserState.scan, ensureFetched_ok arrived]
    rfl
  have whole : (BrowserState.mk (fetchBrowserResponse body) true).results input vectorSize url
      (answer :: rest) = ((fetchBrowserResponse body).results input vectorSize
        (rest.length + 1)).map (·.mapError .search) :=
    results_fetched (fetchBrowserResponse body) (answer :: rest)
  rw [← whole, BrowserState.results, BrowserState.results, same]

end Fetching

/-- As long as no call throws, the calls return the next vectors of the rows awaited. -/
theorem results_pages {input : ScanInput} {vectorSize : Nat} (k count : Nat) {before : Nat}
    {rows : List Row} {state : Browser} (awaits : state.Awaits input rows before)
    (clean : ∀ j ≤ k, ∃ page, (state.results input vectorSize count)[j]? = some (.ok page)) :
    (state.results input vectorSize count)[k]? =
      some (.ok ((rows.drop (k * vectorSize)).take vectorSize)) := by
  induction k generalizing count before rows state with
  | zero =>
    obtain ⟨page, first⟩ := clean 0 le_rfl
    cases count with
    | zero => simp [Browser.results] at first
    | succ count =>
      simp only [Browser.results, List.getElem?_cons_zero, Option.some.injEq] at first ⊢
      have shown := (awaits.scan (Prod.ext rfl first)).1
      rw [first, shown]
      simp
  | succ k ih =>
    obtain ⟨page, first⟩ := clean 0 (Nat.zero_le _)
    cases count with
    | zero => simp [Browser.results] at first
    | succ count =>
      simp only [Browser.results, List.getElem?_cons_zero, Option.some.injEq] at first
      have later := (awaits.scan (Prod.ext rfl first)).2
      have shown := ih count later fun j inside => by
        simpa only [Browser.results, List.getElem?_cons_succ] using clean (j + 1) (by omega)
      rw [List.drop_drop, Nat.add_comm, ← Nat.succ_mul] at shown
      simpa only [Browser.results, List.getElem?_cons_succ] using shown

/-- Over any number of calls of a scan, whatever each request would meet: the calls that fail on
their request come first, and all others are the calls on the response of the one request that
has succeeded. While none of them throws, they return the rows of that response vector by
vector. -/
theorem browser_fetches_once (input : ScanInput) (vectorSize : Nat) (url : Bytes)
    (answers : List BrowserAnswer) :
    ∃ (errors : List BrowserError) (later : List (Except BrowserScanError (List Row))),
      ({} : BrowserState).results input vectorSize url answers =
        errors.map (fun error => .error (.request error)) ++ later ∧
      (answers.take errors.length).map (BrowserAnswer.body url) = errors.map .error ∧
      (later = [] ∨ ∃ answer body,
        answers[errors.length]? = some answer ∧ answer.body url = .ok body ∧
        later = ((fetchBrowserResponse body).results input vectorSize
          (answers.length - errors.length)).map (·.mapError .search) ∧
        (∀ error, .error (.request error) ∉ later) ∧
        ∀ k : Nat, (∀ j ≤ k, ∃ page : List Row, later[j]? = some (.ok page)) →
          later[k]? =
            some (.ok (((referenceRows input body).drop (k * vectorSize)).take vectorSize))) := by
  induction answers with
  | nil => exact ⟨[], [], rfl, rfl, Or.inl rfl⟩
  | cons answer rest ih =>
    cases asked : answer.body url with
    | error error =>
      obtain ⟨errors, later, results, failed, fetched⟩ := ih
      refine ⟨error :: errors, later, ?_, ?_, ?_⟩
      · rw [BrowserState.results, scan_unfetched_error asked, results]
        rfl
      · rw [List.length_cons, List.take_succ_cons, List.map_cons, List.map_cons, asked, failed]
      · simpa only [List.length_cons, List.getElem?_cons_succ, Nat.add_sub_add_right] using fetched
    | ok body =>
      refine ⟨[], _, (results_arrived asked rest).trans (List.nil_append _).symm, rfl,
        Or.inr ⟨answer, body, rfl, asked, rfl, ?_, ?_⟩⟩
      · intro error member
        obtain ⟨result, _, same⟩ := List.mem_map.mp member
        cases result <;> cases same
      · intro k clean
        have awaits := Browser.awaits_start input body
        have shown := results_pages k (rest.length + 1) awaits fun j inside => by
          obtain ⟨page, there⟩ := clean j inside
          rw [List.getElem?_map, Option.map_eq_some_iff] at there
          obtain ⟨result, found, same⟩ := there
          cases result with
          | error error => cases same
          | ok page => exact ⟨page, found⟩
        rw [List.getElem?_map, shown]
        rfl

end SplunkLogs
