import SplunkLogs.Model.Browser
import SplunkLogs.Model.BrowserClient

/-!
# The calls of the browser scan

`SplunkLogsScan` under `__EMSCRIPTEN__` from its first call on: `FetchBrowserResponse`, the
browser's `ExportSearch` below it, and the paging behind it.
-/
namespace SplunkLogs

/-- What a request meets: an interrupt that is seen before it is made, or else its response. -/
structure BrowserAnswer where
  interrupted : Bool
  response : Option HTTPResponse

/-- The exceptions of a call: those of the request, and those of the records. -/
inductive BrowserScanError where
  | request (error : BrowserError)
  | search (error : SearchError)
  deriving DecidableEq

/-- `SplunkClient::ExportSearch` (browser): a body that is not empty is handed over whole. -/
def browserExportSearch {σ : Type} (onChunk : σ → Bytes → σ × Bool) (url : Bytes)
    (answer : BrowserAnswer) (s : σ) : σ × Except BrowserError Unit :=
  match browserAuthenticatedRequest url false answer.interrupted answer.response with
  | .error error => (s, .error error)
  | .ok response =>
    if response.isEmpty then (s, .ok ())
    else
      match onChunk s response with
      | (s, true) => (s, .ok ())
      | (s, false) => (s, .error .interrupt)

/-- The state of a scan, `fetched` included. -/
structure BrowserState where
  browser : Browser := { response := [] }
  fetched : Bool := false

namespace BrowserState

/-- `FetchBrowserResponse`; an exception leaves `fetched` unset. -/
def fetchBrowserResponse (url : Bytes) (answer : BrowserAnswer) (state : BrowserState) :
    BrowserState × Except BrowserError Unit :=
  match browserExportSearch (fun response data => (response ++ data, true)) url answer
      state.browser.response with
  | (response, .error error) =>
    ({ state with browser := { state.browser with response := response } }, .error error)
  | (response, .ok ()) =>
    ({ browser := { state.browser with response := response }, fetched := true }, .ok ())

/-- The fetch in front of a call, where none has succeeded. -/
def ensureFetched (url : Bytes) (answer : BrowserAnswer) (state : BrowserState) :
    BrowserState × Except BrowserError Unit :=
  if state.fetched then (state, .ok ()) else state.fetchBrowserResponse url answer

/-- One call of `SplunkLogsScan`; `answer` is what a request made in it would meet. -/
def scan (input : ScanInput) (vectorSize : Nat) (url : Bytes) (answer : BrowserAnswer)
    (state : BrowserState) : BrowserState × Except BrowserScanError (List Row) :=
  match state.ensureFetched url answer with
  | (state, .error error) => (state, .error (.request error))
  | (state, .ok ()) =>
    match state.browser.scan input vectorSize with
    | (browser, .error error) => ({ state with browser := browser }, .error (.search error))
    | (browser, .ok rows) => ({ state with browser := browser }, .ok rows)

/-- What one call after the other comes to. -/
def results (input : ScanInput) (vectorSize : Nat) (url : Bytes) (state : BrowserState) :
    List BrowserAnswer → List (Except BrowserScanError (List Row))
  | [] => []
  | answer :: rest =>
    (state.scan input vectorSize url answer).2 ::
      (state.scan input vectorSize url answer).1.results input vectorSize url rest

end BrowserState

end SplunkLogs
