import SplunkLogs.Foundation.FormUrlEncoded
import SplunkLogs.Model.Bind
import SplunkLogs.Model.Browser
import SplunkLogs.Model.Native
import SplunkLogs.Spec.Authorization

/-!
# A server that is asked

To a server a search is the parameters of a form and the credentials of a header, and it
answers what it is asked. Around it stands what the extension takes from elsewhere.
-/
namespace SplunkLogs

open Foundation (PercentEncoder decodeForm)

/-- What a request says to the server. -/
structure Asked where
  parameters : List (Bytes × Bytes)
  authorizations : List Bytes
  deriving DecidableEq

/-- What is outside the repository: the libraries, and a server whose answer to each attempt
depends on what it is asked. -/
structure Surroundings where
  env : Externals
  urlEncode : Bytes → Bytes
  toBase64 : Bytes → Bytes
  wireHeaders : Connection → List Header → List Header
  overlongShift : Nat → Nat
  server : Asked → Nat → ResponseHead × Bytes

namespace Surroundings

variable (w : Surroundings) (bind : SplunkLogsBindData)

/-- The libraries do as they are documented. -/
structure Documented : Prop where
  encoder : PercentEncoder w.urlEncode
  httplib : HttplibAuthorization w.wireHeaders w.toBase64

/-- The call that `StartExport` and `FetchBrowserResponse` make. -/
def exportCall : ApiCall :=
  .exportSearch (buildExportBody w.urlEncode bind.query bind.earliest bind.latest bind.maxRows)

/-- What the server reads of a request's body and headers. -/
def asked (body : Option Bytes) (headers : List Header) : Asked where
  parameters := decodeForm (body.getD [])
  authorizations := authorizations headers

def nativeAsked : Asked :=
  asked (nativeRequest (w.exportCall bind)).body
    (w.wireHeaders (scanClient bind).connection (nativeRequest (w.exportCall bind)).headers)

def browserAsked : Asked :=
  asked (browserRequest w.toBase64 (scanClient bind) (w.exportCall bind)).body
    (browserRequest w.toBase64 (scanClient bind) (w.exportCall bind)).headers

/-- What a scan of the bound data reads responses with. -/
def input (columnIds : List Nat) : ScanInput := ⟨w.env, columnIds, bind.maxRows⟩

/-- The native scan of the bound data. -/
def nativeScan (columnIds : List Nat) {vectorSize : Nat} (positive : 0 < vectorSize) : Setup where
  client :=
    { url := (scanClient bind).url
      retries := (scanClient bind).retries
      overlongShift := w.overlongShift }
  input := w.input bind columnIds
  server := w.server (w.nativeAsked bind)
  vectorSize := vectorSize
  vectorSize_pos := positive

end Surroundings

/-- A search as it is meant. -/
structure Search where
  query : Bytes
  earliest : Bytes
  latest : Bytes
  maxRows : Int

end SplunkLogs
