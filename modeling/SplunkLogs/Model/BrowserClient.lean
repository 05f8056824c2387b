import SplunkLogs.Model.Connection

/-!
# The Splunk client of browser builds

`AuthenticatedRequest` under `__EMSCRIPTEN__`: the request it makes, and what becomes of the
response. The fetch and its retries are `HTTPUtil`'s; the completed response is given from
outside, and `Blob::ToBase64` is a parameter.
-/
namespace SplunkLogs

/-- `HTTPHeaders::Insert`: a name that is present keeps its value. -/
def insertHeader (headers : List Header) (name value : Bytes) : List Header :=
  if headers.any fun header => ciEquals header.1 name then headers
  else headers ++ [(name, value)]

def addBrowserAuthHeaders (toBase64 : Bytes → Bytes) (client : SplunkClient)
    (headers : List Header) : List Header :=
  if !client.token.isEmpty then
    let scheme :=
      if ciEquals client.tokenType (ascii "Splunk") then ascii "Splunk " else ascii "Bearer "
    insertHeader headers (ascii "Authorization") (scheme ++ client.token)
  else if !client.username.isEmpty then
    let credentials := client.username ++ ascii ":" ++ client.password
    insertHeader headers (ascii "Authorization") (ascii "Basic " ++ toBase64 credentials)
  else headers

/-- A request as browser builds hand it to `HTTPUtil`: a POST with a body, a GET without. -/
structure BrowserRequest where
  url : Bytes
  headers : List Header
  body : Option Bytes
  timeout : Nat
  retries : Nat
  keepAlive : Bool
  followLocation : Bool

def browserRequest (toBase64 : Bytes → Bytes) (client : SplunkClient) (call : ApiCall) :
    BrowserRequest :=
  let headers := insertHeader [] acceptHeader.1 acceptHeader.2
  let headers := addBrowserAuthHeaders toBase64 client headers
  { url := normalizeUrl client.url ++ call.path
    headers :=
      if call.formBody.isSome then insertHeader headers formHeader.1 formHeader.2 else headers
    body := call.formBody
    timeout := client.timeoutSeconds
    retries := client.retries
    keepAlive := true
    followLocation := false }

/-- What the client reads of an `HTTPResponse`; `error` is the text of `GetError`. -/
structure HTTPResponse where
  success : Bool
  status : Nat
  body : Bytes
  error : Bytes

/-- The body, or the text of `GetError` for an empty one. -/
def HTTPResponse.message (response : HTTPResponse) : Bytes :=
  if response.body.isEmpty then response.error else response.body

def isLineCharacter (character : UInt8) : Bool :=
  character == 13 || character == 10 || character == 9

/-- The message on one line. -/
def errorText (response : HTTPResponse) : Bytes :=
  (trim response.message).map fun character => if isLineCharacter character then 32 else character

def browserHTTPErrorDetail (response : HTTPResponse) : Bytes :=
  let detail := errorText response
  if 500 < detail.length then detail.take 500 ++ ascii "..." else detail

/-- The exceptions of the browser client. -/
inductive BrowserError where
  | interrupt
  | noResponse (baseUrl : Bytes)
  | discoveryDenied (status : Nat)
  | httpStatus (status : Nat) (baseUrl : Bytes) (detail : Bytes)
  | requestFailed (baseUrl : Bytes) (error : Bytes)
  deriving DecidableEq

/-- `HTTPStatusCode::INVALID`. -/
def invalidStatus : Nat := 0

/-- `SplunkClient::AuthenticatedRequest` (browser), given the response to its request. -/
def browserAuthenticatedRequest (url : Bytes) (indexDiscovery interrupted : Bool)
    (response : Option HTTPResponse) : Except BrowserError Bytes :=
  if interrupted then .error .interrupt
  else
    let baseUrl := normalizeUrl url
    match response with
    | none => .error (.noResponse baseUrl)
    | some response =>
      if response.success then .ok response.body
      else if indexDiscovery && (response.status = 401 || response.status = 403) then
        .error (.discoveryDenied response.status)
      else if response.status ≠ invalidStatus then
        .error (.httpStatus response.status baseUrl (browserHTTPErrorDetail response))
      else .error (.requestFailed baseUrl response.error)

end SplunkLogs
