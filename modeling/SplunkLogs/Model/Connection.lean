import SplunkLogs.Model.Client

/-!
# Connections and requests

The configuration of the client, the connection `GetConnection` makes of it in native builds,
and the requests sent on it. The headers `httplib` adds for a connection are its own matter.
-/
namespace SplunkLogs

abbrev Header := Bytes × Bytes

/-- The configuration of a `SplunkClient`. -/
structure SplunkClient where
  url : Bytes := ascii "https://localhost:8089"
  username : Bytes := []
  password : Bytes := []
  token : Bytes := []
  tokenType : Bytes := ascii "Bearer"
  insecureTls : Bool := false
  timeoutSeconds : Nat := 60
  retries : Nat := 4
  deriving DecidableEq

namespace SplunkClient

def copyConfigTo (client target : SplunkClient) : SplunkClient :=
  { target with
    url := client.url
    username := client.username
    password := client.password
    token := client.token
    tokenType := client.tokenType
    insecureTls := client.insecureTls
    timeoutSeconds := client.timeoutSeconds
    retries := client.retries }

end SplunkClient

/-- The settings of an `httplib` client that the extension uses. -/
structure Connection where
  host : Bytes
  connectionTimeout : Nat
  readTimeout : Nat
  keepAlive : Bool
  defaultHeaders : List Header := []
  bearerToken : Bytes := []
  basicUsername : Bytes := []
  basicPassword : Bytes := []
  verifyCertificate : Bool := true
  verifyHostname : Bool := true

/-- The connection that `GetConnection` creates. -/
def SplunkClient.connection (client : SplunkClient) : Connection :=
  let connection : Connection :=
    { host := normalizeUrl client.url
      connectionTimeout := client.timeoutSeconds
      readTimeout := client.timeoutSeconds
      keepAlive := true }
  let connection :=
    if !client.token.isEmpty then
      if ciEquals client.tokenType (ascii "Splunk") then
        { connection with
          defaultHeaders := [(ascii "Authorization", ascii "Splunk " ++ client.token)] }
      else { connection with bearerToken := client.token }
    else if !client.username.isEmpty then
      { connection with basicUsername := client.username, basicPassword := client.password }
    else connection
  if client.insecureTls then
    { connection with verifyCertificate := false, verifyHostname := false }
  else connection

/-- The two calls of the API: `ExportSearch` and `ListIndexes`. -/
inductive ApiCall where
  | exportSearch (formBody : Bytes)
  | listIndexes

def ApiCall.path : ApiCall → Bytes
  | .exportSearch _ => ascii "/services/search/v2/jobs/export"
  | .listIndexes => ascii "/services/data/indexes?output_mode=json&count=0"

def ApiCall.formBody : ApiCall → Option Bytes
  | .exportSearch formBody => some formBody
  | .listIndexes => none

def acceptHeader : Header := (ascii "Accept", ascii "application/json")

def formHeader : Header := (ascii "Content-Type", ascii "application/x-www-form-urlencoded")

/-- A request as native builds hand it to `httplib`: a POST with a body, a GET without. -/
structure NativeRequest where
  path : Bytes
  headers : List Header
  body : Option Bytes

def nativeRequest (call : ApiCall) : NativeRequest where
  path := call.path
  headers := if call.formBody.isSome then [acceptHeader, formHeader] else [acceptHeader]
  body := call.formBody

/-- `SplunkClient::ListIndexes` (native) of a client without a connection yet. -/
def SplunkClient.listIndexes (client : SplunkClient) (overlongShift : Nat → Nat)
    (attempts : Nat → Attempt) : RequestRun :=
  authenticatedRequest { url := client.url, retries := client.retries, overlongShift } true
    attempts 0 false

end SplunkLogs
