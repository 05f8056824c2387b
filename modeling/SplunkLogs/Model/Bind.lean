import SplunkLogs.Model.Connection
import SplunkLogs.Model.Credentials
import SplunkLogs.Model.Request

/-!
# Binding a scan

`SplunkLogsBind` and `GetSplunkLogsTableScan`: the search, and a client configured from a
secret. A named parameter has the type it is registered with; `none` is NULL.
-/
namespace SplunkLogs

structure SplunkLogsBindData where
  query : Bytes := ascii "*"
  earliest : Bytes := ascii "-15m"
  latest : Bytes := ascii "now"
  /-- 0 is unlimited. -/
  maxRows : Int := 0
  client : SplunkClient := {}

/-- A named parameter of `read_splunk_logs`. -/
inductive NamedParameter where
  | query (value : Option Bytes)
  | earliest (value : Option Bytes)
  | latest (value : Option Bytes)
  | maxRows (value : Option Int)
  | retries (value : Option Int)
  | timeout (value : Option Int)
  | secret (value : Option Bytes)

/-- The six fields every user of the credentials copies into its client. -/
def SplunkClient.withCredentials (client : SplunkClient) (credentials : SplunkCredentials) :
    SplunkClient :=
  { client with
    url := credentials.url
    username := credentials.username
    password := credentials.password
    token := credentials.token
    tokenType := credentials.tokenType
    insecureTls := credentials.insecureTls }

/-- One round of the loop over the named parameters; the second component is the name of the
secret. -/
def bindParameter (bound : SplunkLogsBindData × Bytes) (param : NamedParameter) :
    Except Exception (SplunkLogsBindData × Bytes) :=
  let (result, secretName) := bound
  match param with
  | .query (some value) => .ok ({ result with query := value }, secretName)
  | .earliest (some value) => .ok ({ result with earliest := value }, secretName)
  | .latest (some value) => .ok ({ result with latest := value }, secretName)
  | .maxRows (some value) => .ok ({ result with maxRows := value }, secretName)
  | .retries (some value) =>
    if value < 0 then
      .error (.invalidInput
        (ascii "read_splunk_logs: retries must be >= 0 (0 disables retrying)"))
    else .ok ({ result with client := { result.client with retries := value.toNat } }, secretName)
  | .timeout (some value) =>
    if value < 1 then
      .error (.invalidInput (ascii "read_splunk_logs: timeout must be >= 1 (seconds)"))
    else
      .ok ({ result with client := { result.client with timeoutSeconds := value.toNat } },
        secretName)
  | .secret (some value) => .ok (result, value)
  | _ => .ok bound

def splunkLogsBind (manager : SecretManager) (params : List NamedParameter) :
    Except Exception SplunkLogsBindData := do
  let (result, secretName) ← params.foldlM bindParameter ({}, [])
  if result.maxRows < 0 then
    throw (.invalidInput (ascii "read_splunk_logs: max_rows must be >= 0 (0 means unlimited)"))
  let credentials ← getSplunkCredentials manager secretName
  return { result with client := result.client.withCredentials credentials }

/-- The bound data of a catalog table. -/
def getSplunkLogsTableScan (manager : SecretManager) (secretName indexName : Bytes) :
    Except Exception SplunkLogsBindData := do
  let result : SplunkLogsBindData := { query := buildIndexQuery indexName }
  let credentials ← getSplunkCredentials manager secretName
  return { result with client := result.client.withCredentials credentials }

/-- The client of a scan: `StartExport` and `FetchBrowserResponse` copy the configuration into
the fresh client of the scan's state. -/
def scanClient (bind : SplunkLogsBindData) : SplunkClient := bind.client.copyConfigTo {}

end SplunkLogs
