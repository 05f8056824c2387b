import SplunkLogs.Model.BrowserClient
import SplunkLogs.Model.Catalog

/-!
# How a secret authenticates

The secrets that are accepted, the `Authorization` value each stands for, and the clients that
use it. What `httplib` and the Base64 encoders are known to do is stated as hypotheses.
-/
namespace SplunkLogs

/-- The text under a key; keys that are missing or NULL have none. -/
def SecretMap.textOf (secretMap : SecretMap) (key : Bytes) : Bytes :=
  (secretMap.givenText key).getD []

/-- The scheme for tokens, `Bearer` unless one is given. -/
def SecretMap.tokenType (secretMap : SecretMap) : Bytes :=
  if secretMap.textOf (ascii "token_type") = [] then ascii "Bearer"
  else secretMap.textOf (ascii "token_type")

/-- A token, or a user name and a password; and one of the two schemes. -/
structure Accepted (secretMap : SecretMap) : Prop where
  credentials : secretMap.textOf (ascii "token") ≠ [] ∨
    secretMap.textOf (ascii "username") ≠ [] ∧ secretMap.textOf (ascii "password") ≠ []
  scheme : ciEquals secretMap.tokenType (ascii "Bearer") = true ∨
    ciEquals secretMap.tokenType (ascii "Splunk") = true

/-- The value an accepted secret stands for; a token goes before user name and password. -/
def authorizationValue (base64 : Bytes → Bytes) (secretMap : SecretMap) : Bytes :=
  if secretMap.textOf (ascii "token") = [] then
    ascii "Basic " ++ base64 (secretMap.textOf (ascii "username") ++ ascii ":" ++
      secretMap.textOf (ascii "password"))
  else if ciEquals secretMap.tokenType (ascii "Splunk") then
    ascii "Splunk " ++ secretMap.textOf (ascii "token")
  else ascii "Bearer " ++ secretMap.textOf (ascii "token")

/-- The `Authorization` values among headers; names are compared without case. -/
def authorizations (headers : List Header) : List Bytes :=
  (headers.filter fun header => ciEquals header.1 (ascii "Authorization")).map Prod.snd

/-- What `httplib` sends for a request that has no `Authorization` of its own: that of the
default headers, the bearer token, or user name and password. -/
structure HttplibAuthorization (wireHeaders : Connection → List Header → List Header)
    (base64 : Bytes → Bytes) : Prop where
  defaultHeaders : ∀ connection headers, authorizations headers = [] →
    connection.bearerToken = [] → connection.basicUsername = [] →
    connection.basicPassword = [] →
    authorizations (wireHeaders connection headers) = authorizations connection.defaultHeaders
  bearer : ∀ connection headers, authorizations headers = [] →
    connection.defaultHeaders = [] → connection.bearerToken ≠ [] →
    connection.basicUsername = [] → connection.basicPassword = [] →
    authorizations (wireHeaders connection headers) =
      [ascii "Bearer " ++ connection.bearerToken]
  basic : ∀ connection headers, authorizations headers = [] →
    connection.defaultHeaders = [] → connection.bearerToken = [] →
    connection.basicUsername ≠ [] →
    authorizations (wireHeaders connection headers) = [ascii "Basic " ++
      base64 (connection.basicUsername ++ ascii ":" ++ connection.basicPassword)]

/-- The name leads to a `splunk` secret with these entries. -/
def Holds (manager : SecretManager) (secretName : Bytes) (secretMap : SecretMap) : Prop :=
  ∃ secret, findSecret manager secretName = .ok secret ∧ secret.type = ascii "splunk" ∧
    secret.secretMap = some secretMap

/-- The `secret` parameter of a call; a later one replaces an earlier one. -/
def secretParameter (params : List NamedParameter) : Bytes :=
  (params.reverse.findSome? fun
    | .secret value => value
    | _ => none).getD []

/-- The clients that make requests with a secret, in the three places that use one. -/
inductive UsesSecret (secretMap : SecretMap) : SplunkClient → Prop
  | readSplunkLogs {manager params bind} : Holds manager (secretParameter params) secretMap →
      splunkLogsBind manager params = .ok bind → UsesSecret secretMap (scanClient bind)
  | tableScan {manager bind} {table : SplunkTableEntry} :
      Holds manager table.secretName secretMap →
      table.getScanFunction manager = .ok bind → UsesSecret secretMap (scanClient bind)
  | indexDiscovery {manager secretName credentials} : Holds manager secretName secretMap →
      getSplunkCredentials manager secretName = .ok credentials →
      UsesSecret secretMap (discoveryClient credentials)

end SplunkLogs
