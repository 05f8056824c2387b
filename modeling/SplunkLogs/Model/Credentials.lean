import SplunkLogs.Model.Text

/-!
# Credentials from the secret manager

The manager and its secrets are DuckDB's; what they hold is given from outside.
-/
namespace SplunkLogs

/-- The exceptions thrown while a statement is bound or a catalog attached. -/
inductive Exception where
  | invalidInput (message : Bytes)
  | io (message : Bytes)
  deriving DecidableEq

/-- A sequence of checks succeeds where each of them does. -/
theorem bind_eq_ok {α β : Type} {step : Except Exception α} {next : α → Except Exception β}
    {result : β} : (step >>= next) = .ok result ↔ ∃ a, step = .ok a ∧ next a = .ok result := by
  cases step with
  | error error => simp [bind, Except.bind]
  | ok a => simp [bind, Except.bind]

/-- A stored value: NULL, a BOOLEAN, or the text of a value of any other type. -/
inductive SecretValue where
  | null
  | boolean (value : Bool)
  | text (value : Bytes)
  deriving DecidableEq

/-- `Value::ToString`. -/
def SecretValue.toText : SecretValue → Bytes
  | .null => ascii "NULL"
  | .boolean true => ascii "true"
  | .boolean false => ascii "false"
  | .text value => value

/-- The entries of a `KeyValueSecret`. -/
abbrev SecretMap := List (Bytes × SecretValue)

/-- `KeyValueSecret::TryGetValue`; keys are compared without case. -/
def SecretMap.tryGetValue (secretMap : SecretMap) (key : Bytes) : Option SecretValue :=
  (secretMap.find? fun entry => ciEquals entry.1 key).map Prod.snd

/-- A secret of the manager; one that is not a `KeyValueSecret` has no map. -/
structure Secret where
  name : Bytes
  type : Bytes
  secretMap : Option SecretMap

structure SecretManager where
  getSecretByName : Bytes → Option Secret
  /-- An entry of the list may come without its secret. -/
  allSecrets : List (Option Secret)

/-- A value that is not BOOLEAN counts as true for `true`, `1`, `yes` and `on`. -/
def valueToBool : SecretValue → Bool
  | .boolean value => value
  | value =>
    let s := lower value.toText
    s == ascii "true" || s == ascii "1" || s == ascii "yes" || s == ascii "on"

structure SplunkCredentials where
  name : Bytes
  url : Bytes := ascii "https://localhost:8089"
  username : Bytes := []
  password : Bytes := []
  token : Bytes := []
  tokenType : Bytes := ascii "Bearer"
  insecureTls : Bool := false
  deriving DecidableEq

def SplunkCredentials.hasToken (creds : SplunkCredentials) : Bool := !creds.token.isEmpty

def SplunkCredentials.hasBasicAuth (creds : SplunkCredentials) : Bool :=
  !creds.username.isEmpty && !creds.password.isEmpty

/-- The text of a key that is present and not NULL. -/
def SecretMap.givenText (secretMap : SecretMap) (key : Bytes) : Option Bytes :=
  match secretMap.tryGetValue key with
  | none => none
  | some .null => none
  | some value => some value.toText

/-- The fields read one after the other; `url` and `token_type` keep their defaults when the
text is empty. -/
def readCredentials (name : Bytes) (secretMap : SecretMap) : SplunkCredentials where
  name := name
  url := ((secretMap.givenText (ascii "url")).filter (!·.isEmpty)).getD
    (ascii "https://localhost:8089")
  username := (secretMap.givenText (ascii "username")).getD []
  password := (secretMap.givenText (ascii "password")).getD []
  token := (secretMap.givenText (ascii "token")).getD []
  tokenType := ((secretMap.givenText (ascii "token_type")).filter (!·.isEmpty)).getD
    (ascii "Bearer")
  insecureTls :=
    match secretMap.tryGetValue (ascii "insecure_tls") with
    | none => false
    | some .null => false
    | some value => valueToBool value

/-- The two checks behind the fields. -/
def validateCredentials (creds : SplunkCredentials) : Except Exception SplunkCredentials :=
  if !creds.hasToken && !creds.hasBasicAuth then
    .error (.invalidInput
      (ascii "splunk secret must provide either TOKEN, or USERNAME and PASSWORD"))
  -- Only "Bearer" and "Splunk" are valid schemes.
  else if !ciEquals creds.tokenType (ascii "Bearer") &&
      !ciEquals creds.tokenType (ascii "Splunk") then
    .error (.invalidInput (ascii "splunk secret TOKEN_TYPE must be 'Bearer' or 'Splunk' (got '" ++
      creds.tokenType ++ ascii "')"))
  else .ok creds

/-- The secret named, or without a name the first one of type `splunk`. -/
def findSecret (manager : SecretManager) (secretName : Bytes) : Except Exception Secret :=
  if !secretName.isEmpty then
    match manager.getSecretByName secretName with
    | some secret => .ok secret
    | none =>
      .error (.invalidInput (ascii "No secret with name '" ++ secretName ++ ascii "' found"))
  else
    match manager.allSecrets.findSome? fun candidate =>
        candidate.filter fun secret => secret.type == ascii "splunk" with
    | some secret => .ok secret
    | none =>
      .error (.invalidInput (ascii ("No 'splunk' secret found. Create one first, e.g.:\n" ++
        "  CREATE SECRET (TYPE splunk, URL 'https://localhost:8089', USERNAME " ++
        "'admin', PASSWORD '<password>', INSECURE_TLS true);")))

/-- The entries of a secret of type `splunk`. -/
def splunkSecretMap (secretName : Bytes) (secret : Secret) : Except Exception SecretMap :=
  if secret.type != ascii "splunk" then
    .error (.invalidInput (ascii "Secret '" ++ secretName ++
      ascii "' is not a 'splunk' secret (found type '" ++ secret.type ++ ascii "')"))
  else
    match secret.secretMap with
    | some secretMap => .ok secretMap
    | none =>
      .error (.invalidInput (ascii "Secret '" ++ secret.name ++
        ascii "' is not a key-value 'splunk' secret"))

def getSplunkCredentials (manager : SecretManager) (secretName : Bytes) :
    Except Exception SplunkCredentials := do
  let secret ← findSecret manager secretName
  let secretMap ← splunkSecretMap secretName secret
  validateCredentials (readCredentials secret.name secretMap)

end SplunkLogs
