import SplunkLogs.Model.Credentials

/-!
# Creating a secret

`CreateSplunkSecretFromConfig`: the secret that `CREATE SECRET (TYPE splunk, ...)` leaves in the
manager.
-/
namespace SplunkLogs

/-- The part of `CreateSecretInput` the function reads. -/
structure CreateSecretInput where
  scope : List Bytes
  name : Bytes
  options : List (Bytes × SecretValue)

/-- A `KeyValueSecret` as it is created. -/
structure KeyValueSecret where
  scope : List Bytes
  type : Bytes
  provider : Bytes
  name : Bytes
  secretMap : SecretMap := []
  redactKeys : List Bytes := []

/-- The keys that are understood; anything else is ignored. -/
def secretKeys : List Bytes :=
  [ascii "url", ascii "username", ascii "password", ascii "token", ascii "token_type",
    ascii "insecure_tls"]

/-- `secret_map[key] = value`; a key that is present in another case keeps its spelling. -/
def SecretMap.assign (secretMap : SecretMap) (key : Bytes) (value : SecretValue) : SecretMap :=
  if secretMap.any fun entry => ciEquals entry.1 key then
    secretMap.map fun entry => if ciEquals entry.1 key then (entry.1, value) else entry
  else secretMap ++ [(key, value)]

/-- One round of the loop over the options. -/
def copyOption (secretMap : SecretMap) (option : Bytes × SecretValue) : SecretMap :=
  let lowerName := lower option.1
  if secretKeys.contains lowerName then secretMap.assign lowerName option.2 else secretMap

def createSplunkSecretFromConfig (input : CreateSecretInput) : KeyValueSecret where
  scope := input.scope
  type := ascii "splunk"
  provider := ascii "config"
  name := input.name
  secretMap := input.options.foldl copyOption []
  redactKeys := [ascii "password", ascii "token"]

/-- The secret as the manager gives it back. -/
def KeyValueSecret.toSecret (secret : KeyValueSecret) : Secret where
  name := secret.name
  type := secret.type
  secretMap := some secret.secretMap

end SplunkLogs
