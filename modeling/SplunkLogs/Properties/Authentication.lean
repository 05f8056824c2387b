import SplunkLogs.Spec.Authorization

/-!
# Accepted credentials authenticate, the same way on every path

Validation decides which secrets are accepted. All clients hold the fields read from the
secret, and both builds derive one `Authorization` value from them.
-/
namespace SplunkLogs

section Validation

variable {manager : SecretManager} {secretName : Bytes} {secretMap : SecretMap}

/-- The credentials are those of the map, once they are validated. -/
theorem getSplunkCredentials_holds (holds : Holds manager secretName secretMap) :
    ∃ name, getSplunkCredentials manager secretName =
      validateCredentials (readCredentials name secretMap) := by
  obtain ⟨secret, found, isSplunk, entries⟩ := holds
  refine ⟨secret.name, ?_⟩
  have entered : splunkSecretMap secretName secret = .ok secretMap := by
    simp [splunkSecretMap, isSplunk, entries]
  rw [getSplunkCredentials, found]
  change (splunkSecretMap secretName secret >>= _) = _
  rw [entered]
  rfl

/-- An empty text counts like a missing one. -/
theorem filter_getD_eq (text : Option Bytes) (default : Bytes) :
    (text.filter (!·.isEmpty)).getD default = if text.getD [] = [] then default
      else text.getD [] := by
  cases text with
  | none => rfl
  | some text => cases text <;> rfl

theorem readCredentials_tokenType (name : Bytes) :
    (readCredentials name secretMap).tokenType = secretMap.tokenType :=
  filter_getD_eq _ _

/-- The checks of the code are the conditions on the secret. -/
theorem validateCredentials_ok_iff (name : Bytes) (creds : SplunkCredentials) :
    validateCredentials (readCredentials name secretMap) = .ok creds ↔
      Accepted secretMap ∧ creds = readCredentials name secretMap := by
  have credentials : (!(readCredentials name secretMap).hasToken &&
      !(readCredentials name secretMap).hasBasicAuth) = true ↔
      ¬(secretMap.textOf (ascii "token") ≠ [] ∨ secretMap.textOf (ascii "username") ≠ [] ∧
        secretMap.textOf (ascii "password") ≠ []) := by
    simp only [SplunkCredentials.hasToken, SplunkCredentials.hasBasicAuth, readCredentials,
      SecretMap.textOf, Bool.not_not, Bool.and_eq_true, Bool.not_and, Bool.or_eq_true,
      List.isEmpty_iff, ne_eq, not_or, not_and_or, not_not]
  have scheme : (!ciEquals (readCredentials name secretMap).tokenType (ascii "Bearer") &&
      !ciEquals (readCredentials name secretMap).tokenType (ascii "Splunk")) = true ↔
      ¬(ciEquals secretMap.tokenType (ascii "Bearer") = true ∨
        ciEquals secretMap.tokenType (ascii "Splunk") = true) := by
    simp [readCredentials_tokenType]
  unfold validateCredentials
  split
  next missing =>
    constructor
    · intro impossible
      cases impossible
    · intro ⟨accepted, _⟩
      exact absurd accepted.credentials (credentials.mp missing)
  next present =>
    have present := Classical.not_not.mp (mt credentials.mpr present)
    split
    next unknown =>
      constructor
      · intro impossible
        cases impossible
      · intro ⟨accepted, _⟩
        exact absurd accepted.scheme (scheme.mp unknown)
    next known =>
      have known := Classical.not_not.mp (mt scheme.mpr known)
      constructor
      · intro same
        cases same
        exact ⟨⟨present, known⟩, rfl⟩
      · intro ⟨_, same⟩
        rw [same]

theorem getSplunkCredentials_ok_iff (holds : Holds manager secretName secretMap) :
    (∃ creds, getSplunkCredentials manager secretName = .ok creds) ↔ Accepted secretMap := by
  obtain ⟨name, same⟩ := getSplunkCredentials_holds holds
  simp only [same, validateCredentials_ok_iff, exists_and_left, exists_eq, and_true]

/-- The credentials handed out are accepted and hold the texts of the map. -/
theorem getSplunkCredentials_ok (holds : Holds manager secretName secretMap)
    {creds : SplunkCredentials} (resolved : getSplunkCredentials manager secretName = .ok creds) :
    Accepted secretMap ∧ ∃ name, creds = readCredentials name secretMap := by
  obtain ⟨name, same⟩ := getSplunkCredentials_holds holds
  rw [same, validateCredentials_ok_iff] at resolved
  exact ⟨resolved.1, name, resolved.2⟩

end Validation

section Clients

/-- The fields a request authenticates with are the texts of the secret. -/
structure Carries (secretMap : SecretMap) (client : SplunkClient) : Prop where
  username : client.username = secretMap.textOf (ascii "username")
  password : client.password = secretMap.textOf (ascii "password")
  token : client.token = secretMap.textOf (ascii "token")
  tokenType : client.tokenType = secretMap.tokenType

theorem carries_withCredentials (client : SplunkClient) (name : Bytes) (secretMap : SecretMap) :
    Carries secretMap (client.withCredentials (readCredentials name secretMap)) := by
  constructor
  · rfl
  · rfl
  · rfl
  · exact readCredentials_tokenType name

theorem scanClient_eq (bind : SplunkLogsBindData) : scanClient bind = bind.client := rfl

/-- One parameter names the secret, and no other one does. -/
theorem bindParameter_secret {before after : SplunkLogsBindData × Bytes} {param : NamedParameter}
    (bound : bindParameter before param = .ok after) :
    after.2 = (match param with
      | .secret value => value
      | _ => none).getD before.2 := by
  obtain ⟨result, secretName⟩ := before
  cases param with
  | query value | earliest value | latest value | maxRows value | secret value =>
    cases value <;> cases bound <;> rfl
  | retries value | timeout value =>
    cases value with
    | none => cases bound; rfl
    | some value =>
      simp only [bindParameter] at bound
      split at bound <;> cases bound
      rfl

/-- The loop over the parameters leaves the name of the secret behind. -/
theorem foldlM_bindParameter {params : List NamedParameter}
    {before after : SplunkLogsBindData × Bytes}
    (folded : params.foldlM bindParameter before = .ok after) :
    after.2 = (params.reverse.findSome? fun
      | .secret value => value
      | _ => none).getD before.2 := by
  induction params generalizing before with
  | nil =>
    cases folded
    rfl
  | cons param rest ih =>
    rw [List.foldlM_cons] at folded
    obtain ⟨next, bound, folded⟩ := bind_eq_ok.mp folded
    rw [ih folded, bindParameter_secret bound, List.reverse_cons, List.findSome?_append,
      List.findSome?_singleton]
    cases rest.reverse.findSome? _ <;> rfl

theorem splunkLogsBind_client {manager : SecretManager} {params : List NamedParameter}
    {bind : SplunkLogsBindData} (bound : splunkLogsBind manager params = .ok bind) :
    ∃ (client : SplunkClient) (credentials : SplunkCredentials),
      getSplunkCredentials manager (secretParameter params) = .ok credentials ∧
      bind.client = client.withCredentials credentials := by
  obtain ⟨⟨result, secretName⟩, folded, bound⟩ := bind_eq_ok.mp bound
  have named : secretName = secretParameter params := foldlM_bindParameter folded
  subst named
  dsimp only at bound
  split at bound
  · cases bound
  · obtain ⟨credentials, resolved, same⟩ := bind_eq_ok.mp bound
    cases same
    exact ⟨_, credentials, resolved, rfl⟩

/-- Whoever uses the secret, the client carries it. -/
theorem UsesSecret.carries {secretMap : SecretMap} {client : SplunkClient}
    (uses : UsesSecret secretMap client) : Accepted secretMap ∧ Carries secretMap client := by
  cases uses with
  | readSplunkLogs holds bound =>
    obtain ⟨client, credentials, resolved, same⟩ := splunkLogsBind_client bound
    obtain ⟨accepted, name, rfl⟩ := getSplunkCredentials_ok holds resolved
    rw [scanClient_eq, same]
    exact ⟨accepted, carries_withCredentials client name secretMap⟩
  | tableScan holds scanned =>
    obtain ⟨credentials, resolved, same⟩ := bind_eq_ok.mp scanned
    cases same
    obtain ⟨accepted, name, rfl⟩ := getSplunkCredentials_ok holds resolved
    exact ⟨accepted, carries_withCredentials _ name secretMap⟩
  | indexDiscovery holds resolved =>
    obtain ⟨accepted, name, rfl⟩ := getSplunkCredentials_ok holds resolved
    exact ⟨accepted, carries_withCredentials _ name secretMap⟩

end Clients

section Requests

theorem nativeRequest_plain (call : ApiCall) :
    authorizations (nativeRequest call).headers = [] := by
  cases call <;> rfl

/-- The credentials `GetConnection` sets, each in its own place. -/
structure Connection.SetUp (connection : Connection) (defaultHeaders : List Header)
    (bearerToken basicUsername basicPassword : Bytes) : Prop where
  defaultHeaders : connection.defaultHeaders = defaultHeaders
  bearerToken : connection.bearerToken = bearerToken
  basicUsername : connection.basicUsername = basicUsername
  basicPassword : connection.basicPassword = basicPassword

theorem connection_splunk {client : SplunkClient} (token : client.token ≠ [])
    (splunk : ciEquals client.tokenType (ascii "Splunk") = true) :
    client.connection.SetUp [(ascii "Authorization", ascii "Splunk " ++ client.token)] [] []
      [] := by
  cases insecure : client.insecureTls <;>
    constructor <;> simp [SplunkClient.connection, insecure, token, splunk]

theorem connection_bearer {client : SplunkClient} (token : client.token ≠ [])
    (other : ciEquals client.tokenType (ascii "Splunk") = false) :
    client.connection.SetUp [] client.token [] [] := by
  cases insecure : client.insecureTls <;>
    constructor <;> simp [SplunkClient.connection, insecure, token, other]

theorem connection_basic {client : SplunkClient} (noToken : client.token = [])
    (named : client.username ≠ []) :
    client.connection.SetUp [] [] client.username client.password := by
  cases insecure : client.insecureTls <;>
    constructor <;> simp [SplunkClient.connection, insecure, noToken, named]

variable {secretMap : SecretMap} {client : SplunkClient} (accepted : Accepted secretMap)
  (carries : Carries secretMap client)

include accepted carries

/-- An accepted secret without a token has a user name. -/
theorem Accepted.username (noToken : client.token = []) : client.username ≠ [] := by
  rw [carries.token] at noToken
  rw [carries.username]
  exact (accepted.credentials.resolve_left (not_not.mpr noToken)).1

/-- Native builds: the settings of the connection become the one value. -/
theorem authorizations_native {wireHeaders : Connection → List Header → List Header}
    {base64 : Bytes → Bytes} (httplib : HttplibAuthorization wireHeaders base64)
    (call : ApiCall) :
    authorizations (wireHeaders client.connection (nativeRequest call).headers) =
      [authorizationValue base64 secretMap] := by
  have plain := nativeRequest_plain call
  rw [authorizationValue, ← carries.token, ← carries.username, ← carries.password,
    ← carries.tokenType]
  by_cases noToken : client.token = []
  · have named := accepted.username carries noToken
    obtain ⟨header, bearer, user, password⟩ := connection_basic noToken named
    rw [httplib.basic _ _ plain header bearer (user ▸ named), user, password, if_pos noToken]
  · rw [if_neg noToken]
    cases splunk : ciEquals client.tokenType (ascii "Splunk") with
    | true =>
      obtain ⟨header, bearer, user, password⟩ := connection_splunk noToken splunk
      rw [httplib.defaultHeaders _ _ plain bearer user password, header, if_pos rfl]
      rfl
    | false =>
      obtain ⟨header, bearer, user, password⟩ := connection_bearer noToken splunk
      rw [httplib.bearer _ _ plain header (bearer ▸ noToken) user password, bearer,
        if_neg Bool.false_ne_true]

/-- Browser builds: the header added has the same value. -/
theorem addBrowserAuthHeaders_eq (base64 : Bytes → Bytes) :
    addBrowserAuthHeaders base64 client [acceptHeader] =
      [acceptHeader, (ascii "Authorization", authorizationValue base64 secretMap)] := by
  have added : ∀ value, insertHeader [acceptHeader] (ascii "Authorization") value =
      [acceptHeader, (ascii "Authorization", value)] := fun value => rfl
  rw [authorizationValue, ← carries.token, ← carries.username, ← carries.password,
    ← carries.tokenType]
  unfold addBrowserAuthHeaders
  by_cases noToken : client.token = []
  · have named := accepted.username carries noToken
    simp [noToken, named, added]
  · by_cases splunk : ciEquals client.tokenType (ascii "Splunk") = true
    · simp [noToken, splunk, added]
    · simp [noToken, splunk, added]

theorem authorizations_browser (base64 : Bytes → Bytes) (call : ApiCall) :
    authorizations (browserRequest base64 client call).headers =
      [authorizationValue base64 secretMap] := by
  have first : insertHeader [] acceptHeader.1 acceptHeader.2 = [acceptHeader] := rfl
  simp only [browserRequest, first, addBrowserAuthHeaders_eq accepted carries]
  cases call <;> rfl

end Requests

/-- For every secret: its credentials are handed out if and only if it is accepted; and every
request of every client that uses it has one `Authorization` value in both builds, the one
the secret stands for. -/
theorem credentials_authenticate {wireHeaders : Connection → List Header → List Header}
    {base64 toBase64 : Bytes → Bytes} (httplib : HttplibAuthorization wireHeaders base64)
    (blob : ∀ text, toBase64 text = base64 text) (secretMap : SecretMap) :
    (∀ manager secretName, Holds manager secretName secretMap →
      ((∃ creds, getSplunkCredentials manager secretName = .ok creds) ↔ Accepted secretMap)) ∧
    ∀ client, UsesSecret secretMap client → Accepted secretMap ∧ ∀ call,
      authorizations (wireHeaders client.connection (nativeRequest call).headers) =
        [authorizationValue base64 secretMap] ∧
      authorizations (browserRequest toBase64 client call).headers =
        [authorizationValue base64 secretMap] := by
  obtain rfl : toBase64 = base64 := funext blob
  constructor
  · intro manager secretName holds
    exact getSplunkCredentials_ok_iff holds
  · intro client uses
    obtain ⟨accepted, carries⟩ := uses.carries
    refine ⟨accepted, fun call => ⟨?_, ?_⟩⟩
    · exact authorizations_native accepted carries httplib call
    · exact authorizations_browser accepted carries toBase64 call

/-- One way to send what a connection is set up with. -/
def plainWireHeaders (base64 : Bytes → Bytes) (connection : Connection)
    (headers : List Header) : List Header :=
  if connection.basicUsername ≠ [] then
    headers ++ [(ascii "Authorization", ascii "Basic " ++
      base64 (connection.basicUsername ++ ascii ":" ++ connection.basicPassword))]
  else if connection.bearerToken ≠ [] then
    headers ++ [(ascii "Authorization", ascii "Bearer " ++ connection.bearerToken)]
  else headers ++ connection.defaultHeaders

theorem authorizations_append (first second : List Header) :
    authorizations (first ++ second) = authorizations first ++ authorizations second := by
  rw [authorizations, List.filter_append, List.map_append, authorizations, authorizations]

theorem plainWireHeaders_authorization (base64 : Bytes → Bytes) :
    HttplibAuthorization (plainWireHeaders base64) base64 := by
  constructor
  · intro connection headers plain noBearer noUser _
    simp [plainWireHeaders, noUser, noBearer, authorizations_append, plain]
  · intro connection headers plain _ bearer noUser _
    simp only [plainWireHeaders, noUser, bearer, ne_eq, not_true, not_false_eq_true, if_true,
      if_false, authorizations_append, plain]
    rfl
  · intro connection headers plain _ _ user
    simp only [plainWireHeaders, user, ne_eq, not_false_eq_true, if_true, authorizations_append,
      plain]
    rfl

/-- User name `a` and password `b`. -/
def basicMap : SecretMap := [(ascii "username", .text (ascii "a")),
  (ascii "password", .text (ascii "b")), (ascii "token", .null)]

def basicManager : SecretManager where
  getSecretByName _ := some ⟨ascii "local", ascii "splunk", some basicMap⟩
  allSecrets := []

/-- Index discovery with that secret; `YTpi` is the Base64 text of `a:b`. -/
theorem credentials_authenticate_basic :
    let client := discoveryClient (readCredentials (ascii "local") basicMap)
    let base64 := fun _ => ascii "YTpi"
    authorizations (plainWireHeaders base64 client.connection
      (nativeRequest .listIndexes).headers) = [ascii "Basic YTpi"] ∧
    authorizations (browserRequest base64 client .listIndexes).headers = [ascii "Basic YTpi"] := by
  have holds : Holds basicManager (ascii "local") basicMap :=
    ⟨⟨ascii "local", ascii "splunk", some basicMap⟩, rfl, rfl, rfl⟩
  have resolved : getSplunkCredentials basicManager (ascii "local") =
      .ok (readCredentials (ascii "local") basicMap) := rfl
  exact ((credentials_authenticate (plainWireHeaders_authorization fun _ => ascii "YTpi")
    (fun _ => rfl) basicMap).2 _ (.indexDiscovery holds resolved)).2 .listIndexes

end SplunkLogs
