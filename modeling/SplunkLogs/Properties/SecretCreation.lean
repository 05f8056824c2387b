import Mathlib.Data.List.Forall2
import SplunkLogs.Foundation.FoldedMap
import SplunkLogs.Model.Secret

/-!
# A created secret

The credentials read from a secret are those given when it was created, and nothing that is
printed of it depends on the password or the token.
-/
namespace SplunkLogs

open Foundation

/-- Look-ups and assignments compare keys in lower case. -/
theorem tryGetValue_eq (secretMap : SecretMap) (key : Bytes) :
    secretMap.tryGetValue key = foldedGet lower secretMap key := rfl

theorem assign_eq (secretMap : SecretMap) (key : Bytes) (value : SecretValue) :
    secretMap.assign key value = foldedSet lower secretMap key value := rfl

theorem lower_lower (s : Bytes) : lower (lower s) = lower s := by
  have twice : ∀ c, toLower (toLower c) = toLower c := by
    intro c
    unfold toLower
    grind
  simp [lower, twice]

/-- The keys are written in lower case. -/
theorem lower_secretKey {key : Bytes} (known : key ∈ secretKeys) : lower key = key := by
  revert key
  decide

section Options

variable {options : List (Bytes × SecretValue)} {key : Bytes}

/-- What one option does to a key that is understood. -/
theorem tryGetValue_copyOption (known : key ∈ secretKeys) (before : SecretMap)
    (option : Bytes × SecretValue) :
    (copyOption before option).tryGetValue key =
      if lower option.1 = key then some option.2 else before.tryGetValue key := by
  simp only [copyOption]
  split
  · rw [assign_eq, tryGetValue_eq, foldedGet_set, lower_lower, lower_secretKey known]
    simp only [beq_iff_eq]
    rfl
  next ignored =>
    have other : lower option.1 ≠ key := fun same =>
      ignored (List.contains_iff_mem.mpr (same ▸ known))
    rw [if_neg other]

/-- Options whose names differ, without regard to case, are all read back. -/
theorem tryGetValue_copied (known : key ∈ secretKeys) (apart : FoldsApart lower options)
    (before : SecretMap) :
    (options.foldl copyOption before).tryGetValue key =
      (SecretMap.tryGetValue options key).or (before.tryGetValue key) := by
  induction options generalizing before with
  | nil => rfl
  | cons option rest ih =>
    obtain ⟨fresh, apart⟩ := List.nodup_cons.mp apart
    rw [List.foldl_cons, ih apart, tryGetValue_copyOption known, tryGetValue_eq (option :: rest),
      foldedGet_cons, lower_secretKey known]
    by_cases here : lower option.1 = key
    · -- No later option has this name.
      have missing : SecretMap.tryGetValue rest key = none := by
        apply foldedGet_none
        intro other member same
        rw [lower_secretKey known, ← here] at same
        exact fresh (List.mem_map.mpr ⟨other.1, List.mem_map_of_mem member, same⟩)
      simp [here, missing]
    · simp [here, tryGetValue_eq]

/-- The credentials depend on the six keys that are understood. -/
theorem readCredentials_congr (name : Bytes) {first second : SecretMap}
    (same : ∀ key ∈ secretKeys, first.tryGetValue key = second.tryGetValue key) :
    readCredentials name first = readCredentials name second := by
  simp only [secretKeys, List.forall_mem_cons] at same
  obtain ⟨url, username, password, token, tokenType, insecureTls, _⟩ := same
  simp only [readCredentials, SecretMap.givenText, url, username, password, token, tokenType,
    insecureTls]

end Options

/-- What is in the map of a created secret: keys that are understood, each of them once. -/
structure Stored (secretMap : SecretMap) : Prop where
  known : ∀ entry ∈ secretMap, entry.1 ∈ secretKeys
  apart : FoldsApart lower secretMap

theorem Stored.copyOption {secretMap : SecretMap} (stored : Stored secretMap)
    (option : Bytes × SecretValue) : Stored (copyOption secretMap option) := by
  simp only [SplunkLogs.copyOption]
  split
  next understood =>
    constructor
    · intro entry member
      rcases key_mem_set member with old | new
      · obtain ⟨before, inside, same⟩ := List.mem_map.mp old
        exact same ▸ stored.known before inside
      · rw [new]
        exact List.contains_iff_mem.mp understood
    · exact stored.apart.set (lower option.1) option.2
  · exact stored

theorem created_stored (input : CreateSecretInput) :
    Stored (createSplunkSecretFromConfig input).secretMap := by
  have kept : ∀ (options : List (Bytes × SecretValue)) (before : SecretMap), Stored before →
      Stored (options.foldl SplunkLogs.copyOption before) := by
    intro options
    induction options with
    | nil => exact fun before stored => stored
    | cons option rest ih => exact fun before stored => ih _ (stored.copyOption option)
  exact kept input.options [] ⟨nofun, List.nodup_nil⟩

/-- Whatever the order in which the options come, the secret that is found again gives the
credentials that the options say, checked; and it holds nothing else. -/
theorem created_secret_reads_back (manager : SecretManager) (secretName : Bytes)
    (input : CreateSecretInput) (options : List (Bytes × SecretValue))
    (perm : input.options.Perm options) (apart : FoldsApart lower input.options)
    (found : findSecret manager secretName = .ok (createSplunkSecretFromConfig input).toSecret) :
    getSplunkCredentials manager secretName =
      validateCredentials (readCredentials input.name options) ∧
    ∀ entry ∈ (createSplunkSecretFromConfig input).secretMap,
      entry.1 ∈ secretKeys ∧ ∃ option ∈ options, lower option.1 = entry.1 ∧ option.2 = entry.2 := by
  have read : ∀ key ∈ secretKeys, (createSplunkSecretFromConfig input).secretMap.tryGetValue key =
      SecretMap.tryGetValue options key := by
    intro key known
    rw [createSplunkSecretFromConfig, tryGetValue_copied known apart, tryGetValue_eq,
      tryGetValue_eq, foldedGet_perm perm apart]
    exact Option.or_none
  constructor
  · rw [← readCredentials_congr input.name read]
    simp only [getSplunkCredentials, found]
    rfl
  · intro entry member
    have stored := created_stored input
    have known := stored.known entry member
    -- The entry is the one found under its key, so an option has its value.
    have here := read entry.1 known
    rw [tryGetValue_eq, tryGetValue_eq, foldedGet_of_mem stored.apart member rfl] at here
    obtain ⟨option, given, folded, value⟩ := foldedGet_some here.symm
    rw [lower_secretKey known] at folded
    exact ⟨known, option, given, folded, value⟩

/-- A manager that holds this secret alone. -/
def SecretManager.only (secret : KeyValueSecret) : SecretManager where
  getSecretByName name := if name == secret.name then some secret.toSecret else none
  allSecrets := [some secret.toSecret]

def tokenInput : CreateSecretInput where
  scope := []
  name := ascii "a"
  options := [(ascii "URL", .text (ascii "u")), (ascii "TOKEN", .text (ascii "t"))]

/-- A secret with a token, read from options in another order. -/
theorem created_secret_reads_back_token :
    getSplunkCredentials (.only (createSplunkSecretFromConfig tokenInput)) (ascii "a") =
      .ok { name := ascii "a", url := ascii "u", token := ascii "t" } :=
  (created_secret_reads_back _ (ascii "a") tokenInput
    [(ascii "TOKEN", .text (ascii "t")), (ascii "URL", .text (ascii "u"))]
    (.swap _ _ []) (by decide) rfl).1

section Redaction

/-- `redact_keys` has the key; the set compares without case. -/
def KeyValueSecret.redacts (secret : KeyValueSecret) (key : Bytes) : Bool :=
  secret.redactKeys.any fun redacted => ciEquals redacted key

/-- What is documented of the text a listing of secrets has under a key: values under the keys to
be redacted are not shown, and all others are shown as they are. -/
structure RedactsListed (listed : KeyValueSecret → Bytes → Option Bytes) : Prop where
  redacted : ∀ secret key, secret.redacts key = true →
    listed secret key = (secret.secretMap.tryGetValue key).map fun _ => ascii "redacted"
  plain : ∀ secret key, secret.redacts key = false →
    listed secret key = (secret.secretMap.tryGetValue key).map SecretValue.toText

/-- The keys of the credentials that are secret. -/
def IsCredential (key : Bytes) : Prop := lower key = ascii "password" ∨ lower key = ascii "token"

instance (key : Bytes) : Decidable (IsCredential key) := inferInstanceAs (Decidable (_ ∨ _))

theorem created_redacts (input : CreateSecretInput) (key : Bytes) :
    (createSplunkSecretFromConfig input).redacts key = true ↔ IsCredential key := by
  have password : lower (ascii "password") = ascii "password" := lower_secretKey (by decide)
  have token : lower (ascii "token") = ascii "token" := lower_secretKey (by decide)
  simp only [KeyValueSecret.redacts, createSplunkSecretFromConfig, List.any_cons, List.any_nil,
    Bool.or_false, Bool.or_eq_true, ciEquals, beq_iff_eq, password, token]
  exact or_congr eq_comm eq_comm

theorem tryGetValue_lower (secretMap : SecretMap) (key : Bytes) :
    secretMap.tryGetValue (lower key) = secretMap.tryGetValue key := by
  simp only [SecretMap.tryGetValue, ciEquals, lower_lower]

theorem tryGetValue_append (first second : SecretMap) (key : Bytes) :
    SecretMap.tryGetValue (first ++ second) key =
      (first.tryGetValue key).or (second.tryGetValue key) := by
  simp only [SecretMap.tryGetValue, List.find?_append, Option.map_or]

/-- The last of the options with a name is the one that stays. -/
theorem tryGetValue_last {key : Bytes} (known : key ∈ secretKeys)
    (options : List (Bytes × SecretValue)) (before : SecretMap) :
    (options.foldl copyOption before).tryGetValue key =
      (SecretMap.tryGetValue options.reverse key).or (before.tryGetValue key) := by
  induction options generalizing before with
  | nil => rfl
  | cons option rest ih =>
    have single : SecretMap.tryGetValue [option] key =
        if lower option.1 = key then some option.2 else none := by
      rw [tryGetValue_eq, foldedGet_cons, lower_secretKey known]
      simp only [beq_iff_eq]
      rfl
    rw [List.foldl_cons, ih, tryGetValue_copyOption known, List.reverse_cons, tryGetValue_append,
      single]
    split <;> simp

/-- What a created secret has under any key. -/
theorem tryGetValue_created (input : CreateSecretInput) (key : Bytes) :
    (createSplunkSecretFromConfig input).secretMap.tryGetValue key =
      if lower key ∈ secretKeys then SecretMap.tryGetValue input.options.reverse key else none := by
  split
  next known =>
    rw [← tryGetValue_lower, createSplunkSecretFromConfig, tryGetValue_last known,
      tryGetValue_lower]
    exact Option.or_none
  next unknown =>
    rw [tryGetValue_eq]
    apply foldedGet_none
    intro entry member folded
    have stored := (created_stored input).known entry member
    exact unknown (folded ▸ (lower_secretKey stored).symm ▸ stored)

/-- The same names in the same order, with the same values but for passwords and tokens. -/
def AlikeGiven : List (Bytes × SecretValue) → List (Bytes × SecretValue) → Prop :=
  List.Forall₂ fun first second =>
    first.1 = second.1 ∧ (first.2 = second.2 ∨ IsCredential first.1)

/-- Under a key of a credential there is a value in both or in neither, and under any other key
the same value. -/
theorem AlikeGiven.tryGetValue {first second : List (Bytes × SecretValue)}
    (alike : AlikeGiven first second) (key : Bytes) :
    ((SecretMap.tryGetValue first key).isSome = (SecretMap.tryGetValue second key).isSome) ∧
      (¬IsCredential key → SecretMap.tryGetValue first key = SecretMap.tryGetValue second key) := by
  induction alike with
  | nil => exact ⟨rfl, fun _ => rfl⟩
  | cons same _ ih =>
    obtain ⟨names, values⟩ := same
    rw [tryGetValue_eq, tryGetValue_eq, foldedGet_cons, foldedGet_cons, names]
    split
    next here =>
      refine ⟨rfl, fun plain => congrArg some (values.resolve_right fun credential => plain ?_)⟩
      rwa [IsCredential, names, beq_iff_eq.mp here] at credential
    · exact ih

/-- Secrets created from options that differ in passwords and tokens only are listed alike,
and the listing still shows every other value that was given. -/
theorem redaction_hides_credentials (listed : KeyValueSecret → Bytes → Option Bytes)
    (documented : RedactsListed listed) (first second : CreateSecretInput)
    (given : AlikeGiven first.options second.options) :
    listed (createSplunkSecretFromConfig first) = listed (createSplunkSecretFromConfig second) ∧
    ∀ key ∈ secretKeys, ¬IsCredential key →
      listed (createSplunkSecretFromConfig first) key =
        (SecretMap.tryGetValue first.options.reverse key).map SecretValue.toText := by
  have plain : ∀ input key, ¬IsCredential key →
      listed (createSplunkSecretFromConfig input) key =
        ((createSplunkSecretFromConfig input).secretMap.tryGetValue key).map
          SecretValue.toText := by
    intro input key other
    apply documented.plain
    rwa [← created_redacts input, Bool.not_eq_true] at other
  constructor
  · funext key
    obtain ⟨present, same⟩ :=
      AlikeGiven.tryGetValue (List.rel_reverse given) key
    by_cases credential : IsCredential key
    · rw [documented.redacted _ _ ((created_redacts first key).mpr credential),
        documented.redacted _ _ ((created_redacts second key).mpr credential),
        tryGetValue_created, tryGetValue_created]
      split
      · -- Only whether there is a value makes a difference.
        cases here : SecretMap.tryGetValue first.options.reverse key <;>
          cases there : SecretMap.tryGetValue second.options.reverse key <;>
          simp_all
      · rfl
    · rw [plain first key credential, plain second key credential, tryGetValue_created,
        tryGetValue_created, same credential]
  · intro key known other
    rw [plain first key other, tryGetValue_created, lower_secretKey known, if_pos known]

/-- A listing of that kind. -/
def listedText (secret : KeyValueSecret) (key : Bytes) : Option Bytes :=
  (secret.secretMap.tryGetValue key).map fun value =>
    if secret.redacts key then ascii "redacted" else value.toText

theorem listedText_redacts : RedactsListed listedText := by
  constructor <;> intro secret key redacts <;> simp [listedText, redacts]

/-- The secret of a user. -/
def userSecret (password : String) : CreateSecretInput where
  scope := []
  name := ascii "a"
  options := [(ascii "USERNAME", .text (ascii "u")), (ascii "PASSWORD", .text (ascii password))]

/-- Secrets with different passwords are listed alike, with their user. -/
theorem redaction_hides_credentials_password :
    listedText (createSplunkSecretFromConfig (userSecret "b")) =
      listedText (createSplunkSecretFromConfig (userSecret "c")) ∧
    listedText (createSplunkSecretFromConfig (userSecret "b")) (ascii "username") =
      some (ascii "u") := by
  obtain ⟨alike, others⟩ := redaction_hides_credentials listedText listedText_redacts
    (userSecret "b") (userSecret "c")
    (.cons ⟨rfl, Or.inl rfl⟩ (.cons ⟨rfl, Or.inr (by decide)⟩ .nil))
  exact ⟨alike, (others _ (by decide) (by decide)).trans rfl⟩

end Redaction

end SplunkLogs
