import SplunkLogs.Properties.Binding
import SplunkLogs.Properties.CatalogScan

/-!
# When an attachment succeeds

The attachments that are accepted, and the catalog each of them makes. The network is asked for
names where none are given, with the credentials of the secret, and nowhere else.
-/
namespace SplunkLogs

open Foundation

/-- An option as the documentation of `ATTACH` has it. -/
inductive ValidOption : Bytes × AttachValue → Prop
  | secret {option : Bytes × AttachValue} (name : lower option.1 = ascii "secret") (text : Bytes)
      (value : option.2 = .varchar text) (filled : text ≠ []) : ValidOption option
  | indexes {option : Bytes × AttachValue} (name : lower option.1 = ascii "indexes")
      (texts : List Bytes) (value : option.2 = .list .varchar (texts.map .varchar))
      (filled : [] ∉ texts) : ValidOption option

/-- The names of the tables: those given last, or those of the entries that Splunk lists for the
credentials. -/
inductive TableNames (env : Externals) (listIndexes : SplunkClient → Except Exception Bytes)
    (credentials : SplunkCredentials) (options : List (Bytes × AttachValue)) :
    List Bytes → Prop
  | given (value : AttachValue) (last : lastOption options (ascii "indexes") = some value) :
      TableNames env listIndexes credentials options value.texts.eraseDups
  | discovered (response : Bytes) (entries : List Json)
      (none : lastOption options (ascii "indexes") = none)
      (answered : listIndexes (discoveryClient credentials) = .ok response)
      (listed : discoveredEntries env response = .ok entries) :
      TableNames env listIndexes credentials options (shownNames entries).eraseDups

theorem foldlM_pushExplicit_texts (texts before : List Bytes) (filled : [] ∉ texts) :
    (texts.map AttachValue.varchar).foldlM pushExplicit before =
      .ok (texts.foldl insertNew before) := by
  induction texts generalizing before with
  | nil => rfl
  | cons name rest ih =>
    rw [List.mem_cons, not_or] at filled
    have step : pushExplicit before (.varchar name) = .ok (insertNew before name) := by
      simp only [pushExplicit, List.isEmpty_iff, Ne.symm filled.1, if_false, insertNew]
      split <;> rfl
    rw [List.map_cons, List.foldlM_cons, step]
    exact ih (insertNew before name) filled.2

/-- A list of names is accepted exactly if its elements are non-empty VARCHARs. -/
theorem parseExplicitIndexes_iff {value : AttachValue} :
    (∃ names, parseExplicitIndexes value = .ok names) ↔
      ∃ texts : List Bytes, value = .list .varchar (texts.map .varchar) ∧ [] ∉ texts := by
  constructor
  · rintro ⟨names, parsed⟩
    obtain ⟨texts, shape, filled, _⟩ := parseExplicitIndexes_ok parsed
    exact ⟨texts, shape, filled⟩
  · rintro ⟨texts, rfl, filled⟩
    exact ⟨_, foldlM_pushExplicit_texts texts [] filled⟩

theorem attachOption_valid {option : Bytes × AttachValue} :
    AttachOption option ↔ ValidOption option := by
  constructor
  · rintro (⟨name, text, value, filled⟩ | ⟨name, names, value⟩)
    · exact .secret name text value filled
    · obtain ⟨texts, shape, filled⟩ := parseExplicitIndexes_iff.mp ⟨names, value⟩
      exact .indexes name texts shape filled
  · rintro (⟨name, text, value, filled⟩ | ⟨name, texts, value, filled⟩)
    · exact .secret name text value filled
    · obtain ⟨names, parsed⟩ := parseExplicitIndexes_iff.mpr ⟨texts, value, filled⟩
      exact .indexes name names parsed

/-- The loop over the options succeeds exactly if all of them are valid. -/
theorem foldlM_attachOption_iff {options : List (Bytes × AttachValue)} :
    (∃ locals, options.foldlM attachOption {} = .ok locals) ↔
      ∀ option ∈ options, ValidOption option := by
  have folds : ∀ locals, options.foldlM attachOption {} = .ok locals ↔
      (∀ option ∈ options, AttachOption option) ∧
        locals = options.foldl (fun locals option => applyOption option locals) {} :=
    fun _ => foldlM_guard_iff AttachOption applyOption fun _ _ _ => attachOption_iff
  simp only [folds, exists_and_left, exists_eq, and_true, attachOption_valid]

theorem selectIndexes_iff {env : Externals}
    {listIndexes : SplunkClient → Except Exception Bytes} {credentials : SplunkCredentials}
    {options : List (Bytes × AttachValue)} {locals : AttachLocals} {names : List Bytes}
    (read : OptionsRead options locals) :
    selectIndexes env listIndexes credentials locals = .ok names ↔
      TableNames env listIndexes credentials options names := by
  unfold selectIndexes
  rw [read.indexes]
  constructor
  · intro selected
    cases last : lastOption options (ascii "indexes") with
    | some value =>
      rw [last] at selected
      cases selected
      exact .given value last
    | none =>
      rw [last] at selected
      obtain ⟨response, answered, parsed⟩ := bind_eq_ok.mp selected
      obtain ⟨entries, listed, rfl⟩ := parseDiscoveredIndexes_ok parsed
      exact .discovered response entries last answered listed
  · intro meant
    cases meant with
    | given value last => rw [last, Option.map_some]
    | discovered response entries last answered listed =>
      rw [last, Option.map_none]
      refine bind_eq_ok.mpr ⟨response, answered, ?_⟩
      refine bind_eq_ok.mpr ⟨entries, listed, ?_⟩
      exact congrArg Except.ok
        ((foldl_pushDiscovered [] entries).trans (foldl_insertNew [] (shownNames entries)))

/-- An attachment is accepted exactly if its path is `splunk:`, every option is valid, the secret
gives credentials and there are names for the tables: the last ones given, without a word to the
network, or else those that Splunk lists for these credentials. The catalog then has one table
for each name, pinned to the secret. -/
theorem attachSplunk_iff (env : Externals) (manager : SecretManager)
    (listIndexes : SplunkClient → Except Exception Bytes) (path : Bytes)
    (options : List (Bytes × AttachValue)) (schema : SplunkSchemaEntry) :
    attachSplunk env manager listIndexes path options = .ok schema ↔
      path = ascii "splunk:" ∧ (∀ option ∈ options, ValidOption option) ∧
      ∃ credentials names,
        getSplunkCredentials manager (secretOption options) = .ok credentials ∧
        TableNames env listIndexes credentials options names ∧
        schema = .create names (if secretOption options = [] then credentials.name
          else secretOption options) := by
  unfold attachSplunk
  rw [← foldlM_attachOption_iff]
  simp only [List.isEmpty_iff]
  constructor
  · intro attached
    split at attached
    · cases attached
    next right =>
      obtain ⟨locals, folded, attached⟩ := bind_eq_ok.mp attached
      obtain ⟨credentials, accepted, attached⟩ := bind_eq_ok.mp attached
      obtain ⟨names, selected, same⟩ := bind_eq_ok.mp attached
      have read := foldlM_attachOption folded
      have named : locals.secretName = secretOption options := read.secret
      cases same
      refine ⟨by simpa using right, ⟨locals, folded⟩, credentials, names, named ▸ accepted,
        (selectIndexes_iff read).mp selected, ?_⟩
      rw [named]
  · rintro ⟨rfl, ⟨locals, folded⟩, credentials, names, accepted, meant, rfl⟩
    have read := foldlM_attachOption folded
    have named : locals.secretName = secretOption options := read.secret
    rw [if_neg (by simp)]
    refine bind_eq_ok.mpr ⟨locals, folded, ?_⟩
    refine bind_eq_ok.mpr ⟨credentials, named ▸ accepted, ?_⟩
    refine bind_eq_ok.mpr ⟨names, (selectIndexes_iff read).mpr meant, ?_⟩
    rw [named]
    rfl

end SplunkLogs
