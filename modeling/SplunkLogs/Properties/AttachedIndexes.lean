import SplunkLogs.Foundation.FirstWins
import SplunkLogs.Foundation.TwoPassLookup
import SplunkLogs.Spec.IndexNames

/-!
# Every attached index is listed once and reachable

Both parsers keep names once, in order. The discovered ones are C strings: they are the names
of the response where none of these has a NUL.
-/
namespace SplunkLogs

open Foundation

section Parsing

/-- A list of names is accepted where each element is a non-empty VARCHAR. -/
theorem foldlM_pushExplicit {children : List AttachValue} {before names : List Bytes}
    (parsed : children.foldlM pushExplicit before = .ok names) :
    ∃ texts : List Bytes, children = texts.map .varchar ∧ [] ∉ texts ∧
      names = texts.foldl insertNew before := by
  induction children generalizing before with
  | nil =>
    cases parsed
    exact ⟨[], rfl, List.not_mem_nil, rfl⟩
  | cons child rest ih =>
    rw [List.foldlM_cons] at parsed
    cases child with
    | varchar name =>
      by_cases empty : name = []
      · subst empty
        cases parsed
      · have step : pushExplicit before (.varchar name) = .ok (insertNew before name) := by
          simp only [pushExplicit, List.isEmpty_iff, empty, if_false, insertNew]
          split <;> rfl
        rw [step] at parsed
        obtain ⟨texts, shape, filled, same⟩ := ih parsed
        refine ⟨name :: texts, by rw [shape, List.map_cons], ?_, ?_⟩
        · simp [filled, Ne.symm empty]
        · rw [same, List.foldl_cons]
    | null type => cases parsed
    | list childType children => cases parsed
    | other id => cases parsed

theorem parseExplicitIndexes_ok {value : AttachValue} {names : List Bytes}
    (parsed : parseExplicitIndexes value = .ok names) :
    ∃ texts : List Bytes, value = .list .varchar (texts.map .varchar) ∧ [] ∉ texts ∧
      names = texts.eraseDups := by
  unfold parseExplicitIndexes at parsed
  split at parsed
  next children =>
    obtain ⟨texts, shape, filled, same⟩ := foldlM_pushExplicit parsed
    exact ⟨texts, by rw [shape], filled, same.trans (foldl_insertNew [] texts)⟩
  · cases parsed

/-- One entry of the response: its name, cut at a NUL, is appended if it is new. -/
theorem pushDiscovered_eq (result : List Bytes) (entry : Json) :
    pushDiscovered result entry =
      match (entryName entry).map cString with
      | some [] => result
      | some name => insertNew result name
      | none => result := by
  cases entry with
  | obj members =>
    simp only [pushDiscovered, Json.isObj, if_true, entryName]
    cases (Json.obj members).objGet (ascii "name") with
    | none => rfl
    | some value =>
      cases value with
      | str value =>
        simp only [Option.map_some]
        cases cString value with
        | nil => rfl
        | cons first rest =>
          simp only [List.isEmpty_cons, Bool.not_false, Bool.true_and, insertNew]
          cases result.contains (first :: rest) <;> rfl
      | _ => rfl
  | _ => rfl

/-- The names of the entries as the code sees them. -/
def shownNames (entries : List Json) : List Bytes :=
  ((entries.filterMap entryName).map cString).filter (!·.isEmpty)

theorem foldl_pushDiscovered (before : List Bytes) (entries : List Json) :
    entries.foldl pushDiscovered before = (shownNames entries).foldl insertNew before := by
  induction entries generalizing before with
  | nil => rfl
  | cons entry rest ih =>
    rw [List.foldl_cons, pushDiscovered_eq, shownNames, List.filterMap_cons]
    cases entryName entry with
    | none => exact ih before
    | some name =>
      simp only [Option.map_some, List.map_cons, List.filter_cons]
      cases cString name with
      | nil => exact ih before
      | cons first more => exact ih _

theorem parseDiscoveredIndexes_ok {env : Externals} {response : Bytes} {names : List Bytes}
    (parsed : parseDiscoveredIndexes env response = .ok names) :
    ∃ entries, discoveredEntries env response = .ok entries ∧
      names = (shownNames entries).eraseDups := by
  obtain ⟨entries, read, same⟩ := bind_eq_ok.mp parsed
  cases same
  refine ⟨entries, read, ?_⟩
  exact (foldl_pushDiscovered [] entries).trans (foldl_insertNew [] (shownNames entries))

/-- No name of the code holds a NUL. -/
theorem not_mem_shownNames {entries : List Json} {name : Bytes}
    (shown : name ∈ shownNames entries) : 0 ∉ name := by
  obtain ⟨value, _, rfl⟩ := List.mem_map.mp (List.mem_filter.mp shown).1
  exact not_mem_cString value

/-- Where no name written has a NUL, the code sees the names written. -/
theorem shownNames_eq {entries : List Json}
    (clean : ∀ name ∈ (entries.filterMap entryName).filter (!·.isEmpty), 0 ∉ name) :
    shownNames entries = (entries.filterMap entryName).filter (!·.isEmpty) := by
  have whole : ∀ name ∈ entries.filterMap entryName, cString name = id name := by
    intro name member
    cases name with
    | nil => rfl
    | cons first rest =>
      exact cString_of_no_nul _ (clean _ (List.mem_filter.mpr ⟨member, rfl⟩))
  rw [shownNames, List.map_congr_left whole, List.map_id]

end Parsing

section Options

/-- The lists of names given are all well formed. -/
def GivenIndexes (options : List (Bytes × AttachValue)) : Prop :=
  ∀ option ∈ options, lower option.1 = ascii "indexes" →
    ∃ texts : List Bytes, option.2 = .list .varchar (texts.map .varchar) ∧ [] ∉ texts

theorem texts_map (texts : List Bytes) :
    (AttachValue.list .varchar (texts.map .varchar)).texts = texts := by
  have same : (AttachValue.text ∘ AttachValue.varchar) = some := rfl
  rw [AttachValue.texts, List.filterMap_map, same, List.filterMap_some]

theorem lastOption_concat (options : List (Bytes × AttachValue)) (option : Bytes × AttachValue)
    (key : Bytes) :
    lastOption (options ++ [option]) key =
      if lower option.1 = key then some option.2 else lastOption options key := by
  simp only [lastOption, List.reverse_append, List.reverse_singleton, List.singleton_append,
    List.find?_cons]
  by_cases same : lower option.1 = key
  · simp [same]
  · have differs : (lower option.1 == key) = false := by simpa using same
    simp [same, differs]

/-- What the loop over the options leaves behind. -/
structure OptionsRead (options : List (Bytes × AttachValue)) (locals : AttachLocals) : Prop where
  secret : locals.secretName =
    ((lastOption options (ascii "secret")).bind AttachValue.text).getD []
  given : GivenIndexes options
  indexes : locals.indexes =
    (lastOption options (ascii "indexes")).map fun value => value.texts.eraseDups

theorem given_concat_other {options : List (Bytes × AttachValue)} {option : Bytes × AttachValue}
    (given : GivenIndexes options) (other : lower option.1 ≠ ascii "indexes") :
    GivenIndexes (options ++ [option]) := by
  intro present member isIndexes
  cases List.mem_append.mp member with
  | inl earlier => exact given present earlier isIndexes
  | inr last => exact absurd (List.mem_singleton.mp last ▸ isIndexes) other

theorem attachOption_read {options : List (Bytes × AttachValue)} {before after : AttachLocals}
    {option : Bytes × AttachValue} (read : OptionsRead options before)
    (next : attachOption before option = .ok after) :
    OptionsRead (options ++ [option]) after := by
  have apart : ascii "secret" ≠ ascii "indexes" := by decide
  simp only [attachOption, beq_iff_eq] at next
  split at next
  next secret =>
    have other : lower option.1 ≠ ascii "indexes" := by rw [secret]; exact apart
    split at next
    next secretName given =>
      split at next
      · cases next
      · cases next
        constructor
        · rw [lastOption_concat, if_pos secret, given]
          rfl
        · exact given_concat_other read.given other
        · rw [lastOption_concat, if_neg other]
          exact read.indexes
    · cases next
  next noSecret =>
    split at next
    next indexes =>
      obtain ⟨names, parsed, same⟩ := bind_eq_ok.mp next
      obtain ⟨texts, shape, filled, rfl⟩ := parseExplicitIndexes_ok parsed
      cases same
      constructor
      · rw [lastOption_concat, if_neg noSecret]
        exact read.secret
      · intro given member isIndexes
        cases List.mem_append.mp member with
        | inl earlier => exact read.given given earlier isIndexes
        | inr last =>
          rw [List.mem_singleton.mp last]
          exact ⟨texts, shape, filled⟩
      · rw [lastOption_concat, if_pos indexes, shape, Option.map_some, texts_map]
    · cases next

theorem foldlM_attachOption {options : List (Bytes × AttachValue)} {locals : AttachLocals}
    (folded : options.foldlM attachOption {} = .ok locals) : OptionsRead options locals := by
  induction options using List.reverseRecOn generalizing locals with
  | nil =>
    cases folded
    constructor
    · rfl
    · intro option member
      cases member
    · rfl
  | append_singleton options option ih =>
    rw [List.foldlM_append] at folded
    obtain ⟨before, earlier, last⟩ := bind_eq_ok.mp folded
    rw [List.foldlM_cons] at last
    obtain ⟨after, next, same⟩ := bind_eq_ok.mp last
    cases same
    exact attachOption_read (ih earlier) next

end Options

section Lookup

/-- Case-insensitive equality compares names in lower case. -/
theorem lookupEntry_eq (schema : SplunkSchemaEntry) (name : Bytes) :
    schema.lookupEntry .tableEntry name =
      findTwoPass SplunkTableEntry.name lower schema.tables name := rfl

theorem scan_eq (schema : SplunkSchemaEntry) : schema.scan .tableEntry = schema.tables := rfl

theorem names_create (names : List Bytes) (secretName : Bytes) :
    (SplunkSchemaEntry.create names secretName).tables.map SplunkTableEntry.name = names := by
  have same : (SplunkTableEntry.name ∘ fun index => ⟨index, index, secretName⟩) = id := rfl
  rw [SplunkSchemaEntry.create, List.map_map, same, List.map_id]

/-- The tables of names kept once are all found, whatever names were meant. -/
theorem attachedIndexes_iff {options : List (Bytes × AttachValue)} (given : GivenIndexes options)
    (shown written : List Bytes) (secretName : Bytes) :
    AttachedIndexes written options (.create shown.eraseDups secretName) ↔
      shown.eraseDups = written.eraseDups := by
  have names := names_create shown.eraseDups secretName
  constructor
  · intro attached
    rw [← attached.listed, scan_eq, names]
  · intro same
    constructor
    · exact given
    · rw [scan_eq, names, same]
    · intro table member
      obtain ⟨name, _, rfl⟩ := List.mem_map.mp member
      rfl
    · intro table member
      have distinct := nodup_eraseDups shown
      rw [← names] at distinct
      exact findTwoPass_exact distinct member
    · intro name table found
      obtain ⟨member, folded⟩ := findTwoPass_some found
      exact ⟨member, beq_iff_eq.mpr folded⟩
    · intro name
      rw [lookupEntry_eq, findTwoPass_eq_none_iff]
      simp [scan_eq, ciEquals]
    · intro name missing
      exact findTwoPass_folded missing

end Lookup

/-- A successful attachment: options, credentials and, without `INDEXES`, discovery. -/
theorem attachSplunk_ok {env : Externals} {manager : SecretManager}
    {listIndexes : SplunkClient → Except Exception Bytes} {path : Bytes}
    {options : List (Bytes × AttachValue)} {schema : SplunkSchemaEntry}
    (attached : attachSplunk env manager listIndexes path options = .ok schema) :
    GivenIndexes options ∧ ∃ shown secretName, schema = .create shown.eraseDups secretName ∧
      match lastOption options (ascii "indexes") with
      | some value => shown = value.texts
      | none => ∃ entries, discoveryEntries env manager listIndexes options = .ok entries ∧
          shown = shownNames entries := by
  unfold attachSplunk at attached
  split at attached
  · cases attached
  · obtain ⟨locals, folded, attached⟩ := bind_eq_ok.mp attached
    obtain ⟨secret, given, indexes⟩ := foldlM_attachOption folded
    obtain ⟨credentials, accepted, attached⟩ := bind_eq_ok.mp attached
    obtain ⟨names, named, same⟩ := bind_eq_ok.mp attached
    cases same
    unfold selectIndexes at named
    refine ⟨given, ?_⟩
    cases supplied : lastOption options (ascii "indexes") with
    | some value =>
      rw [supplied] at indexes
      rw [indexes] at named
      cases named
      exact ⟨_, _, rfl, rfl⟩
    | none =>
      rw [supplied] at indexes
      rw [indexes] at named
      obtain ⟨response, answered, parsed⟩ := bind_eq_ok.mp named
      obtain ⟨entries, read, rfl⟩ := parseDiscoveredIndexes_ok parsed
      refine ⟨_, _, rfl, entries, ?_, rfl⟩
      apply bind_eq_ok.mpr
      refine ⟨credentials, secret ▸ accepted, ?_⟩
      exact bind_eq_ok.mpr ⟨response, answered, read⟩

/-- For every attachment that succeeds: the tables listed are the names written, each once,
and each of them is found, if and only if the names were given as `INDEXES` or no name
discovered has a NUL. -/
theorem attachSplunk_indexes_iff {env : Externals} {manager : SecretManager}
    {listIndexes : SplunkClient → Except Exception Bytes} {path : Bytes}
    {options : List (Bytes × AttachValue)} {schema : SplunkSchemaEntry}
    (attached : attachSplunk env manager listIndexes path options = .ok schema) :
    AttachedIndexes (writtenNames env manager listIndexes options) options schema ↔
      (lastOption options (ascii "indexes")).isSome = true ∨
        ∀ name ∈ writtenNames env manager listIndexes options, 0 ∉ name := by
  obtain ⟨given, shown, secretName, rfl, source⟩ := attachSplunk_ok attached
  rw [attachedIndexes_iff given]
  unfold writtenNames
  cases supplied : lastOption options (ascii "indexes") with
  | some value =>
    rw [supplied] at source
    simp [source]
  | none =>
    rw [supplied] at source
    obtain ⟨entries, read, rfl⟩ := source
    simp only [read, Option.isSome_none, Bool.false_eq_true, false_or]
    constructor
    · intro same name member
      rw [← List.mem_eraseDups, ← same, List.mem_eraseDups] at member
      exact not_mem_shownNames member
    · intro clean
      rw [shownNames_eq clean]

/-- A manager with one secret, which has a token. -/
def tokenManager : SecretManager where
  getSecretByName _ := none
  allSecrets := [some ⟨ascii "local", ascii "splunk", some [(ascii "token", .text (ascii "t"))]⟩]

/-- Three names of which two differ in case and two are the same. -/
def threeNames : List (Bytes × AttachValue) :=
  [(ascii "INDEXES",
    .list .varchar [.varchar (ascii "main"), .varchar (ascii "Main"), .varchar (ascii "main")])]

theorem attachSplunk_indexes_iff_given :
    AttachedIndexes
      (writtenNames (.ofRecords []) tokenManager (fun _ => .ok []) threeNames) threeNames
      (.create [ascii "main", ascii "Main"] (ascii "local")) := by
  have attached : attachSplunk (.ofRecords []) tokenManager (fun _ => .ok []) (ascii "splunk:")
      threeNames = .ok (.create [ascii "main", ascii "Main"] (ascii "local")) := rfl
  exact (attachSplunk_indexes_iff attached).mpr (Or.inl rfl)

/-- A discovery response with two names that agree up to a NUL. -/
def nulNames : Externals := .ofRecords [(ascii "response", .obj [(ascii "entry", .arr
  [.obj [(ascii "name", .str [97, 0, 98])], .obj [(ascii "name", .str [97, 0, 99])]])])]

/-- Both names become one table, and its name is neither of them. -/
theorem discovered_names_cut :
    attachSplunk nulNames tokenManager (fun _ => .ok (ascii "response")) (ascii "splunk:") [] =
      .ok (.create [[97]] (ascii "local")) ∧
    ¬AttachedIndexes
      (writtenNames nulNames tokenManager (fun _ => .ok (ascii "response")) []) []
      (.create [[97]] (ascii "local")) := by
  constructor
  · rfl
  · intro attached
    have listed := attached.listed
    revert listed
    decide

end SplunkLogs
