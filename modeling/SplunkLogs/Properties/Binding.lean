import SplunkLogs.Foundation.CommutingFold
import SplunkLogs.Properties.AttachedIndexes
import SplunkLogs.Properties.Authentication

/-!
# What a statement binds to

The calls of `read_splunk_logs` that are accepted, and what each is bound to. The parameters of
a call and the options of `ATTACH` come out of hash maps, and their order does not matter.
-/
namespace SplunkLogs

open Foundation

namespace NamedParameter

/-- The name a parameter is registered under. -/
def name : NamedParameter → Bytes
  | .query _ => ascii "query"
  | .earliest _ => ascii "earliest"
  | .latest _ => ascii "latest"
  | .maxRows _ => ascii "max_rows"
  | .retries _ => ascii "retries"
  | .timeout _ => ascii "timeout"
  | .secret _ => ascii "secret"

/-- The two parameters with a range of their own. -/
def InRange : NamedParameter → Prop
  | .retries (some value) => 0 ≤ value
  | .timeout (some value) => 1 ≤ value
  | _ => True

/-- A parameter that is not NULL replaces what was there before. -/
def apply (bound : SplunkLogsBindData × Bytes) : NamedParameter → SplunkLogsBindData × Bytes
  | .query (some value) => ({ bound.1 with query := value }, bound.2)
  | .earliest (some value) => ({ bound.1 with earliest := value }, bound.2)
  | .latest (some value) => ({ bound.1 with latest := value }, bound.2)
  | .maxRows (some value) => ({ bound.1 with maxRows := value }, bound.2)
  | .retries (some value) =>
    ({ bound.1 with client := { bound.1.client with retries := value.toNat } }, bound.2)
  | .timeout (some value) =>
    ({ bound.1 with client := { bound.1.client with timeoutSeconds := value.toNat } }, bound.2)
  | .secret (some value) => (bound.1, value)
  | _ => bound

end NamedParameter

theorem bindParameter_iff {bound next : SplunkLogsBindData × Bytes} {param : NamedParameter} :
    bindParameter bound param = .ok next ↔ param.InRange ∧ next = param.apply bound := by
  cases param with
  | query value | earliest value | latest value | maxRows value | secret value =>
    cases value <;>
      simp [bindParameter, NamedParameter.InRange, NamedParameter.apply, eq_comm]
  | retries value | timeout value =>
    cases value with
    | none => simp [bindParameter, NamedParameter.InRange, NamedParameter.apply, eq_comm]
    | some value =>
      simp only [bindParameter, NamedParameter.InRange, NamedParameter.apply]
      split
      next outside => simp [outside]
      next inside => simp [Int.not_lt.mp inside, eq_comm]

/-- Parameters of different names replace different things. -/
theorem NamedParameter.apply_comm {first second : NamedParameter}
    (apart : first.name ≠ second.name) (bound : SplunkLogsBindData × Bytes) :
    second.apply (first.apply bound) = first.apply (second.apply bound) := by
  cases first with
  | query value | earliest value | latest value | maxRows value | retries value | timeout value
  | secret value =>
    cases value with
    | none => rfl
    | some value =>
      cases second with
      | query other | earliest other | latest other | maxRows other | retries other
      | timeout other | secret other =>
        cases other <;> first | rfl | exact absurd rfl apart

theorem foldlM_bindParameter_iff {params : List NamedParameter}
    {bound next : SplunkLogsBindData × Bytes} :
    params.foldlM bindParameter bound = .ok next ↔
      (∀ param ∈ params, param.InRange) ∧ next = params.foldl NamedParameter.apply bound :=
  foldlM_guard_iff NamedParameter.InRange (fun param state => param.apply state)
    fun _ _ _ => bindParameter_iff

/-- What a call is meant to bind: for each parameter the last value that is not NULL, and
otherwise the default. -/
def meantBy (params : List NamedParameter) : SplunkLogsBindData where
  query := (params.reverse.findSome? fun
    | NamedParameter.query value => value
    | _ => none).getD (ascii "*")
  earliest := (params.reverse.findSome? fun
    | NamedParameter.earliest value => value
    | _ => none).getD (ascii "-15m")
  latest := (params.reverse.findSome? fun
    | NamedParameter.latest value => value
    | _ => none).getD (ascii "now")
  maxRows := (params.reverse.findSome? fun
    | NamedParameter.maxRows value => value
    | _ => none).getD 0
  client :=
    { retries := ((params.reverse.findSome? fun
        | NamedParameter.retries value => value
        | _ => none).getD 4).toNat
      timeoutSeconds := ((params.reverse.findSome? fun
        | NamedParameter.timeout value => value
        | _ => none).getD 60).toNat }

theorem foldl_apply (params : List NamedParameter) :
    params.foldl NamedParameter.apply ({}, []) = (meantBy params, secretParameter params) := by
  induction params using List.reverseRecOn with
  | nil => rfl
  | append_singleton params param ih =>
    rw [List.foldl_append, ih, List.foldl_cons, List.foldl_nil]
    cases param with
    | query value | earliest value | latest value | maxRows value | retries value
    | timeout value | secret value =>
      cases value <;> simp [NamedParameter.apply, meantBy, secretParameter]

/-- What an accepted call is bound to. -/
theorem splunkLogsBind_meant {manager : SecretManager} {params : List NamedParameter}
    {bind : SplunkLogsBindData} (bound : splunkLogsBind manager params = .ok bind) :
    (∀ param ∈ params, param.InRange) ∧ 0 ≤ (meantBy params).maxRows ∧
      ∃ credentials, getSplunkCredentials manager (secretParameter params) = .ok credentials ∧
        bind = { meantBy params with
          client := (meantBy params).client.withCredentials credentials } := by
  obtain ⟨⟨result, secretName⟩, folded, checked⟩ := bind_eq_ok.mp bound
  obtain ⟨inRange, same⟩ := foldlM_bindParameter_iff.mp folded
  rw [foldl_apply, Prod.mk.injEq] at same
  obtain ⟨rfl, rfl⟩ := same
  dsimp only at checked
  split at checked
  · cases checked
  next notNegative =>
    obtain ⟨credentials, resolved, same⟩ := bind_eq_ok.mp checked
    cases same
    exact ⟨inRange, Int.not_lt.mp notNegative, credentials, resolved, rfl⟩

/-- A call of `read_splunk_logs` is accepted exactly if no retry budget is negative, every
timeout is positive, the row limit is not negative and the secret gives credentials; it is bound
to what its parameters say, with those credentials. -/
theorem splunkLogsBind_iff (manager : SecretManager) (params : List NamedParameter)
    (bind : SplunkLogsBindData) :
    splunkLogsBind manager params = .ok bind ↔
      (∀ value, .retries (some value) ∈ params → 0 ≤ value) ∧
      (∀ value, .timeout (some value) ∈ params → 1 ≤ value) ∧
      0 ≤ (meantBy params).maxRows ∧
      ∃ credentials, getSplunkCredentials manager (secretParameter params) = .ok credentials ∧
        bind = { meantBy params with
          client := (meantBy params).client.withCredentials credentials } := by
  have ranges : (∀ param ∈ params, param.InRange) ↔
      (∀ value, .retries (some value) ∈ params → 0 ≤ value) ∧
      ∀ value, .timeout (some value) ∈ params → 1 ≤ value := by
    constructor
    · intro inRange
      exact ⟨fun _ member => inRange _ member, fun _ member => inRange _ member⟩
    · rintro ⟨retries, timeouts⟩ param member
      cases param with
      | retries value =>
        cases value with
        | none => trivial
        | some value => exact retries value member
      | timeout value =>
        cases value with
        | none => trivial
        | some value => exact timeouts value member
      | _ => trivial
  rw [← and_assoc, ← ranges]
  constructor
  · exact splunkLogsBind_meant
  · rintro ⟨inRange, notNegative, credentials, resolved, rfl⟩
    refine bind_eq_ok.mpr ⟨(meantBy params, secretParameter params), ?_, ?_⟩
    · exact foldlM_bindParameter_iff.mpr ⟨inRange, (foldl_apply params).symm⟩
    · dsimp only
      rw [if_neg (Int.not_lt.mpr notNegative)]
      exact bind_eq_ok.mpr ⟨credentials, resolved, rfl⟩

section Order

theorem bindParameter_exchangeable : Exchangeable bindParameter NamedParameter.name :=
  exchangeable_of_guard NamedParameter.InRange (fun param bound => param.apply bound)
    (fun _ _ _ => bindParameter_iff)
    fun _ _ apart _ _ bound => NamedParameter.apply_comm apart bound

/-- The options that `ATTACH` takes. -/
inductive AttachOption : Bytes × AttachValue → Prop
  | secret {option : Bytes × AttachValue} (name : lower option.1 = ascii "secret")
      (text : Bytes) (value : option.2 = .varchar text) (filled : text ≠ []) : AttachOption option
  | indexes {option : Bytes × AttachValue} (name : lower option.1 = ascii "indexes")
      (names : List Bytes) (value : parseExplicitIndexes option.2 = .ok names) :
      AttachOption option

/-- What an option replaces. -/
def applyOption (option : Bytes × AttachValue) (locals : AttachLocals) : AttachLocals :=
  if lower option.1 = ascii "secret" then
    { locals with secretName := option.2.text.getD [] }
  else { locals with indexes := (parseExplicitIndexes option.2).toOption }

theorem attachOption_iff {locals next : AttachLocals} {option : Bytes × AttachValue} :
    attachOption locals option = .ok next ↔
      AttachOption option ∧ next = applyOption option locals := by
  have different : ascii "secret" ≠ ascii "indexes" := by decide
  simp only [attachOption, beq_iff_eq, applyOption]
  constructor
  · intro taken
    split at taken
    next isSecret =>
      split at taken
      next text value =>
        split at taken
        · cases taken
        next filled =>
          cases taken
          refine ⟨.secret isSecret text value (by simpa using filled), ?_⟩
          rw [if_pos isSecret, value]
          rfl
      · cases taken
    next noSecret =>
      split at taken
      next isIndexes =>
        obtain ⟨names, parsed, same⟩ := bind_eq_ok.mp taken
        cases same
        refine ⟨.indexes isIndexes names parsed, ?_⟩
        rw [if_neg noSecret, parsed]
        rfl
      · cases taken
  · rintro ⟨accepted, rfl⟩
    cases accepted with
    | secret name text value filled => simp [name, value, filled, AttachValue.text]
    | indexes name names value =>
      have noSecret : lower option.1 ≠ ascii "secret" := fun same => different (same ▸ name)
      rw [if_neg noSecret, if_pos name, if_neg noSecret, value]
      rfl

theorem attachOption_exchangeable :
    Exchangeable attachOption fun option : Bytes × AttachValue => lower option.1 := by
  have different : ascii "secret" ≠ ascii "indexes" := by decide
  refine exchangeable_of_guard AttachOption applyOption (fun _ _ _ => attachOption_iff) ?_
  intro first second apart taken taken' locals
  -- One of the two is the secret and the other one the list of indexes.
  cases taken with
  | secret name =>
    cases taken' with
    | secret name' => exact absurd (name.trans name'.symm) apart
    | indexes name' => simp [applyOption, name, name', different.symm]
  | indexes name =>
    cases taken' with
    | secret name' => simp [applyOption, name, name', different.symm]
    | indexes name' => exact absurd (name.trans name'.symm) apart

theorem toOption_bind {α β : Type} {first second : Except Exception α}
    (same : first.toOption = second.toOption) (next : α → Except Exception β) :
    (first >>= next).toOption = (second >>= next).toOption := by
  cases first <;> cases second <;> cases same <;> rfl

/-- Neither the order of the named parameters of a call nor that of the options of `ATTACH`
matters, where no name comes twice: with another order the statement succeeds as well, and
binds or attaches the same. -/
theorem option_order_irrelevant :
    (∀ manager (params other : List NamedParameter), params.Perm other →
      (params.map NamedParameter.name).Nodup →
      (splunkLogsBind manager params).toOption = (splunkLogsBind manager other).toOption) ∧
    ∀ env manager listIndexes path (options other : List (Bytes × AttachValue)),
      options.Perm other → (options.map fun option => lower option.1).Nodup →
      (attachSplunk env manager listIndexes path options).toOption =
        (attachSplunk env manager listIndexes path other).toOption := by
  constructor
  · intro manager params other perm distinct
    exact toOption_bind (bindParameter_exchangeable.foldlM_perm perm distinct _) _
  · intro env manager listIndexes path options other perm distinct
    unfold attachSplunk
    split
    · rfl
    · exact toOption_bind (attachOption_exchangeable.foldlM_perm perm distinct _) _

/-- Two options of `ATTACH` in either order. -/
theorem option_order_irrelevant_swapped :
    (attachSplunk (.ofRecords []) basicManager (fun _ => .ok []) (ascii "splunk:")
      ((ascii "Secret", .varchar (ascii "local")) :: threeNames)).toOption =
        some (.create [ascii "main", ascii "Main"] (ascii "local")) :=
  (option_order_irrelevant.2 _ basicManager _ _ _
    (threeNames ++ [(ascii "Secret", .varchar (ascii "local"))])
    (.swap _ _ []) (by decide)).trans rfl

end Order

end SplunkLogs
