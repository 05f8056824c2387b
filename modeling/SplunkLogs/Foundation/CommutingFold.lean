import Mathlib.Data.List.Nodup
import Mathlib.Data.List.Perm.Basic

/-!
# Folds that may fail, in any order

A loop over a collection without a fixed order, each round of which may throw. Where rounds for
different keys can be exchanged and no key comes twice, whether the loop succeeds and with which
state does not depend on the order; which of several errors is thrown may.
-/
namespace Foundation

variable {σ α κ ε : Type*}

/-- One round on a state that is missing once a round has thrown. -/
def tryStep (step : σ → α → Except ε σ) (state : Option σ) (a : α) : Option σ :=
  state.bind fun s => (step s a).toOption

theorem foldlM_toOption (step : σ → α → Except ε σ) (s : σ) (list : List α) :
    (list.foldlM step s).toOption = list.foldl (tryStep step) (some s) := by
  have lost : ∀ list : List α, list.foldl (tryStep step) none = none := by
    intro list
    induction list with
    | nil => rfl
    | cons a rest ih => exact ih
  induction list generalizing s with
  | nil => rfl
  | cons a rest ih =>
    rw [List.foldlM_cons, List.foldl_cons]
    cases stepped : step s a with
    | error error =>
      simpa [tryStep, stepped, bind, Except.bind, Except.toOption] using (lost rest).symm
    | ok t => simpa [tryStep, stepped, bind, Except.bind, Except.toOption] using ih t

/-- Rounds that throw or not whatever the state: the loop succeeds if none of them throws. -/
theorem foldlM_guard_iff {step : σ → α → Except ε σ} (guard : α → Prop) (change : α → σ → σ)
    (acts : ∀ s a t, step s a = .ok t ↔ guard a ∧ t = change a s) {list : List α} {s t : σ} :
    list.foldlM step s = .ok t ↔
      (∀ a ∈ list, guard a) ∧ t = list.foldl (fun state a => change a state) s := by
  induction list generalizing s with
  | nil => simp [pure, Except.pure, eq_comm]
  | cons a rest ih =>
    have head : (a :: rest).foldlM step s = .ok t ↔
        ∃ middle, step s a = .ok middle ∧ rest.foldlM step middle = .ok t := by
      rw [List.foldlM_cons]
      cases step s a with
      | error error => simp [bind, Except.bind]
      | ok middle => simp [bind, Except.bind]
    rw [head, List.foldl_cons, List.forall_mem_cons, and_assoc]
    constructor
    · rintro ⟨middle, first, later⟩
      obtain ⟨guarded, rfl⟩ := (acts s a middle).mp first
      exact ⟨guarded, ih.mp later⟩
    · rintro ⟨guarded, later⟩
      exact ⟨change a s, (acts s a _).mpr ⟨guarded, rfl⟩, ih.mpr later⟩

/-- Rounds for different keys can be exchanged. -/
def Exchangeable (step : σ → α → Except ε σ) (key : α → κ) : Prop :=
  ∀ s a b, key a ≠ key b →
    tryStep step (tryStep step (some s) a) b = tryStep step (tryStep step (some s) b) a

theorem tryStep_eq_some {step : σ → α → Except ε σ} {state : Option σ} {a : α} {t : σ} :
    tryStep step state a = some t ↔ ∃ s, state = some s ∧ step s a = .ok t := by
  cases state with
  | none => simp [tryStep]
  | some s => cases stepped : step s a <;> simp [tryStep, stepped, Except.toOption]

/-- Rounds that throw or not whatever the state, and change different things for different
keys. -/
theorem exchangeable_of_guard {step : σ → α → Except ε σ} {key : α → κ} (guard : α → Prop)
    (change : α → σ → σ) (acts : ∀ s a t, step s a = .ok t ↔ guard a ∧ t = change a s)
    (commute : ∀ a b, key a ≠ key b → guard a → guard b →
      ∀ s, change b (change a s) = change a (change b s)) :
    Exchangeable step key := by
  have twice : ∀ s a b t, tryStep step (tryStep step (some s) a) b = some t ↔
      guard a ∧ guard b ∧ t = change b (change a s) := by
    intro s a b t
    simp only [tryStep_eq_some, Option.some.injEq, exists_eq_left', acts]
    constructor
    · rintro ⟨_, ⟨first, rfl⟩, second⟩
      exact ⟨first, second⟩
    · rintro ⟨first, second⟩
      exact ⟨_, ⟨first, rfl⟩, second⟩
  intro s a b apart
  ext t
  rw [twice, twice]
  constructor
  · rintro ⟨first, second, rfl⟩
    exact ⟨second, first, commute a b apart first second s⟩
  · rintro ⟨second, first, rfl⟩
    exact ⟨first, second, (commute a b apart first second s).symm⟩

/-- The order of the rounds does not matter. -/
theorem Exchangeable.foldlM_perm {step : σ → α → Except ε σ} {key : α → κ}
    (exchangeable : Exchangeable step key) {list other : List α} (perm : list.Perm other)
    (distinct : (list.map key).Nodup) (s : σ) :
    (list.foldlM step s).toOption = (other.foldlM step s).toOption := by
  rw [foldlM_toOption, foldlM_toOption]
  refine perm.foldl_eq' ?_ (some s)
  intro a first b second state
  by_cases same : a = b
  · rw [same]
  · have apart : key a ≠ key b := fun equal =>
      same (List.inj_on_of_nodup_map distinct first second equal)
    cases state with
    | none => rfl
    | some s => exact exchangeable s a b apart

end Foundation
