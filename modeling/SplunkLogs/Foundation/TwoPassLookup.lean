import Mathlib.Data.List.Nodup

/-!
# Lookup by name, exactly first and then folded

A name is looked up twice: among the keys as they are, and where none is equal among the keys
folded to a common form. Distinct keys all stay reachable, even when they fold together.
-/
namespace Foundation

variable {α κ φ : Type*} [BEq κ] [LawfulBEq κ] [BEq φ] (key : α → κ) (fold : κ → φ)

def findTwoPass (entries : List α) (name : κ) : Option α :=
  (entries.find? fun entry => key entry == name).or
    (entries.find? fun entry => fold (key entry) == fold name)

variable {entries : List α} {name : κ} {key fold}

/-- Where keys are distinct, the entry with exactly the name is found. -/
theorem findTwoPass_exact (distinct : (entries.map key).Nodup) {entry : α}
    (member : entry ∈ entries) : findTwoPass key fold entries (key entry) = some entry := by
  have found : entries.find? (fun other => key other == key entry) = some entry := by
    cases first : entries.find? (fun other => key other == key entry) with
    | none => simpa using List.find?_eq_none.mp first entry member
    | some other =>
      have same : key other = key entry := by simpa using List.find?_some first
      rw [List.inj_on_of_nodup_map distinct (List.mem_of_find?_eq_some first) member same]
  rw [findTwoPass, found, Option.some_or]

/-- Where no key equals the name, the first entry that folds to it is found. -/
theorem findTwoPass_folded (missing : ∀ entry ∈ entries, key entry ≠ name) :
    findTwoPass key fold entries name =
      entries.find? fun entry => fold (key entry) == fold name := by
  have none_ : entries.find? (fun entry => key entry == name) = none := by
    simpa using missing
  rw [findTwoPass, none_, Option.none_or]

variable [LawfulBEq φ]

theorem findTwoPass_eq_none_iff :
    findTwoPass key fold entries name = none ↔
      ∀ entry ∈ entries, fold (key entry) ≠ fold name := by
  simp only [findTwoPass, Option.or_eq_none_iff, List.find?_eq_none, beq_iff_eq]
  constructor
  · intro ⟨_, folded⟩ entry member
    exact folded entry member
  · intro folded
    constructor
    · intro entry member same
      exact folded entry member (congrArg fold same)
    · exact folded

/-- An entry found has the name up to folding. -/
theorem findTwoPass_some {entry : α} (found : findTwoPass key fold entries name = some entry) :
    entry ∈ entries ∧ fold (key entry) = fold name := by
  rw [findTwoPass, Option.or_eq_some_iff] at found
  cases found with
  | inl exact =>
    have same : key entry = name := by simpa using List.find?_some exact
    exact ⟨List.mem_of_find?_eq_some exact, congrArg fold same⟩
  | inr folded =>
    have same : fold (key entry) = fold name := by simpa using List.find?_some folded.2
    exact ⟨List.mem_of_find?_eq_some folded.2, same⟩

end Foundation
