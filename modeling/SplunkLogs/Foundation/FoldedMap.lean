import Mathlib.Data.List.Nodup
import Mathlib.Data.List.Perm.Basic

/-!
# Maps whose keys are compared up to folding

Association lists with keys that count as equal when they fold to the same, as names that are
compared without case. Keys that fold apart make look-ups independent of the order.
-/
namespace Foundation

variable {κ φ β : Type*} [BEq φ] (fold : κ → φ)

/-- The value of the first entry whose key folds as the one asked for. -/
def foldedGet (entries : List (κ × β)) (key : κ) : Option β :=
  (entries.find? fun entry => fold entry.1 == fold key).map Prod.snd

/-- An entry that is present is overwritten under its own key, a new one comes last. -/
def foldedSet (entries : List (κ × β)) (key : κ) (value : β) : List (κ × β) :=
  if entries.any fun entry => fold entry.1 == fold key then
    entries.map fun entry => if fold entry.1 == fold key then (entry.1, value) else entry
  else entries ++ [(key, value)]

/-- No two keys fold to the same. -/
def FoldsApart (entries : List (κ × β)) : Prop := ((entries.map Prod.fst).map fold).Nodup

instance [DecidableEq φ] (entries : List (κ × β)) : Decidable (FoldsApart fold entries) :=
  inferInstanceAs (Decidable (List.Nodup _))

variable {fold} {entries : List (κ × β)}

theorem foldedGet_cons (entry : κ × β) (rest : List (κ × β)) (key : κ) :
    foldedGet fold (entry :: rest) key =
      if fold entry.1 == fold key then some entry.2 else foldedGet fold rest key := by
  simp only [foldedGet, List.find?_cons]
  cases fold entry.1 == fold key <;> rfl

/-- Overwriting does not touch the keys. -/
theorem map_fst_overwritten (fold : κ → φ) (entries : List (κ × β)) (key : κ) (value : β) :
    (entries.map fun entry => if fold entry.1 == fold key then (entry.1, value) else entry).map
      Prod.fst = entries.map Prod.fst := by
  rw [List.map_map]
  apply List.map_congr_left
  intro entry _
  simp only [Function.comp]
  split <;> rfl

/-- The keys of an assignment are the old ones, and the new one if it was not there. -/
theorem key_mem_set {key : κ} {value : β} {entry : κ × β}
    (member : entry ∈ foldedSet fold entries key value) :
    entry.1 ∈ entries.map Prod.fst ∨ entry.1 = key := by
  unfold foldedSet at member
  split at member
  · left
    rw [← map_fst_overwritten fold entries key value]
    exact List.mem_map_of_mem member
  · rcases List.mem_append.mp member with before | new
    · exact Or.inl (List.mem_map_of_mem before)
    · rw [List.mem_singleton.mp new]
      exact Or.inr rfl

variable [LawfulBEq φ]

theorem foldedGet_none {key : κ} (missing : ∀ entry ∈ entries, fold entry.1 ≠ fold key) :
    foldedGet fold entries key = none := by
  have unfound : entries.find? (fun entry => fold entry.1 == fold key) = none := by
    simpa using missing
  rw [foldedGet, unfound, Option.map_none]

/-- A value found stands in an entry whose key folds as the one asked for. -/
theorem foldedGet_some {key : κ} {value : β} (found : foldedGet fold entries key = some value) :
    ∃ entry ∈ entries, fold entry.1 = fold key ∧ entry.2 = value := by
  obtain ⟨entry, first, same⟩ := Option.map_eq_some_iff.mp found
  have folded : fold entry.1 = fold key := by simpa using List.find?_some first
  exact ⟨entry, List.mem_of_find?_eq_some first, folded, same⟩

/-- Where keys fold apart, every entry is the one found under its key. -/
theorem foldedGet_of_mem (apart : FoldsApart fold entries) {entry : κ × β}
    (member : entry ∈ entries) {key : κ} (folded : fold entry.1 = fold key) :
    foldedGet fold entries key = some entry.2 := by
  cases first : entries.find? (fun entry => fold entry.1 == fold key) with
  | none => exact absurd (beq_iff_eq.mpr folded) (List.find?_eq_none.mp first entry member)
  | some other =>
    have folded' : fold other.1 = fold key := by simpa using List.find?_some first
    rw [FoldsApart, List.map_map] at apart
    have same : other = entry := List.inj_on_of_nodup_map apart
      (List.mem_of_find?_eq_some first) member (folded'.trans folded.symm)
    rw [foldedGet, first, same, Option.map_some]

theorem foldedGet_perm {other : List (κ × β)} (perm : entries.Perm other)
    (apart : FoldsApart fold entries) (key : κ) :
    foldedGet fold entries key = foldedGet fold other key := by
  have apart' : FoldsApart fold other :=
    ((perm.map Prod.fst).map fold).nodup_iff.mp apart
  by_cases present : ∃ entry ∈ entries, fold entry.1 = fold key
  · obtain ⟨entry, member, folded⟩ := present
    rw [foldedGet_of_mem apart member folded,
      foldedGet_of_mem apart' (perm.mem_iff.mp member) folded]
  · have missing : ∀ entry ∈ entries, fold entry.1 ≠ fold key :=
      fun entry member folded => present ⟨entry, member, folded⟩
    rw [foldedGet_none missing,
      foldedGet_none fun entry member => missing entry (perm.mem_iff.mpr member)]

theorem foldedGet_overwritten {key : κ} (value : β) (asked : κ)
    (present : ∃ entry ∈ entries, fold entry.1 = fold key) :
    foldedGet fold
        (entries.map fun entry => if fold entry.1 == fold key then (entry.1, value) else entry)
        asked =
      if fold key == fold asked then some value else foldedGet fold entries asked := by
  -- The entry found is the same as before, with the new value if the key is asked for.
  simp only [foldedGet, List.find?_map, Option.map_map]
  have found : ((fun entry : κ × β => fold entry.1 == fold asked) ∘ fun entry =>
      if fold entry.1 == fold key then (entry.1, value) else entry) =
        fun entry => fold entry.1 == fold asked := by
    funext entry
    simp only [Function.comp]
    split <;> rfl
  rw [found]
  cases first : entries.find? (fun entry => fold entry.1 == fold asked) with
  | none =>
    have other : fold key ≠ fold asked := by
      obtain ⟨entry, member, folded⟩ := present
      intro same
      exact List.find?_eq_none.mp first entry member (beq_iff_eq.mpr (folded.trans same))
    simp [other]
  | some entry =>
    have folded : fold entry.1 = fold asked := by simpa using List.find?_some first
    by_cases asks : fold key = fold asked
    · simp [folded, asks]
    · have kept : fold asked ≠ fold key := fun same => asks same.symm
      simp [folded, asks, kept]

/-- An assignment is read back under its key, and nothing else changes. -/
theorem foldedGet_set (entries : List (κ × β)) (key : κ) (value : β) (asked : κ) :
    foldedGet fold (foldedSet fold entries key value) asked =
      if fold key == fold asked then some value else foldedGet fold entries asked := by
  unfold foldedSet
  split
  next present =>
    obtain ⟨entry, member, folded⟩ := List.any_eq_true.mp present
    exact foldedGet_overwritten value asked ⟨entry, member, by simpa using folded⟩
  next absent =>
    simp only [foldedGet, List.find?_append, List.find?_cons, List.find?_nil]
    by_cases asks : fold key = fold asked
    · have unfound : entries.find? (fun entry => fold entry.1 == fold asked) = none := by
        simpa [asks] using absent
      simp [unfound, asks]
    · have other : (fold key == fold asked) = false := by simpa using asks
      simp [other]

/-- Assignments keep the keys apart. -/
theorem FoldsApart.set (apart : FoldsApart fold entries) (key : κ) (value : β) :
    FoldsApart fold (foldedSet fold entries key value) := by
  unfold foldedSet
  split
  · rw [FoldsApart, map_fst_overwritten]
    exact apart
  next absent =>
    simp only [FoldsApart, List.map_append, List.nodup_append]
    refine ⟨apart, List.nodup_singleton _, ?_⟩
    intro folded old last single same
    obtain ⟨_, known, rfl⟩ := List.mem_map.mp old
    obtain ⟨entry, member, rfl⟩ := List.mem_map.mp known
    rw [List.mem_singleton.mp single] at same
    exact absent (List.any_eq_true.mpr ⟨entry, member, beq_iff_eq.mpr same⟩)

end Foundation
