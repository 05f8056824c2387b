import Mathlib.Data.List.Basic

/-!
# Scanning a buffer for a separator

A buffer that arrives in pieces is searched from an offset for the next separator.
The lemmas relate that search to splitting the whole text with `List.splitOn`.
-/
namespace Foundation

variable {α : Type*} [DecidableEq α]

/-- The first position from `start` on that holds `c`. -/
def findFrom (c : α) (text : List α) (start : Nat) : Option Nat :=
  ((text.drop start).findIdx? (· == c)).map (start + ·)

/-- The pieces of `text` between positions `start` and `stop`. -/
def slice (text : List α) (start stop : Nat) : List α := (text.drop start).take (stop - start)

theorem findFrom_none {c : α} {text : List α} {start : Nat}
    (missing : findFrom c text start = none) : c ∉ text.drop start := by
  intro member
  simp only [findFrom, Option.map_eq_none_iff, List.findIdx?_eq_none_iff] at missing
  simpa using missing c member

theorem findFrom_some {c : α} {text : List α} {start stop : Nat}
    (found : findFrom c text start = some stop) :
    start ≤ stop ∧ stop < text.length ∧ c ∉ slice text start stop ∧
      text.drop start = slice text start stop ++ c :: text.drop (stop + 1) := by
  simp only [findFrom, Option.map_eq_some_iff] at found
  obtain ⟨i, first, rfl⟩ := found
  obtain ⟨short, holds, before⟩ := List.findIdx?_eq_some_iff_getElem.mp first
  -- The byte found is the separator, and no byte before it is.
  have equal : (text.drop start)[i] = c := by simpa using holds
  simp only [List.length_drop] at short
  refine ⟨Nat.le_add_right _ _, by omega, ?_, ?_⟩
  · intro member
    simp only [slice, Nat.add_sub_cancel_left] at member
    obtain ⟨j, bound, value⟩ := List.mem_iff_getElem.mp member
    simp only [List.length_take, List.length_drop] at bound
    have differs := before j (by omega)
    simp only [List.getElem_take] at value
    exact differs (by simp [value])
  · have tail : text.drop (start + i + 1) = (text.drop start).drop (i + 1) := by
      rw [List.drop_drop]; congr 1
    rw [tail, slice, Nat.add_sub_cancel_left, ← equal, ← List.drop_eq_getElem_cons,
      List.take_append_drop]

/-- A found separator closes the first piece, and the search goes on behind it. -/
theorem splitOn_of_findFrom {c : α} {text : List α} {start stop : Nat}
    (found : findFrom c text start = some stop) (more : List α) :
    (text.drop start ++ more).splitOn c =
      slice text start stop :: (text.drop (stop + 1) ++ more).splitOn c := by
  obtain ⟨_, _, clean, decomposed⟩ := findFrom_some found
  rw [decomposed, List.append_assoc, List.cons_append,
    List.splitOn_append_cons_self_of_not_mem clean]

/-- A piece begins behind `front`. -/
def AtStart (c : α) (front : List α) : Prop := front = [] ∨ front.getLast? = some c

/-- Behind a found separator the next piece begins. -/
theorem atStart_of_findFrom {c : α} {text : List α} {start stop : Nat} (front : List α)
    (found : findFrom c text start = some stop) : AtStart c (front ++ text.take (stop + 1)) := by
  obtain ⟨_, _, _, decomposed⟩ := findFrom_some found
  -- What is taken is all that stands before the rest behind the separator.
  have taken : text.take (stop + 1) = text.take start ++ slice text start stop ++ [c] := by
    apply (List.append_left_inj (text.drop (stop + 1))).mp
    rw [List.take_append_drop, List.append_assoc, List.append_assoc, List.singleton_append,
      ← decomposed, List.take_append_drop]
  refine Or.inr ?_
  rw [taken, ← List.append_assoc, List.getLast?_concat]

/-- Where a piece begins, the pieces of the rest are pieces of the whole. -/
theorem mem_splitOn_behind {c : α} {front text piece : List α} (start : AtStart c front)
    (member : piece ∈ text.splitOn c) : piece ∈ (front ++ text).splitOn c := by
  rcases start with rfl | last
  · exact member
  · obtain ⟨before, rfl⟩ := List.getLast?_eq_some_iff.mp last
    rw [List.append_assoc, List.singleton_append, List.splitOn_append_cons_self]
    exact List.mem_append_right _ member

/-- A text without a separator that stands where a piece begins is the front of a piece. -/
theorem prefix_piece {c : α} {front text : List α} (start : AtStart c front) (clean : c ∉ text)
    (rest : List α) : ∃ piece ∈ (front ++ (text ++ rest)).splitOn c, text <+: piece := by
  have first : ∃ piece ∈ (text ++ rest).splitOn c, text <+: piece := by
    by_cases more : c ∈ rest
    · -- The piece ends at the first separator of the rest.
      obtain ⟨before, after, rfl, open_⟩ := List.eq_append_cons_of_mem more
      refine ⟨text ++ before, ?_, List.prefix_append _ _⟩
      rw [← List.append_assoc, List.splitOn_append_cons_self_of_not_mem (by simp [clean, open_])]
      exact List.mem_cons_self
    · exact ⟨text ++ rest, by simp [List.splitOn_eq_singleton, clean, more],
        List.prefix_append _ _⟩
  obtain ⟨piece, member, front⟩ := first
  exact ⟨piece, mem_splitOn_behind start member, front⟩

end Foundation
