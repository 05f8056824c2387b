import Mathlib.Data.List.DropRight

/-!
# Trimmed texts and their first word

Blanks are the elements a predicate holds of. Trimming drops them at both ends; the first word
of a text is what stands before its first blank.
-/
namespace Foundation

variable {α : Type*} {blank : α → Bool}

/-- A text without a blank at either end. -/
structure Trimmed (blank : α → Bool) (text : List α) : Prop where
  front : ∀ c, text.head? = some c → blank c = false
  back : ∀ c, text.getLast? = some c → blank c = false

def trimBoth (blank : α → Bool) (text : List α) : List α :=
  (text.dropWhile blank).rdropWhile blank

theorem trimBoth_eq_nil_iff {text : List α} :
    trimBoth blank text = [] ↔ ∀ c ∈ text, blank c = true := by
  rw [trimBoth, List.rdropWhile_eq_nil_iff]
  constructor
  · intro rest c member
    rw [← List.takeWhile_append_dropWhile (p := blank) (l := text), List.mem_append] at member
    cases member with
    | inl before => exact List.mem_takeWhile_imp before
    | inr after => exact rest c after
  · intro all c member
    exact all c ((List.dropWhile_suffix blank).subset member)

theorem trimBoth_trimmed (text : List α) : Trimmed blank (trimBoth blank text) := by
  constructor
  · intro c first
    -- What is left of the text begins where the leading blanks ended.
    obtain ⟨more, shape⟩ := List.rdropWhile_prefix blank (text.dropWhile blank)
    have head : (text.dropWhile blank).head? = some c := by
      rw [← shape, List.head?_append]
      exact Option.or_eq_some_iff.mpr (Or.inl first)
    have stopped := List.head?_dropWhile_not blank text
    rwa [head] at stopped
  · intro c last
    obtain ⟨filled, rfl⟩ := List.mem_getLast?_eq_getLast last
    exact Bool.eq_false_iff.mpr (List.rdropWhile_last_not blank (text.dropWhile blank) filled)

theorem Trimmed.trimBoth_eq {text : List α} (trimmed : Trimmed blank text) :
    trimBoth blank text = text := by
  have front : text.dropWhile blank = text := by
    cases text with
    | nil => rfl
    | cons c rest => simp [trimmed.front c rfl]
  rw [trimBoth, front, List.rdropWhile_eq_self_iff]
  intro filled
  simp [trimmed.back _ (List.getLast?_eq_some_getLast filled)]

/-- A beginning without a leading blank in front of a trimmed text. -/
theorem Trimmed.prepend {first second : List α} (right : Trimmed blank second)
    (front : ∀ c, first.head? = some c → blank c = false) (before : first ≠ [])
    (after : second ≠ []) : Trimmed blank (first ++ second) := by
  constructor
  · intro c head
    rw [List.head?_append_of_ne_nil _ before] at head
    exact front c head
  · intro c last
    rw [List.getLast?_append_of_ne_nil _ after] at last
    exact right.back c last

/-- What stands before the first blank. -/
def firstWord (blank : α → Bool) (text : List α) : List α := text.takeWhile fun c => !blank c

/-- A folded text begins with a word and a separator where the first word folds to that word
and the separator comes right after it. -/
theorem word_prefix_iff {fold : α → α} {separator : α} (folded : ∀ c, blank (fold c) = blank c)
    (kept : ∀ c, fold c = separator ↔ c = separator) (apart : blank separator = true)
    {word : List α} (solid : ∀ c ∈ word, blank c = false) (text : List α) :
    word ++ [separator] <+: text.map fold ↔
      (firstWord blank text).map fold = word ∧ text[word.length]? = some separator := by
  induction word generalizing text with
  | nil =>
    cases text with
    | nil => simp
    | cons c rest =>
      simp only [List.nil_append, List.map_cons, List.cons_prefix_cons, List.nil_prefix, and_true,
        List.length_nil, List.getElem?_cons_zero, Option.some.injEq, firstWord,
        List.map_eq_nil_iff]
      constructor
      · intro same
        have here : c = separator := (kept c).mp same.symm
        simp [here, apart]
      · intro ⟨_, here⟩
        exact ((kept c).mpr here).symm
  | cons w word ih =>
    obtain ⟨black, others⟩ := List.forall_mem_cons.mp solid
    cases text with
    | nil => simp [firstWord]
    | cons c rest =>
      simp only [List.cons_append, List.map_cons, List.cons_prefix_cons, ih others,
        List.length_cons, List.getElem?_cons_succ, firstWord]
      cases space : blank c with
      | true =>
        -- A blank begins the text, so its first word is empty.
        have differs : w ≠ fold c := by
          intro same
          rw [same, folded, space] at black
          cases black
        simp [space, differs]
      | false =>
        simp only [List.takeWhile_cons, space, Bool.not_false, if_true, List.map_cons,
          List.cons.injEq, and_assoc]
        rw [eq_comm]

end Foundation
