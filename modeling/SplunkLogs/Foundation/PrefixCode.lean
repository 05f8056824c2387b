import Mathlib.Data.List.DropRight
import Mathlib.Data.List.Infix

/-!
# Cutting a text over a prefix code

A text is a sequence of code words of which none begins another. Cut after some number of
symbols it is a text again exactly where no code word lies across the cut.
-/
namespace Foundation

variable {α β : Type*} {encode : α → List β}

/-- No code word is empty or begins another one. -/
structure PrefixCode (encode : α → List β) : Prop where
  nonempty : ∀ a, encode a ≠ []
  unique : ∀ a b, encode a <+: encode b → a = b

def IsText (encode : α → List β) (text : List β) : Prop :=
  ∃ letters : List α, text = letters.flatMap encode

/-- A code word of the text begins before position `n` and ends behind it. -/
def Straddles (encode : α → List β) (n : Nat) (text : List β) : Prop :=
  ∃ (before : List α) (c : α) (after : List α),
    text = before.flatMap encode ++ (encode c ++ after.flatMap encode) ∧
    (before.flatMap encode).length < n ∧
    n < (before.flatMap encode).length + (encode c).length

theorem IsText.nil : IsText encode [] := ⟨[], rfl⟩

theorem IsText.word (c : α) : IsText encode (encode c) := ⟨[c], by simp⟩

theorem IsText.append {first second : List β} (left : IsText encode first)
    (right : IsText encode second) : IsText encode (first ++ second) := by
  obtain ⟨a, rfl⟩ := left
  obtain ⟨b, rfl⟩ := right
  exact ⟨a ++ b, List.flatMap_append.symm⟩

/-- Texts are replaced word by word. -/
theorem IsText.map {text : List β} (valid : IsText encode text) {f : β → β}
    (words : ∀ c, IsText encode ((encode c).map f)) : IsText encode (text.map f) := by
  obtain ⟨letters, rfl⟩ := valid
  induction letters with
  | nil => exact IsText.nil
  | cons c rest ih =>
    rw [List.flatMap_cons, List.map_append]
    exact (words c).append ih

section Dropping

variable {p : β → Bool} (isolated : ∀ c, (∃ b, encode c = [b]) ∨ ∀ b ∈ encode c, p b = false)

include isolated

/-- A predicate that no longer code word has an element of takes whole words off the front. -/
theorem IsText.dropWhile (nonempty : ∀ c, encode c ≠ []) {text : List β}
    (valid : IsText encode text) : IsText encode (text.dropWhile p) := by
  obtain ⟨letters, rfl⟩ := valid
  induction letters with
  | nil => exact IsText.nil
  | cons c rest ih =>
    rw [List.flatMap_cons]
    cases isolated c with
    | inl single =>
      obtain ⟨b, shape⟩ := single
      rw [shape, List.singleton_append, List.dropWhile_cons]
      split
      · exact ih
      · rw [← List.singleton_append, ← shape]
        exact (IsText.word c).append ⟨rest, rfl⟩
    | inr clear =>
      -- The word's first symbol stops the scan.
      obtain ⟨b, more, shape⟩ := List.exists_cons_of_ne_nil (nonempty c)
      have stops : p b = false := clear b (by simp [shape])
      have stays : (encode c ++ rest.flatMap encode).dropWhile p =
          encode c ++ rest.flatMap encode := by
        simp [shape, stops]
      rw [stays]
      exact (IsText.word c).append ⟨rest, rfl⟩

/-- The same at the end of the text. -/
theorem IsText.rdropWhile (nonempty : ∀ c, encode c ≠ []) {text : List β}
    (valid : IsText encode text) : IsText encode (text.rdropWhile p) := by
  obtain ⟨letters, rfl⟩ := valid
  induction letters using List.reverseRecOn with
  | nil => exact IsText.nil
  | append_singleton rest c ih =>
    rw [List.flatMap_append, List.flatMap_singleton]
    cases isolated c with
    | inl single =>
      obtain ⟨b, shape⟩ := single
      rw [shape, List.rdropWhile_concat]
      split
      · exact ih
      · rw [← shape]
        exact IsText.append ⟨rest, rfl⟩ (IsText.word c)
    | inr clear =>
      obtain ⟨more, b, shape⟩ : ∃ more b, encode c = more ++ [b] :=
        ⟨_, _, (List.dropLast_concat_getLast (nonempty c)).symm⟩
      have stops : p b = false := clear b (by simp [shape])
      have stays : (rest.flatMap encode ++ encode c).rdropWhile p =
          rest.flatMap encode ++ encode c := by
        rw [shape, ← List.append_assoc]
        exact List.rdropWhile_concat_neg _ _ _ (by simp [stops])
      rw [stays]
      exact IsText.append ⟨rest, rfl⟩ (IsText.word c)

/-- What stands in front of the first such symbol is a text. -/
theorem IsText.takeWhile_not {text : List β} (valid : IsText encode text) :
    IsText encode (text.takeWhile fun b => !p b) := by
  obtain ⟨letters, rfl⟩ := valid
  induction letters with
  | nil => exact IsText.nil
  | cons c rest ih =>
    rw [List.flatMap_cons]
    cases isolated c with
    | inl single =>
      obtain ⟨b, shape⟩ := single
      rw [shape, List.singleton_append, List.takeWhile_cons]
      split
      · rw [← List.singleton_append, ← shape]
        exact (IsText.word c).append ih
      · exact IsText.nil
    | inr clear =>
      rw [List.takeWhile_append_of_pos (by simpa using clear)]
      exact (IsText.word c).append ih

end Dropping

section Cutting

/-- Every cut is between two words or across one. -/
theorem take_cases {text : List β} (valid : IsText encode text) (n : Nat) :
    IsText encode (text.take n) ∨ Straddles encode n text := by
  obtain ⟨letters, rfl⟩ := valid
  induction letters generalizing n with
  | nil => left; simpa using IsText.nil
  | cons c rest ih =>
    rw [List.flatMap_cons]
    rcases Nat.lt_or_ge n (encode c).length with inside | behind
    · cases n with
      | zero => left; exact IsText.nil
      | succ n => right; exact ⟨[], c, rest, by simp, by simp, by simpa using inside⟩
    · rw [List.take_append, List.take_of_length_le behind]
      cases ih (n - (encode c).length) with
      | inl whole => left; exact (IsText.word c).append whole
      | inr across =>
        obtain ⟨before, d, after, shape, begins, ends⟩ := across
        right
        refine ⟨c :: before, d, after, by rw [shape]; simp, ?_, ?_⟩
        · rw [List.flatMap_cons, List.length_append]; omega
        · rw [List.flatMap_cons, List.length_append]; omega

variable (code : PrefixCode encode)

include code

/-- Of two words that begin one text one is the other. -/
theorem PrefixCode.word_eq {a b : α} {text : List β} (first : encode a <+: text)
    (second : encode b <+: text) : a = b := by
  cases List.prefix_or_prefix_of_prefix first second with
  | inl shorter => exact code.unique a b shorter
  | inr longer => exact (code.unique b a longer).symm

/-- Where a text is followed by anything, the words of an equal text begin with its words. -/
theorem PrefixCode.split_eq {before after : List α} {more : List β}
    (same : after.flatMap encode = before.flatMap encode ++ more) : IsText encode more := by
  induction before generalizing after with
  | nil => exact ⟨after, same.symm⟩
  | cons c rest ih =>
    cases after with
    | nil =>
      have empty : encode c = [] := by
        simp only [List.flatMap_nil, List.flatMap_cons, List.append_assoc] at same
        exact (List.append_eq_nil_iff.mp same.symm).1
      exact absurd empty (code.nonempty c)
    | cons d others =>
      simp only [List.flatMap_cons, List.append_assoc] at same
      have equal : c = d := code.word_eq (List.prefix_append _ _) (same ▸ List.prefix_append _ _)
      subst equal
      exact ih (List.append_cancel_left same)

/-- A proper beginning of a word is no text, not even in front of a symbol that stands in no
word but at its start. -/
theorem PrefixCode.not_isText_take {c : α} {k : Nat} (begun : 0 < k)
    (unfinished : k < (encode c).length) {mark : List β}
    (apart : ∀ b ∈ mark, ∀ a, b ∉ (encode a).tail) :
    ¬IsText encode ((encode c).take k ++ mark) := by
  rintro ⟨letters, same⟩
  have taken : ((encode c).take k).length = k := by
    rw [List.length_take]; omega
  cases letters with
  | nil =>
    have empty := (List.append_eq_nil_iff.mp same).1
    rw [empty, List.length_nil] at taken
    omega
  | cons d others =>
    rw [List.flatMap_cons] at same
    have front : encode d <+: (encode c).take k ++ mark := same ▸ List.prefix_append _ _
    rcases Nat.lt_or_ge k (encode d).length with longer | within
    · -- The word goes on into the mark.
      cases mark with
      | nil =>
        have bound := front.length_le
        rw [List.append_nil, taken] at bound
        omega
      | cons b mark =>
        have here : (encode d)[k]? = some b := by
          have next := congrArg (·[k]?) same
          rw [List.getElem?_append_right (by omega), List.getElem?_append_left longer] at next
          simpa [taken] using next.symm
        have late : b ∈ (encode d).tail := by
          apply List.mem_of_getElem? (i := k - 1)
          rw [List.getElem?_tail, Nat.sub_add_cancel begun]
          exact here
        exact apart b List.mem_cons_self d late
    · have inside : encode d <+: (encode c).take k :=
        List.prefix_of_prefix_length_le front (List.prefix_append _ _) (by omega)
      have equal := code.unique d c (inside.trans (List.take_prefix k _))
      subst equal
      omega

/-- A text cut after `n` symbols, with symbols after it that stand in no word but at its
start, is a text exactly where no word lies across the cut. -/
theorem PrefixCode.isText_take_append_iff {text mark : List β} (valid : IsText encode text)
    (marked : IsText encode mark) (apart : ∀ b ∈ mark, ∀ a, b ∉ (encode a).tail) (n : Nat) :
    IsText encode (text.take n ++ mark) ↔ ¬Straddles encode n text := by
  constructor
  · rintro ⟨letters, same⟩ ⟨before, c, after, rfl, begins, ends⟩
    rw [List.take_append, List.take_of_length_le (by omega), List.take_append_of_le_length
      (by omega), List.append_assoc] at same
    exact code.not_isText_take (by omega) (by omega) apart (code.split_eq same.symm)
  · intro whole
    exact ((take_cases valid n).resolve_right whole).append marked

end Cutting

end Foundation
