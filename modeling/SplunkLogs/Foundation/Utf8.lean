import SplunkLogs.Foundation.PrefixCode

/-!
# UTF-8 as a prefix code

Characters are written in words of bytes of which none begins another. A byte below 128 is a
word by itself and stands in no other.
-/
namespace Foundation

/-- Well-formed UTF-8. -/
def IsUtf8 (bytes : List UInt8) : Prop := bytes.toByteArray.IsValidUTF8

theorem isUtf8_iff {bytes : List UInt8} :
    IsUtf8 bytes ↔ IsText String.utf8EncodeChar bytes := by
  constructor
  · rintro ⟨letters, same⟩
    exact ⟨letters, List.toByteArray_inj.mp same⟩
  · rintro ⟨letters, rfl⟩
    exact ⟨letters, rfl⟩

/-- Decoding shows that a word is not the beginning of another one. -/
theorem utf8_prefixCode : PrefixCode String.utf8EncodeChar := by
  constructor
  · intro c
    exact String.utf8EncodeChar_ne_nil
  · intro a b ⟨more, same⟩
    have first : ByteArray.utf8DecodeChar?
        ((String.utf8EncodeChar a).toByteArray ++ more.toByteArray) 0 = some a :=
      ByteArray.utf8DecodeChar?_utf8EncodeChar_append
    have second : ByteArray.utf8DecodeChar?
        ((String.utf8EncodeChar b).toByteArray ++ ByteArray.empty) 0 = some b :=
      ByteArray.utf8DecodeChar?_utf8EncodeChar_append
    rw [← List.toByteArray_append, same] at first
    rw [ByteArray.append_empty, first] at second
    exact Option.some.inj second

theorem le_ofNat {n : Nat} (low : 128 ≤ n) (high : n < 256) : 128 ≤ UInt8.ofNat n := by
  rw [UInt8.le_iff_toNat_le, UInt8.toNat_ofNat_of_lt' high]
  exact low

/-- A word is one byte below 128, or all its bytes are above. -/
theorem utf8EncodeChar_cases (c : Char) :
    (∃ b < 128, String.utf8EncodeChar c = [b]) ∨ ∀ b ∈ String.utf8EncodeChar c, 128 ≤ b := by
  fun_cases String.utf8EncodeChar c with
  | case1 v small =>
    left
    refine ⟨UInt8.ofNat v, ?_, rfl⟩
    have bound : v < 256 := by omega
    rw [UInt8.lt_iff_toNat_lt, UInt8.toNat_ofNat_of_lt' bound]
    exact Nat.lt_succ_of_le small
  | case2 v =>
    right
    simp only [List.forall_mem_cons, List.not_mem_nil, false_implies, implies_true, and_true]
    exact ⟨le_ofNat (by omega) (by omega), le_ofNat (by omega) (by omega)⟩
  | case3 v =>
    right
    simp only [List.forall_mem_cons, List.not_mem_nil, false_implies, implies_true, and_true]
    exact ⟨le_ofNat (by omega) (by omega), le_ofNat (by omega) (by omega),
      le_ofNat (by omega) (by omega)⟩
  | case4 v =>
    right
    simp only [List.forall_mem_cons, List.not_mem_nil, false_implies, implies_true, and_true]
    exact ⟨le_ofNat (by omega) (by omega), le_ofNat (by omega) (by omega),
      le_ofNat (by omega) (by omega), le_ofNat (by omega) (by omega)⟩

theorem utf8EncodeChar_ascii {b : UInt8} (small : b < 128) :
    String.utf8EncodeChar (Char.ofNat b.toNat) = [b] := by
  have bound : b.toNat < 128 := UInt8.lt_iff_toNat_lt.mp small
  have value : (Char.ofNat b.toNat).val.toNat = b.toNat := by
    have valid : b.toNat.isValidChar := Or.inl (by omega)
    rw [Char.ofNat, dif_pos valid]
    rfl
  rw [String.utf8EncodeChar, value, if_pos (by omega), UInt8.ofNat_toNat]

/-- A predicate on bytes below 128 holds of one-byte words only. -/
theorem utf8_isolated {p : UInt8 → Bool} (low : ∀ b, p b = true → b < 128) (c : Char) :
    (∃ b, String.utf8EncodeChar c = [b]) ∨ ∀ b ∈ String.utf8EncodeChar c, p b = false := by
  cases utf8EncodeChar_cases c with
  | inl single =>
    obtain ⟨b, _, shape⟩ := single
    exact Or.inl ⟨b, shape⟩
  | inr high =>
    right
    intro b member
    by_contra holds
    exact absurd (low b (by simpa using holds)) (UInt8.not_lt.mpr (high b member))

/-- A byte below 128 stands in no word but at its start. -/
theorem utf8_not_mem_tail {b : UInt8} (small : b < 128) (c : Char) :
    b ∉ (String.utf8EncodeChar c).tail := by
  intro member
  cases utf8EncodeChar_cases c with
  | inl single =>
    obtain ⟨_, _, shape⟩ := single
    rw [shape] at member
    cases member
  | inr high =>
    exact absurd small (UInt8.not_lt.mpr (high b (List.mem_of_mem_tail member)))

theorem IsUtf8.ascii {bytes : List UInt8} (small : ∀ b ∈ bytes, b < 128) : IsUtf8 bytes := by
  apply isUtf8_iff.mpr
  induction bytes with
  | nil => exact IsText.nil
  | cons b rest ih =>
    obtain ⟨here, others⟩ := List.forall_mem_cons.mp small
    rw [← List.singleton_append, ← utf8EncodeChar_ascii here]
    exact (IsText.word _).append (ih others)

theorem IsUtf8.append {first second : List UInt8} (left : IsUtf8 first) (right : IsUtf8 second) :
    IsUtf8 (first ++ second) :=
  isUtf8_iff.mpr ((isUtf8_iff.mp left).append (isUtf8_iff.mp right))

end Foundation
