import Mathlib.Data.List.TakeWhile

/-!
# `application/x-www-form-urlencoded`

The decoder of form bodies, and percent encoders given by what they do with each byte.
A body written with any such encoder decodes to the pairs it was written from.
-/
namespace Foundation

def ampersand : UInt8 := 38

def equalsSign : UInt8 := 61

def percentSign : UInt8 := 37

def plusSign : UInt8 := 43

/-- The value of a hexadecimal digit, in either case. -/
def hexValue (c : UInt8) : Option Nat :=
  if 48 ≤ c ∧ c ≤ 57 then some (c.toNat - 48)
  else if 65 ≤ c ∧ c ≤ 70 then some (c.toNat - 55)
  else if 97 ≤ c ∧ c ≤ 102 then some (c.toNat - 87)
  else none

/-- Escapes become the byte they stand for; a percent sign that opens no escape stays. -/
def percentDecode : List UInt8 → List UInt8
  | [] => []
  | [c] => [c]
  | [c, d] => [c, d]
  | c :: hi :: lo :: rest =>
    if c = percentSign then
      match hexValue hi, hexValue lo with
      | some high, some low => (high * 16 + low).toUInt8 :: percentDecode rest
      -- Not an escape after all.
      | _, _ => c :: percentDecode (hi :: lo :: rest)
    else c :: percentDecode (hi :: lo :: rest)

/-- One name or value: a plus sign is a blank, then escapes are resolved. -/
def decodeComponent (text : List UInt8) : List UInt8 :=
  percentDecode (text.map fun c => if c = plusSign then 32 else c)

/-- The name ends at the first `=`, and the value is what follows it. -/
def decodePair (piece : List UInt8) : List UInt8 × List UInt8 :=
  (decodeComponent (piece.takeWhile (· != equalsSign)),
    decodeComponent ((piece.dropWhile (· != equalsSign)).drop 1))

/-- A form body read as its list of pairs; empty pieces between `&` are skipped. -/
def decodeForm (body : List UInt8) : List (List UInt8 × List UInt8) :=
  ((body.splitOn ampersand).filter fun piece => !piece.isEmpty).map decodePair

def isLetterOrDigit (c : UInt8) : Bool :=
  (48 ≤ c && c ≤ 57) || (65 ≤ c && c ≤ 90) || (97 ≤ c && c ≤ 122)

/-- Letters, digits and `_ . - ~` stand for themselves. -/
def isUnreserved (c : UInt8) : Bool :=
  isLetterOrDigit c || c == 95 || c == 46 || c == 45 || c == 126

/-- A percent encoder: unreserved bytes are kept, and every other one is written as a
percent sign and two hexadecimal digits. -/
structure PercentEncoder (encode : List UInt8 → List UInt8) : Prop where
  nil : encode [] = []
  kept : ∀ c rest, isUnreserved c = true → encode (c :: rest) = c :: encode rest
  escaped : ∀ c rest, isUnreserved c = false → ∃ hi lo,
    hexValue hi = some (c.toNat / 16) ∧ hexValue lo = some (c.toNat % 16) ∧
    encode (c :: rest) = percentSign :: hi :: lo :: encode rest

def hexDigit (n : Nat) : UInt8 := if n < 10 then (48 + n).toUInt8 else (55 + n).toUInt8

/-- The percent encoder that writes capital digits. -/
def percentEncode (text : List UInt8) : List UInt8 :=
  text.flatMap fun c =>
    if isUnreserved c then [c]
    else [percentSign, hexDigit (c.toNat / 16), hexDigit (c.toNat % 16)]

/-- A map that keeps every entry keeps the list. -/
theorem map_eq_self {α : Type} {f : α → α} {l : List α} (kept : ∀ a ∈ l, f a = a) :
    l.map f = l :=
  (List.map_congr_left kept).trans (List.map_id l)

theorem hexValue_hexDigit : ∀ n < 16, hexValue (hexDigit n) = some n := by decide

theorem percentEncoder_percentEncode : PercentEncoder percentEncode where
  nil := rfl
  kept c rest plain := by simp [percentEncode, plain]
  escaped c rest reserved := by
    have small := c.toNat_lt
    exact ⟨_, _, hexValue_hexDigit _ (by omega), hexValue_hexDigit _ (by omega),
      by simp [percentEncode, reserved]⟩

theorem hexValue_isSome {c : UInt8} {value : Nat} (digit : hexValue c = some value) :
    isLetterOrDigit c = true := by
  simp only [hexValue] at digit
  split at digit
  · simp_all [isLetterOrDigit]
  · split at digit
    next letter =>
      have last : c ≤ 90 := UInt8.le_trans letter.2 (by decide)
      simp [isLetterOrDigit, letter.1, last]
    · split at digit
      next letter =>
        have last : c ≤ 122 := UInt8.le_trans letter.2 (by decide)
        simp [isLetterOrDigit, letter.1, last]
      · cases digit

/-- A byte that is neither a percent sign nor part of an escape stays. -/
theorem percentDecode_cons {c : UInt8} (plain : c ≠ percentSign) (rest : List UInt8) :
    percentDecode (c :: rest) = c :: percentDecode rest := by
  match rest with
  | [] => rfl
  | [_] => rfl
  | _ :: _ :: _ => rw [percentDecode, if_neg plain]

theorem percentDecode_escape {hi lo : UInt8} {high low : Nat} (first : hexValue hi = some high)
    (second : hexValue lo = some low) (rest : List UInt8) :
    percentDecode (percentSign :: hi :: lo :: rest) =
      (high * 16 + low).toUInt8 :: percentDecode rest := by
  rw [percentDecode, if_pos rfl, first, second]

namespace PercentEncoder

variable {encode : List UInt8 → List UInt8} (encoder : PercentEncoder encode)

include encoder

/-- A property of the output holds when it does of unreserved bytes, of the percent sign
and of the hexadecimal digits. -/
theorem output_bytes (text : List UInt8) :
    ∀ c ∈ encode text, isUnreserved c = true ∨ c = percentSign := by
  -- One byte of the input at a time: it stays, or becomes three bytes.
  induction text with
  | nil => simp [encoder.nil]
  | cons c rest ih =>
    cases plain : isUnreserved c with
    | true =>
      rw [encoder.kept c rest plain]
      intro d member
      rcases List.mem_cons.mp member with rfl | member
      · exact Or.inl plain
      · exact ih d member
    | false =>
      obtain ⟨hi, lo, first, second, encoded⟩ := encoder.escaped c rest plain
      rw [encoded]
      intro d member
      simp only [List.mem_cons] at member
      rcases member with rfl | rfl | rfl | member
      · exact Or.inr rfl
      · exact Or.inl (by simp [isUnreserved, hexValue_isSome first])
      · exact Or.inl (by simp [isUnreserved, hexValue_isSome second])
      · exact ih d member

theorem not_mem_output {c : UInt8} (reserved : isUnreserved c = false) (sign : c ≠ percentSign)
    (text : List UInt8) : c ∉ encode text := by
  intro member
  rcases encoder.output_bytes text c member with plain | rfl
  · simp [plain] at reserved
  · exact sign rfl

theorem plusSign_not_mem (text : List UInt8) : plusSign ∉ encode text :=
  encoder.not_mem_output (by decide) (by decide) text

theorem decode_encode (text : List UInt8) : percentDecode (encode text) = text := by
  induction text with
  | nil => simp [encoder.nil, percentDecode]
  | cons c rest ih =>
    cases plain : isUnreserved c with
    | true =>
      have other : c ≠ percentSign := by rintro rfl; revert plain; decide
      rw [encoder.kept c rest plain, percentDecode_cons other, ih]
    | false =>
      obtain ⟨hi, lo, first, second, encoded⟩ := encoder.escaped c rest plain
      -- The two digits are the halves of the byte.
      have value : c.toNat / 16 * 16 + c.toNat % 16 = c.toNat := by omega
      rw [encoded, percentDecode_escape first second, ih, value]
      simp

/-- A component survives the way through the encoder and the form decoder. -/
theorem decodeComponent_encode (text : List UInt8) : decodeComponent (encode text) = text := by
  -- No plus sign is written, so none is taken for a blank.
  have same : (encode text).map (fun c => if c = plusSign then 32 else c) = encode text := by
    apply map_eq_self
    intro c member
    exact if_neg fun plus : c = plusSign => encoder.plusSign_not_mem text (plus ▸ member)
  rw [decodeComponent, same, encoder.decode_encode]

/-- `name=value`. -/
theorem decodePair_encode (name value : List UInt8) :
    decodePair (encode name ++ equalsSign :: encode value) = (name, value) := by
  have clean : ∀ c ∈ encode name, (c != equalsSign) = true := by
    intro c member
    have other : c ≠ equalsSign := by
      intro same
      exact encoder.not_mem_output (by decide) (by decide) name (same ▸ member)
    simpa using other
  have front : (encode name ++ equalsSign :: encode value).takeWhile (· != equalsSign) =
      encode name := by
    rw [List.takeWhile_append_of_pos clean]
    simp
  have back : (encode name ++ equalsSign :: encode value).dropWhile (· != equalsSign) =
      equalsSign :: encode value := by
    rw [List.dropWhile_append_of_pos clean]
    simp
  rw [decodePair, front, back, List.drop_one, List.tail_cons, encoder.decodeComponent_encode,
    encoder.decodeComponent_encode]

end PercentEncoder

/-- The pairs joined by `&`, names and values encoded. -/
def encodeForm (encode : List UInt8 → List UInt8)
    (pairs : List (List UInt8 × List UInt8)) : List UInt8 :=
  [ampersand].intercalate (pairs.map fun pair => encode pair.1 ++ equalsSign :: encode pair.2)

/-- A form body decodes to the pairs it was written from. -/
theorem PercentEncoder.decodeForm_encodeForm {encode : List UInt8 → List UInt8}
    (encoder : PercentEncoder encode) (pairs : List (List UInt8 × List UInt8)) :
    decodeForm (encodeForm encode pairs) = pairs := by
  cases pairs with
  | nil => rfl
  | cons first rest =>
    -- No piece contains the separator, so splitting undoes joining.
    have clean : ∀ piece ∈ (first :: rest).map
        (fun pair => encode pair.1 ++ equalsSign :: encode pair.2), ampersand ∉ piece := by
      intro piece member inside
      obtain ⟨pair, _, rfl⟩ := List.mem_map.mp member
      rcases List.mem_append.mp inside with name | value
      · exact encoder.not_mem_output (by decide) (by decide) _ name
      · rcases List.mem_cons.mp value with same | value
        · revert same; decide
        · exact encoder.not_mem_output (by decide) (by decide) _ value
    rw [decodeForm, encodeForm, List.splitOn_intercalate _ clean (by simp),
      List.filter_eq_self.mpr, List.map_map]
    · apply map_eq_self
      intro pair _
      exact encoder.decodePair_encode pair.1 pair.2
    · intro piece member
      obtain ⟨pair, _, rfl⟩ := List.mem_map.mp member
      simp

/-- Two bodies are the same only for the same pairs. -/
theorem PercentEncoder.encodeForm_injective {encode : List UInt8 → List UInt8}
    (encoder : PercentEncoder encode) : Function.Injective (encodeForm encode) :=
  Function.LeftInverse.injective encoder.decodeForm_encodeForm

end Foundation
