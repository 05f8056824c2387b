import Mathlib.Data.List.Basic

/-!
# Double-quoted literals

A lexer for text with double-quoted literals in which a backslash takes the next byte as it
stands, and the escaping that keeps any text inside one literal.
-/
namespace Foundation

def quoteMark : UInt8 := 34

def backslash : UInt8 := 92

/-- A byte outside of all literals, or a whole literal as the text it stands for. -/
inductive QuotePiece where
  | plain (c : UInt8)
  | literal (text : List UInt8)
  deriving DecidableEq

/-- Where the lexer is: outside, in a literal, or behind a backslash in it. -/
inductive QuoteState where
  | outside
  | inside (text : List UInt8)
  | escaped (text : List UInt8)

/-- The pieces of a text; `none` where a literal is still open at its end. -/
def lexQuotes : QuoteState → List UInt8 → Option (List QuotePiece)
  | .outside, [] => some []
  | .outside, c :: rest =>
    if c = quoteMark then lexQuotes (.inside []) rest
    else (lexQuotes .outside rest).map (.plain c :: ·)
  | .inside _, [] => none
  | .inside text, c :: rest =>
    if c = quoteMark then (lexQuotes .outside rest).map (.literal text :: ·)
    else if c = backslash then lexQuotes (.escaped text) rest
    else lexQuotes (.inside (text ++ [c])) rest
  | .escaped _, [] => none
  | .escaped text, c :: rest => lexQuotes (.inside (text ++ [c])) rest

/-- A backslash before every quote and backslash. -/
def escapeQuotes (text : List UInt8) : List UInt8 :=
  text.flatMap fun c => if c = backslash ∨ c = quoteMark then [backslash, c] else [c]

theorem lexQuotes_plain {text : List UInt8} (clean : quoteMark ∉ text) (rest : List UInt8) :
    lexQuotes .outside (text ++ rest) =
      (lexQuotes .outside rest).map (text.map .plain ++ ·) := by
  induction text with
  | nil => simp
  | cons c text ih =>
    simp only [List.mem_cons, not_or] at clean
    have other : c ≠ quoteMark := fun same => clean.1 same.symm
    simp only [List.cons_append, lexQuotes, other, if_false, ih clean.2, Option.map_map]
    rfl

/-- An escaped text ends at the first quote behind it, and is read as it was written. -/
theorem lexQuotes_escaped (done text rest : List UInt8) :
    lexQuotes (.inside done) (escapeQuotes text ++ quoteMark :: rest) =
      (lexQuotes .outside rest).map (.literal (done ++ text) :: ·) := by
  -- The text read so far grows by one byte in each round.
  induction text generalizing done with
  | nil => simp [escapeQuotes, lexQuotes]
  | cons c text ih =>
    have next := ih (done ++ [c])
    rw [List.append_assoc, List.singleton_append] at next
    by_cases special : c = backslash ∨ c = quoteMark
    · have escaped : escapeQuotes (c :: text) = backslash :: c :: escapeQuotes text := by
        simp [escapeQuotes, special]
      have mark : backslash ≠ quoteMark := by decide
      rw [escaped, List.cons_append, List.cons_append, lexQuotes, if_neg mark, if_pos rfl,
        lexQuotes]
      exact next
    · have kept : escapeQuotes (c :: text) = c :: escapeQuotes text := by
        simp [escapeQuotes, special]
      obtain ⟨noBackslash, noQuote⟩ := not_or.mp special
      rw [kept, List.cons_append, lexQuotes, if_neg noQuote, if_neg noBackslash]
      exact next

/-- Plain text followed by one literal. -/
theorem lexQuotes_literal {text : List UInt8} (clean : quoteMark ∉ text)
    (value : List UInt8) :
    lexQuotes .outside (text ++ quoteMark :: (escapeQuotes value ++ [quoteMark])) =
      some (text.map .plain ++ [.literal value]) := by
  rw [lexQuotes_plain clean, lexQuotes, if_pos rfl, lexQuotes_escaped]
  simp [lexQuotes]

end Foundation
