import Mathlib.Data.List.TakeWhile
import Mathlib.Data.Nat.Digits.Defs
import SplunkLogs.Foundation.Scanning

/-! Byte strings and the `StringUtil` and C library helpers the extension uses on them. -/
namespace SplunkLogs

/-- A `std::string`: bytes with an explicit length, NUL and non-ASCII bytes included. -/
abbrev Bytes := List UInt8

/-- The bytes of a literal of the source. All of them are ASCII. -/
def ascii (literal : String) : Bytes := literal.toList.map fun c => c.toNat.toUInt8

def newline : UInt8 := 10

def carriageReturn : UInt8 := 13

/-- What a `const char *` shows of a string: the bytes before the first NUL. -/
def cString (s : Bytes) : Bytes := s.takeWhile (· != 0)

theorem cString_of_no_nul (s : Bytes) (clean : 0 ∉ s) : cString s = s := by
  apply List.takeWhile_eq_self_iff.mpr
  intro c member
  simpa using fun zero : c = 0 => clean (zero ▸ member)

theorem cString_eq_iff (s : Bytes) : cString s = s ↔ 0 ∉ s := by
  constructor
  · intro same member
    simpa using List.takeWhile_eq_self_iff.mp same 0 member
  · exact cString_of_no_nul s

theorem not_mem_cString (s : Bytes) : 0 ∉ cString s := by
  intro member
  simpa using List.mem_takeWhile_imp member

/-- `StringUtil::CharacterIsSpace`. -/
def isSpace (c : UInt8) : Bool := c == 32 || (9 ≤ c && c ≤ 13)

/-- `StringUtil::CharacterToLower`, ASCII only. -/
def toLower (c : UInt8) : UInt8 := if 65 ≤ c && c ≤ 90 then c + 32 else c

def lower (s : Bytes) : Bytes := s.map toLower

/-- `StringUtil::CIEquals`. -/
def ciEquals (a b : Bytes) : Bool := lower a == lower b

/-- `StringUtil::Trim`: blanks go at both ends. -/
def trim (s : Bytes) : Bytes :=
  ((s.dropWhile isSpace).reverse.dropWhile isSpace).reverse

/-- A text between two bytes that are no blanks is not trimmed. -/
theorem trim_of_ends {first last : UInt8} {text : Bytes} (front : isSpace first = false)
    (back : isSpace last = false) :
    trim (first :: (text ++ [last])) = first :: (text ++ [last]) := by
  simp [trim, front, back]

/-- `StringUtil::StartsWith`. -/
def startsWith (s start : Bytes) : Bool := start.isPrefixOf s

def isDigit (c : UInt8) : Bool := 48 ≤ c && c ≤ 57

/-- The number a run of digits writes in `base`. -/
def digitsValue (base : Nat) (digit : UInt8 → Nat) (run : Bytes) : Nat :=
  run.foldl (fun value c => value * base + digit c) 0

def decimalDigit (c : UInt8) : Nat := c.toNat - 48

/-- `std::to_string` of a positive number. -/
def decimal (n : Nat) : Bytes := (Nat.digits 10 n).reverse.map fun d => (48 + d).toUInt8

/-- An optional `+` or `-`; `true` for minus. -/
def readSign : Bytes → Bool × Bytes
  | 45 :: rest => (true, rest)
  | 43 :: rest => (false, rest)
  | s => (false, s)

/-- `std::stoll` in base ten: `none` where it throws. -/
def stoll (s : Bytes) : Option Int :=
  let (negative, body) := readSign (s.dropWhile isSpace)
  let run := body.takeWhile isDigit
  let magnitude : Int := digitsValue 10 decimalDigit run
  let value := if negative then -magnitude else magnitude
  if run.isEmpty || value < -2 ^ 63 || 2 ^ 63 ≤ value then none else some value

end SplunkLogs
