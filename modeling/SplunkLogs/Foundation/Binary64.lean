import Mathlib.Algebra.Order.Round
import Mathlib.Data.Rat.Floor

/-!
# Binary64 arithmetic over the rationals

A finite value stands for the rational it denotes. Every operation computes the exact
rational result and rounds it to the nearest representable one, ties to even.
-/
namespace Foundation

/-- A binary64 value. The sign of zero is not kept. -/
inductive Binary64 where
  | finite (value : ℚ)
  | infinite (negative : Bool)
  | nan
  deriving DecidableEq

/-- `⌊log₂ q⌋` of a positive rational. -/
def floorLog2 (q : ℚ) : ℤ :=
  let guess : ℤ := (Nat.log2 q.num.natAbs : ℤ) - Nat.log2 q.den
  if (2 : ℚ) ^ guess ≤ q then guess else guess - 1

/-- The nearest integer, ties to the even one. -/
def roundHalfEven (q : ℚ) : ℤ :=
  let below := ⌊q⌋
  let rest := q - below
  if rest < 1 / 2 then below
  else if 1 / 2 < rest then below + 1
  else if below % 2 = 0 then below else below + 1

/-- The nearest integer, ties away from zero. -/
def roundHalfAway (q : ℚ) : ℤ := if 0 ≤ q then ⌊q + 1 / 2⌋ else -⌊-q + 1 / 2⌋

namespace Binary64

/-- Rounding to 53 significant bits, gradual underflow and overflow to an infinity. -/
def ofRat (q : ℚ) : Binary64 :=
  if q = 0 then .finite 0
  else
    -- The weight of the last bit, which stops falling at the subnormal numbers.
    let exponent := max (floorLog2 |q| - 52) (-1074)
    let magnitude : ℚ := roundHalfEven (|q| / 2 ^ exponent) * 2 ^ exponent
    if (2 : ℚ) ^ (1024 : ℤ) ≤ magnitude then .infinite (decide (q < 0))
    else .finite (if q < 0 then -magnitude else magnitude)

def mul : Binary64 → Binary64 → Binary64
  | .nan, _ => .nan
  | _, .nan => .nan
  | .finite a, .finite b => ofRat (a * b)
  | .infinite negative, .finite b =>
    if b = 0 then .nan else .infinite (negative != decide (b < 0))
  | .finite a, .infinite negative =>
    if a = 0 then .nan else .infinite (negative != decide (a < 0))
  | .infinite a, .infinite b => .infinite (a != b)

/-- `x >= bound`, false for a NaN. -/
def atLeast : Binary64 → ℚ → Bool
  | .finite value, bound => decide (bound ≤ value)
  | .infinite negative, _ => !negative
  | .nan, _ => false

end Binary64

end Foundation
