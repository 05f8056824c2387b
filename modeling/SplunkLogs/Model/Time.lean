import SplunkLogs.Model.Json

/-! Reading Splunk's `_time` as nanoseconds since the epoch. -/
namespace SplunkLogs

open Foundation (Binary64 roundHalfAway)

/-- The bounds of `int64_t`. -/
def InInt64 (n : Int) : Prop := -2 ^ 63 ≤ n ∧ n < 2 ^ 63

instance (n : Int) : Decidable (InInt64 n) := inferInstanceAs (Decidable (_ ∧ _))

/-- `std::llround`, unspecified outside `int64_t`. -/
def llround (env : Externals) (x : Binary64) : Int :=
  match x with
  | .finite value =>
    if InInt64 (roundHalfAway value) then roundHalfAway value else env.llroundUndefined x
  | _ => env.llroundUndefined x

def isHexDigit (c : UInt8) : Bool :=
  isDigit c || (65 ≤ c && c ≤ 70) || (97 ≤ c && c ≤ 102)

def hexDigit (c : UInt8) : Nat :=
  if isDigit c then decimalDigit c else (toLower c).toNat - 87

/-- Digits with an optional point: the mantissa as an integer, how many digits follow the
point, and the rest. `none` where no digit stands on either side. -/
def readMantissa (base : Nat) (accepts : UInt8 → Bool) (digit : UInt8 → Nat) (s : Bytes) :
    Option (Nat × Nat × Bytes) :=
  let (whole, rest) := s.span accepts
  match rest with
  | 46 :: after =>
    let (fraction, tail) := after.span accepts
    if whole.isEmpty && fraction.isEmpty then none
    else some (digitsValue base digit (whole ++ fraction), fraction.length, tail)
  | _ => if whole.isEmpty then none else some (digitsValue base digit whole, 0, rest)

/-- An exponent behind `marker`. Without a digit in it nothing is consumed. -/
def readExponent (marker : UInt8) (s : Bytes) : Int × Bytes :=
  match s with
  | c :: rest =>
    if toLower c == marker then
      let (negative, body) := readSign rest
      let (run, tail) := body.span isDigit
      if run.isEmpty then (0, s)
      else
        let magnitude : Int := digitsValue 10 decimalDigit run
        (if negative then -magnitude else magnitude, tail)
    else (0, s)
  | [] => (0, [])

/-- What may follow `nan`: a parenthesised run of letters, digits and underscores. -/
def skipNanPayload (s : Bytes) : Bytes :=
  match s with
  | 40 :: rest =>
    let tail := rest.dropWhile fun c => isDigit c || (97 ≤ toLower c && toLower c ≤ 122) || c == 95
    match tail with
    | 41 :: after => after
    | _ => s
  | _ => s

/-- The unsigned number `strtod` finds at the start of `s`, and the rest. -/
def readMagnitude (s : Bytes) : Option ((ℚ ⊕ Binary64) × Bytes) :=
  if startsWith (lower s) (ascii "infinity") then some (.inr (.infinite false), s.drop 8)
  else if startsWith (lower s) (ascii "inf") then some (.inr (.infinite false), s.drop 3)
  else if startsWith (lower s) (ascii "nan") then some (.inr .nan, skipNanPayload (s.drop 3))
  else
    -- A `0x` without a digit behind it is read as the number 0.
    let hex := if startsWith (lower s) (ascii "0x")
      then readMantissa 16 isHexDigit hexDigit (s.drop 2) else none
    match hex with
    | some (mantissa, places, rest) =>
      let (exponent, tail) := readExponent 112 rest
      some (.inl (mantissa * 2 ^ (exponent - 4 * places)), tail)
    | none => do
      let (mantissa, places, rest) ← readMantissa 10 isDigit decimalDigit s
      let (exponent, tail) := readExponent 101 rest
      some (.inl (mantissa * 10 ^ (exponent - places)), tail)

/-- `std::strtod`: the value and what follows it, `none` where nothing is converted. -/
def strtod (s : Bytes) : Option (Binary64 × Bytes) := do
  let (negative, body) := readSign (s.dropWhile isSpace)
  let (magnitude, rest) ← readMagnitude body
  match magnitude with
  | .inl q => some (Binary64.ofRat (if negative then -q else q), rest)
  | .inr (.infinite _) => some (.infinite negative, rest)
  | .inr other => some (other, rest)

/-- Signed overflow of the sum is undefined in C++ and wraps here. -/
def addInt64 (a b : Int) : Int := Int.bmod (a + b) (2 ^ 64)

def parseIso8601ToNanos (env : Externals) (str : Bytes) : Option Int :=
  match env.tryConvertTimestampTZ str with
  -- The strict parser without offsets comes second.
  | none => env.tryConvertTimestamp str
  | some result =>
    match env.tryGetEpochNanoSeconds result.micros with
    | none => none
    | some epochNanos => some (addInt64 epochNanos result.subMicroNanos)

/-- The unit of a numeric epoch is told from its magnitude. -/
def epochToNanos (env : Externals) (value : Binary64) : Int :=
  if value.atLeast (10 ^ 16) then llround env value
  else if value.atLeast (10 ^ 13) then llround env (value.mul (Binary64.ofRat (10 ^ 3)))
  else if value.atLeast (10 ^ 10) then llround env (value.mul (Binary64.ofRat (10 ^ 6)))
  else llround env (value.mul (Binary64.ofRat (10 ^ 9)))

def parseSplunkTimeToNanos (env : Externals) (timeVal : Option Json) : Option Int :=
  match timeVal with
  | some (.str value) =>
    let str := cString value
    match parseIso8601ToNanos env str with
    | some nanos => some nanos
    | none =>
      -- The whole C string must be a number.
      match strtod str with
      | some (number, []) => some (epochToNanos env number)
      | _ => none
  | some (.num number) => some (epochToNanos env number.toDouble)
  | _ => none

end SplunkLogs
