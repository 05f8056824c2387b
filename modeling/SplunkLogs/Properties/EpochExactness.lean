import SplunkLogs.Properties.TimestampRange

/-!
# Integer epochs

An epoch that is written as an integer passes through a double twice, on reading and in the
product with its unit. What comes out is the exact number of nanoseconds if these have at most
53 significant bits, and never otherwise.
-/
namespace SplunkLogs

open Foundation

/-- The digits of `v`, as a JSON number or in a string. -/
inductive WritesEpoch (v : Nat) : Json → Prop where
  | number {number : JsonNumber} : number.toDouble = Binary64.ofRat v →
      WritesEpoch v (.num number)
  | digits {text : Bytes} : text ≠ [] → (∀ c ∈ text, isDigit c = true) →
      digitsValue 10 decimalDigit text = v → WritesEpoch v (.str text)

/-- A run of digits is no date. -/
def DigitsRejected (env : Externals) : Prop :=
  ∀ text, (∀ c ∈ text, isDigit c = true) →
    env.tryConvertTimestampTZ text = none ∧ env.tryConvertTimestamp text = none

/-- The same functions on a machine with that value where `llround` is unspecified. -/
def Externals.onMachine (env : Externals) (llroundUndefined : Binary64 → Int) : Externals :=
  { env with llroundUndefined }

section Digits

variable {text : Bytes} (digits : ∀ c ∈ text, isDigit c = true)

theorem isDigit_toNat {c : UInt8} (digit : isDigit c = true) : 48 ≤ c.toNat ∧ c.toNat ≤ 57 := by
  simpa [isDigit, UInt8.le_iff_toNat_le] using digit

include digits

theorem readSign_digits : readSign text = (false, text) := by
  unfold readSign
  split
  next rest => exact absurd (digits 45 List.mem_cons_self) (by decide)
  next rest => exact absurd (digits 43 List.mem_cons_self) (by decide)
  · rfl

theorem dropWhile_isSpace_digits : text.dropWhile isSpace = text := by
  rcases text with _ | ⟨c, rest⟩
  · rfl
  · have bounds := isDigit_toNat (digits c List.mem_cons_self)
    have solid : isSpace c = false := by
      simp only [isSpace, Bool.or_eq_false_iff, beq_eq_false_iff_ne, Bool.and_eq_false_iff,
        decide_eq_false_iff_not, UInt8.le_iff_toNat_le, ne_eq, ← UInt8.toNat_inj, UInt8.reduceToNat]
      omega
    rw [List.dropWhile_cons, solid]
    rfl

theorem lower_digits : lower text = text := by
  have unchanged : ∀ c ∈ text, toLower c = id c := by
    intro c member
    have bounds := isDigit_toNat (digits c member)
    apply if_neg
    simp only [Bool.and_eq_true, decide_eq_true_eq, UInt8.le_iff_toNat_le, UInt8.reduceToNat]
    omega
  rw [lower, List.map_congr_left unchanged, List.map_id]

/-- No word with another character starts a run of digits. -/
theorem startsWith_digits {word : Bytes} (other : ∃ c ∈ word, isDigit c = false) :
    startsWith text word = false := by
  rw [Bool.eq_false_iff]
  intro starts
  obtain ⟨c, member, noDigit⟩ := other
  have inside := (List.isPrefixOf_iff_prefix.mp starts).subset member
  rw [digits c inside] at noDigit
  cases noDigit

theorem readMantissa_digits (filled : text ≠ []) :
    readMantissa 10 isDigit decimalDigit text =
      some (digitsValue 10 decimalDigit text, 0, []) := by
  have all : text.span isDigit = (text, []) := by
    rw [List.span_eq_takeWhile_dropWhile, List.takeWhile_eq_self_iff.mpr digits,
      List.dropWhile_eq_nil_iff.mpr digits]
  have nonempty : text.isEmpty = false := by simpa using filled
  simp only [readMantissa, all, nonempty, Bool.false_eq_true, if_false]

theorem readMagnitude_digits (filled : text ≠ []) :
    readMagnitude text = some (.inl (digitsValue 10 decimalDigit text), []) := by
  have noWord : ∀ word : Bytes, (∃ c ∈ word, isDigit c = false) →
      startsWith (lower text) word = false := by
    intro word other
    rw [lower_digits digits]
    exact startsWith_digits digits other
  unfold readMagnitude
  rw [noWord (ascii "infinity") (by decide), noWord (ascii "inf") (by decide),
    noWord (ascii "nan") (by decide), noWord (ascii "0x") (by decide)]
  simp [readMantissa_digits digits filled, readExponent]

/-- `strtod` takes the whole run and rounds the number it writes. -/
theorem strtod_digits (filled : text ≠ []) :
    strtod text = some (Binary64.ofRat (digitsValue 10 decimalDigit text : Nat), []) := by
  simp [strtod, dropWhile_isSpace_digits digits, readSign_digits digits,
    readMagnitude_digits digits filled]

theorem cString_digits : cString text = text := by
  apply cString_of_no_nul
  intro nul
  exact absurd (digits 0 nul) (by decide)

end Digits

/-- Number and string are read as the same double. -/
theorem parse_writesEpoch (env : Externals) (rejected : DigitsRejected env) {v : Nat}
    {time : Json} (writes : WritesEpoch v time) :
    parseSplunkTimeToNanos env (some time) =
      some (llround env (TimeSource.llroundArgument (Binary64.ofRat v))) := by
  rw [← epochToNanos_eq]
  cases writes with
  | number same => rw [parseSplunkTimeToNanos, same]
  | @digits text filled digits written =>
    obtain ⟨noZone, noStrict⟩ := rejected text digits
    have noIso : parseIso8601ToNanos env text = none := by
      rw [parseIso8601ToNanos, noZone]
      exact noStrict
    simp [parseSplunkTimeToNanos, cString_digits digits, noIso, strtod_digits digits filled,
      written]

section Exactness

variable {env : Externals} {v : Nat}

theorem unitFactor_natCast (v : Nat) :
    unitFactor v = if 10 ^ 16 ≤ v then 1 else if 10 ^ 13 ≤ v then 10 ^ 3
      else if 10 ^ 10 ≤ v then 10 ^ 6 else 10 ^ 9 := by
  have bound : ∀ k : Nat, (10 : ℚ) ^ k ≤ v ↔ 10 ^ k ≤ v := by
    intro k
    exact_mod_cast Iff.rfl
  simp only [unitFactor, bound]

theorem unitFactor_pos (q : ℚ) : 0 < unitFactor q := by
  unfold unitFactor
  split_ifs <;> norm_num

/-- Whatever `llround` is given as a finite argument is the result of a rounding. -/
theorem llroundArgument_rounded {q y : ℚ}
    (finite : TimeSource.llroundArgument (Binary64.ofRat q) = .finite y) :
    ∃ z, Binary64.ofRat z = .finite y := by
  cases rounded : Binary64.ofRat q with
  | finite x =>
    rw [rounded, TimeSource.llroundArgument_finite] at finite
    split at finite
    · exact ⟨q, rounded.trans finite⟩
    · exact ⟨_, finite⟩
  | infinite negative =>
    rw [rounded] at finite
    cases negative <;>
      simp [TimeSource.llroundArgument, Binary64.atLeast, ofRat_ten_pow, Binary64.mul] at finite
  | nan =>
    rw [rounded] at finite
    simp [TimeSource.llroundArgument, Binary64.atLeast, Binary64.mul] at finite

/-- A defined result has at most 53 significant bits. -/
theorem representable_of_llround {q : ℚ} {n : Nat}
    (result : llround env (TimeSource.llroundArgument (Binary64.ofRat q)) = n)
    (other : ∀ x, env.llroundUndefined x ≠ n) : Representable n := by
  unfold llround at result
  split at result
  next y finite =>
    split at result
    · obtain ⟨z, rounded⟩ := llroundArgument_rounded finite
      exact Binary64.representable_of_round rounded result
    · exact absurd result (other _)
  · exact absurd result (other _)

/-- If the product with the unit fits 53 bits, so does the number itself. -/
theorem representable_of_product (short : Representable (v * unitFactor v)) :
    Representable v := by
  by_cases small : v < 2 ^ 53
  · exact representable_of_lt small
  · rw [unitFactor_natCast] at short
    by_cases nanoseconds : 10 ^ 16 ≤ v
    · rwa [if_pos nanoseconds, mul_one] at short
    · -- Microseconds near the end of the range: the factor supplies three of ten zero bits.
      have microseconds : 10 ^ 13 ≤ v := by omega
      rw [if_neg nanoseconds, if_pos microseconds] at short
      obtain ⟨m, e, mantissa, same⟩ := short
      have tail : 10 ≤ e := by
        by_contra few
        have bound : 2 ^ e ≤ 2 ^ 9 := Nat.pow_le_pow_right two_pos (by omega)
        have product : m * 2 ^ e ≤ 2 ^ 53 * 2 ^ 9 := Nat.mul_le_mul mantissa.le bound
        omega
      obtain ⟨k, rfl⟩ := Nat.exists_eq_add_of_le tail
      have zeros : 1000 * v = 1024 * (m * 2 ^ k) := by
        calc 1000 * v = v * 10 ^ 3 := by ring
          _ = m * 2 ^ (10 + k) := same
          _ = 1024 * (m * 2 ^ k) := by rw [pow_add]; ring
      exact ⟨v / 128, 7, by omega, by omega⟩

/-- A product of at most 53 significant bits goes through both roundings unchanged. -/
theorem llround_exact (env : Externals) (inRange : v * unitFactor v < 2 ^ 63)
    (short : Representable (v * unitFactor v)) :
    llround env (TimeSource.llroundArgument (Binary64.ofRat v)) = (v * unitFactor v : Nat) := by
  have below : v < 2 ^ 63 :=
    (Nat.le_mul_of_pos_right v (unitFactor_pos v)).trans_lt inRange
  have number : Binary64.ofRat v = .finite v :=
    Binary64.ofRat_representable below (by decide) (representable_of_product short)
  have product : Binary64.ofRat ((v * unitFactor v : Nat) : ℚ) =
      .finite ((v * unitFactor v : Nat) : ℚ) :=
    Binary64.ofRat_representable inRange (by decide) short
  have argument : TimeSource.llroundArgument (.finite v) =
      .finite ((v * unitFactor v : Nat) : ℚ) := by
    rw [TimeSource.llroundArgument_finite]
    split
    next nanoseconds => simp [unitFactor, nanoseconds]
    · rw [← product]
      push_cast
      rfl
  have read : roundHalfAway ((v * unitFactor v : Nat) : ℚ) = (v * unitFactor v : Nat) :=
    roundHalfAway_intCast _
  have fits : InInt64 ((v * unitFactor v : Nat) : Int) := by
    unfold InInt64
    omega
  rw [number, argument, llround, read, if_pos fits]

end Exactness

/-- For every non-negative integer epoch in range: number and string give the exact number of
nanoseconds on every machine, and every other writing of the instant gives the same, if and
only if that number has at most 53 significant bits. -/
theorem integer_epoch_exact_iff {env : Externals} (rejected : DigitsRejected env) {v : Nat}
    {time : Json} (writes : WritesEpoch v time) (inRange : v * unitFactor v < 2 ^ 63) :
    (∀ machine,
      parseSplunkTimeToNanos (env.onMachine machine) (some time) =
        some ((v * unitFactor v : Nat) : Int) ∧
      ∀ w other, WritesEpoch w other → w * unitFactor w = v * unitFactor v →
        parseSplunkTimeToNanos (env.onMachine machine) (some other) =
          parseSplunkTimeToNanos (env.onMachine machine) (some time)) ↔
    Representable (v * unitFactor v) := by
  have read : ∀ machine w other, WritesEpoch w other →
      parseSplunkTimeToNanos (env.onMachine machine) (some other) =
        some (llround (env.onMachine machine) (TimeSource.llroundArgument (Binary64.ofRat w))) :=
    fun machine w other => parse_writesEpoch (env.onMachine machine) rejected
  constructor
  · intro exact_
    -- A machine whose unspecified results are negative.
    have result := (exact_ fun _ => -1).1
    rw [read _ v time writes] at result
    apply representable_of_llround (Option.some.inj result)
    intro x
    show (-1 : Int) ≠ _
    omega
  · intro short machine
    have value := llround_exact (env.onMachine machine) inRange short
    constructor
    · rw [read machine v time writes, value]
    · intro w other written same
      have sameShort : Representable (w * unitFactor w) := by rwa [same]
      have otherValue := llround_exact (env.onMachine machine) (by rwa [same]) sameShort
      rw [read machine v time writes, read machine w other written, value, otherValue, same]

theorem noClock_digits : DigitsRejected noClock := fun _ _ => ⟨rfl, rfl⟩

/-- A whole second, in a string. -/
theorem integer_epoch_exact_second :
    parseSplunkTimeToNanos noClock (some (.str (ascii "1720000000"))) =
      some 1720000000000000000 := by
  have factor : unitFactor ((1720000000 : Nat) : ℚ) = 10 ^ 9 := by
    rw [unitFactor_natCast]
    norm_num
  have writes : WritesEpoch 1720000000 (.str (ascii "1720000000")) :=
    .digits (by decide) (List.all_eq_true.mp (by decide)) (by decide)
  have short : Representable (1720000000 * 10 ^ 9) :=
    ⟨1720000000 * 5 ^ 9, 9, by norm_num, by norm_num⟩
  have result := ((integer_epoch_exact_iff noClock_digits writes (by rw [factor]; norm_num)).mpr
    (by rwa [factor]) noClock.llroundUndefined).1
  rwa [factor] at result

/-- Milliseconds whose nanoseconds take more than 53 bits. -/
theorem milliseconds_inexact :
    DigitsRejected noClock ∧ WritesEpoch 1720000000123 (.num (.uint 1720000000123)) ∧
    1720000000123 * unitFactor (1720000000123 : Nat) = 1720000000123000000 ∧
    parseSplunkTimeToNanos noClock (some (.num (.uint 1720000000123))) ≠
      some 1720000000123000000 := by
  have writes : WritesEpoch 1720000000123 (.num (.uint 1720000000123)) := .number rfl
  refine ⟨noClock_digits, writes, ?_, ?_⟩
  · rw [unitFactor_natCast]
    norm_num
  · intro same
    rw [parse_writesEpoch noClock noClock_digits writes] at same
    have short : Representable 1720000000123000000 := by
      apply representable_of_llround (Option.some.inj same)
      intro x
      show (0 : Int) ≠ _
      decide
    obtain ⟨m, e, mantissa, product⟩ := short
    -- Six zero bits at the end are too few, and there are no more.
    rcases Nat.lt_or_ge e 7 with few | many
    · have bound : m * 2 ^ e ≤ m * 2 ^ 6 :=
        Nat.mul_le_mul_left m (Nat.pow_le_pow_right two_pos (by omega))
      omega
    · obtain ⟨k, rfl⟩ := Nat.exists_eq_add_of_le many
      have zeros : 1720000000123000000 = 128 * (m * 2 ^ k) := by
        rw [product, pow_add]
        ring
      omega

end SplunkLogs
