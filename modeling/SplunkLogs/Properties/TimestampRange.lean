import SplunkLogs.Spec.Timestamps

/-!
# Timestamps and the range of `int64_t`

The ISO path checks the range before it adds the last nanoseconds, the epoch path does not
check it at all. For each kind of reading the values that stay in range are determined.
-/
namespace SplunkLogs

open Foundation

section Products

variable {p : ℚ}

theorem inInt64_of_nonneg (nonneg : 0 ≤ p) :
    InInt64 (roundHalfAway p) ↔ p < 2 ^ 63 - 1 / 2 := by
  have low := roundHalfAway_nonneg nonneg
  have high : roundHalfAway p < 2 ^ 63 ↔ p < 2 ^ 63 - 1 / 2 := by
    have bound := roundHalfAway_lt (n := 2 ^ 63) nonneg
    norm_num at bound ⊢
    exact bound
  rw [← high, InInt64]
  omega

theorem inInt64_of_neg (negative : p < 0) :
    InInt64 (roundHalfAway p) ↔ -2 ^ 63 - 1 / 2 < p := by
  have high := roundHalfAway_nonpos negative.le
  have low : -2 ^ 63 ≤ roundHalfAway p ↔ -2 ^ 63 - 1 / 2 < p := by
    have bound := le_roundHalfAway (n := -2 ^ 63) negative
    norm_num at bound ⊢
    exact bound
  rw [← low, InInt64]
  omega

/-- A product that is rounded to a double and read as an integer. -/
def RoundsInRange (p : ℚ) : Prop :=
  ∃ y, Binary64.ofRat p = .finite y ∧ InInt64 (roundHalfAway y)

theorem not_overflowing {y : ℚ} (bound : y ≤ 2 ^ 63) : ¬(2 : ℚ) ^ (1024 : ℤ) ≤ y := by
  have less : (2 : ℚ) ^ (63 : ℤ) < 2 ^ (1024 : ℤ) := zpow_lt_zpow_right₀ one_lt_two (by omega)
  rw [not_le]
  exact (bound.trans_eq (zpow_natCast 2 63).symm).trans_lt less

/-- The last double before `2 ^ 63` is 1024 below it, so its midpoint decides. -/
theorem roundsInRange_of_pos (positive : 0 < p) : RoundsInRange p ↔ p < 2 ^ 63 - 512 := by
  constructor
  · rintro ⟨y, rounded, inRange⟩
    by_contra beyond
    have reached : (2 : ℚ) ^ (63 : ℤ) ≤ Binary64.nearest p := by
      apply Binary64.power_le_nearest positive (by omega)
      norm_num at beyond ⊢
      linarith
    rw [Binary64.ofRat_pos positive] at rounded
    split at rounded
    · cases rounded
    · obtain rfl := Binary64.finite.inj rounded
      have below := (inInt64_of_nonneg (Binary64.nearest_nonneg positive)).mp inRange
      norm_num at reached below
      linarith
  · intro below
    have bound : Binary64.nearest p ≤ 2 ^ (63 : ℤ) - 2 ^ (63 - 53 : ℤ) := by
      apply Binary64.nearest_le_before_power positive (by omega)
      norm_num at below ⊢
      linarith
    norm_num at bound
    refine ⟨Binary64.nearest p, ?_, ?_⟩
    · rw [Binary64.ofRat_pos positive, if_neg (not_overflowing (by norm_num; linarith))]
    · rw [inInt64_of_nonneg (Binary64.nearest_nonneg positive)]
      norm_num
      linarith

/-- Below zero the power itself is in range, and what rounds to a neighbour is not. -/
theorem roundsInRange_of_neg (negative : p < 0) (inRange : -2 ^ 63 - 1 / 2 < p) :
    RoundsInRange p := by
  have positive : 0 < -p := neg_pos.mpr negative
  have bound : Binary64.nearest (-p) ≤ 2 ^ (63 : ℤ) := by
    apply Binary64.nearest_le_power positive (by omega)
    norm_num at inRange ⊢
    linarith
  norm_num at bound
  refine ⟨-Binary64.nearest (-p), ?_, ?_⟩
  · rw [Binary64.ofRat_neg negative, if_neg (not_overflowing (by norm_num; linarith))]
  · rcases (Binary64.nearest_nonneg positive).lt_or_eq with below | zero
    · rw [inInt64_of_neg (neg_neg_of_pos below)]
      norm_num
      linarith
    · rw [← zero, neg_zero, roundHalfAway_zero]
      decide

/-- Product and exact value both stay in range. -/
theorem product_inRange_iff :
    (InInt64 (roundHalfAway p) ∧ RoundsInRange p) ↔
      -2 ^ 63 - 1 / 2 < p ∧ p < 2 ^ 63 - 512 := by
  rcases lt_trichotomy p 0 with negative | rfl | positive
  · rw [inInt64_of_neg negative]
    constructor
    · rintro ⟨inRange, _⟩
      exact ⟨inRange, by linarith⟩
    · rintro ⟨inRange, _⟩
      exact ⟨inRange, roundsInRange_of_neg negative inRange⟩
  · rw [roundHalfAway_zero]
    refine iff_of_true ⟨by decide, 0, by simp [Binary64.ofRat], ?_⟩ (by norm_num)
    rw [roundHalfAway_zero]
    decide
  · rw [inInt64_of_nonneg positive.le, roundsInRange_of_pos positive]
    constructor
    · rintro ⟨_, below⟩
      exact ⟨by linarith, below⟩
    · rintro ⟨_, below⟩
      exact ⟨by linarith, below⟩

end Products

namespace TimeSource

variable {env : Externals} {time : Option Json}

theorem inRange_epoch_finite (value : ℚ) :
    InRange env (epoch (.finite value)) ↔ Safe (epoch (.finite value)) := by
  have unfolded : InRange env (epoch (.finite value)) ↔
      InInt64 (roundHalfAway (value * unitFactor value)) ∧ ∃ y,
        llroundArgument (.finite value) = .finite y ∧ InInt64 (roundHalfAway y) := by
    constructor
    · rintro ⟨⟨nanos, stands, inRange⟩, defined⟩
      obtain rfl := Option.some.inj stands
      exact ⟨inRange, defined⟩
    · rintro ⟨inRange, defined⟩
      exact ⟨⟨_, rfl, inRange⟩, defined⟩
  rw [unfolded, llroundArgument_finite, Safe]
  split
  next nanoseconds =>
    have factor : (unitFactor value : ℚ) = 1 := by simp [unitFactor, nanoseconds]
    have nonneg : 0 ≤ value := le_trans (by norm_num) nanoseconds
    rw [factor, mul_one, inInt64_of_nonneg nonneg]
    constructor
    · exact And.left
    · intro below
      exact ⟨below, value, rfl, (inInt64_of_nonneg nonneg).mpr below⟩
  · exact product_inRange_iff

theorem not_inRange_epoch {value : Binary64} (special : ∀ x, value ≠ .finite x) :
    ¬InRange env (epoch value) := by
  rintro ⟨⟨nanos, exact_, _⟩, _⟩
  cases value with
  | finite x => exact special x rfl
  | infinite negative => cases exact_
  | nan => cases exact_

theorem inRange_clock (contract : TimestampContract env) {str : Bytes} {result : TimestampTZ}
    (converted : env.tryConvertTimestampTZ str = some result)
    (within : InInt64 (result.micros * 1000)) :
    InRange env (clock result) ↔ Safe (clock result) := by
  obtain ⟨low, high⟩ := contract.subMicroNanos str result converted
  have reached : env.tryGetEpochNanoSeconds result.micros = some (result.micros * 1000) := by
    rw [contract.epochNanos, epochNanoSeconds, if_pos within]
  have sum : InInt64 (result.micros * 1000 + result.subMicroNanos) ↔ Safe (clock result) := by
    unfold InInt64 at within
    rw [Safe, InInt64]
    omega
  constructor
  · rintro ⟨⟨nanos, stands, inRange⟩, _⟩
    obtain rfl := Option.some.inj stands
    exact sum.mp inRange
  · intro safe
    refine ⟨⟨_, rfl, sum.mpr safe⟩, ?_⟩
    intro epochNanos found
    obtain rfl := Option.some.inj (reached.symm.trans found)
    exact sum.mpr safe

theorem isoSource_cases (contract : TimestampContract env) {str : Bytes} {source : TimeSource}
    (chosen : isoSource env str = some source) :
    (∃ nanos, source = strict nanos ∧ env.tryConvertTimestamp str = some nanos) ∨
    ∃ result, source = clock result ∧ env.tryConvertTimestampTZ str = some result ∧
      InInt64 (result.micros * 1000) := by
  unfold isoSource at chosen
  cases converted : env.tryConvertTimestampTZ str with
  | none =>
    rw [converted] at chosen
    obtain ⟨nanos, found, rfl⟩ := Option.map_eq_some_iff.mp chosen
    exact Or.inl ⟨nanos, rfl, found⟩
  | some result =>
    rw [converted] at chosen
    obtain ⟨epochNanos, reached, rfl⟩ := Option.map_eq_some_iff.mp chosen
    rw [contract.epochNanos, epochNanoSeconds] at reached
    split at reached
    next within => exact Or.inr ⟨result, rfl, rfl, within⟩
    · cases reached

theorem timeSource_cases {source : TimeSource} (chosen : timeSource env time = some source) :
    (∃ str, isoSource env str = some source) ∨ ∃ value, source = epoch value := by
  unfold timeSource at chosen
  split at chosen
  next value =>
    split at chosen
    next iso => exact Or.inl ⟨_, iso.trans chosen⟩
    next number _ _ => exact Or.inr ⟨number, (Option.some.inj chosen).symm⟩
    · cases chosen
  next number => exact Or.inr ⟨_, (Option.some.inj chosen).symm⟩
  · cases chosen

/-- One reading stays in range exactly if it is safe. -/
theorem inRange_iff (contract : TimestampContract env) {source : TimeSource}
    (chosen : timeSource env time = some source) : source.InRange env ↔ source.Safe := by
  rcases timeSource_cases chosen with ⟨str, iso⟩ | ⟨value, rfl⟩
  · rcases isoSource_cases contract iso with ⟨nanos, rfl, found⟩ | ⟨result, rfl, found, within⟩
    · exact iff_of_true ⟨⟨nanos, rfl, contract.strict str nanos found⟩, trivial⟩ trivial
    · exact inRange_clock contract found within
  · cases value with
    | finite value => exact inRange_epoch_finite value
    | infinite negative => exact iff_of_false (not_inRange_epoch (by simp)) id
    | nan => exact iff_of_false (not_inRange_epoch (by simp)) id

/-- A reading that is chosen has a value. -/
theorem nanos_of_chosen {source : TimeSource} (chosen : timeSource env time = some source) :
    ∃ nanos, source.nanos env = some nanos := by
  rcases timeSource_cases chosen with ⟨str, iso⟩ | ⟨value, rfl⟩
  · exact isoSource_nanos iso
  · exact ⟨_, rfl⟩

end TimeSource

/-- For every `_time`: an accepted value has an exact meaning in the range of `int64_t` and is
computed by defined operations if and only if its reading is safe. -/
theorem timestamps_in_range_iff {env : Externals} (contract : TimestampContract env)
    (time : Option Json) :
    (∀ nanos, parseSplunkTimeToNanos env time = some nanos →
      ∃ source, timeSource env time = some source ∧ source.nanos env = some nanos ∧
        source.InRange env) ↔
    ∀ source, timeSource env time = some source → source.Safe := by
  rw [parseSplunkTimeToNanos_eq]
  constructor
  · intro inRange source chosen
    obtain ⟨nanos, value⟩ := TimeSource.nanos_of_chosen chosen
    obtain ⟨other, same, _, within⟩ := inRange nanos (by rw [chosen]; exact value)
    obtain rfl := Option.some.inj (chosen.symm.trans same)
    exact (TimeSource.inRange_iff contract chosen).mp within
  · intro safe nanos parsed
    obtain ⟨source, chosen, value⟩ := Option.bind_eq_some_iff.mp parsed
    exact ⟨source, chosen, value,
      (TimeSource.inRange_iff contract chosen).mpr (safe source chosen)⟩

/-- Timestamp functions that reject every text and count the nanoseconds as promised. -/
def noClock : Externals := { Externals.ofRecords [] with
  tryGetEpochNanoSeconds := epochNanoSeconds }

theorem noClock_contract : TimestampContract noClock := by
  constructor
  · intro str result converted; cases converted
  · intro str nanos converted; cases converted
  · intro micros; rfl

theorem timestamps_in_range_second :
    ∃ source, timeSource noClock (some (.num (.uint 1720000000))) = some source ∧
      source.InRange noClock := by
  have safe : ∀ source, timeSource noClock (some (.num (.uint 1720000000))) = some source →
      source.Safe := by
    intro source chosen
    have whole : Binary64.ofRat (1720000000 : Nat) = .finite (1720000000 : Nat) :=
      Binary64.ofRat_of_lt (by norm_num)
    obtain rfl : TimeSource.epoch (.finite (1720000000 : Nat)) = source := by
      rw [← whole]
      exact Option.some.inj chosen
    norm_num [TimeSource.Safe, unitFactor]
  obtain ⟨source, chosen, _, inRange⟩ :=
    (timestamps_in_range_iff noClock_contract _).mpr safe _ rfl
  exact ⟨source, chosen, inRange⟩

/-- An epoch number beyond the range is accepted and handed to `llround` all the same. -/
theorem epoch_out_of_range :
    TimestampContract noClock ∧
    (parseSplunkTimeToNanos noClock (some (.num (.uint (10 ^ 19))))).isSome = true ∧
    ¬∃ source, timeSource noClock (some (.num (.uint (10 ^ 19)))) = some source ∧
      source.InRange noClock := by
  refine ⟨noClock_contract, rfl, ?_⟩
  rintro ⟨source, chosen, inRange⟩
  have whole : Binary64.ofRat (10 ^ 19 : Nat) = .finite (10 ^ 19 : Nat) :=
    Binary64.ofRat_representable (show 10 ^ 19 < 2 ^ 64 by norm_num) (by decide)
      ⟨5 ^ 19, 19, by norm_num, by norm_num⟩
  have safe := (TimeSource.inRange_iff noClock_contract chosen).mp inRange
  obtain rfl : TimeSource.epoch (.finite (10 ^ 19 : Nat)) = source := by
    rw [← whole]
    exact Option.some.inj chosen
  norm_num [TimeSource.Safe] at safe

end SplunkLogs
