import Mathlib.Algebra.Order.Field.Power
import Mathlib.Tactic.Linarith
import SplunkLogs.Foundation.Binary64

/-!
# Bounds and exactness of binary64 rounding

Rounding is monotone where it is compared with a multiple of a power of two that is no finer
than the last bit. Multiples with at most 53 significant bits are left as they are.
-/
namespace Foundation

section Integers

variable {q : ℚ} {n : ℤ}

theorem roundHalfEven_le (below : q < n + 1 / 2) : roundHalfEven q ≤ n := by
  have low : ⌊q⌋ ≤ q := Int.floor_le q
  have floorLe : ⌊q⌋ ≤ n := by
    have near : (⌊q⌋ : ℚ) < (n + 1 : ℤ) := by push_cast; linarith
    exact Int.lt_add_one_iff.mp (Int.cast_lt.mp near)
  unfold roundHalfEven
  rcases floorLe.lt_or_eq with less | same
  · dsimp only
    split_ifs <;> omega
  · have rest : q - ⌊q⌋ < 1 / 2 := by rw [same]; linarith
    rw [if_pos rest]
    exact floorLe

theorem le_roundHalfEven_of_tie (above : n - 1 / 2 ≤ q) (even : q = n - 1 / 2 → n % 2 = 0) :
    n ≤ roundHalfEven q := by
  have high : q < ⌊q⌋ + 1 := Int.lt_floor_add_one q
  have leFloor : n - 1 ≤ ⌊q⌋ := by
    have near : ((n - 1 : ℤ) : ℚ) < (⌊q⌋ + 1 : ℤ) := by push_cast; linarith
    exact Int.lt_add_one_iff.mp (Int.cast_lt.mp near)
  unfold roundHalfEven
  rcases leFloor.lt_or_eq with less | same
  · dsimp only
    split_ifs <;> omega
  · have below : (⌊q⌋ : ℚ) = n - 1 := by rw [← same]; push_cast; ring
    have rest : ¬q - ⌊q⌋ < 1 / 2 := by rw [below]; linarith
    rw [if_neg rest]
    split
    · omega
    next half =>
      -- At the tie the lower neighbour is odd.
      have tie : q = n - 1 / 2 := by rw [below] at half; linarith
      have parity := even tie
      rw [if_neg (by omega)]
      omega

theorem le_roundHalfEven (above : n - 1 / 2 < q) : n ≤ roundHalfEven q :=
  le_roundHalfEven_of_tie above.le fun tie => absurd tie above.ne'

theorem roundHalfAway_intCast (n : ℤ) : roundHalfAway n = n := by
  have floor : ∀ k : ℤ, ⌊(k : ℚ) + 1 / 2⌋ = k := by
    intro k
    rw [Int.floor_eq_iff]
    constructor <;> linarith
  unfold roundHalfAway
  split
  · exact floor n
  · rw [← Int.cast_neg, floor, neg_neg]

theorem roundHalfAway_lt (nonneg : 0 ≤ q) : roundHalfAway q < n ↔ q < n - 1 / 2 := by
  rw [roundHalfAway, if_pos nonneg, Int.floor_lt]
  constructor <;> intro below <;> linarith

theorem le_roundHalfAway (negative : q < 0) : n ≤ roundHalfAway q ↔ n - 1 / 2 < q := by
  have neg : ((-n + 1 : ℤ) : ℚ) = -n + 1 := by push_cast; ring
  rw [roundHalfAway, if_neg negative.not_ge, le_neg, ← Int.lt_add_one_iff, Int.floor_lt, neg]
  constructor <;> intro above <;> linarith

theorem roundHalfAway_nonneg (nonneg : 0 ≤ q) : 0 ≤ roundHalfAway q := by
  rw [roundHalfAway, if_pos nonneg]
  exact Int.floor_nonneg.mpr (by linarith)

theorem roundHalfAway_zero : roundHalfAway 0 = 0 := by
  simpa using roundHalfAway_intCast 0

theorem roundHalfAway_nonpos (nonpos : q ≤ 0) : roundHalfAway q ≤ 0 := by
  rcases nonpos.lt_or_eq with negative | rfl
  · rw [roundHalfAway, if_neg negative.not_ge]
    exact neg_nonpos.mpr (Int.floor_nonneg.mpr (by linarith))
  · exact roundHalfAway_zero.le

end Integers

section Exponents

variable {q : ℚ}

theorem two_zpow_pos (e : ℤ) : (0 : ℚ) < 2 ^ e := zpow_pos two_pos e

theorem log2_bounds {n : ℕ} (positive : n ≠ 0) :
    (2 : ℚ) ^ (n.log2 : ℤ) ≤ n ∧ (n : ℚ) < 2 ^ (n.log2 + 1 : ℤ) := by
  constructor
  · rw [zpow_natCast]
    exact_mod_cast Nat.log2_self_le positive
  · have above : n < 2 ^ (n.log2 + 1) := Nat.lt_log2_self
    exact_mod_cast above

/-- The quotient of the leading powers is off by one at most. -/
theorem quotient_bounds {n d : ℚ} {a b : ℤ} (num : (2 : ℚ) ^ a ≤ n ∧ n < 2 ^ (a + 1))
    (den : (2 : ℚ) ^ b ≤ d ∧ d < 2 ^ (b + 1)) :
    (2 : ℚ) ^ (a - b - 1) ≤ n / d ∧ n / d < 2 ^ (a - b + 1) := by
  have positive : 0 < d := (two_zpow_pos b).trans_le den.1
  constructor
  · rw [le_div_iff₀ positive]
    calc (2 : ℚ) ^ (a - b - 1) * d ≤ 2 ^ (a - b - 1) * 2 ^ (b + 1) :=
          mul_le_mul_of_nonneg_left den.2.le (two_zpow_pos _).le
      _ = 2 ^ a := by rw [← zpow_add₀ two_ne_zero]; congr 1; ring
      _ ≤ n := num.1
  · rw [div_lt_iff₀ positive]
    calc n < 2 ^ (a + 1) := num.2
      _ = 2 ^ (a - b + 1) * 2 ^ b := by rw [← zpow_add₀ two_ne_zero]; congr 1; ring
      _ ≤ 2 ^ (a - b + 1) * d := mul_le_mul_of_nonneg_left den.1 (two_zpow_pos _).le

theorem floorLog2_spec (positive : 0 < q) :
    (2 : ℚ) ^ floorLog2 q ≤ q ∧ q < 2 ^ (floorLog2 q + 1) := by
  have num : q.num.natAbs ≠ 0 := by simpa using positive.ne'
  have fraction : (q.num.natAbs : ℚ) / q.den = q := by
    rw [Nat.cast_natAbs, abs_of_pos (Rat.num_pos.mpr positive), Rat.num_div_den]
  obtain ⟨low, high⟩ := quotient_bounds (log2_bounds num) (log2_bounds q.den_pos.ne')
  rw [fraction] at low high
  unfold floorLog2
  dsimp only
  split
  next reached => exact ⟨reached, high⟩
  next missed =>
    refine ⟨low, ?_⟩
    rw [sub_add_cancel]
    exact not_le.mp missed

theorem floorLog2_lt {k : ℤ} (positive : 0 < q) (below : q < 2 ^ k) : floorLog2 q < k :=
  (zpow_lt_zpow_iff_right₀ one_lt_two).mp ((floorLog2_spec positive).1.trans_lt below)

theorem le_floorLog2 {k : ℤ} (positive : 0 < q) (above : 2 ^ k ≤ q) : k ≤ floorLog2 q :=
  Int.lt_add_one_iff.mp
    ((zpow_lt_zpow_iff_right₀ one_lt_two).mp (above.trans_lt (floorLog2_spec positive).2))

end Exponents

namespace Binary64

/-- The exponent of the last bit of a positive value. -/
def lastBit (q : ℚ) : ℤ := max (floorLog2 q - 52) (-1074)

/-- The nearest multiple of the last bit. -/
def nearest (q : ℚ) : ℚ := roundHalfEven (q / 2 ^ lastBit q) * 2 ^ lastBit q

variable {q : ℚ} {m e : ℤ}

theorem ofRat_pos (positive : 0 < q) :
    ofRat q = if (2 : ℚ) ^ (1024 : ℤ) ≤ nearest q then .infinite false
      else .finite (nearest q) := by
  simp [ofRat, positive.ne', abs_of_pos positive, positive.not_gt, nearest, lastBit]

theorem ofRat_neg (negative : q < 0) :
    ofRat q = if (2 : ℚ) ^ (1024 : ℤ) ≤ nearest (-q) then .infinite true
      else .finite (-nearest (-q)) := by
  simp [ofRat, negative.ne, abs_of_neg negative, negative, nearest, lastBit]

/-- A multiple of a coarser power of two is a whole number of last bits. -/
theorem grid (coarse : lastBit q ≤ e) :
    (m * 2 ^ e : ℚ) = (m * 2 ^ (e - lastBit q).toNat : ℤ) * 2 ^ lastBit q := by
  have exponent : e = ((e - lastBit q).toNat : ℤ) + lastBit q := by omega
  conv_lhs => rw [exponent, zpow_add₀ two_ne_zero, zpow_natCast]
  push_cast
  ring

theorem nearest_le (coarse : lastBit q ≤ e) (below : q ≤ m * 2 ^ e) :
    nearest q ≤ m * 2 ^ e := by
  rw [grid coarse] at below ⊢
  refine mul_le_mul_of_nonneg_right ?_ (two_zpow_pos _).le
  have quotient := (div_le_iff₀ (two_zpow_pos (lastBit q))).mpr below
  exact Int.cast_le.mpr (roundHalfEven_le (by linarith))

theorem le_nearest (coarse : lastBit q ≤ e) (above : m * 2 ^ e ≤ q) :
    m * 2 ^ e ≤ nearest q := by
  rw [grid coarse] at above ⊢
  refine mul_le_mul_of_nonneg_right ?_ (two_zpow_pos _).le
  have quotient := (le_div_iff₀ (two_zpow_pos (lastBit q))).mpr above
  exact Int.cast_le.mpr (le_roundHalfEven (by linarith))

theorem nearest_nonneg (positive : 0 < q) : 0 ≤ nearest q := by
  simpa using le_nearest (m := 0) le_rfl (by simpa using positive.le)

/-- A value with at most 53 significant bits is its own nearest one. -/
theorem nearest_eq (positive : 0 < q) (short : m < 2 ^ 53) (normal : -1074 ≤ e)
    (same : q = m * 2 ^ e) : nearest q = q := by
  have below : q < 2 ^ (53 + e) := by
    rw [same, zpow_add₀ two_ne_zero]
    have mantissa : (m : ℚ) < 2 ^ (53 : ℤ) := by exact_mod_cast short
    exact mul_lt_mul_of_pos_right mantissa (two_zpow_pos e)
  have coarse : lastBit q ≤ e := by
    have bound := floorLog2_lt positive below
    exact max_le (by omega) normal
  apply le_antisymm
  · exact (nearest_le coarse same.le).trans same.ge
  · exact same.le.trans (le_nearest coarse same.ge)

/-- The nearest value is a mantissa of at most 53 bits times the last bit. -/
theorem nearest_form (positive : 0 < q) :
    ∃ n : ℤ, 0 ≤ n ∧ n ≤ 2 ^ 53 ∧ nearest q = n * 2 ^ lastBit q := by
  refine ⟨roundHalfEven (q / 2 ^ lastBit q), ?_, ?_, rfl⟩
  · apply le_roundHalfEven
    have quotient := div_pos positive (two_zpow_pos (lastBit q))
    push_cast
    linarith
  · apply roundHalfEven_le
    have below : q / 2 ^ lastBit q < 2 ^ 53 := by
      rw [div_lt_iff₀ (two_zpow_pos _)]
      have bits : floorLog2 q + 1 ≤ 53 + lastBit q := by
        have := le_max_left (floorLog2 q - 52) (-1074)
        rw [lastBit]
        omega
      calc q < 2 ^ (floorLog2 q + 1) := (floorLog2_spec positive).2
        _ ≤ 2 ^ (53 + lastBit q) := zpow_le_zpow_right₀ one_le_two bits
        _ = 2 ^ 53 * 2 ^ lastBit q := zpow_add₀ two_ne_zero 53 _
    push_cast
    linarith

end Binary64

/-- A natural number with at most 53 significant bits. -/
def Representable (n : ℕ) : Prop := ∃ m e : ℕ, m < 2 ^ 53 ∧ n = m * 2 ^ e

theorem representable_of_lt {n : ℕ} (small : n < 2 ^ 53) : Representable n :=
  ⟨n, 0, small, by omega⟩

namespace Binary64

theorem ofRat_representable {n k : ℕ} (finite : n < 2 ^ k) (bits : k ≤ 1024)
    (short : Representable n) : ofRat n = .finite n := by
  obtain ⟨m, e, mantissa, same⟩ := short
  rcases n.eq_zero_or_pos with zero | positive
  · simp [zero, ofRat]
  · have positive : (0 : ℚ) < n := Nat.cast_pos.mpr positive
    have exact_ : nearest (n : ℚ) = n :=
      nearest_eq (m := m) (e := e) positive (by exact_mod_cast mantissa) (by omega)
        (by rw [same]; push_cast; rw [zpow_natCast])
    have small : ¬(2 : ℚ) ^ (1024 : ℤ) ≤ n := by
      rw [not_le]
      calc (n : ℚ) < 2 ^ (k : ℤ) := by rw [zpow_natCast]; exact_mod_cast finite
        _ ≤ 2 ^ (1024 : ℤ) := zpow_le_zpow_right₀ one_le_two (by omega)
    rw [ofRat_pos positive, exact_, if_neg small]

theorem ofRat_of_lt {n : ℕ} (small : n < 2 ^ 53) : ofRat n = .finite n :=
  ofRat_representable small (by decide) (representable_of_lt small)

/-- Below the binary point 53 bits do not reach far. -/
theorem lastBit_nonneg {q : ℚ} (positive : 0 < q)
    (large : 2 ^ 53 ≤ roundHalfAway (nearest q)) : 0 ≤ lastBit q := by
  by_contra fine
  obtain ⟨m, _, mantissa, form⟩ := nearest_form positive
  have bound : nearest q ≤ 2 ^ 52 := by
    have half : (2 : ℚ) ^ lastBit q ≤ 2 ^ (-1 : ℤ) :=
      zpow_le_zpow_right₀ one_le_two (by omega)
    have top : (m : ℚ) ≤ 2 ^ 53 := by exact_mod_cast mantissa
    rw [form]
    calc (m : ℚ) * 2 ^ lastBit q ≤ 2 ^ 53 * 2 ^ (-1 : ℤ) :=
          mul_le_mul top half (two_zpow_pos _).le (by norm_num)
      _ = 2 ^ 52 := by norm_num
  have less : roundHalfAway (nearest q) < 2 ^ 53 := by
    rw [roundHalfAway_lt (nearest_nonneg positive)]
    push_cast
    linarith
  omega

theorem representable_of_nearest {q : ℚ} {n : ℕ} (positive : 0 < q)
    (read : roundHalfAway (nearest q) = n) : Representable n := by
  by_cases small : n < 2 ^ 53
  · exact representable_of_lt small
  · obtain ⟨m, nonneg, mantissa, form⟩ := nearest_form positive
    obtain ⟨e, exponent⟩ := Int.eq_ofNat_of_zero_le (lastBit_nonneg positive (by omega))
    obtain ⟨k, rfl⟩ := Int.eq_ofNat_of_zero_le nonneg
    have integer : nearest q = ((k * 2 ^ e : ℕ) : ℤ) := by
      rw [form, exponent]
      push_cast
      rw [zpow_natCast]
    rw [integer, roundHalfAway_intCast] at read
    have same : n = k * 2 ^ e := by exact_mod_cast read.symm
    rcases (show k ≤ 2 ^ 53 by omega).lt_or_eq with short | rfl
    · exact ⟨k, e, short, same⟩
    · exact ⟨2 ^ 52, e + 1, by norm_num, by rw [same]; ring⟩

/-- A rounding result that reads as a natural number has at most 53 significant bits. -/
theorem representable_of_round {q y : ℚ} {n : ℕ} (rounded : ofRat q = .finite y)
    (read : roundHalfAway y = n) : Representable n := by
  rcases lt_trichotomy q 0 with negative | rfl | positive
  · rw [ofRat_neg negative] at rounded
    split at rounded
    · cases rounded
    · obtain rfl := finite.inj rounded
      -- Only zero is read off a value that is not positive.
      have high := roundHalfAway_nonpos (neg_nonpos.mpr (nearest_nonneg (neg_pos.mpr negative)))
      exact representable_of_lt (by omega)
  · obtain rfl : (0 : ℚ) = y := by simpa [ofRat] using rounded
    rw [roundHalfAway_zero] at read
    exact representable_of_lt (by omega)
  · rw [ofRat_pos positive] at rounded
    split at rounded
    · cases rounded
    · obtain rfl := finite.inj rounded
      exact representable_of_nearest positive read

section Powers

variable {q : ℚ} {k : ℤ}

theorem lastBit_binade (normal : -1021 ≤ k) (same : floorLog2 q = k - 1) :
    lastBit q = k - 53 := by
  rw [lastBit, same]
  omega

theorem two_zpow_top (k : ℤ) : (2 : ℚ) ^ k = 2 ^ 53 * 2 ^ (k - 53) := by
  rw [show k = 53 + (k - 53) by ring, zpow_add₀ two_ne_zero]
  norm_num

theorem two_zpow_half (k : ℤ) : (2 : ℚ) ^ (k - 54) = 2 ^ (k - 53) / 2 := by
  rw [show k - 53 = k - 54 + 1 by ring, zpow_add_one₀ two_ne_zero]
  ring

/-- From the last midpoint before a power of two on, the power is reached. -/
theorem power_le_nearest (positive : 0 < q) (normal : -1021 ≤ k)
    (above : 2 ^ k - 2 ^ (k - 54) ≤ q) : 2 ^ k ≤ nearest q := by
  have top := two_zpow_top k
  have half := two_zpow_half k
  have unit : (0 : ℚ) < 2 ^ (k - 53) := two_zpow_pos _
  have large : k - 1 ≤ floorLog2 q := by
    apply le_floorLog2 positive
    rw [zpow_sub_one₀ two_ne_zero]
    linarith
  rcases large.lt_or_eq with beyond | same
  · have coarse : lastBit q ≤ floorLog2 q := max_le (by omega) (by omega)
    have power : 2 ^ floorLog2 q ≤ nearest q := by
      simpa using le_nearest (m := 1) coarse (by simpa using (floorLog2_spec positive).1)
    have grown : (2 : ℚ) ^ k ≤ 2 ^ floorLog2 q := zpow_le_zpow_right₀ one_le_two (by omega)
    exact grown.trans power
  · -- In the binade below the power the tie goes up to its even mantissa.
    have bit := lastBit_binade normal same.symm
    have mantissa : (2 ^ 53 : ℤ) ≤ roundHalfEven (q / 2 ^ lastBit q) := by
      apply le_roundHalfEven_of_tie
      · rw [bit, le_div_iff₀ unit]
        push_cast
        linarith
      · intro _
        norm_num
    rw [top, nearest, bit] at *
    exact mul_le_mul_of_nonneg_right (by exact_mod_cast mantissa) unit.le

/-- Before that midpoint the last value before the power is not exceeded. -/
theorem nearest_le_before_power (positive : 0 < q) (normal : -1021 ≤ k)
    (below : q < 2 ^ k - 2 ^ (k - 54)) : nearest q ≤ 2 ^ k - 2 ^ (k - 53) := by
  have top := two_zpow_top k
  have half := two_zpow_half k
  have unit : (0 : ℚ) < 2 ^ (k - 53) := two_zpow_pos _
  have small : floorLog2 q < k := floorLog2_lt positive (by linarith)
  rcases (Int.le_sub_one_of_lt small).lt_or_eq with beyond | same
  · have coarse : lastBit q ≤ k - 1 := max_le (by omega) (by omega)
    have power : q ≤ 2 ^ (k - 1) := by
      have grown : (2 : ℚ) ^ (floorLog2 q + 1) ≤ 2 ^ (k - 1) :=
        zpow_le_zpow_right₀ one_le_two (by omega)
      exact (floorLog2_spec positive).2.le.trans grown
    have bound : nearest q ≤ 2 ^ (k - 1) := by
      simpa using nearest_le (m := 1) coarse (by simpa using power)
    have halved : (2 : ℚ) ^ (k - 1) = 2 ^ k / 2 := zpow_sub_one₀ two_ne_zero k
    linarith
  · have bit := lastBit_binade normal same
    have mantissa : roundHalfEven (q / 2 ^ lastBit q) ≤ 2 ^ 53 - 1 := by
      apply roundHalfEven_le
      rw [bit, div_lt_iff₀ unit]
      push_cast
      linarith
    have bound : nearest q ≤ (2 ^ 53 - 1) * 2 ^ (k - 53) := by
      rw [nearest, bit] at *
      exact mul_le_mul_of_nonneg_right (by exact_mod_cast mantissa) unit.le
    linarith

/-- A value short of the first midpoint beyond a power of two is not rounded beyond it. -/
theorem nearest_le_power (positive : 0 < q) (normal : -1022 ≤ k)
    (near : q < 2 ^ k + 2 ^ (k - 53)) : nearest q ≤ 2 ^ k := by
  have half := two_zpow_half (k + 1)
  have top := two_zpow_top (k + 1)
  rw [show k + 1 - 54 = k - 53 by ring, show k + 1 - 53 = k - 52 by ring] at half
  rw [show k + 1 - 53 = k - 52 by ring, zpow_add_one₀ two_ne_zero] at top
  have unit : (0 : ℚ) < 2 ^ (k - 52) := two_zpow_pos _
  have within : floorLog2 q < k + 1 := by
    apply floorLog2_lt positive
    rw [zpow_add_one₀ two_ne_zero]
    linarith
  rcases (Int.lt_add_one_iff.mp within).lt_or_eq with beyond | same
  · have coarse : lastBit q ≤ k := max_le (by omega) (by omega)
    have power : q ≤ 2 ^ k := by
      have grown : (2 : ℚ) ^ (floorLog2 q + 1) ≤ 2 ^ k :=
        zpow_le_zpow_right₀ one_le_two (by omega)
      exact (floorLog2_spec positive).2.le.trans grown
    simpa using nearest_le (m := 1) coarse (by simpa using power)
  · have bit : lastBit q = k - 52 := by
      rw [lastBit_binade (k := k + 1) (by omega) (by omega)]
      ring
    have mantissa : roundHalfEven (q / 2 ^ lastBit q) ≤ 2 ^ 52 := by
      apply roundHalfEven_le
      rw [bit, div_lt_iff₀ unit]
      push_cast
      linarith
    have bound : nearest q ≤ 2 ^ 52 * 2 ^ (k - 52) := by
      rw [nearest, bit] at *
      exact mul_le_mul_of_nonneg_right (by exact_mod_cast mantissa) unit.le
    linarith

end Powers

end Binary64

end Foundation
