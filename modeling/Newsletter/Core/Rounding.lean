/-
Rounding of exact rationals, as an interpreter with binary64 floats and arbitrary integers does it.

A float value is kept as the rational it denotes. `toDouble` is the nearest value with a significand of 53 bits, ties to an
even one. The upper end of the exponent range is where an integer cannot be converted any more (`FitsDouble`); its lower end is
out of the reach of products with an integer. `roundHalfEven` is the built-in `round` and `truncate` the conversion to an
integer.

The floats around `q` have the distance `ulp q`. `toDouble_le` bounds the error of rounding up by half of it and
`abs_toDouble_sub_le` the error in both directions; below `2 ^ 53` the integers are floats, so rounding does not move them
(`toDouble_intCast`) and does not pass one (`le_toDouble`).
-/
import Mathlib.Data.Rat.Floor
import Mathlib.Data.Int.Log
import Mathlib.Tactic

namespace Newsletter.Core

/-- the nearest integer, ties to the even one -/
def roundHalfEven (q : ℚ) : ℤ :=
  let f := ⌊q⌋
  if q - f < 1 / 2 then f
  else if 1 / 2 < q - f then f + 1
  else if f % 2 = 0 then f
  else f + 1

/-- toward zero -/
def truncate (q : ℚ) : ℤ := if 0 ≤ q then ⌊q⌋ else ⌈q⌉

/-- the distance of the values with a significand of 53 bits around `q` -/
def ulp (q : ℚ) : ℚ := 2 ^ (Int.log 2 |q| - 52)

/-- the nearest value with a significand of 53 bits -/
def toDouble (q : ℚ) : ℚ := if q = 0 then 0 else roundHalfEven (q / ulp q) * ulp q

/-- the integer can be converted to a float: it is below `2 ^ 1024 - 2 ^ 970`, the middle between the largest one and the next
power of two -/
def FitsDouble (n : ℤ) : Prop := n.natAbs < (2 ^ 256) ^ 4 - (2 ^ 194) ^ 5

instance (n : ℤ) : Decidable (FitsDouble n) := inferInstanceAs (Decidable (_ < _))

/-- the product of an integer and a float literal between 0 and 1, unless the integer is too large for a float -/
def timesDouble (n : ℤ) (x : ℚ) : Option ℚ := if FitsDouble n then some (toDouble (toDouble n * toDouble x)) else none

/-! ## Rounding to an integer -/

theorem floor_le_roundHalfEven (q : ℚ) : ⌊q⌋ ≤ roundHalfEven q := by
  unfold roundHalfEven
  simp only
  split_ifs <;> omega

theorem roundHalfEven_le (q : ℚ) : (roundHalfEven q : ℚ) ≤ q + 1 / 2 := by
  have hfloor := Int.floor_le q
  unfold roundHalfEven
  simp only
  split_ifs <;> push_cast <;> linarith

theorem le_roundHalfEven (q : ℚ) : q - 1 / 2 ≤ roundHalfEven q := by
  have hfloor := Int.lt_floor_add_one q
  unfold roundHalfEven
  simp only
  split_ifs <;> push_cast <;> linarith

theorem abs_roundHalfEven_sub_le (q : ℚ) : |roundHalfEven q - q| ≤ 1 / 2 :=
  abs_sub_le_iff.2 ⟨by linarith [roundHalfEven_le q], by linarith [le_roundHalfEven q]⟩

@[simp] theorem roundHalfEven_intCast (k : ℤ) : roundHalfEven k = k := by
  simp [roundHalfEven]

/-- above an odd integer the tie goes up as well -/
theorem roundHalfEven_of_odd {q : ℚ} (hodd : ⌊q⌋ % 2 = 1) (h : 1 / 2 ≤ q - ⌊q⌋) : roundHalfEven q = ⌊q⌋ + 1 := by
  unfold roundHalfEven
  simp only
  rw [if_neg (not_lt.2 h)]
  split_ifs with h1 h2
  · rfl
  · omega
  · rfl

/-! ## Rounding to a float -/

theorem ulp_pos (q : ℚ) : 0 < ulp q := zpow_pos two_pos _

theorem toDouble_eq {q : ℚ} (hq : q ≠ 0) : toDouble q = roundHalfEven (q / ulp q) * ulp q := if_neg hq

theorem ulp_le {q : ℚ} {e : ℤ} (hq : q ≠ 0) (h : |q| < 2 ^ (e + 1)) : ulp q ≤ 2 ^ (e - 52) := by
  have hlog : Int.log 2 |q| < e + 1 := (Int.lt_zpow_iff_log_lt one_lt_two (abs_pos.2 hq)).1 (by exact_mod_cast h)
  exact zpow_le_zpow_right₀ one_le_two (by omega)

theorem le_ulp {q : ℚ} {e : ℤ} (hq : q ≠ 0) (h : 2 ^ e ≤ |q|) : 2 ^ (e - 52) ≤ ulp q := by
  have hlog : e ≤ Int.log 2 |q| := (Int.zpow_le_iff_le_log one_lt_two (abs_pos.2 hq)).1 (by exact_mod_cast h)
  exact zpow_le_zpow_right₀ one_le_two (by omega)

theorem toDouble_nonneg {q : ℚ} (h : 0 ≤ q) : 0 ≤ toDouble q := by
  by_cases hq : q = 0
  · rw [hq]
    rfl
  · have hfloor : 0 ≤ ⌊q / ulp q⌋ := Int.floor_nonneg.2 (div_nonneg h (ulp_pos q).le)
    rw [toDouble_eq hq]
    exact mul_nonneg (by exact_mod_cast hfloor.trans (floor_le_roundHalfEven _)) (ulp_pos q).le

theorem toDouble_le {q : ℚ} (hq : q ≠ 0) : toDouble q ≤ q + ulp q / 2 := by
  have hulp := ulp_pos q
  calc toDouble q = roundHalfEven (q / ulp q) * ulp q := toDouble_eq hq
    _ ≤ (q / ulp q + 1 / 2) * ulp q := by gcongr; exact roundHalfEven_le _
    _ = q + ulp q / 2 := by field_simp

theorem abs_toDouble_sub_le {q : ℚ} (hq : q ≠ 0) : |toDouble q - q| ≤ ulp q / 2 := by
  have hulp := ulp_pos q
  calc |toDouble q - q| = |(roundHalfEven (q / ulp q) - q / ulp q) * ulp q| := by
        rw [toDouble_eq hq, sub_mul, div_mul_cancel₀ _ hulp.ne']
    _ = |roundHalfEven (q / ulp q) - q / ulp q| * ulp q := by rw [abs_mul, abs_of_pos hulp]
    _ ≤ 1 / 2 * ulp q := by gcongr; exact abs_roundHalfEven_sub_le _
    _ = ulp q / 2 := by ring

/-- below `2 ^ 53` an integer is a multiple of the distance -/
theorem intCast_div_ulp {q : ℚ} (hq : q ≠ 0) (h : |q| < 2 ^ 53) (k : ℤ) : ∃ m : ℤ, k / ulp q = m := by
  have hlog : Int.log 2 |q| < 53 := (Int.lt_zpow_iff_log_lt one_lt_two (abs_pos.2 hq)).1 (by exact_mod_cast h)
  obtain ⟨j, hj⟩ : ∃ j : ℕ, (j : ℤ) = 52 - Int.log 2 |q| := ⟨(52 - Int.log 2 |q|).toNat, by omega⟩
  have hexp : Int.log 2 |q| - 52 = -(j : ℤ) := by omega
  refine ⟨k * 2 ^ j, ?_⟩
  rw [ulp, hexp, zpow_neg, zpow_natCast, div_inv_eq_mul]
  push_cast
  rfl

theorem le_toDouble {q : ℚ} {k : ℤ} (hq : q ≠ 0) (h : |q| < 2 ^ 53) (hk : k ≤ q) : k ≤ toDouble q := by
  have hulp := ulp_pos q
  obtain ⟨m, hm⟩ := intCast_div_ulp hq h k
  have hmul : (k : ℚ) = m * ulp q := by rw [← hm, div_mul_cancel₀ _ hulp.ne']
  have hfloor : m ≤ ⌊q / ulp q⌋ := by
    rw [Int.le_floor, ← hm]
    gcongr
  have hround : (m : ℚ) ≤ roundHalfEven (q / ulp q) := by exact_mod_cast hfloor.trans (floor_le_roundHalfEven _)
  rw [toDouble_eq hq, hmul]
  gcongr

theorem toDouble_intCast {n : ℤ} (h : |(n : ℚ)| < 2 ^ 53) : toDouble n = n := by
  by_cases hn : (n : ℚ) = 0
  · rw [hn]
    rfl
  · obtain ⟨m, hm⟩ := intCast_div_ulp hn h n
    rw [toDouble_eq hn, hm, roundHalfEven_intCast, ← hm, div_mul_cancel₀ _ (ulp_pos _).ne']

theorem fitsDouble_of_lt {n : ℤ} (h : |(n : ℚ)| < 2 ^ 53) : FitsDouble n := by
  have hn : n.natAbs < 2 ^ 53 := by
    have habs : ((n.natAbs : ℕ) : ℚ) < ((2 ^ 53 : ℕ) : ℚ) := by
      rw [Nat.cast_natAbs, Int.cast_abs]
      exact_mod_cast h
    exact_mod_cast habs
  have hlarge : 2 ^ 53 ≤ (2 ^ 256) ^ 4 - (2 ^ 194) ^ 5 := by norm_num
  exact hn.trans_le hlarge

theorem timesDouble_of_lt {n : ℤ} (h : |(n : ℚ)| < 2 ^ 53) (x : ℚ) : timesDouble n x = some (toDouble (n * toDouble x)) := by
  rw [timesDouble, if_pos (fitsDouble_of_lt h), toDouble_intCast h]

end Newsletter.Core
