import Mathlib.Data.Rat.Floor
import Mathlib.Tactic.Linarith
import Mathlib.Tactic.Ring

/-!
# Fixed-point decimals

A decimal with a fixed number of places is an integer count of its last place.
`roundHalfUp n d` is the quotient `n / d` rounded to an integer with ties away
from zero, the `ROUND_HALF_UP` mode of decimal arithmetic.
-/

namespace NimbusPos.Lib

def roundHalfUp (n d : Int) : Int :=
  if 0 ≤ n then (2 * n + d) / (2 * d) else -((2 * (-n) + d) / (2 * d))

theorem roundHalfUp_nonneg (hn : 0 ≤ n) (hd : 0 < d) : 0 ≤ roundHalfUp n d := by
  rw [roundHalfUp, if_pos hn]
  exact Int.ediv_nonneg (by omega) (by omega)

/-- Rounding does not pass an integer bound. -/
theorem roundHalfUp_le (hd : 0 < d) (hm : 0 ≤ m) (h : n ≤ m * d) : roundHalfUp n d ≤ m := by
  unfold roundHalfUp
  split
  · have hlt : 2 * n + d < (m + 1) * (2 * d) := by nlinarith
    exact Int.lt_add_one_iff.mp (Int.ediv_lt_of_lt_mul (by omega) hlt)
  · have := Int.ediv_nonneg (a := 2 * -n + d) (b := 2 * d) (by omega) (by omega)
    omega

/-- The quotients that are not rounded above a bound. -/
theorem roundHalfUp_le_iff (hd : 0 < d) (hm : 0 ≤ m) :
    roundHalfUp n d ≤ m ↔ 2 * n < (2 * m + 1) * d := by
  unfold roundHalfUp
  split
  · rw [← Int.lt_add_one_iff, Int.ediv_lt_iff_lt_mul (by omega)]
    constructor <;> intro h <;> linarith
  · rename_i hn
    have hpos := Int.ediv_nonneg (a := 2 * -n + d) (b := 2 * d) (by omega) (by omega)
    have hbound : 0 ≤ (2 * m + 1) * d := Int.mul_nonneg (by omega) (by omega)
    constructor <;> intro _ <;> omega

/-- A decimal that already has the target scale is not changed. -/
theorem roundHalfUp_mul (m : Int) (hd : 0 < d) : roundHalfUp (m * d) d = m := by
  have key (k : Int) : (2 * (k * d) + d) / (2 * d) = k := by
    have h : 2 * (k * d) + d = d + k * (2 * d) := by ring
    rw [h, Int.add_mul_ediv_right _ _ (by omega), Int.ediv_eq_zero_of_lt (by omega) (by omega)]
    omega
  unfold roundHalfUp
  split
  · exact key m
  · have h : -(m * d) = -m * d := by ring
    rw [h, key (-m)]
    omega

/-- Whole units are carried through. -/
theorem roundHalfUp_add_mul (hn : 0 ≤ n) (hm : 0 ≤ m) (hd : 0 < d) :
    roundHalfUp (n + m * d) d = m + roundHalfUp n d := by
  have hsum : 0 ≤ n + m * d := Int.add_nonneg hn (Int.mul_nonneg hm (Int.le_of_lt hd))
  have h : 2 * (n + m * d) + d = 2 * n + d + m * (2 * d) := by ring
  rw [roundHalfUp, if_pos hsum, roundHalfUp, if_pos hn, h, Int.add_mul_ediv_right _ _ (by omega),
    Int.add_comm]

end NimbusPos.Lib

/-!
# Rounding a rational

To the nearest integer, with ties away from zero. `roundHalfUp` is the same on a quotient of
integers.
-/

namespace NimbusPos.Lib

def roundHalf (x : ℚ) : ℤ := if 0 ≤ x then ⌊x + 1 / 2⌋ else -⌊-x + 1 / 2⌋

theorem roundHalf_of_nonneg (h : 0 ≤ x) : roundHalf x = ⌊x + 1 / 2⌋ := if_pos h

theorem roundHalf_zero : roundHalf 0 = 0 := by
  rw [roundHalf_of_nonneg (le_refl _), Int.floor_eq_iff]
  norm_num

theorem roundHalf_neg (x : ℚ) : roundHalf (-x) = -roundHalf x := by
  rcases lt_trichotomy x 0 with h | rfl | h
  · have hpos : (0 : ℚ) ≤ -x := by linarith
    rw [roundHalf_of_nonneg hpos, roundHalf, if_neg (not_le.mpr h), neg_neg]
  · rw [neg_zero, roundHalf_zero, neg_zero]
  · have hneg : ¬(0 : ℚ) ≤ -x := by linarith
    rw [roundHalf_of_nonneg h.le, roundHalf, if_neg hneg, neg_neg]

theorem roundHalf_mono (h : x ≤ y) : roundHalf x ≤ roundHalf y := by
  have hnonneg (z : ℚ) (hz : 0 ≤ z) : 0 ≤ ⌊z + 1 / 2⌋ := Int.floor_nonneg.mpr (by linarith)
  rcases le_or_gt 0 x with hx | hx
  · rw [roundHalf_of_nonneg hx, roundHalf_of_nonneg (hx.trans h)]
    exact Int.floor_le_floor (by linarith)
  · rw [roundHalf, if_neg (not_le.mpr hx)]
    rcases le_or_gt 0 y with hy | hy
    · rw [roundHalf_of_nonneg hy]
      exact (neg_nonpos.mpr (hnonneg (-x) (by linarith))).trans (hnonneg y hy)
    · rw [roundHalf, if_neg (not_le.mpr hy)]
      exact neg_le_neg (Int.floor_le_floor (by linarith))

theorem roundHalf_eq_iff (h : 0 ≤ x) : roundHalf x = m ↔ m - 1 / 2 ≤ x ∧ x < m + 1 / 2 := by
  rw [roundHalf_of_nonneg h, Int.floor_eq_iff]
  constructor
  · rintro ⟨hle, hlt⟩
    exact ⟨by linarith, by linarith⟩
  · rintro ⟨hle, hlt⟩
    exact ⟨by linarith, by linarith⟩

@[simp] theorem roundHalf_intCast (m : ℤ) : roundHalf m = m := by
  have hnat (k : ℤ) (hk : 0 ≤ k) : roundHalf k = k := by
    rw [roundHalf_eq_iff (by exact_mod_cast hk)]
    constructor <;> linarith
  rcases le_total 0 m with h | h
  · exact hnat m h
  · have hneg := hnat (-m) (by omega)
    rw [Int.cast_neg, roundHalf_neg] at hneg
    omega

section

variable {c : ℚ} (h0 : 0 ≤ c) (hc : c < 1 / 2)
include h0 hc

/-- Something less than a half is added before the rounding. -/
theorem floor_add_half (x : ℚ) :
    ⌊x + c + 1 / 2⌋ = ⌊x⌋ + if 1 / 2 - c ≤ Int.fract x then 1 else 0 := by
  have hx := Int.floor_add_fract x
  have hfract := Int.fract_nonneg x
  have hfract' := Int.fract_lt_one x
  rw [Int.floor_eq_iff]
  split <;> push_cast <;> constructor <;> linarith

/-- The same for what is left of an integer. -/
theorem floor_sub_half (n : ℤ) (x : ℚ) :
    ⌊n - x + c + 1 / 2⌋ = n - ⌊x⌋ - if Int.fract x ≤ 1 / 2 + c then 0 else 1 := by
  have hx := Int.floor_add_fract x
  have hfract := Int.fract_nonneg x
  have hfract' := Int.fract_lt_one x
  rw [Int.floor_eq_iff]
  split <;> push_cast <;> constructor <;> linarith

end

theorem roundHalf_eq_fract (h : 0 ≤ x) :
    roundHalf x = ⌊x⌋ + if 1 / 2 ≤ Int.fract x then 1 else 0 := by
  have hfloor := floor_add_half (le_refl 0) (by norm_num) x
  rw [add_zero, sub_zero] at hfloor
  rw [roundHalf_of_nonneg h, hfloor]

/-- What rounding may add to `x`: up to half a unit, and at half a unit away from zero. -/
def Rounds (x d : ℚ) : Prop :=
  if 0 ≤ x then -(1 / 2) < d ∧ d ≤ 1 / 2 else -(1 / 2) ≤ d ∧ d < 1 / 2

theorem roundHalf_eq_iff_rounds (x : ℚ) (m : ℤ) : roundHalf x = m ↔ Rounds x (m - x) := by
  unfold Rounds
  split
  · rename_i h
    rw [roundHalf_eq_iff h]
    constructor <;> rintro ⟨hlo, hhi⟩ <;> constructor <;> linarith
  · rename_i h
    rw [← neg_inj, ← roundHalf_neg, roundHalf_eq_iff (neg_nonneg.mpr (not_le.mp h).le)]
    push_cast
    constructor <;> rintro ⟨hlo, hhi⟩ <;> constructor <;> linarith

/-- A quotient of integers. -/
theorem roundHalf_div (n : ℤ) {d : ℤ} (hd : 0 < d) : roundHalf (n / d) = roundHalfUp n d := by
  have hcast : (0 : ℚ) < d := by exact_mod_cast hd
  have hfloor (k : ℤ) : ⌊(k : ℚ) / d + 1 / 2⌋ = (2 * k + d) / (2 * d) := by
    obtain ⟨e, rfl⟩ := Int.eq_ofNat_of_zero_le hd.le
    have hsum : (k : ℚ) / (e : ℤ) + 1 / 2 = ((2 * k + e : ℤ) : ℚ) / ((2 * e : ℕ) : ℚ) := by
      push_cast at hcast ⊢
      field_simp
    rw [hsum, Rat.floor_intCast_div_natCast]
    push_cast
    rfl
  unfold roundHalf roundHalfUp
  by_cases hn : 0 ≤ n
  · have hquot : (0 : ℚ) ≤ n / d := div_nonneg (by exact_mod_cast hn) hcast.le
    rw [if_pos hquot, if_pos hn, hfloor]
  · have hquot : (n : ℚ) / d < 0 := div_neg_of_neg_of_pos (by exact_mod_cast not_le.mp hn) hcast
    have hneg := hfloor (-n)
    push_cast at hneg
    rw [if_neg (not_le.mpr hquot), if_neg hn, ← neg_div, hneg]

end NimbusPos.Lib
