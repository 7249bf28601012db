import Mathlib.Algebra.Order.Ring.Int
import Mathlib.Order.Monotone.Basic

/-!
# Months of the Gregorian calendar

Days are counted from the first of January 1970, months from the January of the year zero. A
date that a month does not have runs over into the months after it.
-/

namespace NimbusPos.Lib.Calendar

/-- The day on which a month begins. Years are counted from a first of March, so that a leap day
ends one. -/
def firstDay (month : ℤ) : ℤ :=
  let year := (month - 2) / 12
  let fourth := year / 4
  let century := fourth / 25
  365 * year + fourth - century + century / 4 + (153 * ((month - 2) % 12) + 2) / 5 - 719468

/-- The month of a day: the one that 4800 months in 146097 days let expect, or the one before. -/
def monthOf (day : ℤ) : ℤ :=
  let month := (4800 * (day + 719468) + 14000) / 146097 + 2
  if firstDay month ≤ day then month else month - 1

/-- The date in its month, from zero. -/
def dateOf (day : ℤ) : ℤ := day - firstDay (monthOf day)

def daysIn (month : ℤ) : ℤ := firstDay (month + 1) - firstDay month

/-- The same date some months later, or before. -/
def addMonths (day months : ℤ) : ℤ := firstDay (monthOf day + months) + dateOf day

example : firstDay (12 * 1970) = 0 ∧ monthOf 19782 = 12 * 2024 + 1 ∧ dateOf 19782 = 28 := by decide

-- ---
-- The months of a day
-- ---

/-- Months begin where 4800 in 146097 days let expect, within three days. -/
theorem firstDay_bounds (month : ℤ) :
    146097 * (month - 2) - 9100 ≤ 4800 * (firstDay month + 719468) ∧
      4800 * (firstDay month + 719468) ≤ 146097 * (month - 2) + 14000 := by
  simp only [firstDay]
  omega

theorem next_month (month : ℤ) :
    ((month + 1 - 2) / 12 = (month - 2) / 12 + 1 ∧ (month - 2) % 12 = 11 ∧
        (month + 1 - 2) % 12 = 0) ∨
      ((month + 1 - 2) / 12 = (month - 2) / 12 ∧
        (month + 1 - 2) % 12 = (month - 2) % 12 + 1) := by
  omega

theorem daysIn_bounds (month : ℤ) : 28 ≤ daysIn month ∧ daysIn month ≤ 31 := by
  simp only [daysIn, firstDay]
  rcases next_month month with ⟨hyear, hlast, hfirst⟩ | ⟨hyear, hmonth⟩
  · rw [hyear, hlast, hfirst]
    omega
  · rw [hyear, hmonth]
    omega

theorem firstDay_lt_iff : firstDay month < firstDay month' ↔ month < month' := by
  refine (strictMono_int_of_lt_succ fun month => ?_).lt_iff_lt
  have hdays := daysIn_bounds month
  simp only [daysIn] at hdays
  omega

theorem monthOf_spec (day : ℤ) :
    firstDay (monthOf day) ≤ day ∧ day < firstDay (monthOf day + 1) := by
  simp only [monthOf]
  have hdiv := Int.mul_ediv_add_emod (4800 * (day + 719468) + 14000) 146097
  have hlo := Int.emod_nonneg (4800 * (day + 719468) + 14000) (by decide : (146097 : ℤ) ≠ 0)
  have hhi := Int.emod_lt_of_pos (4800 * (day + 719468) + 14000) (by decide : (0 : ℤ) < 146097)
  generalize (4800 * (day + 719468) + 14000) / 146097 = k at hdiv ⊢
  generalize (4800 * (day + 719468) + 14000) % 146097 = r at hdiv hlo hhi
  split
  · have hnext := firstDay_bounds (k + 2 + 1)
    omega
  · have hprevious := firstDay_bounds (k + 2 - 1)
    rw [Int.sub_add_cancel]
    omega

theorem monthOf_eq_iff :
    monthOf day = month ↔ firstDay month ≤ day ∧ day < firstDay (month + 1) := by
  refine ⟨fun h => h ▸ monthOf_spec day, fun ⟨hfrom, hto⟩ => ?_⟩
  obtain ⟨hfrom', hto'⟩ := monthOf_spec day
  have hle := firstDay_lt_iff.mp (hfrom.trans_lt hto')
  have hge := firstDay_lt_iff.mp (hfrom'.trans_lt hto)
  omega

theorem dateOf_bounds (day : ℤ) : 0 ≤ dateOf day ∧ dateOf day < daysIn (monthOf day) := by
  have hspec := monthOf_spec day
  simp only [dateOf, daysIn]
  omega

/-- A day is a month and a date in it. -/
theorem monthOf_firstDay_add (hdate : 0 ≤ date) (hfits : date < daysIn month) :
    monthOf (firstDay month + date) = month := by
  rw [monthOf_eq_iff]
  simp only [daysIn] at hfits
  omega

theorem dateOf_firstDay_add (hdate : 0 ≤ date) (hfits : date < daysIn month) :
    dateOf (firstDay month + date) = date := by
  rw [dateOf, monthOf_firstDay_add hdate hfits]
  omega

-- ---
-- The same date of other months
-- ---

/-- The month has the date. -/
def HasDate (month date : ℤ) : Prop := date < daysIn month

instance (month date : ℤ) : Decidable (HasDate month date) := inferInstanceAs (Decidable (_ < _))

theorem hasDate_dateOf (day : ℤ) : HasDate (monthOf day) (dateOf day) := (dateOf_bounds day).2

theorem hasDate_of_lt (month : ℤ) (hdate : date < 28) : HasDate month date :=
  hdate.trans_le (daysIn_bounds month).1

theorem monthOf_addMonths (h : HasDate (monthOf day + months) (dateOf day)) :
    monthOf (addMonths day months) = monthOf day + months :=
  monthOf_firstDay_add (dateOf_bounds day).1 h

theorem dateOf_addMonths (h : HasDate (monthOf day + months) (dateOf day)) :
    dateOf (addMonths day months) = dateOf day := dateOf_firstDay_add (dateOf_bounds day).1 h

/-- A date that the month does not have is one of the first three of the next. -/
theorem addMonths_over (h : ¬HasDate (monthOf day + months) (dateOf day)) :
    monthOf (addMonths day months) = monthOf day + months + 1 ∧
      dateOf (addMonths day months) = dateOf day - daysIn (monthOf day + months) := by
  have hdate := dateOf_bounds day
  have hthis := daysIn_bounds (monthOf day)
  have hthat := daysIn_bounds (monthOf day + months)
  have hnext := daysIn_bounds (monthOf day + months + 1)
  have hover : addMonths day months =
      firstDay (monthOf day + months + 1) + (dateOf day - daysIn (monthOf day + months)) := by
    simp only [addMonths, daysIn]
    omega
  have hnonneg : 0 ≤ dateOf day - daysIn (monthOf day + months) := by
    simp only [HasDate] at h
    omega
  have hfits : dateOf day - daysIn (monthOf day + months) < daysIn (monthOf day + months + 1) := by
    omega
  rw [hover]
  exact ⟨monthOf_firstDay_add hnonneg hfits, dateOf_firstDay_add hnonneg hfits⟩

/-- There and back again, only over a month that has the date. -/
theorem addMonths_neg_iff (day months : ℤ) :
    addMonths (addMonths day months) (-months) = day ↔
      HasDate (monthOf day + months) (dateOf day) := by
  have hday : firstDay (monthOf day) + dateOf day = day := by
    simp only [dateOf]
    omega
  constructor
  · intro hback
    by_contra hover
    obtain ⟨hmonth, hdate⟩ := addMonths_over hover
    have hspec := monthOf_spec day
    have hrest := (dateOf_bounds (addMonths day months)).1
    have hsame : monthOf day + months + 1 + -months = monthOf day + 1 := by omega
    rw [addMonths, hmonth, hsame] at hback
    omega
  · intro h
    rw [addMonths, monthOf_addMonths h, dateOf_addMonths h, add_neg_cancel_right, hday]

end NimbusPos.Lib.Calendar
