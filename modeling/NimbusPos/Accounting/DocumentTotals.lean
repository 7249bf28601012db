import NimbusPos.Accounting.Schema
import NimbusPos.Lib.Rounding

/-!
# Totals of a document as they are stored

A document and its lines are computed exactly, and each column is rounded on its own. What is
stored adds up as long as what rounding adds to the parts is what it may add to the total.
-/

namespace NimbusPos

open Lib

theorem persist_eq_roundHalf (amount : Amount) : persist amount = roundHalf amount := by
  have hden : (0 : ℤ) < amount.den := by exact_mod_cast amount.den_pos
  rw [persist, ← roundHalf_div amount.num hden, Int.cast_natCast, Rat.num_div_den]

/-- What rounding adds. -/
def rounding (amount : Amount) : ℚ := persist amount - amount

theorem persist_eq_iff (amount : Amount) (cents : Cents) :
    persist amount = cents ↔ Rounds amount (cents - amount) := by
  rw [persist_eq_roundHalf]
  exact roundHalf_eq_iff_rounds amount cents

/-- What a line costs, and its tax. -/
structure LineAmounts where
  cost : Amount
  tax : Amount
  deriving DecidableEq, Repr

def LineAmounts.total (line : LineAmounts) : Amount := line.cost + line.tax

structure StoredTotals where
  subtotal : Cents
  taxAmount : Cents
  totalAmount : Cents
  lineTotals : List Cents
  deriving DecidableEq, Repr

def storedTotals (lines : List LineAmounts) : StoredTotals where
  subtotal := persist (lines.map (·.cost)).sum
  taxAmount := persist (lines.map (·.tax)).sum
  totalAmount := persist ((lines.map (·.cost)).sum + (lines.map (·.tax)).sum)
  lineTotals := lines.map fun line => persist line.total

/-- The total is the subtotal and the tax, and that of the lines. -/
def StoredTotals.AddUp (totals : StoredTotals) : Prop :=
  totals.totalAmount = totals.subtotal + totals.taxAmount ∧
    totals.totalAmount = totals.lineTotals.sum

instance (totals : StoredTotals) : Decidable totals.AddUp := inferInstanceAs (Decidable (_ ∧ _))

/-- Rounding the subtotal and the tax adds no more than rounding the total may, and neither does
rounding the lines. -/
def RoundsTogether (lines : List LineAmounts) : Prop :=
  let total := (lines.map (·.cost)).sum + (lines.map (·.tax)).sum
  Rounds total (rounding (lines.map (·.cost)).sum + rounding (lines.map (·.tax)).sum) ∧
    Rounds total (lines.map fun line => rounding line.total).sum

theorem sum_rounding (lines : List LineAmounts) :
    (lines.map fun line => rounding line.total).sum =
      (lines.map fun line => persist line.total).sum -
        ((lines.map (·.cost)).sum + (lines.map (·.tax)).sum) := by
  induction lines with
  | nil => simp
  | cons line lines ih =>
    have hline : rounding line.total = persist line.total - (line.cost + line.tax) := rfl
    simp only [List.map_cons, List.sum_cons, ih, hline]
    push_cast
    ring

theorem addUp_iff (lines : List LineAmounts) :
    (storedTotals lines).AddUp ↔ RoundsTogether lines := by
  have hparts : rounding (lines.map (·.cost)).sum + rounding (lines.map (·.tax)).sum =
      ((persist (lines.map (·.cost)).sum + persist (lines.map (·.tax)).sum : Int) : ℚ) -
        ((lines.map (·.cost)).sum + (lines.map (·.tax)).sum) := by
    simp only [rounding]
    push_cast
    ring
  simp only [StoredTotals.AddUp, storedTotals, RoundsTogether]
  rw [persist_eq_iff, persist_eq_iff, hparts, sum_rounding]

/-- Whole cents add up. -/
theorem roundsTogether_of_whole {lines : List LineAmounts}
    (h : ∀ line ∈ lines, ∃ cost tax : Int, line.cost = cost ∧ line.tax = tax) :
    RoundsTogether lines := by
  have hsums : ∃ cost tax : Int, (lines.map (·.cost)).sum = cost ∧ (lines.map (·.tax)).sum = tax ∧
      (lines.map fun line => persist line.total).sum = cost + tax := by
    induction lines with
    | nil => exact ⟨0, 0, by simp, by simp, rfl⟩
    | cons line lines ih =>
      obtain ⟨c, t, hc, ht⟩ := h line (.head _)
      obtain ⟨cost, tax, hcost, htax, htotal⟩ := ih fun line hline => h line (.tail _ hline)
      have hline : persist line.total = c + t := by
        rw [LineAmounts.total, hc, ht, ← Int.cast_add, persist_intCast]
      refine ⟨c + cost, t + tax, ?_, ?_, ?_⟩
      · rw [List.map_cons, List.sum_cons, hc, hcost, Int.cast_add]
      · rw [List.map_cons, List.sum_cons, ht, htax, Int.cast_add]
      · rw [List.map_cons, List.sum_cons, hline, htotal]
        ring
  obtain ⟨cost, tax, hcost, htax, htotal⟩ := hsums
  rw [← addUp_iff]
  simp only [StoredTotals.AddUp, storedTotals, hcost, htax, htotal, ← Int.cast_add,
    persist_intCast, and_self]

end NimbusPos
