import NimbusPos.System

/-!
# Tills and their shift

A till counts every cash payment of its branch that was made while it was open,
so a payment counts once for each till open at the time. Summed up over the
tills of a shift, expected cash is the expected cash of the shift with every
payment and every refund weighed by that number.
-/

namespace NimbusPos.ShiftsService

open Lib Lib.Service
open TillsService (inWindow computeExpectedCash)

-- ---
-- Sums over the tills of a shift
-- ---

/-- Sum over the tills of a shift. -/
def overTills (s : Store) (shiftId : Id) (c : Id → TillSession → Cents) : Cents :=
  s.tillSessions.total fun k till => if till.shiftId = shiftId then c k till else 0

/-- The window whose payments a till counts. -/
def isOpenAt (s : Store) (t : Time) (till : TillSession) : Bool :=
  inWindow till.openedAt (till.closedAt.getD s.clock) t

/-- Tills of the shift that were open at a time. -/
def openTills (s : Store) (shiftId : Id) (t : Time) : Nat :=
  s.tillSessions.count fun _ till => till.shiftId == shiftId && isOpenAt s t till

theorem overTills_add (s : Store) (shiftId : Id) (c d : Id → TillSession → Cents) :
    overTills s shiftId (fun k till => c k till + d k till) =
      overTills s shiftId c + overTills s shiftId d := by
  rw [overTills, overTills, overTills, ← Table.total_add]
  apply Table.total_congr
  intro k till _
  split <;> rfl

theorem overTills_sub (s : Store) (shiftId : Id) (c d : Id → TillSession → Cents) :
    overTills s shiftId (fun k till => c k till - d k till) =
      overTills s shiftId c - overTills s shiftId d := by
  rw [overTills, overTills, overTills, ← Table.total_sub]
  apply Table.total_congr
  intro k till _
  split <;> rfl

/-- What counts while a till is open counts once for every till open at the time. -/
theorem overTills_window (s : Store) (shiftId : Id) (t : Table α) (p : α → Bool) (time : α → Time)
    (amount : α → Cents) :
    overTills s shiftId (fun _ till =>
        t.total fun _ a => if p a && isOpenAt s (time a) till then amount a else 0) =
      t.total fun _ a => if p a then amount a * openTills s shiftId (time a) else 0 := by
  have hswap : overTills s shiftId (fun _ till =>
      t.total fun _ a => if p a && isOpenAt s (time a) till then amount a else 0) =
        s.tillSessions.total fun _ till => t.total fun _ a =>
          if till.shiftId = shiftId ∧ p a = true ∧ isOpenAt s (time a) till = true then amount a
            else 0 := by
    rw [overTills]
    apply Table.total_congr
    intro k till _
    by_cases hmine : till.shiftId = shiftId
    · simp [hmine]
    · simp [hmine, Table.total_zero]
  rw [hswap, Table.total_comm]
  apply Table.total_congr
  intro _ a _
  by_cases hp : p a = true
  · rw [if_pos hp, openTills, Table.count_eq_total, ← Table.total_mul]
    apply Table.total_congr
    intro k till _
    by_cases hmine : till.shiftId = shiftId <;> by_cases hopen : isOpenAt s (time a) till = true <;>
      simp [hp, hmine, hopen]
  · simp [hp, Table.total_zero]

/-- The movements of the shift are those of its tills. -/
def SameMovements (s : Store) (shiftId : Id) : Prop :=
  ∀ k movement, s.cashMovements.get? k = some movement → (movement.shiftId = some shiftId ↔
    ∃ till, s.tillSessions.get? movement.tillSessionId = some till ∧ till.shiftId = shiftId)

instance : Decidable (SameMovements s shiftId) :=
  decidable_of_iff (∀ row ∈ s.cashMovements.rows, (row.2.shiftId = some shiftId ↔
      (s.tillSessions.get? row.2.tillSessionId).any (·.shiftId == shiftId) = true)) <| by
    simp only [SameMovements, Prod.forall, Table.get?_iff, Option.any_eq_true, beq_iff_eq]

theorem overTills_movements (h : SameMovements s shiftId) (type : CashMovementType) :
    overTills s shiftId (fun k _ => TillsService.movementSum s k type) =
      movementSum s shiftId type := by
  have hswap : overTills s shiftId (fun k _ => TillsService.movementSum s k type) =
      s.tillSessions.total fun k till => s.cashMovements.total fun _ movement =>
        if till.shiftId = shiftId ∧ movement.tillSessionId = k ∧
          movement.type = type then movement.amount
        else 0 := by
    apply Table.total_congr
    intro k till _
    by_cases hmine : till.shiftId = shiftId
    · simp [hmine, TillsService.movementSum, Table.sumWhere_eq_total]
    · simp [hmine, Table.total_zero]
  rw [hswap, Table.total_comm, movementSum, Table.sumWhere_eq_total]
  apply Table.total_congr
  intro k movement hget
  by_cases hmine : movement.shiftId = some shiftId
  · obtain ⟨till, htill, hshift⟩ := (h k movement hget).mp hmine
    rw [Table.total_only htill]
    · simp [hmine, hshift]
    · intro j other _ hj
      simp [Ne.symm hj]
  · rw [Table.total_zero]
    · simp [hmine]
    · intro j till htill
      refine if_neg ?_
      rintro ⟨hshift, rfl, _⟩
      exact hmine ((h k movement hget).mpr ⟨till, htill, hshift⟩)

-- ---
-- Agreement
-- ---

/-- Completed cash payments of a branch. -/
def isCashPayment (ctx : BranchContext) (payment : Payment) : Bool :=
  payment.branchId == ctx.branchId && payment.orgId == ctx.organizationId &&
    payment.method == .cash && payment.status == .completed

/-- Completed refunds of a branch. -/
def isCashOut (ctx : BranchContext) (refund : Refund) : Bool :=
  refund.branchId == ctx.branchId && refund.orgId == ctx.organizationId &&
    refund.status == .completed

/-- How much more often a time counts at the tills than in the window of the shift. -/
def excess (s : Store) (shiftId : Id) (timeStart timeEnd t : Time) : Int :=
  openTills s shiftId t - if inWindow timeStart timeEnd t then 1 else 0

theorem tills_cashSales (s : Store) (ctx : BranchContext) (shiftId : Id) :
    overTills s shiftId (fun _ till =>
        TillsService.cashSales s ctx till.openedAt (till.closedAt.getD s.clock)) =
      s.payments.total fun _ payment =>
        if isCashPayment ctx payment then payment.amount * openTills s shiftId payment.createdAt
          else 0 := by
  rw [← overTills_window s shiftId s.payments (isCashPayment ctx) (·.createdAt) (·.amount)]
  simp only [TillsService.cashSales, Table.sumWhere_eq_total]
  rfl

theorem tills_refunds (s : Store) (ctx : BranchContext) (shiftId : Id) :
    overTills s shiftId (fun _ till =>
        TillsService.refundCashOut s ctx till.openedAt (till.closedAt.getD s.clock)) =
      s.refunds.total fun _ refund =>
        if isCashOut ctx refund then refund.amount * openTills s shiftId refund.createdAt
          else 0 := by
  rw [← overTills_window s shiftId s.refunds (isCashOut ctx) (·.createdAt) (·.amount)]
  simp only [TillsService.refundCashOut, Table.sumWhere_eq_total]
  rfl

theorem weighed_sub (t : Table α) (p : α → Bool) (amount : α → Cents) (time : α → Time) (s : Store)
    (shiftId : Id) (timeStart timeEnd : Time) :
    (t.total fun _ a => if p a then amount a * excess s shiftId timeStart timeEnd (time a) else 0) =
      (t.total fun _ a => if p a then amount a * openTills s shiftId (time a) else 0) -
        t.total fun _ a => if p a && inWindow timeStart timeEnd (time a) then amount a else 0 := by
  rw [← Table.total_sub]
  apply Table.total_congr
  intro _ a _
  by_cases hp : p a = true
  · by_cases hin : inWindow timeStart timeEnd (time a) = true
    · simp only [hp, hin, if_true, excess, Bool.and_self]
      ring
    · simp [hp, hin, excess]
  · simp [hp]

/-- The tills of a shift and the shift itself: every cash payment counts once for
each till that was open, and expected cash differs by the payments and refunds
that count more or less often, and by the refund payouts that only a till
subtracts. -/
theorem tills_agree (ctx : BranchContext) (shift : Shift) (h : SameMovements s shiftId) :
    let summary := generateShiftCloseSummary s ctx shiftId shift
    (overTills s shiftId (fun _ till =>
        TillsService.cashSales s ctx till.openedAt (till.closedAt.getD s.clock)) =
      s.payments.total fun _ payment =>
        if isCashPayment ctx payment then payment.amount * openTills s shiftId payment.createdAt
          else 0) ∧
    overTills s shiftId (fun k till => computeExpectedCash s k till.openingFloat ctx) =
      summary.expectedCash
        + (s.payments.total fun _ payment => if isCashPayment ctx payment then
            payment.amount * excess s shiftId shift.openedAt s.clock payment.createdAt else 0)
        - (s.refunds.total fun _ refund => if isCashOut ctx refund then
            refund.amount * excess s shiftId shift.openedAt s.clock refund.createdAt else 0)
        - movementSum s shiftId .refundPayout := by
  intro summary
  refine ⟨tills_cashSales s ctx shiftId, ?_⟩
  have hterms : overTills s shiftId (fun k till => computeExpectedCash s k till.openingFloat ctx) =
      overTills s shiftId fun k till => till.openingFloat
        + TillsService.cashSales s ctx till.openedAt (till.closedAt.getD s.clock)
        + TillsService.movementSum s k .paidIn - TillsService.movementSum s k .safeDrop
        - TillsService.movementSum s k .cashPickup
        - TillsService.refundCashOut s ctx till.openedAt (till.closedAt.getD s.clock)
        - TillsService.movementSum s k .refundPayout - TillsService.movementSum s k .paidOut := by
    apply Table.total_congr
    intro k till hget
    simp only [computeExpectedCash, hget]
  have hfloat : overTills s shiftId (fun _ till => till.openingFloat) =
      totalOpeningFloat s shiftId := by
    simp only [overTills, totalOpeningFloat, Table.sumWhere_eq_total, beq_iff_eq]
  have hsales : sales s ctx shift.openedAt s.clock (· == .cash) = s.payments.total fun _ payment =>
      if isCashPayment ctx payment &&
        inWindow shift.openedAt s.clock payment.createdAt then payment.amount
      else 0 := by
    rw [sales, Table.sumWhere_eq_total]
    apply Table.total_congr
    intro _ payment _
    simp only [isCashPayment, Bool.and_eq_true, and_assoc, and_comm, and_left_comm]
  have hrefunds : TillsService.refundCashOut s ctx shift.openedAt s.clock =
      s.refunds.total fun _ refund =>
      if isCashOut ctx refund && inWindow shift.openedAt s.clock refund.createdAt then refund.amount
      else 0 := by
    rw [TillsService.refundCashOut, Table.sumWhere_eq_total]
    rfl
  simp only [hterms, overTills_sub, overTills_add, overTills_movements h, tills_cashSales,
    tills_refunds, hfloat, weighed_sub, ← hsales, ← hrefunds]
  simp only [summary, generateShiftCloseSummary, expectedCash]
  ring

/-- A shift with two tills, floats of 50.00, and one cash sale of 10.00. -/
def twoTills : Store :=
  System.after (· == ·) System.cafe <|
    [⟨.drawer (.openShift 0 ⟨0, 0⟩), 0⟩, ⟨.drawer (.openTill 0 ⟨0, 0⟩ ⟨"T1", 5000, by decide⟩), 0⟩,
     ⟨.drawer (.openTill 0 ⟨0, 0⟩ ⟨"T2", 5000, by decide⟩), 0⟩] ++ System.paidOrder

theorem tills_agree_two :
    ∃ shift, twoTills.shifts.get? 0 = some shift ∧
    let summary := generateShiftCloseSummary twoTills ⟨0, 0⟩ 0 shift
    (overTills twoTills 0 (fun _ till =>
        TillsService.cashSales twoTills ⟨0, 0⟩ till.openedAt (till.closedAt.getD twoTills.clock)) =
      twoTills.payments.total fun _ payment =>
        if isCashPayment ⟨0, 0⟩ payment then payment.amount * openTills twoTills 0 payment.createdAt
        else 0) ∧
    overTills twoTills 0 (fun k till => computeExpectedCash twoTills k till.openingFloat ⟨0, 0⟩) =
      summary.expectedCash
        + (twoTills.payments.total fun _ payment => if isCashPayment ⟨0, 0⟩ payment then
            payment.amount * excess twoTills 0 shift.openedAt twoTills.clock payment.createdAt
              else 0)
        - (twoTills.refunds.total fun _ refund => if isCashOut ⟨0, 0⟩ refund then
            refund.amount * excess twoTills 0 shift.openedAt twoTills.clock refund.createdAt else 0)
        - movementSum twoTills 0 .refundPayout := by
  have hshift : (twoTills.shifts.get? 0).isSome = true := by decide
  obtain ⟨shift, hget⟩ := Option.isSome_iff_exists.mp hshift
  exact ⟨shift, hget, tills_agree ⟨0, 0⟩ shift (by decide)⟩

/-- At every time after the shift opened one of its tills was open. -/
def Covered (s : Store) (shiftId : Id) (shift : Shift) : Prop :=
  ∀ t ≤ s.clock, shift.openedAt < t → 0 < openTills s shiftId t

instance : Decidable (Covered s shiftId shift) := inferInstanceAs (Decidable (∀ t ≤ s.clock, _))

/-- Two tills that are open at once both count the sale. -/
theorem tills_count_twice :
    ¬∀ (s : Store) (ctx : BranchContext) (shiftId : Id) (shift : Shift),
      s.shifts.get? shiftId = some shift → Covered s shiftId shift → SameMovements s shiftId →
      overTills s shiftId (fun _ till =>
          TillsService.cashSales s ctx till.openedAt (till.closedAt.getD s.clock)) =
        sales s ctx shift.openedAt s.clock (· == .cash) ∧
      overTills s shiftId (fun k till => computeExpectedCash s k till.openingFloat ctx) =
        (generateShiftCloseSummary s ctx shiftId shift).expectedCash := by
  intro h
  have hbad : (twoTills.shifts.get? 0).any (fun shift => decide (Covered twoTills 0 shift) &&
      decide (overTills twoTills 0 (fun _ till =>
          TillsService.cashSales twoTills ⟨0, 0⟩ till.openedAt
            (till.closedAt.getD twoTills.clock)) ≠
        sales twoTills ⟨0, 0⟩ shift.openedAt twoTills.clock (· == .cash))) = true := by decide
  obtain ⟨shift, hget, hrow⟩ := (Option.any_eq_true _ _).mp hbad
  simp only [Bool.and_eq_true, decide_eq_true_eq] at hrow
  exact hrow.2 (h twoTills ⟨0, 0⟩ 0 shift hget hrow.1 (by decide)).1

end NimbusPos.ShiftsService
