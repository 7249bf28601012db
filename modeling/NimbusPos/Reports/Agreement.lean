import NimbusPos.Reports.Figures

/-!
# Reports that agree

Sales are the same in every report. A bank transfer is in the payment mix report and in no figure
of the dashboard, a refund that is not completed is left out of the daily sales alone, and a
discount counts with its value whether it took that off an order or not. `reports_agree_iff`: the
reports agree when these come to nothing.
-/

namespace NimbusPos.ReportsService

open Lib DashboardsService

/-- All of an order's discount is taken off by the discount in force. -/
def takenOff (s : Store) (discountId : Id) (discount : Discount) : Cents :=
  if (s.approvedDiscount discount.orderId).any (·.1 == discountId) then
    ((s.orders.get? discount.orderId).map (·.discount)).getD 0
  else 0

section

variable (s : Store) (columns : Columns) (ctx : BranchContext) (range : Range)
  (getHours : Time → Fin 24) (email : Id → String)

/-- The money that the discounts of the range took off. -/
def moneyOff : Cents :=
  s.discounts.total fun discountId discount =>
    if discountIn columns ctx range discountId discount then takenOff s discountId discount else 0

def staffTotal (column : StaffFigures → CountTotal) : Cents :=
  ((staffOperations s columns ctx range email).staffBreakdown.map fun line =>
    (column line.figures).total).sum

structure ReportsAgree : Prop where
  staffSales : staffTotal s columns ctx range email (·.sales) = (dailySales s ctx range).grossSales
  hourSales : ((salesByHour s ctx range getHours).hourlyBreakdown.map (·.sales)).sum =
    (dailySales s ctx range).grossSales
  payments : (paymentMix s ctx range).totalAmount =
    (aggregatePaymentMix s ctx.organizationId (some ctx.branchId) range).sum
  refunds : (refundsSummary s columns ctx range email).grandTotal =
    (dailySales s ctx range).refundTotal
  staffRefunds : staffTotal s columns ctx range email (·.refunds) =
    (dailySales s ctx range).refundTotal
  staffDiscounts : (discountsSummary s columns ctx range email).grandTotal =
    staffTotal s columns ctx range email (·.discounts)
  discounts : (discountsSummary s columns ctx range email).grandTotal =
    moneyOff s columns ctx range

def bankTransfers : Cents :=
  s.payments.sumWhere
    (fun id payment => paidIn ctx range id payment && payment.method == .bankTransfer) (·.amount)

def unfinishedRefunds : Cents :=
  s.refunds.sumWhere
    (fun id refund => refundIn ctx range id refund && refund.status != .completed) (·.amount)

/-- By how much the values of the discounts exceed what each of them took off. -/
def valueNotTaken : Int :=
  s.discounts.total fun discountId discount =>
    if discountIn columns ctx range discountId discount then
      discount.value - takenOff s discountId discount else 0

end

variable {s : Store} {columns : Columns} {ctx : BranchContext} {range : Range}

-- ---
-- Sums over the rows of a report
-- ---

/-- A column of the staff report adds up to what the entries bring to it. -/
theorem staffTotal_eq {column : StaffFigures → CountTotal} {w : StaffEntry → Int}
    (hnew : (column {}).total = 0)
    (hadd : ∀ entry figures, (column (figures.add entry)).total =
      (column figures).total + w entry) :
    staffTotal s columns ctx range email column =
      ((staffEntries s columns ctx range).map w).sum := by
  rw [staffTotal, staffOperations]
  rw [((List.mergeSort_perm _ _).map _).sum_eq, List.map_map]
  exact Tally.collect_sum (m := fun figures => (column figures).total) _ _ _ (fun _ => hnew) hadd _

/-- What an entry brings to a column of the staff report. -/
def StaffEntry.sold : StaffEntry → Int
  | .sale _ total => total
  | _ => 0

def StaffEntry.refunded : StaffEntry → Int
  | .refund _ amount => amount
  | _ => 0

def StaffEntry.discounted : StaffEntry → Int
  | .discount _ value => value
  | _ => 0

theorem staffTotal_sales : staffTotal s columns ctx range email (·.sales) =
    (dailySales s ctx range).grossSales := by
  rw [staffTotal_eq (w := StaffEntry.sold) rfl]
  · simp [staffEntries, StaffEntry.sold, dailySales, salesFigures, Table.sumWhere,
      Function.comp_def]
  · rintro (_ | _ | _ | _) figures <;> simp [StaffFigures.add, StaffEntry.sold, CountTotal.add]

theorem staffTotal_refunds : staffTotal s columns ctx range email (·.refunds) =
    s.refunds.sumWhere (refundIn ctx range) (·.amount) := by
  rw [staffTotal_eq (w := StaffEntry.refunded) rfl]
  · simp [staffEntries, StaffEntry.refunded, Table.sumWhere, Function.comp_def]
  · rintro (_ | _ | _ | _) figures <;> simp [StaffFigures.add, StaffEntry.refunded, CountTotal.add]

theorem staffTotal_discounts : staffTotal s columns ctx range email (·.discounts) =
    s.discounts.sumWhere (discountIn columns ctx range) (·.value) := by
  rw [staffTotal_eq (w := StaffEntry.discounted) rfl]
  · simp [staffEntries, StaffEntry.discounted, Table.sumWhere, Function.comp_def]
  · rintro (_ | _ | _ | _) figures <;>
      simp [StaffFigures.add, StaffEntry.discounted, CountTotal.add]

theorem hourSales_sum : ((salesByHour s ctx range getHours).hourlyBreakdown.map (·.sales)).sum =
    (dailySales s ctx range).grossSales := by
  have hsum := Tally.foldl_upsert_sum (fun row : Id × Order => getHours row.2.createdAt)
    (fun _ => {}) (fun row => CountTotal.add row.2.total) (m := fun _ group => group.total)
    (fun _ => rfl) (fun _ _ => rfl) ((List.finRange 24).map fun hour => (hour, {}))
    (s.orders.findMany (soldIn ctx range))
  have hstart : (((List.finRange 24).map fun hour => (hour, ({} : CountTotal))).map
      fun entry => entry.2.total).sum = 0 := by
    simp [Function.comp_def]
  rw [hstart, zero_add] at hsum
  simp only [salesByHour, List.map_map]
  exact hsum

/-- The two payment mixes differ by the bank transfers. -/
theorem paymentMix_eq : (paymentMix s ctx range).totalAmount =
    (aggregatePaymentMix s ctx.organizationId (some ctx.branchId) range).sum +
      bankTransfers s ctx range := by
  let groups := groupByMethod (s.payments.findMany (paidIn ctx range))
  have hmix : (aggregatePaymentMix s ctx.organizationId (some ctx.branchId) range).sum =
      (groups.map fun group => if group.1 = .bankTransfer then 0 else group.2.total).sum :=
    PaymentMix.sum_foldl_set (Tally.nodup_collect _ _ _ _)
  have hbank : (groups.map fun group => if group.1 = .bankTransfer then group.2.total else 0).sum =
      ((s.payments.findMany (paidIn ctx range)).map fun row =>
        if row.2.method = .bankTransfer then row.2.amount else 0).sum := by
    have hsum := Tally.foldl_upsert_sum (fun row : Id × Payment => row.2.method) (fun _ => {})
      (fun row => CountTotal.add row.2.amount)
      (m := fun method group => if method = .bankTransfer then group.total else 0)
      (w := fun row => if row.2.method = .bankTransfer then row.2.amount else 0)
      (fun row => by simp) (fun row group => by split <;> simp [CountTotal.add]) []
      (s.payments.findMany (paidIn ctx range))
    rwa [List.map_nil, List.sum_nil, zero_add] at hsum
  have hrows : bankTransfers s ctx range = s.payments.sumWhere (paidIn ctx range) fun payment =>
      if payment.method = .bankTransfer then payment.amount else 0 := by
    simp only [bankTransfers, Table.sumWhere_eq_total]
    refine Table.total_congr fun id payment _ => ?_
    cases paidIn ctx range id payment <;> simp
  have htotal : (paymentMix s ctx range).totalAmount =
      (groups.map fun group => group.2.total).sum := rfl
  rw [hmix, hrows, Table.sumWhere, ← hbank, htotal, ← List.sum_map_add]
  congr 1
  refine List.map_congr_left fun group _ => ?_
  split <;> simp

/-- The sales and the refunds of the dashboard are those of the daily sales. -/
theorem dashboard_agrees :
    (aggregateSales s ctx.organizationId (some ctx.branchId) range).grossSales =
        (dailySales s ctx range).grossSales ∧
      aggregateRefunds s ctx.organizationId (some ctx.branchId) range =
        (dailySales s ctx range).refundTotal := by
  refine ⟨rfl, ?_⟩
  simp only [aggregateRefunds, dailySales, Table.sumWhere_eq_total]
  refine Table.total_congr fun id refund _ => ?_
  have hsame : (inScope ctx.organizationId (some ctx.branchId) refund.orgId refund.branchId &&
      refund.status == .completed && range.has refund.createdAt) =
      (refundIn ctx range id refund && refund.status == .completed) := by
    simp only [inScope, refundIn, Option.all_some]
    ac_rfl
  rw [hsame]

theorem refunds_eq : s.refunds.sumWhere (refundIn ctx range) (·.amount) =
    (dailySales s ctx range).refundTotal + unfinishedRefunds s ctx range := by
  simp only [dailySales, unfinishedRefunds, Table.sumWhere_eq_total, ← Table.total_add]
  refine Table.total_congr fun id refund _ => ?_
  cases refundIn ctx range id refund <;> by_cases hstatus : refund.status = .completed <;>
    simp [hstatus]

theorem discounts_eq : s.discounts.sumWhere (discountIn columns ctx range) (·.value) =
    moneyOff s columns ctx range + valueNotTaken s columns ctx range := by
  simp only [moneyOff, valueNotTaken, Table.sumWhere_eq_total, ← Table.total_add]
  refine Table.total_congr fun id discount _ => ?_
  split <;> simp

-- ---
-- When the reports agree
-- ---

/-- The reports of a range agree if and only if its bank transfers, its refunds that are not
completed, and what its discounts are worth beyond the money they took off come to nothing. -/
theorem reports_agree_iff : ReportsAgree s columns ctx range getHours email ↔
    bankTransfers s ctx range = 0 ∧ unfinishedRefunds s ctx range = 0 ∧
      valueNotTaken s columns ctx range = 0 := by
  have hrefunds : (refundsSummary s columns ctx range email).grandTotal =
      (dailySales s ctx range).refundTotal + unfinishedRefunds s ctx range := refunds_eq
  have hdiscounts : (discountsSummary s columns ctx range email).grandTotal =
      moneyOff s columns ctx range + valueNotTaken s columns ctx range := discounts_eq
  have hpayments : (paymentMix s ctx range).totalAmount =
      (aggregatePaymentMix s ctx.organizationId (some ctx.branchId) range).sum +
        bankTransfers s ctx range := paymentMix_eq
  constructor
  · intro h
    refine ⟨?_, ?_, ?_⟩
    · exact add_eq_left.mp (hpayments.symm.trans h.payments)
    · exact add_eq_left.mp (hrefunds.symm.trans h.refunds)
    · exact add_eq_left.mp (hdiscounts.symm.trans h.discounts)
  · rintro ⟨hbank, hunfinished, hvalue⟩
    rw [hunfinished, add_zero] at hrefunds
    exact
      { staffSales := staffTotal_sales
        hourSales := hourSales_sum
        payments := by rw [hpayments, hbank, add_zero]
        refunds := hrefunds
        staffRefunds := staffTotal_refunds.trans hrefunds
        staffDiscounts := staffTotal_discounts.symm
        discounts := by rw [hdiscounts, hvalue, add_zero] }

/-- An order paid by bank transfer, with a refund that waits for approval and a discount of 20 %
that was rejected. -/
def transferDay : Store where
  orders := Table.empty.insert
    { orgId := 0, branchId := 0, tableId := none, userId := 0, orderNumber := "1"
      status := .closed, serviceType := .takeaway, subtotal := 10000, total := 10000
      createdAt := 0, updatedAt := 0 }
  payments := Table.empty.insert
    { orgId := 0, branchId := 0, orderId := 0, amount := 10000, method := .bankTransfer
      status := .completed, createdAt := 0 }
  refunds := Table.empty.insert
    { orgId := 0, branchId := 0, orderId := 0, paymentId := 0, amount := 3000, status := .pending
      createdAt := 0 }
  discounts := Table.empty.insert
    { orgId := 0, branchId := 0, orderId := 0, type := .percentage, value := 2000
      status := .rejected, approvedAt := none }

/-- The dashboard has nothing of the payment, the daily sales nothing of the refund, and the
percentage is 20.00 of discounts. -/
theorem transfer_in_one_report :
    (¬∀ s columns ctx range getHours email, ReportsAgree s columns ctx range getHours email) ∧
      (paymentMix transferDay ⟨0, 0⟩ ⟨0, 1⟩).totalAmount = 10000 ∧
      aggregatePaymentMix transferDay 0 (some 0) ⟨0, 1⟩ = {} ∧
      (refundsSummary transferDay ⟨fun _ => 0, fun _ => 0, fun _ => 0⟩ ⟨0, 0⟩ ⟨0, 1⟩
        toString).grandTotal = 3000 ∧
      (dailySales transferDay ⟨0, 0⟩ ⟨0, 1⟩).refundTotal = 0 ∧
      (discountsSummary transferDay ⟨fun _ => 0, fun _ => 0, fun _ => 0⟩ ⟨0, 0⟩ ⟨0, 1⟩
        toString).grandTotal = 2000 ∧
      moneyOff transferDay ⟨fun _ => 0, fun _ => 0, fun _ => 0⟩ ⟨0, 0⟩ ⟨0, 1⟩ = 0 := by
  refine ⟨fun hall => ?_, by decide, by decide, by decide, by decide, by decide, by decide⟩
  have hpayments := (hall transferDay ⟨fun _ => 0, fun _ => 0, fun _ => 0⟩ ⟨0, 0⟩ ⟨0, 1⟩
    (fun _ => 0) toString).payments
  revert hpayments
  decide

end NimbusPos.ReportsService
