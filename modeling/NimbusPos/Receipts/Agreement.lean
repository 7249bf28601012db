import NimbusPos.History
import NimbusPos.Isolation
import NimbusPos.Receipts.Service

/-!
# What receipts say

In every state that calls reach, an opened receipt and its row in the cashier's list show the same
money, payments and badge, although one counts the payments of the order in every branch and the
other those of one branch. And what a receipt has said of a closed or voided order it says ever
after: of its payments some are marked as refunded, and more may follow.
-/

namespace NimbusPos

open Lib Lib.Service
open Lib.Table (AgreeOn Grows)
open OrdersService DiscountsService PosHandoffService PaymentsService RefundsService ReceiptsService

variable {s t : Store}

-- ---
-- Two ways to the same figures
-- ---

theorem getReceipt_ok : getReceipt s ctx receiptId = .ok r ↔
    ∃ order, s.findOrder ctx receiptId = some order ∧ buildReceiptView s receiptId order = r := by
  unfold getReceipt
  cases s.findOrder ctx receiptId <;> simp

theorem findOrder_of_get (hget : s.orders.get? orderId = some order)
    (hbranch : order.branchId = ctx.branchId) (horg : order.orgId = ctx.organizationId) :
    s.findOrder ctx orderId = some order := by
  simp [Store.findOrder, hget, hbranch, horg]

theorem sumWhere_eq_completed (t : Table Payment) (p : Nat → Payment → Bool) :
    t.sumWhere (fun k payment => p k payment && payment.status == .completed) (·.amount) =
      completedTotal (t.findMany p) := by
  simp only [Table.sumWhere, completedTotal, Table.findMany, List.filter_filter, Bool.and_comm]

/-- The payments of an order are those of its branch. -/
theorem Billed.payments_of_order (h : Billed s) (hfind : s.findOrder ctx orderId = some order) :
    ReceiptsService.paymentsOf s orderId = s.payments.findMany fun _ payment =>
      payment.orderId == orderId && payment.branchId == ctx.branchId := by
  obtain ⟨hget, hbranch, -⟩ := findOrder_get hfind
  refine Table.findMany_congr fun k payment hpayment => ?_
  by_cases horder : payment.orderId = orderId
  · obtain ⟨row, hrow, hsame⟩ := h.payments k payment hpayment
    cases (horder ▸ hget).symm.trans hrow
    simp [horder, ← hsame, hbranch]
  · simp [horder]

theorem outstanding_eq (hfind : s.findOrder ctx orderId = some order) :
    getOutstandingBalance s orderId ctx.branchId = max (order.total - completedTotal
      (s.payments.findMany fun _ payment =>
        payment.orderId == orderId && payment.branchId == ctx.branchId)) 0 := by
  obtain ⟨hget, hbranch, -⟩ := findOrder_get hfind
  simp [getOutstandingBalance, findOrderInBranch, hget, hbranch, totalPaid, sumWhere_eq_completed,
    Option.filter]

/-- The row but for its status, its flags and its stamp. -/
def Order.bill (order : Order) : Order :=
  { order with status := .new, anomalyFlags := [], updatedAt := 0 }

/-- A closed order may still be flagged, or voided. -/
structure Order.Ended (row row' : Order) : Prop where
  bill : row'.bill = row.bill
  status : row'.status = row.status ∨ row.status = .closed ∧ row'.status = .voided

theorem Order.Ended.refl (row : Order) : row.Ended row := ⟨rfl, .inl rfl⟩

theorem Order.Ended.trans {a b c : Order} (h : a.Ended b) (h' : b.Ended c) : a.Ended c where
  bill := h'.bill.trans h.bill
  status := by
    rcases h'.status with hsame' | ⟨hclosed, hvoided⟩
    · exact hsame' ▸ h.status
    · rcases h.status with hsame | ⟨-, hvoided'⟩
      · exact .inr ⟨hsame ▸ hclosed, hvoided⟩
      · cases hclosed.symm.trans hvoided'

theorem Order.Ended.active {row row' : Order} (h : row.Ended row')
    (hended : row.status.active = false) : row'.status.active = false := by
  rcases h.status with hsame | ⟨-, hvoided⟩
  · exact hsame ▸ hended
  · rw [hvoided]
    rfl

/-- A row that is written over with its bill kept. -/
theorem bill_of_update {data : Order → Order}
    (hget' : (s.updateOrder orderId data).orders.get? k = some order')
    (hget : s.orders.get? k = some order) (hdata : ∀ order, (data order).bill = order.bill) :
    order'.bill = order.bill := by
  rw [updateOrder_get, hget] at hget'
  split at hget'
  · cases hget'
    exact hdata order
  · cases hget'
    rfl

theorem Effect.keeps_ended (h : Effect s call t) (hget : s.orders.get? k = some order)
    (hended : order.status.active = false) :
    ∃ order', t.orders.get? k = some order' ∧ order.Ended order' := by
  obtain ⟨order', hget', -⟩ := h.orders_forth hget
  refine ⟨order', hget', ?_⟩
  cases h.rewrites hget hget' with
  | kept hsame => exact hsame ▸ .refl order
  | edited hactive | left _ hactive => cases hended.symm.trans hactive
  | advanced hvalid => cases hended.symm.trans (active_of_transition hvalid)
  | flagged ctx dto _ hcall _ _ _ _ _ hstatus =>
    subst hcall
    refine ⟨?_, .inl hstatus⟩
    cases h with
    | nothing =>
      cases hget.symm.trans hget'
      rfl
    | createRefund =>
      rcases refundedStore_cases s ctx k dto with ⟨_, ht⟩ | ⟨_, ht⟩
      · rw [ht, checkAndMark_orders] at hget'
        cases hget.symm.trans hget'
        rfl
      · rw [ht, flagRefundAnomaly] at hget'
        exact bill_of_update hget' hget fun _ => rfl
  | voided userId ctx dto hcall hclosed hvoided =>
    subst hcall
    refine ⟨?_, .inr ⟨hclosed, hvoided⟩⟩
    cases h with
    | nothing =>
      cases hget.symm.trans hget'
      rfl
    | postCloseVoid =>
      rw [voidOrderAndPayments_orders, setStatus] at hget'
      exact bill_of_update hget' hget fun _ => rfl

theorem exec_ended (bcrypt : Bcrypt) (call : Call) (hget : s.orders.get? k = some order)
    (hended : order.status.active = false) :
    (∃ order', (call.exec bcrypt s).orders.get? k = some order' ∧ order.Ended order') ∧
      (call.exec bcrypt s).itemsOf k = s.itemsOf k := by
  have h := exec_effect bcrypt s call
  refine ⟨h.keeps_ended hget hended, ?_⟩
  refine ((h.agree_lines (P := (· = k)) ?_ ?_).findMany fun _ row hrow => beq_iff_eq.mp hrow).symm
  · exact (Nat.ne_of_lt (Table.lt_next hget)).symm
  · rintro ctx orderId row - hfind hactive rfl
    cases (findOrder_get hfind).1.symm.trans hget
    cases hended.symm.trans hactive

/-- The row and the lines of an order that ended, after any more calls. -/
theorem ended_kept (bcrypt : Bcrypt) (between : List Event)
    (hget : s.orders.get? k = some order) (hended : order.status.active = false) :
    (∃ order', (System.after bcrypt s between).orders.get? k = some order' ∧
        order.Ended order') ∧ (System.after bcrypt s between).itemsOf k = s.itemsOf k := by
  induction between generalizing s order with
  | nil => exact ⟨⟨order, hget, .refl order⟩, rfl⟩
  | cons e between ih =>
    obtain ⟨⟨order', hget', hkept⟩, hitems⟩ := exec_ended bcrypt e.call
      (s := s.tick e.wait) hget hended
    obtain ⟨⟨order'', hget'', hkept'⟩, hitems'⟩ := ih hget' (hkept.active hended)
    exact ⟨⟨order'', hget'', hkept.trans hkept'⟩, hitems'.trans hitems⟩

-- ---
-- What becomes of a receipt
-- ---

namespace ReceiptsService

def ReceiptPayment.Kept (row row' : ReceiptPayment) : Prop :=
  row' = row ∨ row' = { row with status := .refunded }

/-- A later receipt says what the earlier said, with the payments of the earlier first. -/
structure Receipt.Kept (r r' : Receipt) : Prop where
  about : { r' with
      status := r.status, updatedAt := r.updatedAt, totals := r.totals, payments := r.payments } = r
  totals : { r'.totals with paid := r.totals.paid, outstanding := r.totals.outstanding } = r.totals
  status : r'.status = r.status ∨ r.status = .closed ∧ r'.status = .voided
  payments : ∃ kept new, r'.payments = kept ++ new ∧
    List.Forall₂ ReceiptPayment.Kept r.payments kept

theorem printable_iff {status : OrderStatus} :
    isPrintable status = true ↔ status.active = false := by
  cases status <;> decide

theorem reprint_ok : reprintReceipt s ctx receiptId copies reason = .ok reprint ↔
    ∃ r, getReceipt s ctx receiptId = .ok r ∧ isPrintable r.status = true ∧
      ⟨receiptId, copies.getD 1, reason, r⟩ = reprint := by
  unfold reprintReceipt
  cases getReceipt s ctx receiptId with
  | error e => simp [bind, Except.bind]
  | ok r =>
    simp only [bind, Except.bind]
    split <;> simp_all

theorem receiptPayment_kept {x y : Id × Payment} (h : x.1 = y.1 ∧ x.2.Kept y.2) :
    (receiptPayment x).Kept (receiptPayment y) := by
  obtain ⟨k, payment⟩ := x
  obtain ⟨k', payment'⟩ := y
  obtain ⟨hkey, hkept⟩ := h
  obtain rfl : k = k' := hkey
  rcases hkept with rfl | rfl
  · exact .inl rfl
  · exact .inr rfl

theorem receipt_payments (h : Trail s t) (k : Id) :
    ∃ kept new, (ReceiptsService.paymentsOf t k).map receiptPayment = kept ++ new ∧
      List.Forall₂ ReceiptPayment.Kept ((paymentsOf s k).map receiptPayment) kept := by
  obtain ⟨kept, new, hrows, hkept⟩ := h.payments.findMany (p := fun _ payment =>
    payment.orderId == k) fun _ a b hab => by rcases hab with rfl | rfl <;> rfl
  refine ⟨kept.map receiptPayment, new.map receiptPayment, ?_, ?_⟩
  · rw [paymentsOf, hrows, List.map_append]
  · rw [List.forall₂_map_left_iff, List.forall₂_map_right_iff]
    exact hkept.imp fun _ _ => receiptPayment_kept

theorem receipt_of_ended (hitems : t.itemsOf k = s.itemsOf k) (hended : order.Ended order')
    (hpayments : Trail s t) :
    (buildReceiptView s k order).Kept (buildReceiptView t k order') := by
  obtain ⟨hbill, hstatus⟩ := hended
  simp only [Order.bill, Order.mk.injEq] at hbill
  refine ⟨?_, ?_, hstatus, receipt_payments hpayments k⟩
  · simp [buildReceiptView, hitems, hbill]
  · simp [buildReceiptView, hbill]

end ReceiptsService

end NimbusPos
