import NimbusPos.Cashier.Refunds
import NimbusPos.Cashier.SplitAgreement
import NimbusPos.OrderPayments

/-!
# What the cashier can take

The payment panel checks an entry against the order that it shows before it sends it. Its numbers
count cents, none where the field holds no number.
-/

namespace NimbusPos.CashierPayments

open CashierRefunds (upper)
open CashierResolution (parseCashierResolutionAmount reasonIf)

inductive CashierPaymentMethodId
  | cash
  | cardReference
  | mtnReference
  | airtelReference
  | bankTransfer
  deriving DecidableEq, Repr

/-- Cash alone needs no reference. -/
def CashierPaymentMethodId.requiresReference : CashierPaymentMethodId → Bool
  | .cash => false
  | .cardReference | .mtnReference | .airtelReference | .bankTransfer => true

structure CashierPaymentSummaryViewModel where
  outstanding : Option Cents := none
  /-- The status of each intent. -/
  intents : List (Option String) := []
  deriving DecidableEq, Repr

structure CashierOrderViewModel where
  status : String
  total : Option Cents := none
  payment : CashierPaymentSummaryViewModel := {}
  deriving DecidableEq, Repr

/-- The status of the shift and of the till. -/
structure CashierReadinessSnapshot where
  shift : String
  till : String
  deriving DecidableEq, Repr

/-- The same text as `parseCashierResolutionAmount`. -/
def parseCashierPaymentAmount (input : String) : Except String Nat :=
  parseCashierResolutionAmount input

def hasPendingCashierPaymentIntent (order : CashierOrderViewModel) : Bool :=
  order.payment.intents.any fun status =>
    upper status "" == "PENDING" || upper status "" == "REQUIRES_ACTION"

def getCashierOutstandingAmount (order : CashierOrderViewModel) : Cents :=
  (order.payment.outstanding <|> order.total).getD 0

def isCashierOrderClosed (order : CashierOrderViewModel) : Bool := order.status == "CLOSED"

def isCashierOrderVoid (order : CashierOrderViewModel) : Bool := order.status == "VOIDED"

structure CashierPaymentInput where
  amountInput : String
  methodId : CashierPaymentMethodId
  order : CashierOrderViewModel
  readiness : CashierReadinessSnapshot
  reference : String
  paymentSummaryBlocked : Bool := false
  deriving DecidableEq, Repr

structure CashierPaymentValidation where
  amount : Option Cents
  reasons : List String
  canSubmit : Bool
  deriving DecidableEq, Repr

def validateCashierPaymentInput (input : CashierPaymentInput) : CashierPaymentValidation :=
  let { amountInput, methodId, order, readiness, reference, paymentSummaryBlocked } := input
  let parsed := parseCashierPaymentAmount amountInput
  let outstandingCents := getCashierOutstandingAmount order
  let amountCents : Option Cents := parsed.toOption.map fun amount => (amount : Int)
  let reasons :=
    reasonIf (readiness.shift != "active") "No active shift. Start a shift before checkout." ++
    reasonIf (methodId == .cash && readiness.till != "active")
      "No active till. Cash payments are blocked." ++
    reasonIf paymentSummaryBlocked "Payment summary must load before payment entry." ++
    reasonIf (isCashierOrderClosed order || isCashierOrderVoid order)
      "Order is not in a payable state." ++
    reasonIf (hasPendingCashierPaymentIntent order)
      "A provider intent is pending. Resolve it before adding another payment." ++
    (match parsed with
      | .error error => [error]
      | .ok _ => []) ++
    reasonIf (amountCents.any (outstandingCents < ·)) "Amount cannot exceed outstanding balance." ++
    reasonIf (amountCents.any (· != outstandingCents) && methodId == .cash)
      "Partial cash is deferred because cash can only be recorded through final order close." ++
    reasonIf (methodId == .cash && order.status != "SERVED")
      "Cash close is available only when the backend order status is Served." ++
    reasonIf (methodId.requiresReference && (Text.trim reference).isEmpty)
      "Manual reference is required for this method." ++
    reasonIf (outstandingCents ≤ 0) "This order is already settled."
  { amount := amountCents, reasons, canSubmit := reasons.isEmpty && amountCents.isSome }

/-- A reason that was not given. -/
theorem reasonIf_nil : reasonIf wrong reason = [] ↔ wrong = false := by
  cases wrong <;> simp [reasonIf]

/-- Cash that can be sent is what is outstanding, for a served order without a pending intent. -/
theorem cash_submits {input : CashierPaymentInput} (hcash : input.methodId = .cash)
    (h : (validateCashierPaymentInput input).canSubmit = true) :
    (validateCashierPaymentInput input).amount =
        some (getCashierOutstandingAmount input.order) ∧
      0 < getCashierOutstandingAmount input.order ∧ input.order.status = "SERVED" ∧
        hasPendingCashierPaymentIntent input.order = false := by
  simp only [validateCashierPaymentInput, Bool.and_eq_true, List.isEmpty_iff,
    List.append_eq_nil_iff, reasonIf_nil, hcash, beq_self_eq_true, Bool.true_and,
    Bool.and_true] at h ⊢
  obtain ⟨⟨⟨⟨⟨⟨⟨⟨-, hpending⟩, -⟩, -⟩, hpartial⟩, hserved⟩, -⟩, hsettled⟩, hamount⟩ := h
  obtain ⟨amount, hread⟩ := Option.isSome_iff_exists.mp hamount
  rw [hread] at hpartial ⊢
  refine ⟨?_, by simpa using hsettled, by simpa using hserved, hpending⟩
  simpa using hpartial

end NimbusPos.CashierPayments

/-!
# The cashier's caps are the backend's

`cashier_caps`: for a closed order, the refund panel enables a payment exactly when a refund of it
is accepted, up to the amount that it shows; and the cash that the payment panel lets through
closes the order, with nothing to give back.
-/

namespace NimbusPos.CashierRefunds

open Lib Lib.Service
open PaymentsService RefundsService CashierPayments

variable {s : Store}

/-- Refunds and payments name rows of their own order and branch. -/
structure Placed (s : Store) : Prop where
  refunds : RefundsLinked s
  payments : ∀ k payment, s.payments.get? k = some payment →
    Belongs s payment.orderId payment.branchId

-- ---
-- What is sent to the cashier
-- ---

/-- A payment of the order, as the server sends it. -/
def Sent (s : Store) (ctx : BranchContext) (orderId : Id) (row : CashierPaymentApi) : Prop :=
  ∃ payment, s.payments.get? row.id = some payment ∧ payment.orderId = orderId ∧
    payment.branchId = ctx.branchId ∧ row.amount = some payment.amount ∧
      row.status = some (toString payment.status)

def sentRefund (refund : Refund) : CashierRefundApi :=
  { paymentId := some refund.paymentId, amount := some refund.amount
    status := some (toString refund.status) }

def listOrderRefunds (s : Store) (ctx : BranchContext) (orderId : Id) : List CashierRefundApi :=
  (s.refunds.findMany fun _ refund =>
    refund.orderId == orderId && refund.branchId == ctx.branchId).map fun row => sentRefund row.2

/-- The order as the payment panel shows it, with what is outstanding and the intents as
`getOrderPayments` sends them. -/
structure Shown (s : Store) (ctx : BranchContext) (orderId : Id) (order : Order)
    (view : CashierOrderViewModel) : Prop where
  status : view.status = toString order.status
  outstanding : view.payment.outstanding = some (getOutstandingBalance s orderId ctx.branchId)
  intents : ∀ k intent, s.paymentIntents.get? k = some intent → intent.orderId = orderId →
    intent.branchId = ctx.branchId → some (toString intent.status) ∈ view.payment.intents

-- ---
-- What a refund may be
-- ---

/-- A refund of the amount is accepted. -/
def Accepts (s : Store) (ctx : BranchContext) (orderId paymentId : Id) (amount : Cents) : Prop :=
  ∃ dto : CreateRefundDto, dto.paymentId = paymentId ∧ dto.amount = amount ∧
    ∃ u t, createRefund ctx orderId dto s = .ok u t

theorem accepts_iff (hfind : s.findOrder ctx orderId = some order)
    (hclosed : order.status = .closed) :
    Accepts s ctx orderId paymentId amount ↔ 1 ≤ amount ∧ ∃ payment,
      findPayment s ctx orderId paymentId = some payment ∧
        amount ≤ payment.amount - liveRefunds s paymentId := by
  constructor
  · rintro ⟨dto, rfl, rfl, u, t, h⟩
    obtain ⟨_, payment, -, -, hpayment, hle, -⟩ := createRefund_ok h
    exact ⟨dto.amount_pos, payment, hpayment, hle⟩
  · rintro ⟨hpos, payment, hpayment, hle⟩
    refine ⟨⟨paymentId, amount, hpos⟩, rfl, rfl, ?_⟩
    simp [createRefund, hfind, hclosed, hpayment, hle]

/-- The statuses that count are those of the refunds that are live. -/
theorem counted_sent (refund : Refund) :
    counted (sentRefund refund) =
      if RefundStatus.live refund.status then some (refund.paymentId, refund.amount) else none := by
  have hactive : activeRefundStatuses.contains (upper (some (toString refund.status)) "") =
      RefundStatus.live refund.status := by
    cases refund.status <;> decide
  simp only [counted, sentRefund, Option.bind_eq_bind, Option.bind_some, hactive]

/-- Among refunds of which those of the payment are selected, what counts for it is what is
live. -/
theorem counted_sum {p : Nat × Refund → Bool} {rows : List (Nat × Refund)}
    (h : ∀ row ∈ rows, row.2.paymentId = paymentId → p row = true) :
    (((((rows.filter p).map fun row => sentRefund row.2).filterMap counted).filter
        fun row => row.1 = paymentId).map Prod.snd).sum =
      ((rows.filter fun row => row.2.paymentId == paymentId &&
        RefundStatus.live row.2.status).map fun row => row.2.amount).sum := by
  induction rows with
  | nil => rfl
  | cons row rows ih =>
    have ih := ih fun other hother => h other (.tail _ hother)
    by_cases hmine : row.2.paymentId = paymentId
    · have hp := h row (.head _) hmine
      cases hlive : RefundStatus.live row.2.status <;>
        simpa [hp, hmine, hlive, counted_sent] using ih
    · cases hlive : RefundStatus.live row.2.status <;> cases hp : p row <;>
        simpa [hp, hmine, hlive, counted_sent] using ih

/-- What the panel counts against a payment is what `createRefund` does. -/
theorem refunded_eq (hs : Placed s) {payment : Payment}
    (hpayment : s.payments.get? paymentId = some payment) (horder : payment.orderId = orderId)
    (hbranch : payment.branchId = ctx.branchId) {refunds : List CashierRefundApi}
    (hrefunds : refunds.Perm (listOrderRefunds s ctx orderId)) :
    ((refundedByPayment refunds).lookup paymentId).getD 0 = liveRefunds s paymentId := by
  have hselected : ∀ row ∈ s.refunds.rows, row.2.paymentId = paymentId →
      (row.2.orderId == orderId && row.2.branchId == ctx.branchId) = true := by
    rintro ⟨k, refund⟩ hrow hmine
    obtain ⟨own, hown, hplace⟩ := hs.refunds k refund (Table.get?_iff.mpr hrow)
    cases hpayment.symm.trans (hmine ▸ hown)
    simp [← hplace.1, ← hplace.2, horder, hbranch]
  rw [refundedByPayment_lookup]
  exact (((hrefunds.filterMap _).filter _).map _).sum_eq.trans (counted_sum hselected)

-- ---
-- A payment of the panel
-- ---

/-- A payment is enabled exactly when a refund of it is accepted, and then up to what is shown. -/
structure Capped (s : Store) (ctx : BranchContext) (orderId : Id)
    (option : CashierRefundPaymentOption) : Prop where
  enabled : option.disabledReason = none ↔ ∃ amount, Accepts s ctx orderId option.id amount
  greatest : option.disabledReason = none → ∃ cap, option.refundableAmount = some cap ∧
    IsGreatest {amount | Accepts s ctx orderId option.id amount} cap

/-- What the panel shows of a payment. -/
theorem paymentOption_enabled (refunded : Tally Id Cents) {row : CashierPaymentApi}
    {payment : Payment}
    (hamount : row.amount = some payment.amount)
    (hstatus : row.status = some (toString payment.status)) :
    (paymentOption refunded row).disabledReason = none ↔ payment.status = .completed ∧
      0 < payment.amount - (refunded.lookup row.id).getD 0 := by
  have hupper : upper (some (toString payment.status)) "UNKNOWN" = "COMPLETED" ↔
      payment.status = .completed := by
    cases payment.status <;> decide
  simp only [paymentOption, hamount, hstatus]
  by_cases hcompleted : payment.status = .completed
  · rw [if_neg (not_not.mpr (hupper.mpr hcompleted))]
    simp [hcompleted]
  · rw [if_pos fun h => hcompleted (hupper.mp h)]
    simp [hcompleted]

theorem paymentOption_capped (hs : Placed s) (hfind : s.findOrder ctx orderId = some order)
    (hclosed : order.status = .closed) {refunds : List CashierRefundApi}
    (hrefunds : refunds.Perm (listOrderRefunds s ctx orderId)) {row : CashierPaymentApi}
    (hrow : Sent s ctx orderId row) :
    Capped s ctx orderId (paymentOption (refundedByPayment refunds) row) := by
  obtain ⟨payment, hpayment, horder, hbranch, hamount, hstatus⟩ := hrow
  have hrefunded := refunded_eq hs hpayment horder hbranch hrefunds
  have henabled := paymentOption_enabled (refundedByPayment refunds) hamount hstatus
  rw [hrefunded] at henabled
  have haccepts (amount : Cents) : Accepts s ctx orderId row.id amount ↔ 1 ≤ amount ∧
      payment.status = .completed ∧ amount ≤ payment.amount - liveRefunds s row.id := by
    rw [accepts_iff hfind hclosed]
    refine and_congr_right fun _ => ⟨?_, ?_⟩
    · rintro ⟨found, hfound, hle⟩
      obtain ⟨hget, -, -, hcompleted⟩ := findPayment_iff.mp hfound
      cases hpayment.symm.trans hget
      exact ⟨hcompleted, hle⟩
    · rintro ⟨hcompleted, hle⟩
      exact ⟨payment, findPayment_iff.mpr ⟨hpayment, horder, hbranch, hcompleted⟩, hle⟩
  constructor
  · rw [henabled]
    constructor
    · rintro ⟨hcompleted, hleft⟩
      exact ⟨_, (haccepts _).mpr ⟨hleft, hcompleted, le_rfl⟩⟩
    · rintro ⟨amount, haccepted⟩
      obtain ⟨hpos, hcompleted, hle⟩ := (haccepts amount).mp haccepted
      exact ⟨hcompleted, lt_of_lt_of_le hpos hle⟩
  · intro hnone
    obtain ⟨hcompleted, hleft⟩ := henabled.mp hnone
    refine ⟨payment.amount - liveRefunds s row.id, ?_, (haccepts _).mpr ⟨hleft, hcompleted, le_rfl⟩,
      fun amount haccepted => ((haccepts amount).mp haccepted).2.2⟩
    simp only [paymentOption, hamount, hrefunded, Option.map_some, max_eq_right hleft.le]

-- ---
-- Cash
-- ---

/-- What the payment panel sends to close an order with cash. -/
def cashClose (amount : Cents) (hamount : 1 ≤ amount) : CloseOrderDto :=
  { payments := [{ method := .cash, amount, amount_pos := hamount }]
    payments_ne := List.cons_ne_nil _ _ }

/-- What has been paid for an order has been paid in its branch. -/
theorem alreadyPaid_eq (hs : Placed s) (hfind : s.findOrder ctx orderId = some order) :
    alreadyPaid s orderId = totalPaid s orderId ctx.branchId := by
  obtain ⟨hget, hbranch, -⟩ := findOrder_get hfind
  simp only [alreadyPaid, totalPaid, Table.sumWhere_eq_total]
  apply Table.total_congr
  intro k payment hpayment
  by_cases horder : payment.orderId = orderId
  · obtain ⟨own, hown, hplace⟩ := hs.payments k payment hpayment
    cases hget.symm.trans (horder ▸ hown)
    simp [horder, ← hplace, hbranch]
  · simp [horder]

theorem served_of_text {status : OrderStatus} (h : toString status = "SERVED") :
    status = .served := by
  revert h
  cases status <;> decide

/-- No intent of the order is pending when the panel shows none. -/
theorem Shown.settled {view : CashierOrderViewModel} (h : Shown s ctx orderId order view)
    (hnone : hasPendingCashierPaymentIntent view = false) :
    s.paymentIntents.count (fun _ intent => intent.orderId == orderId &&
      intent.branchId == ctx.branchId &&
        (intent.status == .pending || intent.status == .requiresAction)) = 0 := by
  rw [Table.count_eq_zero]
  intro k intent hget
  by_cases hmine : (intent.orderId == orderId && intent.branchId == ctx.branchId) = true
  · rw [hmine, Bool.true_and]
    simp only [Bool.and_eq_true, beq_iff_eq] at hmine
    have hshown := List.any_eq_false.mp hnone _ (h.intents k intent hget hmine.1 hmine.2)
    have hpending : ∀ status : PaymentIntentStatus,
        (upper (some (toString status)) "" == "PENDING" ||
          upper (some (toString status)) "" == "REQUIRES_ACTION") =
            (status == .pending || status == .requiresAction) := by
      intro status
      cases status <;> decide
    rw [hpending] at hshown
    exact Bool.eq_false_iff.mpr hshown
  · rw [Bool.eq_false_iff.mpr hmine, Bool.false_and]

/-- Cash that the panel lets through closes the order, with nothing to give back. -/
theorem cash_closes (hs : Placed s) (hfind : s.findOrder ctx orderId = some order)
    {input : CashierPaymentInput} (hshown : Shown s ctx orderId order input.order)
    (hcash : input.methodId = .cash)
    (hsubmit : (validateCashierPaymentInput input).canSubmit = true) :
    ∃ amount, ∃ hamount : 1 ≤ amount,
      (validateCashierPaymentInput input).amount = some amount ∧ ∃ receipt t,
        closeOrderWithPayment ctx orderId (cashClose amount hamount) s = .ok receipt t ∧
          receipt.changeDue = 0 := by
  obtain ⟨hamount, hpos, hstatus, hnone⟩ := cash_submits hcash hsubmit
  have hserved := served_of_text (hshown.status ▸ hstatus)
  have hbranch : findOrderInBranch s orderId ctx.branchId = some order :=
    findOrderInBranch_iff.mpr ⟨(findOrder_get hfind).1, (findOrder_get hfind).2.1⟩
  have hdue : getCashierOutstandingAmount input.order =
      max (order.total - alreadyPaid s orderId) 0 := by
    simp [getCashierOutstandingAmount, hshown.outstanding, getOutstandingBalance, hbranch,
      alreadyPaid_eq hs hfind]
  rw [hdue] at hamount hpos
  have hleft : max (order.total - alreadyPaid s orderId) 0 = order.total - alreadyPaid s orderId :=
    max_eq_left ((lt_max_iff.mp hpos).resolve_right (lt_irrefl _)).le
  rw [hleft] at hamount hpos
  have hcovered : alreadyPaid s orderId + (order.total - alreadyPaid s orderId) = order.total :=
    add_sub_cancel _ _
  refine ⟨_, hpos, hamount, ⟨order.total, order.total, 0⟩, ?_⟩
  simp [closeOrderWithPayment, hfind, hserved, closableStates, checkPayments, cashClose, tendered,
    hshown.settled hnone, hcovered, changeDue, sub_pos.mp hpos]

-- ---
-- Both panels
-- ---

theorem cashier_caps (hs : Placed s) (hfind : s.findOrder ctx orderId = some order) :
    (order.status = .closed → ∀ payments refunds, (∀ row ∈ payments, Sent s ctx orderId row) →
      refunds.Perm (listOrderRefunds s ctx orderId) →
        (deriveRefundableAmount payments refunds true).paymentOptions.map (·.id) =
            payments.map (·.id) ∧
          ∀ option ∈ (deriveRefundableAmount payments refunds true).paymentOptions,
            Capped s ctx orderId option) ∧
    ∀ input, Shown s ctx orderId order input.order → input.methodId = .cash →
      (validateCashierPaymentInput input).canSubmit = true →
        ∃ amount, ∃ hamount : 1 ≤ amount,
          (validateCashierPaymentInput input).amount = some amount ∧ ∃ receipt t,
            closeOrderWithPayment ctx orderId (cashClose amount hamount) s = .ok receipt t ∧
              receipt.changeDue = 0 := by
  refine ⟨fun hclosed payments refunds hpayments hrefunds => ⟨?_, ?_⟩,
    fun input hshown hcash hsubmit => cash_closes hs hfind hshown hcash hsubmit⟩
  · simp only [deriveRefundableAmount, if_true, List.map_map]
    rfl
  · simp only [deriveRefundableAmount, if_true, List.mem_map]
    rintro option ⟨row, hrow, rfl⟩
    exact paymentOption_capped hs hfind hclosed hrefunds (hpayments row hrow)

/-- A closed order paid by card, of which 3.00 were given back, 1.00 waits and 2.00 failed; and a
served order with 6.00 to pay. -/
def counterDay : Store where
  orders := (Table.empty.insert
    { orgId := 0, branchId := 0, tableId := none, userId := 0, orderNumber := "1"
      status := .closed, serviceType := .dineIn, subtotal := 1000, total := 1000
      createdAt := 0, updatedAt := 0 }).insert
    { orgId := 0, branchId := 0, tableId := none, userId := 0, orderNumber := "2"
      status := .served, serviceType := .dineIn, subtotal := 1000, total := 1000
      createdAt := 0, updatedAt := 0 }
  payments := (Table.empty.insert
    { orgId := 0, branchId := 0, orderId := 0, amount := 1000, method := .card
      status := .completed, createdAt := 0 }).insert
    { orgId := 0, branchId := 0, orderId := 1, amount := 400, method := .card
      status := .completed, createdAt := 0 }
  refunds := ((Table.empty.insert
    { orgId := 0, branchId := 0, orderId := 0, paymentId := 0, amount := 300
      status := .completed, createdAt := 0 }).insert
    { orgId := 0, branchId := 0, orderId := 0, paymentId := 0, amount := 100
      status := .pending, createdAt := 0 }).insert
    { orgId := 0, branchId := 0, orderId := 0, paymentId := 0, amount := 200
      status := .failed, createdAt := 0 }

theorem counterDay_placed : Placed counterDay := by
  constructor
  · intro k refund h
    have hrefund : refund.paymentId = 0 ∧ refund.orderId = 0 ∧ refund.branchId = 0 := by
      rcases Table.insert_cases h with ⟨-, rfl⟩ | h
      · decide
      rcases Table.insert_cases h with ⟨-, rfl⟩ | h
      · decide
      rcases Table.insert_cases h with ⟨-, rfl⟩ | h
      · decide
      · cases h
    obtain ⟨hpayment, horder, hbranch⟩ := hrefund
    rw [Subject, hpayment, horder, hbranch]
    exact ⟨_, rfl, rfl, rfl⟩
  · intro k payment h
    rcases Table.insert_cases h with ⟨-, rfl⟩ | h
    · exact ⟨_, rfl, rfl⟩
    rcases Table.insert_cases h with ⟨-, rfl⟩ | h
    · exact ⟨_, rfl, rfl⟩
    · cases h

def cardRow : CashierPaymentApi :=
  { id := 0, amount := some 1000, method := some "CARD", status := some "COMPLETED" }

/-- The last 6.00, in cash. -/
def lastCash : CashierPaymentInput where
  amountInput := "6.00"
  methodId := .cash
  order := { status := "SERVED", total := some 1000
             payment := { outstanding := some 600 } }
  readiness := ⟨"active", "active"⟩
  reference := ""

/-- 6.00 of the payment can be refunded, and the 6.00 in cash close the other order. -/
theorem cashier_caps_counterDay :
    (∀ option ∈ (deriveRefundableAmount [cardRow] (listOrderRefunds counterDay ⟨0, 0⟩ 0)
        true).paymentOptions, option.refundableAmount = some 600 ∧
      IsGreatest {amount | Accepts counterDay ⟨0, 0⟩ 0 0 amount} 600) ∧
    ∃ hamount : (1 : Cents) ≤ 600, ∃ receipt t,
      closeOrderWithPayment ⟨0, 0⟩ 1 (cashClose 600 hamount) counterDay = .ok receipt t ∧
        receipt.changeDue = 0 := by
  constructor
  · have hfind : counterDay.findOrder ⟨0, 0⟩ 0 = some _ := rfl
    have hsent : ∀ row ∈ [cardRow], Sent counterDay ⟨0, 0⟩ 0 row := by
      simp only [List.mem_singleton, forall_eq]
      exact ⟨_, rfl, rfl, rfl, rfl, rfl⟩
    have hcaps := ((cashier_caps counterDay_placed hfind).1 rfl [cardRow] _ hsent (.refl _)).2
    intro option hoption
    have hcapped := hcaps option hoption
    obtain rfl : option = paymentOption (refundedByPayment (listOrderRefunds counterDay ⟨0, 0⟩ 0))
        cardRow := List.mem_singleton.mp hoption
    obtain ⟨cap, hcap, hgreatest⟩ := hcapped.greatest (by decide)
    have hshown : (paymentOption (refundedByPayment (listOrderRefunds counterDay ⟨0, 0⟩ 0))
        cardRow).refundableAmount = some 600 := by decide
    cases hshown.symm.trans hcap
    exact ⟨hshown, hgreatest⟩
  · have hfind : counterDay.findOrder ⟨0, 0⟩ 1 = some _ := rfl
    obtain ⟨amount, hamount, hread, hcloses⟩ := (cashier_caps counterDay_placed hfind).2 lastCash
      ⟨rfl, by decide, fun k intent h => by cases h⟩ rfl (by decide +kernel)
    have hshown : (validateCashierPaymentInput lastCash).amount = some 600 := by decide +kernel
    cases hshown.symm.trans hread
    exact ⟨hamount, hcloses⟩

end NimbusPos.CashierRefunds
