import NimbusPos.Common

/-!
# Payments

Closing an order at the till, mobile-money intents, manual references, and the
automatic settlement that runs after a payment is recorded.
-/

namespace NimbusPos.PaymentsService

open Lib Lib.Service

def closableStates : List OrderStatus := [.served]

def payableStates : List OrderStatus := [.new, .sent, .inKitchen, .ready, .served]

/-- Completed payments of an order in one branch. -/
def totalPaid (s : Store) (orderId branchId : Id) : Cents :=
  s.payments.sumWhere (fun _ payment =>
    payment.orderId == orderId && payment.branchId == branchId && payment.status == .completed)
      (·.amount)

/-- `order.findFirst({ where: { id, branchId } })`. -/
def findOrderInBranch (s : Store) (orderId branchId : Id) : Option Order :=
  (s.orders.get? orderId).filter (·.branchId == branchId)

def getOutstandingBalance (s : Store) (orderId branchId : Id) : Cents :=
  match findOrderInBranch s orderId branchId with
  | none => 0
  | some order => max (order.total - totalPaid s orderId branchId) 0

/-- Whether the order is settled, and the store it leaves. -/
def autoSettleIfFullyPaid (s : Store) (orderId branchId : Id) : Bool × Store :=
  match findOrderInBranch s orderId branchId with
  | none => (false, s)
  | some order =>
    if order.status = .closed ∨ order.status = .voided then (false, s)
    else if getOutstandingBalance s orderId branchId ≤ 0 then
      (true, s.updateOrder orderId fun order => { order with status := .closed })
    else (false, s)

-- ---
-- Closing an order at the till
-- ---

structure CloseOrderPaymentDto where
  method : PaymentMethod
  amount : Cents
  /-- `@Min(0.01)` -/
  amount_pos : 1 ≤ amount
  transactionId : Option String := none
  deriving DecidableEq, Repr

/-- `@ArrayMinSize(1)` -/
structure CloseOrderDto where
  payments : List CloseOrderPaymentDto
  payments_ne : payments ≠ []
  deriving DecidableEq, Repr

/-- Completed payments of an order, whatever their branch. -/
def alreadyPaid (s : Store) (orderId : Id) : Cents :=
  s.payments.sumWhere (fun _ payment => payment.orderId == orderId && payment.status == .completed)
    (·.amount)

def tendered (payments : List CloseOrderPaymentDto) : Cents := (payments.map (·.amount)).sum

/-- The tenders of one method. -/
def tenderedBy (method : PaymentMethod) (payments : List CloseOrderPaymentDto) : Cents :=
  tendered (payments.filter (·.method == method))

def checkPayments (s : Store) (ctx : BranchContext) (orderId : Id) :
    List CloseOrderPaymentDto → Db Unit
  | [] => pure ()
  | p :: rest => do
    ensure (0 < p.amount) (badRequest "Payment amounts must be positive")
    let succeededIntent := s.paymentIntents.findFirst fun _ intent =>
      intent.orderId == orderId && intent.branchId == ctx.branchId && intent.status == .succeeded
    ensure (p.method != .momo || succeededIntent.isSome)
      (badRequest "MOMO payment requires a succeeded payment intent. Create an intent first.")
    checkPayments s ctx orderId rest

def tenderedPayment (s : Store) (ctx : BranchContext) (orderId : Id) (p : CloseOrderPaymentDto) :
    Payment :=
  { orgId := ctx.organizationId, branchId := ctx.branchId, orderId, amount := p.amount
    method := p.method, status := .completed, transactionId := p.transactionId,
    createdAt := s.clock }

def recordPayments (s : Store) (ctx : BranchContext) (orderId : Id)
    (payments : List CloseOrderPaymentDto) : Store :=
  payments.foldl (fun s p =>
    { s with payments := s.payments.insert (tenderedPayment s ctx orderId p) }) s

/-- What has been paid beyond the total. -/
def changeDue (orderTotal totalCovered : Cents) : Cents := max (totalCovered - orderTotal) 0

structure CloseOrderResult where
  orderTotal : Cents
  totalPaid : Cents
  changeDue : Cents
  deriving DecidableEq, Repr

def closeOrderWithPayment (ctx : BranchContext) (orderId : Id) (dto : CloseOrderDto) :
    Db CloseOrderResult := do
  let s ← get
  let order ← need (s.findOrder ctx orderId) (notFound "Order not found")
  ensure (closableStates.contains order.status)
    (conflict ("Cannot close order in " ++ toString order.status ++
      " state. Order must be SERVED."))
  checkPayments s ctx orderId dto.payments
  ensure (s.paymentIntents.count (fun _ intent => intent.orderId == orderId &&
      intent.branchId == ctx.branchId &&
      (intent.status == .pending || intent.status == .requiresAction)) == 0)
    (conflict "Cannot close order while MOMO payment intents are still pending. Cancel or wait for resolution.")
  let totalCovered := alreadyPaid s orderId + tendered dto.payments
  let hasCash := dto.payments.any (·.method == .cash)
  ensure (!(decide (0 < totalCovered - order.total) && !hasCash))
    (badRequest "Overpayment is only allowed when CASH is included (change due is returned for cash)")
  ensure (order.total ≤ totalCovered)
    (badRequest ("Insufficient payment: order total is " ++ toFixed order.total ++
      " but only " ++ toFixed totalCovered ++ " covered"))
  modify fun s =>
    (recordPayments s ctx orderId dto.payments).updateOrder orderId fun order =>
      { order with status := .closed }
  pure { orderTotal := order.total, totalPaid := totalCovered
         changeDue := changeDue order.total totalCovered }

-- ---
-- Mobile-money intents
-- ---

structure CreatePaymentIntentDto where
  orderId : Id
  provider : Provider
  amount : Cents
  /-- `@Min(0.01)` -/
  amount_pos : 1 ≤ amount
  idempotencyKey : Option String := none
  deriving DecidableEq, Repr

/-- A reference that is not the empty string. -/
def truthy (reference : Option String) : Option String := reference.filter fun text => !text.isEmpty

/-- Outcome of the provider call: `none` when the adapter is disabled. -/
abbrev RequestToPay := Option Bool

/-- `externalId` is what `randomUUID` returned. -/
def insertIntent (ctx : BranchContext) (dto : CreatePaymentIntentDto) (externalId : String)
    (requestToPay : RequestToPay) : Db Unit := do
  let s ← get
  ensure (s.paymentIntents.count (fun _ intent => intent.externalId == some externalId) == 0)
    { kind := .uniqueViolation, message := "Unique constraint failed on (externalId)" }
  let failed := dto.provider == .mtn && requestToPay == some false
  modify fun s => { s with
    paymentIntents := s.paymentIntents.insert
      { orgId := ctx.organizationId, branchId := ctx.branchId, orderId := dto.orderId
        provider := dto.provider, amount := dto.amount
        status := if failed then .failed else .requiresAction
        externalId := some externalId, idempotencyKey := dto.idempotencyKey } }

def createPaymentIntent (ctx : BranchContext) (dto : CreatePaymentIntentDto) (externalId : String)
    (requestToPay : RequestToPay) : Db Unit := do
  let s ← get
  let order ← need (s.findOrder ctx dto.orderId) (notFound "Order not found")
  ensure (order.status != .voided && order.status != .closed)
    (conflict ("Cannot create payment intent for " ++ toString order.status ++ " order"))
  ensure (payableStates.contains order.status)
    (conflict ("Cannot create payment intent for order in " ++ toString order.status ++ " state"))
  let existing := s.paymentIntents.findFirst fun _ intent =>
    (truthy dto.idempotencyKey).isSome && intent.idempotencyKey == dto.idempotencyKey &&
      intent.branchId == ctx.branchId
  if existing.isSome then pure () else insertIntent ctx dto externalId requestToPay

def cancelPaymentIntent (ctx : BranchContext) (intentId : Id) : Db Unit := do
  let s ← get
  let intent ← need ((s.paymentIntents.get? intentId).filter fun intent =>
      intent.branchId == ctx.branchId && intent.orgId == ctx.organizationId)
    (notFound "Payment intent not found")
  ensure (intent.status == .pending || intent.status == .requiresAction)
    (conflict ("Cannot cancel intent in " ++ toString intent.status ++ " status"))
  modify fun s => { s with
    paymentIntents := s.paymentIntents.update intentId fun intent =>
      { intent with status := .cancelled } }

-- ---
-- Manual references
-- ---

/-- The method is MOMO, CARD or BANK_TRANSFER. -/
structure CreateManualReferencePaymentDto where
  orderId : Id
  method : PaymentMethod
  method_ne : method ≠ .cash
  amount : Cents
  /-- `@Min(0.01)` -/
  amount_pos : 1 ≤ amount
  externalTransactionId : String
  deriving DecidableEq, Repr

/-- A payment of the order with the same transaction ID. -/
def duplicateReference (s : Store) (ctx : BranchContext) (dto : CreateManualReferencePaymentDto) :
    Option (Id × Payment) :=
  s.payments.findFirst fun _ payment =>
    payment.orderId == dto.orderId && payment.branchId == ctx.branchId &&
      payment.externalTransactionId == some dto.externalTransactionId

def manualReferencePayment (s : Store) (ctx : BranchContext)
    (dto : CreateManualReferencePaymentDto) : Payment :=
  { orgId := ctx.organizationId, branchId := ctx.branchId, orderId := dto.orderId
    amount := dto.amount, method := dto.method, status := .completed
    captureMode := .manualReference
    externalTransactionId := some dto.externalTransactionId, createdAt := s.clock }

def createManualReferencePayment (ctx : BranchContext) (dto : CreateManualReferencePaymentDto) :
    Db Unit := do
  let s ← get
  let order ← need (s.findOrder ctx dto.orderId) (notFound "Order not found")
  ensure (order.status != .voided)
    (conflict ("Cannot add payment to " ++ toString order.status ++ " order"))
  ensure (duplicateReference s ctx dto).isNone
    (conflict ("A payment with transaction ID \"" ++ dto.externalTransactionId ++
      "\" already exists for this order"))
  modify fun s =>
    let recorded := { s with payments := s.payments.insert (manualReferencePayment s ctx dto) }
    (autoSettleIfFullyPaid recorded dto.orderId ctx.branchId).2

-- ---
-- What a successful call did
-- ---

theorem findOrderInBranch_iff :
    findOrderInBranch s orderId branchId = some order ↔
      s.orders.get? orderId = some order ∧ order.branchId = branchId := by
  simp [findOrderInBranch, Option.filter_eq_some_iff]

theorem tenderedBy_eq (method : PaymentMethod) (tender : List CloseOrderPaymentDto) :
    tenderedBy method tender =
      (tender.map fun p => if p.method = method then p.amount else 0).sum := by
  induction tender with
  | nil => rfl
  | cons p tender ih =>
    rw [List.map_cons, List.sum_cons, ← ih]
    by_cases hp : p.method = method <;> simp [tenderedBy, tendered, hp]

/-- The payments a tender records, and nothing else. -/
theorem recordPayments_eq (s : Store) (ctx : BranchContext) (orderId : Id)
    (tender : List CloseOrderPaymentDto) :
    recordPayments s ctx orderId tender = { s with
      payments := (tender.map (tenderedPayment s ctx orderId)).foldl Table.insert s.payments } := by
  induction tender generalizing s with
  | nil => rfl
  | cons p tender ih =>
    simp only [recordPayments, List.foldl_cons] at ih ⊢
    rw [ih]
    rfl

/-- What a tender adds to a sum over the payments. -/
theorem total_record (s : Store) (ctx : BranchContext) (orderId : Id)
    (tender : List CloseOrderPaymentDto) (c : Payment → Cents) :
    ((recordPayments s ctx orderId tender).payments.total fun _ payment => c payment) =
      (s.payments.total fun _ payment => c payment) +
        (tender.map fun p => c (tenderedPayment s ctx orderId p)).sum := by
  rw [recordPayments_eq, Table.total_foldl_insert (d := c) fun _ _ _ _ => rfl, List.map_map]
  rfl

theorem alreadyPaid_record (s : Store) (ctx : BranchContext) (orderId : Id)
    (tender : List CloseOrderPaymentDto) :
    alreadyPaid (recordPayments s ctx orderId tender) orderId =
      alreadyPaid s orderId + tendered tender := by
  simp only [alreadyPaid, Table.sumWhere_eq_total, total_record]
  simp [tenderedPayment, tendered]

/-- An order is settled when it is active and nothing is outstanding. -/
def settles (s : Store) (orderId branchId : Id) : Prop :=
  ∃ order, findOrderInBranch s orderId branchId = some order ∧ order.status.active = true ∧
    order.total ≤ totalPaid s orderId branchId

theorem autoSettle_cases (s : Store) (orderId branchId : Id) :
    autoSettleIfFullyPaid s orderId branchId = (false, s) ∨
      settles s orderId branchId ∧ autoSettleIfFullyPaid s orderId branchId =
        (true, s.updateOrder orderId fun order => { order with status := .closed }) := by
  unfold autoSettleIfFullyPaid
  cases hfind : findOrderInBranch s orderId branchId with
  | none => exact .inl rfl
  | some order =>
    simp only
    split
    · exact .inl rfl
    · rename_i hopen
      split
      · rename_i hpaid
        refine .inr ⟨⟨order, hfind, ?_, ?_⟩, rfl⟩
        · rw [not_or] at hopen
          simp [OrderStatus.active, hopen]
        · simp only [getOutstandingBalance, hfind] at hpaid
          exact sub_nonpos.mp ((le_max_left _ _).trans hpaid)
      · exact .inl rfl

theorem checkPayments_reads : Reads (checkPayments r ctx orderId payments) := by
  induction payments with
  | nil => exact .pure ()
  | cons p payments ih => exact .bind (.ensure _ _) fun _ => .bind (.ensure _ _) fun _ => ih

@[simp] theorem checkPayments_ok :
    checkPayments r ctx orderId payments s = .ok u t ↔
      Returns (checkPayments r ctx orderId payments) s u ∧ s = t :=
  checkPayments_reads.returns

theorem closeOrderWithPayment_ok (h : closeOrderWithPayment ctx orderId dto s = .ok u t) :
    ∃ order, s.findOrder ctx orderId = some order ∧ order.status = .served ∧
      order.total ≤ alreadyPaid s orderId + tendered dto.payments ∧
      t = (recordPayments s ctx orderId dto.payments).updateOrder orderId fun order =>
        { order with status := .closed } := by
  simp only [closeOrderWithPayment, bind_ok, get_ok, need_ok, ensure_ok, checkPayments_ok,
    modify_ok, pure_ok, closableStates, List.contains_eq_mem, List.mem_singleton,
    decide_eq_true_eq] at h
  obtain ⟨_, _, ⟨rfl, rfl⟩, order, _, ⟨hfind, rfl⟩, _, _, ⟨hserved, rfl⟩, _, _, ⟨_, rfl⟩, _, _,
    ⟨_, rfl⟩, _, _, ⟨_, rfl⟩, _, _, ⟨hcovered, rfl⟩, _, _, rfl, rfl, rfl⟩ := h
  exact ⟨order, hfind, hserved, hcovered, rfl⟩

/-- The receipt, and the cash that an overpayment needs. -/
theorem closeOrderWithPayment_receipt (h : closeOrderWithPayment ctx orderId dto s = .ok receipt t)
    (hfind : s.findOrder ctx orderId = some order) :
    receipt.orderTotal = order.total ∧
      receipt.totalPaid = alreadyPaid s orderId + tendered dto.payments ∧
      receipt.changeDue = receipt.totalPaid - order.total ∧
      (0 < receipt.changeDue → dto.payments.any (·.method == .cash) = true) := by
  simp only [closeOrderWithPayment, bind_ok, get_ok, need_ok, ensure_ok, checkPayments_ok,
    modify_ok, pure_ok, Bool.not_and, Bool.not_not, Bool.or_eq_true, Bool.not_eq_true',
    decide_eq_false_iff_not,
    decide_eq_true_eq] at h
  obtain ⟨_, _, ⟨rfl, rfl⟩, other, _, ⟨hother, rfl⟩, _, _, ⟨_, rfl⟩, _, _, ⟨_, rfl⟩, _, _,
    ⟨_, rfl⟩, _, _, ⟨hcash, rfl⟩, _, _, ⟨hcovered, rfl⟩, _, _, rfl, rfl, rfl⟩ := h
  cases hfind.symm.trans hother
  have hchange : changeDue order.total (alreadyPaid s orderId + tendered dto.payments) =
      alreadyPaid s orderId + tendered dto.payments - order.total :=
    max_eq_left (sub_nonneg.mpr hcovered)
  refine ⟨rfl, rfl, hchange, fun hpos => hcash.resolve_left fun hnot => hnot ?_⟩
  exact hchange ▸ hpos

theorem insertIntent_ok (h : insertIntent ctx dto externalId requestToPay s = .ok u t) :
    ∃ intent : PaymentIntent, intent.orderId = dto.orderId ∧ intent.branchId = ctx.branchId ∧
      intent.orgId = ctx.organizationId ∧
      t = { s with paymentIntents := s.paymentIntents.insert intent } := by
  simp only [insertIntent, bind_ok, get_ok, ensure_ok, modify_ok] at h
  obtain ⟨_, _, ⟨rfl, rfl⟩, _, _, ⟨_, rfl⟩, rfl⟩ := h
  exact ⟨_, rfl, rfl, rfl, rfl⟩

theorem createPaymentIntent_ok
    (h : createPaymentIntent ctx dto externalId requestToPay s = .ok u t) :
    ∃ order, s.findOrder ctx dto.orderId = some order ∧
      (t = s ∨ ∃ intent : PaymentIntent, intent.orderId = dto.orderId ∧
        intent.branchId = ctx.branchId ∧ intent.orgId = ctx.organizationId ∧
        t = { s with paymentIntents := s.paymentIntents.insert intent }) := by
  simp only [createPaymentIntent, bind_ok, get_ok, need_ok, ensure_ok, ite_ok, pure_ok] at h
  obtain ⟨_, _, ⟨rfl, rfl⟩, order, _, ⟨hfind, rfl⟩, _, _, ⟨_, rfl⟩, _, _, ⟨_, rfl⟩, hrest⟩ := h
  refine ⟨order, hfind, ?_⟩
  rcases hrest with ⟨_, _, rfl⟩ | ⟨_, hinsert⟩
  · exact .inl rfl
  · exact .inr (insertIntent_ok hinsert)

theorem cancelPaymentIntent_ok (h : cancelPaymentIntent ctx intentId s = .ok u t) :
    t = { s with
      paymentIntents := s.paymentIntents.update intentId fun intent =>
        { intent with status := .cancelled } } := by
  simp only [cancelPaymentIntent, bind_ok, get_ok, need_ok, ensure_ok, modify_ok] at h
  obtain ⟨_, _, ⟨rfl, rfl⟩, _, _, ⟨_, rfl⟩, _, _, ⟨_, rfl⟩, rfl⟩ := h
  rfl

theorem createManualReferencePayment_ok (h : createManualReferencePayment ctx dto s = .ok u t) :
    ∃ order, s.findOrder ctx dto.orderId = some order ∧ duplicateReference s ctx dto = none ∧
      t = (autoSettleIfFullyPaid
        { s with payments := s.payments.insert (manualReferencePayment s ctx dto) } dto.orderId
        ctx.branchId).2 := by
  simp only [createManualReferencePayment, bind_ok, get_ok, need_ok, ensure_ok, modify_ok,
    Option.isNone_iff_eq_none] at h
  obtain ⟨_, _, ⟨rfl, rfl⟩, order, _, ⟨hfind, rfl⟩, _, _, ⟨_, rfl⟩, _, _, ⟨hnew, rfl⟩, rfl⟩ := h
  exact ⟨order, hfind, hnew, rfl⟩

-- ---
-- A failed call changed nothing
-- ---

theorem closeOrderWithPayment_atomic : Atomic (closeOrderWithPayment ctx orderId dto) :=
  Reads.get.then fun _ => (Reads.need _ _).then fun _ => (Reads.ensure _ _).then fun _ =>
    checkPayments_reads.then fun _ => (Reads.ensure _ _).then fun _ =>
      (Reads.ensure _ _).then fun _ =>
      (Reads.ensure _ _).then fun _ => (Total.bind (.modify _) fun _ => .pure _).atomic

theorem insertIntent_atomic : Atomic (insertIntent ctx dto externalId requestToPay) :=
  Reads.get.then fun _ => (Reads.ensure _ _).then fun _ => (Total.modify _).atomic

theorem createPaymentIntent_atomic : Atomic (createPaymentIntent ctx dto externalId requestToPay) :=
  Reads.get.then fun _ => (Reads.need _ _).then fun _ => (Reads.ensure _ _).then fun _ =>
    (Reads.ensure _ _).then fun _ => .ite (Total.pure _).atomic insertIntent_atomic

theorem cancelPaymentIntent_atomic : Atomic (cancelPaymentIntent ctx intentId) :=
  Reads.get.then fun _ => (Reads.need _ _).then fun _ => (Reads.ensure _ _).then fun _ =>
    (Total.modify _).atomic

theorem createManualReferencePayment_atomic : Atomic (createManualReferencePayment ctx dto) :=
  Reads.get.then fun _ => (Reads.need _ _).then fun _ => (Reads.ensure _ _).then fun _ =>
    (Reads.ensure _ _).then fun _ => (Total.modify _).atomic

end NimbusPos.PaymentsService
