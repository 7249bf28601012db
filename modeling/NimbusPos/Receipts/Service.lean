import NimbusPos.Payments.Service

/-!
# Receipts

A receipt is a view over an order, its lines and its payments. The cashier's list of receipts is
made of other answers, the order itself and the summary of its payments, and has its own
reckoning of what is paid. Amounts are in cents, and rows come in the order of their creation.
-/

namespace NimbusPos

open Lib Lib.Service

-- ---
-- The summary of an order's payments
-- ---

namespace PaymentsService

structure OrderPayments where
  payments : List (Id × Payment)
  intents : List (Id × PaymentIntent)
  orderTotal : Cents
  totalPaid : Cents
  remainingBalance : Cents
  isSettled : Bool
  deriving DecidableEq, Repr

def completedTotal (payments : List (Id × Payment)) : Cents :=
  ((payments.filter (·.2.status == .completed)).map (·.2.amount)).sum

def getOrderPayments (s : Store) (ctx : BranchContext) (orderId : Id) :
    Except HttpError OrderPayments :=
  match s.findOrder ctx orderId with
  | none => .error (notFound "Order not found")
  | some order =>
    let payments := s.payments.findMany fun _ payment =>
      payment.orderId == orderId && payment.branchId == ctx.branchId
    .ok
      { payments
        intents := s.paymentIntents.findMany fun _ intent =>
          intent.orderId == orderId && intent.branchId == ctx.branchId
        orderTotal := order.total
        totalPaid := completedTotal payments
        remainingBalance := getOutstandingBalance s orderId ctx.branchId
        isSettled := order.status == .closed }

end PaymentsService

-- ---
-- Receipts
-- ---

namespace ReceiptsService

open PaymentsService (OrderPayments completedTotal)

structure ReceiptTotals where
  subtotal : Cents
  tax : Cents
  discount : Cents
  total : Cents
  paid : Cents
  outstanding : Cents
  deriving DecidableEq, Repr

structure ReceiptLine where
  id : Id
  menuItemId : Id
  menuItemServingId : Option Id
  quantity : Int
  unitPrice : Cents
  lineTotal : Cents
  deriving DecidableEq, Repr

structure ReceiptPayment where
  id : Id
  method : PaymentMethod
  status : PaymentStatus
  amount : Cents
  transactionId : Option String
  postedAt : Time
  deriving DecidableEq, Repr

structure Receipt where
  receiptId : Id
  orderId : Id
  orderNumber : String
  status : OrderStatus
  serviceType : ServiceType
  tableId : Option Id
  serverId : Id
  totals : ReceiptTotals
  items : List ReceiptLine
  payments : List ReceiptPayment
  openedAt : Time
  updatedAt : Time
  deriving DecidableEq, Repr

def receiptLine (row : Id × OrderItem) : ReceiptLine :=
  { id := row.1, menuItemId := row.2.menuItemId, menuItemServingId := row.2.menuItemServingId
    quantity := row.2.quantity, unitPrice := row.2.price, lineTotal := row.2.subtotal }

def receiptPayment (row : Id × Payment) : ReceiptPayment :=
  { id := row.1, method := row.2.method, status := row.2.status, amount := row.2.amount
    transactionId := row.2.transactionId, postedAt := row.2.createdAt }

/-- The payments of the order, whatever their branch. -/
def paymentsOf (s : Store) (orderId : Id) : List (Id × Payment) :=
  s.payments.findMany fun _ payment => payment.orderId == orderId

def buildReceiptView (s : Store) (orderId : Id) (order : Order) : Receipt :=
  let payments := paymentsOf s orderId
  { receiptId := orderId, orderId, orderNumber := order.orderNumber, status := order.status
    serviceType := order.serviceType, tableId := order.tableId, serverId := order.userId
    totals :=
      { subtotal := order.subtotal, tax := order.tax, discount := order.discount
        total := order.total, paid := completedTotal payments
        outstanding := max (order.total - completedTotal payments) 0 }
    items := (s.itemsOf orderId).map receiptLine
    payments := payments.map receiptPayment
    openedAt := order.createdAt, updatedAt := order.updatedAt }

def getReceipt (s : Store) (ctx : BranchContext) (receiptId : Id) : Except HttpError Receipt :=
  match s.findOrder ctx receiptId with
  | none => .error (notFound "Receipt not found")
  | some order => .ok (buildReceiptView s receiptId order)

def isPrintable (status : OrderStatus) : Bool := status == .closed || status == .voided

structure Reprint where
  receiptId : Id
  copies : Nat
  reason : Option String
  printable : Receipt
  deriving DecidableEq, Repr

def reprintReceipt (s : Store) (ctx : BranchContext) (receiptId : Id) (copies : Option Nat)
    (reason : Option String) : Except HttpError Reprint := do
  let printable ← getReceipt s ctx receiptId
  if isPrintable printable.status then
    .ok { receiptId, copies := copies.getD 1, reason, printable }
  else
    .error (badRequest ("Receipt for order in status " ++ toString printable.status ++
      " cannot be reprinted (must be CLOSED or VOIDED)."))

-- ---
-- What the cashier sees
-- ---

inductive CashierReceiptStatus
  | available
  | pendingPayment
  | closed
  | unknown
  deriving DecidableEq, Repr

inductive Tone
  | success
  | warning
  | neutral
  deriving DecidableEq, Repr

structure ReceiptBadge where
  state : CashierReceiptStatus
  label : String
  tone : Tone
  deriving DecidableEq, Repr

def deriveReceiptStatus (status : OrderStatus) (paid outstanding : Option Cents) : ReceiptBadge :=
  if isPrintable status ∧ outstanding.any (· ≤ 0) then ⟨.available, "Available", .success⟩
  else if outstanding.any (0 < ·) then ⟨.pendingPayment, "Pending payment", .warning⟩
  else if status = .closed then ⟨.closed, "Closed", .neutral⟩
  else if paid.any (0 < ·) then ⟨.available, "Available", .success⟩
  else ⟨.unknown, "Unknown", .neutral⟩

/-- What a row of the list and an opened receipt both show. -/
structure CashierReceiptViewModel where
  id : Id
  orderId : Id
  receiptNumber : String
  orderNumber : String
  status : OrderStatus
  badge : ReceiptBadge
  serviceType : ServiceType
  openedAt : Time
  updatedAt : Time
  subtotal : Cents
  tax : Cents
  discount : Cents
  total : Cents
  paid : Option Cents
  outstanding : Option Cents
  lines : List ReceiptLine
  payments : List ReceiptPayment
  canReprint : Bool
  canSend : Bool
  deriving DecidableEq, Repr

def normalizeLine (line : ReceiptLine) : ReceiptLine :=
  { line with quantity := if line.quantity = 0 then 1 else line.quantity }

def normalizeCashierReceipt (receipt : Receipt) : CashierReceiptViewModel :=
  let paid := some receipt.totals.paid
  let outstanding := some receipt.totals.outstanding
  { id := receipt.receiptId, orderId := receipt.orderId, receiptNumber := receipt.orderNumber
    orderNumber := receipt.orderNumber, status := receipt.status
    badge := deriveReceiptStatus receipt.status paid outstanding
    serviceType := receipt.serviceType, openedAt := receipt.openedAt, updatedAt := receipt.updatedAt
    subtotal := receipt.totals.subtotal, tax := receipt.totals.tax
    discount := receipt.totals.discount, total := receipt.totals.total, paid, outstanding
    lines := receipt.items.map normalizeLine, payments := receipt.payments
    canReprint := isPrintable receipt.status, canSend := isPrintable receipt.status }

/-- A row of the list: the order, what is known of its payments, and its receipt once opened. -/
def normalizeReceiptCandidate (orderId : Id) (order : Order) (paymentSummary : Option OrderPayments)
    (receipt : Option Receipt) : CashierReceiptViewModel :=
  match receipt with
  | some receipt => normalizeCashierReceipt receipt
  | none =>
    let paid := paymentSummary.map (·.totalPaid)
    let outstanding := paymentSummary.map (·.remainingBalance)
    { id := orderId, orderId, receiptNumber := order.orderNumber, orderNumber := order.orderNumber
      status := order.status, badge := deriveReceiptStatus order.status paid outstanding
      serviceType := order.serviceType, openedAt := order.createdAt, updatedAt := order.updatedAt
      subtotal := order.subtotal, tax := order.tax, discount := order.discount
      total := order.total, paid, outstanding, lines := []
      payments := (paymentSummary.elim [] (·.payments)).map receiptPayment
      canReprint := isPrintable order.status, canSend := isPrintable order.status }

end ReceiptsService

end NimbusPos
