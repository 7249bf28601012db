import NimbusPos.AccountsPayable.Service
import NimbusPos.Discounts.Service
import NimbusPos.Lib.Program
import NimbusPos.Refunds.Service

/-!
# Approvals

Discounts, refunds, leave requests, shift swaps, vendor bills and transfers between
branches each wait for a decision, which comes from the endpoint of their own service or
through the shared inbox. Each call is the program of its statements.
-/

namespace NimbusPos.Approvals

open Lib Lib.Program

-- ---
-- Rows
-- ---

inductive LeaveRequestStatus
  | pending
  | approved
  | rejected
  | cancelled
  deriving DecidableEq, Repr

def LeaveRequestStatus.toString : LeaveRequestStatus → String
  | .pending => "PENDING"
  | .approved => "APPROVED"
  | .rejected => "REJECTED"
  | .cancelled => "CANCELLED"

instance : ToString LeaveRequestStatus := ⟨LeaveRequestStatus.toString⟩

inductive ShiftSwapStatus
  | pending
  | approved
  | rejected
  | cancelled
  deriving DecidableEq, Repr

def ShiftSwapStatus.toString : ShiftSwapStatus → String
  | .pending => "PENDING"
  | .approved => "APPROVED"
  | .rejected => "REJECTED"
  | .cancelled => "CANCELLED"

instance : ToString ShiftSwapStatus := ⟨ShiftSwapStatus.toString⟩

inductive InterBranchTransferStatus
  | requested
  | approved
  | inTransit
  | completed
  | rejected
  | cancelled
  deriving DecidableEq, Repr

def InterBranchTransferStatus.toString : InterBranchTransferStatus → String
  | .requested => "REQUESTED"
  | .approved => "APPROVED"
  | .inTransit => "IN_TRANSIT"
  | .completed => "COMPLETED"
  | .rejected => "REJECTED"
  | .cancelled => "CANCELLED"

instance : ToString InterBranchTransferStatus := ⟨InterBranchTransferStatus.toString⟩

/-- `TRANSFER_TRANSITIONS`. -/
def InterBranchTransferStatus.transitions :
    InterBranchTransferStatus → Option (List InterBranchTransferStatus)
  | .requested => some [.approved, .rejected, .cancelled]
  | .approved => some [.inTransit, .cancelled]
  | .inTransit => some [.completed]
  | .completed | .rejected | .cancelled => none

structure LeaveRequest where
  orgId : Id
  branchId : Option Id := none
  status : LeaveRequestStatus := .pending
  reviewedById : Option Id := none
  reviewedAt : Option Time := none
  reviewNotes : Option String := none
  deriving DecidableEq, Repr

structure ShiftSwapRequest where
  orgId : Id
  branchId : Id
  status : ShiftSwapStatus := .pending
  approvedById : Option Id := none
  approvedAt : Option Time := none
  reviewNotes : Option String := none
  deriving DecidableEq, Repr

structure InterBranchTransfer where
  orgId : Id
  status : InterBranchTransferStatus := .requested
  approvedById : Option Id := none
  approvedAt : Option Time := none
  completedAt : Option Time := none
  rejectionReason : Option String := none
  notes : Option String := none
  deriving DecidableEq, Repr

/-- The point of sale with its clock, and the tables of the other services. -/
structure Store where
  pos : NimbusPos.Store := {}
  leaveRequests : Table LeaveRequest := .empty
  shiftSwapRequests : Table ShiftSwapRequest := .empty
  vendorBills : Table VendorBill := .empty
  transfers : Table InterBranchTransfer := .empty

inductive ApprovalSourceType
  | discount
  | refund
  | leaveRequest
  | shiftSwap
  | vendorBill
  | interBranchTransfer
  deriving DecidableEq, Repr

def ApprovalSourceType.toString : ApprovalSourceType → String
  | .discount => "discount"
  | .refund => "refund"
  | .leaveRequest => "leave_request"
  | .shiftSwap => "shift_swap"
  | .vendorBill => "vendor_bill"
  | .interBranchTransfer => "inter_branch_transfer"

instance : ToString ApprovalSourceType := ⟨ApprovalSourceType.toString⟩

/-- The status of a row of one of the sources. -/
inductive ApprovalStatus
  | discount (status : DiscountStatus)
  | refund (status : RefundStatus)
  | leaveRequest (status : LeaveRequestStatus)
  | shiftSwap (status : ShiftSwapStatus)
  | vendorBill (status : VendorBillStatus)
  | transfer (status : InterBranchTransferStatus)
  deriving DecidableEq, Repr

def ApprovalStatus.toString : ApprovalStatus → String
  | .discount status => status.toString
  | .refund status => status.toString
  | .leaveRequest status => status.toString
  | .shiftSwap status => status.toString
  | .vendorBill status => status.toString
  | .transfer status => status.toString

instance : ToString ApprovalStatus := ⟨ApprovalStatus.toString⟩

/-- The status in which a source waits for its decision, its only `pendingStatuses`. -/
def ApprovalSourceType.pending : ApprovalSourceType → ApprovalStatus
  | .discount => .discount .pending
  | .refund => .refund .pending
  | .leaveRequest => .leaveRequest .pending
  | .shiftSwap => .shiftSwap .pending
  | .vendorBill => .vendorBill .draft
  | .interBranchTransfer => .transfer .requested

def ApprovalSourceType.supportsReject : ApprovalSourceType → Bool
  | .refund | .vendorBill => false
  | _ => true

-- ---
-- Statements
-- ---

structure UpdateTransferStatusDto where
  status : InterBranchTransferStatus
  rejectionReason : Option String := none
  notes : Option String := none
  deriving DecidableEq, Repr

/-- What a side effect is for goes with its statement: the discount that an order is
recomputed for, the refund that a payment is looked up for. -/
inductive Statement
  | now
  | loadCurrent (source : ApprovalSourceType) (entityId : Id) (ctx : BranchContext)
  | findUser (userId : Id)
  | findDiscount (ctx : BranchContext) (discountId : Id)
  | findOrder (orderId : Id)
  | claimApproved (ctx : BranchContext) (discountId : Id) (approvedAt : Time)
      (managerPinVerified : Bool)
  | claimRejected (ctx : BranchContext) (discountId : Id)
  | approvedAmount (orderId : Id) (subtotal : Cents)
  | updateOrderDiscount (discountId orderId : Id) (subtotal discount : Cents)
  | findRefund (ctx : BranchContext) (refundId : Id)
  | completeRefund (refundId : Id)
  | findPayment (refundId paymentId : Id)
  | completedRefunds (paymentId : Id)
  | markRefunded (refundId paymentId : Id)
  | findLeaveRequest (orgId leaveRequestId : Id)
  | claimLeaveRequest (orgId leaveRequestId : Id) (data : LeaveRequest)
  | findShiftSwap (ctx : BranchContext) (shiftSwapId : Id)
  | claimShiftSwap (ctx : BranchContext) (shiftSwapId : Id) (data : ShiftSwapRequest)
  | findVendorBill (orgId branchId billId : Id)
  | approveVendorBill (billId : Id)
  | findTransfer (orgId transferId : Id)
  | updateTransfer (transferId userId : Id) (dto : UpdateTransferStatusDto) (notes : Option String)
      (now : Time)
  deriving DecidableEq, Repr

abbrev Statement.Answer : Statement → Type
  | .now => Time
  | .loadCurrent .. => Option ApprovalStatus
  | .findUser _ => Option User
  | .findDiscount .. => Option Discount
  | .findOrder _ => Option Order
  | .claimApproved .. | .claimRejected .. | .claimLeaveRequest .. | .claimShiftSwap .. => Nat
  | .approvedAmount .. | .completedRefunds _ => Cents
  | .findRefund .. => Option Refund
  | .findPayment .. => Option Payment
  | .findLeaveRequest .. => Option LeaveRequest
  | .findShiftSwap .. => Option ShiftSwapRequest
  | .findVendorBill .. => Option VendorBill
  | .findTransfer .. => Option InterBranchTransfer
  | _ => Unit

/-- `update` of a row that there is not. -/
def recordNotFound : HttpError :=
  { kind := .internalServerError, message := "Internal server error" }

def updated {α : Type} (t : Table α) (id : Id) : Except HttpError Unit :=
  if (t.get? id).isSome then .ok () else .error recordNotFound

/-- `updateMany` of the row of a key, if it is still as it has to be. -/
def claim {α : Type} (t : Table α) (id : Id) (p : α → Bool) (f : α → α) : Table α :=
  t.updateWhere (fun k row => k == id && p row) f

/-- How many rows a claim takes. -/
def claimCount {α : Type} (t : Table α) (id : Id) (p : α → Bool) : Nat :=
  if (t.get? id).any p then 1 else 0

namespace Store

def status (s : Store) (source : ApprovalSourceType) (id : Id) : Option ApprovalStatus :=
  match source with
  | .discount => (s.pos.discounts.get? id).map (.discount ·.status)
  | .refund => (s.pos.refunds.get? id).map (.refund ·.status)
  | .leaveRequest => (s.leaveRequests.get? id).map (.leaveRequest ·.status)
  | .shiftSwap => (s.shiftSwapRequests.get? id).map (.shiftSwap ·.status)
  | .vendorBill => (s.vendorBills.get? id).map (.vendorBill ·.status)
  | .interBranchTransfer => (s.transfers.get? id).map (.transfer ·.status)

/-- The row is in the context: of its branch for the point of sale and for shift swaps,
of its organisation for the others. -/
def inContext (s : Store) (source : ApprovalSourceType) (id : Id) (ctx : BranchContext) : Bool :=
  match source with
  | .discount => (DiscountsService.findDiscount s.pos ctx id).isSome
  | .refund => (RefundsService.findRefund s.pos ctx id).isSome
  | .leaveRequest => (s.leaveRequests.get? id).any (·.orgId == ctx.organizationId)
  | .shiftSwap => (s.shiftSwapRequests.get? id).any fun row =>
      row.orgId == ctx.organizationId && row.branchId == ctx.branchId
  | .vendorBill => (s.vendorBills.get? id).any (·.orgId == ctx.organizationId)
  | .interBranchTransfer => (s.transfers.get? id).any (·.orgId == ctx.organizationId)

/-- A pending discount of the branch. -/
def claimable (ctx : BranchContext) (row : Discount) : Bool :=
  row.branchId == ctx.branchId && row.orgId == ctx.organizationId && row.status == .pending

def leaveClaimable (orgId : Id) (row : LeaveRequest) : Bool :=
  row.orgId == orgId && row.status == .pending

def swapClaimable (ctx : BranchContext) (row : ShiftSwapRequest) : Bool :=
  row.orgId == ctx.organizationId && row.branchId == ctx.branchId && row.status == .pending

def updatedTransfer (userId : Id) (dto : UpdateTransferStatusDto) (notes : Option String)
    (now : Time) (row : InterBranchTransfer) : InterBranchTransfer :=
  { row with
    status := dto.status, notes
    approvedById := if dto.status = .approved then some userId else row.approvedById
    approvedAt := if dto.status = .approved then some now else row.approvedAt
    completedAt := if dto.status = .completed then some now else row.completedAt
    rejectionReason := if dto.status = .rejected then dto.rejectionReason else row.rejectionReason }

def claimDiscount (s : Store) (ctx : BranchContext) (discountId : Id) (f : Discount → Discount) :
    Store :=
  { s with pos := { s.pos with discounts := claim s.pos.discounts discountId (claimable ctx) f } }

def exec (s : Store) : (k : Statement) → Store × Except HttpError k.Answer
  | .now => (s, .ok s.pos.clock)
  | .loadCurrent source entityId ctx =>
    (s, .ok (if s.inContext source entityId ctx then s.status source entityId else none))
  | .findUser userId => (s, .ok (s.pos.users.get? userId))
  | .findDiscount ctx discountId => (s, .ok (DiscountsService.findDiscount s.pos ctx discountId))
  | .findOrder orderId => (s, .ok (s.pos.orders.get? orderId))
  | .claimApproved ctx discountId approvedAt managerPinVerified =>
    (s.claimDiscount ctx discountId fun row =>
      { row with status := .approved, approvedAt := some approvedAt, managerPinVerified },
      .ok (claimCount s.pos.discounts discountId (claimable ctx)))
  | .claimRejected ctx discountId =>
    (s.claimDiscount ctx discountId fun row => { row with status := .rejected },
      .ok (claimCount s.pos.discounts discountId (claimable ctx)))
  | .approvedAmount orderId subtotal => (s, .ok (s.pos.approvedAmount orderId subtotal))
  | .updateOrderDiscount _ orderId subtotal discount =>
    ({ s with
      pos := s.pos.updateOrder orderId fun order =>
        { order with discount, total := max (subtotal - discount) 0 } }, .ok ())
  | .findRefund ctx refundId => (s, .ok (RefundsService.findRefund s.pos ctx refundId))
  | .completeRefund refundId =>
    ({ s with pos := RefundsService.completeRefund s.pos refundId }, updated s.pos.refunds refundId)
  | .findPayment _ paymentId => (s, .ok (s.pos.payments.get? paymentId))
  | .completedRefunds paymentId => (s, .ok (RefundsService.completedRefunds s.pos paymentId))
  | .markRefunded _ paymentId =>
    ({ s with pos := RefundsService.markRefunded s.pos paymentId }, .ok ())
  | .findLeaveRequest orgId leaveRequestId =>
    (s, .ok ((s.leaveRequests.get? leaveRequestId).filter (·.orgId == orgId)))
  | .claimLeaveRequest orgId leaveRequestId data =>
    ({ s with
      leaveRequests := claim s.leaveRequests leaveRequestId (leaveClaimable orgId) fun row =>
        { row with
          status := data.status, reviewedById := data.reviewedById
          reviewedAt := data.reviewedAt, reviewNotes := data.reviewNotes } },
      .ok (claimCount s.leaveRequests leaveRequestId (leaveClaimable orgId)))
  | .findShiftSwap ctx shiftSwapId =>
    (s, .ok ((s.shiftSwapRequests.get? shiftSwapId).filter fun row =>
      row.orgId == ctx.organizationId && row.branchId == ctx.branchId))
  | .claimShiftSwap ctx shiftSwapId data =>
    ({ s with
      shiftSwapRequests := claim s.shiftSwapRequests shiftSwapId (swapClaimable ctx) fun row =>
        { row with
          status := data.status, approvedById := data.approvedById
          approvedAt := data.approvedAt, reviewNotes := data.reviewNotes } },
      .ok (claimCount s.shiftSwapRequests shiftSwapId (swapClaimable ctx)))
  | .findVendorBill orgId branchId billId =>
    (s, .ok ((s.vendorBills.get? billId).filter fun row =>
      row.orgId == orgId && branchOrOrgScope branchId row.branchId))
  | .approveVendorBill billId =>
    ({ s with
      vendorBills := s.vendorBills.update billId fun row => { row with status := .approved } },
      updated s.vendorBills billId)
  | .findTransfer orgId transferId =>
    (s, .ok ((s.transfers.get? transferId).filter (·.orgId == orgId)))
  | .updateTransfer transferId userId dto notes now =>
    ({ s with transfers := s.transfers.update transferId (updatedTransfer userId dto notes now) },
      updated s.transfers transferId)

end Store

-- ---
-- The services
-- ---

abbrev ApprovalProgram := Program Statement Statement.Answer HttpError

abbrev query (k : Statement) : ApprovalProgram k.Answer := statement k

/-- What was decided, and the status it left the row in. -/
structure RoutedDecisionResult where
  source : ApprovalSourceType
  entityId : Id
  finalStatus : ApprovalStatus
  decidedById : Id
  deriving DecidableEq, Repr

section

-- `bcrypt.compare`.
variable (bcrypt : String → String → Bool)

/-- Tells whether a PIN was given and verified. -/
def verifyPin (userId : Id) : Option String → ApprovalProgram Bool
  | none => return false
  | some managerPin => do
    let manager ← query (.findUser userId)
    let hash ← need (manager.bind (·.quickPinHash)) (unauthorized "Invalid manager PIN")
    ensure (bcrypt managerPin hash) (unauthorized "Invalid manager PIN")
    return true

def recalcOrderDiscount (discountId orderId : Id) : ApprovalProgram Unit := do
  let order ← query (.findOrder orderId)
  match order with
  | none => return ()
  | some order => do
    let discountAmount ← query (.approvedAmount orderId order.subtotal)
    query (.updateOrderDiscount discountId orderId order.subtotal discountAmount)

def approveDiscount (userId : Id) (ctx : BranchContext) (discountId : Id)
    (managerPin : Option String) : ApprovalProgram RoutedDecisionResult := do
  let found ← query (.findDiscount ctx discountId)
  let discount ← need found (notFound "Discount not found")
  ensure (discount.status == .pending)
    (conflict ("Cannot approve a discount in " ++ toString discount.status ++ " status"))
  let order ← query (.findOrder discount.orderId)
  ensure (order.any fun order => DiscountsService.discountableStates.contains order.status)
    (conflict "Order is no longer in a state that accepts discounts")
  let managerPinVerified ← verifyPin bcrypt userId managerPin
  let approvedAt ← query .now
  let count ← query (.claimApproved ctx discountId approvedAt managerPinVerified)
  ensure (count != 0) (conflict "Discount was concurrently modified and is no longer pending")
  recalcOrderDiscount discountId discount.orderId
  return ⟨.discount, discountId, .discount .approved, userId⟩

def rejectDiscount (userId : Id) (ctx : BranchContext) (discountId : Id) :
    ApprovalProgram RoutedDecisionResult := do
  let found ← query (.findDiscount ctx discountId)
  let discount ← need found (notFound "Discount not found")
  ensure (discount.status == .pending)
    (conflict ("Cannot reject a discount in " ++ toString discount.status ++ " status"))
  let count ← query (.claimRejected ctx discountId)
  ensure (count != 0) (conflict "Discount was concurrently modified and is no longer pending")
  return ⟨.discount, discountId, .discount .rejected, userId⟩

def checkAndMarkPaymentRefunded (refundId paymentId : Id) : ApprovalProgram Unit := do
  let found ← query (.findPayment refundId paymentId)
  match found with
  | none => return ()
  | some payment => do
    let totalRefunded ← query (.completedRefunds paymentId)
    if payment.amount ≤ totalRefunded then query (.markRefunded refundId paymentId) else return ()

def approveRefund (userId : Id) (ctx : BranchContext) (refundId : Id)
    (managerPin : Option String) : ApprovalProgram RoutedDecisionResult := do
  let found ← query (.findRefund ctx refundId)
  let refund ← need found (notFound "Refund not found")
  ensure (refund.status == .pending)
    (conflict ("Cannot approve a refund in " ++ toString refund.status ++ " status"))
  let _ ← verifyPin bcrypt userId managerPin
  query (.completeRefund refundId)
  checkAndMarkPaymentRefunded refundId refund.paymentId
  return ⟨.refund, refundId, .refund .completed, userId⟩

def reviewLeaveRequest (userId : Id) (ctx : BranchContext) (id : Id) (status : LeaveRequestStatus)
    (reviewNotes : Option String) : ApprovalProgram RoutedDecisionResult := do
  let found ← query (.findLeaveRequest ctx.organizationId id)
  let existing ← need found (notFound ("Leave request \"" ++ toString id ++ "\" not found"))
  ensure (existing.status == .pending) (badRequest
    ("Leave request is already " ++ toString existing.status ++ " and cannot be reviewed"))
  ensure (status == .approved || status == .rejected)
    (badRequest "Review status must be APPROVED or REJECTED")
  let reviewedAt ← query .now
  let count ← query (.claimLeaveRequest ctx.organizationId id
    { existing with status, reviewedById := some userId, reviewedAt := some reviewedAt,
                    reviewNotes })
  ensure (count != 0)
    (conflict "Leave request was concurrently modified and is no longer pending")
  return ⟨.leaveRequest, id, .leaveRequest status, userId⟩

def approveShiftSwap (userId : Id) (ctx : BranchContext) (id : Id) (status : ShiftSwapStatus)
    (reviewNotes : Option String) : ApprovalProgram RoutedDecisionResult := do
  let found ← query (.findShiftSwap ctx id)
  let existing ← need found (notFound ("Shift swap request \"" ++ toString id ++ "\" not found"))
  ensure (existing.status == .pending) (badRequest
    ("Shift swap request is already " ++ toString existing.status ++ " and cannot be reviewed"))
  ensure (status == .approved || status == .rejected)
    (badRequest "Review status must be APPROVED or REJECTED")
  let approvedAt ← query .now
  let count ← query (.claimShiftSwap ctx id
    { existing with status, approvedById := some userId, approvedAt := some approvedAt,
                    reviewNotes })
  ensure (count != 0)
    (conflict "Shift swap request was concurrently modified and is no longer pending")
  return ⟨.shiftSwap, id, .shiftSwap status, userId⟩

/-- `MissingBranchScopeError`. -/
def missingBranchScope (what : String) : HttpError where
  kind := .internalServerError
  message := "Refusing to build a branch-scoped query for \"" ++ what ++
    "\" without a branch id. " ++
    "This read must not fall back to an organisation-wide result set (PC-03)."

def approveVendorBill (orgId : Id) (branchId : Option Id) (billId userId : Id) :
    ApprovalProgram RoutedDecisionResult := do
  let branchId ← need branchId (missingBranchScope "vendor bill")
  let found ← query (.findVendorBill orgId branchId billId)
  let bill ← need found (notFound "Vendor bill not found")
  ensure (bill.status == .draft)
    (conflict ("Cannot approve bill in status \"" ++ toString bill.status ++
      "\". Only DRAFT bills can be approved."))
  query (.approveVendorBill billId)
  return ⟨.vendorBill, billId, .vendorBill .approved, userId⟩

def updateTransferStatus (userId orgId transferId : Id) (dto : UpdateTransferStatusDto) :
    ApprovalProgram RoutedDecisionResult := do
  let found ← query (.findTransfer orgId transferId)
  let transfer ← need found (notFound ("Transfer \"" ++ toString transferId ++ "\" not found"))
  let allowed := transfer.status.transitions
  ensure (allowed.any (·.contains dto.status)) (badRequest
    ("Cannot transition from " ++ toString transfer.status ++ " to " ++ toString dto.status ++
      ". Allowed: " ++
      ((allowed.map fun next => ", ".intercalate (next.map toString)).getD "none")))
  let now ← query .now
  query (.updateTransfer transferId userId dto (dto.notes <|> transfer.notes) now)
  return ⟨.interBranchTransfer, transferId, .transfer dto.status, userId⟩

-- ---
-- The inbox
-- ---

inductive ApprovalDecision
  | approve
  | reject
  deriving DecidableEq, Repr

def ApprovalDecision.leaveStatus : ApprovalDecision → LeaveRequestStatus
  | .approve => .approved
  | .reject => .rejected

def ApprovalDecision.swapStatus : ApprovalDecision → ShiftSwapStatus
  | .approve => .approved
  | .reject => .rejected

def ApprovalDecision.transferStatus : ApprovalDecision → InterBranchTransferStatus
  | .approve => .approved
  | .reject => .rejected

structure DecideApprovalDto where
  decision : ApprovalDecision
  reason : Option String := none
  managerPin : Option String := none
  deriving DecidableEq, Repr

/-- What the service of the source makes of a decision. -/
def decideAt (source : ApprovalSourceType) (entityId : Id) (dto : DecideApprovalDto)
    (userId : Id) (ctx : BranchContext) : ApprovalProgram RoutedDecisionResult :=
  match source with
  | .discount =>
    match dto.decision with
    | .approve => approveDiscount bcrypt userId ctx entityId dto.managerPin
    | .reject => rejectDiscount userId ctx entityId
  | .refund => approveRefund bcrypt userId ctx entityId dto.managerPin
  | .leaveRequest => reviewLeaveRequest userId ctx entityId dto.decision.leaveStatus dto.reason
  | .shiftSwap => approveShiftSwap userId ctx entityId dto.decision.swapStatus dto.reason
  -- The bill is asked for without a branch.
  | .vendorBill => approveVendorBill ctx.organizationId none entityId userId
  | .interBranchTransfer =>
    updateTransferStatus userId ctx.organizationId entityId
      { status := dto.decision.transferStatus
        rejectionReason := if dto.decision = .reject then dto.reason else none }

def route (source : ApprovalSourceType) (entityId : Id) (dto : DecideApprovalDto) (userId : Id)
    (ctx : BranchContext) : ApprovalProgram RoutedDecisionResult := do
  ensure (!(dto.decision == .reject && !source.supportsReject)) (badRequest
    ("Reject is not supported for source \"" ++ toString source ++
      "\". Use the underlying domain endpoint or only call approve."))
  let current ← query (.loadCurrent source entityId ctx)
  let status ← need current (notFound
    ("Approval source \"" ++ toString source ++ "\" with id \"" ++ toString entityId ++
      "\" not found in your context"))
  ensure (status == source.pending) (conflict
    ("Approval \"" ++ toString source ++ ":" ++ toString entityId ++ "\" is already " ++
      toString status ++ " and cannot be re-decided"))
  decideAt bcrypt source entityId dto userId ctx

/-- The decisions that come in: through the inbox, or at the endpoint of a service. -/
inductive ApprovalCall
  | decide (source : ApprovalSourceType) (entityId : Id) (dto : DecideApprovalDto) (userId : Id)
      (ctx : BranchContext)
  | approveDiscount (userId : Id) (ctx : BranchContext) (discountId : Id)
      (managerPin : Option String)
  | rejectDiscount (userId : Id) (ctx : BranchContext) (discountId : Id)
  | approveRefund (userId : Id) (ctx : BranchContext) (refundId : Id) (managerPin : Option String)
  | reviewLeaveRequest (userId : Id) (ctx : BranchContext) (id : Id) (status : LeaveRequestStatus)
      (reviewNotes : Option String)
  | approveShiftSwap (userId : Id) (ctx : BranchContext) (id : Id) (status : ShiftSwapStatus)
      (reviewNotes : Option String)
  | approveVendorBill (orgId : Id) (branchId : Option Id) (billId userId : Id)
  | updateTransferStatus (userId orgId transferId : Id) (decision : ApprovalDecision)
      (rejectionReason notes : Option String)
  deriving DecidableEq, Repr

def ApprovalCall.program : ApprovalCall → ApprovalProgram RoutedDecisionResult
  | .decide source entityId dto userId ctx => route bcrypt source entityId dto userId ctx
  | .approveDiscount userId ctx discountId managerPin =>
    Approvals.approveDiscount bcrypt userId ctx discountId managerPin
  | .rejectDiscount userId ctx discountId => Approvals.rejectDiscount userId ctx discountId
  | .approveRefund userId ctx refundId managerPin =>
    Approvals.approveRefund bcrypt userId ctx refundId managerPin
  | .reviewLeaveRequest userId ctx id status reviewNotes =>
    Approvals.reviewLeaveRequest userId ctx id status reviewNotes
  | .approveShiftSwap userId ctx id status reviewNotes =>
    Approvals.approveShiftSwap userId ctx id status reviewNotes
  | .approveVendorBill orgId branchId billId userId =>
    Approvals.approveVendorBill orgId branchId billId userId
  | .updateTransferStatus userId orgId transferId decision rejectionReason notes =>
    Approvals.updateTransferStatus userId orgId transferId
      { status := decision.transferStatus, rejectionReason, notes }

end

end NimbusPos.Approvals
