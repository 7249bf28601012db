import NimbusPos.Lib.Run
import NimbusPos.Common

/-!
# Refunds

Refunds of one payment of a closed order and the void of a whole order shortly
after it closed. The second half gives the three calls as threads that take one
database statement per step.
-/

namespace NimbusPos.RefundsService

open Lib Lib.Service

def postCloseVoidWindowMs : Nat := 15 * 60 * 1000

/-- Pending, approved and completed refunds count against a payment. -/
def RefundStatus.live (status : RefundStatus) : Bool := status != .failed

-- ---
-- The statements
-- ---

/-- Live refunds of a payment. -/
def liveRefunds (s : Store) (paymentId : Id) : Cents :=
  s.refunds.sumWhere (fun _ refund =>
    refund.paymentId == paymentId && RefundStatus.live refund.status) (·.amount)

/-- Completed refunds of a payment. -/
def completedRefunds (s : Store) (paymentId : Id) : Cents :=
  s.refunds.sumWhere (fun _ refund =>
    refund.paymentId == paymentId && refund.status == .completed) (·.amount)

/-- The completed payment a refund is asked for. -/
def findPayment (s : Store) (ctx : BranchContext) (orderId paymentId : Id) : Option Payment :=
  (s.payments.get? paymentId).filter fun payment =>
    payment.orderId == orderId && payment.branchId == ctx.branchId && payment.status == .completed

def findRefund (s : Store) (ctx : BranchContext) (refundId : Id) : Option Refund :=
  (s.refunds.get? refundId).filter fun refund =>
    refund.branchId == ctx.branchId && refund.orgId == ctx.organizationId

structure CreateRefundDto where
  paymentId : Id
  amount : Cents
  /-- `@Min(0.01)` -/
  amount_pos : 1 ≤ amount
  deriving Repr

def autoApproves (s : Store) (ctx : BranchContext) (dto : CreateRefundDto) : Bool :=
  dto.amount ≤ s.approvalThreshold ctx.organizationId

def requestedRefund (s : Store) (ctx : BranchContext) (orderId : Id) (dto : CreateRefundDto)
    (autoApprove : Bool) : Refund :=
  { orgId := ctx.organizationId, branchId := ctx.branchId, orderId, paymentId := dto.paymentId
    amount := dto.amount, status := if autoApprove then .completed else .pending
    createdAt := s.clock }

def insertRefund (s : Store) (ctx : BranchContext) (orderId : Id) (dto : CreateRefundDto)
    (autoApprove : Bool) : Store :=
  { s with refunds := s.refunds.insert (requestedRefund s ctx orderId dto autoApprove) }

def markRefunded (s : Store) (paymentId : Id) : Store :=
  { s with
    payments := s.payments.update paymentId fun payment => { payment with status := .refunded } }

def checkAndMarkPaymentRefunded (s : Store) (paymentId : Id) : Store :=
  match s.payments.get? paymentId with
  | none => s
  | some payment =>
    if payment.amount ≤ completedRefunds s paymentId then markRefunded s paymentId else s

/-- The entry replaces an earlier one of its kind. -/
def flagged (flags : List AnomalyFlag) (amount : Cents) (flaggedAt : Time) : List AnomalyFlag :=
  (flags.filter fun flag => match flag with
    | .highValueRefund _ _ => false
    | .heavyDiscount => true) ++ [.highValueRefund amount flaggedAt]

def flagRefundAnomaly (s : Store) (orderId : Id) (amount : Cents) : Store :=
  s.updateOrder orderId fun order =>
    { order with anomalyFlags := flagged order.anomalyFlags amount s.clock }

def completeRefund (s : Store) (refundId : Id) : Store :=
  { s with refunds := s.refunds.update refundId fun refund => { refund with status := .completed } }

/-- The payments a void gives back. -/
def voidMatches (orderId branchId : Id) (_ : Id) (payment : Payment) : Bool :=
  payment.orderId == orderId && payment.branchId == branchId && payment.status == .completed

/-- The transaction of a post-close void. -/
def voidOrderAndPayments (s : Store) (ctx : BranchContext) (orderId : Id) : Store :=
  let s := s.updateOrder orderId fun order => { order with status := .voided }
  { s with
    payments := s.payments.updateWhere (voidMatches orderId ctx.branchId)
      fun payment => { payment with status := .refunded } }

-- ---
-- The calls
-- ---

def createRefund (ctx : BranchContext) (orderId : Id) (dto : CreateRefundDto) : Db Unit := do
  let s ← get
  let order ← need (s.findOrder ctx orderId) (notFound "Order not found")
  ensure (order.status == .closed) (conflict "Refunds can only be issued on CLOSED orders")
  let payment ← need (findPayment s ctx orderId dto.paymentId)
    (notFound "Completed payment not found on this order")
  let available := payment.amount - liveRefunds s dto.paymentId
  ensure (dto.amount ≤ available)
    (badRequest ("Refund amount exceeds available balance. Max refundable: " ++ toFixed available))
  let autoApprove := autoApproves s ctx dto
  modify fun s =>
    let s := insertRefund s ctx orderId dto autoApprove
    if autoApprove then checkAndMarkPaymentRefunded s dto.paymentId
    else flagRefundAnomaly s orderId dto.amount

structure ApproveRefundDto where
  managerPin : Option String := none
  deriving DecidableEq, Repr

/-- The PIN is checked when the request carries one. -/
def verifyPin (bcrypt : String → String → Bool) (userId : Id) : Option String → Db Unit
  | none => pure ()
  | some pin => checkManagerPin bcrypt userId pin "Invalid manager PIN"

def approveRefund (bcrypt : String → String → Bool) (userId : Id) (ctx : BranchContext)
    (refundId : Id) (dto : ApproveRefundDto) : Db Unit := do
  let s ← get
  let refund ← need (findRefund s ctx refundId) (notFound "Refund not found")
  ensure (refund.status == .pending)
    (conflict ("Cannot approve a refund in " ++ toString refund.status ++ " status"))
  verifyPin bcrypt userId dto.managerPin
  modify fun s => checkAndMarkPaymentRefunded (completeRefund s refundId) refund.paymentId

structure PostCloseVoidDto where
  managerPin : String
  deriving DecidableEq, Repr

def voidWindowExpired : HttpError :=
  { kind := .forbidden, message := "Post-close void window of 15 minutes has expired" }

def postCloseVoid (bcrypt : String → String → Bool) (userId : Id) (ctx : BranchContext)
    (orderId : Id) (dto : PostCloseVoidDto) : Db Unit := do
  let s ← get
  let order ← need (s.findOrder ctx orderId) (notFound "Order not found")
  ensure (order.status == .closed) (conflict "Post-close void is only allowed on CLOSED orders")
  ensure (s.clock - order.updatedAt ≤ postCloseVoidWindowMs) voidWindowExpired
  checkManagerPin bcrypt userId dto.managerPin "Manager PIN required for post-close void"
  modify fun s => voidOrderAndPayments s ctx orderId

-- ---
-- What a successful call did
-- ---

theorem findPayment_iff {s : Store} :
    findPayment s ctx orderId paymentId = some payment ↔ s.payments.get? paymentId = some payment ∧
      payment.orderId = orderId ∧ payment.branchId = ctx.branchId ∧
        payment.status = .completed := by
  simp [findPayment, Option.filter_eq_some_iff, and_assoc]

theorem findRefund_iff {s : Store} :
    findRefund s ctx refundId = some refund ↔ s.refunds.get? refundId = some refund ∧
      refund.branchId = ctx.branchId ∧ refund.orgId = ctx.organizationId := by
  simp [findRefund, Option.filter_eq_some_iff]

theorem verifyPin_reads : Reads (verifyPin bcrypt userId pin) := by
  cases pin with
  | none => exact .pure _
  | some pin => exact checkManagerPin_reads

@[simp] theorem verifyPin_ok :
    verifyPin bcrypt userId pin s = .ok u t ↔ Returns (verifyPin bcrypt userId pin) s u ∧ s = t :=
  verifyPin_reads.returns

/-- The store after `createRefund`. -/
def refundedStore (s : Store) (ctx : BranchContext) (orderId : Id) (dto : CreateRefundDto) :
    Store :=
  let inserted := insertRefund s ctx orderId dto (autoApproves s ctx dto)
  if autoApproves s ctx dto then checkAndMarkPaymentRefunded inserted dto.paymentId
  else flagRefundAnomaly inserted orderId dto.amount

theorem createRefund_ok (h : createRefund ctx orderId dto s = .ok u t) :
    ∃ order payment, s.findOrder ctx orderId = some order ∧ order.status = .closed ∧
      findPayment s ctx orderId dto.paymentId = some payment ∧
      dto.amount ≤ payment.amount - liveRefunds s dto.paymentId ∧
      t = refundedStore s ctx orderId dto := by
  simp only [createRefund, bind_ok, get_ok, need_ok, ensure_ok, modify_ok, beq_iff_eq,
    decide_eq_true_eq] at h
  obtain ⟨_, _, ⟨rfl, rfl⟩, order, _, ⟨hfind, rfl⟩, _, _, ⟨hclosed, rfl⟩, payment, _, ⟨hpay, rfl⟩,
    _, _, ⟨hle, rfl⟩, rfl⟩ := h
  exact ⟨order, payment, hfind, hclosed, hpay, hle, rfl⟩

theorem approveRefund_ok (h : approveRefund bcrypt userId ctx refundId dto s = .ok u t) :
    ∃ refund, findRefund s ctx refundId = some refund ∧ refund.status = .pending ∧
      t = checkAndMarkPaymentRefunded (completeRefund s refundId) refund.paymentId := by
  simp only [approveRefund, bind_ok, get_ok, need_ok, ensure_ok, verifyPin_ok, modify_ok,
    beq_iff_eq] at h
  obtain ⟨_, _, ⟨rfl, rfl⟩, refund, _, ⟨hfind, rfl⟩, _, _, ⟨hpending, rfl⟩, _, _, ⟨_, rfl⟩, rfl⟩ :=
    h
  exact ⟨refund, hfind, hpending, rfl⟩

theorem postCloseVoid_ok (h : postCloseVoid bcrypt userId ctx orderId dto s = .ok u t) :
    ∃ order, s.findOrder ctx orderId = some order ∧ order.status = .closed ∧
      t = voidOrderAndPayments s ctx orderId := by
  simp only [postCloseVoid, bind_ok, get_ok, need_ok, ensure_ok, checkManagerPin_ok, modify_ok,
    beq_iff_eq] at h
  obtain ⟨_, _, ⟨rfl, rfl⟩, order, _, ⟨hfind, rfl⟩, _, _, ⟨hclosed, rfl⟩, _, _, ⟨_, rfl⟩, _, _,
    ⟨_, rfl⟩, rfl⟩ := h
  exact ⟨order, hfind, hclosed, rfl⟩

theorem checkAndMark_cases (s : Store) (paymentId : Id) :
    checkAndMarkPaymentRefunded s paymentId = s ∨
      checkAndMarkPaymentRefunded s paymentId = markRefunded s paymentId := by
  unfold checkAndMarkPaymentRefunded
  split
  · exact .inl rfl
  · split
    · exact .inr rfl
    · exact .inl rfl

/-- A refund request flags its order, or marks its payment, or neither. -/
theorem refundedStore_cases (s : Store) (ctx : BranchContext) (orderId : Id)
    (dto : CreateRefundDto) :
    (∃ auto, refundedStore s ctx orderId dto =
        checkAndMarkPaymentRefunded (insertRefund s ctx orderId dto auto) dto.paymentId) ∨
      ∃ auto, refundedStore s ctx orderId dto =
        flagRefundAnomaly (insertRefund s ctx orderId dto auto) orderId dto.amount := by
  unfold refundedStore
  split
  · exact .inl ⟨_, rfl⟩
  · exact .inr ⟨_, rfl⟩

-- ---
-- The two sums
-- ---

theorem completedRefunds_le {s : Store}
    (h : ∀ k refund, s.refunds.get? k = some refund → 0 ≤ refund.amount) :
    completedRefunds s j ≤ liveRefunds s j := by
  simp only [completedRefunds, liveRefunds, Table.sumWhere_eq_total]
  apply Table.total_le
  intro k refund hget
  have hamount := h k refund hget
  by_cases hmine : refund.paymentId = j
  · cases hstatus : refund.status <;> simp [hmine, RefundStatus.live, hamount]
  · simp [hmine]

theorem liveRefunds_insert :
    liveRefunds (insertRefund s ctx orderId dto autoApprove) j =
      liveRefunds s j + if dto.paymentId = j then dto.amount else 0 := by
  have hlive : RefundStatus.live (if autoApprove then .completed else .pending) = true := by
    cases autoApprove <;> rfl
  simp only [liveRefunds, insertRefund, Table.sumWhere_eq_total, Table.total_insert,
    requestedRefund, hlive, Bool.and_true, beq_iff_eq]

theorem completedRefunds_insert :
    completedRefunds (insertRefund s ctx orderId dto autoApprove) j =
      completedRefunds s j + if dto.paymentId = j ∧ autoApprove = true then dto.amount else 0 := by
  simp only [completedRefunds, insertRefund, Table.sumWhere_eq_total, Table.total_insert,
    requestedRefund, Bool.and_eq_true, beq_iff_eq]
  cases autoApprove <;> simp

theorem liveRefunds_complete
    (hlive : ∀ refund, s.refunds.get? k = some refund → RefundStatus.live refund.status = true) :
    liveRefunds (completeRefund s k) j = liveRefunds s j := by
  simp only [liveRefunds, completeRefund, Table.sumWhere_eq_total]
  cases hget : s.refunds.get? k with
  | none => exact Table.update_of_none hget _ _
  | some refund =>
    have hcompleted : RefundStatus.live .completed = true := rfl
    rw [Table.total_update hget]
    simp only [hlive refund hget, hcompleted, sub_self, add_zero]

theorem completedRefunds_complete_own (hget : s.refunds.get? k = some refund)
    (hpending : refund.status = .pending) :
    completedRefunds (completeRefund s k) refund.paymentId =
      completedRefunds s refund.paymentId + refund.amount := by
  simp only [completedRefunds, completeRefund, Table.sumWhere_eq_total]
  rw [Table.total_update hget]
  simp [hpending]

theorem completedRefunds_complete
    (hother : ∀ refund, s.refunds.get? k = some refund → refund.paymentId ≠ j) :
    completedRefunds (completeRefund s k) j = completedRefunds s j := by
  simp only [completedRefunds, completeRefund, Table.sumWhere_eq_total]
  cases hget : s.refunds.get? k with
  | none => exact Table.update_of_none hget _ _
  | some refund =>
    rw [Table.total_update hget]
    simp [hother refund hget]

-- ---
-- A failed call changed nothing
-- ---

theorem createRefund_atomic : Atomic (createRefund ctx orderId dto) :=
  Reads.get.then fun _ => (Reads.need _ _).then fun _ => (Reads.ensure _ _).then fun _ =>
    (Reads.need _ _).then fun _ => (Reads.ensure _ _).then fun _ => (Total.modify _).atomic

theorem approveRefund_atomic : Atomic (approveRefund bcrypt userId ctx refundId dto) :=
  Reads.get.then fun _ => (Reads.need _ _).then fun _ => (Reads.ensure _ _).then fun _ =>
    verifyPin_reads.then fun _ => (Total.modify _).atomic

theorem postCloseVoid_atomic : Atomic (postCloseVoid bcrypt userId ctx orderId dto) :=
  Reads.get.then fun _ => (Reads.need _ _).then fun _ => (Reads.ensure _ _).then fun _ =>
    (Reads.ensure _ _).then fun _ => checkManagerPin_reads.then fun _ => (Total.modify _).atomic

-- ---
-- The calls, statement by statement
-- ---

inductive RefundRequest
  | createRefund (ctx : BranchContext) (orderId : Id) (dto : CreateRefundDto)
  | approveRefund (userId : Id) (ctx : BranchContext) (refundId : Id) (dto : ApproveRefundDto)
  | postCloseVoid (userId : Id) (ctx : BranchContext) (orderId : Id) (dto : PostCloseVoidDto)
  deriving Repr

/-- The statement a call takes next, with the rows it holds. -/
inductive RefundStage
  | findOrder (ctx : BranchContext) (orderId : Id) (dto : CreateRefundDto)
  | findPayment (ctx : BranchContext) (orderId : Id) (dto : CreateRefundDto)
  | sumRefunds (ctx : BranchContext) (orderId : Id) (dto : CreateRefundDto) (payment : Payment)
  | readThreshold (ctx : BranchContext) (orderId : Id) (dto : CreateRefundDto)
  | insertRefund (ctx : BranchContext) (orderId : Id) (dto : CreateRefundDto) (autoApprove : Bool)
  | findRefund (userId : Id) (ctx : BranchContext) (refundId : Id) (dto : ApproveRefundDto)
  | approvePin (userId : Id) (refundId : Id) (refund : Refund) (pin : String)
  | completeRefund (refundId : Id) (refund : Refund)
  | readPayment (paymentId : Id)
  | sumCompleted (paymentId : Id) (payment : Payment)
  | markRefunded (paymentId : Id)
  | readFlags (orderId : Id) (amount : Cents)
  | writeFlags (orderId : Id) (amount : Cents) (flags : List AnomalyFlag)
  | findVoided (userId : Id) (ctx : BranchContext) (orderId : Id) (dto : PostCloseVoidDto)
  | voidPin (userId : Id) (ctx : BranchContext) (orderId : Id) (dto : PostCloseVoidDto)
  | voidOrder (ctx : BranchContext) (orderId : Id)
  | done
  deriving Repr

def RefundRequest.start : RefundRequest → RefundStage
  | .createRefund ctx orderId dto => .findOrder ctx orderId dto
  | .approveRefund userId ctx refundId dto => .findRefund userId ctx refundId dto
  | .postCloseVoid userId ctx orderId dto => .findVoided userId ctx orderId dto

/-- A call goes on when its check holds and has failed otherwise. -/
def RefundStage.guarded (ok : Bool) (next : RefundStage) : RefundStage := if ok then next else .done

def pinValid (bcrypt : String → String → Bool) (s : Store) (userId : Id) (pin : String) : Bool :=
  ((s.users.get? userId).bind (·.quickPinHash)).any (bcrypt pin)

/-- The next statement of a call. -/
def RefundStage.advance (bcrypt : String → String → Bool) (s : Store) :
    RefundStage → Store × RefundStage
  | .findOrder ctx orderId dto =>
    (s, .guarded ((s.findOrder ctx orderId).any (·.status == .closed))
      (.findPayment ctx orderId dto))
  | .findPayment ctx orderId dto =>
    match RefundsService.findPayment s ctx orderId dto.paymentId with
    | none => (s, .done)
    | some payment => (s, .sumRefunds ctx orderId dto payment)
  | .sumRefunds ctx orderId dto payment =>
    (s, .guarded (dto.amount ≤ payment.amount - liveRefunds s dto.paymentId)
      (.readThreshold ctx orderId dto))
  | .readThreshold ctx orderId dto => (s, .insertRefund ctx orderId dto (autoApproves s ctx dto))
  | .insertRefund ctx orderId dto autoApprove =>
    (RefundsService.insertRefund s ctx orderId dto autoApprove,
      if autoApprove then .readPayment dto.paymentId else .readFlags orderId dto.amount)
  | .findRefund userId ctx refundId dto =>
    match RefundsService.findRefund s ctx refundId with
    | none => (s, .done)
    | some refund =>
      let next := match dto.managerPin with
        | none => .completeRefund refundId refund
        | some pin => .approvePin userId refundId refund pin
      (s, .guarded (refund.status == .pending) next)
  | .approvePin userId refundId refund pin =>
    (s, .guarded (pinValid bcrypt s userId pin) (.completeRefund refundId refund))
  | .completeRefund refundId refund =>
    (RefundsService.completeRefund s refundId, .readPayment refund.paymentId)
  | .readPayment paymentId =>
    match s.payments.get? paymentId with
    | none => (s, .done)
    | some payment => (s, .sumCompleted paymentId payment)
  | .sumCompleted paymentId payment =>
    (s, .guarded (payment.amount ≤ completedRefunds s paymentId) (.markRefunded paymentId))
  | .markRefunded paymentId => (RefundsService.markRefunded s paymentId, .done)
  | .readFlags orderId amount =>
    match s.orders.get? orderId with
    | none => (s, .done)
    | some order => (s, .writeFlags orderId amount order.anomalyFlags)
  | .writeFlags orderId amount flags =>
    (s.updateOrder orderId fun order =>
      { order with anomalyFlags := flagged flags amount s.clock }, .done)
  | .findVoided userId ctx orderId dto =>
    (s, .guarded ((s.findOrder ctx orderId).any fun order =>
        order.status == .closed && decide (s.clock - order.updatedAt ≤ postCloseVoidWindowMs))
      (.voidPin userId ctx orderId dto))
  | .voidPin userId ctx orderId dto =>
    (s, .guarded (pinValid bcrypt s userId dto.managerPin) (.voidOrder ctx orderId))
  | .voidOrder ctx orderId => (voidOrderAndPayments s ctx orderId, .done)
  | .done => (s, .done)

end NimbusPos.RefundsService
