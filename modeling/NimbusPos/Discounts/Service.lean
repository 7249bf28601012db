import NimbusPos.Orders.Pricing

/-!
# Discounts

Requests under a threshold are approved at once, the others wait for a manager.
`recalcOrderDiscount` recomputes an order from its stored subtotal.
-/

namespace NimbusPos.DiscountsService

open Lib Lib.Service

def discountableStates : List OrderStatus := [.new, .sent, .inKitchen, .ready]

theorem active_of_discountable (h : status ∈ discountableStates) : status.active = true := by
  revert h
  cases status <;> decide

/-- The DTO's `@Min(0.01)` and its two decimal places are its last field. -/
structure RequestDiscountDto where
  type : DiscountType
  value : Int
  value_pos : 1 ≤ value

def recalcOrderDiscount (s : Store) (orderId : Id) : Store :=
  s.updateOrder orderId fun order =>
    let discount := s.approvedAmount orderId order.subtotal
    { order with discount, total := max (order.subtotal - discount) 0 }

/-- The write happens only when the flag is not there yet. -/
def flagHeavyDiscount (s : Store) (orderId : Id) : Store :=
  if (s.orders.get? orderId).any (!·.anomalyFlags.contains .heavyDiscount) then
    s.updateOrder orderId fun order =>
      { order with anomalyFlags := order.anomalyFlags ++ [.heavyDiscount] }
  else s

/-- The row a request creates. -/
def requestedDiscount (s : Store) (ctx : BranchContext) (orderId : Id) (dto : RequestDiscountDto)
    (autoApprove : Bool) : Discount :=
  { orgId := ctx.organizationId, branchId := ctx.branchId, orderId
    type := dto.type, value := dto.value
    status := if autoApprove then .approved else .pending
    approvedAt := if autoApprove then some s.clock else none }

/-- A fixed request is compared uncapped, a percentage by its amount. -/
def autoApproves (s : Store) (ctx : BranchContext) (order : Order) (dto : RequestDiscountDto) :
    Bool :=
  let thresholdAmount := match dto.type with
    | .fixed => dto.value
    | .percentage => roundHalfUp (order.subtotal * dto.value) 10000
  thresholdAmount ≤ s.approvalThreshold ctx.organizationId

def requestDiscount (ctx : BranchContext) (orderId : Id) (dto : RequestDiscountDto) : Db Unit := do
  let s ← get
  let order ← need (s.findOrder ctx orderId) (notFound "Order not found")
  ensure (discountableStates.contains order.status)
    (conflict ("Cannot apply discount to order in " ++ toString order.status ++ " state"))
  ensure (!(dto.type == .percentage && decide (10000 < dto.value)))
    (badRequest "Percentage discount cannot exceed 100")
  let autoApprove := autoApproves s ctx order dto
  modify fun s => { s with
    discounts := s.discounts.insert (requestedDiscount s ctx orderId dto autoApprove) }
  modify fun s => if autoApprove then recalcOrderDiscount s orderId else flagHeavyDiscount s orderId

/-- `discount.findFirst({ where: { id, branchId, orgId } })`. -/
def findDiscount (s : Store) (ctx : BranchContext) (discountId : Id) : Option Discount :=
  (s.discounts.get? discountId).filter fun discount =>
    discount.branchId == ctx.branchId && discount.orgId == ctx.organizationId

/-- The row a claim may rewrite. -/
def claimMatches (ctx : BranchContext) (discountId k : Id) (row : Discount) : Bool :=
  k == discountId && row.branchId == ctx.branchId && row.orgId == ctx.organizationId &&
    row.status == .pending

/-- The conditional update of a pending discount. -/
def claim (ctx : BranchContext) (discountId : Id) (data : Discount → Discount) : Db Unit := do
  let s ← get
  ensure (s.discounts.count (claimMatches ctx discountId) != 0)
    (conflict "Discount was concurrently modified and is no longer pending")
  modify fun s => { s with discounts := s.discounts.updateWhere (claimMatches ctx discountId) data }

structure ApproveDiscountDto where
  managerPin : Option String := none
  deriving DecidableEq, Repr

/-- Tells whether a PIN was given and verified. -/
def verifyPin (bcrypt : String → String → Bool) (userId : Id) : Option String → Db Bool
  | none => pure false
  | some pin => do
    checkManagerPin bcrypt userId pin "Invalid manager PIN"
    pure true

def approveDiscount (bcrypt : String → String → Bool) (userId : Id) (ctx : BranchContext)
    (discountId : Id) (dto : ApproveDiscountDto) : Db Unit := do
  let s ← get
  let discount ← need (findDiscount s ctx discountId) (notFound "Discount not found")
  ensure (discount.status == .pending)
    (conflict ("Cannot approve a discount in " ++ toString discount.status ++ " status"))
  ensure ((s.orders.get? discount.orderId).any fun order =>
    discountableStates.contains order.status)
    (conflict "Order is no longer in a state that accepts discounts")
  let managerPinVerified ← verifyPin bcrypt userId dto.managerPin
  claim ctx discountId fun row =>
    { row with status := .approved, approvedAt := some s.clock, managerPinVerified }
  modify fun s => recalcOrderDiscount s discount.orderId

def rejectDiscount (ctx : BranchContext) (discountId : Id) : Db Unit := do
  let s ← get
  let discount ← need (findDiscount s ctx discountId) (notFound "Discount not found")
  ensure (discount.status == .pending)
    (conflict ("Cannot reject a discount in " ++ toString discount.status ++ " status"))
  claim ctx discountId fun row => { row with status := .rejected }

-- ---
-- What a successful call did
-- ---

theorem requestDiscount_ok (h : requestDiscount ctx orderId dto s = .ok u t) :
    ∃ order, s.findOrder ctx orderId = some order ∧ order.status ∈ discountableStates ∧
      (dto.type = .percentage → dto.value ≤ 10000) ∧
      let requested := requestedDiscount s ctx orderId dto (autoApproves s ctx order dto)
      let r := { s with discounts := s.discounts.insert requested }
      t = if autoApproves s ctx order dto then recalcOrderDiscount r orderId
        else flagHeavyDiscount r orderId := by
  simp only [requestDiscount, bind_ok, get_ok, need_ok, ensure_ok, modify_ok, List.contains_eq_mem,
    decide_eq_true_eq, Bool.not_eq_true', Bool.and_eq_false_imp, beq_iff_eq,
    decide_eq_false_iff_not, Int.not_lt] at h
  obtain ⟨_, _, ⟨rfl, rfl⟩, order, _, ⟨hfind, rfl⟩, _, _, ⟨hstate, rfl⟩, _, _, ⟨hpct, rfl⟩, _, _,
    rfl, rfl⟩ := h
  exact ⟨order, hfind, hstate, hpct, rfl⟩

theorem claim_ok (h : claim ctx discountId data s = .ok u t) :
    t = { s with discounts := s.discounts.updateWhere (claimMatches ctx discountId) data } := by
  simp only [claim, bind_ok, get_ok, ensure_ok, modify_ok] at h
  obtain ⟨_, _, ⟨rfl, rfl⟩, _, _, ⟨_, rfl⟩, rfl⟩ := h
  rfl

theorem verifyPin_reads : Reads (verifyPin bcrypt userId pin) := by
  cases pin with
  | none => exact .pure _
  | some pin => exact .bind checkManagerPin_reads fun _ => .pure _

@[simp] theorem verifyPin_ok :
    verifyPin bcrypt userId pin s = .ok verified t ↔
      Returns (verifyPin bcrypt userId pin) s verified ∧ s = t :=
  verifyPin_reads.returns

theorem approveDiscount_ok (h : approveDiscount bcrypt userId ctx discountId dto s = .ok u t) :
    ∃ discount order verified, findDiscount s ctx discountId = some discount ∧
      discount.status = .pending ∧ s.orders.get? discount.orderId = some order ∧
      order.status ∈ discountableStates ∧
      let approve (row : Discount) : Discount :=
        { row with status := .approved, approvedAt := some s.clock, managerPinVerified := verified }
      let claimed := s.discounts.updateWhere (claimMatches ctx discountId) approve
      t = recalcOrderDiscount { s with discounts := claimed } discount.orderId := by
  simp only [approveDiscount, bind_ok, get_ok, need_ok, ensure_ok, modify_ok, verifyPin_ok,
    beq_iff_eq, Option.any_eq_true, List.contains_eq_mem, decide_eq_true_eq] at h
  obtain ⟨_, _, ⟨rfl, rfl⟩, discount, _, ⟨hfind, rfl⟩, _, _, ⟨hpending, rfl⟩, _, _,
    ⟨⟨order, horder, hstate⟩, rfl⟩, verified, _, ⟨_, rfl⟩, _, _, hclaim, rfl⟩ := h
  exact ⟨discount, order, verified, hfind, hpending, horder, hstate, by rw [claim_ok hclaim]⟩

theorem rejectDiscount_ok (h : rejectDiscount ctx discountId s = .ok u t) :
    t = { s with
      discounts := s.discounts.updateWhere (claimMatches ctx discountId) fun row =>
        { row with status := .rejected } } := by
  simp only [rejectDiscount, bind_ok, get_ok, need_ok, ensure_ok] at h
  obtain ⟨_, _, ⟨rfl, rfl⟩, _, _, ⟨_, rfl⟩, _, _, ⟨_, rfl⟩, hclaim⟩ := h
  exact claim_ok hclaim

-- ---
-- A failed call changed nothing
-- ---

theorem claim_atomic : Atomic (claim ctx discountId data) :=
  Reads.get.then fun _ => (Reads.ensure _ _).then fun _ => (Total.modify _).atomic

theorem requestDiscount_atomic : Atomic (requestDiscount ctx orderId dto) :=
  Reads.get.then fun _ => (Reads.need _ _).then fun _ => (Reads.ensure _ _).then fun _ =>
    (Reads.ensure _ _).then fun _ => (Total.bind (.modify _) fun _ => .modify _).atomic

theorem approveDiscount_atomic : Atomic (approveDiscount bcrypt userId ctx discountId dto) :=
  Reads.get.then fun _ => (Reads.need _ _).then fun _ => (Reads.ensure _ _).then fun _ =>
    (Reads.ensure _ _).then fun _ => verifyPin_reads.then fun _ =>
      claim_atomic.bind_total fun _ => .modify _

theorem rejectDiscount_atomic : Atomic (rejectDiscount ctx discountId) :=
  Reads.get.then fun _ => (Reads.need _ _).then fun _ => (Reads.ensure _ _).then fun _ =>
    claim_atomic

end NimbusPos.DiscountsService
