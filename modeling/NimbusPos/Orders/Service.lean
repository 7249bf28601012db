import NimbusPos.Orders.Pricing
import NimbusPos.Reservations.Service

/-!
# Orders

Creation, the lines of an order, and the status machine with its side effects
on tables and reservations.
-/

namespace NimbusPos

open Lib Lib.Service

def OrderStatus.validTransitions : OrderStatus → List OrderStatus
  | .new => [.sent, .voided]
  | .sent => [.inKitchen, .voided]
  | .inKitchen => [.ready, .voided]
  | .ready => [.served, .voided]
  | .served => [.closed]
  | .voided => []
  | .closed => []

/-- A value that `@IsInt() @Min(1)` accepted. -/
abbrev Quantity := { n : Int // 1 ≤ n }

namespace OrdersService

def generateOrderNumber (s : Store) (branchId : Id) : String :=
  let lastOrder := s.orders.findLatest (fun _ order => order.branchId == branchId) (·.createdAt)
  nextNumber orderLabel (lastOrder.map (·.2.orderNumber))

def autoOccupyTable (s : Store) : Option Id → Store
  | none => s
  | some tableId => s.occupyTable tableId

/-- The active orders on a table, one order left out. -/
def activeOnTable (s : Store) (tableId excludeOrderId : Id) : Nat :=
  s.orders.count fun k order =>
    order.tableId == some tableId && k != excludeOrderId && order.status.active

def autoReleaseTableIfIdle (s : Store) (excludeOrderId : Id) : Option Id → Store
  | none => s
  | some tableId =>
    if 0 < activeOnTable s tableId excludeOrderId then s
    else { s with
      tables := s.tables.updateWhere (fun k table => k == tableId && table.status == .occupied)
        fun table => { table with status := .available } }

-- ---
-- Creation
-- ---

structure CreateOrderDto where
  serviceType : ServiceType
  tableId : Option Id := none
  deriving DecidableEq, Repr

def checkTable (ctx : BranchContext) (tableId : Option Id) : Db Unit := do
  let s ← get
  match tableId with
  | none => pure ()
  | some tableId =>
    ensure (s.findTable ctx tableId).isSome (notFound "Table not found in this branch")

def createOrder (userId : Id) (ctx : BranchContext) (dto : CreateOrderDto) (request : RequestMeta) :
    Db Id := do
  assertWaiterShiftOpen request.actor ctx
  ensure (!(dto.serviceType == .takeaway && dto.tableId.isSome))
    (badRequest "Takeaway orders must not have a tableId")
  checkTable ctx dto.tableId
  let s ← get
  createOrderRow
    { orgId := ctx.organizationId, branchId := ctx.branchId, userId, tableId := dto.tableId
      orderNumber := generateOrderNumber s ctx.branchId, serviceType := dto.serviceType
      createdAt := s.clock, updatedAt := s.clock }

-- ---
-- Lines
-- ---

/-- `if (meta.actor) assertWaiterOrderOwnership(meta.actor, order)`. -/
def assertOwnership (request : RequestMeta) (order : Order) : Db Unit :=
  whenActor request.actor fun actor => assertWaiterOrderOwnership actor order

theorem assertOwnership_reads : Reads (assertOwnership request order) :=
  whenActor_reads fun _ => assertWaiterOrderOwnership_reads

/-- The checks before a line changes; `change` is the message's verb. -/
def loadForLines (ctx : BranchContext) (orderId : Id) (request : RequestMeta) (change : String) :
    Db Order := do
  let s ← get
  let order ← need (s.findOrder ctx orderId) (notFound "Order not found")
  assertOwnership request order
  assertWaiterShiftOpen request.actor ctx
  ensure order.status.active
    (conflict ("Cannot " ++ change ++ " a " ++ toString order.status ++ " order"))
  pure order

structure AddOrderItemDto where
  menuItemId : Id
  menuItemServingId : Option Id := none
  quantity : Option Quantity := none
  metadata : LineMetadata := []

/-- `dto.quantity ?? 1`. -/
def AddOrderItemDto.orderedQuantity (dto : AddOrderItemDto) : Int :=
  (dto.quantity.getD ⟨1, by decide⟩).val

def newItem (orderId : Id) (dto : AddOrderItemDto) (pricing : LinePricing) : OrderItem :=
  { orderId, menuItemId := dto.menuItemId, menuItemServingId := dto.menuItemServingId
    quantity := dto.orderedQuantity, price := pricing.price, subtotal := pricing.subtotal
    metadata := dto.metadata, costUnit := pricing.costUnit, costTotal := pricing.costTotal
    marginTotal := pricing.marginTotal, marginPct := pricing.marginPct }

def addOrderItem (ctx : BranchContext) (orderId : Id) (dto : AddOrderItemDto)
    (request : RequestMeta) : Db Unit := do
  let _ ← loadForLines ctx orderId request "add items to"
  let pricing ← computeLinePricing ctx dto.menuItemId dto.menuItemServingId dto.orderedQuantity
    dto.metadata
  modify fun s => recalcOrderTotals
    { s with orderItems := s.orderItems.insert (newItem orderId dto pricing) } orderId

structure UpdateOrderItemDto where
  quantity : Option Quantity := none
  metadata : Option LineMetadata := none

/-- `dto.quantity ?? existingItem.quantity`. -/
def UpdateOrderItemDto.updatedQuantity (dto : UpdateOrderItemDto) (existing : OrderItem) : Int :=
  (dto.quantity.map (·.val)).getD existing.quantity

def updatedItem (dto : UpdateOrderItemDto) (existing : OrderItem) (pricing : LinePricing)
    (item : OrderItem) : OrderItem :=
  { item with
    quantity := dto.updatedQuantity existing, metadata := dto.metadata.getD existing.metadata
    price := pricing.price, subtotal := pricing.subtotal
    costUnit := pricing.costUnit, costTotal := pricing.costTotal
    marginTotal := pricing.marginTotal, marginPct := pricing.marginPct }

def updateOrderItem (ctx : BranchContext) (orderId itemId : Id) (dto : UpdateOrderItemDto)
    (request : RequestMeta) : Db Unit := do
  let _ ← loadForLines ctx orderId request "update items on"
  let s ← get
  let existing ← need (s.itemOn orderId itemId) (notFound "Order item not found")
  let pricing ← computeLinePricing ctx existing.menuItemId existing.menuItemServingId
    (dto.updatedQuantity existing) (dto.metadata.getD existing.metadata)
  modify fun s => recalcOrderTotals
    { s with orderItems := s.orderItems.update itemId (updatedItem dto existing pricing) } orderId

def deleteOrderItem (ctx : BranchContext) (orderId itemId : Id) (request : RequestMeta) :
    Db Unit := do
  let _ ← loadForLines ctx orderId request "remove items from"
  let s ← get
  let _ ← need (s.itemOn orderId itemId) (notFound "Order item not found")
  modify fun s => recalcOrderTotals { s with orderItems := s.orderItems.erase itemId } orderId

-- ---
-- Status machine
-- ---

def validateTransition (current target : OrderStatus) : Db Unit :=
  ensure (current.validTransitions.contains target)
    (conflict ("Invalid transition from " ++ toString current ++ " to " ++ toString target))

def setStatus (s : Store) (orderId : Id) (status : OrderStatus) : Store :=
  s.updateOrder orderId fun order => { order with status }

/-- What follows a status write: occupy on SENT, release and complete on CLOSED. -/
def afterTransition (ctx : BranchContext) (orderId : Id) (order : Order) :
    OrderStatus → Db Unit
  | .sent => modify fun s => if order.serviceType = .dineIn then autoOccupyTable s order.tableId
      else s
  | .closed => do
    modify fun s => autoReleaseTableIfIdle s orderId order.tableId
    attempt (ReservationsService.completeForClosedOrder orderId ctx)
  | _ => pure ()

def assertTransitionAllowed (request : RequestMeta) (order : Order) (targetStatus : OrderStatus) :
    Db Unit :=
  whenActor request.actor fun actor => do
    assertWaiterOrderOwnership actor order
    assertWaiterTransitionAllowed actor targetStatus

theorem assertTransitionAllowed_reads : Reads (assertTransitionAllowed request order target) :=
  whenActor_reads fun _ => .bind assertWaiterOrderOwnership_reads fun _ =>
    assertWaiterTransitionAllowed_reads

@[simp] theorem assertTransitionAllowed_ok :
    assertTransitionAllowed request order target s = .ok u t ↔
      Returns (assertTransitionAllowed request order target) s u ∧ s = t :=
  assertTransitionAllowed_reads.returns

def transitionOrder (ctx : BranchContext) (orderId : Id) (targetStatus : OrderStatus)
    (request : RequestMeta) : Db Unit := do
  let s ← get
  let order ← need (s.findOrder ctx orderId) (notFound "Order not found")
  assertTransitionAllowed request order targetStatus
  assertWaiterShiftOpen request.actor ctx
  validateTransition order.status targetStatus
  modify fun s => setStatus s orderId targetStatus
  afterTransition ctx orderId order targetStatus

def sendOrder (ctx : BranchContext) (orderId : Id) : RequestMeta → Db Unit :=
  transitionOrder ctx orderId .sent

def markInKitchen (ctx : BranchContext) (orderId : Id) : RequestMeta → Db Unit :=
  transitionOrder ctx orderId .inKitchen

def markReady (ctx : BranchContext) (orderId : Id) : RequestMeta → Db Unit :=
  transitionOrder ctx orderId .ready

def markServed (ctx : BranchContext) (orderId : Id) : RequestMeta → Db Unit :=
  transitionOrder ctx orderId .served

def closeOrder (ctx : BranchContext) (orderId : Id) : RequestMeta → Db Unit :=
  transitionOrder ctx orderId .closed

structure TransitionOrderDto where
  reason : Option String := none
  deriving DecidableEq, Repr

def voidOrder (ctx : BranchContext) (orderId : Id) (dto : TransitionOrderDto)
    (request : RequestMeta) : Db Unit := do
  let s ← get
  let order ← need (s.findOrder ctx orderId) (notFound "Order not found")
  assertTransitionAllowed request order .voided
  validateTransition order.status .voided
  let postKitchen := order.status == .inKitchen || order.status == .ready
  ensure (!(postKitchen && dto.reason.all String.isEmpty))
    (badRequest "Post-kitchen void requires a reason")
  modify fun s =>
    let voided := setStatus s orderId .voided
    if order.serviceType = .dineIn then autoReleaseTableIfIdle voided orderId order.tableId
      else voided

-- ---
-- What a successful call did
-- ---

theorem checkTable_reads : Reads (checkTable ctx tableId) := by
  cases tableId with
  | none => exact .bind .get fun _ => .pure _
  | some tableId => exact .bind .get fun _ => .ensure _ _

@[simp] theorem checkTable_ok :
    checkTable ctx tableId s = .ok u t ↔ Returns (checkTable ctx tableId) s u ∧ s = t :=
  checkTable_reads.returns

theorem loadForLines_reads : Reads (loadForLines ctx orderId request change) :=
  .bind .get fun _ => .bind (.need _ _) fun _ => .bind assertOwnership_reads fun _ =>
    .bind assertWaiterShiftOpen_reads fun _ => .bind (.ensure _ _) fun _ => .pure _

@[simp] theorem loadForLines_ok :
    loadForLines ctx orderId request change s = .ok order t ↔
      Returns (loadForLines ctx orderId request change) s order ∧ s = t :=
  loadForLines_reads.returns

theorem loadForLines_spec (h : Returns (loadForLines ctx orderId request change) s order) :
    s.findOrder ctx orderId = some order ∧ order.status.active = true := by
  unfold Returns loadForLines at h
  simp only [bind_ok, get_ok, need_ok, ensure_ok, pure_ok] at h
  obtain ⟨_, _, ⟨rfl, rfl⟩, _, _, ⟨hfind, rfl⟩, _, _, _, _, _, _, _, _, ⟨hactive, _⟩, rfl, _⟩ := h
  exact ⟨hfind, hactive⟩

/-- The row a new order starts as. -/
def freshOrder (s : Store) (ctx : BranchContext) (userId : Id) (tableId : Option Id)
    (serviceType : ServiceType) : Order :=
  { orgId := ctx.organizationId, branchId := ctx.branchId, userId, tableId
    orderNumber := generateOrderNumber s ctx.branchId, serviceType
    createdAt := s.clock, updatedAt := s.clock }

theorem createOrder_ok (h : createOrder userId ctx dto request s = .ok orderId t) :
    s.numberFree ctx.branchId (generateOrderNumber s ctx.branchId) ∧
      t = { s with
        orders := s.orders.insert (freshOrder s ctx userId dto.tableId dto.serviceType) } := by
  simp only [createOrder, bind_ok, get_ok, ensure_ok, assertWaiterShiftOpen_ok, checkTable_ok,
    createOrderRow_ok] at h
  obtain ⟨_, _, ⟨_, rfl⟩, _, _, ⟨_, rfl⟩, _, _, ⟨_, rfl⟩, _, _, ⟨rfl, rfl⟩, hfree, _, rfl⟩ := h
  exact ⟨hfree, rfl⟩

theorem addOrderItem_ok (h : addOrderItem ctx orderId dto request s = .ok u t) :
    ∃ order pricing, s.findOrder ctx orderId = some order ∧ order.status.active = true ∧
      Returns (computeLinePricing ctx dto.menuItemId dto.menuItemServingId dto.orderedQuantity
        dto.metadata) s pricing ∧
      t = recalcOrderTotals
        { s with orderItems := s.orderItems.insert (newItem orderId dto pricing) } orderId := by
  simp only [addOrderItem, bind_ok, loadForLines_ok, computeLinePricing_ok, modify_ok] at h
  obtain ⟨order, _, ⟨hload, rfl⟩, pricing, _, ⟨hprice, rfl⟩, rfl⟩ := h
  obtain ⟨hfind, hactive⟩ := loadForLines_spec hload
  exact ⟨order, pricing, hfind, hactive, hprice, rfl⟩

theorem updateOrderItem_ok (h : updateOrderItem ctx orderId itemId dto request s = .ok u t) :
    ∃ order existing pricing, s.findOrder ctx orderId = some order ∧ order.status.active = true ∧
      s.itemOn orderId itemId = some existing ∧
      Returns (computeLinePricing ctx existing.menuItemId existing.menuItemServingId
        (dto.updatedQuantity existing) (dto.metadata.getD existing.metadata)) s pricing ∧
      t = recalcOrderTotals
        { s with orderItems := s.orderItems.update itemId (updatedItem dto existing pricing) }
          orderId := by
  simp only [updateOrderItem, bind_ok, loadForLines_ok, get_ok, need_ok, computeLinePricing_ok,
    modify_ok] at h
  obtain ⟨order, _, ⟨hload, rfl⟩, _, _, ⟨rfl, rfl⟩, existing, _, ⟨hitem, rfl⟩, pricing, _,
    ⟨hprice, rfl⟩, rfl⟩ := h
  obtain ⟨hfind, hactive⟩ := loadForLines_spec hload
  exact ⟨order, existing, pricing, hfind, hactive, hitem, hprice, rfl⟩

theorem deleteOrderItem_ok (h : deleteOrderItem ctx orderId itemId request s = .ok u t) :
    ∃ order existing, s.findOrder ctx orderId = some order ∧ order.status.active = true ∧
      s.itemOn orderId itemId = some existing ∧
      t = recalcOrderTotals { s with orderItems := s.orderItems.erase itemId } orderId := by
  simp only [deleteOrderItem, bind_ok, loadForLines_ok, get_ok, need_ok, modify_ok] at h
  obtain ⟨order, _, ⟨hload, rfl⟩, _, _, ⟨rfl, rfl⟩, existing, _, ⟨hitem, rfl⟩, rfl⟩ := h
  obtain ⟨hfind, hactive⟩ := loadForLines_spec hload
  exact ⟨order, existing, hfind, hactive, hitem, rfl⟩

/-- The store a transition leaves: the status write and what follows it. -/
theorem transitionOrder_ok (h : transitionOrder ctx orderId target request s = .ok u t) :
    ∃ order, s.findOrder ctx orderId = some order ∧ target ∈ order.status.validTransitions ∧
      afterTransition ctx orderId order target (setStatus s orderId target) = .ok () t := by
  simp only [transitionOrder, bind_ok, get_ok, need_ok, assertTransitionAllowed_ok,
    assertWaiterShiftOpen_ok, validateTransition, ensure_ok, modify_ok, List.contains_eq_mem,
    decide_eq_true_eq] at h
  obtain ⟨_, _, ⟨rfl, rfl⟩, order, _, ⟨hfind, rfl⟩, _, _, ⟨_, rfl⟩, _, _, ⟨_, rfl⟩, _, _,
    ⟨hvalid, rfl⟩, _, _, rfl, hafter⟩ := h
  exact ⟨order, hfind, hvalid, hafter⟩

theorem voidOrder_ok (h : voidOrder ctx orderId dto request s = .ok u t) :
    ∃ order, s.findOrder ctx orderId = some order ∧ .voided ∈ order.status.validTransitions ∧
      t = if order.serviceType = .dineIn then
          autoReleaseTableIfIdle (setStatus s orderId .voided) orderId order.tableId
        else setStatus s orderId .voided := by
  simp only [voidOrder, bind_ok, get_ok, need_ok, assertTransitionAllowed_ok, validateTransition,
    ensure_ok, modify_ok, List.contains_eq_mem, decide_eq_true_eq] at h
  obtain ⟨_, _, ⟨rfl, rfl⟩, order, _, ⟨hfind, rfl⟩, _, _, ⟨_, rfl⟩, _, _, ⟨hvalid, rfl⟩, _, _,
    ⟨_, rfl⟩, rfl⟩ := h
  exact ⟨order, hfind, hvalid, rfl⟩

-- ---
-- A failed call changed nothing
-- ---

theorem createOrder_atomic : Atomic (createOrder userId ctx dto request) :=
  assertWaiterShiftOpen_reads.then fun _ => (Reads.ensure _ _).then fun _ =>
    checkTable_reads.then fun _ => Reads.get.then fun _ => createOrderRow_atomic

theorem addOrderItem_atomic : Atomic (addOrderItem ctx orderId dto request) :=
  loadForLines_reads.then fun _ => computeLinePricing_reads.then fun _ => (Total.modify _).atomic

theorem updateOrderItem_atomic : Atomic (updateOrderItem ctx orderId itemId dto request) :=
  loadForLines_reads.then fun _ => Reads.get.then fun _ => (Reads.need _ _).then fun _ =>
    computeLinePricing_reads.then fun _ => (Total.modify _).atomic

theorem deleteOrderItem_atomic : Atomic (deleteOrderItem ctx orderId itemId request) :=
  loadForLines_reads.then fun _ => Reads.get.then fun _ => (Reads.need _ _).then fun _ =>
    (Total.modify _).atomic

theorem afterTransition_total : Total (afterTransition ctx orderId order target) := by
  cases target with
  | sent => exact .modify _
  | closed => exact .bind (.modify _) fun _ => .attempt _
  | _ => exact .pure _

theorem transitionOrder_atomic : Atomic (transitionOrder ctx orderId target request) :=
  Reads.get.then fun _ => (Reads.need _ _).then fun _ => assertTransitionAllowed_reads.then fun _ =>
    assertWaiterShiftOpen_reads.then fun _ => (Reads.ensure _ _).then fun _ =>
      (Total.bind (.modify _) fun _ => afterTransition_total).atomic

theorem voidOrder_atomic : Atomic (voidOrder ctx orderId dto request) :=
  Reads.get.then fun _ => (Reads.need _ _).then fun _ => assertTransitionAllowed_reads.then fun _ =>
    (Reads.ensure _ _).then fun _ => (Reads.ensure _ _).then fun _ => (Total.modify _).atomic

end OrdersService
end NimbusPos
