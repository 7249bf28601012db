import NimbusPos.Discounts.Service
import NimbusPos.Lib.Program
import NimbusPos.Orders.Service

/-!
# Order edits, statement by statement

The calls that change an order's lines, its discount or its status, as they interleave
in the database: each reads and checks, makes one change by a statement of its own, and
recomputes the totals from what it then reads. A check that stands between two
statements is given a turn as well.
-/

namespace NimbusPos.OrderEdits

open Lib Lib.Service
open OrdersService DiscountsService

/-- What a call that only reads answers. -/
def answerOf (x : Db α) (s : Store) : Except HttpError α :=
  match x s with
  | .ok a _ => .ok a
  | .error e _ => .error e

-- ---
-- Reading and checking
-- ---

inductive Read
  | findOrder (ctx : BranchContext) (orderId : Id)
  | assertOwnership (request : RequestMeta) (order : Order)
  | assertTransitionAllowed (request : RequestMeta) (order : Order) (target : OrderStatus)
  | assertWaiterShiftOpen (actor : Option ActorLike) (ctx : BranchContext)
  | findItem (orderId itemId : Id)
  | computeLinePricing (ctx : BranchContext) (menuItemId : Id) (menuItemServingId : Option Id)
      (quantity : Int) (modifierMeta : LineMetadata)
  | findDiscount (ctx : BranchContext) (discountId : Id)
  | findDiscountedOrder (orderId : Id)
  | verifyPin (userId : Id) (managerPin : Option String)
  | now

abbrev Read.Answer : Read → Type
  | .findOrder .. | .findDiscountedOrder _ => Option Order
  | .assertOwnership .. | .assertTransitionAllowed .. | .assertWaiterShiftOpen .. => Unit
  | .findItem .. => Option OrderItem
  | .computeLinePricing .. => LinePricing
  | .findDiscount .. => Option Discount
  | .verifyPin .. => Bool
  | .now => Time

def Read.exec (bcrypt : String → String → Bool) (s : Store) :
    (k : Read) → Except HttpError k.Answer
  | .findOrder ctx orderId => .ok (s.findOrder ctx orderId)
  | .assertOwnership request order => answerOf (OrdersService.assertOwnership request order) s
  | .assertTransitionAllowed request order target =>
    answerOf (OrdersService.assertTransitionAllowed request order target) s
  | .assertWaiterShiftOpen actor ctx => answerOf (NimbusPos.assertWaiterShiftOpen actor ctx) s
  | .findItem orderId itemId => .ok (s.itemOn orderId itemId)
  | .computeLinePricing ctx menuItemId menuItemServingId quantity modifierMeta =>
    answerOf (NimbusPos.computeLinePricing ctx menuItemId menuItemServingId quantity modifierMeta) s
  | .findDiscount ctx discountId => .ok (DiscountsService.findDiscount s ctx discountId)
  | .findDiscountedOrder orderId => .ok (s.orders.get? orderId)
  | .verifyPin userId managerPin => answerOf (DiscountsService.verifyPin bcrypt userId managerPin) s
  | .now => .ok s.clock

/-- The one statement of a call that changes something. -/
inductive Write
  | createItem (row : OrderItem)
  | updateItem (itemId : Id) (data : OrderItem → OrderItem)
  | deleteItem (itemId : Id)
  | claim (ctx : BranchContext) (discountId : Id) (approvedAt : Time) (managerPinVerified : Bool)
  | setStatus (ctx : BranchContext) (order : Order) (target : OrderStatus)

structure Change where
  orderId : Id
  write : Write

abbrev Reading (α : Type) := Program Read Read.Answer HttpError α

abbrev query (k : Read) : Reading k.Answer := Program.statement k

open Program (ensure need)

def loadForLines (ctx : BranchContext) (orderId : Id) (request : RequestMeta) (change : String) :
    Reading Order := do
  let order ← need (← query (.findOrder ctx orderId)) (notFound "Order not found")
  let _ ← query (.assertOwnership request order)
  let _ ← query (.assertWaiterShiftOpen request.actor ctx)
  ensure order.status.active
    (conflict ("Cannot " ++ change ++ " a " ++ toString order.status ++ " order"))
  pure order

def addOrderItem (ctx : BranchContext) (orderId : Id) (dto : AddOrderItemDto)
    (request : RequestMeta) : Reading Change := do
  let _ ← loadForLines ctx orderId request "add items to"
  let pricing ← query (.computeLinePricing ctx dto.menuItemId dto.menuItemServingId
    dto.orderedQuantity dto.metadata)
  pure ⟨orderId, .createItem (newItem orderId dto pricing)⟩

def updateOrderItem (ctx : BranchContext) (orderId itemId : Id) (dto : UpdateOrderItemDto)
    (request : RequestMeta) : Reading Change := do
  let _ ← loadForLines ctx orderId request "update items on"
  let existing ← need (← query (.findItem orderId itemId)) (notFound "Order item not found")
  let pricing ← query (.computeLinePricing ctx existing.menuItemId existing.menuItemServingId
    (dto.updatedQuantity existing) (dto.metadata.getD existing.metadata))
  pure ⟨orderId, .updateItem itemId (updatedItem dto existing pricing)⟩

def deleteOrderItem (ctx : BranchContext) (orderId itemId : Id) (request : RequestMeta) :
    Reading Change := do
  let _ ← loadForLines ctx orderId request "remove items from"
  let _ ← need (← query (.findItem orderId itemId)) (notFound "Order item not found")
  pure ⟨orderId, .deleteItem itemId⟩

def transitionOrder (ctx : BranchContext) (orderId : Id) (targetStatus : OrderStatus)
    (request : RequestMeta) : Reading Change := do
  let order ← need (← query (.findOrder ctx orderId)) (notFound "Order not found")
  let _ ← query (.assertTransitionAllowed request order targetStatus)
  let _ ← query (.assertWaiterShiftOpen request.actor ctx)
  ensure (order.status.validTransitions.contains targetStatus)
    (conflict ("Invalid transition from " ++ toString order.status ++ " to " ++
      toString targetStatus))
  pure ⟨orderId, .setStatus ctx order targetStatus⟩

/-- The void has checks of its own, and none of the waiter's shift. -/
def voidOrder (ctx : BranchContext) (orderId : Id) (dto : TransitionOrderDto)
    (request : RequestMeta) : Reading Change := do
  let order ← need (← query (.findOrder ctx orderId)) (notFound "Order not found")
  let _ ← query (.assertTransitionAllowed request order .voided)
  ensure (order.status.validTransitions.contains .voided)
    (conflict ("Invalid transition from " ++ toString order.status ++ " to " ++
      toString OrderStatus.voided))
  let postKitchen := order.status == .inKitchen || order.status == .ready
  ensure (!(postKitchen && dto.reason.all String.isEmpty))
    (badRequest "Post-kitchen void requires a reason")
  pure ⟨orderId, .setStatus ctx order .voided⟩

def approveDiscount (userId : Id) (ctx : BranchContext) (discountId : Id)
    (dto : ApproveDiscountDto) : Reading Change := do
  let discount ← need (← query (.findDiscount ctx discountId)) (notFound "Discount not found")
  ensure (discount.status == .pending)
    (conflict ("Cannot approve a discount in " ++ toString discount.status ++ " status"))
  let order ← query (.findDiscountedOrder discount.orderId)
  ensure (order.any fun order => discountableStates.contains order.status)
    (conflict "Order is no longer in a state that accepts discounts")
  let managerPinVerified ← query (.verifyPin userId dto.managerPin)
  let approvedAt ← query .now
  pure ⟨discount.orderId, .claim ctx discountId approvedAt managerPinVerified⟩

inductive Call
  | addOrderItem (ctx : BranchContext) (orderId : Id) (dto : AddOrderItemDto)
      (request : RequestMeta)
  | updateOrderItem (ctx : BranchContext) (orderId itemId : Id) (dto : UpdateOrderItemDto)
      (request : RequestMeta)
  | deleteOrderItem (ctx : BranchContext) (orderId itemId : Id) (request : RequestMeta)
  | transitionOrder (ctx : BranchContext) (orderId : Id) (targetStatus : OrderStatus)
      (request : RequestMeta)
  | voidOrder (ctx : BranchContext) (orderId : Id) (dto : TransitionOrderDto)
      (request : RequestMeta)
  | approveDiscount (userId : Id) (ctx : BranchContext) (discountId : Id) (dto : ApproveDiscountDto)

def Call.reading : Call → Reading Change
  | .addOrderItem ctx orderId dto request => OrderEdits.addOrderItem ctx orderId dto request
  | .updateOrderItem ctx orderId itemId dto request =>
    OrderEdits.updateOrderItem ctx orderId itemId dto request
  | .deleteOrderItem ctx orderId itemId request =>
    OrderEdits.deleteOrderItem ctx orderId itemId request
  | .transitionOrder ctx orderId targetStatus request =>
    OrderEdits.transitionOrder ctx orderId targetStatus request
  | .voidOrder ctx orderId dto request => OrderEdits.voidOrder ctx orderId dto request
  | .approveDiscount userId ctx discountId dto =>
    OrderEdits.approveDiscount userId ctx discountId dto

-- ---
-- Changing and recomputing
-- ---

/-- The row an approval writes. -/
def approvedRow (approvedAt : Time) (managerPinVerified : Bool) (row : Discount) : Discount :=
  { row with status := .approved, approvedAt := some approvedAt, managerPinVerified }

def Change.exec (s : Store) (change : Change) : Except HttpError Store :=
  match change.write with
  | .createItem row => .ok { s with orderItems := s.orderItems.insert row }
  | .updateItem itemId data =>
    if (s.orderItems.get? itemId).isSome then
      .ok { s with orderItems := s.orderItems.update itemId data }
    else .error (notFound "Record to update not found")
  | .deleteItem itemId =>
    if (s.orderItems.get? itemId).isSome then .ok { s with orderItems := s.orderItems.erase itemId }
    else .error (notFound "Record to delete does not exist")
  | .claim ctx discountId approvedAt managerPinVerified =>
    if s.discounts.count (claimMatches ctx discountId) = 0 then
      .error (conflict "Discount was concurrently modified and is no longer pending")
    else .ok { s with
      discounts := s.discounts.updateWhere (claimMatches ctx discountId)
        (approvedRow approvedAt managerPinVerified) }
  | .setStatus _ _ target => .ok (setStatus s change.orderId target)

/-- `recalcOrderTotals` sums up the lines; `recalcOrderDiscount` takes the subtotal that
is stored. -/
inductive Recalc
  | orderTotals
  | orderDiscount
  deriving DecidableEq, Repr

inductive Stage
  | reading (x : Reading Change)
  | summing (recalc : Recalc) (orderId : Id)
  | discounting (recalc : Recalc) (orderId : Id) (subtotal : Cents)
  | storing (recalc : Recalc) (orderId : Id) (subtotal discount : Cents)
  /-- What follows a status write touches no order, line or discount. -/
  | settling (ctx : BranchContext) (orderId : Id) (order : Order) (target : OrderStatus)
  | ended (result : Except HttpError Unit)

def Change.next (change : Change) : Stage :=
  match change.write with
  | .createItem _ | .updateItem .. | .deleteItem _ => .summing .orderTotals change.orderId
  | .claim .. => .summing .orderDiscount change.orderId
  | .setStatus ctx order target => .settling ctx change.orderId order target

/-- The subtotal that a recomputation starts from. -/
def Recalc.subtotal (s : Store) (orderId : Id) : Recalc → Option Cents
  | .orderTotals => some (s.lineSum orderId)
  | .orderDiscount => (s.orders.get? orderId).map (·.subtotal)

def Recalc.store (s : Store) (orderId : Id) (subtotal discount : Cents) : Recalc → Store
  | .orderTotals => s.updateOrder orderId fun order =>
    { order with subtotal, discount, total := max (subtotal - discount) 0 }
  | .orderDiscount => s.updateOrder orderId fun order =>
    { order with discount, total := max (subtotal - discount) 0 }

/-- What follows a status write. A void releases the table of a dine-in order. -/
def settle (ctx : BranchContext) (orderId : Id) (order : Order) : OrderStatus → Db Unit
  | .voided => modify fun s =>
    if order.serviceType = .dineIn then autoReleaseTableIfIdle s orderId order.tableId else s
  | target => afterTransition ctx orderId order target

/-- The next statement of a call. -/
def Stage.advance (bcrypt : String → String → Bool) (s : Store) : Stage → Store × Stage
  | .reading (.done (.error e)) => (s, .ended (.error e))
  | .reading (.done (.ok change)) =>
    match change.exec s with
    | .ok t => (t, change.next)
    | .error e => (s, .ended (.error e))
  | .reading (.send k next) => (s, .reading (next (k.exec bcrypt s)))
  | .summing recalc orderId =>
    match recalc.subtotal s orderId with
    | some subtotal => (s, .discounting recalc orderId subtotal)
    | none => (s, .ended (.ok ()))
  | .discounting recalc orderId subtotal =>
    (s, .storing recalc orderId subtotal (s.approvedAmount orderId subtotal))
  | .storing recalc orderId subtotal discount =>
    (recalc.store s orderId subtotal discount, .ended (.ok ()))
  | .settling ctx orderId order target =>
    (final (settle ctx orderId order target s), .ended (.ok ()))
  | .ended result => (s, .ended result)

abbrev State := Pool Store Stage

/-- A call takes its next statement, or time passes. -/
inductive Step
  | turn (i : Nat)
  | wait (ms : Nat)
  deriving DecidableEq, Repr

def Step.take (bcrypt : String → String → Bool) (p : State) : Step → State
  | .turn i => p.step (Stage.advance bcrypt) i
  | .wait ms => { p with shared := { p.shared with clock := p.shared.clock + ms } }

def Call.begin (call : Call) : Stage := .reading call.reading

end NimbusPos.OrderEdits
