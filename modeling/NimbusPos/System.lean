import NimbusPos.Discounts.Service
import NimbusPos.Lib.Run
import NimbusPos.Orders.Service
import NimbusPos.Payments.Webhook
import NimbusPos.PosHandoff.Service
import NimbusPos.Refunds.Service
import NimbusPos.Shifts.Service

/-!
# The system

Every call of the services, one executed after another. A call takes time, so
each one finds the clock later than the one before. Menu administration is one
event that replaces the menu.
-/

namespace NimbusPos

open Lib Lib.Service

inductive OrdersCall
  | createOrder (userId : Id) (ctx : BranchContext) (dto : OrdersService.CreateOrderDto)
      (request : RequestMeta)
  | addOrderItem (ctx : BranchContext) (orderId : Id) (dto : OrdersService.AddOrderItemDto)
      (request : RequestMeta)
  | updateOrderItem (ctx : BranchContext) (orderId itemId : Id)
      (dto : OrdersService.UpdateOrderItemDto) (request : RequestMeta)
  | deleteOrderItem (ctx : BranchContext) (orderId itemId : Id) (request : RequestMeta)
  | sendOrder (ctx : BranchContext) (orderId : Id) (request : RequestMeta)
  | markInKitchen (ctx : BranchContext) (orderId : Id) (request : RequestMeta)
  | markReady (ctx : BranchContext) (orderId : Id) (request : RequestMeta)
  | markServed (ctx : BranchContext) (orderId : Id) (request : RequestMeta)
  | closeOrder (ctx : BranchContext) (orderId : Id) (request : RequestMeta)
  | voidOrder (ctx : BranchContext) (orderId : Id) (dto : OrdersService.TransitionOrderDto)
      (request : RequestMeta)

inductive DiscountsCall
  | requestDiscount (ctx : BranchContext) (orderId : Id) (dto : DiscountsService.RequestDiscountDto)
  | approveDiscount (userId : Id) (ctx : BranchContext) (discountId : Id)
      (dto : DiscountsService.ApproveDiscountDto)
  | rejectDiscount (ctx : BranchContext) (discountId : Id)

inductive HandoffCall
  | splitItems (ctx : BranchContext) (orderId : Id) (dto : PosHandoffService.SplitItemsDto)
  | moveItems (ctx : BranchContext) (sourceOrderId : Id) (dto : PosHandoffService.MoveOrderItemsDto)
  | mergeOrders (ctx : BranchContext) (dto : PosHandoffService.MergeOrdersDto)
  | transferTable (ctx : BranchContext) (orderId : Id) (dto : PosHandoffService.TransferTableDto)

inductive PaymentsCall
  | closeOrderWithPayment (ctx : BranchContext) (orderId : Id) (dto : PaymentsService.CloseOrderDto)
  | createPaymentIntent (ctx : BranchContext) (dto : PaymentsService.CreatePaymentIntentDto)
      (externalId : String) (requestToPay : PaymentsService.RequestToPay)
  | cancelPaymentIntent (ctx : BranchContext) (intentId : Id)
  | createManualReferencePayment (ctx : BranchContext)
      (dto : PaymentsService.CreateManualReferencePaymentDto)
  | processWebhook (delivery : PaymentsService.Delivery)

inductive ReservationsCall
  | create (ctx : BranchContext) (dto : ReservationsService.CreateReservationDto)
  | confirm (reservationId : Id) (ctx : BranchContext)
  | seat (reservationId userId : Id) (ctx : BranchContext)
      (dto : ReservationsService.SeatReservationDto)
  | cancel (reservationId : Id) (ctx : BranchContext)
  | markNoShow (reservationId : Id) (ctx : BranchContext)
  | complete (reservationId : Id) (ctx : BranchContext)
  | assignTable (reservationId : Id) (ctx : BranchContext)
      (dto : ReservationsService.AssignTableDto)

inductive DrawerCall
  | openShift (userId : Id) (ctx : BranchContext)
  | closeShift (shiftId : Id) (ctx : BranchContext)
  | openTill (userId : Id) (ctx : BranchContext) (dto : TillsService.OpenTillDto)
  | safeDrop (tillId : Id) (ctx : BranchContext) (dto : TillsService.SafeDropDto)
  | reconcileTill (tillId : Id) (ctx : BranchContext) (dto : TillsService.ReconcileTillDto)

inductive Call
  | orders (call : OrdersCall)
  | discounts (call : DiscountsCall)
  | handoff (call : HandoffCall)
  | payments (call : PaymentsCall)
  | refunds (call : RefundsService.RefundRequest)
  | reservations (call : ReservationsCall)
  | drawer (call : DrawerCall)
  | editMenu (menu : Menu)

/-- `bcrypt` is `bcrypt.compare`, the one part of a call outside the services. -/
abbrev Bcrypt := String → String → Bool

def OrdersCall.exec (s : Store) : OrdersCall → Store
  | .createOrder userId ctx dto request =>
    final (OrdersService.createOrder userId ctx dto request s)
  | .addOrderItem ctx orderId dto request =>
    final (OrdersService.addOrderItem ctx orderId dto request s)
  | .updateOrderItem ctx orderId itemId dto request =>
    final (OrdersService.updateOrderItem ctx orderId itemId dto request s)
  | .deleteOrderItem ctx orderId itemId request =>
    final (OrdersService.deleteOrderItem ctx orderId itemId request s)
  | .sendOrder ctx orderId request => final (OrdersService.sendOrder ctx orderId request s)
  | .markInKitchen ctx orderId request => final (OrdersService.markInKitchen ctx orderId request s)
  | .markReady ctx orderId request => final (OrdersService.markReady ctx orderId request s)
  | .markServed ctx orderId request => final (OrdersService.markServed ctx orderId request s)
  | .closeOrder ctx orderId request => final (OrdersService.closeOrder ctx orderId request s)
  | .voidOrder ctx orderId dto request => final (OrdersService.voidOrder ctx orderId dto request s)

def DiscountsCall.exec (bcrypt : Bcrypt) (s : Store) : DiscountsCall → Store
  | .requestDiscount ctx orderId dto => final (DiscountsService.requestDiscount ctx orderId dto s)
  | .approveDiscount userId ctx discountId dto =>
    final (DiscountsService.approveDiscount bcrypt userId ctx discountId dto s)
  | .rejectDiscount ctx discountId => final (DiscountsService.rejectDiscount ctx discountId s)

def HandoffCall.exec (s : Store) : HandoffCall → Store
  | .splitItems ctx orderId dto => final (PosHandoffService.splitItems ctx orderId dto s)
  | .moveItems ctx sourceOrderId dto => final (PosHandoffService.moveItems ctx sourceOrderId dto s)
  | .mergeOrders ctx dto => final (PosHandoffService.mergeOrders ctx dto s)
  | .transferTable ctx orderId dto => final (PosHandoffService.transferTable ctx orderId dto s)

def PaymentsCall.exec (s : Store) : PaymentsCall → Store
  | .closeOrderWithPayment ctx orderId dto =>
    final (PaymentsService.closeOrderWithPayment ctx orderId dto s)
  | .createPaymentIntent ctx dto externalId requestToPay =>
    final (PaymentsService.createPaymentIntent ctx dto externalId requestToPay s)
  | .cancelPaymentIntent ctx intentId => final (PaymentsService.cancelPaymentIntent ctx intentId s)
  | .createManualReferencePayment ctx dto =>
    final (PaymentsService.createManualReferencePayment ctx dto s)
  | .processWebhook delivery => PaymentsService.processWebhook s delivery

def RefundsService.RefundRequest.exec (bcrypt : Bcrypt) (s : Store) :
    RefundsService.RefundRequest → Store
  | .createRefund ctx orderId dto => final (RefundsService.createRefund ctx orderId dto s)
  | .approveRefund userId ctx refundId dto =>
    final (RefundsService.approveRefund bcrypt userId ctx refundId dto s)
  | .postCloseVoid userId ctx orderId dto =>
    final (RefundsService.postCloseVoid bcrypt userId ctx orderId dto s)

def ReservationsCall.exec (s : Store) : ReservationsCall → Store
  | .create ctx dto => final (ReservationsService.create ctx dto s)
  | .confirm reservationId ctx => final (ReservationsService.confirm reservationId ctx s)
  | .seat reservationId userId ctx dto =>
    final (ReservationsService.seat reservationId userId ctx dto s)
  | .cancel reservationId ctx => final (ReservationsService.cancel reservationId ctx s)
  | .markNoShow reservationId ctx => final (ReservationsService.markNoShow reservationId ctx s)
  | .complete reservationId ctx => final (ReservationsService.complete reservationId ctx s)
  | .assignTable reservationId ctx dto =>
    final (ReservationsService.assignTable reservationId ctx dto s)

def DrawerCall.exec (s : Store) : DrawerCall → Store
  | .openShift userId ctx => final (ShiftsService.openShift userId ctx s)
  | .closeShift shiftId ctx => final (ShiftsService.closeShift shiftId ctx s)
  | .openTill userId ctx dto => final (TillsService.openTill userId ctx dto s)
  | .safeDrop tillId ctx dto => final (TillsService.safeDrop tillId ctx dto s)
  | .reconcileTill tillId ctx dto => final (TillsService.reconcileTill tillId ctx dto s)

def Call.exec (bcrypt : Bcrypt) (s : Store) : Call → Store
  | .orders call => call.exec s
  | .discounts call => call.exec bcrypt s
  | .handoff call => call.exec s
  | .payments call => call.exec s
  | .refunds call => call.exec bcrypt s
  | .reservations call => call.exec s
  | .drawer call => call.exec s
  | .editMenu menu => { s with menu }

/-- One call, and the milliseconds by which it starts more than one after the
call before. -/
structure Event where
  call : Call
  wait : Nat := 0

def Store.tick (s : Store) (wait : Nat) : Store := { s with clock := s.clock + wait + 1 }

theorem tick_clock (s : Store) (wait : Nat) : s.clock < (s.tick wait).clock :=
  Nat.lt_succ_of_le (Nat.le_add_right _ _)

namespace System

def step (bcrypt : Bcrypt) (s : Store) (e : Event) : Store := e.call.exec bcrypt (s.tick e.wait)

/-- A store before its first order: menu, staff, settings, tables and drawers
are arbitrary. -/
structure Opening (s : Store) : Prop where
  orders : s.orders = .empty
  orderItems : s.orderItems = .empty
  discounts : s.discounts = .empty
  payments : s.payments = .empty
  paymentIntents : s.paymentIntents = .empty
  webhookEvents : s.webhookEvents = .empty
  refunds : s.refunds = .empty
  reservations : s.reservations = .empty
  reservationEvents : s.reservationEvents = .empty

theorem one_unit : (1 : Int) ≤ 1 := by decide

theorem two_units : (1 : Int) ≤ 2 := by decide

theorem one_selection : 1 ≤ 1 ∧ 1 ≤ 100 := by decide

theorem two_selections : 1 ≤ 2 ∧ 2 ≤ 100 := by decide

theorem some_cents : (1 : Cents) ≤ 1000 := by decide

/-- One menu item at 10.00, one table, one manager. -/
def cafe : Store where
  menu := { menuItems := Table.empty.insert { orgId := 0, branchId := 0, price := 1000 } }
  users := Table.empty.insert { quickPinHash := some "1234" }
  tables := Table.empty.insert { orgId := 0, branchId := 0 }

/-- The price of the item, in cash. -/
def cashTender : PaymentsService.CloseOrderDto where
  payments := [{ method := .cash, amount := 1000, amount_pos := some_cents }]
  payments_ne := by decide

/-- One item at 10.00 on an order that is taken through the kitchen. -/
def servedOrder : List Event :=
  [⟨.orders (.createOrder 0 ⟨0, 0⟩ { serviceType := .takeaway } {}), 0⟩,
   ⟨.orders (.addOrderItem ⟨0, 0⟩ 0 { menuItemId := 0 } {}), 0⟩,
   ⟨.orders (.sendOrder ⟨0, 0⟩ 0 {}), 0⟩,
   ⟨.orders (.markInKitchen ⟨0, 0⟩ 0 {}), 0⟩,
   ⟨.orders (.markReady ⟨0, 0⟩ 0 {}), 0⟩,
   ⟨.orders (.markServed ⟨0, 0⟩ 0 {}), 0⟩]

def paidOrder : List Event :=
  servedOrder ++ [⟨.payments (.closeOrderWithPayment ⟨0, 0⟩ 0 cashTender), 0⟩]

theorem cafe_opening : Opening cafe := ⟨rfl, rfl, rfl, rfl, rfl, rfl, rfl, rfl, rfl⟩

/-- Every store that a sequence of calls leads to, each call meeting `ok` in
the store it finds. -/
def Reach (bcrypt : Bcrypt) (ok : Store → Call → Prop) (start : Store) (events : List Event)
    (s : Store) : Prop :=
  Run (step bcrypt) (fun s e => ok (s.tick e.wait) e.call) start events s

/-- The store after a sequence of calls. -/
def after (bcrypt : Bcrypt) (start : Store) (events : List Event) : Store :=
  events.foldl (step bcrypt) start

variable {bcrypt : Bcrypt} {ok : Store → Call → Prop} {inv : Store → Prop}

theorem reach_after (bcrypt : Bcrypt) (start : Store) (events : List Event) :
    Reach bcrypt (fun _ _ => True) start events (after bcrypt start events) :=
  Run.foldl (step bcrypt) start events

/-- An invariant of every call that the clock does not break. -/
theorem Reach.invariant (h : Reach bcrypt ok start events s) (h0 : inv start)
    (tick : ∀ s wait, inv s → inv (s.tick wait))
    (step : ∀ s call, inv s → ok s call → inv (call.exec bcrypt s)) : inv s :=
  Run.invariant h h0 fun _ e hs hok => step _ e.call (tick _ e.wait hs) hok

end System

end NimbusPos
