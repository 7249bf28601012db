import NimbusPos.System

/-!
# What a call can do

`Effect s call t` lists every way a call can change a store, with the checks
that held before it. `exec_effect` shows the list complete: an invariant of the
system is one case per effect.
-/

namespace NimbusPos

open Lib Lib.Service
open OrdersService DiscountsService PosHandoffService PaymentsService RefundsService

/-- The transition a status call asks for. -/
def OrdersCall.transition : OrdersCall → Option (BranchContext × Id × OrderStatus)
  | .sendOrder ctx orderId _ => some (ctx, orderId, .sent)
  | .markInKitchen ctx orderId _ => some (ctx, orderId, .inKitchen)
  | .markReady ctx orderId _ => some (ctx, orderId, .ready)
  | .markServed ctx orderId _ => some (ctx, orderId, .served)
  | .closeOrder ctx orderId _ => some (ctx, orderId, .closed)
  | _ => none

/-- The store after a status write that does not close the order. -/
def advanceOrder (s : Store) (orderId : Id) (order : Order) (target : OrderStatus) : Store :=
  if target = .sent ∧ order.serviceType = .dineIn then
    autoOccupyTable (setStatus s orderId target) order.tableId
  else setStatus s orderId target

/-- The store after `closeOrder`. -/
def closedOrder (s : Store) (ctx : BranchContext) (orderId : Id) (order : Order) : Store :=
  final (ReservationsService.completeForClosedOrder orderId ctx
    (autoReleaseTableIfIdle (setStatus s orderId .closed) orderId order.tableId))

/-- The store after `voidOrder`. -/
def voidedOrder (s : Store) (orderId : Id) (order : Order) : Store :=
  if order.serviceType = .dineIn then
    autoReleaseTableIfIdle (setStatus s orderId .voided) orderId order.tableId
  else setStatus s orderId .voided

/-- The intents keep the order, the branch and the organisation they are for. -/
def SameIntents (s : Store) (intents : Table PaymentIntent) : Prop :=
  ∀ k intent', intents.get? k = some intent' → ∃ intent, s.paymentIntents.get? k = some intent ∧
    intent'.orderId = intent.orderId ∧ intent'.branchId = intent.branchId ∧
    intent'.orgId = intent.orgId

def Store.withEvents (s : Store) (events : Table WebhookEvent) : Store :=
  { s with webhookEvents := events }

/-- The provider reports a success that is not refused for its amount. -/
def PaymentsService.Delivery.reportsSuccess (d : Delivery) : Bool :=
  normalizeStatus d.status == some .succeeded && (match d.payload.amount with
    | .invalid _ => false
    | _ => true)

/-- A store with a webhook's payment and what settling it did. -/
def paidStore (s : Store) (intents : Table PaymentIntent) (payment : Payment)
    (orderId branchId : Id) : Store :=
  (autoSettleIfFullyPaid { s with paymentIntents := intents, payments := s.payments.insert payment }
    orderId branchId).2

/-- `splitItems` without its checks. -/
def splitStore (s : Store) (sourceId : Id) (child : Order) (sels : List ItemSelection) : Store :=
  let moved := moveSelections (s.itemOn sourceId) s.orders.next s.orderItems sels
  resum { s with orders := s.orders.insert child, orderItems := moved } sourceId s.orders.next

/-- `moveItems` without its checks. -/
def movedStore (s : Store) (sourceId targetId : Id) (sels : List ItemSelection) : Store :=
  let moved := moveSelections (s.itemOn sourceId) targetId s.orderItems sels
  resum { s with orderItems := moved } sourceId targetId

/-- `mergeOrders` without its checks. -/
def mergedStore (s : Store) (sourceId targetId : Id) : Store :=
  let moved := reparentAll targetId s.orderItems (s.itemsOf sourceId)
  (resum { s with orderItems := moved } targetId sourceId).updateOrder sourceId fun order =>
    { order with status := .voided, mergedIntoOrderId := some targetId }

theorem splitStore_get (s : Store) (sourceId : Id) (child : Order) (sels : List ItemSelection)
    (k : Id) :
    (splitStore s sourceId child sels).orders.get? k =
      ((s.orders.insert child).get? k).map fun order =>
      if k = sourceId ∨ k = s.orders.next then
        rebilled (lineValue (moveSelections (s.itemOn sourceId) s.orders.next s.orderItems sels) k)
          s.clock order
      else order :=
  resum_get { s with
    orders := s.orders.insert child
    orderItems := moveSelections (s.itemOn sourceId) s.orders.next s.orderItems sels }
    sourceId s.orders.next k

theorem movedStore_get (s : Store) (sourceId targetId : Id) (sels : List ItemSelection) (k : Id) :
    (movedStore s sourceId targetId sels).orders.get? k = (s.orders.get? k).map fun order =>
      if k = sourceId ∨ k = targetId then
        rebilled (lineValue (moveSelections (s.itemOn sourceId) targetId s.orderItems sels) k)
          s.clock order
      else order :=
  resum_get { s with orderItems := moveSelections (s.itemOn sourceId) targetId s.orderItems sels }
    sourceId targetId k

/-- A merge voids its source. -/
def mergedInto (targetId : Id) (order : Order) : Order :=
  { order with status := .voided, mergedIntoOrderId := some targetId }

theorem mergedStore_get (s : Store) (sourceId targetId k : Id) :
    (mergedStore s sourceId targetId).orders.get? k = (s.orders.get? k).map fun order =>
      let value := lineValue (reparentAll targetId s.orderItems (s.itemsOf sourceId)) k
      if k = sourceId then mergedInto targetId (rebilled value s.clock order)
      else if k = targetId then rebilled value s.clock order
      else order := by
  have hresum := resum_get { s with
    orderItems := reparentAll targetId s.orderItems (s.itemsOf sourceId) } targetId sourceId k
  rw [mergedStore, updateOrder_get, hresum]
  by_cases hs : k = sourceId
  · subst hs
    cases s.orders.get? k <;> simp [rebilled, mergedInto]
    rfl
  · rw [if_neg hs]
    congr 1
    funext order
    simp only [hs, or_false, if_false]

/-- A split rewrites the order it takes from; an order that was there stays otherwise. -/
theorem splitStore_order (hget : s.orders.get? k = some order)
    (hget' : (splitStore s sourceId child sels).orders.get? k = some order') :
    (k = sourceId ∧ ∃ value, rebilled value s.clock order = order') ∨ order = order' := by
  rw [splitStore_get, Table.get?_insert_of_some hget, Option.map_some, Option.some.injEq] at hget'
  subst hget'
  split
  · rename_i hk
    rcases hk with hk | hk
    · exact .inl ⟨hk, _, rfl⟩
    · exact absurd (Table.lt_next hget) (hk ▸ Nat.lt_irrefl _)
  · exact .inr rfl

/-- A move rewrites both of its orders. -/
theorem movedStore_order (hget : s.orders.get? k = some order)
    (hget' : (movedStore s sourceId targetId sels).orders.get? k = some order') :
    ((k = sourceId ∨ k = targetId) ∧ ∃ value, rebilled value s.clock order = order') ∨
      order = order' := by
  rw [movedStore_get, hget, Option.map_some, Option.some.injEq] at hget'
  subst hget'
  split
  · rename_i hk
    exact .inl ⟨hk, _, rfl⟩
  · exact .inr rfl

/-- A merge voids one order and rewrites the other. -/
theorem mergedStore_order (hget : s.orders.get? k = some order)
    (hget' : (mergedStore s sourceId targetId).orders.get? k = some order') :
    (k = sourceId ∧ ∃ value, mergedInto targetId (rebilled value s.clock order) = order') ∨
      (k = targetId ∧ ∃ value, rebilled value s.clock order = order') ∨ order = order' := by
  rw [mergedStore_get, hget, Option.map_some, Option.some.injEq] at hget'
  subst hget'
  simp only
  split
  · rename_i hk
    exact .inl ⟨hk, _, rfl⟩
  · split
    · rename_i hk
      exact .inr (.inl ⟨hk, _, rfl⟩)
    · exact .inr (.inr rfl)

inductive Effect (s : Store) : Call → Store → Prop
  | nothing : Effect s call s
  | createOrder
      (hfree : s.numberFree ctx.branchId (OrdersService.generateOrderNumber s ctx.branchId)) :
      Effect s (.orders (.createOrder userId ctx dto request))
        { s with orders := s.orders.insert (freshOrder s ctx userId dto.tableId dto.serviceType) }
  | addOrderItem (hfind : s.findOrder ctx orderId = some order)
      (hactive : order.status.active = true)
      (hprice : Returns (computeLinePricing ctx dto.menuItemId dto.menuItemServingId
        dto.orderedQuantity dto.metadata) s pricing) :
      Effect s (.orders (.addOrderItem ctx orderId dto request)) (recalcOrderTotals
        { s with orderItems := s.orderItems.insert (newItem orderId dto pricing) } orderId)
  | updateOrderItem (hfind : s.findOrder ctx orderId = some order)
      (hactive : order.status.active = true) (hitem : s.itemOn orderId itemId = some existing)
      (hprice : Returns (computeLinePricing ctx existing.menuItemId existing.menuItemServingId
        (dto.updatedQuantity existing) (dto.metadata.getD existing.metadata)) s pricing) :
      Effect s (.orders (.updateOrderItem ctx orderId itemId dto request)) (recalcOrderTotals
        { s with orderItems := s.orderItems.update itemId (updatedItem dto existing pricing) }
        orderId)
  | deleteOrderItem (hfind : s.findOrder ctx orderId = some order)
      (hactive : order.status.active = true) (hitem : s.itemOn orderId itemId = some existing) :
      Effect s (.orders (.deleteOrderItem ctx orderId itemId request))
        (recalcOrderTotals { s with orderItems := s.orderItems.erase itemId } orderId)
  | advance (hcall : call.transition = some (ctx, orderId, target))
      (hfind : s.findOrder ctx orderId = some order)
      (hvalid : target ∈ order.status.validTransitions) (hopen : target ≠ .closed)
      (hlive : target ≠ .voided) :
      Effect s (.orders call) (advanceOrder s orderId order target)
  | close (hfind : s.findOrder ctx orderId = some order) (hserved : order.status = .served) :
      Effect s (.orders (.closeOrder ctx orderId request)) (closedOrder s ctx orderId order)
  | void (hfind : s.findOrder ctx orderId = some order)
      (hvalid : .voided ∈ order.status.validTransitions) :
      Effect s (.orders (.voidOrder ctx orderId dto request)) (voidedOrder s orderId order)
  | requestDiscount (hfind : s.findOrder ctx orderId = some order)
      (hstate : order.status ∈ discountableStates)
      (hpct : dto.type = .percentage → dto.value ≤ 10000)
      (happroves : DiscountsService.autoApproves s ctx order dto = true) :
      Effect s (.discounts (.requestDiscount ctx orderId dto)) (recalcOrderDiscount
        { s with discounts := s.discounts.insert (requestedDiscount s ctx orderId dto true) }
        orderId)
  | requestPending (hfind : s.findOrder ctx orderId = some order)
      (hstate : order.status ∈ discountableStates)
      (hpct : dto.type = .percentage → dto.value ≤ 10000) :
      Effect s (.discounts (.requestDiscount ctx orderId dto)) (flagHeavyDiscount
        { s with discounts := s.discounts.insert (requestedDiscount s ctx orderId dto false) }
        orderId)
  | approveDiscount (hdiscount : findDiscount s ctx discountId = some discount)
      (hpending : discount.status = .pending) (horder : s.orders.get? discount.orderId = some order)
      (hstate : order.status ∈ discountableStates) :
      Effect s (.discounts (.approveDiscount userId ctx discountId dto)) (recalcOrderDiscount
        { s with
          discounts := s.discounts.updateWhere (claimMatches ctx discountId) fun row =>
            { row with
              status := .approved, approvedAt := some s.clock, managerPinVerified := verified } }
        discount.orderId)
  | rejectDiscount : Effect s (.discounts (.rejectDiscount ctx discountId))
      { s with
        discounts := s.discounts.updateWhere (claimMatches ctx discountId) fun row =>
          { row with status := .rejected } }
  | splitItems (hfind : s.findOrder ctx orderId = some source)
      (hopen : source.status ∈ handoffOpenStatuses) (hfits : selectionsFit s orderId dto.items)
      (hfree : s.numberFree ctx.branchId (generateChildOrderNumber s source.orderNumber orderId)) :
      Effect s (.handoff (.splitItems ctx orderId dto))
        (splitStore s orderId (childOrder s ctx orderId source dto.targetTableId) dto.items)
  | moveItems (hne : sourceId ≠ dto.targetOrderId)
      (hsource : s.findOrder ctx sourceId = some source)
      (hopen : source.status ∈ handoffOpenStatuses)
      (htarget : s.findOrder ctx dto.targetOrderId = some target)
      (hopen' : target.status ∈ handoffOpenStatuses) (hfits : selectionsFit s sourceId dto.items) :
      Effect s (.handoff (.moveItems ctx sourceId dto))
        (movedStore s sourceId dto.targetOrderId dto.items)
  | mergeOrders (hne : dto.sourceOrderId ≠ dto.targetOrderId)
      (hsource : s.findOrder ctx dto.sourceOrderId = some source)
      (hopen : source.status ∈ handoffOpenStatuses)
      (htarget : s.findOrder ctx dto.targetOrderId = some target)
      (hopen' : target.status ∈ handoffOpenStatuses)
      (hpaid : ∀ k payment, s.payments.get? k = some payment → payment.orderId = dto.sourceOrderId →
        payment.status ≠ .completed ∧ payment.status ≠ .pending) :
      Effect s (.handoff (.mergeOrders ctx dto)) (mergedStore s dto.sourceOrderId dto.targetOrderId)
  | transferTable (hfind : s.findOrder ctx orderId = some order)
      (hopen : order.status ∈ handoffOpenStatuses) :
      Effect s (.handoff (.transferTable ctx orderId dto))
        (s.updateOrder orderId fun order => { order with tableId := some dto.targetTableId })
  | closeOrderWithPayment (hfind : s.findOrder ctx orderId = some order)
      (hserved : order.status = .served)
      (hcovered : order.total ≤ alreadyPaid s orderId + tendered dto.payments) :
      Effect s (.payments (.closeOrderWithPayment ctx orderId dto))
        ((recordPayments s ctx orderId dto.payments).updateOrder orderId fun order =>
          { order with status := .closed })
  | createIntent (horder : s.findOrder ctx dto.orderId = some order)
      (hfor : intent.orderId = dto.orderId ∧ intent.branchId = ctx.branchId ∧
        intent.orgId = ctx.organizationId) :
      Effect s (.payments (.createPaymentIntent ctx dto externalId requestToPay))
        { s with paymentIntents := s.paymentIntents.insert intent }
  | manualPayment (horder : s.findOrder ctx dto.orderId = some order)
      (hnew : duplicateReference s ctx dto = none) :
      Effect s (.payments (.createManualReferencePayment ctx dto))
        (paidStore s s.paymentIntents (manualReferencePayment s ctx dto) dto.orderId ctx.branchId)
  | intentsNoted (hintents : SameIntents s intents) :
      Effect s (.payments call) ({ s with paymentIntents := intents }.withEvents events)
  | webhookPaid (hexternal : delivery.externalId = some externalId)
      (hresolve : resolveIntent s delivery externalId = some (intentId, intent))
      (hsuccess : delivery.reportsSuccess = true)
      (hnew : existingPayment s externalId intent = none)
      (hintents : SameIntents s intents) :
      Effect s (.payments (.processWebhook delivery))
        ((paidStore s intents (capturedPayment s delivery externalId intentId intent) intent.orderId
          intent.branchId).withEvents events)
  | createRefund (hfind : s.findOrder ctx orderId = some order) (hclosed : order.status = .closed)
      (hpayment : RefundsService.findPayment s ctx orderId dto.paymentId = some payment)
      (hle : dto.amount ≤ payment.amount - liveRefunds s dto.paymentId) :
      Effect s (.refunds (.createRefund ctx orderId dto))
        (refundedStore s ctx orderId dto)
  | approveRefund (hrefund : RefundsService.findRefund s ctx refundId = some refund)
      (hpending : refund.status = .pending) :
      Effect s (.refunds (.approveRefund userId ctx refundId dto))
        (checkAndMarkPaymentRefunded (RefundsService.completeRefund s refundId) refund.paymentId)
  | postCloseVoid (hfind : s.findOrder ctx orderId = some order)
      (hclosed : order.status = .closed) :
      Effect s (.refunds (.postCloseVoid userId ctx orderId dto))
        (voidOrderAndPayments s ctx orderId)
  | seat (hfind : s.findReservation ctx reservationId = some reservation)
      (hconfirmed : reservation.status = .confirmed) :
      Effect s (.reservations (.seat reservationId userId ctx dto))
        (ReservationsService.seatStore s reservationId ctx seatTableId none)
  | seatWithOrder (hfind : s.findReservation ctx reservationId = some reservation)
      (hconfirmed : reservation.status = .confirmed)
      (hfree : s.numberFree ctx.branchId (ReservationsService.generateOrderNumber s ctx.branchId)) :
      Effect s (.reservations (.seat reservationId userId ctx dto))
        (ReservationsService.seatStore { s with
          orders := s.orders.insert (ReservationsService.seatedOrder s userId ctx seatTableId) }
          reservationId ctx seatTableId (some s.orders.next))
  | desk (hframe : ReservationsService.deskFrame.rel s t) : Effect s (.reservations call) t
  | drawer (hframe : TillsService.drawerFrame.rel s t) : Effect s (.drawer call) t
  | editMenu : Effect s (.editMenu menu) { s with menu }

-- ---
-- Parts of a store that an effect leaves alone
-- ---

/-- Everything but tables and reservations. -/
def Store.books (s : Store) : Store :=
  { s with tables := .empty, reservations := .empty, reservationEvents := .empty }

/-- What the books determine. -/
theorem of_books {s t : Store} (read : Store → β) (hread : ∀ s, read s.books = read s)
    (h : t.books = s.books) : read t = read s := by
  rw [← hread t, h, hread]

theorem autoOccupyTable_books : (autoOccupyTable s tableId).books = s.books := by
  cases tableId <;> rfl

theorem autoReleaseTableIfIdle_books :
    (autoReleaseTableIfIdle s orderId tableId).books = s.books := by
  cases tableId with
  | none => rfl
  | some tableId =>
    simp only [autoReleaseTableIfIdle]
    split <;> rfl

theorem deskFrame_books (h : ReservationsService.deskFrame.rel s t) : t.books = s.books := by
  have hframe := congrArg Store.books h.1
  exact hframe

theorem advanceOrder_books :
    (advanceOrder s orderId order target).books = (setStatus s orderId target).books := by
  unfold advanceOrder
  split
  · exact autoOccupyTable_books
  · rfl

theorem closedOrder_books :
    (closedOrder s ctx orderId order).books = (setStatus s orderId .closed).books :=
  (deskFrame_books (ReservationsService.completeForClosedOrder_keeps _)).trans
    autoReleaseTableIfIdle_books

theorem voidedOrder_books :
    (voidedOrder s orderId order).books = (setStatus s orderId .voided).books := by
  unfold voidedOrder
  split
  · exact autoReleaseTableIfIdle_books
  · rfl

theorem flagHeavyDiscount_cases (s : Store) (orderId : Id) :
    flagHeavyDiscount s orderId = s ∨
      flagHeavyDiscount s orderId = s.updateOrder orderId fun order =>
      { order with anomalyFlags := order.anomalyFlags ++ [.heavyDiscount] } := by
  unfold flagHeavyDiscount
  split
  · exact .inr rfl
  · exact .inl rfl

/-- The flag is on the order and nowhere else. -/
theorem flagHeavyDiscount_rest (s : Store) (orderId : Id) :
    ∃ orders, flagHeavyDiscount s orderId = { s with orders } := by
  rcases flagHeavyDiscount_cases s orderId with h | h
  · exact ⟨s.orders, h⟩
  · exact ⟨_, h⟩

/-- Marking a payment writes no other table. -/
theorem checkAndMark_rest (s : Store) (paymentId : Id) :
    ∃ payments, checkAndMarkPaymentRefunded s paymentId = { s with payments } := by
  rcases checkAndMark_cases s paymentId with h | h
  · exact ⟨s.payments, h⟩
  · exact ⟨_, h⟩

/-- A store with one payment more. -/
def Store.withPayment (s : Store) (intents : Table PaymentIntent) (payment : Payment) : Store :=
  { s with paymentIntents := intents, payments := s.payments.insert payment }

theorem paidStore_cases (s : Store) (intents : Table PaymentIntent) (payment : Payment)
    (orderId branchId : Id) :
    paidStore s intents payment orderId branchId = s.withPayment intents payment ∨
      settles (s.withPayment intents payment) orderId branchId ∧
        paidStore s intents payment orderId branchId =
          setStatus (s.withPayment intents payment) orderId .closed := by
  rcases autoSettle_cases (s.withPayment intents payment) orderId branchId with h | ⟨hs, h⟩
  · exact .inl (congrArg Prod.snd h)
  · exact .inr ⟨hs, congrArg Prod.snd h⟩

/-- Settling writes no table but the orders. -/
theorem paidStore_rest (s : Store) (intents : Table PaymentIntent) (payment : Payment)
    (orderId branchId : Id) : ∃ orders,
    paidStore s intents payment orderId branchId =
      { s.withPayment intents payment with orders } := by
  rcases paidStore_cases s intents payment orderId branchId with h | ⟨_, h⟩
  · exact ⟨s.orders, h⟩
  · exact ⟨_, h⟩

-- ---
-- The list is complete
-- ---

theorem SameIntents.refl (s : Store) : SameIntents s s.paymentIntents :=
  fun _ intent h => ⟨intent, h, rfl, rfl, rfl⟩

theorem SameIntents.update {data : PaymentIntent → PaymentIntent}
    (hdata : ∀ intent, (data intent).orderId = intent.orderId ∧
      (data intent).branchId = intent.branchId ∧ (data intent).orgId = intent.orgId) :
    SameIntents s (s.paymentIntents.update k data) := by
  intro j intent' h
  rcases Table.update_cases h with ⟨-, intent, hget, rfl⟩ | ⟨-, h⟩
  · exact ⟨intent, hget, hdata intent⟩
  · exact ⟨intent', h, rfl, rfl, rfl⟩

theorem transition_effect {call : OrdersCall}
    (hcall : call.transition = some (ctx, orderId, target))
    (hclose : target = .closed → ∃ request, call = .closeOrder ctx orderId request)
    (hlive : target ≠ .voided) :
    Effect s (.orders call) (final (transitionOrder ctx orderId target request s)) := by
  refine transitionOrder_atomic.elim .nothing fun _ t h => ?_
  obtain ⟨order, hfind, hvalid, hafter⟩ := transitionOrder_ok h
  by_cases htarget : target = .closed
  · subst htarget
    obtain ⟨request, rfl⟩ := hclose rfl
    simp only [afterTransition, bind_ok, modify_ok, attempt_ok] at hafter
    obtain ⟨_, _, rfl, rfl⟩ := hafter
    refine .close hfind ?_
    cases hs : order.status <;> simp_all [OrderStatus.validTransitions]
  · have ht : t = advanceOrder s orderId order target := by
      cases target with
      | sent =>
        simp only [afterTransition, modify_ok] at hafter
        rw [← hafter]
        simp [advanceOrder]
      | closed => exact absurd rfl htarget
      | _ =>
        simp only [afterTransition, pure_ok] at hafter
        rw [← hafter.2]
        simp [advanceOrder]
    rw [ht]
    exact .advance hcall hfind hvalid htarget hlive

theorem OrdersCall.exec_effect (s : Store) (call : OrdersCall) :
    Effect s (.orders call) (call.exec s) := by
  cases call with
  | createOrder userId ctx dto request =>
    refine createOrder_atomic.elim .nothing fun _ t h => ?_
    obtain ⟨hfree, rfl⟩ := createOrder_ok h
    exact .createOrder hfree
  | addOrderItem ctx orderId dto request =>
    refine addOrderItem_atomic.elim .nothing fun _ t h => ?_
    obtain ⟨order, pricing, hfind, hactive, hprice, rfl⟩ := addOrderItem_ok h
    exact .addOrderItem hfind hactive hprice
  | updateOrderItem ctx orderId itemId dto request =>
    refine updateOrderItem_atomic.elim .nothing fun _ t h => ?_
    obtain ⟨order, existing, pricing, hfind, hactive, hitem, hprice, rfl⟩ := updateOrderItem_ok h
    exact .updateOrderItem hfind hactive hitem hprice
  | deleteOrderItem ctx orderId itemId request =>
    refine deleteOrderItem_atomic.elim .nothing fun _ t h => ?_
    obtain ⟨order, existing, hfind, hactive, hitem, rfl⟩ := deleteOrderItem_ok h
    exact .deleteOrderItem hfind hactive hitem
  | sendOrder ctx orderId request =>
    exact transition_effect rfl (fun h => nomatch h) (by decide)
  | markInKitchen ctx orderId request =>
    exact transition_effect rfl (fun h => nomatch h) (by decide)
  | markReady ctx orderId request =>
    exact transition_effect rfl (fun h => nomatch h) (by decide)
  | markServed ctx orderId request =>
    exact transition_effect rfl (fun h => nomatch h) (by decide)
  | closeOrder ctx orderId request =>
    exact transition_effect rfl (fun _ => ⟨request, rfl⟩) (by decide)
  | voidOrder ctx orderId dto request =>
    refine voidOrder_atomic.elim .nothing fun _ t h => ?_
    obtain ⟨order, hfind, hvalid, rfl⟩ := voidOrder_ok h
    exact .void hfind hvalid

theorem DiscountsCall.exec_effect (bcrypt : Bcrypt) (s : Store) (call : DiscountsCall) :
    Effect s (.discounts call) (call.exec bcrypt s) := by
  cases call with
  | requestDiscount ctx orderId dto =>
    refine requestDiscount_atomic.elim .nothing fun _ t h => ?_
    obtain ⟨order, hfind, hstate, hpct, ht⟩ := requestDiscount_ok h
    cases happroves : DiscountsService.autoApproves s ctx order dto with
    | true =>
      simp only [happroves, if_true] at ht
      exact ht ▸ .requestDiscount hfind hstate hpct happroves
    | false =>
      simp only [happroves, Bool.false_eq_true, if_false] at ht
      exact ht ▸ .requestPending hfind hstate hpct
  | approveDiscount userId ctx discountId dto =>
    refine approveDiscount_atomic.elim .nothing fun _ t h => ?_
    obtain ⟨discount, order, verified, hdiscount, hpending, horder, hstate, rfl⟩ :=
      approveDiscount_ok h
    exact .approveDiscount hdiscount hpending horder hstate
  | rejectDiscount ctx discountId =>
    refine rejectDiscount_atomic.elim .nothing fun _ t h => ?_
    exact rejectDiscount_ok h ▸ .rejectDiscount

theorem HandoffCall.exec_effect (s : Store) (call : HandoffCall) :
    Effect s (.handoff call) (call.exec s) := by
  cases call with
  | splitItems ctx orderId dto =>
    refine splitItems_atomic.elim .nothing fun _ t h => ?_
    obtain ⟨source, hfind, hopen, hfits, hfree, rfl⟩ := splitItems_ok h
    exact .splitItems hfind hopen hfits hfree
  | moveItems ctx sourceOrderId dto =>
    refine moveItems_atomic.elim .nothing fun _ t h => ?_
    obtain ⟨hne, ⟨source, hsource, hopen⟩, ⟨target, htarget, hopen'⟩, hfits, rfl⟩ := moveItems_ok h
    exact .moveItems hne hsource hopen htarget hopen' hfits
  | mergeOrders ctx dto =>
    refine mergeOrders_atomic.elim .nothing fun _ t h => ?_
    obtain ⟨hne, ⟨source, hsource, hopen⟩, ⟨target, htarget, hopen'⟩, hpaid, rfl⟩ :=
      mergeOrders_ok h
    exact .mergeOrders hne hsource hopen htarget hopen' hpaid
  | transferTable ctx orderId dto =>
    refine transferTable_atomic.elim .nothing fun _ t h => ?_
    obtain ⟨order, hfind, hopen, rfl⟩ := transferTable_ok h
    exact .transferTable hfind hopen

/-- A located intent is left alone, updated, or updated and paid. -/
theorem handleIntent_cases (s : Store) (d : Delivery) (e : String) (k : Id)
    (intent : PaymentIntent) :
    (∃ intents outcome, SameIntents s intents ∧
      handleIntent s d e k intent = ({ s with paymentIntents := intents }, outcome)) ∨
    ∃ intents outcome, d.reportsSuccess = true ∧ existingPayment s e intent = none ∧
      SameIntents s intents ∧ handleIntent s d e k intent =
        (paidStore s intents (capturedPayment s d e k intent) intent.orderId intent.branchId,
          outcome) := by
  have hsame {status} : SameIntents s (updateIntent s d e status k intent).paymentIntents :=
    .update fun _ => ⟨rfl, rfl, rfl⟩
  unfold handleIntent
  split
  · exact .inl ⟨s.paymentIntents, _, .refl s, rfl⟩
  · exact .inl ⟨s.paymentIntents, _, .refl s, rfl⟩
  · rename_i hstatus hamount
    unfold recordSuccess
    split
    · exact .inl ⟨_, _, hsame, rfl⟩
    · rename_i hnew
      refine .inr ⟨_, _, ?_, hnew, hsame, rfl⟩
      unfold Delivery.reportsSuccess
      rw [hstatus]
      cases ha : d.payload.amount with
      | invalid text => exact (hamount text ha).elim
      | absent | value => rfl
  · exact .inl ⟨_, _, hsame, rfl⟩

/-- Settling looks at orders and payments only. -/
theorem paidStore_events (s : Store) (events : Table WebhookEvent) :
    paidStore (s.withEvents events) intents payment orderId branchId =
      (paidStore s intents payment orderId branchId).withEvents events := by
  have hfind (r : Store) : findOrderInBranch (r.withEvents events) orderId branchId =
    findOrderInBranch r orderId branchId := rfl
  have hbalance (r : Store) : getOutstandingBalance (r.withEvents events) orderId branchId =
    getOutstandingBalance r orderId branchId := rfl
  have hpaid : { s.withEvents events with
      paymentIntents := intents, payments := (s.withEvents events).payments.insert payment } =
    { s with paymentIntents := intents, payments := s.payments.insert payment }.withEvents
      events := rfl
  simp only [paidStore, hpaid, autoSettleIfFullyPaid, hfind, hbalance]
  split
  · rfl
  · split
    · rfl
    · split <;> rfl

/-- A delivery either touches intents and events only or records a payment. -/
theorem processWebhook_effect (s : Store) (d : Delivery) :
    Effect s (.payments (.processWebhook d)) (processWebhook s d) := by
  have hnoted : Effect s (.payments (.processWebhook d))
      (finish (receive s d) s.webhookEvents.next {}) :=
    .intentsNoted (.refl s)
  unfold processWebhook handleCallback
  cases hexternal : d.externalId with
  | none => exact hnoted
  | some e =>
    simp only
    cases hresolve : resolveIntent (receive s d) d e with
    | none => exact hnoted
    | some row =>
      obtain ⟨intents, outcome, hsame, hhandle⟩ |
        ⟨intents, outcome, hsuccess, hnew, hsame, hhandle⟩ :=
        handleIntent_cases (receive s d) d e row.1 row.2
      · simp only [hhandle]
        exact .intentsNoted hsame
      · simp only [hhandle]
        have hevents : receive s d = s.withEvents (receive s d).webhookEvents := rfl
        rw [hevents, paidStore_events]
        exact .webhookPaid hexternal hresolve hsuccess hnew hsame

theorem PaymentsCall.exec_effect (s : Store) (call : PaymentsCall) :
    Effect s (.payments call) (call.exec s) := by
  cases call with
  | closeOrderWithPayment ctx orderId dto =>
    refine closeOrderWithPayment_atomic.elim .nothing fun _ t h => ?_
    obtain ⟨order, hfind, hserved, hcovered, rfl⟩ := closeOrderWithPayment_ok h
    exact .closeOrderWithPayment hfind hserved hcovered
  | createPaymentIntent ctx dto externalId requestToPay =>
    refine createPaymentIntent_atomic.elim .nothing fun _ t h => ?_
    obtain ⟨order, horder, rfl | ⟨intent, hfor, hbranch, horg, rfl⟩⟩ := createPaymentIntent_ok h
    · exact .nothing
    · exact .createIntent horder ⟨hfor, hbranch, horg⟩
  | cancelPaymentIntent ctx intentId =>
    refine cancelPaymentIntent_atomic.elim .nothing fun _ t h => ?_
    have hsame : SameIntents s (s.paymentIntents.update intentId fun intent =>
        { intent with status := .cancelled }) := .update fun _ => ⟨rfl, rfl, rfl⟩
    rw [cancelPaymentIntent_ok h]
    exact @Effect.intentsNoted s _ _ s.webhookEvents hsame
  | createManualReferencePayment ctx dto =>
    refine createManualReferencePayment_atomic.elim .nothing fun _ t h => ?_
    obtain ⟨order, horder, hnew, rfl⟩ := createManualReferencePayment_ok h
    exact .manualPayment horder hnew
  | processWebhook d => exact processWebhook_effect s d

theorem RefundsService.RefundRequest.exec_effect (bcrypt : Bcrypt) (s : Store)
    (call : RefundsService.RefundRequest) : Effect s (.refunds call) (call.exec bcrypt s) := by
  cases call with
  | createRefund ctx orderId dto =>
    refine createRefund_atomic.elim .nothing fun _ t h => ?_
    obtain ⟨order, payment, hfind, hclosed, hpayment, hle, rfl⟩ := createRefund_ok h
    exact .createRefund hfind hclosed hpayment hle
  | approveRefund userId ctx refundId dto =>
    refine approveRefund_atomic.elim .nothing fun _ t h => ?_
    obtain ⟨refund, hrefund, hpending, rfl⟩ := approveRefund_ok h
    exact .approveRefund hrefund hpending
  | postCloseVoid userId ctx orderId dto =>
    refine postCloseVoid_atomic.elim .nothing fun _ t h => ?_
    obtain ⟨order, hfind, hclosed, rfl⟩ := postCloseVoid_ok h
    exact .postCloseVoid hfind hclosed

theorem ReservationsCall.exec_effect (s : Store) (call : ReservationsCall) :
    Effect s (.reservations call) (call.exec s) := by
  cases call with
  | create ctx dto => exact .desk (ReservationsService.create_keeps s)
  | confirm reservationId ctx => exact .desk (ReservationsService.confirm_keeps s)
  | seat reservationId userId ctx dto =>
    refine ReservationsService.seat_atomic.elim .nothing fun _ t h => ?_
    obtain ⟨reservation, seatTableId, seatedOrderId, r, hfind, hconfirmed, _, _, horder, rfl⟩ :=
      ReservationsService.seat_ok h
    rcases ReservationsService.createSeatedOrder_ok horder with ⟨rfl, rfl⟩ | ⟨hfree, rfl, rfl⟩
    · exact .seat hfind hconfirmed
    · exact .seatWithOrder hfind hconfirmed hfree
  | cancel reservationId ctx => exact .desk (ReservationsService.withdraw_keeps (by decide) s)
  | markNoShow reservationId ctx => exact .desk (ReservationsService.withdraw_keeps (by decide) s)
  | complete reservationId ctx => exact .desk (ReservationsService.complete_keeps s)
  | assignTable reservationId ctx dto => exact .desk (ReservationsService.assignTable_keeps s)

theorem DrawerCall.exec_effect (s : Store) (call : DrawerCall) :
    Effect s (.drawer call) (call.exec s) := by
  cases call with
  | openShift userId ctx => exact .drawer (ShiftsService.openShift_keeps s)
  | closeShift shiftId ctx => exact .drawer (ShiftsService.closeShift_keeps s)
  | openTill userId ctx dto => exact .drawer (TillsService.openTill_keeps s)
  | safeDrop tillId ctx dto => exact .drawer (TillsService.safeDrop_keeps s)
  | reconcileTill tillId ctx dto => exact .drawer (TillsService.reconcileTill_keeps s)

theorem exec_effect (bcrypt : Bcrypt) (s : Store) (call : Call) :
    Effect s call (call.exec bcrypt s) := by
  cases call with
  | orders call => exact call.exec_effect s
  | discounts call => exact call.exec_effect bcrypt s
  | handoff call => exact call.exec_effect s
  | payments call => exact call.exec_effect s
  | refunds call => exact call.exec_effect bcrypt s
  | reservations call => exact call.exec_effect s
  | drawer call => exact call.exec_effect s
  | editMenu menu => exact .editMenu

end NimbusPos
