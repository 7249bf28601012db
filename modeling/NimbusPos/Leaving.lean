import NimbusPos.Sound

/-!
# How an order ends

Four services write a final status, each with checks of its own. `Leaves` lists
the steps that take an order out of the active statuses; `Effect.rewrites` shows
that there are no others, with all else that a call writes to an order, and
`Effect.course` that an order that has left does not come back.
-/

namespace NimbusPos

open Lib Lib.Service
open OrdersService DiscountsService PosHandoffService PaymentsService RefundsService

/-- The store after a recorded payment has settled its order. -/
def settledStore (s : Store) (intents : Table PaymentIntent) (payment : Payment) (orderId : Id)
    (events : Table WebhookEvent) : Store :=
  (setStatus (s.withPayment intents payment) orderId .closed).withEvents events

/-- The store after `closeOrderWithPayment`. -/
def tenderedStore (s : Store) (ctx : BranchContext) (orderId : Id) (dto : CloseOrderDto) : Store :=
  setStatus (recordPayments s ctx orderId dto.payments) orderId .closed

theorem tenderedStore_orders :
    (tenderedStore s ctx orderId dto).orders = (setStatus s orderId .closed).orders := by
  rw [tenderedStore, recordPayments_eq]
  rfl

theorem voidOrderAndPayments_orders :
    (voidOrderAndPayments s ctx orderId).orders = (setStatus s orderId .voided).orders := rfl

/-- A step that closes or voids an active order, and the store it leaves. -/
inductive Leaves (s : Store) : Call → Id → Order → Store → Prop
  | closeOrder (hfind : s.findOrder ctx k = some order) (hserved : order.status = .served) :
      Leaves s (.orders (.closeOrder ctx k request)) k order (closedOrder s ctx k order)
  | voidOrder (hfind : s.findOrder ctx k = some order)
      (hvalid : .voided ∈ order.status.validTransitions) :
      Leaves s (.orders (.voidOrder ctx k dto request)) k order (voidedOrder s k order)
  | closeOrderWithPayment (hfind : s.findOrder ctx k = some order)
      (hserved : order.status = .served)
      (hcovered : order.total ≤ alreadyPaid s k + tendered dto.payments) :
      Leaves s (.payments (.closeOrderWithPayment ctx k dto)) k order (tenderedStore s ctx k dto)
  | manualPayment (hfind : s.findOrder ctx dto.orderId = some order)
      (hnew : duplicateReference s ctx dto = none)
      (hsettles : settles (s.withPayment s.paymentIntents (manualReferencePayment s ctx dto))
        dto.orderId ctx.branchId) :
      Leaves s (.payments (.createManualReferencePayment ctx dto)) dto.orderId order
        (settledStore s s.paymentIntents (manualReferencePayment s ctx dto) dto.orderId
          s.webhookEvents)
  | webhookPaid (hexternal : delivery.externalId = some externalId)
      (hresolve : resolveIntent s delivery externalId = some (intentId, intent))
      (hsuccess : delivery.reportsSuccess = true)
      (hnew : existingPayment s externalId intent = none)
      (hget : s.orders.get? intent.orderId = some order) (hintents : SameIntents s intents)
      (hsettles : settles
        (s.withPayment intents (capturedPayment s delivery externalId intentId intent))
        intent.orderId intent.branchId) :
      Leaves s (.payments (.processWebhook delivery)) intent.orderId order
        (settledStore s intents (capturedPayment s delivery externalId intentId intent)
          intent.orderId events)
  | mergeOrders (hne : dto.sourceOrderId ≠ dto.targetOrderId)
      (hsource : s.findOrder ctx dto.sourceOrderId = some order)
      (hopen : order.status ∈ handoffOpenStatuses)
      (htarget : s.findOrder ctx dto.targetOrderId = some target)
      (hopen' : target.status ∈ handoffOpenStatuses)
      (hpaid : ∀ k payment, s.payments.get? k = some payment → payment.orderId = dto.sourceOrderId →
        payment.status ≠ .completed ∧ payment.status ≠ .pending) :
      Leaves s (.handoff (.mergeOrders ctx dto)) dto.sourceOrderId order
        (mergedStore s dto.sourceOrderId dto.targetOrderId)

variable {s t : Store} {call : Call} {order order' : Order}

/-- The status of an order that a call takes out of the active ones. -/
def Call.ends : Call → OrderStatus
  | .orders (.voidOrder ..) | .handoff (.mergeOrders ..) => .voided
  | _ => .closed

theorem Call.ends_ended (call : Call) : call.ends.active = false := by
  unfold Call.ends
  split <;> rfl

/-- What a call writes to the row of an order. -/
inductive Rewrites (s : Store) (call : Call) (t : Store) (k : Id) (order order' : Order) : Prop
  | kept (hsame : order' = order)
  | edited (hactive : order.status.active = true) (hstatus : order'.status = order.status)
      (hstamp : order'.updatedAt = s.clock)
  | advanced (hvalid : order'.status ∈ order.status.validTransitions)
      (hactive' : order'.status.active = true) (hstamp : order'.updatedAt = s.clock)
  | left (hleaves : Leaves s call k order t) (hactive : order.status.active = true)
      (hstatus : order'.status = call.ends) (htable : order'.tableId = order.tableId)
      (htotal : order'.status = .closed → order'.total = order.total)
      (hstamp : order'.updatedAt = s.clock)
  | flagged (ctx : BranchContext) (dto : CreateRefundDto) (payment : Payment)
      (hcall : call = .refunds (.createRefund ctx k dto))
      (hfind : s.findOrder ctx k = some order) (hclosed : order.status = .closed)
      (hpayment : RefundsService.findPayment s ctx k dto.paymentId = some payment)
      (hle : dto.amount ≤ payment.amount - liveRefunds s dto.paymentId)
      (hpending : RefundsService.autoApproves s ctx dto = false)
      (hstatus : order'.status = order.status) (htotal : order'.total = order.total)
      (hstamp : order'.updatedAt = s.clock)
  | voided (userId : Id) (ctx : BranchContext) (dto : PostCloseVoidDto)
      (hcall : call = .refunds (.postCloseVoid userId ctx k dto))
      (hclosed : order.status = .closed) (hvoided : order'.status = .voided)

namespace Rewrites

theorem same (hget : s.orders.get? k = some order) (hget' : t.orders.get? k = some order')
    (h : t.orders = s.orders) : Rewrites s call t k order order' := by
  rw [h, hget] at hget'
  exact .kept (Option.some.inj hget').symm

theorem inserted (hget : s.orders.get? k = some order) (hget' : t.orders.get? k = some order')
    (h : t.orders = s.orders.insert new) : Rewrites s call t k order order' := by
  rw [h, Table.get?_insert_of_some hget] at hget'
  exact .kept (Option.some.inj hget').symm

theorem update {data : Order → Order} (hget : s.orders.get? k = some order)
    (hget' : t.orders.get? k = some order') (h : t.orders = (s.updateOrder orderId data).orders)
    (hdata : k = orderId → Rewrites s call t k order { data order with updatedAt := s.clock }) :
    Rewrites s call t k order order' := by
  rw [h, updateOrder_get] at hget'
  split at hget'
  · rename_i hk
    rw [hget] at hget'
    cases hget'
    exact hdata hk
  · cases hget.symm.trans hget'
    exact .kept rfl

/-- Recording a payment settles its order or leaves the orders alone. -/
theorem paid {payment : Payment} (hget : s.orders.get? k = some order)
    (hget' : t.orders.get? k = some order') (hends : call.ends = .closed)
    (ht : t = (paidStore s intents payment orderId branchId).withEvents events)
    (hleaves : k = orderId → settles (s.withPayment intents payment) orderId branchId →
      Leaves s call k order (settledStore s intents payment orderId events)) :
    Rewrites s call t k order order' := by
  rcases paidStore_cases s intents payment orderId branchId with h | ⟨hsettles, h⟩
  · refine .same hget hget' ?_
    rw [ht, h]
    rfl
  · have hstore : t = settledStore s intents payment orderId events := by
      rw [ht, h]
      rfl
    have horders : t.orders = (setStatus s orderId .closed).orders := by
      rw [hstore]
      rfl
    refine .update hget hget' horders fun hk => ?_
    obtain ⟨row, hfind, hactive, _⟩ := id hsettles
    have hrow : s.orders.get? k = some row := hk ▸ (findOrderInBranch_iff.mp hfind).1
    cases hget.symm.trans hrow
    exact .left (hstore ▸ hleaves hk hsettles) hactive hends.symm rfl (fun _ => rfl) rfl

end Rewrites

theorem active_of_transition {status target : OrderStatus} (h : target ∈ status.validTransitions) :
    status.active = true := by
  obtain ⟨hvoided, hclosed⟩ := live_of_transition h
  simp [OrderStatus.active, hvoided, hclosed]

theorem paidStore_withEvents : paidStore s intents payment orderId branchId =
    (paidStore s intents payment orderId branchId).withEvents s.webhookEvents := by
  obtain ⟨_, h⟩ := paidStore_rest s intents payment orderId branchId
  rw [h]
  rfl

theorem Effect.rewrites (h : Effect s call t) (hget : s.orders.get? k = some order)
    (hget' : t.orders.get? k = some order') : Rewrites s call t k order order' := by
  have hsame {row : Order} {orderId : Id} (hk : k = orderId)
      (hrow : s.orders.get? orderId = some row) :
      row = order := Option.some.inj (hrow.symm.trans (hk ▸ hget))
  cases h with
  | nothing | rejectDiscount | createIntent | intentsNoted | seat | editMenu =>
    exact .same hget hget' rfl
  | createOrder | seatWithOrder => exact .inserted hget hget' rfl
  | addOrderItem hfind hactive | updateOrderItem hfind hactive | deleteOrderItem hfind hactive =>
    exact .update hget hget' rfl fun hk =>
      .edited (hsame hk (findOrder_get hfind).1 ▸ hactive) rfl rfl
  | advance _ hfind hvalid hopen hlive =>
    refine .update hget hget' (orders_of_books advanceOrder_books) fun hk => .advanced ?_ ?_ rfl
    · exact hsame hk (findOrder_get hfind).1 ▸ hvalid
    · simp [OrderStatus.active, hopen, hlive]
  | close hfind hserved =>
    refine .update hget hget' (orders_of_books closedOrder_books) fun hk => ?_
    subst hk
    cases hsame rfl (findOrder_get hfind).1
    exact .left (.closeOrder hfind hserved) (hserved ▸ rfl) rfl rfl (fun _ => rfl) rfl
  | void hfind hvalid =>
    refine .update hget hget' (orders_of_books voidedOrder_books) fun hk => ?_
    subst hk
    cases hsame rfl (findOrder_get hfind).1
    refine .left (.voidOrder hfind hvalid) (active_of_transition hvalid) rfl rfl (fun h => ?_) rfl
    cases h
  | requestDiscount hfind hstate =>
    exact .update hget hget' rfl fun hk =>
      .edited (hsame hk (findOrder_get hfind).1 ▸ active_of_discountable hstate) rfl rfl
  | @requestPending ctx orderId _ dto hfind hstate =>
    have hflagged := flagHeavyDiscount_cases { s with
      discounts := s.discounts.insert (requestedDiscount s ctx orderId dto false) } orderId
    rcases hflagged with h | h
    · rw [h] at hget' ⊢
      exact .same hget hget' rfl
    · rw [h] at hget' ⊢
      exact .update hget hget' rfl fun hk =>
        .edited (hsame hk (findOrder_get hfind).1 ▸ active_of_discountable hstate) rfl rfl
  | approveDiscount _ _ horder hstate =>
    exact .update hget hget' rfl fun hk =>
      .edited (hsame hk horder ▸ active_of_discountable hstate) rfl rfl
  | splitItems hfind hopen =>
    rcases splitStore_order hget hget' with ⟨hk, value, rfl⟩ | rfl
    · exact .edited (hsame hk (findOrder_get hfind).1 ▸ active_of_open hopen) rfl rfl
    · exact .kept rfl
  | moveItems _ hsource hopen htarget hopen' =>
    rcases movedStore_order hget hget' with ⟨hk | hk, value, rfl⟩ | rfl
    · exact .edited (hsame hk (findOrder_get hsource).1 ▸ active_of_open hopen) rfl rfl
    · exact .edited (hsame hk (findOrder_get htarget).1 ▸ active_of_open hopen') rfl rfl
    · exact .kept rfl
  | mergeOrders hne hsource hopen htarget hopen' hpaid =>
    rcases mergedStore_order hget hget' with ⟨rfl, value, rfl⟩ | ⟨hk, value, rfl⟩ | rfl
    · cases hsame rfl (findOrder_get hsource).1
      refine .left (.mergeOrders hne hsource hopen htarget hopen' hpaid) (active_of_open hopen)
        rfl rfl (fun h => ?_) rfl
      cases h
    · exact .edited (hsame hk (findOrder_get htarget).1 ▸ active_of_open hopen') rfl rfl
    · exact .kept rfl
  | transferTable hfind hopen =>
    exact .update hget hget' rfl fun hk =>
      .edited (hsame hk (findOrder_get hfind).1 ▸ active_of_open hopen) rfl rfl
  | closeOrderWithPayment hfind hserved hcovered =>
    refine .update hget hget' tenderedStore_orders fun hk => ?_
    subst hk
    cases hsame rfl (findOrder_get hfind).1
    exact .left (.closeOrderWithPayment hfind hserved hcovered) (hserved ▸ rfl) rfl rfl
      (fun _ => rfl) rfl
  | manualPayment horder hnew =>
    refine .paid hget hget' rfl paidStore_withEvents fun hk hsettles => ?_
    subst hk
    cases hsame rfl (findOrder_get horder).1
    exact .manualPayment horder hnew hsettles
  | webhookPaid hexternal hresolve hsuccess hnew hintents =>
    refine .paid hget hget' rfl rfl fun hk hsettles => ?_
    subst hk
    exact .webhookPaid hexternal hresolve hsuccess hnew hget hintents hsettles
  | @createRefund ctx orderId _ payment dto hfind hclosed hpayment hle =>
    by_cases hauto : RefundsService.autoApproves s ctx dto = true
    · rw [refundedStore, if_pos hauto] at hget' ⊢
      exact .same hget hget' checkAndMark_orders
    · rw [refundedStore, if_neg hauto] at hget' ⊢
      refine .update hget hget' rfl fun hk => ?_
      subst hk
      cases hsame rfl (findOrder_get hfind).1
      exact .flagged ctx dto payment rfl hfind hclosed hpayment hle
        (Bool.eq_false_iff.mpr hauto) rfl rfl rfl
  | approveRefund => exact .same hget hget' checkAndMark_orders
  | @postCloseVoid ctx orderId _ userId dto hfind hclosed =>
    refine .update hget hget' voidOrderAndPayments_orders fun hk => ?_
    subst hk
    exact .voided userId ctx dto rfl (hsame rfl (findOrder_get hfind).1 ▸ hclosed) rfl
  | desk hframe => exact .same hget hget' (orders_of_books (deskFrame_books hframe))
  | drawer hframe => exact .same hget hget' (ofDrawer hframe).1

/-- What a step makes of an order. -/
inductive Course (s : Store) (call : Call) (t : Store) (k : Id) (order order' : Order) : Prop
  | active (hactive : order.status.active = true) (hactive' : order'.status.active = true)
  | kept (hended : order.status.active = false) (hstatus : order'.status = order.status)
      (htotal : order'.total = order.total)
  | left (hleaves : Leaves s call k order t) (hactive : order.status.active = true)
      (hended : order'.status.active = false) (htable : order'.tableId = order.tableId)
      (htotal : order'.status = .closed → order'.total = order.total)
  | voided (hclosed : order.status = .closed) (hvoided : order'.status = .voided)

theorem Effect.course (h : Effect s call t) (hget : s.orders.get? k = some order)
    (hget' : t.orders.get? k = some order') : Course s call t k order order' := by
  cases h.rewrites hget hget' with
  | kept hsame =>
    subst hsame
    cases hactive : order'.status.active with
    | true => exact .active hactive hactive
    | false => exact .kept hactive rfl rfl
  | edited hactive hstatus => exact .active hactive (hstatus ▸ hactive)
  | advanced hvalid hactive' => exact .active (active_of_transition hvalid) hactive'
  | left hleaves hactive hstatus htable htotal =>
    exact .left hleaves hactive (hstatus ▸ call.ends_ended) htable htotal
  | flagged _ _ _ _ _ hclosed _ _ _ hstatus htotal => exact .kept (hclosed ▸ rfl) hstatus htotal
  | voided _ _ _ _ hclosed hvoided => exact .voided hclosed hvoided

/-- An order after a step is new or had a course. -/
theorem Effect.course_back (h : Effect s call t) (hget' : t.orders.get? k = some order') :
    order'.status = .new ∨
      ∃ order, s.orders.get? k = some order ∧ Course s call t k order order' := by
  rcases h.orders with hsame | ⟨new, _, hsame, hnew⟩
  · obtain ⟨order, hget, _⟩ := hsame.back hget'
    exact .inr ⟨order, hget, h.course hget hget'⟩
  · obtain ⟨order, hget, _⟩ := hsame.back hget'
    rcases Table.insert_cases hget with ⟨rfl, -⟩ | hget
    · exact .inl (hnew order' hget')
    · exact .inr ⟨order, hget, h.course hget hget'⟩

/-- The order exists and is closed or voided. -/
def Ended (s : Store) (orderId : Id) : Prop :=
  ∃ order, s.orders.get? orderId = some order ∧ order.status.active = false

/-- An order that has left stays out. -/
theorem Ended.forth (h : Effect s call t) (hs : Ended s k) : Ended t k := by
  obtain ⟨order, hget, hended⟩ := hs
  obtain ⟨order', hget', _⟩ := h.orders_forth hget
  refine ⟨order', hget', ?_⟩
  cases h.course hget hget' with
  | active hactive => simp [hactive] at hended
  | kept _ hstatus => exact hstatus ▸ hended
  | left _ _ hended' => exact hended'
  | voided _ hvoided => simp [OrderStatus.active, hvoided]

end NimbusPos
