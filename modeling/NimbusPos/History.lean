import NimbusPos.Leaving
import NimbusPos.OrderPayments
import NimbusPos.Writes

/-!
# The trail of a store

Over any calls, from any store, the rows that record money, a decision or an event stay:
none is deleted, the columns that say what it is about never change, and once its status is
final nothing of it does.
-/

namespace NimbusPos

open Lib Lib.Service
open Lib.Table (SameRows Grows)
open OrdersService DiscountsService PaymentsService RefundsService ReservationsService

-- ---
-- What becomes of one row
-- ---

/-- A voided order, a merged one among them, is left as it is. -/
structure Order.Kept (row row' : Order) : Prop where
  identity : row'.identity = row.identity
  final : row.status = .voided → row' = row

/-- A decided discount is left as it is. -/
structure Discount.Kept (row row' : Discount) : Prop where
  about : (row'.orgId, row'.branchId, row'.orderId, row'.type, row'.value) =
    (row.orgId, row.branchId, row.orderId, row.type, row.value)
  final : row.status ≠ .pending → row' = row

/-- A payment is marked as refunded, or left as it is. -/
def Payment.Kept (row row' : Payment) : Prop :=
  row' = row ∨ row' = { row with status := .refunded }

/-- A pending refund is completed, any other left as it is. -/
def Refund.Kept (row row' : Refund) : Prop :=
  row' = row ∨ row.status = .pending ∧ row' = { row with status := .completed }

/-- What an intent asks for stays. -/
def PaymentIntent.Kept (row row' : PaymentIntent) : Prop :=
  (row'.orgId, row'.branchId, row'.orderId, row'.provider, row'.amount, row'.externalId,
      row'.idempotencyKey) =
    (row.orgId, row.branchId, row.orderId, row.provider, row.amount, row.externalId,
      row.idempotencyKey)

def ReservationStatus.Next (status status' : ReservationStatus) : Prop :=
  status' ∈ status.validTransitions

/-- A reservation moves along the transitions, and is left as it is after the last. -/
structure Reservation.Kept (row row' : Reservation) : Prop where
  about : (row'.orgId, row'.branchId, row'.reservationNumber, row'.reservationAt,
      row'.expectedDurationMinutes, row'.createdAt) =
    (row.orgId, row.branchId, row.reservationNumber, row.reservationAt,
      row.expectedDurationMinutes, row.createdAt)
  status : Relation.ReflTransGen ReservationStatus.Next row.status row'.status
  final : row.status.validTransitions = [] → row' = row

/-- An open shift is closed, a closed one left as it is. -/
def Shift.Kept (row row' : Shift) : Prop :=
  row' = row ∨ row.status = .open ∧ ∃ closedAt, row' =
    { row with status := .closed, closedAt := some closedAt }

/-- A till that was counted is left as it is. -/
structure TillSession.Kept (row row' : TillSession) : Prop where
  about : (row'.orgId, row'.branchId, row'.shiftId, row'.tillCode, row'.operatorUserId,
      row'.openedAt, row'.openingFloat) =
    (row.orgId, row.branchId, row.shiftId, row.tillCode, row.operatorUserId, row.openedAt,
      row.openingFloat)
  final : row.status ≠ .open → row' = row

section Kept

theorem Order.Kept.refl (row : Order) : row.Kept row := ⟨rfl, fun _ => rfl⟩

theorem Order.Kept.trans {a b c : Order} (h : a.Kept b) (h' : b.Kept c) : a.Kept c where
  identity := h'.identity.trans h.identity
  final hvoided := by
    obtain rfl := h.final hvoided
    exact h'.final hvoided

theorem Discount.Kept.refl (row : Discount) : row.Kept row := ⟨rfl, fun _ => rfl⟩

theorem Discount.Kept.trans {a b c : Discount} (h : a.Kept b) (h' : b.Kept c) : a.Kept c where
  about := h'.about.trans h.about
  final hdecided := by
    obtain rfl := h.final hdecided
    exact h'.final hdecided

theorem Payment.Kept.refl (row : Payment) : row.Kept row := .inl rfl

theorem Payment.Kept.trans {a b c : Payment} (h : a.Kept b) (h' : b.Kept c) : a.Kept c := by
  rcases h with rfl | rfl
  · exact h'
  · rcases h' with rfl | rfl <;> exact .inr rfl

theorem Refund.Kept.refl (row : Refund) : row.Kept row := .inl rfl

theorem Refund.Kept.trans {a b c : Refund} (h : a.Kept b) (h' : b.Kept c) : a.Kept c := by
  rcases h with rfl | ⟨hpending, rfl⟩
  · exact h'
  · rcases h' with rfl | ⟨hcompleted, -⟩
    · exact .inr ⟨hpending, rfl⟩
    · cases hcompleted

theorem PaymentIntent.Kept.refl (row : PaymentIntent) : row.Kept row := rfl

theorem Reservation.Kept.refl (row : Reservation) : row.Kept row := ⟨rfl, .refl, fun _ => rfl⟩

theorem Reservation.Kept.trans {a b c : Reservation} (h : a.Kept b) (h' : b.Kept c) :
    a.Kept c where
  about := h'.about.trans h.about
  status := h.status.trans h'.status
  final hlast := by
    obtain rfl := h.final hlast
    exact h'.final hlast

theorem Shift.Kept.refl (row : Shift) : row.Kept row := .inl rfl

theorem Shift.Kept.trans {a b c : Shift} (h : a.Kept b) (h' : b.Kept c) : a.Kept c := by
  rcases h with rfl | ⟨hopen, closedAt, rfl⟩
  · exact h'
  · rcases h' with rfl | ⟨hclosed, -⟩
    · exact .inr ⟨hopen, closedAt, rfl⟩
    · cases hclosed

theorem TillSession.Kept.refl (row : TillSession) : row.Kept row := ⟨rfl, fun _ => rfl⟩

theorem TillSession.Kept.trans {a b c : TillSession} (h : a.Kept b) (h' : b.Kept c) :
    a.Kept c where
  about := h'.about.trans h.about
  final hcounted := by
    obtain rfl := h.final hcounted
    exact h'.final hcounted

end Kept

/-- What the later of two stores has kept of the earlier. -/
structure Trail (s t : Store) : Prop where
  orders : Grows Order.Kept s.orders t.orders
  discounts : Grows Discount.Kept s.discounts t.discounts
  payments : Grows Payment.Kept s.payments t.payments
  paymentIntents : Grows PaymentIntent.Kept s.paymentIntents t.paymentIntents
  refunds : Grows Refund.Kept s.refunds t.refunds
  reservations : Grows Reservation.Kept s.reservations t.reservations
  reservationEvents : Grows Eq s.reservationEvents t.reservationEvents
  shifts : Grows Shift.Kept s.shifts t.shifts
  tillSessions : Grows TillSession.Kept s.tillSessions t.tillSessions
  cashMovements : Grows Eq s.cashMovements t.cashMovements
  shiftCloseSummaries : Grows Eq s.shiftCloseSummaries t.shiftCloseSummaries

theorem Trail.refl (s : Store) : Trail s s where
  orders := .refl Order.Kept.refl _
  discounts := .refl Discount.Kept.refl _
  payments := .refl Payment.Kept.refl _
  paymentIntents := .refl PaymentIntent.Kept.refl _
  refunds := .refl Refund.Kept.refl _
  reservations := .refl Reservation.Kept.refl _
  reservationEvents := .refl Eq.refl _
  shifts := .refl Shift.Kept.refl _
  tillSessions := .refl TillSession.Kept.refl _
  cashMovements := .refl Eq.refl _
  shiftCloseSummaries := .refl Eq.refl _

theorem Trail.trans {s t u : Store} (h : Trail s t) (h' : Trail t u) : Trail s u where
  orders := h.orders.trans (fun _ _ _ => .trans) h'.orders
  discounts := h.discounts.trans (fun _ _ _ => .trans) h'.discounts
  payments := h.payments.trans (fun _ _ _ => .trans) h'.payments
  paymentIntents := h.paymentIntents.trans (fun _ _ _ hab hbc => hbc.trans hab) h'.paymentIntents
  refunds := h.refunds.trans (fun _ _ _ => .trans) h'.refunds
  reservations := h.reservations.trans (fun _ _ _ => .trans) h'.reservations
  reservationEvents := h.reservationEvents.trans (fun _ _ _ => .trans) h'.reservationEvents
  shifts := h.shifts.trans (fun _ _ _ => .trans) h'.shifts
  tillSessions := h.tillSessions.trans (fun _ _ _ => .trans) h'.tillSessions
  cashMovements := h.cashMovements.trans (fun _ _ _ => .trans) h'.cashMovements
  shiftCloseSummaries := h.shiftCloseSummaries.trans (fun _ _ _ => .trans) h'.shiftCloseSummaries

-- ---
-- One call
-- ---

variable {s t : Store} {call : Call}

theorem Effect.keeps_order (h : Effect s call t) (hget : s.orders.get? k = some order)
    (hget' : t.orders.get? k = some order') (hsame : order'.identity = order.identity) :
    order.Kept order' := by
  refine ⟨hsame, fun hvoided => ?_⟩
  cases h.rewrites hget hget' with
  | kept heq => exact heq
  | edited hactive | left _ hactive => simp [hvoided, OrderStatus.active] at hactive
  | advanced hvalid => simp [hvoided, OrderStatus.validTransitions] at hvalid
  | flagged _ _ _ _ _ hclosed | voided _ _ _ _ hclosed => cases hvoided.symm.trans hclosed

theorem Effect.grows_orders (h : Effect s call t) : Grows Order.Kept s.orders t.orders where
  next := h.orders_next
  forth k order hget := by
    obtain ⟨order', hget', hsame⟩ := h.orders_forth hget
    exact ⟨order', hget', h.keeps_order hget hget' hsame⟩
  back k order' hget' hk := by
    rcases h.orders with hrows | ⟨new, _, hrows, _⟩
    · obtain ⟨order, hget, hsame⟩ := hrows.back hget'
      exact ⟨order, hget, h.keeps_order hget hget' hsame⟩
    · obtain ⟨order, hget, hsame⟩ := hrows.back hget'
      rcases Table.insert_cases hget with ⟨rfl, -⟩ | hget
      · exact absurd hk (Nat.lt_irrefl _)
      · exact ⟨order, hget, h.keeps_order hget hget' hsame⟩

/-- A decision is written over a pending discount only. -/
theorem grows_claim {decide : Discount → Discount}
    (habout : ∀ row, ((decide row).orgId, (decide row).branchId, (decide row).orderId,
      (decide row).type, (decide row).value) =
        (row.orgId, row.branchId, row.orderId, row.type, row.value))
    (discounts : Table Discount) (ctx : BranchContext) (discountId : Id) :
    Grows Discount.Kept discounts (discounts.updateWhere (claimMatches ctx discountId) decide) := by
  refine .rewritten Discount.Kept.refl fun k row _ hmatches => ⟨habout row, fun hdecided => ?_⟩
  simp only [claimMatches, Bool.and_eq_true, beq_iff_eq] at hmatches
  exact absurd hmatches.2 hdecided

theorem Effect.grows_discounts (h : Effect s call t) :
    Grows Discount.Kept s.discounts t.discounts := by
  have hsame (heq : t.discounts = s.discounts) : Grows Discount.Kept s.discounts t.discounts :=
    heq ▸ .refl Discount.Kept.refl _
  have haside (hcall : call.reckons = false) : Grows Discount.Kept s.discounts t.discounts :=
    hsame (h.aside hcall).2.1
  cases h with
  | nothing => exact hsame rfl
  | requestDiscount => exact .insert Discount.Kept.refl _ _
  | requestPending =>
    obtain ⟨_, h⟩ := flagHeavyDiscount_rest _ _
    rw [h]
    exact .insert Discount.Kept.refl _ _
  | approveDiscount | rejectDiscount =>
    dsimp only [recalcOrderDiscount, Store.updateOrder]
    refine grows_claim ?_ _ _ _
    exact fun _ => rfl
  | addOrderItem | updateOrderItem | deleteOrderItem | splitItems | moveItems | mergeOrders =>
    exact hsame rfl
  | advance hcall => exact haside (reckons_of_transition hcall)
  | _ => exact haside rfl

/-- What a call does to the payments, whatever intents there are. -/
theorem Effect.grows_payments (h : Effect s call t) : Grows Payment.Kept s.payments t.payments := by
  have hsame (heq : t.payments = s.payments) : Grows Payment.Kept s.payments t.payments :=
    heq ▸ .refl Payment.Kept.refl _
  have hmarked (r : Store) (paymentId : Id) (hr : r.payments = s.payments) :
      Grows Payment.Kept s.payments (checkAndMarkPaymentRefunded r paymentId).payments := by
    rcases checkAndMark_cases r paymentId with h | h <;> rw [h]
    · exact hr ▸ .refl Payment.Kept.refl _
    · rw [markRefunded, hr]
      exact .update Payment.Kept.refl (fun _ => .inr rfl) _ _
  cases h with
  | advance => exact hsame (payments_of_books advanceOrder_books).1
  | close => exact hsame (payments_of_books closedOrder_books).1
  | void => exact hsame (payments_of_books voidedOrder_books).1
  | requestPending => exact hsame flagHeavyDiscount_payments.1
  | closeOrderWithPayment =>
    rw [recordPayments_eq]
    exact .foldl_insert Payment.Kept.refl (fun _ _ _ => .trans) _ _
  | manualPayment | webhookPaid =>
    obtain ⟨_, h⟩ := paidStore_rest _ _ _ _ _
    rw [h]
    exact .insert Payment.Kept.refl _ _
  | createRefund =>
    unfold refundedStore
    split
    · exact hmarked _ _ rfl
    · exact .refl Payment.Kept.refl _
  | approveRefund => exact hmarked _ _ rfl
  | postCloseVoid => exact .updateWhere Payment.Kept.refl (fun _ => .inr rfl) _ _
  | desk hframe => exact hsame (payments_of_books (deskFrame_books hframe)).1
  | drawer hframe =>
    have hpayments := congrArg Store.payments hframe
    exact hsame hpayments
  | _ => exact hsame rfl

theorem Effect.grows_refunds (h : Effect s call t) : Grows Refund.Kept s.refunds t.refunds := by
  have hsame (heq : t.refunds = s.refunds) : Grows Refund.Kept s.refunds t.refunds :=
    heq ▸ .refl Refund.Kept.refl _
  have hbooks {r : Store} (h : t.books = r.books) (hr : r.refunds = s.refunds) :
      Grows Refund.Kept s.refunds t.refunds :=
    hsame ((of_books Store.refunds (fun _ => rfl) h).trans hr)
  cases h with
  | advance => exact hbooks advanceOrder_books rfl
  | close => exact hbooks closedOrder_books rfl
  | void => exact hbooks voidedOrder_books rfl
  | requestPending =>
    obtain ⟨_, h⟩ := flagHeavyDiscount_rest _ _
    rw [h]
    exact .refl Refund.Kept.refl _
  | closeOrderWithPayment =>
    rw [recordPayments_eq]
    exact .refl Refund.Kept.refl _
  | manualPayment | webhookPaid =>
    obtain ⟨_, h⟩ := paidStore_rest _ _ _ _ _
    rw [h]
    exact .refl Refund.Kept.refl _
  | createRefund =>
    rw [refundedStore_refunds]
    exact .insert Refund.Kept.refl _ _
  | approveRefund hrefund hpending =>
    rw [checkAndMark_refunds]
    refine .updated Refund.Kept.refl fun row hget => .inr ⟨?_, rfl⟩
    cases (findRefund_iff.mp hrefund).1.symm.trans hget
    exact hpending
  | desk hframe => exact hbooks (deskFrame_books hframe) rfl
  | drawer hframe =>
    have hrefunds := congrArg Store.refunds hframe
    exact hsame hrefunds
  | _ => exact hsame rfl

-- ---
-- The desk, the drawer and the intents
-- ---

theorem grows_seated (s : Store) (reservationId : Id) (ctx : BranchContext) (tableId : Id)
    (orderId : Option Id) :
    Grows Reservation.Kept s.reservations (s.reservations.updateWhere
      (guardMatches reservationId ctx [.confirmed]) (seatedReservation tableId orderId)) := by
  refine .rewritten Reservation.Kept.refl fun k row _ hmatches => ?_
  simp only [guardMatches, Bool.and_eq_true, List.contains_eq_mem, List.mem_singleton,
    decide_eq_true_eq] at hmatches
  refine ⟨rfl, .single ?_, fun hlast => ?_⟩
  · simp [ReservationStatus.Next, hmatches.2, ReservationStatus.validTransitions, seatedReservation]
  · simp [hmatches.2, ReservationStatus.validTransitions] at hlast

theorem DeskStep.grows (h : DeskStep ctx s t) :
    Grows Reservation.Kept s.reservations t.reservations ∧
      Grows Eq s.reservationEvents t.reservationEvents := by
  cases h with
  | placed => exact ⟨.insert Reservation.Kept.refl _ _, .refl Eq.refl _⟩
  | moved reservationId source target hvalid =>
    refine ⟨?_, .refl Eq.refl _⟩
    dsimp only
    refine .rewritten Reservation.Kept.refl fun k row _ hmatches => ?_
    simp only [guardMatches, Bool.and_eq_true, List.contains_eq_mem, decide_eq_true_eq] at hmatches
    have hnext := hvalid _ hmatches.2
    exact ⟨rfl, .single hnext, fun hlast => absurd hnext (hlast ▸ List.not_mem_nil)⟩
  | assigned tableId hfind hlive =>
    refine ⟨?_, .refl Eq.refl _⟩
    dsimp only
    refine .updated Reservation.Kept.refl fun row hget => ⟨rfl, .refl, fun hlast => ?_⟩
    cases (findReservation_get hfind).1.symm.trans hget
    exact absurd hlast hlive
  | noted => exact ⟨.refl Reservation.Kept.refl _, .insert Eq.refl _ _⟩

theorem grows_desk (h : (deskSteps ctx).rel s t) :
    Grows Reservation.Kept s.reservations t.reservations ∧
      Grows Eq s.reservationEvents t.reservationEvents := by
  induction h with
  | refl => exact ⟨.refl Reservation.Kept.refl _, .refl Eq.refl _⟩
  | tail _ hstep ih =>
    exact ⟨ih.1.trans (fun _ _ _ => .trans) hstep.grows.1,
      ih.2.trans (fun _ _ _ => .trans) hstep.grows.2⟩

theorem grows_drawerTables (h : t.drawerTables = s.drawerTables) :
    Grows Shift.Kept s.shifts t.shifts ∧ Grows TillSession.Kept s.tillSessions t.tillSessions ∧
      Grows Eq s.cashMovements t.cashMovements ∧
      Grows Eq s.shiftCloseSummaries t.shiftCloseSummaries := by
  simp only [Store.drawerTables, Prod.mk.injEq] at h
  obtain ⟨hshifts, htills, hmovements, hsummaries⟩ := h
  rw [hshifts, htills, hmovements, hsummaries]
  exact ⟨.refl Shift.Kept.refl _, .refl TillSession.Kept.refl _, .refl Eq.refl _, .refl Eq.refl _⟩

theorem DrawerWrites.grows {call : DrawerCall} (h : DrawerWrites s call t) :
    Grows Shift.Kept s.shifts t.shifts ∧ Grows TillSession.Kept s.tillSessions t.tillSessions ∧
      Grows Eq s.cashMovements t.cashMovements ∧
      Grows Eq s.shiftCloseSummaries t.shiftCloseSummaries := by
  cases h with
  | nothing => exact grows_drawerTables rfl
  | openShift => exact ⟨.insert Shift.Kept.refl _ _, .refl TillSession.Kept.refl _,
      .refl Eq.refl _, .refl Eq.refl _⟩
  | closeShift summary hget _ hopen =>
    refine ⟨?_, .refl TillSession.Kept.refl _, .refl Eq.refl _, .insert Eq.refl _ _⟩
    dsimp only
    refine .updated Shift.Kept.refl fun row hrow => .inr ⟨?_, _, rfl⟩
    cases hget.symm.trans hrow
    exact hopen
  | openTill => exact ⟨.refl Shift.Kept.refl _, .insert TillSession.Kept.refl _ _,
      .insert Eq.refl _ _, .refl Eq.refl _⟩
  | safeDrop movement _ hget _ hopen =>
    refine ⟨.refl Shift.Kept.refl _, ?_, .insert Eq.refl _ _, .refl Eq.refl _⟩
    dsimp only
    refine .updated TillSession.Kept.refl fun row hrow => ⟨rfl, fun hcounted => ?_⟩
    cases hget.symm.trans hrow
    exact absurd hopen hcounted
  | reconcileTill data hget _ hopen =>
    refine ⟨.refl Shift.Kept.refl _, ?_, .refl Eq.refl _, .refl Eq.refl _⟩
    dsimp only
    refine .updated TillSession.Kept.refl fun row hrow => ⟨rfl, fun hcounted => ?_⟩
    cases hget.symm.trans hrow
    exact absurd hopen hcounted

theorem IntentWrites.grows {call : PaymentsCall} (h : IntentWrites s call intents) :
    Grows PaymentIntent.Kept s.paymentIntents intents := by
  cases h with
  | nothing => exact .refl PaymentIntent.Kept.refl _
  | created => exact .insert PaymentIntent.Kept.refl _ _
  | cancelled | reported =>
    refine .update PaymentIntent.Kept.refl ?_ _ _
    exact fun _ => rfl

-- ---
-- Every run
-- ---

theorem grows_deskTables (h : t.deskTables = s.deskTables) :
    Grows Reservation.Kept s.reservations t.reservations ∧
      Grows Eq s.reservationEvents t.reservationEvents := by
  obtain ⟨hrows, hevents⟩ := Prod.mk.inj h
  exact ⟨hrows ▸ .refl Reservation.Kept.refl _, hevents ▸ .refl Eq.refl _⟩

theorem grows_closedOrder (s : Store) (ctx : BranchContext) (orderId : Id) (order : Order) :
    Grows Reservation.Kept s.reservations (closedOrder s ctx orderId order).reservations ∧
      Grows Eq s.reservationEvents (closedOrder s ctx orderId order).reservationEvents := by
  let released := autoReleaseTableIfIdle (setStatus s orderId .closed) orderId order.tableId
  have hsteps : (deskSteps ctx).rel released (closedOrder s ctx orderId order) :=
    completeForClosedOrder_steps released
  obtain ⟨hrows, hevents⟩ := grows_desk hsteps
  obtain ⟨hrows', hevents'⟩ := grows_deskTables (s := s) (t := released) autoReleaseTableIfIdle_desk
  exact ⟨hrows'.trans (fun _ _ _ => .trans) hrows, hevents'.trans (fun _ _ _ => .trans) hevents⟩

theorem grows_seatStore (hdesk : r.deskTables = s.deskTables) :
    Grows Reservation.Kept s.reservations
      (seatStore r reservationId ctx tableId orderId).reservations ∧
      Grows Eq s.reservationEvents
        (seatStore r reservationId ctx tableId orderId).reservationEvents := by
  obtain ⟨hrows, hevents⟩ := Prod.mk.inj hdesk
  rw [← hrows, ← hevents]
  exact ⟨grows_seated r reservationId ctx tableId orderId, .insert Eq.refl r.reservationEvents _⟩

theorem grows_seat (s : Store) (reservationId userId : Id) (ctx : BranchContext)
    (dto : SeatReservationDto) :
    Grows Reservation.Kept s.reservations
      (final (seat reservationId userId ctx dto s)).reservations ∧
      Grows Eq s.reservationEvents
        (final (seat reservationId userId ctx dto s)).reservationEvents := by
  refine seat_atomic.elim (P := fun t => Grows Reservation.Kept s.reservations t.reservations ∧
    Grows Eq s.reservationEvents t.reservationEvents) (grows_deskTables rfl) fun _ t h => ?_
  obtain ⟨_, _, _, r, _, _, _, _, horder, rfl⟩ := seat_ok h
  rcases createSeatedOrder_ok horder with ⟨rfl, rfl⟩ | ⟨_, rfl, rfl⟩
  · exact grows_seatStore rfl
  · exact grows_seatStore rfl

theorem exec_grows_desk (bcrypt : Bcrypt) (s : Store) (call : Call) :
    Grows Reservation.Kept s.reservations (call.exec bcrypt s).reservations ∧
      Grows Eq s.reservationEvents (call.exec bcrypt s).reservationEvents := by
  have heffect := exec_effect bcrypt s call
  have haside (hcall : call.atDesk = false) := grows_deskTables (heffect.beside.desk hcall)
  cases call with
  | orders call =>
    cases call with
    | closeOrder ctx orderId request =>
      generalize Call.exec bcrypt s (.orders (.closeOrder ctx orderId request)) = t at heffect ⊢
      cases heffect with
      | nothing => exact grows_deskTables rfl
      | advance hcall _ _ hopen =>
        cases hcall
        exact absurd rfl hopen
      | close => exact grows_closedOrder s _ _ _
    | _ => exact haside rfl
  | reservations call =>
    have hsteps := call.exec_steps s
    cases call with
    | seat reservationId userId ctx dto => exact grows_seat s reservationId userId ctx dto
    | _ => exact grows_desk (hsteps (by simp))
  | _ => exact haside rfl

theorem exec_grows_drawer (bcrypt : Bcrypt) (s : Store) (call : Call) :
    Grows Shift.Kept s.shifts (call.exec bcrypt s).shifts ∧
      Grows TillSession.Kept s.tillSessions (call.exec bcrypt s).tillSessions ∧
      Grows Eq s.cashMovements (call.exec bcrypt s).cashMovements ∧
      Grows Eq s.shiftCloseSummaries (call.exec bcrypt s).shiftCloseSummaries := by
  have haside := (exec_effect bcrypt s call).beside.drawer
  cases call with
  | drawer call => exact (call.exec_writes s).grows
  | _ => exact grows_drawerTables (haside (by simp))

theorem exec_grows_intents (bcrypt : Bcrypt) (s : Store) (call : Call) :
    Grows PaymentIntent.Kept s.paymentIntents (call.exec bcrypt s).paymentIntents := by
  have haside := (exec_effect bcrypt s call).beside.intents
  cases call with
  | payments call => exact (call.exec_intents s).grows
  | _ =>
    rw [haside (by simp)]
    exact .refl PaymentIntent.Kept.refl _

theorem exec_trail (bcrypt : Bcrypt) (s : Store) (call : Call) : Trail s (call.exec bcrypt s) where
  orders := (exec_effect bcrypt s call).grows_orders
  discounts := (exec_effect bcrypt s call).grows_discounts
  payments := (exec_effect bcrypt s call).grows_payments
  paymentIntents := exec_grows_intents bcrypt s call
  refunds := (exec_effect bcrypt s call).grows_refunds
  reservations := (exec_grows_desk bcrypt s call).1
  reservationEvents := (exec_grows_desk bcrypt s call).2
  shifts := (exec_grows_drawer bcrypt s call).1
  tillSessions := (exec_grows_drawer bcrypt s call).2.1
  cashMovements := (exec_grows_drawer bcrypt s call).2.2.1
  shiftCloseSummaries := (exec_grows_drawer bcrypt s call).2.2.2

theorem tick_trail (s : Store) (wait : Nat) : Trail s (s.tick wait) :=
  { Trail.refl s with }

/-- Whatever calls are made, in any order, the trail of a store is kept in every later one. -/
theorem trail_kept (bcrypt : Bcrypt) (start : Store) (before between : List Event) :
    Trail (System.after bcrypt start before) (System.after bcrypt start (before ++ between)) := by
  rw [System.after, System.after, List.foldl_append]
  generalize List.foldl (System.step bcrypt) start before = s
  induction between generalizing s with
  | nil => exact .refl s
  | cons e between ih =>
    exact ((tick_trail s e.wait).trans (exec_trail bcrypt _ e.call)).trans (ih _)

end NimbusPos
