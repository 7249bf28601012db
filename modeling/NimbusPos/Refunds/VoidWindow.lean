import NimbusPos.OrderLifecycle

/-!
# The window of a post-close void

The window is counted from the last write of the order. Of the writes that find an
order closed one leaves it closed: a refund above the approval threshold flags it. So
the window is that of the close until such a refund is requested, and opens again then.
-/

namespace NimbusPos

open Lib Lib.Service
open OrdersService DiscountsService PosHandoffService PaymentsService RefundsService

-- ---
-- The writes of an order
-- ---

/-- A refund of the order is requested that is not refused and waits for approval. -/
def Call.flags (k : Id) (s : Store) : Call → Bool
  | .refunds (.createRefund ctx orderId dto) =>
    orderId == k && (s.findOrder ctx orderId).any (·.status == .closed) &&
      (RefundsService.findPayment s ctx orderId dto.paymentId).any (fun payment =>
        decide (dto.amount ≤ payment.amount - liveRefunds s dto.paymentId)) &&
      !RefundsService.autoApproves s ctx dto
  | _ => false

/-- What a write at a time makes of an order. -/
inductive Stamped (now : Time) (flags : Bool) (order order' : Order) : Prop
  | kept (hsame : order' = order)
  | active (hactive : order.status.active = true) (hstamp : order'.updatedAt = now)
  | flagged (hflags : flags = true) (hstatus : order'.status = order.status)
      (hstamp : order'.updatedAt = now)
  | voided (hclosed : order.status = .closed) (hvoided : order'.status = .voided)

variable {s t : Store} {order order' : Order}

theorem Effect.stamped (h : Effect s call t) (hget : s.orders.get? k = some order)
    (hget' : t.orders.get? k = some order') : Stamped s.clock (call.flags k s) order order' := by
  cases h.rewrites hget hget' with
  | kept hsame => exact .kept hsame
  | edited hactive _ hstamp => exact .active hactive hstamp
  | advanced hvalid _ hstamp => exact .active (active_of_transition hvalid) hstamp
  | left _ hactive _ _ _ hstamp => exact .active hactive hstamp
  | flagged ctx dto payment hcall hfind hclosed hpayment hle hpending hstatus _ hstamp =>
    refine .flagged ?_ hstatus hstamp
    simp [hcall, Call.flags, hfind, hclosed, hpayment, hle, hpending]
  | voided _ _ _ _ hclosed hvoided => exact .voided hclosed hvoided

/-- What no call writes. -/
def Store.outside (s : Store) : Time × Table User := (s.clock, s.users)

theorem outside_of_books (h : t.books = s.books) : t.outside = s.outside :=
  of_books Store.outside (fun _ => rfl) h

theorem paidStore_outside :
    (paidStore s intents payment orderId branchId).outside = s.outside := by
  obtain ⟨orders, h⟩ := paidStore_rest s intents payment orderId branchId
  rw [h]
  rfl

theorem checkAndMark_outside : (checkAndMarkPaymentRefunded s paymentId).outside = s.outside := by
  obtain ⟨payments, h⟩ := checkAndMark_rest s paymentId
  rw [h]
  rfl

theorem Effect.outside (h : Effect s call t) : t.outside = s.outside := by
  cases h with
  | advance => exact outside_of_books (s := setStatus s _ _) advanceOrder_books
  | close => exact outside_of_books (s := setStatus s _ _) closedOrder_books
  | void => exact outside_of_books (s := setStatus s _ _) voidedOrder_books
  | @requestPending ctx orderId _ dto =>
    obtain ⟨orders, h⟩ := flagHeavyDiscount_rest { s with
      discounts := s.discounts.insert (requestedDiscount s ctx orderId dto false) } orderId
    rw [h]
    rfl
  | manualPayment => exact paidStore_outside
  | webhookPaid => exact paidStore_outside
  | @createRefund ctx orderId _ _ dto =>
    rcases refundedStore_cases s ctx orderId dto with ⟨_, ht⟩ | ⟨_, ht⟩
    · rw [ht, checkAndMark_outside]
      rfl
    · rw [ht]
      rfl
  | approveRefund => exact checkAndMark_outside
  | desk hframe => exact outside_of_books (deskFrame_books hframe)
  | drawer hframe =>
    have houtside := congrArg Store.outside hframe
    exact houtside
  | closeOrderWithPayment =>
    rw [recordPayments_eq]
    rfl
  | _ => rfl

-- ---
-- One operation
-- ---

namespace Operation

/-- The clock that the operation finds. -/
def time (p : KdsService.State) : Operation → Time
  | .service _ wait => (p.shared.pos.tick wait).clock
  | _ => p.shared.pos.clock

def flags (k : Id) (p : KdsService.State) : Operation → Bool
  | .service call wait => call.flags k (p.shared.pos.tick wait)
  | _ => false

theorem Does.stamped (h : Does s t none) (hget : s.orders.get? k = some order)
    (hget' : t.orders.get? k = some order') : Stamped s.clock false order order' := by
  rcases h.edited hget hget' with hsame | ⟨hactive, -, hstamp⟩
  · exact .kept hsame
  · exact .active hactive hstamp

theorem Does.outside (h : Does s t none) : t.outside = s.outside := by
  cases h with
  | nothing ht => rw [ht]
  | rewrite orderId row data hrow hopen hdata ht =>
    rw [ht]
    rfl

variable {bcrypt : Bcrypt} {p q : KdsService.State}

theorem stamped (op : Operation) (hget : OrderLifecycle.order? p k = some order)
    (hget' : OrderLifecycle.order? (op.take bcrypt p) k = some order') :
    Stamped (op.time p) (op.flags k p) order order' := by
  have hdoes := op.does bcrypt p
  cases op with
  | service call wait => exact (exec_effect bcrypt (p.shared.pos.tick wait) call).stamped hget hget'
  | splitBill | transferServer | createTicketsForOrder | turn | fails | markReady | recallTicket =>
    exact Does.stamped hdoes hget hget'

theorem take_outside (bcrypt : Bcrypt) (p : KdsService.State) (op : Operation) :
    (op.take bcrypt p).shared.pos.outside = (op.time p, p.shared.pos.users) := by
  have hdoes := op.does bcrypt p
  cases op with
  | service call wait => exact (exec_effect bcrypt (p.shared.pos.tick wait) call).outside
  | splitBill | transferServer | createTicketsForOrder | turn | fails | markReady | recallTicket =>
    exact Does.outside hdoes

theorem le_time (op : Operation) (p : KdsService.State) : p.shared.pos.clock ≤ op.time p := by
  cases op with
  | service call wait => exact (tick_clock _ wait).le
  | _ => exact le_refl _

end Operation

-- ---
-- The window
-- ---

theorem checkManagerPin_returns {message : String} :
    Returns (checkManagerPin bcrypt userId pin message) s u ↔
      pinValid bcrypt s userId pin = true := by
  simp only [Returns, checkManagerPin, bind_ok, get_ok, need_ok, ensure_ok, pinValid,
    Option.any_eq_true]
  constructor
  · rintro ⟨_, _, ⟨rfl, rfl⟩, hash, _, ⟨hhash, rfl⟩, hvalid, -⟩
    exact ⟨hash, hhash, hvalid⟩
  · rintro ⟨hash, hhash, hvalid⟩
    exact ⟨_, _, ⟨rfl, rfl⟩, hash, _, ⟨hhash, rfl⟩, hvalid, rfl⟩

theorem postCloseVoid_returned :
    returned (postCloseVoid bcrypt userId ctx k dto s) = true ↔
      ∃ order, s.findOrder ctx k = some order ∧ order.status = .closed ∧
        s.clock ≤ order.updatedAt + postCloseVoidWindowMs ∧
        pinValid bcrypt s userId dto.managerPin = true := by
  have hok (u : Unit) (t : Store) : postCloseVoid bcrypt userId ctx k dto s = .ok u t ↔
      ∃ order, s.findOrder ctx k = some order ∧ order.status = .closed ∧
        s.clock ≤ order.updatedAt + postCloseVoidWindowMs ∧
        pinValid bcrypt s userId dto.managerPin = true ∧ voidOrderAndPayments s ctx k = t := by
    simp only [postCloseVoid, bind_ok, get_ok, need_ok, ensure_ok, modify_ok, beq_iff_eq,
      checkManagerPin_ok, checkManagerPin_returns, decide_eq_true_eq]
    constructor
    · rintro ⟨_, _, ⟨rfl, rfl⟩, order, _, ⟨hfind, rfl⟩, _, _, ⟨hclosed, rfl⟩, _, _,
        ⟨hwindow, rfl⟩, _, _, ⟨hpin, rfl⟩, rfl⟩
      exact ⟨order, hfind, hclosed, Nat.sub_le_iff_le_add'.mp hwindow, hpin, rfl⟩
    · rintro ⟨order, hfind, hclosed, hwindow, hpin, rfl⟩
      exact ⟨_, _, ⟨rfl, rfl⟩, order, _, ⟨hfind, rfl⟩, (), _, ⟨hclosed, rfl⟩, (), _,
        ⟨Nat.sub_le_iff_le_add'.mpr hwindow, rfl⟩, (), _, ⟨hpin, rfl⟩, rfl⟩
  constructor
  · intro h
    obtain ⟨u, h⟩ := ok_of_returned h
    obtain ⟨order, hfind, hclosed, hwindow, hpin, -⟩ := (hok u _).mp h
    exact ⟨order, hfind, hclosed, hwindow, hpin⟩
  · rintro ⟨order, hfind, hclosed, hwindow, hpin⟩
    rw [(hok () _).mpr ⟨order, hfind, hclosed, hwindow, hpin, rfl⟩]
    rfl

/-- Whoever voids the order, and whenever, is in time for its close. -/
def InWindow (bcrypt : Bcrypt) (k : Id) (closedAt : Time) (p : KdsService.State) : Prop :=
  ∀ wait userId ctx dto,
    returned (postCloseVoid bcrypt userId ctx k dto (p.shared.pos.tick wait)) = true →
      (p.shared.pos.tick wait).clock ≤ closedAt + postCloseVoidWindowMs

/-- The order is not written after its close, save to void it. -/
def Unwritten (k : Id) (closedAt : Time) (p : KdsService.State) : Prop :=
  ∃ order, OrderLifecycle.order? p k = some order ∧
    (order.status = .closed ∧ order.updatedAt = closedAt ∨ order.status = .voided)

variable {bcrypt : Bcrypt} {p q : KdsService.State} {op : Operation} {closedAt : Time}

theorem Unwritten.inWindow (h : Unwritten k closedAt p) : InWindow bcrypt k closedAt p := by
  obtain ⟨order, hget, hended⟩ := h
  intro wait userId ctx dto hreturned
  obtain ⟨row, hfind, hclosed, hwindow, -⟩ := postCloseVoid_returned.mp hreturned
  obtain rfl : order = row := Option.some.inj (hget.symm.trans (findOrder_get hfind).1)
  rcases hended with ⟨-, hstamp⟩ | hvoided
  · exact hstamp ▸ hwindow
  · cases hclosed.symm.trans hvoided

theorem Unwritten.take (h : Unwritten k closedAt p) (hflags : op.flags k p = false) :
    Unwritten k closedAt (op.take bcrypt p) := by
  obtain ⟨order, hget, hended⟩ := h
  obtain ⟨order', hget'⟩ := (op.does bcrypt p).forth hget
  refine ⟨order', hget', ?_⟩
  cases op.stamped hget hget' with
  | kept hsame => exact hsame ▸ hended
  | active hactive => rcases hended with ⟨hclosed, -⟩ | hvoided <;> simp_all [OrderStatus.active]
  | flagged hflagged => exact absurd (hflags.symm.trans hflagged) (by decide)
  | voided _ hvoided => exact .inr hvoided

/-- An order that an operation closed was last written then. -/
theorem unwritten_of_close (hopen : OrderLifecycle.statusOf p k ≠ some .closed)
    (hclosed : OrderLifecycle.statusOf (op.take bcrypt p) k = some .closed) :
    Unwritten k (op.time p) (op.take bcrypt p) := by
  obtain ⟨order', hget', hstatus'⟩ := Option.map_eq_some_iff.mp hclosed
  refine ⟨order', hget', .inl ⟨hstatus', ?_⟩⟩
  rcases (op.does bcrypt p).back hget' with hnew | ⟨order, hget⟩
  · cases hnew.symm.trans hstatus'
  have hopen : order.status ≠ .closed := fun hwas =>
    hopen (Option.map_eq_some_iff.mpr ⟨order, hget, hwas⟩)
  cases op.stamped hget hget' with
  | kept hsame => exact absurd (hsame ▸ hstatus') hopen
  | active _ hstamp => exact hstamp
  | flagged _ hsame => exact absurd (hsame ▸ hstatus') hopen
  | voided hwas => exact absurd hwas hopen

/-- A refund that is flagged writes its order, which stays closed. -/
theorem Call.flags_exec (bcrypt : Bcrypt) {call : Call} (h : call.flags k s = true) :
    ∃ order', (call.exec bcrypt s).orders.get? k = some order' ∧ order'.status = .closed ∧
      order'.updatedAt = s.clock := by
  unfold Call.flags at h
  split at h
  · rename_i ctx orderId dto
    simp only [Bool.and_eq_true, beq_iff_eq, Option.any_eq_true, decide_eq_true_eq,
      Bool.not_eq_true'] at h
    obtain ⟨⟨⟨rfl, order, hfind, hclosed⟩, payment, hpayment, hle⟩, hauto⟩ := h
    have hok : createRefund ctx orderId dto s = .ok () (refundedStore s ctx orderId dto) := by
      simp only [createRefund, bind_ok, get_ok, need_ok, ensure_ok, modify_ok, beq_iff_eq,
        decide_eq_true_eq]
      exact ⟨_, _, ⟨rfl, rfl⟩, order, _, ⟨hfind, rfl⟩, (), _, ⟨hclosed, rfl⟩, payment, _,
        ⟨hpayment, rfl⟩, (), _, ⟨hle, rfl⟩, rfl⟩
    have hget := (findOrder_get hfind).1
    refine ⟨{ order with
      anomalyFlags := flagged order.anomalyFlags dto.amount s.clock, updatedAt := s.clock },
      ?_, hclosed, rfl⟩
    simp only [Call.exec, RefundsService.RefundRequest.exec, hok, final, refundedStore, hauto,
      Bool.false_eq_true, if_false, flagRefundAnomaly, updateOrder_get, if_true]
    simp [insertRefund, hget]
  · cases h

/-- The window opens again with the flag: a void just as long after it is accepted. -/
theorem flags_reopens (hflags : op.flags k p = true) (hafter : closedAt < op.time p)
    (hpin : pinValid bcrypt p.shared.pos userId pin = true) :
    ¬InWindow bcrypt k closedAt (op.take bcrypt p) := by
  intro h
  have houtside := Operation.take_outside bcrypt p op
  rw [Store.outside, Prod.mk.injEq] at houtside
  obtain ⟨hclock, husers⟩ := houtside
  cases op with
  | service call wait =>
    obtain ⟨order', hget', hclosed, hstamp⟩ := Call.flags_exec bcrypt hflags
    have hlate : ((Operation.service call wait).take bcrypt p).shared.pos.clock +
        postCloseVoidWindowMs = (((Operation.service call wait).take bcrypt p).shared.pos.tick
          (postCloseVoidWindowMs - 1)).clock := by
      simp only [Store.tick, postCloseVoidWindowMs]
    have hfind : (((Operation.service call wait).take bcrypt p).shared.pos.tick
        (postCloseVoidWindowMs - 1)).findOrder ⟨order'.orgId, order'.branchId⟩ k = some order' :=
      Option.filter_eq_some_iff.mpr ⟨hget', by simp⟩
    have hreturned := h (postCloseVoidWindowMs - 1) userId ⟨order'.orgId, order'.branchId⟩ ⟨pin⟩ <|
      postCloseVoid_returned.mpr ⟨order', hfind, hclosed, ?_, ?_⟩
    · rw [← hlate, hclock] at hreturned
      exact absurd (Nat.le_of_add_le_add_right hreturned) (Nat.not_le_of_lt hafter)
    · rw [← hlate, hclock, hstamp]
      exact le_refl _
    · rw [← hpin]
      simp only [pinValid, Store.tick, husers]
  | _ => cases hflags

theorem after_outside (bcrypt : Bcrypt) (p : KdsService.State) (ops : List Operation) :
    p.shared.pos.clock ≤ (OrderLifecycle.after bcrypt p ops).shared.pos.clock ∧
      (OrderLifecycle.after bcrypt p ops).shared.pos.users = p.shared.pos.users := by
  induction ops generalizing p with
  | nil => exact ⟨le_refl _, rfl⟩
  | cons op ops ih =>
    have houtside := Operation.take_outside bcrypt p op
    rw [Store.outside, Prod.mk.injEq] at houtside
    obtain ⟨hclock, husers⟩ := ih (op.take bcrypt p)
    refine ⟨(op.le_time p).trans (houtside.1 ▸ hclock), husers.trans houtside.2⟩

/-- Where every void is in time, no refund was flagged after the close. -/
theorem unflagged_of_inWindow (hpin : pinValid bcrypt p.shared.pos userId pin = true)
    (hclosedAt : p.shared.pos.clock = closedAt) (ops : List Operation)
    (h : ∀ before later, ops = before ++ later →
      InWindow bcrypt k closedAt (OrderLifecycle.after bcrypt p before)) :
    Run (Operation.take bcrypt) (fun p op => op.flags k p = false) p ops
      (OrderLifecycle.after bcrypt p ops) := by
  induction ops using List.reverseRecOn with
  | nil => exact .nil
  | append_singleton ops op ih =>
    have hrun := ih fun before later hops =>
        h before (later ++ [op]) (by rw [hops, List.append_assoc])
    rw [OrderLifecycle.after_append]
    refine hrun.snoc (Bool.eq_false_iff.mpr fun hflags => ?_)
    obtain ⟨hclock, husers⟩ := after_outside bcrypt p ops
    have hpin :
        pinValid bcrypt (OrderLifecycle.after bcrypt p ops).shared.pos userId pin = true := by
      rw [pinValid, husers]
      exact hpin
    have hlast := h (ops ++ [op]) [] (List.append_nil _).symm
    rw [OrderLifecycle.after_append] at hlast
    refine flags_reopens hflags ?_ hpin hlast
    cases op with
    | service call wait => exact hclosedAt ▸ hclock.trans_lt (tick_clock _ wait)
    | _ => cases hflags

/-- Once an operation has closed an order, every void that is accepted is in time for the close if
no refund of the order that waits for approval was requested since; and, where the PIN of some
manager is accepted, only if. -/
theorem void_window (hopen : OrderLifecycle.statusOf p k ≠ some .closed)
    (hclosed : OrderLifecycle.statusOf (op.take bcrypt p) k = some .closed)
    (ops : List Operation) :
    let closed := op.take bcrypt p
    let reached := OrderLifecycle.after bcrypt closed
    (Run (Operation.take bcrypt) (fun p op => op.flags k p = false) closed ops (reached ops) →
      ∀ before later, ops = before ++ later → InWindow bcrypt k (op.time p) (reached before)) ∧
    ∀ userId pin, pinValid bcrypt p.shared.pos userId pin = true →
      (∀ before later, ops = before ++ later → InWindow bcrypt k (op.time p) (reached before)) →
      Run (Operation.take bcrypt) (fun p op => op.flags k p = false) closed ops (reached ops) := by
  intro closed reached
  have hstart : Unwritten k (op.time p) closed := unwritten_of_close hopen hclosed
  have houtside := Operation.take_outside bcrypt p op
  rw [Store.outside, Prod.mk.injEq] at houtside
  constructor
  · rintro hrun before later rfl
    have hbefore := hrun.take
    exact (hbefore.invariant hstart fun _ _ hs hflags => hs.take hflags).inWindow
  · intro userId pin hpin h
    have hstill : pinValid bcrypt closed.shared.pos userId pin = true := by
      rw [pinValid, houtside.2]
      exact hpin
    exact unflagged_of_inWindow hstill houtside.1 ops h

-- ---
-- A refund that waits for approval
-- ---

namespace VoidWindow

open OrderLifecycle

/-- A branch whose refunds need approval above 5.00. -/
def cautious : KdsService.State :=
  ⟨{ pos := { System.cafe with
      orgSettings := Table.empty.insert { orgId := 0, discountApprovalThreshold := 500 } }
     station := fun _ => .kitchen }, []⟩

theorem four : (1 : Cents) ≤ 400 := by decide

/-- A refund of the paid order, some time after what came before. -/
def refunding (amount : Cents) (amount_pos : 1 ≤ amount) (wait : Nat) : Operation :=
  .service (.refunds (.createRefund ⟨0, 0⟩ 0 { paymentId := 0, amount, amount_pos })) wait

/-- Ten minutes. -/
def later : Nat := 600000

/-- The order before it is paid. -/
def unpaid : KdsService.State := after (· == ·) cautious (orderOfOne 0)

/-- A refund of 4.00 leaves the window alone. -/
theorem void_window_refunded : InWindow (· == ·) 0 (payByCard.time unpaid)
    (after (· == ·) (payByCard.take (· == ·) unpaid) [refunding 400 four later]) := by
  have hrun : Run (Operation.take (· == ·)) (fun p op => op.flags 0 p = false)
      (payByCard.take (· == ·) unpaid) [refunding 400 four later]
      (after (· == ·) (payByCard.take (· == ·) unpaid) [refunding 400 four later]) :=
    Run.of_holds (by decide +kernel)
  exact (void_window (by decide +kernel) (by decide +kernel) _).1 hrun _ [] rfl

/-- The order is paid, a refund of all of it is requested ten minutes later, and ten minutes after
that the order is voided. -/
theorem void_late :
    ¬(∀ (bcrypt : Bcrypt) (p : KdsService.State) (op : Operation) (k : Id) (ops : List Operation),
      statusOf p k ≠ some .closed → statusOf (op.take bcrypt p) k = some .closed →
      InWindow bcrypt k (op.time p) (after bcrypt (op.take bcrypt p) ops)) ∧
    let paid := payByCard.take (· == ·) unpaid
    let asked := after (· == ·) paid [refunding 1000 System.some_cents later]
    returned (postCloseVoid (· == ·) 0 ⟨0, 0⟩ 0 ⟨"1234"⟩ (asked.shared.pos.tick later)) = true ∧
      (asked.shared.pos.tick later).clock = payByCard.time unpaid + 1200002 ∧
      statusOf asked 0 = some .closed := by
  have hlate : returned (postCloseVoid (· == ·) 0 ⟨0, 0⟩ 0 ⟨"1234"⟩
      ((after (· == ·) (payByCard.take (· == ·) unpaid)
        [refunding 1000 System.some_cents later]).shared.pos.tick later)) = true := by
    decide +kernel
  refine ⟨fun h => ?_, hlate, by decide +kernel, by decide +kernel⟩
  have hwindow := h (· == ·) unpaid payByCard 0 [refunding 1000 System.some_cents later]
    (by decide +kernel) (by decide +kernel) later 0 ⟨0, 0⟩ ⟨"1234"⟩ hlate
  exact absurd hwindow (by decide +kernel)

end VoidWindow

end NimbusPos
