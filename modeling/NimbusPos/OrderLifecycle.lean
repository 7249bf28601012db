import NimbusPos.Kds.Service
import NimbusPos.Leaving

/-!
# The life of an order

The order service follows `validTransitions`. A payment that covers an order closes it
from any active status, a merge voids its source although it was served, and a void after
the close is a path of its own; no other write changes a status, and none touches a
voided order.
-/

namespace NimbusPos

open Lib Lib.Service
open OrdersService DiscountsService PosHandoffService PaymentsService RefundsService
open KdsService (TicketCall)

-- ---
-- Operations
-- ---

/-- A call of the system, or of the kitchen beside it. The calls that write tickets take
their statements between the others. -/
inductive Operation
  | service (call : Call) (wait : Nat)
  | splitBill (ctx : BranchContext) (orderId : Id) (dto : SplitBillDto)
  | transferServer (ctx : BranchContext) (orderId : Id) (dto : TransferServerDto)
      (membership : Bool)
  | createTicketsForOrder (ctx : BranchContext) (orderId : Id)
  | turn (i : Nat)
  | fails (i : Nat) (error : HttpError)
  | markReady (ctx : BranchContext) (ticketId : Id)
  | recallTicket (ctx : BranchContext) (ticketId : Id)

/-- `sendOrder` starts the tickets of its order. -/
def Call.started (s : Store) : Call → List TicketCall
  | .orders (.sendOrder ctx orderId request) =>
    if returned (OrdersService.sendOrder ctx orderId request s) then [{ ctx, orderId }] else []
  | _ => []

namespace Operation

def take (bcrypt : Bcrypt) (p : KdsService.State) : Operation → KdsService.State
  | .service call wait =>
    let s := p.shared.pos.tick wait
    { shared := { p.shared with pos := call.exec bcrypt s }
      threads := p.threads ++ call.started s }
  | .splitBill ctx orderId dto =>
    KdsService.onOrders (PosHandoffService.splitBill ctx orderId dto) p
  | .transferServer ctx orderId dto membership =>
    KdsService.onOrders (PosHandoffService.transferServer ctx orderId dto membership) p
  | .createTicketsForOrder ctx orderId => KdsService.begin ctx orderId p
  | .turn i => p.step TicketCall.advance i
  | .fails i error => p.step (TicketCall.fail error) i
  | .markReady ctx ticketId =>
    { p with shared := final (KdsService.markReady ctx ticketId p.shared) }
  | .recallTicket ctx ticketId =>
    { p with shared := final (KdsService.recallTicket ctx ticketId p.shared) }

def call? : Operation → Option Call
  | .service call _ => some call
  | _ => none

end Operation

-- ---
-- Changes
-- ---

/-- The calls that record a payment that came from outside the till. -/
def Call.records : Call → Bool
  | .payments (.createManualReferencePayment ..) => true
  | .payments (.processWebhook _) => true
  | _ => false

/-- What an operation makes of an order, with the store it leaves. -/
inductive Change (call : Option Call) (t : Store) (k : Id) (order order' : Order) : Prop
  | same (hstatus : order'.status = order.status)
      (hvoided : order.status = .voided → order' = order)
  | transition (hvalid : order'.status ∈ order.status.validTransitions)
  | settled (hcall : call.any Call.records = true) (hactive : order.status.active = true)
      (hclosed : order'.status = .closed) (hcovered : order.total ≤ totalPaid t k order.branchId)
  | merged (ctx : BranchContext) (dto : MergeOrdersDto)
      (hcall : call = some (.handoff (.mergeOrders ctx dto))) (hk : dto.sourceOrderId = k)
      (hserved : order.status = .served) (hvoided : order'.status = .voided)
  | postCloseVoid (userId : Id) (ctx : BranchContext) (dto : PostCloseVoidDto)
      (hcall : call = some (.refunds (.postCloseVoid userId ctx k dto)))
      (hclosed : order.status = .closed) (hvoided : order'.status = .voided)

variable {s t : Store} {call : Option Call} {order order' : Order}

/-- A rewrite that leaves the status, of an order that is not voided. -/
theorem Change.rewritten (hactive : order.status.active = true) (hstatus : order'.status = order.status) :
    Change call t k order order' := by
  refine .same hstatus fun hvoided => ?_
  simp [hvoided, OrderStatus.active] at hactive

/-- An open order may be voided, save that one that was served may only be merged. -/
theorem voids_open {status : OrderStatus} (h : status ∈ handoffOpenStatuses) :
    .voided ∈ status.validTransitions ∨ status = .served := by
  revert h
  cases status <;> decide

/-- An order that a payment settles is covered. -/
theorem settled_covers {payment : Payment} (hget : s.orders.get? k = some order)
    (hsettles : settles (s.withPayment intents payment) k branchId) :
    order.total ≤ totalPaid (settledStore s intents payment k events) k order.branchId := by
  obtain ⟨row, hfind, -, hcovered⟩ := hsettles
  obtain ⟨hrow, rfl⟩ := findOrderInBranch_iff.mp hfind
  cases hget.symm.trans hrow
  exact hcovered

theorem Leaves.change {c : Call} (h : Leaves s c k order t) (hget : s.orders.get? k = some order)
    (hactive : order.status.active = true) (hstatus : order'.status = c.ends) :
    Change (some c) t k order order' := by
  cases h with
  | closeOrder _ hserved | closeOrderWithPayment _ hserved =>
    have hclosed : order'.status = .closed := hstatus
    exact .transition (by simp [hclosed, hserved, OrderStatus.validTransitions])
  | voidOrder _ hvalid => exact .transition (hstatus ▸ hvalid)
  | manualPayment _ _ hsettles =>
    exact .settled rfl hactive hstatus (settled_covers hget hsettles)
  | webhookPaid _ _ _ _ _ _ hsettles =>
    exact .settled rfl hactive hstatus (settled_covers hget hsettles)
  | mergeOrders _ _ hopen =>
    rcases voids_open hopen with hvalid | hserved
    · exact .transition (hstatus ▸ hvalid)
    · exact .merged _ _ rfl rfl hserved hstatus

theorem Effect.change {c : Call} (h : Effect s c t) (hget : s.orders.get? k = some order)
    (hget' : t.orders.get? k = some order') : Change (some c) t k order order' := by
  cases h.rewrites hget hget' with
  | kept hsame => exact .same (hsame ▸ rfl) fun _ => hsame
  | edited hactive hstatus => exact .rewritten hactive hstatus
  | advanced hvalid => exact .transition hvalid
  | left hleaves hactive hstatus => exact hleaves.change hget hactive hstatus
  | flagged _ _ _ _ _ hclosed _ _ _ hstatus =>
    refine .same hstatus fun hvoided => ?_
    cases hclosed.symm.trans hvoided
  | voided userId ctx dto hcall hclosed hvoided =>
    exact .postCloseVoid userId ctx dto (congrArg some hcall) hclosed hvoided

-- ---
-- One operation
-- ---

/-- What an operation does to the store of the orders. -/
inductive Operation.Does (s t : Store) : Option Call → Prop
  | nothing (ht : t = s) : Does s t none
  | service (call : Call) (wait : Nat) (heffect : Effect (s.tick wait) call t) :
      Does s t (some call)
  | rewrite (orderId : Id) (row : Order) (data : Order → Order)
      (hrow : s.orders.get? orderId = some row) (hopen : row.status ∈ handoffOpenStatuses)
      (hdata : ∀ order, (data order).status = order.status) (ht : t = s.updateOrder orderId data) :
      Does s t none

theorem ticket_advance (s : Kitchen) (c : TicketCall) : (c.advance s).1.pos = s.pos := by
  unfold TicketCall.advance
  split <;> rfl

theorem pool_pos {advance : Kitchen → TicketCall → Kitchen × TicketCall}
    (h : ∀ s c, (advance s c).1.pos = s.pos) (p : KdsService.State) (i : Nat) :
    (p.step advance i).shared.pos = p.shared.pos := by
  rcases Pool.step_cases advance p i with ⟨_, hs⟩ | ⟨_, c, _, _, _, _, hs⟩
  · rw [hs]
  · rw [hs]
    exact h p.shared c

theorem splitBill_does (ctx : BranchContext) (orderId : Id) (dto : SplitBillDto) (s : Store) :
    Operation.Does s (final (splitBill ctx orderId dto s)) none := by
  refine splitBill_atomic.elim (P := fun t => Operation.Does s t none) (.nothing rfl) ?_
  intro _ t h
  obtain ⟨row, hfind, hopen, ht⟩ := splitBill_ok h
  exact .rewrite orderId row _ (findOrder_get hfind).1 hopen (fun _ => rfl) ht

theorem transferServer_does (ctx : BranchContext) (orderId : Id) (dto : TransferServerDto)
    (membership : Bool) (s : Store) :
    Operation.Does s (final (transferServer ctx orderId dto membership s)) none := by
  refine transferServer_atomic.elim (P := fun t => Operation.Does s t none) (.nothing rfl) ?_
  intro _ t h
  obtain ⟨row, hfind, hopen, ht⟩ := transferServer_ok h
  exact .rewrite orderId row (fun order => { order with userId := dto.targetUserId })
    (findOrder_get hfind).1 hopen (fun _ => rfl) ht

theorem markReady_pos (ctx : BranchContext) (ticketId : Id) :
    Keeps (.same Kitchen.pos) (KdsService.markReady ctx ticketId) :=
  .bind Reads.get.keeps fun _ => .bind (Reads.need _ _).keeps fun _ =>
    .bind (Reads.ensure _ _).keeps fun _ => .modify fun _ => rfl

theorem recallTicket_pos (ctx : BranchContext) (ticketId : Id) :
    Keeps (.same Kitchen.pos) (KdsService.recallTicket ctx ticketId) :=
  .bind Reads.get.keeps fun _ => .bind (Reads.need _ _).keeps fun _ =>
    .bind (Reads.ensure _ _).keeps fun _ => .modify fun _ => rfl

theorem Operation.does (bcrypt : Bcrypt) (p : KdsService.State) (op : Operation) :
    Does p.shared.pos (op.take bcrypt p).shared.pos op.call? := by
  cases op with
  | service call wait => exact .service call wait (exec_effect bcrypt _ call)
  | splitBill ctx orderId dto => exact splitBill_does ctx orderId dto p.shared.pos
  | transferServer ctx orderId dto membership =>
    exact transferServer_does ctx orderId dto membership p.shared.pos
  | createTicketsForOrder => exact .nothing rfl
  | turn i => exact .nothing (pool_pos ticket_advance p i)
  | fails i error => exact .nothing (pool_pos (fun _ _ => rfl) p i)
  | markReady ctx ticketId => exact .nothing (markReady_pos ctx ticketId p.shared)
  | recallTicket ctx ticketId => exact .nothing (recallTicket_pos ctx ticketId p.shared)

namespace Operation.Does

/-- What is not a call of the system rewrites open orders. -/
theorem edited (h : Does s t none) (hget : s.orders.get? k = some order)
    (hget' : t.orders.get? k = some order') : order' = order ∨
      order.status.active = true ∧ order'.status = order.status ∧ order'.updatedAt = s.clock := by
  cases h with
  | nothing ht =>
    subst ht
    exact .inl (Option.some.inj (hget'.symm.trans hget))
  | rewrite orderId row data hrow hopen hdata ht =>
    subst ht
    rw [updateOrder_get] at hget'
    split at hget'
    · rename_i hk
      rw [hget] at hget'
      cases hget'
      obtain rfl := Option.some.inj (hget.symm.trans (hk ▸ hrow))
      exact .inr ⟨active_of_open hopen, hdata _, rfl⟩
    · exact .inl (Option.some.inj (hget'.symm.trans hget))

theorem change (h : Does s t call) (hget : s.orders.get? k = some order)
    (hget' : t.orders.get? k = some order') : Change call t k order order' := by
  cases call with
  | none =>
    rcases h.edited hget hget' with rfl | ⟨hactive, hstatus, -⟩
    · exact .same rfl fun _ => rfl
    · exact .rewritten hactive hstatus
  | some c =>
    cases h with
    | service _ wait heffect => exact heffect.change hget hget'

/-- No operation deletes an order. -/
theorem forth (h : Does s t call) (hget : s.orders.get? k = some order) :
    ∃ order', t.orders.get? k = some order' := by
  cases h with
  | nothing ht => exact ⟨order, ht ▸ hget⟩
  | service call wait heffect =>
    obtain ⟨order', hget', _⟩ := heffect.orders_forth hget
    exact ⟨order', hget'⟩
  | rewrite orderId row data hrow hopen hdata ht =>
    simp only [ht, updateOrder_get, hget, Option.map_some]
    split
    · exact ⟨_, rfl⟩
    · exact ⟨_, rfl⟩

/-- An order is new where it was not there before. -/
theorem back (h : Does s t call) (hget' : t.orders.get? k = some order') :
    order'.status = .new ∨ ∃ order, s.orders.get? k = some order := by
  cases h with
  | nothing ht => exact .inr ⟨order', ht ▸ hget'⟩
  | service call wait heffect =>
    rcases heffect.course_back hget' with hnew | ⟨order, hget, _⟩
    · exact .inl hnew
    · exact .inr ⟨order, hget⟩
  | rewrite orderId row data hrow hopen hdata ht =>
    rw [ht, updateOrder_get] at hget'
    split at hget'
    · simp only [Option.map_eq_some_iff] at hget'
      obtain ⟨order, hget, _⟩ := hget'
      exact .inr ⟨order, hget⟩
    · exact .inr ⟨order', hget'⟩

end Operation.Does

namespace Change

/-- A voided order is out of reach. -/
theorem of_voided (h : Change call t k order order') (hvoided : order.status = .voided) :
    order' = order := by
  cases h with
  | same _ hsame => exact hsame hvoided
  | transition hvalid => simp [hvoided, OrderStatus.validTransitions] at hvalid
  | settled _ hactive => simp [hvoided, OrderStatus.active] at hactive
  | merged _ _ _ _ hserved => cases hvoided.symm.trans hserved
  | postCloseVoid _ _ _ _ hclosed => cases hvoided.symm.trans hclosed

/-- A closed order can only be voided. -/
theorem of_closed (h : Change call t k order order') (hclosed : order.status = .closed) :
    order'.status = .closed ∨ order'.status = .voided := by
  cases h with
  | same hstatus => exact .inl (hstatus.trans hclosed)
  | transition hvalid => simp [hclosed, OrderStatus.validTransitions] at hvalid
  | settled _ hactive => simp [hclosed, OrderStatus.active] at hactive
  | merged _ _ _ _ _ hvoided => exact .inr hvoided
  | postCloseVoid _ _ _ _ _ hvoided => exact .inr hvoided

/-- An order is closed because it was, because it was served, or because it was paid. -/
theorem to_closed (h : Change call t k order order') (hclosed : order'.status = .closed) :
    order.status = .closed ∨ order.status = .served ∨
      (call.any Call.records = true ∧ order.status.active = true ∧
        order.total ≤ totalPaid t k order.branchId) := by
  cases h with
  | same hstatus => exact .inl (hstatus ▸ hclosed)
  | transition hvalid =>
    refine .inr (.inl ?_)
    rw [hclosed] at hvalid
    revert hvalid
    cases order.status <;> decide
  | settled hcall hactive _ hcovered => exact .inr (.inr ⟨hcall, hactive, hcovered⟩)
  | merged _ _ _ _ _ hvoided => cases hclosed.symm.trans hvoided
  | postCloseVoid _ _ _ _ _ hvoided => cases hclosed.symm.trans hvoided

end Change

-- ---
-- Runs
-- ---

namespace OrderLifecycle

/-- The state after a sequence of operations. -/
def after (bcrypt : Bcrypt) (start : KdsService.State) (ops : List Operation) : KdsService.State :=
  ops.foldl (Operation.take bcrypt) start

def order? (p : KdsService.State) (k : Id) : Option Order := p.shared.pos.orders.get? k

/-- A payment closed the order that was paid for by it. -/
structure Settled (p q : KdsService.State) (call : Option Call) (k : Id) (order : Order) :
    Prop where
  found : order? p k = some order
  active : order.status.active = true
  records : call.any Call.records = true
  covered : order.total ≤ totalPaid q.shared.pos k order.branchId

variable {bcrypt : Bcrypt} {start p : KdsService.State} {ops later : List Operation}

theorem after_append :
    after bcrypt start (ops ++ later) = after bcrypt (after bcrypt start ops) later :=
  List.foldl_append

/-- A voided order stays as it is over any operations. -/
theorem voided_after (hget : order? p k = some order) (hvoided : order.status = .voided) :
    order? (after bcrypt p ops) k = some order := by
  induction ops generalizing p with
  | nil => exact hget
  | cons op ops ih =>
    have hdoes := op.does bcrypt p
    obtain ⟨order', hget'⟩ := hdoes.forth hget
    cases (hdoes.change hget hget').of_voided hvoided
    exact ih hget'

/-- A closed order is closed or voided after any operations. -/
theorem closed_after (hget : order? p k = some order)
    (hended : order.status = .closed ∨ order.status = .voided) :
    ∃ order', order? (after bcrypt p ops) k = some order' ∧
      (order'.status = .closed ∨ order'.status = .voided) := by
  induction ops generalizing p order with
  | nil => exact ⟨order, hget, hended⟩
  | cons op ops ih =>
    have hdoes := op.does bcrypt p
    obtain ⟨order', hget'⟩ := hdoes.forth hget
    have hchange := hdoes.change hget hget'
    refine ih hget' ?_
    rcases hended with hclosed | hvoided
    · exact hchange.of_closed hclosed
    · cases hchange.of_voided hvoided
      exact .inr hvoided

/-- Where the order was closed over the operations. -/
theorem closed_by (hget : order? (after bcrypt start ops) k = some order)
    (hclosed : order.status = .closed) :
    (∃ order, order? start k = some order ∧ order.status = .closed) ∨
      (Once (Operation.take bcrypt) start ops fun p =>
        ∃ order, order? p k = some order ∧ order.status = .served) ∨
      ∃ before op later order, ops = before ++ op :: later ∧
        Settled (after bcrypt start before) (after bcrypt start (before ++ [op])) op.call? k
          order := by
  induction ops using List.reverseRecOn generalizing order with
  | nil => exact .inl ⟨order, hget, hclosed⟩
  | append_singleton ops op ih =>
    have hlast : after bcrypt start (ops ++ [op]) = op.take bcrypt (after bcrypt start ops) :=
      after_append
    rw [hlast] at hget
    have hdoes := op.does bcrypt (after bcrypt start ops)
    rcases hdoes.back hget with hnew | ⟨row, hrow⟩
    · cases hclosed.symm.trans hnew
    · have hchange := (hdoes.change hrow hget).to_closed hclosed
      rcases hchange with hwas | hserved | ⟨hcall, hactive, hpaid⟩
      · rcases ih hrow hwas with hstart | honce | ⟨before, op', later, order, rfl, hsettled⟩
        · exact .inl hstart
        · exact .inr (.inl (honce.snoc op))
        · exact .inr (.inr ⟨before, op', later ++ [op], order, by simp, hsettled⟩)
      · exact .inr (.inl ⟨ops, [op], rfl, row, hrow, hserved⟩)
      · exact .inr (.inr ⟨ops, op, [], row, rfl, hrow, hactive, hcall, hlast ▸ hpaid⟩)

/-- The life of the orders over a run of operations: an order begins new, every operation
makes a `Change` of it, a closed one was closed by one of three ways and is left only to
be voided, and a voided one is left as it is. -/
structure Lives (bcrypt : Bcrypt) (start : KdsService.State) (ops : List Operation) : Prop where
  changes : ∀ before op later k order', ops = before ++ op :: later →
    order? (after bcrypt start (before ++ [op])) k = some order' →
    (order? (after bcrypt start before) k = none ∧ order'.status = .new) ∨
      ∃ order, order? (after bcrypt start before) k = some order ∧
        Change op.call? (after bcrypt start (before ++ [op])).shared.pos k order order'
  closed : ∀ k order, order? (after bcrypt start ops) k = some order → order.status = .closed →
    (∃ order, order? start k = some order ∧ order.status = .closed) ∨
      (Once (Operation.take bcrypt) start ops fun p =>
        ∃ order, order? p k = some order ∧ order.status = .served) ∨
      ∃ before op later order, ops = before ++ op :: later ∧
        Settled (after bcrypt start before) (after bcrypt start (before ++ [op])) op.call? k order
  leaves : ∀ before later k order, ops = before ++ later →
    order? (after bcrypt start before) k = some order → order.status = .closed →
    ∃ order', order? (after bcrypt start ops) k = some order' ∧
      (order'.status = .closed ∨ order'.status = .voided)
  voided : ∀ before later k order, ops = before ++ later →
    order? (after bcrypt start before) k = some order → order.status = .voided →
    order? (after bcrypt start ops) k = some order

theorem order_lives (bcrypt : Bcrypt) (start : KdsService.State) (ops : List Operation) :
    Lives bcrypt start ops where
  changes := by
    rintro before op later k order' rfl hget'
    have hdoes := op.does bcrypt (after bcrypt start before)
    rw [after_append] at hget' ⊢
    cases hget : order? (after bcrypt start before) k with
    | none =>
      refine .inl ⟨rfl, ?_⟩
      rcases hdoes.back hget' with hnew | ⟨order, hsome⟩
      · exact hnew
      · cases hget.symm.trans hsome
    | some order => exact .inr ⟨order, rfl, hdoes.change hget hget'⟩
  closed _ _ := closed_by
  leaves := by
    rintro before later k order rfl hget hclosed
    rw [after_append]
    exact closed_after hget (.inl hclosed)
  voided := by
    rintro before later k order rfl hget hvoided
    rw [after_append]
    exact voided_after hget hvoided

/-- The system before its first operation, with every item prepared in the kitchen. -/
def opened : KdsService.State := ⟨{ pos := System.cafe, station := fun _ => .kitchen }, []⟩

def orderOfOne (orderId : Id) : List Operation :=
  [.service (.orders (.createOrder 0 ⟨0, 0⟩ { serviceType := .takeaway } {})) 0,
   .service (.orders (.addOrderItem ⟨0, 0⟩ orderId { menuItemId := 0 } {})) 0]

theorem by_card : PaymentMethod.card ≠ .cash := by decide

/-- The price of the item, by card. -/
def payByCard : Operation :=
  .service (.payments (.createManualReferencePayment ⟨0, 0⟩
    { orderId := 0, method := .card, method_ne := by_card, amount := 1000
      amount_pos := System.some_cents, externalTransactionId := "TX1" })) 0

def servedThenSecond : List Operation :=
  System.servedOrder.map (fun e => .service e.call e.wait) ++ orderOfOne 1

def mergeFirst : Operation :=
  .service (.handoff (.mergeOrders ⟨0, 0⟩ { sourceOrderId := 0, targetOrderId := 1 })) 0

/-- Every change of a status over a run is one of `validTransitions` or a post-close void,
and an order that is closed was served. -/
def Strict (bcrypt : Bcrypt) (start : KdsService.State) (ops : List Operation) : Prop :=
  (∀ before op later k order order', ops = before ++ op :: later →
    order? (after bcrypt start before) k = some order →
    order? (after bcrypt start (before ++ [op])) k = some order' →
    order'.status = order.status ∨ order'.status ∈ order.status.validTransitions ∨
      (order.status = .closed ∧ order'.status = .voided)) ∧
  ∀ k order, order? (after bcrypt start ops) k = some order → order.status = .closed →
    (∃ order, order? start k = some order ∧ order.status = .closed) ∨
      Once (Operation.take bcrypt) start ops fun p =>
        ∃ order, order? p k = some order ∧ order.status = .served

def statusOf (p : KdsService.State) (k : Id) : Option OrderStatus := (order? p k).map (·.status)

/-- A payment by card closes an order that was never sent, and a merge voids one that was
served. -/
theorem payment_closes_new :
    (¬ ∀ bcrypt start ops, Strict bcrypt start ops) ∧
      statusOf (after (· == ·) opened (orderOfOne 0)) 0 = some .new ∧
      statusOf (after (· == ·) opened (orderOfOne 0 ++ [payByCard])) 0 = some .closed ∧
      statusOf (after (· == ·) opened servedThenSecond) 0 = some .served ∧
      statusOf (after (· == ·) opened (servedThenSecond ++ [mergeFirst])) 0 = some .voided := by
  have hbefore : statusOf (after (· == ·) opened (orderOfOne 0)) 0 = some .new := by decide +kernel
  have hafter : statusOf (after (· == ·) opened (orderOfOne 0 ++ [payByCard])) 0 =
      some .closed := by decide +kernel
  refine ⟨fun h => ?_, hbefore, hafter, by decide +kernel, by decide +kernel⟩
  obtain ⟨order, hget, hnew⟩ := Option.map_eq_some_iff.mp hbefore
  obtain ⟨order', hget', hclosed⟩ := Option.map_eq_some_iff.mp hafter
  have hchange := (h (· == ·) opened (orderOfOne 0 ++ [payByCard])).1 (orderOfOne 0) payByCard [] 0
    order order' rfl hget hget'
  rw [hnew, hclosed] at hchange
  revert hchange
  decide

end OrderLifecycle

end NimbusPos
