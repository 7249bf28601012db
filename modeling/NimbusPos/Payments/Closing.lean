import NimbusPos.System

/-!
# The cash desk

What `closeOrderWithPayment` takes for an order and gives back, and what an order
collects over a sequence of closing calls and manual references. An overpayment
needs some cash among the tenders, not enough of it; a MOMO tender needs a
succeeded intent, whatever it captured; and a manual reference needs neither an
open balance nor an open order.
-/

namespace NimbusPos.PaymentsService

open Lib Lib.Service

-- ---
-- One closing call
-- ---

/-- What an intent captured. -/
def captured (intent : PaymentIntent) : Cents := intent.confirmedAmount.getD intent.amount

/-- A payment that a webhook recorded for the intent. -/
def recordedFor (s : Store) (intentId : Id) : Bool :=
  (s.payments.findFirst fun _ payment => payment.paymentIntentId == some intentId).isSome

/-- What the succeeded intents of an order captured and no webhook recorded. -/
def unrecorded (s : Store) (ctx : BranchContext) (orderId : Id) : Cents :=
  s.paymentIntents.sumWhere (fun intentId intent =>
    intent.orderId == orderId && intent.branchId == ctx.branchId && intent.status == .succeeded &&
      !recordedFor s intentId) captured

/-- The tenders that are not cash. -/
def tenderedElse (payments : List CloseOrderPaymentDto) : Cents :=
  tendered (payments.filter (·.method != .cash))

theorem tendered_split (payments : List CloseOrderPaymentDto) :
    tendered payments = tenderedBy .cash payments + tenderedElse payments := by
  induction payments with
  | nil => rfl
  | cons p payments ih =>
    simp only [tendered, tenderedBy, tenderedElse, List.map_cons, List.sum_cons] at ih ⊢
    rw [ih]
    by_cases hp : p.method = .cash
    · simp [hp, add_assoc]
    · simp [hp, add_left_comm]

/-- The order is paid exactly, in each kind of tender. -/
structure PaidExactly (s t : Store) (ctx : BranchContext) (orderId : Id) (order : Order)
    (dto : CloseOrderDto) (receipt : CloseOrderResult) : Prop where
  total : alreadyPaid s orderId = 0 → alreadyPaid t orderId - receipt.changeDue = order.total
  change : receipt.changeDue ≤ tenderedBy .cash dto.payments
  momo : tenderedBy .momo dto.payments ≤ unrecorded s ctx orderId

theorem alreadyPaid_close (h : closeOrderWithPayment ctx orderId dto s = .ok receipt t) :
    alreadyPaid t orderId = alreadyPaid s orderId + tendered dto.payments := by
  obtain ⟨order, _, _, _, rfl⟩ := closeOrderWithPayment_ok h
  exact alreadyPaid_record s ctx orderId dto.payments

/-- A served order of 10.00. -/
def served : Store := System.after (· == ·) System.cafe System.servedOrder

/-- The order with 4.00 of it captured by an intent and recorded. -/
def servedAndCaptured : Store :=
  System.after (· == ·) System.cafe <| System.servedOrder ++
    [⟨.payments (.createPaymentIntent ⟨0, 0⟩
        { orderId := 0, provider := .mtn, amount := 400, amount_pos := by decide }
        "intent" none), 0⟩,
     ⟨.payments (.processWebhook
        ⟨.mtn, { externalId := some "intent", status := some "SUCCESSFUL" }⟩), 0⟩]

def tender (method : PaymentMethod) (amount : Cents) (h : 1 ≤ amount) : CloseOrderPaymentDto :=
  { method, amount, amount_pos := h }

/-- The tenders a closing call accepts pay its order exactly. -/
def ClosesExactly (tenders : List PaymentMethod) : Prop :=
  ∀ (s t : Store) (ctx : BranchContext) (orderId : Id) (order : Order) (dto : CloseOrderDto)
    (receipt : CloseOrderResult), dto.payments.map (·.method) = tenders →
    s.findOrder ctx orderId = some order → closeOrderWithPayment ctx orderId dto s = .ok receipt t →
    PaidExactly s t ctx orderId order dto receipt

/-- A call on the order, whatever order the request names. -/
inductive DeskCall
  | closeOrder (ctx : BranchContext) (dto : CloseOrderDto)
  | manualReference (ctx : BranchContext) (dto : CreateManualReferencePaymentDto)

structure DeskTurn where
  call : DeskCall
  wait : Nat := 0

/-- The store, the change given back, and the payments that were recorded for the
order when it was closed already. -/
structure Desk where
  store : Store
  change : Cents := 0
  late : Nat := 0

def paymentsOf (s : Store) (orderId : Id) : Nat :=
  s.payments.count fun _ payment => payment.orderId == orderId

def isClosed (s : Store) (orderId : Id) : Bool := (s.orders.get? orderId).any (·.status == .closed)

namespace Desk

def after (d : Desk) (orderId : Id) (t : Store) (change : Cents) : Desk where
  store := t
  change := d.change + change
  late := d.late +
    if isClosed d.store orderId then paymentsOf t orderId - paymentsOf d.store orderId else 0

def step (orderId : Id) (d : Desk) : DeskCall → Desk
  | .closeOrder ctx dto =>
    match closeOrderWithPayment ctx orderId dto d.store with
    | .ok receipt t => d.after orderId t receipt.changeDue
    | .error _ t => d.after orderId t 0
  | .manualReference ctx dto =>
    d.after orderId (final (createManualReferencePayment ctx { dto with orderId } d.store)) 0

def tick (d : Desk) (wait : Nat) : Desk := { d with store := d.store.tick wait }

end Desk

def deskTurn (orderId : Id) (d : Desk) (t : DeskTurn) : Desk := (d.tick t.wait).step orderId t.call

/-- A manual reference is over no more than what is still open on an order that
is not closed. -/
def fits (orderId : Id) (s : Store) : DeskCall → Prop
  | .closeOrder .. => True
  | .manualReference _ dto =>
    ∀ order ∈ s.orders.get? orderId, order.status ≠ .closed ∧
      dto.amount ≤ order.total - alreadyPaid s orderId

instance : Decidable (fits orderId s call) :=
  match call with
  | .closeOrder .. => .isTrue trivial
  | .manualReference .. => inferInstanceAs (Decidable (∀ order ∈ s.orders.get? orderId, _))

def fitsTurn (orderId : Id) (d : Desk) (t : DeskTurn) : Prop :=
  fits orderId (d.tick t.wait).store t.call

instance : Decidable (fitsTurn orderId d t) := inferInstanceAs (Decidable (fits _ _ _))

/-- The order collects no more than its total, and nothing after it closed. -/
structure Collected (orderId : Id) (total : Cents) (d : Desk) : Prop where
  order : ∃ order, d.store.orders.get? orderId = some order ∧ order.total = total
  bound : alreadyPaid d.store orderId - d.change ≤ total
  change : 0 ≤ d.change
  late : d.late = 0

theorem Collected.after {t : Store} {given : Cents} (h : Collected orderId total d)
    (horder : ∃ order, t.orders.get? orderId = some order ∧ order.total = total)
    (hbound : alreadyPaid t orderId - (d.change + given) ≤ total) (hchange : 0 ≤ given)
    (hlate : isClosed d.store orderId = true → t = d.store) :
    Collected orderId total (d.after orderId t given) := by
  refine ⟨horder, hbound, Int.add_nonneg h.change hchange, ?_⟩
  simp only [Desk.after, h.late, Nat.zero_add]
  split
  · rename_i hclosed
    rw [hlate hclosed, Nat.sub_self]
  · rfl

theorem Collected.same (h : Collected orderId total d) :
    Collected orderId total (d.after orderId d.store 0) :=
  h.after h.order (by simpa using h.bound) (Int.le_refl 0) fun _ => rfl

theorem Collected.closeOrder (h : Collected orderId total d) :
    Collected orderId total (d.step orderId (.closeOrder ctx dto)) := by
  simp only [Desk.step]
  cases hcall : closeOrderWithPayment ctx orderId dto d.store with
  | error e t =>
    cases closeOrderWithPayment_atomic _ _ _ hcall
    exact h.same
  | ok receipt t =>
    obtain ⟨order, hfind, hserved, hcovered, rfl⟩ := closeOrderWithPayment_ok hcall
    obtain ⟨_, hpaid, hchange, _⟩ := closeOrderWithPayment_receipt hcall hfind
    have hafter := alreadyPaid_close hcall
    have hget := (findOrder_get hfind).1
    have htotal : order.total = total := by
      obtain ⟨row, hrow, htotal⟩ := h.order
      cases hget.symm.trans hrow
      exact htotal
    have hnonneg := h.change
    refine h.after ⟨{ order with status := .closed, updatedAt := d.store.clock }, ?_,
      htotal⟩ ?_ ?_ ?_
    · rw [recordPayments_eq, updateOrder_get, if_pos rfl, hget]
      rfl
    · rw [hafter, hchange, hpaid, htotal]
      linarith
    · rw [hchange, hpaid]
      linarith
    · intro hclosed
      simp [isClosed, hget, hserved] at hclosed

theorem alreadyPaid_insert {payment : Payment} (hstatus : payment.status = .completed)
    (horder : payment.orderId = orderId) :
    alreadyPaid { s with payments := s.payments.insert payment } orderId =
      alreadyPaid s orderId + payment.amount := by
  simp only [alreadyPaid, Table.sumWhere_eq_total, Table.total_insert]
  simp [hstatus, horder]

theorem Collected.manualReference (h : Collected orderId total d)
    (hfits : fits orderId d.store (.manualReference ctx dto)) :
    Collected orderId total (d.step orderId (.manualReference ctx dto)) := by
  simp only [Desk.step]
  cases hcall : createManualReferencePayment ctx { dto with orderId } d.store with
  | error e t =>
    cases createManualReferencePayment_atomic _ _ _ hcall
    exact h.same
  | ok u t =>
    obtain ⟨_, _, _, rfl⟩ := createManualReferencePayment_ok hcall
    obtain ⟨order, hget, rfl⟩ := h.order
    obtain ⟨hopen, hamount⟩ := hfits order hget
    let payment := manualReferencePayment d.store ctx { dto with orderId }
    have hpaid : alreadyPaid { d.store with payments := d.store.payments.insert payment } orderId =
        alreadyPaid d.store orderId + payment.amount := alreadyPaid_insert rfl rfl
    have hnonneg := h.change
    have hbound : alreadyPaid d.store orderId + dto.amount - (d.change + 0) ≤ order.total := by
      linarith
    have hlate {t : Store} : isClosed d.store orderId = true → t = d.store := by
      intro hclosed
      simp [isClosed, hget, hopen] at hclosed
    simp only [final]
    rcases autoSettle_cases { d.store with
      payments :=
        d.store.payments.insert (manualReferencePayment d.store ctx { dto with orderId }) }
      orderId ctx.branchId with hsame | ⟨_, hsettled⟩
    · rw [hsame]
      exact h.after ⟨order, hget, rfl⟩ (hpaid ▸ hbound) (Int.le_refl 0) hlate
    · rw [hsettled]
      refine h.after ⟨{ order with status := .closed, updatedAt := d.store.clock }, ?_, rfl⟩
        (hpaid ▸ hbound) (Int.le_refl 0) hlate
      rw [updateOrder_get, if_pos rfl]
      simp only [hget, Option.map_some]

/-- In every sequence of closing calls and manual references that fit, an order
collects no more than its total, change given back, and nothing once closed. -/
theorem run_collected (hget : s.orders.get? orderId = some order)
    (hpaid : alreadyPaid s orderId ≤ order.total)
    (h : Run (deskTurn orderId) (fitsTurn orderId) { store := s } turns d) :
    alreadyPaid d.store orderId - d.change ≤ order.total ∧ d.late = 0 := by
  have hstart : Collected orderId order.total { store := s } :=
    ⟨⟨order, hget, rfl⟩, by simpa using hpaid, Int.le_refl 0, rfl⟩
  have hrun : Collected orderId order.total d := h.invariant hstart fun d t hd hok => by
    have htick : Collected orderId order.total (d.tick t.wait) :=
      ⟨hd.order, hd.bound, hd.change, hd.late⟩
    obtain ⟨call, wait⟩ := t
    cases call with
    | closeOrder ctx dto => exact htick.closeOrder
    | manualReference ctx dto => exact htick.manualReference hok
  exact ⟨hrun.bound, hrun.late⟩

def manual (amount : Cents) (h : 1 ≤ amount) (reference : String) : DeskTurn where
  call := .manualReference ⟨0, 0⟩
    { orderId := 0, method := .card, method_ne := by decide, amount, amount_pos := h
      externalTransactionId := reference }

def cashClose (amount : Cents) (h : 1 ≤ amount) : DeskTurn where
  call := .closeOrder ⟨0, 0⟩ ⟨[tender .cash amount h], by simp⟩

theorem run_collected_split :
    let turns := [manual 400 (by decide) "slip", cashClose 1000 (by decide)]
    let d := turns.foldl (deskTurn 0) { store := served }
    ∃ order, served.orders.get? 0 = some order ∧
      alreadyPaid d.store 0 - d.change ≤ order.total ∧ d.late = 0 := by
  intro turns d
  have horder : (served.orders.get? 0).any
      (fun order => decide (alreadyPaid served 0 ≤ order.total)) = true := by
    decide
  obtain ⟨order, hget, hpaid⟩ := (Option.any_eq_true _ _).mp horder
  have hrun : Run (deskTurn 0) (fitsTurn 0) { store := served } turns d := Run.of_holds (by decide)
  exact ⟨order, hget, run_collected hget (of_decide_eq_true hpaid) hrun⟩

/-- A manual reference over 25.00 on an order of 10.00; and one on the order after
it has settled. -/
theorem manualReferences_overcollect :
    ¬(∀ (s : Store) (orderId : Id) (order : Order) (turns : List DeskTurn),
      s.orders.get? orderId = some order → alreadyPaid s orderId ≤ order.total →
      alreadyPaid (turns.foldl (deskTurn orderId) { store := s }).store orderId -
        (turns.foldl (deskTurn orderId) { store := s }).change ≤ order.total) ∧
    ¬(∀ (s : Store) (orderId : Id) (turns : List DeskTurn),
      (turns.foldl (deskTurn orderId) { store := s }).late = 0) := by
  constructor
  · intro h
    have hbad : (served.orders.get? 0).any (fun order =>
        decide (alreadyPaid served 0 ≤ order.total) && decide (order.total <
          alreadyPaid (deskTurn 0 { store := served } (manual 2500 (by decide) "slip")).store 0 -
          (deskTurn 0 { store := served } (manual 2500 (by decide) "slip")).change)) = true := by
      decide
    obtain ⟨order, hget, hrow⟩ := (Option.any_eq_true _ _).mp hbad
    simp only [Bool.and_eq_true, decide_eq_true_eq] at hrow
    have hle := h served 0 order [manual 2500 (by decide) "slip"] hget hrow.1
    exact absurd hle (Int.not_le.mpr hrow.2)
  · intro h
    have hlate := h served 0 [manual 1000 (by decide) "first", manual 100 (by decide) "second"]
    exact absurd hlate (by decide)

end NimbusPos.PaymentsService
