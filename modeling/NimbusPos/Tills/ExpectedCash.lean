import NimbusPos.Effects

/-!
# What a till is expected to hold

`computeExpectedCash` is the float and the cash that came in, less the cash that
went out, as long as no sale gives change and no refund completes the refunds of
a sale of the same session. A completed refund is subtracted, and the sale it
completes is marked as refunded and no longer added.
-/

namespace NimbusPos.TillsService

open Lib Lib.Service
open PaymentsService RefundsService

-- ---
-- A session
-- ---

/-- What happens at a till while it is open. A movement is recorded by hand. -/
inductive DrawerEvent
  | sale (orderId : Id) (dto : CloseOrderDto)
  | createRefund (orderId : Id) (dto : CreateRefundDto)
  | approveRefund (userId : Id) (refundId : Id) (dto : ApproveRefundDto)
  | safeDrop (dto : SafeDropDto)
  | movement (shiftId : Id) (type : CashMovementType) (amount : Cents)

/-- The store, with the cash that was put into the till and taken out of it. -/
structure Drawer where
  store : Store
  received : Cents := 0
  handedOut : Cents := 0

def recordMovement (s : Store) (ctx : BranchContext) (tillId shiftId : Id) (type : CashMovementType)
    (amount : Cents) : Store :=
  let movement : CashMovement :=
    { orgId := ctx.organizationId, branchId := ctx.branchId, tillSessionId := tillId
      shiftId := some shiftId, type, amount }
  { s with cashMovements := s.cashMovements.insert movement }

def putsIn (type : CashMovementType) (amount : Cents) : Cents :=
  if type = .paidIn then amount else 0

def takesOut (type : CashMovementType) (amount : Cents) : Cents :=
  if type = .paidIn ∨ type = .openingFloat then 0 else amount

namespace Drawer

/-- The drawer after a call, when it succeeded with `a`. -/
def after (d : Drawer) (r : EStateM.Result HttpError Store α) (received handedOut : α → Cents) :
    Drawer :=
  match r with
  | .ok a t => ⟨t, d.received + received a, d.handedOut + handedOut a⟩
  | .error _ t => { d with store := t }

/-- The cash that completing a refund hands out. -/
def refundedInCash (s : Store) (paymentId : Id) (amount : Cents) : Cents :=
  if (s.payments.get? paymentId).any (·.method == .cash) then amount else 0

def step (bcrypt : Bcrypt) (ctx : BranchContext) (tillId : Id) (d : Drawer) : DrawerEvent → Drawer
  | .sale orderId dto =>
    d.after (closeOrderWithPayment ctx orderId dto d.store) (fun _ => tenderedBy .cash dto.payments)
      (·.changeDue)
  | .createRefund orderId dto =>
    d.after (RefundsService.createRefund ctx orderId dto d.store) (fun _ => 0) fun _ =>
      if autoApproves d.store ctx dto then refundedInCash d.store dto.paymentId dto.amount else 0
  | .approveRefund userId refundId dto =>
    d.after (RefundsService.approveRefund bcrypt userId ctx refundId dto d.store) (fun _ => 0)
      fun _ =>
      match d.store.refunds.get? refundId with
      | none => 0
      | some refund => refundedInCash d.store refund.paymentId refund.amount
  | .safeDrop dto =>
    d.after (TillsService.safeDrop tillId ctx dto d.store) (fun _ => 0) fun _ => dto.amount
  | .movement shiftId type amount =>
    ⟨recordMovement d.store ctx tillId shiftId type amount,
      d.received + putsIn type amount, d.handedOut + takesOut type amount⟩

def tick (d : Drawer) (wait : Nat) : Drawer := { d with store := d.store.tick wait }

end Drawer

/-- An event, and the time that passes before it. -/
structure DrawerTurn where
  event : DrawerEvent
  wait : Nat := 0

def drawerTurn (bcrypt : Bcrypt) (ctx : BranchContext) (tillId : Id) (d : Drawer) (t : DrawerTurn) :
    Drawer :=
  (d.tick t.wait).step bcrypt ctx tillId t.event

-- ---
-- The two sums over the branch
-- ---

/-- A sale that counts towards the cash of a session opened at `openedAt`. -/
def countsAsSale (ctx : BranchContext) (openedAt : Time) (payment : Payment) : Bool :=
  payment.branchId == ctx.branchId && payment.orgId == ctx.organizationId &&
    payment.method == .cash && payment.status == .completed && decide (openedAt ≤ payment.createdAt)

def countsAsRefund (ctx : BranchContext) (openedAt : Time) (refund : Refund) : Bool :=
  refund.branchId == ctx.branchId && refund.orgId == ctx.organizationId &&
    refund.status == .completed && decide (openedAt ≤ refund.createdAt)

def salesSince (s : Store) (ctx : BranchContext) (openedAt : Time) : Cents :=
  s.payments.sumWhere (fun _ payment => countsAsSale ctx openedAt payment) (·.amount)

def refundsSince (s : Store) (ctx : BranchContext) (openedAt : Time) : Cents :=
  s.refunds.sumWhere (fun _ refund => countsAsRefund ctx openedAt refund) (·.amount)

/-- Payments and refunds are dated in the past. -/
structure Dated (s : Store) : Prop where
  payments : ∀ k payment, s.payments.get? k = some payment → payment.createdAt ≤ s.clock
  refunds : ∀ k refund, s.refunds.get? k = some refund → refund.createdAt ≤ s.clock

theorem cashSales_eq {s : Store} (h : Dated s) :
    cashSales s ctx openedAt s.clock = salesSince s ctx openedAt := by
  simp only [cashSales, salesSince, Table.sumWhere_eq_total]
  apply Table.total_congr
  intro k payment hget
  have hpast := h.payments k payment hget
  simp [countsAsSale, inWindow, hpast]

theorem refundCashOut_eq {s : Store} (h : Dated s) :
    refundCashOut s ctx openedAt s.clock = refundsSince s ctx openedAt := by
  simp only [refundCashOut, refundsSince, Table.sumWhere_eq_total]
  apply Table.total_congr
  intro k refund hget
  have hpast := h.refunds k refund hget
  simp [countsAsRefund, inWindow, hpast]

theorem salesSince_record (s : Store) (ctx : BranchContext) (orderId : Id)
    (tender : List CloseOrderPaymentDto) (hpast : openedAt ≤ s.clock) :
    salesSince (recordPayments s ctx orderId tender) ctx openedAt =
      salesSince s ctx openedAt + tenderedBy .cash tender := by
  simp only [salesSince, Table.sumWhere_eq_total, total_record, tenderedBy_eq]
  simp [countsAsSale, tenderedPayment, hpast]

theorem refundsSince_insert (s : Store) (ctx : BranchContext) (orderId : Id) (dto : CreateRefundDto)
    (autoApprove : Bool) (hpast : openedAt ≤ s.clock) :
    refundsSince (insertRefund s ctx orderId dto autoApprove) ctx openedAt =
      refundsSince s ctx openedAt + if autoApprove then dto.amount else 0 := by
  simp only [refundsSince, insertRefund, Table.sumWhere_eq_total, Table.total_insert]
  cases autoApprove <;> simp [countsAsRefund, requestedRefund, hpast]

/-- A refund of the session that is completed later. -/
theorem refundsSince_complete (hget : s.refunds.get? k = some refund)
    (hpending : refund.status = .pending)
    (hbranch : refund.branchId = ctx.branchId) (horg : refund.orgId = ctx.organizationId)
    (hsince : openedAt ≤ refund.createdAt) :
    refundsSince (completeRefund s k) ctx openedAt =
      refundsSince s ctx openedAt + refund.amount := by
  simp only [refundsSince, completeRefund, Table.sumWhere_eq_total]
  rw [Table.total_update hget]
  simp [countsAsRefund, hpending, hbranch, horg, hsince]

/-- Marking the payment drops a sale of the session. -/
theorem salesSince_mark (hget : s.payments.get? k = some payment)
    (hnot : countsAsSale ctx openedAt payment = false) :
    salesSince (markRefunded s k) ctx openedAt = salesSince s ctx openedAt := by
  simp only [salesSince, markRefunded, Table.sumWhere_eq_total]
  rw [Table.total_update hget, hnot]
  simp [countsAsSale]

-- ---
-- One event
-- ---

/-- A refund of `amount` completes the refunds of a sale that counts towards a
session opened at `openedAt`. -/
def completesSale (s : Store) (ctx : BranchContext) (openedAt : Time) (paymentId : Id)
    (amount : Cents) (payment : Payment) : Bool :=
  decide (payment.amount ≤ completedRefunds s paymentId + amount) &&
    countsAsSale ctx openedAt payment

/-- Sales are paid exactly; refunds are of cash payments, were asked for in the
session, and do not complete the refunds of one of its sales. -/
def neutral (ctx : BranchContext) (openedAt : Time) (s : Store) : DrawerEvent → Prop
  | .sale orderId dto =>
    ∀ order ∈ s.findOrder ctx orderId, alreadyPaid s orderId + tendered dto.payments ≤ order.total
  | .createRefund _ dto =>
    ∀ payment ∈ s.payments.get? dto.paymentId, payment.method = .cash ∧
      (autoApproves s ctx dto = true →
        completesSale s ctx openedAt dto.paymentId dto.amount payment = false)
  | .approveRefund _ refundId _ =>
    ∀ refund ∈ s.refunds.get? refundId, openedAt ≤ refund.createdAt ∧
      (s.payments.get? refund.paymentId).any (·.method == .cash) = true ∧
      ∀ payment ∈ s.payments.get? refund.paymentId,
        completesSale s ctx openedAt refund.paymentId refund.amount payment = false
  | _ => True

instance : Decidable (neutral ctx openedAt s e) :=
  match e with
  | .sale .. => inferInstanceAs (Decidable (∀ order ∈ s.findOrder ctx _, _))
  | .createRefund .. => inferInstanceAs (Decidable (∀ payment ∈ s.payments.get? _, _))
  | .approveRefund .. => inferInstanceAs (Decidable (∀ refund ∈ s.refunds.get? _, _))
  | .safeDrop .. | .movement .. => .isTrue trivial

theorem salesSince_checkAndMark {s : Store}
    (h : ∀ payment, s.payments.get? k = some payment → payment.amount ≤ completedRefunds s k →
      countsAsSale ctx openedAt payment = false) :
    salesSince (checkAndMarkPaymentRefunded s k) ctx openedAt = salesSince s ctx openedAt := by
  unfold checkAndMarkPaymentRefunded
  cases hget : s.payments.get? k with
  | none => rfl
  | some payment =>
    simp only
    split
    · rename_i hall
      exact salesSince_mark hget (h payment hget hall)
    · rfl

/-- Cash moved into the till less cash moved out, by its movements. -/
def movementNet (s : Store) (tillId : Id) : Cents :=
  movementSum s tillId .paidIn - movementSum s tillId .safeDrop - movementSum s tillId .cashPickup
    - movementSum s tillId .refundPayout - movementSum s tillId .paidOut

theorem movementNet_insert {movement : CashMovement} (htill : movement.tillSessionId = tillId)
    (ht : t.cashMovements = s.cashMovements.insert movement) :
    movementNet t tillId = movementNet s tillId +
      (putsIn movement.type movement.amount - takesOut movement.type movement.amount) := by
  simp only [movementNet, movementSum, ht, Table.sumWhere_eq_total, Table.total_insert, htill,
    putsIn, takesOut]
  cases htype : movement.type <;> simp <;> ring

/-- The session is open, and what counts towards its cash is the cash received
less the cash handed out. -/
structure Tracked (ctx : BranchContext) (tillId : Id) (openedAt : Time) (d : Drawer) : Prop where
  till : ∃ till, d.store.tillSessions.get? tillId = some till ∧ till.openedAt = openedAt ∧
    till.closedAt = none
  since : openedAt ≤ d.store.clock
  dated : Dated d.store
  cash : salesSince d.store ctx openedAt +
    movementNet d.store tillId - refundsSince d.store ctx openedAt =
    d.received - d.handedOut

theorem Tracked.expectedCash (h : Tracked ctx tillId openedAt d) :
    computeExpectedCash d.store tillId float ctx = float + d.received - d.handedOut := by
  obtain ⟨till, hget, rfl, hopen⟩ := h.till
  have hcash := h.cash
  simp only [movementNet] at hcash
  simp only [computeExpectedCash, hget, hopen, Option.getD_none, cashSales_eq h.dated,
    refundCashOut_eq h.dated]
  linarith

theorem Tracked.tick (h : Tracked ctx tillId openedAt d) (wait : Nat) :
    Tracked ctx tillId openedAt (d.tick wait) := by
  have hlater : d.store.clock ≤ (d.tick wait).store.clock := Nat.le_of_lt (tick_clock _ _)
  exact ⟨h.till, h.since.trans hlater,
    ⟨fun k payment hget => (h.dated.payments k payment hget).trans hlater,
      fun k refund hget => (h.dated.refunds k refund hget).trans hlater⟩, h.cash⟩

theorem Dated.record {tender : List CloseOrderPaymentDto} (h : Dated s) :
    Dated (recordPayments s ctx orderId tender) := by
  rw [recordPayments_eq]
  refine ⟨fun k payment hget => ?_, h.refunds⟩
  simp only at hget
  rcases Table.get?_foldl_insert hget with hold | hnew
  · exact h.payments k payment hold
  · obtain ⟨p, _, rfl⟩ := List.mem_map.mp hnew
    exact Nat.le_refl _

theorem Dated.insertRefund (h : Dated s) : Dated (insertRefund s ctx orderId dto autoApprove) := by
  refine ⟨h.payments, fun k refund hget => ?_⟩
  simp only [RefundsService.insertRefund, Table.get?_insert] at hget
  split at hget
  · cases hget
    exact Nat.le_refl _
  · exact h.refunds k refund hget

theorem Dated.completeRefund (h : Dated s) : Dated (completeRefund s refundId) := by
  refine ⟨h.payments, fun k refund hget => ?_⟩
  simp only [RefundsService.completeRefund, Table.get?_update] at hget
  split at hget
  · obtain ⟨old, hold, rfl⟩ := Option.map_eq_some_iff.mp hget
    exact h.refunds k old hold
  · exact h.refunds k refund hget

theorem Dated.checkAndMark (h : Dated s) : Dated (checkAndMarkPaymentRefunded s paymentId) := by
  rcases checkAndMark_cases s paymentId with hsame | hmark
  · rw [hsame]
    exact h
  · rw [hmark]
    refine ⟨fun k payment hget => ?_, h.refunds⟩
    simp only [markRefunded, Table.get?_update] at hget
    split at hget
    · obtain ⟨old, hold, rfl⟩ := Option.map_eq_some_iff.mp hget
      exact h.payments k old hold
    · exact h.payments k payment hget

theorem Tracked.failed {t : Store} (h : Tracked ctx tillId openedAt d) (ht : t = d.store) :
    Tracked ctx tillId openedAt { d with store := t } := by
  subst ht
  exact h

/-- What an event does to the three sums is what it does to the cash. -/
theorem Tracked.change {t : Store} (h : Tracked ctx tillId openedAt d)
    (htill : ∀ till, d.store.tillSessions.get? tillId = some till → ∃ till',
      t.tillSessions.get? tillId = some till' ∧ till'.openedAt = till.openedAt ∧
        till'.closedAt = till.closedAt)
    (hclock : t.clock = d.store.clock) (hdated : Dated t)
    (hsales : salesSince t ctx openedAt = salesSince d.store ctx openedAt + sales)
    (hmoves : movementNet t tillId = movementNet d.store tillId + moved)
    (hrefunds : refundsSince t ctx openedAt = refundsSince d.store ctx openedAt + refunded)
    (hcash : sales + moved - refunded = received - handedOut) :
    Tracked ctx tillId openedAt ⟨t, d.received + received, d.handedOut + handedOut⟩ := by
  obtain ⟨till, hget, hopened, hclosed⟩ := h.till
  obtain ⟨till', hget', hopened', hclosed'⟩ := htill till hget
  refine ⟨⟨till', hget', hopened'.trans hopened, hclosed'.trans hclosed⟩, ?_, hdated, ?_⟩
  · rw [hclock]
    exact h.since
  · have hbefore := h.cash
    rw [hsales, hmoves, hrefunds]
    linarith

theorem Tracked.sale (h : Tracked ctx tillId openedAt d)
    (hneutral : neutral ctx openedAt d.store (.sale orderId dto)) :
    Tracked ctx tillId openedAt (d.step bcrypt ctx tillId (.sale orderId dto)) := by
  simp only [Drawer.step, Drawer.after]
  cases hcall : closeOrderWithPayment ctx orderId dto d.store with
  | error e t => exact h.failed (closeOrderWithPayment_atomic _ _ _ hcall)
  | ok receipt t =>
    obtain ⟨order, hfind, _, hcovered, rfl⟩ := closeOrderWithPayment_ok hcall
    obtain ⟨_, htotal, hchange, _⟩ := closeOrderWithPayment_receipt hcall hfind
    have hnone : receipt.changeDue = 0 := by
      rw [hchange, htotal]
      exact sub_eq_zero.mpr (le_antisymm (hneutral order hfind) hcovered)
    have hsales := salesSince_record d.store ctx orderId dto.payments h.since
    have hdated : Dated (recordPayments d.store ctx orderId dto.payments) := h.dated.record
    rw [recordPayments_eq] at hsales hdated ⊢
    refine h.change (fun till hget => ⟨till, hget, rfl, rfl⟩) rfl ⟨hdated.payments, hdated.refunds⟩
      hsales (add_zero _).symm (add_zero _).symm ?_
    rw [hnone]
    ring

theorem Tracked.createRefund (h : Tracked ctx tillId openedAt d)
    (hneutral : neutral ctx openedAt d.store (.createRefund orderId dto)) :
    Tracked ctx tillId openedAt (d.step bcrypt ctx tillId (.createRefund orderId dto)) := by
  simp only [Drawer.step, Drawer.after]
  cases hcall : RefundsService.createRefund ctx orderId dto d.store with
  | error e t => exact h.failed (createRefund_atomic _ _ _ hcall)
  | ok u t =>
    obtain ⟨order, payment, _, _, hpayment, _, rfl⟩ := createRefund_ok hcall
    have hrefunds := refundsSince_insert d.store ctx orderId dto (autoApproves d.store ctx dto)
        h.since
    cases hauto : autoApproves d.store ctx dto with
    | false =>
      simp only [refundedStore, hauto, Bool.false_eq_true, if_false] at hrefunds ⊢
      have hdated : Dated (insertRefund d.store ctx orderId dto false) := h.dated.insertRefund
      exact h.change (fun till hget => ⟨till, hget, rfl, rfl⟩) rfl ⟨hdated.payments, hdated.refunds⟩
        (add_zero _).symm (add_zero _).symm hrefunds (by ring)
    | true =>
      have hget := (findPayment_iff.mp hpayment).1
      have hcash : Drawer.refundedInCash d.store dto.paymentId dto.amount = dto.amount := by
        simp [Drawer.refundedInCash, hget, (hneutral payment hget).1]
      simp only [refundedStore, hauto, if_true, hcash] at hrefunds ⊢
      have hdated : Dated (insertRefund d.store ctx orderId dto true) := h.dated.insertRefund
      have hsales : salesSince
          (checkAndMarkPaymentRefunded (insertRefund d.store ctx orderId dto true)
          dto.paymentId) ctx openedAt = salesSince d.store ctx openedAt := by
        refine salesSince_checkAndMark fun row hrow hall => ?_
        rw [completedRefunds_insert, if_pos ⟨rfl, rfl⟩] at hall
        have hnot := (hneutral row hrow).2 hauto
        rw [completesSale, decide_eq_true hall] at hnot
        exact hnot
      obtain ⟨payments, hrest⟩ :=
        checkAndMark_rest (insertRefund d.store ctx orderId dto true) dto.paymentId
      have hafter : Dated
          (checkAndMarkPaymentRefunded (insertRefund d.store ctx orderId dto true) dto.paymentId) :=
        hdated.checkAndMark
      rw [hrest] at hsales hafter ⊢
      exact h.change (fun till hget => ⟨till, hget, rfl, rfl⟩) rfl hafter
        (hsales.trans (add_zero _).symm) (add_zero _).symm hrefunds (by ring)

theorem Tracked.approveRefund (h : Tracked ctx tillId openedAt d)
    (hneutral : neutral ctx openedAt d.store (.approveRefund userId refundId dto)) :
    Tracked ctx tillId openedAt
      (d.step bcrypt ctx tillId (.approveRefund userId refundId dto)) := by
  simp only [Drawer.step, Drawer.after]
  cases hcall : RefundsService.approveRefund bcrypt userId ctx refundId dto d.store with
  | error e t => exact h.failed (approveRefund_atomic _ _ _ hcall)
  | ok u t =>
    obtain ⟨refund, hfind, hpending, rfl⟩ := approveRefund_ok hcall
    obtain ⟨hget, hbranch, horg⟩ := findRefund_iff.mp hfind
    obtain ⟨hsince, hmethod, hpayment⟩ := hneutral refund hget
    have hcash : Drawer.refundedInCash d.store refund.paymentId refund.amount = refund.amount :=
      if_pos hmethod
    have hrefunds := refundsSince_complete hget hpending hbranch horg hsince
    have hdated : Dated (completeRefund d.store refundId) := h.dated.completeRefund
    have hsales : salesSince (checkAndMarkPaymentRefunded (completeRefund d.store refundId)
        refund.paymentId) ctx openedAt = salesSince d.store ctx openedAt := by
      refine salesSince_checkAndMark fun row hrow hall => ?_
      rw [completedRefunds_complete_own hget hpending] at hall
      have hnot := hpayment row hrow
      rw [completesSale, decide_eq_true hall] at hnot
      exact hnot
    obtain ⟨payments, hrest⟩ := checkAndMark_rest (completeRefund d.store refundId) refund.paymentId
    have hafter : Dated
        (checkAndMarkPaymentRefunded (completeRefund d.store refundId) refund.paymentId) :=
      hdated.checkAndMark
    rw [hrest] at hsales hafter ⊢
    simp only [hget, hcash]
    exact h.change (fun till hget => ⟨till, hget, rfl, rfl⟩) rfl hafter
      (hsales.trans (add_zero _).symm) (add_zero _).symm hrefunds (by ring)

theorem Tracked.safeDrop (h : Tracked ctx tillId openedAt d) :
    Tracked ctx tillId openedAt (d.step bcrypt ctx tillId (.safeDrop dto)) := by
  simp only [Drawer.step, Drawer.after]
  cases hcall : TillsService.safeDrop tillId ctx dto d.store with
  | error e t => exact h.failed (safeDrop_atomic _ _ _ hcall)
  | ok u t =>
    obtain ⟨till, _, _, rfl⟩ := safeDrop_ok hcall
    refine h.change ?_ rfl ⟨h.dated.payments, h.dated.refunds⟩ (add_zero _).symm
      (movementNet_insert rfl rfl) (add_zero _).symm ?_
    · intro row hrow
      refine ⟨{ row with expectedCash := row.expectedCash - dto.amount }, ?_, rfl, rfl⟩
      simp only [Table.get?_update_self, hrow, Option.map_some]
    · simp [putsIn, takesOut]

theorem Tracked.movement (h : Tracked ctx tillId openedAt d) :
    Tracked ctx tillId openedAt (d.step bcrypt ctx tillId (.movement shiftId type amount)) :=
  h.change (fun till hget => ⟨till, hget, rfl, rfl⟩) rfl ⟨h.dated.payments, h.dated.refunds⟩
    (add_zero _).symm (movementNet_insert rfl rfl) (add_zero _).symm (by simp)

theorem Tracked.step (h : Tracked ctx tillId openedAt d)
    (hneutral : neutral ctx openedAt d.store e) :
    Tracked ctx tillId openedAt (d.step bcrypt ctx tillId e) := by
  cases e with
  | sale orderId dto => exact h.sale hneutral
  | createRefund orderId dto => exact h.createRefund hneutral
  | approveRefund userId refundId dto => exact h.approveRefund hneutral
  | safeDrop dto => exact h.safeDrop
  | movement shiftId type amount => exact h.movement

-- ---
-- Runs
-- ---

/-- Before a session opens: what is recorded is older, and no movement names it. -/
structure Quiet (s : Store) : Prop where
  payments : ∀ k payment, s.payments.get? k = some payment → payment.createdAt < s.clock
  refunds : ∀ k refund, s.refunds.get? k = some refund → refund.createdAt < s.clock
  movements : ∀ k movement, s.cashMovements.get? k = some movement →
    movement.tillSessionId < s.tillSessions.next

theorem Tracked.opened (hquiet : Quiet s₀) (hopen : openTill userId ctx dto s₀ = .ok u s) :
    Tracked ctx s₀.tillSessions.next s₀.clock { store := s } := by
  simp only [openTill, bind_ok, get_ok, need_ok, ensure_ok, modify_ok] at hopen
  obtain ⟨_, _, ⟨rfl, rfl⟩, shift, _, ⟨_, rfl⟩, _, _, ⟨_, rfl⟩, rfl⟩ := hopen
  refine ⟨⟨_, Table.get?_insert_self _ _, rfl, rfl⟩, Nat.le_refl _, ?_, ?_⟩
  · exact ⟨fun k payment hget => Nat.le_of_lt (hquiet.payments k payment hget),
      fun k refund hget => Nat.le_of_lt (hquiet.refunds k refund hget)⟩
  · have hsales : salesSince s₀ ctx s₀.clock = 0 := by
      rw [salesSince, Table.sumWhere_eq_total]
      refine Table.total_zero fun k payment hget => ?_
      simp [countsAsSale, Nat.not_le.mpr (hquiet.payments k payment hget)]
    have hrefunds : refundsSince s₀ ctx s₀.clock = 0 := by
      rw [refundsSince, Table.sumWhere_eq_total]
      refine Table.total_zero fun k refund hget => ?_
      simp [countsAsRefund, Nat.not_le.mpr (hquiet.refunds k refund hget)]
    have hsum (type : CashMovementType) : movementSum s₀ s₀.tillSessions.next type = 0 := by
      rw [movementSum, Table.sumWhere_eq_total]
      refine Table.total_zero fun k movement hget => ?_
      simp [Nat.ne_of_lt (hquiet.movements k movement hget)]
    have hnet : movementNet s₀ s₀.tillSessions.next = 0 := by simp [movementNet, hsum]
    let float : CashMovement :=
      { orgId := ctx.organizationId, branchId := ctx.branchId, tillSessionId := s₀.tillSessions.next
        shiftId := some shift.1, type := .openingFloat, amount := dto.openingFloat }
    have hmoves {t : Store} (ht : t.cashMovements = s₀.cashMovements.insert float) :
        movementNet t s₀.tillSessions.next = 0 := by
      rw [movementNet_insert rfl ht, hnet]
      simp [float, putsIn, takesOut]
    show salesSince s₀ ctx s₀.clock + movementNet _ _ - refundsSince s₀ ctx s₀.clock = 0 - 0
    rw [hsales, hrefunds, hmoves rfl]
    rfl

/-- The events of a turn leave the difference of expected and actual cash. -/
def neutralTurn (ctx : BranchContext) (openedAt : Time) (d : Drawer) (t : DrawerTurn) : Prop :=
  neutral ctx openedAt (d.tick t.wait).store t.event

instance : Decidable (neutralTurn ctx openedAt d t) := inferInstanceAs (Decidable (neutral _ _ _ _))

/-- From the opening of a till on, its expected cash is the float and the cash
received less the cash handed out, in every run whose events are neutral. -/
theorem run_expectedCash (hquiet : Quiet s₀) (hopen : openTill userId ctx dto s₀ = .ok u s)
    (h : Run (drawerTurn bcrypt ctx s₀.tillSessions.next) (neutralTurn ctx s₀.clock) { store := s }
      turns d) :
    computeExpectedCash d.store s₀.tillSessions.next dto.openingFloat ctx =
      dto.openingFloat + d.received - d.handedOut := by
  have hrun : Tracked ctx s₀.tillSessions.next s₀.clock d :=
    h.invariant (Tracked.opened hquiet hopen) fun d t hd hok => (hd.tick t.wait).step hok
  exact hrun.expectedCash

/-- The branch with a shift and a served order of 10.00. -/
def opening : Store :=
  (System.after (· == ·) System.cafe
    (⟨.drawer (.openShift 0 ⟨0, 0⟩), 0⟩ :: System.servedOrder)).tick 0

theorem float_nonneg : (0 : Cents) ≤ 5000 := by decide

def withFloat : OpenTillDto := ⟨"T1", 5000, float_nonneg⟩

def opened : Store := final (openTill 0 ⟨0, 0⟩ withFloat opening)

def cashSale (amount : Cents) (h : 1 ≤ amount) : DrawerTurn :=
  ⟨.sale 0 ⟨[{ method := .cash, amount, amount_pos := h }], by simp⟩, 0⟩

def cashRefund (amount : Cents) (h : 1 ≤ amount) : DrawerTurn := ⟨.createRefund 0 ⟨0, amount, h⟩, 0⟩

theorem quiet_opening : Quiet opening := by
  have hnone : opening.payments.rows = [] ∧ opening.refunds.rows = [] ∧
    opening.cashMovements.rows = [] := by decide
  refine ⟨fun k payment hget => ?_, fun k refund hget => ?_, fun k movement hget => ?_⟩
  · rw [Table.get?_iff, hnone.1] at hget
    cases hget
  · rw [Table.get?_iff, hnone.2.1] at hget
    cases hget
  · rw [Table.get?_iff, hnone.2.2] at hget
    cases hget

theorem openTill_opened : openTill 0 ⟨0, 0⟩ withFloat opening = .ok () opened := by
  have hreturned : returned (openTill 0 ⟨0, 0⟩ withFloat opening) = true := by decide
  obtain ⟨u, hok⟩ := ok_of_returned hreturned
  exact hok

theorem run_expectedCash_partial :
    let turns := [cashSale 1000 (by decide), cashRefund 300 (by decide),
      ⟨.safeDrop ⟨2000, by decide⟩, 0⟩, ⟨.movement 0 .paidIn 100, 0⟩]
    let d := turns.foldl (drawerTurn (· == ·) ⟨0, 0⟩ 0) { store := opened }
    computeExpectedCash d.store 0 5000 ⟨0, 0⟩ = 5000 + d.received - d.handedOut := by
  intro turns d
  have hrun : Run (drawerTurn (· == ·) ⟨0, 0⟩ 0) (neutralTurn ⟨0, 0⟩ opening.clock)
      { store := opened }
      turns d := Run.of_holds (by decide)
  exact run_expectedCash quiet_opening openTill_opened hrun

-- ---
-- Sessions that are off
-- ---

/-- Expected cash agrees with the cash in the till, in runs of cash sales, cash
refunds, drops and recorded movements that meet `ok`. -/
def DrawerAgrees (ok : Store → DrawerEvent → Prop) : Prop :=
  ∀ (bcrypt : Bcrypt) (ctx : BranchContext) (s₀ s : Store) (userId : Id) (dto : OpenTillDto)
    (turns : List DrawerTurn) (d : Drawer), Quiet s₀ → openTill userId ctx dto s₀ = .ok () s →
    Run (drawerTurn bcrypt ctx s₀.tillSessions.next)
      (fun d t => ok (d.tick t.wait).store t.event) { store := s } turns d →
    computeExpectedCash d.store s₀.tillSessions.next dto.openingFloat ctx =
      dto.openingFloat + d.received - d.handedOut

/-- Tenders and refunded payments are in cash. -/
def inCash (s : Store) : DrawerEvent → Bool
  | .sale _ dto => dto.payments.all (·.method == .cash)
  | .createRefund _ dto => (s.payments.get? dto.paymentId).all (·.method == .cash)
  | .approveRefund _ refundId _ => (s.refunds.get? refundId).all fun refund =>
    (s.payments.get? refund.paymentId).all (·.method == .cash)
  | _ => true

def isSale : DrawerEvent → Bool
  | .sale .. => true
  | _ => false

/-- A sale of 10.00 that is fully refunded leaves 10.00 too little; a sale for
which 5.00 change is given leaves 5.00 too much. -/
theorem expectedCash_off :
    ¬DrawerAgrees (fun s e => inCash s e = true) ∧
      ¬DrawerAgrees (fun s e => inCash s e = true ∧ isSale e = true) := by
  constructor
  · intro h
    let turns := [cashSale 1000 (by decide), cashRefund 1000 (by decide)]
    have hrun := h (· == ·) ⟨0, 0⟩ opening opened 0 withFloat turns _ quiet_opening openTill_opened
      (Run.of_holds (by decide))
    exact absurd hrun (by decide)
  · intro h
    let turns := [cashSale 1500 (by decide)]
    have hrun := h (· == ·) ⟨0, 0⟩ opening opened 0 withFloat turns _ quiet_opening openTill_opened
      (Run.of_holds (by decide))
    exact absurd hrun (by decide)

end NimbusPos.TillsService
