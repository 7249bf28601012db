import NimbusPos.Leaving

/-!
# What was paid for a closed order

Every path that closes an order checks that completed payments cover its total,
save `OrdersService.closeOrder`. Payments are never withdrawn afterwards, but a
refund turns them from completed into refunded, and the total of a closed order
stays as it was.
-/

namespace NimbusPos

open Lib Lib.Service
open OrdersService DiscountsService PosHandoffService PaymentsService RefundsService

variable {s t : Store}

-- ---
-- Refunds come after the close
-- ---

/-- The refund names a payment of an order that has ended. -/
def Refundable (s : Store) (paymentId : Id) : Prop :=
  ∃ payment, s.payments.get? paymentId = some payment ∧ Ended s payment.orderId

/-- Refunds, and payments that were refunded, belong to orders that have ended. -/
structure RefundsLate (s : Store) : Prop where
  billed : Billed s
  payments : ∀ k payment, s.payments.get? k = some payment → payment.status = .refunded →
    Ended s payment.orderId
  refunds : ∀ k refund, s.refunds.get? k = some refund → Refundable s refund.paymentId

theorem refundable_of_find (hfind : s.findOrder ctx orderId = some order)
    (hclosed : order.status = .closed)
    (hpayment : RefundsService.findPayment s ctx orderId paymentId = some payment) :
    Refundable s paymentId := by
  obtain ⟨hget, horder, _⟩ := findPayment_iff.mp hpayment
  exact ⟨payment, hget, order, horder ▸ (findOrder_get hfind).1, hclosed ▸ rfl⟩

theorem checkAndMark_refunds : (checkAndMarkPaymentRefunded s paymentId).refunds = s.refunds := by
  rcases checkAndMark_cases s paymentId with h | h <;> rw [h]
  rfl

theorem refundedStore_refunds : (refundedStore s ctx orderId dto).refunds =
    s.refunds.insert (requestedRefund s ctx orderId dto
      (RefundsService.autoApproves s ctx dto)) := by
  unfold refundedStore
  split
  · exact checkAndMark_refunds
  · rfl

/-- What a refund keeps. -/
def Refund.subject (refund : Refund) : Id × Id × Id :=
  (refund.paymentId, refund.orderId, refund.branchId)

/-- The payment of a refund is one of its order, in its branch. -/
def Subject (s : Store) (refund : Refund) : Prop :=
  ∃ payment, s.payments.get? refund.paymentId = some payment ∧
    payment.orderId = refund.orderId ∧ payment.branchId = refund.branchId

/-- A refund is requested for a payment of an ended order, and keeps it. -/
theorem Effect.refunds (h : Effect s call t) (hget' : t.refunds.get? k = some refund') :
    (∃ refund, s.refunds.get? k = some refund ∧ refund'.subject = refund.subject) ∨
      Refundable s refund'.paymentId ∧ Subject s refund' := by
  have hsame (heq : t.refunds = s.refunds) : (∃ refund, s.refunds.get? k = some refund ∧
      refund'.subject = refund.subject) ∨ Refundable s refund'.paymentId ∧ Subject s refund' :=
    .inl ⟨refund', heq ▸ hget', rfl⟩
  cases h with
  | advance => exact hsame ((of_books Store.refunds (fun _ => rfl) advanceOrder_books).trans rfl)
  | close => exact hsame ((of_books Store.refunds (fun _ => rfl) closedOrder_books).trans rfl)
  | void => exact hsame ((of_books Store.refunds (fun _ => rfl) voidedOrder_books).trans rfl)
  | requestPending =>
    refine hsame ?_
    obtain ⟨_, h⟩ := flagHeavyDiscount_rest _ _
    rw [h]
  | closeOrderWithPayment =>
    refine hsame ?_
    rw [recordPayments_eq]
    rfl
  | manualPayment | webhookPaid =>
    refine hsame ?_
    obtain ⟨_, h⟩ := paidStore_rest _ _ _ _ _
    rw [h]
    rfl
  | createRefund hfind hclosed hpayment =>
    rw [refundedStore_refunds, Table.get?_insert] at hget'
    split at hget'
    · cases hget'
      obtain ⟨hget, horder, hbranch, -⟩ := findPayment_iff.mp hpayment
      exact .inr ⟨refundable_of_find hfind hclosed hpayment, _, hget, horder, hbranch⟩
    · exact .inl ⟨refund', hget', rfl⟩
  | approveRefund =>
    rw [checkAndMark_refunds] at hget'
    have hget' : (s.refunds.update _ _).get? k = some refund' := hget'
    rcases Table.update_cases hget' with ⟨-, refund, hget, rfl⟩ | ⟨-, hget'⟩
    · exact .inl ⟨refund, hget, rfl⟩
    · exact .inl ⟨refund', hget', rfl⟩
  | desk hframe => exact hsame (of_books Store.refunds (fun _ => rfl) (deskFrame_books hframe))
  | drawer hframe => exact hsame (by have h := congrArg Store.refunds hframe; exact h)
  | _ => exact hsame rfl

theorem Collects.keeps (h : Collects s call payments) (hget : s.payments.get? k = some payment) :
    ∃ payment', payments.get? k = some payment' ∧ payment'.orderId = payment.orderId ∧
      payment'.branchId = payment.branchId := by
  cases h with
  | same => exact ⟨payment, hget, rfl, rfl⟩
  | refunded _ p =>
    rw [Table.get?_updateWhere, hget]
    refine ⟨_, rfl, ?_⟩
    simp only
    split <;> exact ⟨rfl, rfl⟩
  | taken new => exact ⟨payment, Table.get?_foldl_insert_of_some hget, rfl, rfl⟩

/-- Calls other than those about refunds mark no payment. -/
theorem Collects.unmarked (h : Collects s call payments)
    (hcall : ∀ request, call ≠ .refunds request)
    (hget' : payments.get? k = some payment') (hrefunded : payment'.status = .refunded) :
    s.payments.get? k = some payment' := by
  cases h with
  | same => exact hget'
  | refunded request => exact absurd rfl (hcall request)
  | taken new hnew =>
    rcases Table.get?_foldl_insert hget' with hold | hmem
    · exact hold
    · rw [(hnew payment' hmem).2] at hrefunded
      cases hrefunded

theorem checkAndMark_back {r : Store}
    (hget' : (checkAndMarkPaymentRefunded r paymentId).payments.get? k = some payment') :
    ∃ payment, r.payments.get? k = some payment ∧ payment'.orderId = payment.orderId ∧
      (payment'.status = payment.status ∨ k = paymentId) := by
  rcases checkAndMark_cases r paymentId with h | h
  · exact ⟨payment', h ▸ hget', rfl, .inl rfl⟩
  · rw [h, markRefunded, Table.get?_update] at hget'
    split at hget'
    · rename_i hk
      obtain ⟨payment, hget, rfl⟩ := Option.map_eq_some_iff.mp hget'
      exact ⟨payment, hget, rfl, .inr hk⟩
    · exact ⟨payment', hget', rfl, .inl rfl⟩

/-- What is marked is a payment of an order that has ended. -/
theorem RefundsLate.marked {r : Store} (hs : RefundsLate s) (hpayment : Refundable s paymentId)
    (hget' : (checkAndMarkPaymentRefunded r paymentId).payments.get? k = some payment')
    (hrefunded : payment'.status = .refunded) (hr : r.payments = s.payments) :
    Ended s payment'.orderId := by
  obtain ⟨payment, hget, horder, hstatus | rfl⟩ := checkAndMark_back hget'
  · exact horder ▸ hs.payments k payment (hr ▸ hget) (hstatus ▸ hrefunded)
  · obtain ⟨row, hrow, hended⟩ := hpayment
    cases hrow.symm.trans (hr ▸ hget)
    exact horder ▸ hended

theorem Effect.marked (h : Effect s call t) (hs : RefundsLate s)
    (hget' : t.payments.get? k = some payment') (hrefunded : payment'.status = .refunded) :
    Ended s payment'.orderId := by
  by_cases hcall : ∃ request, call = .refunds request
  · obtain ⟨request, rfl⟩ := hcall
    cases h with
    | nothing => exact hs.payments k payment' hget' hrefunded
    | @createRefund ctx orderId _ _ dto hfind hclosed hpayment =>
      rcases refundedStore_cases s ctx orderId dto with ⟨_, ht⟩ | ⟨_, ht⟩
      · rw [ht] at hget'
        exact hs.marked (refundable_of_find hfind hclosed hpayment) hget' hrefunded rfl
      · rw [ht] at hget'
        exact hs.payments k payment' hget' hrefunded
    | approveRefund hrefund =>
      exact hs.marked (hs.refunds _ _ (findRefund_iff.mp hrefund).1) hget' hrefunded rfl
    | @postCloseVoid ctx orderId order _ _ hfind hclosed =>
      have hrows : (s.payments.updateWhere (voidMatches orderId ctx.branchId) fun payment =>
        { payment with status := .refunded }).get? k = some payment' := hget'
      rw [Table.get?_updateWhere, Option.map_eq_some_iff] at hrows
      obtain ⟨payment, hget, rfl⟩ := hrows
      split at hrefunded
      · rename_i hmatch
        simp only [voidMatches, Bool.and_eq_true, beq_iff_eq] at hmatch
        rw [if_pos (by simp [voidMatches, hmatch])]
        exact ⟨order, hmatch.1.1 ▸ (findOrder_get hfind).1, hclosed ▸ rfl⟩
      · rename_i hmatch
        rw [if_neg hmatch]
        exact hs.payments k payment hget hrefunded
  · exact hs.payments k payment'
      ((h.payments hs.billed.intents).unmarked (fun request hc => hcall ⟨request, hc⟩)
      hget' hrefunded) hrefunded

theorem Effect.refundsLate (h : Effect s call t) (hs : RefundsLate s) : RefundsLate t := by
  have hforth {paymentId : Id} (hpayment : Refundable s paymentId) : Refundable t paymentId := by
    obtain ⟨payment, hget, hended⟩ := hpayment
    obtain ⟨payment', hget', horder, -⟩ := (h.payments hs.billed.intents).keeps hget
    exact ⟨payment', hget', horder ▸ hended.forth h⟩
  refine ⟨h.billed hs.billed, ?_, ?_⟩
  · exact fun k payment' hget' hrefunded => (h.marked hs hget' hrefunded).forth h
  intro k refund' hget'
  rcases h.refunds hget' with ⟨refund, hget, hsubject⟩ | ⟨hpayment, -⟩
  · have hpayment : refund'.paymentId = refund.paymentId := congrArg Prod.fst hsubject
    exact hpayment ▸ hforth (hs.refunds k refund hget)
  · exact hforth hpayment

theorem opening_refundsLate (h : System.Opening s) : RefundsLate s := by
  refine ⟨opening_billed h, ?_, ?_⟩
  · intro k payment hget
    rw [h.payments] at hget
    cases hget
  · intro k refund hget
    rw [h.refunds] at hget
    cases hget

theorem RefundsLate.tick (hs : RefundsLate s) (wait : Nat) : RefundsLate (s.tick wait) :=
  ⟨hs.billed.tick wait, hs.payments, hs.refunds⟩

theorem reach_refundsLate (hstart : System.Opening start)
    (h : System.Reach bcrypt ok start events s) : RefundsLate s :=
  h.invariant (opening_refundsLate hstart) (fun _ wait hs => hs.tick wait) fun _ call hs _ =>
    (exec_effect bcrypt _ call).refundsLate hs

/-- Every refund is for a payment of its order, in its branch. -/
def RefundsLinked (s : Store) : Prop :=
  ∀ k refund, s.refunds.get? k = some refund → Subject s refund

theorem Subject.forth {refund : Refund} (h : Effect s call t) (hs : Billed s)
    (hsubject : Subject s refund) : Subject t refund := by
  obtain ⟨payment, hget, horder, hbranch⟩ := hsubject
  obtain ⟨payment', hget', horder', hbranch'⟩ := (h.payments hs.intents).keeps hget
  exact ⟨payment', hget', horder'.trans horder, hbranch'.trans hbranch⟩

theorem Effect.refundsLinked (h : Effect s call t) (hs : Billed s) (hlinked : RefundsLinked s) :
    RefundsLinked t := by
  intro k refund' hget'
  rcases h.refunds hget' with ⟨refund, hget, hsame⟩ | ⟨-, hsubject⟩
  · obtain ⟨payment, hpayment, hplace⟩ := (hlinked k refund hget).forth h hs
    simp only [Refund.subject, Prod.mk.injEq] at hsame
    obtain ⟨hid, horder, hbranch⟩ := hsame
    exact ⟨payment, hid ▸ hpayment, horder ▸ hbranch ▸ hplace⟩
  · exact hsubject.forth h hs

-- ---
-- What was recorded by a moment
-- ---

/-- Payments of an order recorded before payment `cutoff`, completed or refunded
since. -/
def recordedBefore (payments : Table Payment) (orderId cutoff : Id) : Cents :=
  payments.sumWhere (fun k payment => decide (k < cutoff) && payment.orderId == orderId &&
    (payment.status == .completed || payment.status == .refunded)) (·.amount)

theorem Collects.next_le (h : Collects s call payments) : s.payments.next ≤ payments.next := by
  cases h with
  | same | refunded => exact Nat.le_refl _
  | taken new => exact Table.next_le_foldl_insert _ _

/-- Later payments and refunds do not change it. -/
theorem Collects.recordedBefore (h : Collects s call payments) (hs : Billed s)
    (hcutoff : cutoff ≤ s.payments.next) :
    recordedBefore payments orderId cutoff = recordedBefore s.payments orderId cutoff := by
  simp only [NimbusPos.recordedBefore, Table.sumWhere_eq_total]
  cases h with
  | same => rfl
  | refunded _ p =>
    rw [Table.total_updateWhere]
    apply Table.total_congr
    intro k payment hget
    have hsettled := hs.settled k payment hget
    simp only [Bool.and_eq_true, Bool.or_eq_true, beq_iff_eq, decide_eq_true_eq, hsettled, and_true]
    split <;> simp
  | taken new =>
    rw [Table.total_foldl_insert (d := fun _ => 0) fun k hk payment _ => ?_]
    · simp
    · rw [if_neg]
      simp [Nat.not_lt.mpr (Nat.le_trans hcutoff hk)]

/-- When every payment of the order is completed, all of them count. -/
theorem recordedBefore_next
    (h : ∀ k payment, s.payments.get? k = some payment → payment.orderId = orderId →
      payment.status = .completed) :
    recordedBefore s.payments orderId s.payments.next = alreadyPaid s orderId := by
  simp only [recordedBefore, alreadyPaid, Table.sumWhere_eq_total]
  apply Table.total_congr
  intro k payment hget
  by_cases horder : payment.orderId = orderId
  · simp [horder, h k payment hget horder, Table.lt_next hget]
  · simp [horder]

-- ---
-- The step that closes an order
-- ---

theorem RefundsLate.completed (hs : RefundsLate s) (hget : s.orders.get? orderId = some order)
    (hactive : order.status.active = true) (hpayment : s.payments.get? k = some payment)
    (horder : payment.orderId = orderId) : payment.status = .completed := by
  rcases hs.billed.settled k payment hpayment with h | h
  · exact h
  · obtain ⟨row, hrow, hended⟩ := hs.payments k payment hpayment h
    cases hget.symm.trans (horder ▸ hrow)
    simp [hactive] at hended

/-- What a tender covers has been recorded with it. -/
theorem tendered_covers (hs : RefundsLate s) (hget : s.orders.get? orderId = some order)
    (hactive : order.status.active = true) (ctx : BranchContext) (dto : CloseOrderDto) :
    recordedBefore (tenderedStore s ctx orderId dto).payments orderId
      (tenderedStore s ctx orderId dto).payments.next =
        alreadyPaid s orderId + tendered dto.payments := by
  have hrows : (tenderedStore s ctx orderId dto).payments =
      (dto.payments.map (tenderedPayment s ctx orderId)).foldl Table.insert s.payments := by
    rw [tenderedStore, recordPayments_eq]
    rfl
  rw [recordedBefore_next fun k payment hpayment horder => ?_]
  · simp only [alreadyPaid, Table.sumWhere_eq_total]
    rw [hrows, Table.total_foldl_insert (d := (·.amount)) fun k _ payment hmem => ?_]
    · simp only [List.map_map]
      rfl
    · obtain ⟨p, _, rfl⟩ := List.mem_map.mp hmem
      simp [tenderedPayment]
  · rw [hrows] at hpayment
    rcases Table.get?_foldl_insert hpayment with hold | hmem
    · exact hs.completed hget hactive hold horder
    · obtain ⟨p, _, rfl⟩ := List.mem_map.mp hmem
      rfl

/-- An order that settles is covered by what has been recorded for it. -/
theorem settles_covers {payment : Payment} {intents : Table PaymentIntent} (hs : RefundsLate s)
    (hstatus : payment.status = .completed) (hplace : payment.branchId = branchId)
    (hget : s.orders.get? orderId = some order)
    (hsettles : settles (s.withPayment intents payment) orderId branchId) :
    order.total ≤ recordedBefore (s.payments.insert payment) orderId
      (s.payments.insert payment).next := by
  obtain ⟨row, hfind, hactive, hcovered⟩ := hsettles
  obtain ⟨hrow, hbranch⟩ := findOrderInBranch_iff.mp hfind
  cases hget.symm.trans hrow
  have hrows {k : Id} {row : Payment} (hk : (s.payments.insert payment).get? k = some row) :
      s.payments.get? k = some row ∨ row = payment := by
    rcases Table.insert_cases hk with ⟨-, rfl⟩ | hk
    · exact .inr rfl
    · exact .inl hk
  have hall : recordedBefore (s.withPayment intents payment).payments orderId
      (s.withPayment intents payment).payments.next = _ :=
        recordedBefore_next fun k row hk horder => ?_
  · rw [Store.withPayment] at hall
    rw [hall]
    refine hcovered.trans (Int.le_of_eq ?_)
    simp only [totalPaid, alreadyPaid, Table.sumWhere_eq_total]
    apply Table.total_congr
    intro k row hk
    by_cases horder : row.orderId = orderId
    · have hthere : row.branchId = branchId := by
        rcases hrows hk with hold | rfl
        · obtain ⟨at_, hat, hsame⟩ := hs.billed.payments k row hold
          cases hget.symm.trans (horder ▸ hat)
          exact hsame.symm.trans hbranch
        · exact hplace
      simp [hthere]
    · simp [horder]
  · rcases hrows hk with hold | rfl
    · exact hs.completed hget hactive hold horder
    · exact hstatus

/-- The order that a call closes without asking for a payment. -/
def Call.closesUnpaid : Call → Option Id
  | .orders (.closeOrder _ orderId _) => some orderId
  | _ => none

theorem Leaves.covers (h : Leaves s call k order t) (hs : RefundsLate s)
    (hget : s.orders.get? k = some order) (hactive : order.status.active = true)
    (hget' : t.orders.get? k = some order') (hclosed : order'.status = .closed) :
    call.closesUnpaid = some k ∨ order.total ≤ recordedBefore t.payments k t.payments.next := by
  cases h with
  | closeOrder => exact .inl rfl
  | voidOrder =>
    rw [of_books Store.orders (fun _ => rfl) voidedOrder_books] at hget'
    have hrow := updateOrder_get.symm.trans hget'
    rw [if_pos rfl, hget] at hrow
    cases hrow
    cases hclosed
  | closeOrderWithPayment _ _ hcovered =>
    rw [tendered_covers hs hget hactive]
    exact .inr hcovered
  | manualPayment _ _ hsettles => exact .inr (settles_covers hs rfl rfl hget hsettles)
  | webhookPaid _ _ _ _ _ _ hsettles => exact .inr (settles_covers hs rfl rfl hget hsettles)
  | mergeOrders =>
    rw [mergedStore_get, hget, Option.map_some, if_pos rfl] at hget'
    cases hget'
    cases hclosed

-- ---
-- Runs
-- ---

/-- A call of the history closed the order and asked for no payment. -/
def ClosedUnpaid (bcrypt : Bcrypt) (start : Store) (events : List Event) (orderId : Id) : Prop :=
  ∃ before e later, events = before ++ e :: later ∧ e.call.closesUnpaid = some orderId ∧
    ((System.after bcrypt start before).orders.get? orderId).any (·.status.active) = true ∧
    ((System.after bcrypt start (before ++ [e])).orders.get? orderId).any (·.status == .closed) =
      true

theorem ClosedUnpaid.snoc (h : ClosedUnpaid bcrypt start events orderId) (e : Event) :
    ClosedUnpaid bcrypt start (events ++ [e]) orderId := by
  obtain ⟨before, closing, later, rfl, hcall, hactive, hclosed⟩ := h
  exact ⟨before, closing, later ++ [e], by simp, hcall, hactive, hclosed⟩

/-- In every reachable store a closed order was closed without asking for a
payment, or what was recorded for it by its close covers its total. -/
theorem reach_closed_covered (hstart : System.Opening start)
    (h : System.Reach bcrypt ok start events s) (hget : s.orders.get? k = some order)
    (hclosed : order.status = .closed) :
    ClosedUnpaid bcrypt start events k ∨
      ∃ cutoff, cutoff ≤ s.payments.next ∧ order.total ≤ recordedBefore s.payments k cutoff := by
  unfold System.Reach at h
  induction h generalizing order with
  | nil =>
    rw [hstart.orders] at hget
    cases hget
  | @snoc events s e hrun hok ih =>
    have hlate : RefundsLate (s.tick e.wait) := (reach_refundsLate hstart hrun).tick e.wait
    have heffect := exec_effect bcrypt (s.tick e.wait) e.call
    have hrows := heffect.payments hlate.billed.intents
    obtain hnew | ⟨old, hold, hcourse⟩ := heffect.course_back hget
    · exact absurd (hnew.symm.trans hclosed) (by decide)
    cases hcourse with
    | active _ hactive => simp [hclosed, OrderStatus.active] at hactive
    | kept _ hstatus htotal =>
      rcases ih hold (hstatus ▸ hclosed) with hunpaid | ⟨cutoff, hle, hcovered⟩
      · exact .inl (hunpaid.snoc e)
      · refine .inr ⟨cutoff, ?_, ?_⟩
        · exact Nat.le_trans hle hrows.next_le
        · rw [htotal]
          exact hcovered.trans (Int.le_of_eq (hrows.recordedBefore hlate.billed hle).symm)
    | left hleaves hactive _ _ htotal =>
      rw [htotal hclosed]
      rcases hleaves.covers hlate hold hactive hget hclosed with hcall | hcovered
      · refine .inl ⟨events, e, [], rfl, hcall, ?_, ?_⟩
        · have hs : System.after bcrypt start events = s := hrun.eq_foldl.symm
          have hold : s.orders.get? k = some old := hold
          rw [hs, hold]
          exact hactive
        · have ht : System.after bcrypt start (events ++ [e]) = System.step bcrypt s e :=
            (hrun.snoc hok).eq_foldl.symm
          rw [ht, hget]
          simp [hclosed]
      · exact .inr ⟨_, Nat.le_refl _, hcovered⟩
    | voided _ hvoided => exact absurd (hvoided.symm.trans hclosed) (by decide)

-- ---
-- Closed orders without completed payments
-- ---

def closedUnpaid : List Event := System.servedOrder ++ [⟨.orders (.closeOrder ⟨0, 0⟩ 0 {}), 0⟩]

def paidAndRefunded : List Event :=
  System.paidOrder ++ [⟨.refunds (.createRefund ⟨0, 0⟩ 0 ⟨0, 1000, System.some_cents⟩), 0⟩]

theorem reach_closed_covered_paid :
    let s := System.after (· == ·) System.cafe System.paidOrder
    ∃ order, s.orders.get? 0 = some order ∧ order.status = .closed ∧
      (ClosedUnpaid (· == ·) System.cafe System.paidOrder 0 ∨
        ∃ cutoff, cutoff ≤ s.payments.next ∧ order.total ≤ recordedBefore s.payments 0 cutoff) := by
  intro s
  have hclosed : (s.orders.get? 0).any (·.status == .closed) = true := by decide
  obtain ⟨order, hget, hrow⟩ := (Option.any_eq_true _ _).mp hclosed
  have hstatus := beq_iff_eq.mp hrow
  have hreach := System.reach_after (· == ·) System.cafe System.paidOrder
  exact ⟨order, hget, hstatus, reach_closed_covered System.cafe_opening hreach hget hstatus⟩

/-- The completed payments of a closed order cover its total, in the runs whose
calls meet `ok`. -/
def ClosedIsPaid (ok : Store → Call → Prop) : Prop :=
  ∀ (bcrypt : Bcrypt) (start : Store) (events : List Event) (s : Store) (k : Id) (order : Order),
    System.Opening start → System.Reach bcrypt ok start events s → s.orders.get? k = some order →
    order.status = .closed → order.total ≤ alreadyPaid s k

/-- They do not once `OrdersService.closeOrder` is called, nor in runs without
it, once a payment is refunded. -/
theorem closed_order_not_paid : ¬ClosedIsPaid (fun _ _ => True) ∧
    ¬ClosedIsPaid (fun _ call => call.closesUnpaid = none) := by
  constructor
  · intro h
    let s := System.after (· == ·) System.cafe closedUnpaid
    have hreach := System.reach_after (· == ·) System.cafe closedUnpaid
    have hbad : (s.orders.get? 0).any (fun order => order.status == .closed &&
      decide (alreadyPaid s 0 < order.total)) = true := by decide
    obtain ⟨order, hget, hrow⟩ := (Option.any_eq_true _ _).mp hbad
    simp only [Bool.and_eq_true, beq_iff_eq, decide_eq_true_eq] at hrow
    exact absurd (h _ _ _ s 0 order System.cafe_opening hreach hget hrow.1) (Int.not_le.mpr hrow.2)
  · intro h
    let s := System.after (· == ·) System.cafe paidAndRefunded
    have hnone : paidAndRefunded.all (·.call.closesUnpaid == none) = true := by decide
    have hreach : System.Reach (· == ·) (fun _ call => call.closesUnpaid = none) System.cafe
        paidAndRefunded s := by
      refine Run.of_all fun before e later hsplit => ?_
      exact beq_iff_eq.mp (List.all_eq_true.mp hnone e (hsplit ▸ List.mem_append_right _ (.head _)))
    have hbad : (s.orders.get? 0).any (fun order => order.status == .closed &&
      decide (alreadyPaid s 0 < order.total)) = true := by decide
    obtain ⟨order, hget, hrow⟩ := (Option.any_eq_true _ _).mp hbad
    simp only [Bool.and_eq_true, beq_iff_eq, decide_eq_true_eq] at hrow
    exact absurd (h _ _ _ s 0 order System.cafe_opening hreach hget hrow.1) (Int.not_le.mpr hrow.2)

end NimbusPos
