import NimbusPos.System

/-!
# What is given back for a payment

A payment is given back by its completed refunds and by a post-close void of its
order, which refunds the customer whatever refunds came before. The store does
not record what a void gave back, so a `Ledger` keeps it beside the store. In an
interleaving of requests that meets `givesSafely` at every statement, no payment
is given back beyond its amount.
-/

namespace NimbusPos.RefundsService

open Lib Lib.Service

/-- The store, and the money that post-close voids gave back for each payment. -/
structure Ledger where
  store : Store
  returned : Id → Cents := fun _ => 0

/-- What a statement gives back for a payment without a refund: a void gives it
back in full. -/
def RefundStage.returnedBy (s : Store) (j : Id) : RefundStage → Cents
  | .voidOrder ctx orderId =>
    match (s.payments.get? j).filter (voidMatches orderId ctx.branchId j) with
    | some payment => payment.amount
    | none => 0
  | _ => 0

namespace Ledger

def advance (bcrypt : Bcrypt) (l : Ledger) (stage : RefundStage) : Ledger × RefundStage :=
  (⟨(stage.advance bcrypt l.store).1, fun j => l.returned j + stage.returnedBy l.store j⟩,
    (stage.advance bcrypt l.store).2)

def tick (l : Ledger) (wait : Nat) : Ledger := { l with store := l.store.tick wait }

/-- The money given back for a payment. -/
def givenBack (l : Ledger) (j : Id) : Cents := completedRefunds l.store j + l.returned j

end Ledger

/-- The request that takes its next statement, and the time that passes before. -/
structure Turn where
  request : Nat
  wait : Nat := 0

def turn (bcrypt : Bcrypt) (p : Pool Ledger RefundStage) (t : Turn) : Pool Ledger RefundStage :=
  Pool.step (Ledger.advance bcrypt) ⟨p.shared.tick t.wait, p.threads⟩ t.request

def asked (s : Store) (requests : List RefundRequest) : Pool Ledger RefundStage :=
  ⟨{ store := s }, requests.map (·.start)⟩

-- ---
-- One statement
-- ---

/-- A refund is inserted within what is left of the payment, and completed only
while no void has given the payment back; a void finds no completed refund. -/
def givesSafely (j : Id) (l : Ledger) : RefundStage → Prop
  | .insertRefund _ _ dto autoApprove => dto.paymentId = j →
    (∀ payment ∈ l.store.payments.get? j, dto.amount ≤ payment.amount - liveRefunds l.store j) ∧
      (autoApprove = true → l.returned j = 0)
  | .completeRefund refundId _ =>
    ∀ refund ∈ l.store.refunds.get? refundId, refund.paymentId = j → l.returned j = 0
  | .voidOrder ctx orderId =>
    ∀ payment ∈ l.store.payments.get? j, voidMatches orderId ctx.branchId j payment = true →
      completedRefunds l.store j = 0
  | _ => True

instance : Decidable (givesSafely j l stage) :=
  match stage with
  | .insertRefund .. => inferInstanceAs (Decidable (_ → _ ∧ _))
  | .completeRefund .. => inferInstanceAs (Decidable (∀ refund ∈ l.store.refunds.get? _, _))
  | .voidOrder .. => inferInstanceAs (Decidable (∀ payment ∈ l.store.payments.get? j, _))
  | .findOrder .. | .findPayment .. | .sumRefunds .. | .readThreshold .. | .findRefund ..
  | .approvePin .. | .readPayment .. | .sumCompleted .. | .markRefunded .. | .readFlags ..
  | .writeFlags .. | .findVoided .. | .voidPin .. | .done => .isTrue trivial

/-- The refunds of the payment fit in it, and a void has given back nothing, or
all of it with no completed refund beside. -/
structure Capped (j : Id) (amount : Cents) (l : Ledger) : Prop where
  payment : ∃ payment, l.store.payments.get? j = some payment ∧ payment.amount = amount
  amounts : ∀ k refund, l.store.refunds.get? k = some refund → 0 ≤ refund.amount
  live : liveRefunds l.store j ≤ amount
  returned : l.returned j = 0 ∨ l.returned j = amount ∧ completedRefunds l.store j = 0 ∧
    ∀ payment, l.store.payments.get? j = some payment → payment.status ≠ .completed

theorem Capped.givenBack_le (h : Capped j amount l) : l.givenBack j ≤ amount := by
  unfold Ledger.givenBack
  rcases h.returned with hnone | ⟨hall, hcompleted, _⟩
  · rw [hnone, Int.add_zero]
    exact (completedRefunds_le h.amounts).trans h.live
  · rw [hall, hcompleted, Int.zero_add]

/-- Refunds unchanged, and payments that were not completed stay so. -/
theorem Capped.same {t : Store} (h : Capped j amount l) (hrefunds : t.refunds = l.store.refunds)
    (hpayment : ∀ payment, l.store.payments.get? j = some payment → ∃ payment',
      t.payments.get? j = some payment' ∧ payment'.amount = payment.amount ∧
        (payment'.status = .completed → payment.status = .completed)) :
    Capped j amount ⟨t, l.returned⟩ := by
  obtain ⟨payment, hget, hamount⟩ := h.payment
  obtain ⟨payment', hget', hamount', hstatus⟩ := hpayment payment hget
  refine ⟨⟨payment', hget', hamount'.trans hamount⟩, ?_, ?_, ?_⟩
  · simpa only [hrefunds] using h.amounts
  · simpa only [liveRefunds, hrefunds] using h.live
  · simp only [completedRefunds, hrefunds]
    refine h.returned.imp_right fun hall => ⟨hall.1, hall.2.1, ?_⟩
    intro other hother
    cases hget'.symm.trans hother
    exact fun hc => hall.2.2 payment hget (hstatus hc)

theorem Capped.insert (h : Capped j amount l)
    (hsafe : givesSafely j l (.insertRefund ctx orderId dto autoApprove)) :
    Capped j amount ⟨insertRefund l.store ctx orderId dto autoApprove, l.returned⟩ := by
  obtain ⟨payment, hget, rfl⟩ := h.payment
  refine ⟨⟨payment, hget, rfl⟩, ?_, ?_, ?_⟩
  · intro k refund hk
    simp only [insertRefund, Table.get?_insert] at hk
    split at hk
    · cases hk
      exact (Int.zero_le_ofNat 1).trans dto.amount_pos
    · exact h.amounts k refund hk
  · rw [liveRefunds_insert]
    split
    · rename_i hmine
      exact Int.add_le_of_le_sub_left ((hsafe hmine).1 payment hget)
    · simpa using h.live
  · refine or_iff_not_imp_left.mpr fun hreturned => ?_
    obtain ⟨hall, hcompleted, hnot⟩ := h.returned.resolve_left hreturned
    refine ⟨hall, ?_, hnot⟩
    rw [completedRefunds_insert, if_neg fun hauto =>
      hreturned ((hsafe hauto.1).2 hauto.2), hcompleted, Int.add_zero]

theorem Capped.complete {asRead : Refund} (h : Capped j amount l)
    (hlive : ∀ refund, l.store.refunds.get? k = some refund →
      RefundStatus.live refund.status = true)
    (hsafe : givesSafely j l (.completeRefund k asRead)) :
    Capped j amount ⟨completeRefund l.store k, l.returned⟩ := by
  refine ⟨h.payment, ?_, ?_, ?_⟩
  · intro k' refund hk
    simp only [completeRefund, Table.get?_update] at hk
    split at hk
    · obtain ⟨old, hold, rfl⟩ := Option.map_eq_some_iff.mp hk
      exact h.amounts k' old hold
    · exact h.amounts k' refund hk
  · rw [liveRefunds_complete hlive]
    exact h.live
  · refine or_iff_not_imp_left.mpr fun hreturned => ?_
    obtain ⟨hall, hcompleted, hnot⟩ := h.returned.resolve_left hreturned
    refine ⟨hall, ?_, hnot⟩
    rw [completedRefunds_complete fun refund hget hmine =>
      hreturned (hsafe refund hget hmine), hcompleted]

theorem Capped.void {ctx : BranchContext} (h : Capped j amount l)
    (hsafe : givesSafely j l (.voidOrder ctx orderId)) :
    Capped j amount (l.advance bcrypt (.voidOrder ctx orderId)).1 := by
  obtain ⟨payment, hget, rfl⟩ := h.payment
  have hafter : (voidOrderAndPayments l.store ctx orderId).payments.get? j =
      some (if voidMatches orderId ctx.branchId j payment then { payment with status := .refunded }
        else payment) := by
    simp only [voidOrderAndPayments, Table.get?_updateWhere, Store.updateOrder, hget,
      Option.map_some]
  by_cases hmatches : voidMatches orderId ctx.branchId j payment = true
  · -- the payment was completed, so no void had given it back before
    have hcompleted : payment.status = .completed := by
      simp only [voidMatches, Bool.and_eq_true, beq_iff_eq] at hmatches
      exact hmatches.2
    have hnone : l.returned j = 0 :=
      h.returned.resolve_right fun hall => hall.2.2 payment hget hcompleted
    rw [if_pos hmatches] at hafter
    refine ⟨⟨_, hafter, rfl⟩, h.amounts, h.live, .inr ⟨?_, hsafe payment hget hmatches, ?_⟩⟩
    · simp only [Ledger.advance, RefundStage.returnedBy, hget, Option.filter_some, hmatches,
        if_true, hnone, Int.zero_add]
    · intro other hother
      cases hafter.symm.trans hother
      intro hc
      cases hc
  · have hgives : RefundStage.returnedBy l.store j (.voidOrder ctx orderId) = 0 := by
      simp only [RefundStage.returnedBy, hget, Option.filter_some, hmatches]
      rfl
    rw [if_neg hmatches] at hafter
    have hsame := h.same (t := voidOrderAndPayments l.store ctx orderId) rfl fun other hother => by
      cases hget.symm.trans hother
      exact ⟨payment, hafter, rfl, id⟩
    refine ⟨hsame.payment, hsame.amounts, hsame.live, ?_⟩
    simpa only [Ledger.advance, RefundStage.advance, hgives, Int.add_zero] using hsame.returned

/-- A refund that is about to be completed has not failed. -/
def completesLive (s : Store) : RefundStage → Prop
  | .approvePin _ refundId _ _ | .completeRefund refundId _ =>
    ∀ refund, s.refunds.get? refundId = some refund → RefundStatus.live refund.status = true
  | _ => True

theorem advance_not_void {l : Ledger} {stage : RefundStage}
    (h : ∀ k, stage.returnedBy l.store k = 0) :
    (l.advance bcrypt stage).1 = ⟨(stage.advance bcrypt l.store).1, l.returned⟩ := by
  simp only [Ledger.advance, h, Int.add_zero]

theorem Capped.advance (h : Capped j amount l) (hlive : completesLive l.store stage)
    (hsafe : givesSafely j l stage) : Capped j amount (l.advance bcrypt stage).1 := by
  have hreads {t : Store} (ht : t = l.store) : Capped j amount ⟨t, l.returned⟩ := ht ▸ h
  cases stage with
  | voidOrder ctx orderId => exact h.void hsafe
  | insertRefund ctx orderId dto autoApprove =>
    rw [advance_not_void fun _ => rfl]
    exact h.insert hsafe
  | completeRefund refundId refund =>
    rw [advance_not_void fun _ => rfl]
    exact h.complete hlive hsafe
  | markRefunded paymentId =>
    rw [advance_not_void fun _ => rfl]
    refine h.same rfl fun payment hget => ?_
    simp only [RefundStage.advance, RefundsService.markRefunded, Table.get?_update, hget,
      Option.map_some]
    split
    · exact ⟨_, rfl, rfl, nofun⟩
    · exact ⟨payment, rfl, rfl, id⟩
  | writeFlags orderId amount flags =>
    rw [advance_not_void fun _ => rfl]
    exact h.same rfl fun payment hget => ⟨payment, hget, rfl, id⟩
  | findPayment | findRefund | readPayment | readFlags =>
    rw [advance_not_void fun _ => rfl]
    refine hreads ?_
    simp only [RefundStage.advance]
    split <;> rfl
  | _ =>
    rw [advance_not_void fun _ => rfl]
    exact hreads rfl

-- ---
-- What the other requests leave true
-- ---

/-- No statement makes a refund fail. -/
theorem advance_live (stage : RefundStage)
    (h : ∀ refund, s.refunds.get? k = some refund → RefundStatus.live refund.status = true) :
    ∀ refund, (stage.advance bcrypt s).1.refunds.get? k = some refund →
      RefundStatus.live refund.status = true := by
  have hsame {t : Store} (ht : t.refunds = s.refunds) :
      ∀ refund, t.refunds.get? k = some refund → RefundStatus.live refund.status = true := ht ▸ h
  cases stage with
  | insertRefund ctx orderId dto autoApprove =>
    intro refund hget
    simp only [RefundStage.advance, RefundsService.insertRefund, Table.get?_insert] at hget
    split at hget
    · cases hget
      cases autoApprove <;> rfl
    · exact h refund hget
  | completeRefund refundId read =>
    intro refund hget
    simp only [RefundStage.advance, RefundsService.completeRefund, Table.get?_update] at hget
    split at hget
    · obtain ⟨old, _, rfl⟩ := Option.map_eq_some_iff.mp hget
      rfl
    · exact h refund hget
  | findPayment | findRefund | readPayment | readFlags =>
    refine hsame ?_
    simp only [RefundStage.advance]
    split <;> rfl
  | _ => exact hsame rfl

theorem completesLive_advance {u : RefundStage} (stage : RefundStage) (h : completesLive s u) :
    completesLive (stage.advance bcrypt s).1 u := by
  cases u with
  | approvePin | completeRefund => exact advance_live stage h
  | _ => trivial

theorem completesLive_guarded (h : completesLive s next) :
    completesLive s (RefundStage.guarded ok next) := by
  unfold RefundStage.guarded
  split
  · exact h
  · trivial

/-- A request completes only a refund that it read as pending. -/
theorem completesLive_next {stage : RefundStage} (h : completesLive s stage) :
    completesLive (stage.advance bcrypt s).1 (stage.advance bcrypt s).2 := by
  cases stage with
  | findRefund userId ctx refundId dto =>
    simp only [RefundStage.advance]
    cases hfind : RefundsService.findRefund s ctx refundId with
    | none => trivial
    | some refund =>
      simp only
      by_cases hpending : refund.status = .pending
      · have hlive : ∀ row, s.refunds.get? refundId = some row →
          RefundStatus.live row.status = true := by
          intro row hrow
          cases (findRefund_iff.mp hfind).1.symm.trans hrow
          rw [hpending]
          rfl
        refine completesLive_guarded ?_
        cases dto.managerPin with
        | none => exact hlive
        | some pin => exact hlive
      · have hfails : (refund.status == .pending) = false := by simpa using hpending
        rw [hfails]
        trivial
  | approvePin => exact completesLive_guarded h
  | insertRefund ctx orderId dto autoApprove => cases autoApprove <;> trivial
  | findOrder | sumRefunds | sumCompleted | findVoided | voidPin =>
    exact completesLive_guarded trivial
  | findPayment | readPayment | readFlags =>
    simp only [RefundStage.advance]
    split <;> trivial
  | _ => trivial

-- ---
-- Runs
-- ---

/-- The statement that a turn takes gives back payment `j` safely. -/
def safeTurn (j : Id) (p : Pool Ledger RefundStage) (t : Turn) : Prop :=
  ∀ stage ∈ p.threads[t.request]?, givesSafely j (p.shared.tick t.wait) stage

instance : Decidable (safeTurn j p t) :=
  inferInstanceAs (Decidable (∀ stage ∈ p.threads[t.request]?, _))

structure CappedPool (j : Id) (amount : Cents) (p : Pool Ledger RefundStage) : Prop where
  capped : Capped j amount p.shared
  completesLive : ∀ stage ∈ p.threads, completesLive p.shared.store stage

theorem CappedPool.turn (h : CappedPool j amount p) (hsafe : safeTurn j p t) :
    CappedPool j amount (turn bcrypt p t) := by
  have hcapped : Capped j amount (p.shared.tick t.wait) :=
    ⟨h.capped.payment, h.capped.amounts, h.capped.live, h.capped.returned⟩
  have hlive : ∀ stage ∈ p.threads,
      RefundsService.completesLive (p.shared.tick t.wait).store stage := by
    intro stage hstage
    have hstage := h.completesLive stage hstage
    cases stage <;> exact hstage
  constructor
  · cases hmoves : p.threads[t.request]? with
    | none => simpa [RefundsService.turn, Pool.step, hmoves] using hcapped
    | some stage =>
      simp only [RefundsService.turn, Pool.step, hmoves]
      exact hcapped.advance (hlive stage (List.mem_of_getElem? hmoves)) (hsafe stage hmoves)
  · let keeps (l : Ledger) (stage : RefundStage) := RefundsService.completesLive l.store stage
    refine Pool.step_assertions (A := keeps) hlive ?_ ?_
    · exact fun stage _ hown => completesLive_next hown
    · exact fun stage other _ _ hother => completesLive_advance stage hother

/-- In every interleaving of refund requests whose turns are safe for a payment,
what is given back for it stays within its amount. -/
theorem run_givenBack (hpayment : s.payments.get? j = some payment)
    (hamounts : ∀ k refund, s.refunds.get? k = some refund → 0 ≤ refund.amount)
    (hcap : liveRefunds s j ≤ payment.amount)
    (h : Run (turn bcrypt) (safeTurn j) (asked s requests) turns p) :
    p.shared.givenBack j ≤ payment.amount := by
  have hstart : CappedPool j payment.amount (asked s requests) := by
    refine ⟨⟨⟨payment, hpayment, rfl⟩, hamounts, hcap, .inl rfl⟩, ?_⟩
    intro stage hstage
    obtain ⟨request, _, rfl⟩ := List.mem_map.mp hstage
    cases request <;> trivial
  have hrun := h.invariant hstart fun p t hp hok => hp.turn hok
  exact hrun.capped.givenBack_le

/-- One item at 10.00, paid in cash and closed. -/
def paid : Store := System.after (· == ·) System.cafe System.paidOrder

def refundOf (amount : Cents) (h : 1 ≤ amount) : RefundRequest :=
  .createRefund ⟨0, 0⟩ 0 ⟨0, amount, h⟩

def oneAfterTheOther (turns : List Nat) : List Turn := turns.map ({ request := · })

theorem run_givenBack_partial :
    let requests := [refundOf 300 (by decide), refundOf 700 (by decide)]
    let turns := oneAfterTheOther (List.replicate 8 0 ++ List.replicate 8 1)
    let p := turns.foldl (turn (· == ·)) (asked paid requests)
    ∃ payment, paid.payments.get? 0 = some payment ∧ p.shared.givenBack 0 ≤ payment.amount := by
  intro requests turns p
  have hpayment : (paid.payments.get? 0).any
      (fun payment => decide (liveRefunds paid 0 ≤ payment.amount)) = true := by
    decide
  obtain ⟨payment, hget, hrow⟩ := (Option.any_eq_true _ _).mp hpayment
  have hnone : paid.refunds.rows = [] := by decide
  have hamounts : ∀ k refund, paid.refunds.get? k = some refund → 0 ≤ refund.amount := by
    intro k refund hk
    rw [Table.get?_iff, hnone] at hk
    cases hk
  have hrun : Run (turn (· == ·)) (safeTurn 0) (asked paid requests) turns p :=
    Run.of_holds (by decide)
  exact ⟨payment, hget, run_givenBack hget hamounts (of_decide_eq_true hrow) hrun⟩

-- ---
-- More than the payment
-- ---

/-- No payment without refunds so far is given back beyond its amount, in any
interleaving of requests of a kind. -/
def StaysWithinPayment (kind : RefundRequest → Bool) : Prop :=
  ∀ (bcrypt : Bcrypt) (s : Store) (requests : List RefundRequest) (turns : List Turn) (j : Id)
    (payment : Payment), requests.all kind = true → s.payments.get? j = some payment →
    s.refunds.rows = [] →
    (turns.foldl (turn bcrypt) (asked s requests)).shared.givenBack j ≤ payment.amount

def RefundRequest.creates : RefundRequest → Bool
  | .createRefund .. => true
  | _ => false

theorem exceeds (requests : List RefundRequest) (turns : List Turn)
    (hkind : requests.all kind = true) (hnone : paid.refunds.rows = [])
    (h : (paid.payments.get? 0).any (fun payment => decide (payment.amount <
      (turns.foldl (turn (· == ·)) (asked paid requests)).shared.givenBack 0)) = true) :
    ¬StaysWithinPayment kind := by
  intro hwithin
  obtain ⟨payment, hget, hrow⟩ := (Option.any_eq_true _ _).mp h
  exact absurd (hwithin _ paid requests turns 0 payment hkind hget hnone)
    (Int.not_le.mpr (of_decide_eq_true hrow))

/-- A void after a refund of 3.00 gives back all 10.00; and two requests of 7.00
both find the payment without refunds. -/
theorem refunds_exceed_payment :
    ¬StaysWithinPayment (fun _ => true) ∧ ¬StaysWithinPayment RefundRequest.creates := by
  constructor
  · exact exceeds [refundOf 300 (by decide), .postCloseVoid 0 ⟨0, 0⟩ 0 ⟨"1234"⟩]
      (oneAfterTheOther (List.replicate 8 0 ++ List.replicate 3 1)) (by decide) (by decide)
        (by decide)
  · exact exceeds [refundOf 700 (by decide), refundOf 700 (by decide)]
      (oneAfterTheOther [0, 0, 0, 0, 1, 1, 1, 1, 0, 1]) (by decide) (by decide) (by decide)

-- ---
-- A request that runs alone
-- ---

/-- Alone, the request ends and leaves store `r`. -/
abbrev Serves (bcrypt : Bcrypt) (s : Store) (stage : RefundStage) (r : Store) : Prop :=
  Completes (RefundStage.advance bcrypt) (· = .done) s stage r

theorem serves_refused (h : stage.advance bcrypt s = (s, .done)) : Serves bcrypt s stage s :=
  .step h (.of_ended rfl)

theorem serves_guarded {ok : Bool} (next : RefundStage)
    (h : stage.advance bcrypt s = (s, .guarded ok next))
    (hnext : ok = true → Serves bcrypt s next r) :
    Serves bcrypt s stage (if ok then r else s) := by
  cases ok with
  | false => exact .step h (.of_ended rfl)
  | true => exact .step h (hnext rfl)

theorem serves_mark (s : Store) (paymentId : Id) :
    Serves bcrypt s (.readPayment paymentId) (checkAndMarkPaymentRefunded s paymentId) := by
  unfold checkAndMarkPaymentRefunded
  cases hget : s.payments.get? paymentId with
  | none => exact .step (by simp only [RefundStage.advance, hget]) (.of_ended rfl)
  | some payment =>
    have hread : RefundStage.advance bcrypt s (.readPayment paymentId) =
        (s, .sumCompleted paymentId payment) := by
      simp only [RefundStage.advance, hget]
    simp only
    refine .step hread ?_
    by_cases hall : payment.amount ≤ completedRefunds s paymentId
    · rw [if_pos hall]
      have hmark : RefundStage.advance bcrypt s (.sumCompleted paymentId payment) =
          (s, .markRefunded paymentId) := by
        simp only [RefundStage.advance, RefundStage.guarded, decide_eq_true hall, if_true]
      exact .step hmark (.step rfl (.of_ended rfl))
    · rw [if_neg hall]
      refine serves_refused ?_
      simp only [RefundStage.advance, RefundStage.guarded, decide_eq_false hall, Bool.false_eq_true,
        if_false]

theorem serves_flag (s : Store) (orderId : Id) (amount : Cents) :
    Serves bcrypt s (.readFlags orderId amount) (flagRefundAnomaly s orderId amount) := by
  cases hget : s.orders.get? orderId with
  | none =>
    have hsame : flagRefundAnomaly s orderId amount = s := by
      simp only [flagRefundAnomaly, Store.updateOrder, Table.update_none hget]
    rw [hsame]
    exact .step (by simp only [RefundStage.advance, hget]) (.of_ended rfl)
  | some order =>
    have hread : RefundStage.advance bcrypt s (.readFlags orderId amount) =
        (s, .writeFlags orderId amount order.anomalyFlags) := by
      simp only [RefundStage.advance, hget]
    have hwrite : RefundStage.advance bcrypt s (.writeFlags orderId amount order.anomalyFlags) =
        (flagRefundAnomaly s orderId amount, .done) := by
      have hrows := Table.update_congr (t := s.orders) (k := orderId)
        (f := fun row => { row with
          anomalyFlags := flagged order.anomalyFlags amount s.clock, updatedAt := s.clock })
        (g := fun row => { row with
          anomalyFlags := flagged row.anomalyFlags amount s.clock, updatedAt := s.clock })
        fun row hrow => by
          cases hget.symm.trans hrow
          rfl
      simp only [RefundStage.advance, flagRefundAnomaly, Store.updateOrder, hrows]
    exact .step hread (.step hwrite (.of_ended rfl))

theorem serves_createRefund (s : Store) (ctx : BranchContext) (orderId : Id)
    (dto : CreateRefundDto) :
    Serves bcrypt s (.findOrder ctx orderId dto) (final (createRefund ctx orderId dto s)) := by
  unfold createRefund
  rw [final_get]
  cases horder : s.findOrder ctx orderId with
  | none =>
    rw [final_need_none]
    refine serves_refused ?_
    simp only [RefundStage.advance, horder]
    rfl
  | some order =>
    rw [final_need_some, final_ensure]
    refine serves_guarded (.findPayment ctx orderId dto) ?_ fun _ => ?_
    · simp only [RefundStage.advance, horder, Option.any_some]
    cases hpayment : findPayment s ctx orderId dto.paymentId with
    | none =>
      rw [final_need_none]
      refine serves_refused ?_
      simp only [RefundStage.advance, hpayment]
    | some payment =>
      rw [final_need_some, final_ensure]
      have hfound : RefundStage.advance bcrypt s (.findPayment ctx orderId dto) =
          (s, .sumRefunds ctx orderId dto payment) := by
        simp only [RefundStage.advance, hpayment]
      refine .step hfound ?_
      refine serves_guarded (.readThreshold ctx orderId dto) rfl fun _ => ?_
      rw [final_modify]
      refine .step rfl ?_
      cases hauto : autoApproves s ctx dto with
      | true => exact .step rfl (serves_mark _ dto.paymentId)
      | false => exact .step rfl (serves_flag _ orderId dto.amount)

/-- The PIN check, as the statement of the call makes it. -/
theorem final_checkManagerPin {missing : String} {f : Unit → Db α} :
    final ((checkManagerPin bcrypt userId pin missing >>= f) s) =
      if pinValid bcrypt s userId pin then final (f () s) else s := by
  unfold checkManagerPin pinValid
  rw [bind_assoc, final_get]
  cases (s.users.get? userId).bind (·.quickPinHash) with
  | none => rfl
  | some hash =>
    rw [bind_assoc, final_need_some, final_ensure]
    rfl

theorem serves_approveRefund (s : Store) (userId : Id) (ctx : BranchContext) (refundId : Id)
    (dto : ApproveRefundDto) : Serves bcrypt s (.findRefund userId ctx refundId dto)
      (final (approveRefund bcrypt userId ctx refundId dto s)) := by
  unfold approveRefund
  rw [final_get]
  cases hrefund : findRefund s ctx refundId with
  | none =>
    rw [final_need_none]
    refine serves_refused ?_
    simp only [RefundStage.advance, hrefund]
  | some refund =>
    rw [final_need_some, final_ensure]
    have hcompletes : Serves bcrypt s (.completeRefund refundId refund)
        (checkAndMarkPaymentRefunded (completeRefund s refundId) refund.paymentId) :=
      .step rfl (serves_mark _ refund.paymentId)
    cases hpin : dto.managerPin with
    | none =>
      refine serves_guarded (.completeRefund refundId refund) ?_ fun _ => hcompletes
      simp only [RefundStage.advance, hrefund, hpin]
    | some pin =>
      refine serves_guarded (.approvePin userId refundId refund pin) ?_ fun _ => ?_
      · simp only [RefundStage.advance, hrefund, hpin]
      simp only [verifyPin]
      rw [final_checkManagerPin]
      exact serves_guarded (.completeRefund refundId refund) rfl fun _ => hcompletes

theorem serves_postCloseVoid (s : Store) (userId : Id) (ctx : BranchContext) (orderId : Id)
    (dto : PostCloseVoidDto) : Serves bcrypt s (.findVoided userId ctx orderId dto)
      (final (postCloseVoid bcrypt userId ctx orderId dto s)) := by
  unfold postCloseVoid
  rw [final_get]
  cases horder : s.findOrder ctx orderId with
  | none =>
    rw [final_need_none]
    refine serves_refused ?_
    simp only [RefundStage.advance, horder]
    rfl
  | some order =>
    have hchecks (a b : Bool) (r : Store) :
        (if a = true then if b = true then r else s else s) = if (a && b) = true then r else s := by
      cases a <;> rfl
    rw [final_need_some, final_ensure, final_ensure, hchecks]
    refine serves_guarded (.voidPin userId ctx orderId dto) ?_ fun _ => ?_
    · simp only [RefundStage.advance, horder, Option.any_some]
    rw [final_checkManagerPin]
    refine serves_guarded (.voidOrder ctx orderId) rfl fun _ => ?_
    exact .step rfl (.of_ended rfl)

/-- The statements of a request, run alone, do what the call does. -/
theorem serves_request (bcrypt : Bcrypt) (s : Store) (request : RefundRequest) :
    Serves bcrypt s request.start (request.exec bcrypt s) := by
  cases request with
  | createRefund ctx orderId dto => exact serves_createRefund s ctx orderId dto
  | approveRefund userId ctx refundId dto => exact serves_approveRefund s userId ctx refundId dto
  | postCloseVoid userId ctx orderId dto => exact serves_postCloseVoid s userId ctx orderId dto

end NimbusPos.RefundsService
