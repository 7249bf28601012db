import NimbusPos.Payments.Webhook

/-!
# Deliveries that interleave

A webhook looks for an earlier payment of its intent by the external id of its
own payload, and inserts in a later statement. Each intent is charged at most
once as long as no look-up misses a payment that is recorded, or about to be.
Run alone, the statements of a delivery do what `processWebhook` does.
-/

namespace NimbusPos.PaymentsService

open Lib

/-- Completed payments of an intent. -/
def charges (s : Store) (intentId : Id) : Nat :=
  s.payments.count fun _ payment =>
    payment.paymentIntentId == some intentId && payment.status == .completed

namespace WebhookThread

/-- Between a look-up that found no payment and the insert that follows it. -/
def pending (intentId : Id) (t : WebhookThread) : Nat :=
  match t.stage with
  | .createPayment _ k _ => if k = intentId then 1 else 0
  | _ => 0

/-- The next statement looks for a payment of the intent and finds none. -/
def misses (s : Store) (intentId : Id) (t : WebhookThread) : Nat :=
  match t.stage with
  | .findPayment e k intent => if k = intentId ∧ (existingPayment s e intent).isNone then 1 else 0
  | _ => 0

theorem pending_found (t : WebhookThread) (e : String) (row : Id × PaymentIntent) :
    (t.found e row).pending intentId = 0 := by
  unfold found
  split <;> rfl

theorem pending_afterFind (t : WebhookThread) (e : String) (row : Option (Id × PaymentIntent))
    (h : (t.goto otherwise).pending intentId = 0) :
    (t.afterFind e row otherwise).pending intentId = 0 := by
  cases row with
  | none => exact h
  | some row => exact pending_found t e row

theorem pending_goto_ite {t : WebhookThread} [Decidable c] (ha : (t.goto a).pending intentId = 0)
    (hb : (t.goto b).pending intentId = 0) :
    (t.goto (if c then a else b)).pending intentId = 0 := by
  split <;> assumption

/-- A statement charges an intent only by carrying out a look-up that missed. -/
theorem advance_charges (s : Store) (t : WebhookThread) (intentId : Id) :
    charges (t.advance s).1 intentId + (t.advance s).2.pending intentId =
      charges s intentId + t.pending intentId + t.misses s intentId := by
  have hstays {r : Store} {t u : WebhookThread} (hpayments : r.payments = s.payments)
      (hbefore : t.pending intentId = 0) (hmisses : t.misses s intentId = 0)
      (hafter : u.pending intentId = 0) : charges r intentId + u.pending intentId =
        charges s intentId + t.pending intentId + t.misses s intentId := by
    rw [hbefore, hmisses, hafter, charges, hpayments, charges]
  obtain ⟨d, stage, eventId, outcome⟩ := t
  cases stage with
  | receive =>
    refine hstays rfl rfl rfl ?_
    simp only [advance, pending]
    cases d.externalId <;> rfl
  | findByExternalId e | findByProviderRef e | findByTransaction e =>
    exact hstays rfl rfl rfl (pending_afterFind _ _ _ rfl)
  | updateIntent e status k intent =>
    refine hstays rfl rfl rfl ?_
    by_cases hsuccess : status = .succeeded <;> simp [advance, pending, hsuccess]
  | findPayment e k intent =>
    simp only [advance, goto, pending, misses, Nat.add_zero, Nat.add_left_cancel_iff]
    cases existingPayment s e intent with
    | none => simp
    | some found => simp
  | createPayment e k intent =>
    simp only [advance, pending, misses, charges, createPayment, Table.count_insert,
      capturedPayment, Nat.add_zero]
    by_cases hk : k = intentId
    · simp [hk]
    · simp [hk]
  | settleOrder intent =>
    simp only [advance]
    split
    · exact hstays rfl rfl rfl rfl
    · exact hstays rfl rfl rfl (pending_goto_ite rfl rfl)
  | settlePayments intent total => exact hstays rfl rfl rfl (pending_goto_ite rfl rfl)
  | settleBalance intent | settleClose intent | finish => exact hstays rfl rfl rfl rfl
  | done => exact hstays rfl rfl rfl rfl

end WebhookThread

-- ---
-- Runs
-- ---

/-- Deliveries that have arrived. -/
def arrived (s : Store) (deliveries : List Delivery) : Pool Store WebhookThread :=
  ⟨s, deliveries.map fun delivery => { delivery }⟩

/-- A served order of 20.00 with an intent over half of it. -/
def awaiting : Store where
  orders := Table.empty.insert
    { orgId := 0, branchId := 0, tableId := none, userId := 0, orderNumber := "ORD-0001"
      status := .served, serviceType := .takeaway, subtotal := 2000, total := 2000
      createdAt := 0, updatedAt := 0 }
  paymentIntents := Table.empty.insert
    { orgId := 0, branchId := 0, orderId := 0, provider := .mtn, amount := 1000
      status := .requiresAction, externalId := some "intent" }

/-- The provider reports transaction `txn` as successful. -/
def success (externalId : String) : Delivery :=
  ⟨.mtn,
    { externalId := some externalId, transactionId := some "txn", status := some "SUCCESSFUL" }⟩

/-- A look-up that finds no payment is made while no completed payment of the
intent is recorded, and no delivery is about to record one. -/
def missesSafely (intentId : Id) (p : Pool Store WebhookThread) (i : Nat) : Prop :=
  ∀ t ∈ p.threads[i]?, t.misses p.shared intentId = 1 →
    charges p.shared intentId = 0 ∧ ∀ u ∈ p.threads, u.pending intentId = 0

instance : Decidable (missesSafely intentId p i) :=
  inferInstanceAs (Decidable (∀ t ∈ p.threads[i]?, _))

theorem misses_le_one (t : WebhookThread) : t.misses s intentId ≤ 1 := by
  unfold WebhookThread.misses
  split
  · split <;> decide
  · decide

/-- What is charged and what is about to be never exceeds one payment. -/
theorem exposure_step {p : Pool Store WebhookThread}
    (h : charges p.shared intentId + p.weight (·.pending intentId) ≤ 1)
    (hok : missesSafely intentId p i) :
    charges (p.step WebhookThread.advance i).shared intentId +
      (p.step WebhookThread.advance i).weight (·.pending intentId) ≤ 1 := by
  cases ht : p.threads[i]? with
  | none => simpa [Pool.step, ht] using h
  | some t =>
    rw [Pool.weight_step (charges · intentId) (·.pending intentId) ht
      (WebhookThread.advance_charges p.shared t intentId)]
    rcases Nat.le_one_iff_eq_zero_or_eq_one.mp (misses_le_one t) with hfinds | hmisses
    · rw [hfinds]
      exact h
    · obtain ⟨hcharges, hpending⟩ := hok t ht hmisses
      rw [hcharges, Pool.weight_eq_zero hpending, hmisses]

/-- In every interleaving of deliveries in which no look-up misses a payment that
is recorded or about to be, an intent is charged at most once. -/
theorem run_charges (h0 : charges s intentId ≤ 1)
    (h : Run (Pool.step WebhookThread.advance) (missesSafely intentId) (arrived s deliveries) turns
      p) :
    charges p.shared intentId ≤ 1 := by
  have hstart : charges (arrived s deliveries).shared intentId +
      (arrived s deliveries).weight (·.pending intentId) ≤ 1 := by
    rw [Pool.weight_eq_zero]
    · exact h0
    · intro t ht
      obtain ⟨d, _, rfl⟩ := List.mem_map.mp ht
      rfl
  have hrun := h.invariant hstart fun p i hp hok => exposure_step hp hok
  exact Nat.le_of_add_right_le hrun

theorem run_charges_duplicate :
    let turns := List.replicate 9 0 ++ List.replicate 5 1
    let p := turns.foldl (Pool.step WebhookThread.advance)
      (arrived awaiting [success "intent", success "intent"])
    Run (Pool.step WebhookThread.advance) (missesSafely 0)
        (arrived awaiting [success "intent", success "intent"]) turns p ∧
      charges p.shared 0 ≤ 1 := by
  intro turns p
  have hrun : Run (Pool.step WebhookThread.advance) (missesSafely 0)
      (arrived awaiting [success "intent", success "intent"]) turns p := Run.of_holds (by decide)
  exact ⟨hrun, run_charges (by decide) hrun⟩

-- ---
-- An intent charged twice
-- ---

def afterTurns (s : Store) (deliveries : List Delivery) (turns : List Nat) : Store :=
  (turns.foldl (Pool.step WebhookThread.advance) (arrived s deliveries)).shared

/-- One delivery after the other, located by the external id and by the
transaction; and one delivery received twice, interleaved. -/
theorem webhooks_charge_twice :
    ¬(∀ s deliveries turns intentId, charges s intentId = 0 →
      charges (afterTurns s deliveries turns) intentId ≤ 1) ∧
    ¬(∀ s delivery turns intentId, charges s intentId = 0 →
      charges (afterTurns s [delivery, delivery] turns) intentId ≤ 1) := by
  constructor
  · intro h
    have hle := h awaiting [success "intent", success "other"]
      (List.replicate 9 0 ++ List.replicate 11 1) 0 (by decide)
    exact absurd hle (by decide)
  · intro h
    have hle := h awaiting (success "intent") [0, 0, 0, 0, 1, 1, 1, 1, 0, 1] 0 (by decide)
    exact absurd hle (by decide)

-- ---
-- A delivery that runs alone
-- ---

/-- Alone, the delivery ends and leaves store `r`. -/
abbrev Delivers (s : Store) (t : WebhookThread) (r : Store) : Prop :=
  Completes WebhookThread.advance (·.stage = .done) s t r

theorem completes_finish (s : Store) (d : Delivery) (eventId : Id) (outcome : Outcome) :
    Delivers s ⟨d, .finish, eventId, outcome⟩ (finish s eventId outcome) :=
  .step rfl (.of_ended rfl)

theorem completes_settle (s : Store) (d : Delivery) (intent : PaymentIntent) (eventId : Id)
    (outcome : Outcome) (hnot : outcome.autoSettled = false) :
    Delivers s ⟨d, .settleOrder intent, eventId, outcome⟩
      (finish (autoSettleIfFullyPaid s intent.orderId intent.branchId).2 eventId
        { outcome with
          autoSettled := (autoSettleIfFullyPaid s intent.orderId intent.branchId).1 }) := by
  have hsame : { outcome with autoSettled := false } = outcome := by rw [← hnot]
  unfold autoSettleIfFullyPaid
  cases hfind : findOrderInBranch s intent.orderId intent.branchId with
  | none =>
    simp only [hsame]
    exact .step (by simp only [WebhookThread.advance, hfind]; rfl)
      (completes_finish s d eventId outcome)
  | some order =>
    simp only
    by_cases hended : order.status = .closed ∨ order.status = .voided
    · rw [if_pos hended]
      simp only [hsame]
      refine .step ?_ (completes_finish s d eventId outcome)
      simp only [WebhookThread.advance, hfind, if_pos hended]
      rfl
    · rw [if_neg hended]
      have hopen : WebhookThread.advance s ⟨d, .settleOrder intent, eventId, outcome⟩ =
          (s, ⟨d, .settleBalance intent, eventId, outcome⟩) := by
        simp only [WebhookThread.advance, hfind, if_neg hended]
        rfl
      have htotal : WebhookThread.advance s ⟨d, .settleBalance intent, eventId, outcome⟩ =
          (s, ⟨d, .settlePayments intent (some order.total), eventId, outcome⟩) := by
        simp only [WebhookThread.advance, hfind]
        rfl
      refine .step hopen (.step htotal ?_)
      have hbalance : getOutstandingBalance s intent.orderId intent.branchId =
          max (order.total - totalPaid s intent.orderId intent.branchId) 0 := by
        simp only [getOutstandingBalance, hfind]
      rw [hbalance]
      by_cases hpaid : max (order.total - totalPaid s intent.orderId intent.branchId) 0 ≤ 0
      · rw [if_pos hpaid]
        have hclose : WebhookThread.advance s
            ⟨d, .settlePayments intent (some order.total), eventId, outcome⟩ =
              (s, ⟨d, .settleClose intent, eventId, outcome⟩) := by
          simp only [WebhookThread.advance, if_pos hpaid]
          rfl
        refine .step hclose (.step rfl ?_)
        exact completes_finish _ d eventId _
      · rw [if_neg hpaid]
        simp only [hsame]
        refine .step ?_ (completes_finish s d eventId outcome)
        simp only [WebhookThread.advance, if_neg hpaid]
        rfl

theorem completes_success (s : Store) (d : Delivery) (e : String) (intentId : Id)
    (intent : PaymentIntent) (eventId : Id) :
    Delivers s ⟨d, .findPayment e intentId intent, eventId, { intentUpdated := true }⟩
      (finish (recordSuccess s d e intentId intent).1 eventId
        (recordSuccess s d e intentId intent).2) := by
  unfold recordSuccess
  cases hfound : existingPayment s e intent with
  | some row =>
    refine .step ?_ (completes_finish s d eventId _)
    simp only [WebhookThread.advance, hfound, Option.isSome_some, if_true]
    rfl
  | none =>
    have hcreate : WebhookThread.advance s
        ⟨d, .findPayment e intentId intent, eventId, { intentUpdated := true }⟩ =
          (s, ⟨d, .createPayment e intentId intent, eventId, { intentUpdated := true }⟩) := by
      simp only [WebhookThread.advance, hfound, Option.isSome_none, Bool.false_eq_true, if_false]
      rfl
    refine .step hcreate (.step rfl ?_)
    exact completes_settle _ d intent eventId _ rfl

theorem completes_found (s : Store) (d : Delivery) (e : String) (row : Id × PaymentIntent)
    (eventId : Id) (stage : WebhookStage) :
    Delivers s (WebhookThread.found ⟨d, stage, eventId, {}⟩ e row)
      (finish (handleIntent s d e row.1 row.2).1 eventId (handleIntent s d e row.1 row.2).2) := by
  unfold WebhookThread.found handleIntent
  cases hstatus : normalizeStatus d.status with
  | none => exact completes_finish s d eventId {}
  | some status =>
    cases hamount : d.payload.amount with
    | invalid text => exact completes_finish s d eventId _
    | absent | value =>
      cases status with
      | succeeded =>
        refine .step rfl ?_
        exact completes_success _ d e row.1 row.2 eventId
      | _ =>
        refine .step rfl ?_
        exact completes_finish _ d eventId _

/-- The three look-ups, each made when the one before found nothing. -/
theorem completes_located (s : Store) (d : Delivery) (e : String) (eventId : Id) :
    let done : Store × Outcome := match resolveIntent s d e with
      | none => (s, {})
      | some (intentId, intent) => handleIntent s d e intentId intent
    Delivers s ⟨d, .findByExternalId e, eventId, {}⟩ (finish done.1 eventId done.2) := by
  unfold resolveIntent
  cases hexternal : findByExternalId s e with
  | some row =>
    refine .step ?_ (completes_found s d e row eventId (.findByExternalId e))
    simp only [WebhookThread.advance, hexternal, WebhookThread.afterFind]
  | none =>
    have hnext : WebhookThread.advance s ⟨d, .findByExternalId e, eventId, {}⟩ =
        (s, ⟨d, .findByProviderRef e, eventId, {}⟩) := by
      simp only [WebhookThread.advance, hexternal, WebhookThread.afterFind, WebhookThread.goto]
    refine .step hnext ?_
    cases hreference : findByProviderRef s d e with
    | some row =>
      refine .step ?_ (completes_found s d e row eventId (.findByProviderRef e))
      simp only [WebhookThread.advance, hreference, WebhookThread.afterFind]
    | none =>
      have hnext : WebhookThread.advance s ⟨d, .findByProviderRef e, eventId, {}⟩ =
          (s, ⟨d, .findByTransaction e, eventId, {}⟩) := by
        simp only [WebhookThread.advance, hreference, WebhookThread.afterFind, WebhookThread.goto]
      refine .step hnext ?_
      cases htransaction : findByTransaction s d with
      | some row =>
        refine .step ?_ (completes_found s d e row eventId (.findByTransaction e))
        simp only [WebhookThread.advance, htransaction, WebhookThread.afterFind]
      | none =>
        refine .step ?_ (completes_finish s d eventId {})
        simp only [WebhookThread.advance, htransaction, WebhookThread.afterFind, WebhookThread.goto]

/-- The statements of a delivery, run alone, do what `processWebhook` does. -/
theorem completes_processWebhook (s : Store) (d : Delivery) :
    Delivers s { delivery := d } (processWebhook s d) := by
  unfold processWebhook handleCallback
  cases hexternal : d.externalId with
  | none =>
    refine .step ?_ (completes_finish (receive s d) d s.webhookEvents.next {})
    simp only [WebhookThread.advance, hexternal]
  | some e =>
    refine .step ?_ (completes_located (receive s d) d e s.webhookEvents.next)
    simp only [WebhookThread.advance, hexternal]

end NimbusPos.PaymentsService
