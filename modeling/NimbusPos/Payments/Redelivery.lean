import NimbusPos.Payments.Deliveries
import NimbusPos.Payments.Processed

/-!
# Redelivered callbacks

A processing that fails keeps the statements it has made, and the callback is delivered again.
The next processing looks for what the one before it left: it finds the intent rewritten, and
where it finds the payment it takes the order for settled. The sale converges where no processing
stops between the payment and the order that the payment closes, nor between the intent and a
payment of another amount than the rewritten intent gives.
-/

namespace NimbusPos.PaymentsService

open Lib

-- ---
-- A processing that fails
-- ---

/-- The statements that go well, and how the next one ends. After a statement that is applied, the
audit entry or the event that follows it fails with `message`. -/
structure Failure where
  wait : Nat := 0
  through : Nat
  fate : Fate
  message : String := ""
  /-- The event that the `catch` leads to is written. -/
  finishes : Bool := true
  deriving DecidableEq, Repr

namespace WebhookThread

/-- The store and the thread after some statements. -/
def taken (s : Store) (t : WebhookThread) : Nat → Store × WebhookThread
  | 0 => (s, t)
  | n + 1 => (taken s t n).2.advance (taken s t n).1

/-- What is thrown at the first statement or the last is not caught. -/
def caught (t : WebhookThread) : WebhookStage :=
  match t.stage with
  | .receive | .finish | .done => .done
  | _ => .finish

/-- The next statement fails. `autoSettled` is assigned when `autoSettleIfFullyPaid` returns. -/
def fail (s : Store) (t : WebhookThread) (fate : Fate) (message : String) : Store × WebhookThread :=
  let (r, u) := t.advance s
  let outcome := match fate with
    | .applied => { u.outcome with autoSettled := t.outcome.autoSettled }
    | _ => t.outcome
  (fate.write s r,
    { t with outcome := { outcome with processingError := some (fate.error?.getD message) }
             stage := t.caught })

end WebhookThread

/-- The statement that fails, and the store it finds. -/
def Failure.reached (d : Delivery) (s : Store) (f : Failure) : Store × WebhookThread :=
  WebhookThread.taken (s.tick f.wait) { delivery := d } f.through

/-- The store that a failing processing leaves. -/
def failedWebhook (d : Delivery) (s : Store) (f : Failure) : Store :=
  let (r, t) := f.reached d s
  let (r, t) := t.fail r f.fate f.message
  if f.finishes then (t.advance r).1 else r

-- ---
-- How far it came
-- ---

inductive Stop
  | untouched
  | updated
  | recorded
  | ended
  deriving DecidableEq, Repr

/-- What is written when a statement fails. -/
def WebhookStage.stop (fate : Fate) : WebhookStage → Stop
  | .receive | .findByExternalId _ | .findByProviderRef _ | .findByTransaction _ => .untouched
  | .updateIntent .. => if fate.written then .updated else .untouched
  | .findPayment .. => .updated
  | .createPayment .. => if fate.written then .recorded else .updated
  | .settleOrder _ | .settleBalance _ | .settlePayments .. => .recorded
  | .settleClose _ => if fate.written then .ended else .recorded
  | .finish | .done => .ended

def Failure.stop (d : Delivery) (s : Store) (f : Failure) : Stop :=
  (f.reached d s).2.stage.stop f.fate

inductive Leaves (s : Store) (d : Delivery) : Stop → Store → Prop
  | untouched (h : SameTables s r) : Leaves s d .untouched r
  | updated (hlocates : Locates s d e status k intent)
      (h : SameTables (updateIntent s d e status k intent) r) : Leaves s d .updated r
  | recorded (hlocates : Locates s d e .succeeded k intent)
      (hnew : existingPayment s e intent = none)
      (h : SameTables (createPayment (updateIntent s d e .succeeded k intent) d e k intent) r) :
      Leaves s d .recorded r
  | ended (h : SameTables (processWebhook s d) r) : Leaves s d .ended r

/-- The statements of a settlement. -/
def WebhookStage.settling : WebhookStage → Bool
  | .settleOrder _ | .settleBalance _ | .settlePayments .. | .settleClose _ => true
  | _ => false

/-- What a processing that started on `s` has written before its next statement. -/
inductive Progress (s : Store) (d : Delivery) : Store → WebhookStage → Prop
  | receive : Progress s d s .receive
  | external (hd : d.externalId = some e) (events : Table WebhookEvent) :
      Progress s d { s with webhookEvents := events } (.findByExternalId e)
  | reference (hd : d.externalId = some e) (hexternal : findByExternalId s e = none)
      (events : Table WebhookEvent) :
      Progress s d { s with webhookEvents := events } (.findByProviderRef e)
  | transaction (hd : d.externalId = some e) (hexternal : findByExternalId s e = none)
      (hreference : findByProviderRef s d e = none) (events : Table WebhookEvent) :
      Progress s d { s with webhookEvents := events } (.findByTransaction e)
  | update (hlocates : Locates s d e status k intent) (events : Table WebhookEvent) :
      Progress s d { s with webhookEvents := events } (.updateIntent e status k intent)
  | find (hlocates : Locates s d e .succeeded k intent) (events : Table WebhookEvent) :
      Progress s d { updateIntent s d e .succeeded k intent with webhookEvents := events }
        (.findPayment e k intent)
  | create (hlocates : Locates s d e .succeeded k intent)
      (hnew : existingPayment s e intent = none) (events : Table WebhookEvent) :
      Progress s d { updateIntent s d e .succeeded k intent with webhookEvents := events }
        (.createPayment e k intent)
  | settle (hlocates : Locates s d e .succeeded k intent)
      (hnew : existingPayment s e intent = none) (hstage : stage.settling = true)
      (events : Table WebhookEvent) :
      Progress s d
        { createPayment (updateIntent s d e .succeeded k intent) d e k intent with
          webhookEvents := events } stage
  | ended (hstage : stage = .finish ∨ stage = .done) (r : Store) : Progress s d r stage

theorem advance_delivery (s : Store) (t : WebhookThread) :
    (t.advance s).2.delivery = t.delivery := by
  obtain ⟨d, stage, eventId, outcome⟩ := t
  have hfound (t : WebhookThread) (e : String) (row : Id × PaymentIntent) :
      (t.found e row).delivery = t.delivery := by
    unfold WebhookThread.found
    split <;> rfl
  cases stage with
  | findByExternalId e | findByProviderRef e | findByTransaction e =>
    simp only [WebhookThread.advance, WebhookThread.afterFind]
    split
    · exact hfound _ _ _
    · rfl
  | settleOrder intent =>
    simp only [WebhookThread.advance]
    split <;> rfl
  | _ => rfl

/-- The statement after the intent is found. -/
theorem found_stage (t : WebhookThread) (e : String) (row : Id × PaymentIntent) :
    (t.found e row).stage = .finish ∨
      ∃ status, normalizeStatus t.delivery.status = some status ∧
        t.delivery.payload.amount.readable = true ∧
        (t.found e row).stage = .updateIntent e status row.1 row.2 := by
  unfold WebhookThread.found
  cases hstatus : normalizeStatus t.delivery.status with
  | none => exact .inl rfl
  | some status =>
    cases hamount : t.delivery.payload.amount with
    | invalid text => exact .inl rfl
    | absent | value => exact .inr ⟨status, rfl, rfl, rfl⟩

/-- A settlement writes nothing until its last statement. -/
theorem advance_settling (r : Store) (t : WebhookThread) (h : t.stage.settling = true) :
    (t.advance r).2.stage = .finish ∨
      (t.advance r).1 = r ∧ (t.advance r).2.stage.settling = true := by
  obtain ⟨d, stage, eventId, outcome⟩ := t
  cases stage with
  | settleOrder intent =>
    cases hfind : findOrderInBranch r intent.orderId intent.branchId with
    | none => exact .inl (by simp [WebhookThread.advance, hfind, WebhookThread.goto])
    | some order =>
      by_cases hended : order.status = .closed ∨ order.status = .voided
      · exact .inl (by simp [WebhookThread.advance, hfind, WebhookThread.goto, hended])
      · exact .inr (by simp [WebhookThread.advance, hfind, WebhookThread.goto, hended,
          WebhookStage.settling])
  | settleBalance intent => exact .inr ⟨rfl, rfl⟩
  | settlePayments intent total =>
    simp only [WebhookThread.advance, WebhookThread.goto, true_and]
    by_cases hpaid : (total.elim 0 fun total =>
        max (total - totalPaid r intent.orderId intent.branchId) 0) ≤ 0
    · refine .inr ?_
      cases total <;> simp_all [WebhookStage.settling]
    · refine .inl ?_
      cases total <;> simp_all
  | settleClose intent => exact .inl rfl
  | _ => cases h

namespace Progress

theorem found {t : WebhookThread} (hd : d.externalId = some e) (ht : t.delivery = d)
    (hresolve : resolveIntent s d e = some row) (events : Table WebhookEvent) :
    Progress s d { s with webhookEvents := events } (t.found e row).stage := by
  obtain hfinish | ⟨status, hstatus, hreadable, hstage⟩ := found_stage t e row
  · exact .ended (.inl hfinish) _
  · rw [hstage]
    rw [ht] at hstatus hreadable
    exact .update ⟨hd, hresolve, hstatus, hreadable⟩ events

theorem advance {t : WebhookThread} (h : Progress s t.delivery r t.stage) :
    Progress s t.delivery (t.advance r).1 (t.advance r).2.stage := by
  obtain ⟨d, stage, eventId, outcome⟩ := t
  simp only at h ⊢
  cases h with
  | receive =>
    simp only [WebhookThread.advance]
    cases hexternal : d.externalId with
    | none => exact .ended (.inl rfl) _
    | some e => exact .external hexternal _
  | external hd events =>
    rename_i e
    have hread : findByExternalId { s with webhookEvents := events } e = findByExternalId s e := rfl
    simp only [WebhookThread.advance, WebhookThread.afterFind, hread]
    cases hfind : findByExternalId s e with
    | none => exact .reference hd hfind events
    | some row =>
      have hresolve : resolveIntent s d e = some row := by simp [resolveIntent, hfind]
      exact .found hd rfl hresolve events
  | reference hd hexternal events =>
    rename_i e
    have hread : findByProviderRef { s with webhookEvents := events } d e =
        findByProviderRef s d e := rfl
    simp only [WebhookThread.advance, WebhookThread.afterFind, hread]
    cases hfind : findByProviderRef s d e with
    | none => exact .transaction hd hexternal hfind events
    | some row =>
      have hresolve : resolveIntent s d e = some row := by simp [resolveIntent, hexternal, hfind]
      exact .found hd rfl hresolve events
  | transaction hd hexternal hreference events =>
    rename_i e
    have hread : findByTransaction { s with webhookEvents := events } d = findByTransaction s d :=
      rfl
    simp only [WebhookThread.advance, WebhookThread.afterFind, hread]
    cases hfind : findByTransaction s d with
    | none => exact .ended (.inl rfl) _
    | some row =>
      have hresolve : resolveIntent s d e = some row := by
        simp [resolveIntent, hexternal, hreference, hfind]
      exact .found hd rfl hresolve events
  | update hlocates events =>
    rename_i e status k intent
    simp only [WebhookThread.advance]
    split
    · rename_i hsuccess
      cases hsuccess
      exact .find hlocates events
    · exact .ended (.inl rfl) _
  | find hlocates events =>
    rename_i e k intent
    have hread : existingPayment
        { updateIntent s d e .succeeded k intent with webhookEvents := events } e
        intent = existingPayment s e intent := rfl
    simp only [WebhookThread.advance, WebhookThread.goto, hread]
    cases hnew : existingPayment s e intent with
    | none => exact .create hlocates hnew events
    | some row => exact .ended (.inl rfl) _
  | create hlocates hnew events => exact .settle hlocates hnew rfl events
  | settle hlocates hnew hstage events =>
    obtain hfinish | ⟨hstore, hsettling⟩ := advance_settling _ ⟨d, stage, eventId, outcome⟩ hstage
    · exact .ended (.inl hfinish) _
    · rw [hstore]
      exact .settle hlocates hnew hsettling events
  | ended hstage r =>
    rcases hstage with rfl | rfl
    · exact .ended (.inr rfl) _
    · exact .ended (.inr rfl) _

end Progress

section

variable (s : Store) (d : Delivery)

theorem taken_delivery (n : Nat) :
    (WebhookThread.taken s { delivery := d } n).2.delivery = d := by
  induction n with
  | zero => rfl
  | succ n ih => exact (advance_delivery _ _).trans ih

theorem taken_progress (n : Nat) :
    Progress s d (WebhookThread.taken s { delivery := d } n).1
      (WebhookThread.taken s { delivery := d } n).2.stage := by
  induction n with
  | zero => exact .receive
  | succ n ih =>
    have hstep := Progress.advance (t := (WebhookThread.taken s { delivery := d } n).2)
      (by rwa [taken_delivery])
    rwa [taken_delivery] at hstep

theorem taken_reaches (n : Nat) :
    Relation.ReflTransGen (fun a b => WebhookThread.advance a.1 a.2 = b) (s, { delivery := d })
      (WebhookThread.taken s { delivery := d } n) := by
  induction n with
  | zero => exact .refl
  | succ n ih => exact ih.tail rfl

theorem done_stays (s : Store) (t : WebhookThread) (h : t.stage = .done) :
    t.advance s = (s, t) := by
  simp only [WebhookThread.advance, h]

/-- The statements that have ended did what `processWebhook` does. -/
theorem taken_done (h : (WebhookThread.taken s { delivery := d } n).2.stage = .done) :
    processWebhook s d = (WebhookThread.taken s { delivery := d } n).1 :=
  ((completes_processWebhook s d).resume done_stays (taken_reaches s d n)).eq_of_ended done_stays h

theorem taken_ended (h : (WebhookThread.taken s { delivery := d } n).2.stage = .finish ∨
      (WebhookThread.taken s { delivery := d } n).2.stage = .done) :
    SameTables (processWebhook s d) (WebhookThread.taken s { delivery := d } n).1 := by
  rcases h with hfinish | hdone
  · have hlast : (WebhookThread.taken s { delivery := d } (n + 1)).2.stage = .done := by
      simp only [WebhookThread.taken, WebhookThread.advance, hfinish, WebhookThread.goto]
    rw [taken_done s d hlast]
    simp only [WebhookThread.taken, WebhookThread.advance, hfinish]
    exact ⟨rfl, rfl, rfl⟩
  · rw [taken_done s d hdone]
    exact .refl _

end

/-- What comes after the failure writes no more than the event. -/
theorem fail_tables (r : Store) (t : WebhookThread) (f : Failure) :
    SameTables (f.fate.write r (t.advance r).1)
      (if f.finishes then ((t.fail r f.fate f.message).2.advance (t.fail r f.fate f.message).1).1
        else (t.fail r f.fate f.message).1) := by
  split
  · obtain ⟨d, stage, eventId, outcome⟩ := t
    cases stage <;> exact ⟨rfl, rfl, rfl⟩
  · exact .refl _

theorem Leaves.congr (h : Leaves s d stop r) (hr : SameTables r r') : Leaves s d stop r' := by
  cases h with
  | untouched h => exact .untouched (h.trans hr)
  | updated hlocates h => exact .updated hlocates (h.trans hr)
  | recorded hlocates hnew h => exact .recorded hlocates hnew (h.trans hr)
  | ended h => exact .ended (h.trans hr)

/-- Where a processing fails decides what it leaves. -/
theorem Progress.leaves {t : WebhookThread} (h : Progress s t.delivery r t.stage)
    (hended : t.stage = .finish ∨ t.stage = .done → SameTables (processWebhook s t.delivery) r)
    (hnext : (t.advance r).2.stage = .finish →
      SameTables (processWebhook s t.delivery) (t.advance r).1) (fate : Fate) :
    Leaves s t.delivery (t.stage.stop fate) (fate.write r (t.advance r).1) := by
  obtain ⟨d, stage, eventId, outcome⟩ := t
  simp only at h hended ⊢
  cases h with
  | receive =>
    refine .untouched ?_
    cases fate <;> exact ⟨rfl, rfl, rfl⟩
  | external hd events
  | reference hd hexternal events
  | transaction hd hexternal hreference events =>
    refine .untouched ?_
    cases fate <;> exact ⟨rfl, rfl, rfl⟩
  | update hlocates events =>
    cases fate with
    | applied | unanswered message => exact .updated hlocates ⟨rfl, rfl, rfl⟩
    | refused message => exact .untouched ⟨rfl, rfl, rfl⟩
  | find hlocates events =>
    refine .updated hlocates ?_
    cases fate <;> exact ⟨rfl, rfl, rfl⟩
  | create hlocates hnew events =>
    cases fate with
    | applied | unanswered message => exact .recorded hlocates hnew ⟨rfl, rfl, rfl⟩
    | refused message => exact .updated hlocates ⟨rfl, rfl, rfl⟩
  | settle hlocates hnew hstage events =>
    cases stage with
    | settleOrder intent =>
      refine .recorded hlocates hnew ?_
      simp only [WebhookThread.advance]
      split <;> cases fate <;> exact ⟨rfl, rfl, rfl⟩
    | settleBalance intent | settlePayments intent total =>
      refine .recorded hlocates hnew ?_
      cases fate <;> exact ⟨rfl, rfl, rfl⟩
    | settleClose intent =>
      cases fate with
      | applied | unanswered message => exact .ended (hnext rfl)
      | refused message => exact .recorded hlocates hnew ⟨rfl, rfl, rfl⟩
    | _ => cases hstage
  | ended hstage r =>
    have htables := hended hstage
    rcases hstage with rfl | rfl
    · refine .ended (htables.trans ?_)
      cases fate <;> exact ⟨rfl, rfl, rfl⟩
    · refine .ended (htables.trans ?_)
      cases fate <;> exact ⟨rfl, rfl, rfl⟩

theorem failedWebhook_leaves (d : Delivery) (s : Store) (f : Failure) :
    Leaves (s.tick f.wait) d (f.stop d s) (failedWebhook d s f) := by
  have hdelivery := taken_delivery (s.tick f.wait) d f.through
  have hnext := taken_ended (s.tick f.wait) d (n := f.through + 1)
  have hleaves := Progress.leaves (t := (f.reached d s).2) (r := (f.reached d s).1)
    (s := s.tick f.wait) (by rw [Failure.reached, hdelivery]; exact taken_progress _ d f.through)
    (by rw [Failure.reached, hdelivery]; exact taken_ended _ d)
    (by rw [Failure.reached, hdelivery]; exact fun hfinish => hnext (.inl hfinish)) f.fate
  have htables := hleaves.congr (fail_tables (f.reached d s).1 (f.reached d s).2 f)
  rwa [Failure.reached, hdelivery] at htables

-- ---
-- What the next processing makes of it
-- ---

/-- The payment that a processing would record. -/
def recording (s : Store) (d : Delivery) : Option (Id × PaymentIntent) :=
  d.externalId.bind fun e => (resolveIntent s d e).filter fun row =>
    normalizeStatus d.status == some .succeeded && d.payload.amount.readable &&
      (existingPayment s e row.2).isNone

theorem recording_iff : recording s d = some (k, intent) ↔
    ∃ e, Locates s d e .succeeded k intent ∧ existingPayment s e intent = none := by
  simp only [recording, Option.bind_eq_some_iff, Option.filter_eq_some_iff, Bool.and_eq_true,
    beq_iff_eq, Option.isNone_iff_eq_none]
  constructor
  · rintro ⟨e, hexternal, hresolve, ⟨hstatus, hreadable⟩, hnew⟩
    exact ⟨e, ⟨hexternal, hresolve, hstatus, hreadable⟩, hnew⟩
  · rintro ⟨e, hlocates, hnew⟩
    exact ⟨e, hlocates.external, hlocates.resolved, ⟨hlocates.normalized, hlocates.readable⟩, hnew⟩

/-- The payment has the amount that the intent gives once the callback has rewritten it. -/
def Agrees (d : Delivery) (intent : PaymentIntent) : Prop :=
  captured intent = d.payload.amount.confirmed.getD intent.amount

instance : Decidable (Agrees d intent) := inferInstanceAs (Decidable (_ = _))

/-- Where a payment is recorded, no processing stops between the rewritten intent and a payment of
another amount, nor between the payment and the order that it closes. -/
def harmless (d : Delivery) (s : Store) (f : Failure) : Prop :=
  ∀ row ∈ recording s d,
    (f.stop d s = .updated → Agrees d row.2) ∧ (f.stop d s = .recorded → ¬covers s row.2)

instance : Decidable (harmless d s f) := inferInstanceAs (Decidable (∀ row ∈ recording s d, _))

theorem settled_of_kept (hlocates : Locates s d e status k intent)
    (hkept : status = .succeeded → existingPayment s e intent ≠ none)
    (h : SameTables (updateIntent s d e status k intent) r) : Settled d r :=
  .of_rewritten hlocates h.intents fun hsuccess => by
    rw [existingPayment_congr h]
    exact hkept hsuccess

theorem settled_of_recorded (hlocates : Locates s d e .succeeded k intent)
    (h : SameTables (createPayment (updateIntent s d e .succeeded k intent) d e k intent) r) :
    Settled d r :=
  .of_rewritten hlocates h.intents fun _ => by
    rw [existingPayment_congr h]
    exact existingPayment_created

/-- The rewritten intent gives the payment its amount. -/
theorem captured_rewrites {d : Delivery} : captured (d.rewrites e status intent) =
    d.payload.amount.confirmed.getD intent.amount := rfl

/-- The payment that the next processing records when it finds the intent rewritten. -/
theorem sale_made_later (hlocates : Locates s d e .succeeded k intent)
    (hnew : existingPayment s e intent = none)
    (h : SameTables (updateIntent s d e .succeeded k intent) r) :
    (processWebhook r d).payments =
        s.payments.insert (capturedPayment r d e k (d.rewrites e .succeeded intent)) ∧
      (processWebhook r d).orders = if covers r (d.rewrites e .succeeded intent) then
        s.orders.update intent.orderId (closedAt r.clock) else s.orders := by
  have hnone : existingPayment r e (d.rewrites e .succeeded intent) = none := by
    rw [existingPayment_congr h]
    exact hnew
  obtain ⟨hpayments, horders⟩ := (hlocates.again h.intents).sale_made hnone
  rw [h.payments] at hpayments
  rw [h.orders] at horders
  exact ⟨hpayments, horders⟩

theorem Leaves.intents (h : Leaves s d stop r) :
    (processWebhook r d).paymentIntents = (processWebhook s d).paymentIntents := by
  cases h with
  | untouched h => exact (processWebhook_congr h).intents
  | updated hlocates h =>
    rw [(hlocates.again h.intents).intents, hlocates.rewritten h.intents, h.intents,
      hlocates.intents]
  | recorded hlocates hnew h =>
    rw [(settled_of_recorded hlocates h).processed.intents, h.intents, hlocates.intents]
    rfl
  | ended h =>
    rw [((processWebhook_settled s d).congr h).processed.intents, h.intents]

/-- The payments come out the same when an amount that was left to the next processing agrees. -/
theorem Leaves.payments (h : Leaves s d stop r)
    (hagrees : stop = .updated → ∀ row ∈ recording s d, Agrees d row.2) :
    Table.SameRows undatedPayment (processWebhook s d).payments (processWebhook r d).payments := by
  cases h with
  | untouched h => exact (processWebhook_congr h).payments
  | @updated e status k intent _ hlocates h =>
    obtain hkept | ⟨rfl, hnew⟩ := payment_cases s e status intent
    · rw [(settled_of_kept hlocates hkept h).processed.payments, h.payments,
        (hlocates.sale_kept hkept).payments]
      exact .refl _
    · have hamount : Agrees d intent :=
        hagrees rfl _ (recording_iff.mpr ⟨_, hlocates, hnew⟩)
      rw [(sale_made_later hlocates hnew h).1, (hlocates.sale_made hnew).1]
      exact .insert (.refl _) (undated_captured hamount.symm ⟨rfl, rfl, rfl⟩)
  | recorded hlocates hnew h =>
    rw [(settled_of_recorded hlocates h).processed.payments, h.payments,
      (hlocates.sale_made hnew).1]
    exact .refl _
  | ended h =>
    rw [((processWebhook_settled s d).congr h).processed.payments, h.payments]
    exact .refl _

theorem Leaves.orders (h : Leaves s d stop r)
    (hagrees : stop = .updated → ∀ row ∈ recording s d, Agrees d row.2)
    (hopen : stop = .recorded → ∀ row ∈ recording s d, ¬covers s row.2) :
    Table.SameRows undatedOrder (processWebhook s d).orders (processWebhook r d).orders := by
  cases h with
  | untouched h => exact (processWebhook_congr h).orders
  | @updated e status k intent _ hlocates h =>
    obtain hkept | ⟨rfl, hnew⟩ := payment_cases s e status intent
    · rw [(settled_of_kept hlocates hkept h).processed.orders, h.orders,
        (hlocates.sale_kept hkept).orders]
      exact .refl _
    · have hamount : Agrees d intent :=
        hagrees rfl _ (recording_iff.mpr ⟨_, hlocates, hnew⟩)
      have hcovers : covers r (d.rewrites e .succeeded intent) ↔ covers s intent :=
        covers_congr h.payments h.orders ⟨rfl, rfl⟩ hamount.symm
      rw [(sale_made_later hlocates hnew h).2, (hlocates.sale_made hnew).2]
      simp only [hcovers]
      split
      · exact .rewritten fun _ => rfl
      · exact .refl _
  | recorded hlocates hnew h =>
    have hnot := hopen rfl _ (recording_iff.mpr ⟨_, hlocates, hnew⟩)
    rw [(settled_of_recorded hlocates h).processed.orders, h.orders,
      (hlocates.sale_made hnew).2, if_neg hnot]
    exact .refl _
  | ended h =>
    rw [((processWebhook_settled s d).congr h).processed.orders, h.orders]
    exact .refl _

theorem tick_tables (s : Store) (wait : Nat) : SameTables s (s.tick wait) := ⟨rfl, rfl, rfl⟩

theorem harmless_converges (h : harmless d s f) :
    SameSale (processWebhook s d) (processWebhook (failedWebhook d s f) d) := by
  have hleaves := failedWebhook_leaves d s f
  have hsame : SameSale (processWebhook (s.tick f.wait) d)
      (processWebhook (failedWebhook d s f) d) :=
    ⟨hleaves.intents, hleaves.payments fun hstop row hrow => (h row hrow).1 hstop,
      hleaves.orders (fun hstop row hrow => (h row hrow).1 hstop)
        fun hstop row hrow => (h row hrow).2 hstop⟩
  exact SameSale.equivalence.trans (processWebhook_congr (tick_tables s f.wait)) hsame

-- ---
-- What no later processing makes good
-- ---

/-- Where the callback has been processed, further processings change nothing. -/
theorem Settled.failed (h : Settled d s) (f : Failure) : SameTables s (failedWebhook d s f) := by
  have hs : Settled d (s.tick f.wait) := h.congr (tick_tables s f.wait)
  have hleaves := failedWebhook_leaves d s f
  generalize f.stop d s = stop at hleaves
  refine (tick_tables s f.wait).trans ?_
  cases hleaves with
  | untouched h => exact h
  | updated hlocates h => exact .trans ⟨(hs _ _ _ _ hlocates).1, rfl, rfl⟩ h
  | recorded hlocates hnew h => exact absurd hnew ((hs _ _ _ _ hlocates).2 rfl)
  | ended h => exact hs.processed.trans h

theorem Settled.foldl (h : Settled d s) (failures : List Failure) :
    SameTables s (failures.foldl (failedWebhook d) s) := by
  induction failures generalizing s with
  | nil => exact .refl s
  | cons f failures ih => exact (h.failed f).trans (ih (h.congr (h.failed f)))

/-- An order that a processing left open is never closed. -/
theorem recorded_lost (h : Leaves s d .recorded r) (hrow : row ∈ recording s d)
    (hcovers : covers s row.2) (later : List Failure) :
    ¬SameSale (processWebhook s d) (processWebhook (later.foldl (failedWebhook d) r) d) := by
  cases h with
  | recorded hlocates hnew h =>
    obtain ⟨e, hlocates', _⟩ := recording_iff.mp (Option.mem_def.mp hrow)
    obtain ⟨rfl, _, rfl, rfl⟩ := hlocates.unique hlocates'
    have hsettled := settled_of_recorded hlocates h
    have hlast := hsettled.foldl later
    intro hsame
    have horders := hsame.orders.get? (k := row.2.orderId)
    obtain ⟨order, horder, hactive, _⟩ := id hcovers
    have hget := (findOrderInBranch_iff.mp horder).1
    rw [(hsettled.congr hlast).processed.orders, hlast.orders, h.orders,
      (hlocates.sale_made hnew).2, if_pos hcovers, Table.get?_update_self] at horders
    have hopen : (createPayment (updateIntent s d e .succeeded row.1 row.2) d e row.1
      row.2).orders.get? row.2.orderId = some order := hget
    rw [hopen, hget] at horders
    have hstatus := congrArg Order.status (Option.some.inj horders)
    simp only [undatedOrder, closedAt] at hstatus
    rw [hstatus] at hactive
    cases hactive

/-- A payment that is yet to be recorded has the amount that the rewritten intent gives. -/
def Agreed (d : Delivery) (s : Store) : Prop := ∀ row ∈ recording s d, Agrees d row.2

theorem agreed_of_rewritten (hlocates : Locates s d e status k intent)
    (hr : r.paymentIntents = (updateIntent s d e status k intent).paymentIntents) :
    Agreed d r := by
  intro row hrow
  obtain ⟨_, hlocates', _⟩ := recording_iff.mp (Option.mem_def.mp hrow)
  obtain ⟨_, _, _, hintent⟩ := (hlocates.again hr).unique hlocates'
  rw [hintent]
  exact captured_rewrites

theorem Settled.agreed (h : Settled d s) : Agreed d s := by
  intro row hrow
  obtain ⟨e, hlocates, hnew⟩ := recording_iff.mp (Option.mem_def.mp hrow)
  exact absurd hnew ((h _ _ _ _ hlocates).2 rfl)

theorem Leaves.agreed (h : Leaves s d stop r) (hs : Agreed d s) : Agreed d r := by
  cases h with
  | untouched h =>
    intro row hrow
    obtain ⟨e, hlocates, hnew⟩ := recording_iff.mp (Option.mem_def.mp hrow)
    have hback := h.symm
    refine hs row (recording_iff.mpr ⟨e, hlocates.congr hback.intents, ?_⟩)
    rw [existingPayment_congr hback]
    exact hnew
  | updated hlocates h => exact agreed_of_rewritten hlocates h.intents
  | recorded hlocates hnew h => exact agreed_of_rewritten hlocates h.intents
  | ended h => exact ((processWebhook_settled s d).congr h).agreed

theorem agreed_foldl (h : Agreed d s) (later : List Failure) :
    Table.SameRows undatedPayment (processWebhook s d).payments
      (processWebhook (later.foldl (failedWebhook d) s) d).payments := by
  induction later generalizing s with
  | nil => exact .refl _
  | cons f later ih =>
    have hleaves := failedWebhook_leaves d s f
    have hfirst := (processWebhook_congr (d := d) (tick_tables s f.wait)).payments.trans
      (hleaves.payments fun _ => h)
    exact hfirst.trans (ih (hleaves.agreed h))

/-- A payment of another amount stays one. -/
theorem updated_lost (h : Leaves s d .updated r) (hrow : row ∈ recording s d)
    (hnot : ¬Agrees d row.2) (later : List Failure) :
    ¬SameSale (processWebhook s d) (processWebhook (later.foldl (failedWebhook d) r) d) := by
  cases h with
  | updated hlocates h =>
    obtain ⟨_, hlocates', hnew⟩ := recording_iff.mp (Option.mem_def.mp hrow)
    obtain ⟨rfl, rfl, rfl, rfl⟩ := hlocates.unique hlocates'
    intro hsame
    have hlater := agreed_foldl (agreed_of_rewritten hlocates h.intents) later
    have hpayments := (hsame.payments.trans hlater.symm).get? (k := s.payments.next)
    rw [(sale_made_later hlocates hnew h).1, (hlocates.sale_made hnew).1, Table.get?_insert_self,
      Table.get?_insert_self] at hpayments
    have hamount := congrArg Payment.amount (Option.some.inj hpayments)
    exact hnot hamount.symm

theorem harmful_lost (h : ¬harmless d s f) (later : List Failure) :
    ¬SameSale (processWebhook s d)
      (processWebhook (later.foldl (failedWebhook d) (failedWebhook d s f)) d) := by
  intro hsame
  refine h fun row hrow => ?_
  have hleaves := failedWebhook_leaves d s f
  have hticked := SameSale.equivalence.trans
    (SameSale.equivalence.symm (processWebhook_congr (d := d) (tick_tables s f.wait))) hsame
  constructor
  · intro hstop
    rw [hstop] at hleaves
    by_contra hnot
    exact updated_lost hleaves hrow hnot later hticked
  · intro hstop hcovers
    rw [hstop] at hleaves
    exact recorded_lost hleaves hrow hcovers later hticked

/-- Redelivered until a processing succeeds, a callback leaves the sale that one processing leaves
exactly when each that failed was harmless. -/
theorem redelivered_iff (s : Store) (d : Delivery) (failures : List Failure) (wait : Nat) :
    SameSale (processWebhook s d)
        (processWebhook ((failures.foldl (failedWebhook d) s).tick wait) d) ↔
      Run (failedWebhook d) (harmless d) s failures (failures.foldl (failedWebhook d) s) := by
  have hwait : SameSale (processWebhook (failures.foldl (failedWebhook d) s) d)
      (processWebhook ((failures.foldl (failedWebhook d) s).tick wait) d) :=
    processWebhook_congr (tick_tables _ wait)
  have hkeeps : SameSale (processWebhook s d)
        (processWebhook (failures.foldl (failedWebhook d) s) d) ↔
      Run (failedWebhook d) (harmless d) s failures (failures.foldl (failedWebhook d) s) :=
    Run.keeps_iff (processWebhook · d) SameSale.equivalence
      (fun s f h => harmless_converges h) fun s f later h => harmful_lost h later
  refine Iff.trans ⟨fun h => ?_, fun h => ?_⟩ hkeeps
  · exact SameSale.equivalence.trans h (SameSale.equivalence.symm hwait)
  · exact SameSale.equivalence.trans h hwait

/-- The whole order is asked of the intent. -/
def awaitingWhole : Store :=
  { awaiting with
    paymentIntents := awaiting.paymentIntents.update 0 fun intent =>
      { intent with amount := 2000 } }

/-- The audit entry of the payment fails, and the order stays open; and a payment that is refused
the first time is recorded with the amount confirmed, as it would not have been at once. -/
theorem redelivered_differs :
    ¬(∀ (s : Store) (d : Delivery) (failures : List Failure) (wait : Nat),
      SameSale (processWebhook s d)
        (processWebhook ((failures.foldl (failedWebhook d) s).tick wait) d)) ∧
    ¬(∀ (s : Store) (d : Delivery) (failures : List Failure) (wait : Nat),
      Table.SameRows undatedPayment (processWebhook s d).payments
        (processWebhook ((failures.foldl (failedWebhook d) s).tick wait) d).payments) := by
  constructor
  · intro h
    have hsame := h awaitingWhole (success "intent")
      [{ through := 4, fate := .applied, message := "audit" }] 0
    have horders := congrArg (·.map (·.status)) (hsame.orders.get? (k := 0))
    revert horders
    decide +kernel
  · intro h
    have hsame := h awaiting (callback "SUCCESSFUL" (.value 600))
      [{ through := 4, fate := .refused "timeout" }] 0
    have hpayments := congrArg (·.map (·.amount)) (hsame.get? (k := 0))
    revert hpayments
    decide +kernel

end NimbusPos.PaymentsService
