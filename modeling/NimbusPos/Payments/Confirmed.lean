import NimbusPos.Payments.Webhook

/-!
# The amount of a captured payment

A callback writes the amount that it confirms to the intent, and records the payment from the
row as it was found before. The payment has what the callback before confirmed, and is right
where this one confirms the same.
-/

namespace NimbusPos.PaymentsService

open Lib

-- ---
-- One callback
-- ---

/-- The payment that a callback records. -/
def recorded (s : Store) (d : Delivery) : Option Payment :=
  (processWebhook s d).payments.get? s.payments.next

/-- `new Decimal` takes the amount. -/
def WebhookAmount.readable : WebhookAmount → Bool
  | .invalid _ => false
  | _ => true

/-- The callback reports a status, with an amount that can be read or none. -/
def Delivery.reports (d : Delivery) : Bool :=
  (normalizeStatus d.status).isSome && d.payload.amount.readable

/-- The intent that a callback writes. -/
def Delivery.writes (d : Delivery) (s : Store) : Option Id :=
  if d.reports then (d.externalId.bind (resolveIntent s d)).map (·.1) else none

/-- What stays of an intent, and what one of them is confirmed with. -/
def Confirms (s t : Store) (written : Option Id) (confirmed : Option Cents) : Prop :=
  ∀ k intent, t.paymentIntents.get? k = some intent →
    ∃ old, s.paymentIntents.get? k = some old ∧
      intent.confirmedAmount = if written = some k then confirmed else old.confirmedAmount

theorem Confirms.same (h : t.paymentIntents = s.paymentIntents) (confirmed : Option Cents) :
    Confirms s t none confirmed :=
  fun _ intent hget => ⟨intent, h ▸ hget, rfl⟩

theorem Confirms.update (s : Store) (d : Delivery) (e : String) (status : PaymentIntentStatus)
    (k : Id) (intent : PaymentIntent) (ht : t.paymentIntents =
      (updateIntent s d e status k intent).paymentIntents) :
    Confirms s t (some k) d.payload.amount.confirmed := by
  intro j row hget
  rw [ht] at hget
  replace hget : (s.paymentIntents.update k _).get? j = some row := hget
  rcases Table.update_cases hget with ⟨hj, old, hold, rfl⟩ | ⟨hj, hget⟩
  · exact ⟨old, hold, by simp [hj]⟩
  · exact ⟨row, hget, by simp [Ne.symm hj]⟩

/-- A payment that is recorded is the one made from the intent that was found. -/
theorem recordSuccess_stores (s : Store) (d : Delivery) (e : String) (k : Id)
    (intent : PaymentIntent) :
    (recordSuccess s d e k intent).1.paymentIntents = s.paymentIntents ∧
      ((recordSuccess s d e k intent).1.payments = s.payments ∨
        (recordSuccess s d e k intent).1.payments =
          s.payments.insert (capturedPayment s d e k intent)) := by
  unfold recordSuccess
  split
  · exact ⟨rfl, .inl rfl⟩
  · obtain hsettle | ⟨-, hsettle⟩ := autoSettle_cases (createPayment s d e k intent)
        intent.orderId intent.branchId
    · rw [hsettle]
      exact ⟨rfl, .inr rfl⟩
    · rw [hsettle]
      exact ⟨rfl, .inr rfl⟩

theorem handleIntent_stores (s : Store) (d : Delivery) (e : String) (k : Id)
    (intent : PaymentIntent) :
    Confirms s (handleIntent s d e k intent).1 (if d.reports then some k else none)
        d.payload.amount.confirmed ∧
      ((handleIntent s d e k intent).1.payments = s.payments ∨
        (handleIntent s d e k intent).1.payments =
          s.payments.insert (capturedPayment s d e k intent)) := by
  unfold handleIntent Delivery.reports
  cases hstatus : normalizeStatus d.status with
  | none => exact ⟨.same rfl _, .inl rfl⟩
  | some status =>
    have hwritten (t : Store) (ht : t.paymentIntents =
        (updateIntent s d e status k intent).paymentIntents) :
        Confirms s t (some k) d.payload.amount.confirmed :=
      .update s d e status k intent ht
    cases hamount : d.payload.amount with
    | invalid text => exact ⟨.same rfl _, .inl rfl⟩
    | absent | value =>
      rw [hamount] at hwritten
      cases status with
      | succeeded =>
        obtain ⟨hintents, hpayments⟩ :=
          recordSuccess_stores (updateIntent s d e .succeeded k intent) d e k intent
        exact ⟨hwritten _ hintents, hpayments⟩
      | _ => exact ⟨hwritten _ rfl, .inl rfl⟩

theorem handleCallback_stores (s : Store) (d : Delivery) :
    Confirms s (handleCallback s d).1 (d.writes s) d.payload.amount.confirmed ∧
      ((handleCallback s d).1.payments = s.payments ∨
        ∃ e k intent, s.paymentIntents.get? k = some intent ∧ (handleCallback s d).1.payments =
          s.payments.insert (capturedPayment s d e k intent)) := by
  unfold handleCallback Delivery.writes
  cases hexternal : d.externalId with
  | none =>
    refine ⟨?_, .inl rfl⟩
    simpa using Confirms.same rfl _
  | some e =>
    cases hresolve : resolveIntent s d e with
    | none =>
      refine ⟨?_, .inl (by simp [hresolve])⟩
      simpa [hresolve] using Confirms.same rfl _
    | some row =>
      obtain ⟨hconfirms, hpayments⟩ := handleIntent_stores s d e row.1 row.2
      simp only [Option.bind_some, hresolve, Option.map_some]
      refine ⟨hconfirms, hpayments.imp_right fun hpayment => ?_⟩
      exact ⟨e, row.1, row.2, resolveIntent_get hresolve, hpayment⟩

theorem processWebhook_confirms (s : Store) (d : Delivery) :
    Confirms s (processWebhook s d) (d.writes s) d.payload.amount.confirmed :=
  (handleCallback_stores (receive s d) d).1

/-- The amount is the one that the intent was confirmed with before, or else the intent's. -/
theorem recorded_amount (h : recorded s d = some payment) :
    ∃ intentId intent, payment.paymentIntentId = some intentId ∧
      s.paymentIntents.get? intentId = some intent ∧
      payment.amount = intent.confirmedAmount.getD intent.amount := by
  have hpayments : (processWebhook s d).payments = s.payments ∨
      ∃ e k intent, s.paymentIntents.get? k = some intent ∧ (processWebhook s d).payments =
        s.payments.insert (capturedPayment s d e k intent) :=
    (handleCallback_stores (receive s d) d).2
  rw [recorded] at h
  obtain hsame | ⟨e, k, intent, hget, hnew⟩ := hpayments
  · rw [hsame, Table.get?_next] at h
    cases h
  · rw [hnew, Table.get?_insert_self] at h
    cases h
    exact ⟨k, intent, rfl, hget, rfl⟩

-- ---
-- Callback after callback
-- ---

/-- The store, and what each intent was last confirmed with. -/
structure Callbacks where
  store : Store
  last : Id → Option Cents

namespace Callbacks

def start (s : Store) : Callbacks where
  store := s
  last k := (s.paymentIntents.get? k).bind (·.confirmedAmount)

def next (c : Callbacks) (d : Delivery) : Callbacks where
  store := processWebhook c.store d
  last k := if d.writes c.store = some k then d.payload.amount.confirmed else c.last k

/-- The intents have what the callbacks confirmed. -/
def Agrees (c : Callbacks) : Prop :=
  ∀ k intent, c.store.paymentIntents.get? k = some intent → intent.confirmedAmount = c.last k

theorem Agrees.next (h : Agrees c) (d : Delivery) : Agrees (c.next d) := by
  intro k intent hget
  obtain ⟨old, hold, hconfirmed⟩ := processWebhook_confirms c.store d k intent hget
  rw [hconfirmed, h k old hold]
  rfl

theorem run_agrees (hrun : Run next (fun _ _ => True) (start s) earlier c) : Agrees c := by
  refine hrun.invariant (fun k intent hget => ?_) fun _ d h _ => h.next d
  replace hget : s.paymentIntents.get? k = some intent := hget
  simp [start, hget]

end Callbacks

/-- A payment has the amount that its callback confirms, or else the intent's, exactly when the
last callback before it that wrote the intent confirmed as much. -/
theorem recorded_amount_iff (hrun : Run Callbacks.next (fun _ _ => True) (.start s) earlier c)
    (h : recorded c.store d = some payment) :
    ∃ intentId intent, payment.paymentIntentId = some intentId ∧
      c.store.paymentIntents.get? intentId = some intent ∧
      (payment.amount = d.payload.amount.confirmed.getD intent.amount ↔
        (c.last intentId).getD intent.amount =
          d.payload.amount.confirmed.getD intent.amount) := by
  obtain ⟨intentId, intent, hid, hget, hamount⟩ := recorded_amount h
  refine ⟨intentId, intent, hid, hget, ?_⟩
  rw [hamount, Callbacks.run_agrees hrun intentId intent hget]

/-- An intent of 1000. -/
def requestedIntent : Store where
  paymentIntents := Table.empty.insert
    { orgId := 0, branchId := 0, orderId := 0, provider := .mtn, amount := 1000
      status := .requiresAction, externalId := some "intent" }

def callback (status : String) (amount : WebhookAmount) : Delivery :=
  ⟨.mtn, { externalId := some "intent", status := some status, amount }⟩

def recordedPayment (amount : Cents) : Payment :=
  { orgId := 0, branchId := 0, orderId := 0, amount, method := .momo, status := .completed
    transactionId := some "intent", paymentIntentId := some 0, createdAt := 0 }

/-- A pending callback and the successful one confirm the same part. -/
theorem recorded_amount_iff_part :
    let c := [callback "PENDING" (.value 600)].foldl Callbacks.next (.start requestedIntent)
    recorded c.store (callback "SUCCESSFUL" (.value 600)) = some (recordedPayment 600) ∧
      ∃ intent, c.store.paymentIntents.get? 0 = some intent ∧
        ((recordedPayment 600).amount = 600 ↔ (c.last 0).getD intent.amount = 600) := by
  intro c
  have hrecorded : recorded c.store (callback "SUCCESSFUL" (.value 600)) =
      some (recordedPayment 600) := by
    decide +kernel
  refine ⟨hrecorded, ?_⟩
  obtain ⟨intentId, intent, hid, hget, hiff⟩ := recorded_amount_iff (Run.foldl _ _ _) hrecorded
  cases hid
  exact ⟨intent, hget, hiff⟩

/-- A callback confirms a part of the intent, or another part than the callback before it, or
nothing after one that did. -/
def misread : List (List Delivery × Delivery × Cents × Cents) :=
  [([], callback "SUCCESSFUL" (.value 600), 1000, 600),
    ([callback "PENDING" (.value 400)], callback "SUCCESSFUL" (.value 600), 400, 600),
    ([callback "PENDING" (.value 400)], callback "SUCCESSFUL" .absent, 400, 1000)]

theorem recorded_amount_misread :
    ¬(∀ (s : Store) (earlier : List Delivery) (d : Delivery) (c : Callbacks) (payment : Payment)
        (intentId : Id) (intent : PaymentIntent),
      Run Callbacks.next (fun _ _ => True) (.start s) earlier c →
      recorded c.store d = some payment → payment.paymentIntentId = some intentId →
      c.store.paymentIntents.get? intentId = some intent →
      payment.amount = d.payload.amount.confirmed.getD intent.amount) ∧
    ∀ run ∈ misread,
      let c := run.1.foldl Callbacks.next (.start requestedIntent)
      recorded c.store run.2.1 = some (recordedPayment run.2.2.1) ∧
        (c.store.paymentIntents.get? 0).map (fun intent =>
          run.2.1.payload.amount.confirmed.getD intent.amount) = some run.2.2.2 := by
  have hruns : ∀ run ∈ misread,
      let c := run.1.foldl Callbacks.next (.start requestedIntent)
      recorded c.store run.2.1 = some (recordedPayment run.2.2.1) ∧
        (c.store.paymentIntents.get? 0).map (fun intent =>
          run.2.1.payload.amount.confirmed.getD intent.amount) = some run.2.2.2 := by
    decide +kernel
  refine ⟨fun h => ?_, hruns⟩
  obtain ⟨hrecorded, hexpected⟩ := hruns _ (.head _)
  obtain ⟨intent, hget, hamount⟩ := Option.map_eq_some_iff.mp hexpected
  have hsame := h requestedIntent [] _ _ _ 0 intent (Run.foldl _ _ []) hrecorded rfl hget
  rw [hamount] at hsame
  exact absurd hsame (by decide)

end NimbusPos.PaymentsService
