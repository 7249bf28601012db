import NimbusPos.Payments.Closing
import NimbusPos.Payments.Confirmed

/-!
# What a callback makes of a sale

A processed callback rewrites the intent that it finds, records a payment when it reports a
success that is not recorded yet, and closes the order that the payment covers. It reads no more
than the intents, the payments and the orders. The intent is found again after it is rewritten,
and rewriting it again changes nothing.
-/

namespace NimbusPos.PaymentsService

open Lib

-- ---
-- The intent, the payment and the order
-- ---

structure SameTables (s t : Store) : Prop where
  intents : t.paymentIntents = s.paymentIntents
  payments : t.payments = s.payments
  orders : t.orders = s.orders

def undatedPayment (payment : Payment) : Payment := { payment with createdAt := 0 }

def undatedOrder (order : Order) : Order := { order with updatedAt := 0 }

/-- The same but for the times of the writes. -/
structure SameSale (s t : Store) : Prop where
  intents : t.paymentIntents = s.paymentIntents
  payments : Table.SameRows undatedPayment s.payments t.payments
  orders : Table.SameRows undatedOrder s.orders t.orders

namespace SameTables

theorem refl (s : Store) : SameTables s s := ⟨rfl, rfl, rfl⟩

theorem symm (h : SameTables s t) : SameTables t s :=
  ⟨h.intents.symm, h.payments.symm, h.orders.symm⟩

theorem trans (h : SameTables r s) (h' : SameTables s t) : SameTables r t :=
  ⟨h'.intents.trans h.intents, h'.payments.trans h.payments, h'.orders.trans h.orders⟩

theorem sale (h : SameTables s t) : SameSale s t := by
  refine ⟨h.intents, ?_, ?_⟩
  · rw [h.payments]
    exact .refl _
  · rw [h.orders]
    exact .refl _

end SameTables

theorem SameSale.equivalence : Equivalence SameSale where
  refl s := (SameTables.refl s).sale
  symm h := ⟨h.intents.symm, h.payments.symm, h.orders.symm⟩
  trans h h' := ⟨h'.intents.trans h.intents, h.payments.trans h'.payments, h.orders.trans h'.orders⟩

-- ---
-- The intent that a callback finds
-- ---

/-- The callback reports a status for the intent it finds. -/
structure Locates (s : Store) (d : Delivery) (e : String) (status : PaymentIntentStatus) (k : Id)
    (intent : PaymentIntent) : Prop where
  external : d.externalId = some e
  resolved : resolveIntent s d e = some (k, intent)
  normalized : normalizeStatus d.status = some status
  readable : d.payload.amount.readable = true

/-- The intent after the callback. -/
def Delivery.rewrites (d : Delivery) (e : String) (status : PaymentIntentStatus)
    (intent : PaymentIntent) : PaymentIntent :=
  { intent with
    status, providerRef := some e
    providerTransactionId := d.providerTransactionId <|> intent.providerTransactionId
    confirmedAmount := d.payload.amount.confirmed }

theorem updateIntent_update (h : s.paymentIntents.get? k = some intent) :
    (updateIntent s d e status k intent).paymentIntents =
      s.paymentIntents.update k (d.rewrites e status) := by
  simp only [updateIntent]
  refine Table.update_congr fun row hrow => ?_
  cases h.symm.trans hrow
  rfl

theorem resolveIntent_congr (h : t.paymentIntents = s.paymentIntents) :
    resolveIntent t d e = resolveIntent s d e := by
  simp only [resolveIntent, findByExternalId, findByProviderRef, findByTransaction, h]

namespace Locates

theorem get (h : Locates s d e status k intent) : s.paymentIntents.get? k = some intent :=
  resolveIntent_get h.resolved

theorem congr (h : Locates s d e status k intent) (ht : t.paymentIntents = s.paymentIntents) :
    Locates t d e status k intent :=
  ⟨h.external, (resolveIntent_congr ht).trans h.resolved, h.normalized, h.readable⟩

theorem unique (h : Locates s d e status k intent) (h' : Locates s d e' status' k' intent') :
    e' = e ∧ status' = status ∧ k' = k ∧ intent' = intent := by
  cases h.external.symm.trans h'.external
  cases h.normalized.symm.trans h'.normalized
  cases h.resolved.symm.trans h'.resolved
  exact ⟨rfl, rfl, rfl, rfl⟩

end Locates

/-- Whichever look-up found the intent, the rewritten one is found. -/
theorem resolveIntent_rewritten (h : resolveIntent s d e = some (k, intent))
    (ht : t.paymentIntents = s.paymentIntents.update k (d.rewrites e status)) :
    resolveIntent t d e = some (k, d.rewrites e status intent) := by
  have hget := resolveIntent_get h
  have hexternal : findByExternalId t e = (findByExternalId s e).map fun row =>
      (row.1, if row.1 = k then d.rewrites e status row.2 else row.2) := by
    rw [findByExternalId, ht]
    exact Table.findFirst_update s.paymentIntents k fun _ _ => rfl
  simp only [resolveIntent, Option.orElse_eq_orElse, Option.orElse_eq_or,
    Option.or_eq_some_iff] at h ⊢
  rw [hexternal]
  rcases h with h | ⟨hnone, h | ⟨hnoref, h⟩⟩
  · exact .inl (by simp [h])
  · refine .inr ⟨by simp [hnone], .inl ?_⟩
    have hprovider := (Table.findFirst_some h).2
    rw [findByProviderRef, ht]
    refine Table.findFirst_update_found h ?_
    simp only [Bool.and_eq_true] at hprovider
    simp [Delivery.rewrites, hprovider.2]
  · refine .inr ⟨by simp [hnone], .inl ?_⟩
    have hprovider : (intent.provider == d.provider) = true := by
      unfold findByTransaction at h
      split at h
      · cases h
      · have hfound := (Table.findFirst_some h).2
        simp only [Bool.and_eq_true] at hfound
        exact hfound.2
    rw [findByProviderRef, ht]
    refine Table.findFirst_of_only ?_ ?_ fun j other hother hp => ?_
    · rw [Table.get?_update_self, hget]
      rfl
    · simp [Delivery.rewrites, hprovider]
    · rcases Table.update_cases hother with ⟨hj, _⟩ | ⟨_, hother⟩
      · exact hj
      · rw [Table.findFirst_none.mp hnoref j other hother] at hp
        cases hp

/-- The callback finds the intent again after it rewrote it. -/
theorem Locates.again (h : Locates s d e status k intent)
    (ht : t.paymentIntents = (updateIntent s d e status k intent).paymentIntents) :
    Locates t d e status k (d.rewrites e status intent) := by
  rw [updateIntent_update h.get] at ht
  exact ⟨h.external, resolveIntent_rewritten h.resolved ht, h.normalized, h.readable⟩

theorem Delivery.rewrites_twice (d : Delivery) {status : PaymentIntentStatus} :
    d.rewrites e status (d.rewrites e status intent) = d.rewrites e status intent := by
  cases htxn : d.providerTransactionId <;> simp [Delivery.rewrites, htxn]

/-- Rewriting it again changes nothing. -/
theorem Locates.rewritten (h : Locates s d e status k intent)
    (ht : t.paymentIntents = (updateIntent s d e status k intent).paymentIntents) :
    (updateIntent t d e status k (d.rewrites e status intent)).paymentIntents =
      t.paymentIntents := by
  rw [updateIntent_update (h.again ht).get]
  refine Table.update_self fun row hrow => ?_
  cases (h.again ht).get.symm.trans hrow
  exact d.rewrites_twice

-- ---
-- One processing
-- ---

/-- What the order is still due, the payment of this intent would cover. -/
def covers (s : Store) (intent : PaymentIntent) : Prop :=
  ∃ order ∈ findOrderInBranch s intent.orderId intent.branchId, order.status.active = true ∧
    order.total ≤ totalPaid s intent.orderId intent.branchId + captured intent

instance : Decidable (covers s intent) :=
  inferInstanceAs (Decidable (∃ order ∈ findOrderInBranch s intent.orderId intent.branchId, _))

def closedAt (time : Time) (order : Order) : Order :=
  { order with status := .closed, updatedAt := time }

theorem autoSettle_orders (s : Store) (orderId branchId : Id)
    [Decidable (settles s orderId branchId)] :
    (autoSettleIfFullyPaid s orderId branchId).2 = if settles s orderId branchId then
      s.updateOrder orderId fun order => { order with status := .closed } else s := by
  split
  · rename_i hsettles
    obtain ⟨order, hfind, hactive, hpaid⟩ := hsettles
    have hopen : ¬(order.status = .closed ∨ order.status = .voided) := by
      simpa [OrderStatus.active] using hactive
    have hcovered : getOutstandingBalance s orderId branchId ≤ 0 := by
      simp only [getOutstandingBalance, hfind]
      exact max_le (sub_nonpos.mpr hpaid) (Int.le_refl 0)
    simp only [autoSettleIfFullyPaid, hfind, if_neg hopen, if_pos hcovered]
  · rename_i hnot
    obtain hsame | ⟨hsettles, _⟩ := autoSettle_cases s orderId branchId
    · rw [hsame]
    · exact absurd hsettles hnot

theorem totalPaid_createPayment (s : Store) (d : Delivery) (e : String) (k : Id)
    (intent : PaymentIntent) :
    totalPaid (createPayment s d e k intent) intent.orderId intent.branchId =
      totalPaid s intent.orderId intent.branchId + captured intent := by
  simp only [totalPaid, createPayment, Table.sumWhere_eq_total, Table.total_insert]
  simp [capturedPayment, captured]

theorem settles_createPayment :
    settles (createPayment (updateIntent s d e status k intent) d e k intent) intent.orderId
      intent.branchId ↔ covers s intent := by
  simp only [settles, totalPaid_createPayment, covers, Option.mem_def]
  rfl

theorem processWebhook_handled (s : Store) (d : Delivery) :
    SameTables (handleCallback (receive s d) d).1 (processWebhook s d) := ⟨rfl, rfl, rfl⟩

/-- A callback that reports nothing on an intent leaves the sale. -/
theorem processWebhook_idle (h : ∀ e status k intent, ¬Locates s d e status k intent) :
    SameTables s (processWebhook s d) := by
  refine SameTables.trans ?_ (processWebhook_handled s d)
  unfold handleCallback
  cases hexternal : d.externalId with
  | none => exact ⟨rfl, rfl, rfl⟩
  | some e =>
    have hreceived : resolveIntent (receive s d) d e = resolveIntent s d e := rfl
    simp only [hreceived]
    cases hresolve : resolveIntent s d e with
    | none => exact ⟨rfl, rfl, rfl⟩
    | some row =>
      simp only [handleIntent]
      cases hstatus : normalizeStatus d.status with
      | none => exact ⟨rfl, rfl, rfl⟩
      | some status =>
        cases hamount : d.payload.amount with
        | invalid text => exact ⟨rfl, rfl, rfl⟩
        | absent | value =>
          exact absurd ⟨hexternal, hresolve, hstatus, by rw [hamount]; rfl⟩ (h e status row.1 row.2)

/-- What is done with the intent that was found. -/
theorem Locates.handled (h : Locates s d e status k intent) :
    (handleCallback (receive s d) d).1 =
      if status = .succeeded then
        (recordSuccess (updateIntent (receive s d) d e status k intent) d e k intent).1
      else updateIntent (receive s d) d e status k intent := by
  have hresolve : resolveIntent (receive s d) d e = some (k, intent) := h.resolved
  have hreadable := h.readable
  simp only [handleCallback, h.external, hresolve, handleIntent, h.normalized]
  cases hamount : d.payload.amount with
  | invalid text => rw [hamount] at hreadable; cases hreadable
  | absent | value => cases status <;> rfl

namespace Locates

theorem intents (h : Locates s d e status k intent) : (processWebhook s d).paymentIntents =
    (updateIntent s d e status k intent).paymentIntents := by
  rw [(processWebhook_handled s d).intents, h.handled]
  split
  · exact (recordSuccess_stores _ d e k intent).1
  · rfl

/-- A callback that records no payment leaves the payments and the orders. -/
theorem sale_kept (h : Locates s d e status k intent)
    (hnot : status = .succeeded → existingPayment s e intent ≠ none) :
    SameTables (updateIntent s d e status k intent) (processWebhook s d) := by
  refine SameTables.trans ?_ (processWebhook_handled s d)
  rw [h.handled]
  split
  · rename_i hsuccess
    obtain ⟨row, hrow⟩ := Option.ne_none_iff_exists'.mp (hnot hsuccess)
    have hfound : existingPayment (updateIntent (receive s d) d e status k intent) e intent =
        some row := hrow
    rw [recordSuccess, hfound]
    exact ⟨rfl, rfl, rfl⟩
  · exact ⟨rfl, rfl, rfl⟩

/-- One that records the payment closes the order that it covers. -/
theorem sale_made (h : Locates s d e .succeeded k intent)
    (hnew : existingPayment s e intent = none) :
    (processWebhook s d).payments = s.payments.insert (capturedPayment s d e k intent) ∧
      (processWebhook s d).orders = if covers s intent then
        s.orders.update intent.orderId (closedAt s.clock) else s.orders := by
  classical
  have hnone : existingPayment (updateIntent (receive s d) d e .succeeded k intent) e intent =
      none := hnew
  have hsettles : settles (createPayment (updateIntent (receive s d) d e .succeeded k intent) d e k
      intent) intent.orderId intent.branchId ↔ covers s intent := settles_createPayment
  rw [(processWebhook_handled s d).payments, (processWebhook_handled s d).orders, h.handled,
    if_pos rfl, recordSuccess, hnone]
  simp only [autoSettle_orders, hsettles]
  split <;> exact ⟨rfl, rfl⟩

end Locates

-- ---
-- The tables that a processing reads
-- ---

theorem existingPayment_congr (h : SameTables s t) :
    existingPayment t e intent = existingPayment s e intent := by
  rw [existingPayment, h.payments, existingPayment]

theorem covers_congr (hpayments : t.payments = s.payments) (horders : t.orders = s.orders)
    (hsame : intent'.orderId = intent.orderId ∧ intent'.branchId = intent.branchId)
    (hcaptured : captured intent' = captured intent) : covers t intent' ↔ covers s intent := by
  rw [covers, covers, findOrderInBranch, findOrderInBranch, totalPaid, totalPaid, hpayments,
    horders, hsame.1, hsame.2, hcaptured]

/-- Two payments recorded at different times. -/
theorem undated_captured (h : captured intent' = captured intent)
    (hsame : intent'.orgId = intent.orgId ∧ intent'.branchId = intent.branchId ∧
      intent'.orderId = intent.orderId) :
    undatedPayment (capturedPayment s d e k intent) =
      undatedPayment (capturedPayment t d e k intent') := by
  simp only [captured] at h
  simp only [undatedPayment, capturedPayment, h, hsame]

/-- Whether the payment is found decides between the two. -/
theorem payment_cases (s : Store) (e : String) (status : PaymentIntentStatus)
    (intent : PaymentIntent) :
    (status = .succeeded → existingPayment s e intent ≠ none) ∨
      status = .succeeded ∧ existingPayment s e intent = none := by
  by_cases hsuccess : status = .succeeded
  · by_cases hnew : existingPayment s e intent = none
    · exact .inr ⟨hsuccess, hnew⟩
    · exact .inl fun _ => hnew
  · exact .inl fun h => absurd h hsuccess

theorem processWebhook_congr (h : SameTables s t) :
    SameSale (processWebhook s d) (processWebhook t d) := by
  by_cases hlocates : ∃ e status k intent, Locates s d e status k intent
  · obtain ⟨e, status, k, intent, hs⟩ := hlocates
    have ht := hs.congr h.intents
    have hintents : (processWebhook t d).paymentIntents = (processWebhook s d).paymentIntents := by
      rw [ht.intents, hs.intents, updateIntent_update ht.get, updateIntent_update hs.get, h.intents]
    obtain hkept | ⟨rfl, hnew⟩ := payment_cases s e status intent
    · have hs' := hs.sale_kept hkept
      have ht' := ht.sale_kept fun hsuccess => existingPayment_congr h ▸ hkept hsuccess
      have hpayments : (processWebhook t d).payments = (processWebhook s d).payments :=
        ht'.payments.trans (h.payments.trans hs'.payments.symm)
      have horders : (processWebhook t d).orders = (processWebhook s d).orders :=
        ht'.orders.trans (h.orders.trans hs'.orders.symm)
      exact SameTables.sale ⟨hintents, hpayments, horders⟩
    · obtain ⟨hspayments, hsorders⟩ := hs.sale_made hnew
      obtain ⟨htpayments, htorders⟩ := ht.sale_made ((existingPayment_congr h).trans hnew)
      refine ⟨hintents, ?_, ?_⟩
      · rw [hspayments, htpayments, h.payments]
        exact .insert (.refl _) (undated_captured rfl ⟨rfl, rfl, rfl⟩)
      · have hcovers : covers t intent ↔ covers s intent :=
          covers_congr h.payments h.orders ⟨rfl, rfl⟩ rfl
        rw [hsorders, htorders, h.orders]
        simp only [hcovers]
        split
        · exact .rewritten fun _ => rfl
        · exact .refl _
  · have hidle : ∀ e status k intent, ¬Locates s d e status k intent :=
      fun e status k intent hs => hlocates ⟨e, status, k, intent, hs⟩
    have hidle' : ∀ e status k intent, ¬Locates t d e status k intent :=
      fun e status k intent ht => hidle e status k intent (ht.congr h.intents.symm)
    exact ((processWebhook_idle hidle).symm.trans (h.trans (processWebhook_idle hidle'))).sale

/-- The callback has been processed: what it reports is written, and its payment recorded. -/
def Settled (d : Delivery) (s : Store) : Prop :=
  ∀ e status k intent, Locates s d e status k intent →
    (updateIntent s d e status k intent).paymentIntents = s.paymentIntents ∧
      (status = .succeeded → existingPayment s e intent ≠ none)

namespace Settled

theorem processed (h : Settled d s) : SameTables s (processWebhook s d) := by
  by_cases hlocates : ∃ e status k intent, Locates s d e status k intent
  · obtain ⟨e, status, k, intent, hs⟩ := hlocates
    obtain ⟨hsame, hpaid⟩ := h e status k intent hs
    exact SameTables.trans ⟨hsame, rfl, rfl⟩ (hs.sale_kept hpaid)
  · exact processWebhook_idle fun e status k intent hs => hlocates ⟨e, status, k, intent, hs⟩

theorem congr (h : Settled d s) (ht : SameTables s t) : Settled d t := by
  intro e status k intent hlocates
  have hs := hlocates.congr ht.intents.symm
  obtain ⟨hsame, hpaid⟩ := h e status k intent hs
  refine ⟨?_, fun hsuccess => existingPayment_congr ht ▸ hpaid hsuccess⟩
  rw [updateIntent_update hs.get] at hsame
  rw [updateIntent_update hlocates.get, ht.intents, hsame]

theorem of_rewritten (hs : Locates s d e status k intent)
    (hintents : t.paymentIntents = (updateIntent s d e status k intent).paymentIntents)
    (hpaid : status = .succeeded → existingPayment t e intent ≠ none) : Settled d t := by
  intro e' status' k' intent' hlocates
  obtain ⟨rfl, rfl, rfl, rfl⟩ := (hs.again hintents).unique hlocates
  exact ⟨hs.rewritten hintents, hpaid⟩

end Settled

theorem existingPayment_created :
    existingPayment (createPayment s d e k intent) e intent ≠ none := by
  rw [existingPayment, createPayment, Table.findFirst_insert]
  simp [capturedPayment]

/-- One processing is enough. -/
theorem processWebhook_settled (s : Store) (d : Delivery) : Settled d (processWebhook s d) := by
  by_cases hlocates : ∃ e status k intent, Locates s d e status k intent
  · obtain ⟨e, status, k, intent, hs⟩ := hlocates
    refine .of_rewritten hs hs.intents fun hsuccess => ?_
    obtain hkept | ⟨rfl, hnew⟩ := payment_cases s e status intent
    · rw [existingPayment_congr (hs.sale_kept hkept)]
      exact hkept hsuccess
    · rw [existingPayment, (hs.sale_made hnew).1]
      exact existingPayment_created
  · have hidle : ∀ e status k intent, ¬Locates s d e status k intent :=
      fun e status k intent hs => hlocates ⟨e, status, k, intent, hs⟩
    intro e status k intent h
    exact absurd (h.congr (processWebhook_idle hidle).symm.intents) (hidle e status k intent)

end NimbusPos.PaymentsService
