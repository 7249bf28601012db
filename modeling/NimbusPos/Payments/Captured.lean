import NimbusPos.Payments.Deliveries

/-!
# Captured intents

A delivery writes the status it reports, whatever the intent's status is by then,
and a cancel writes after a check that an earlier statement made. A captured
intent stays captured in every interleaving in which no statement moves it; a
payment is recorded only for a captured one.
-/

namespace NimbusPos.PaymentsService

open Lib Lib.Service

-- ---
-- A cancel, statement by statement
-- ---

def cancelIntent (s : Store) (intentId : Id) : Store :=
  { s with
    paymentIntents := s.paymentIntents.update intentId fun intent =>
      { intent with status := .cancelled } }

def findIntent (s : Store) (ctx : BranchContext) (intentId : Id) : Option PaymentIntent :=
  (s.paymentIntents.get? intentId).filter fun intent =>
    intent.branchId == ctx.branchId && intent.orgId == ctx.organizationId

inductive CancelStage
  | findIntent (ctx : BranchContext) (intentId : Id)
  | cancel (intentId : Id)
  | done
  deriving DecidableEq, Repr

def CancelStage.advance (s : Store) : CancelStage → Store × CancelStage
  | .findIntent ctx intentId =>
    match PaymentsService.findIntent s ctx intentId with
    | none => (s, .done)
    | some intent =>
      (s, if intent.status = .pending ∨ intent.status = .requiresAction then .cancel intentId
        else .done)
  | .cancel intentId => (cancelIntent s intentId, .done)
  | .done => (s, .done)

/-- A callback or a cancel under way. -/
inductive IntentThread
  | delivery (t : WebhookThread)
  | cancel (stage : CancelStage)
  deriving DecidableEq, Repr

inductive IntentRequest
  | processWebhook (d : Delivery)
  | cancelPaymentIntent (ctx : BranchContext) (intentId : Id)
  deriving DecidableEq, Repr

def IntentRequest.start : IntentRequest → IntentThread
  | .processWebhook d => .delivery { delivery := d }
  | .cancelPaymentIntent ctx intentId => .cancel (.findIntent ctx intentId)

def IntentThread.advance (s : Store) : IntentThread → Store × IntentThread
  | .delivery t => ((t.advance s).1, .delivery (t.advance s).2)
  | .cancel stage => ((stage.advance s).1, .cancel (stage.advance s).2)

def requested (s : Store) (requests : List IntentRequest) : Pool Store IntentThread :=
  ⟨s, requests.map (·.start)⟩

/-- The statements of a cancel, run alone, do what `cancelPaymentIntent` does. -/
theorem completes_cancel (s : Store) (ctx : BranchContext) (intentId : Id) :
    Completes CancelStage.advance (· = .done) s (.findIntent ctx intentId)
      (final (cancelPaymentIntent ctx intentId s)) := by
  unfold cancelPaymentIntent
  rw [final_get]
  cases hfind : findIntent s ctx intentId with
  | none =>
    have hnone : (s.paymentIntents.get? intentId).filter (fun intent =>
      intent.branchId == ctx.branchId && intent.orgId == ctx.organizationId) = none := hfind
    rw [hnone, final_need_none]
    exact .step (by simp only [CancelStage.advance, hfind]) (.of_ended rfl)
  | some intent =>
    have hsome : (s.paymentIntents.get? intentId).filter (fun intent =>
      intent.branchId == ctx.branchId && intent.orgId == ctx.organizationId) = some intent := hfind
    rw [hsome, final_need_some, final_ensure, final_modify]
    by_cases hopen : intent.status = .pending ∨ intent.status = .requiresAction
    · have hcheck : (intent.status == .pending || intent.status == .requiresAction) = true := by
        simpa using hopen
      have hread : CancelStage.advance s (.findIntent ctx intentId) = (s, .cancel intentId) := by
        simp only [CancelStage.advance, hfind, if_pos hopen]
      rw [hcheck, if_pos rfl]
      exact .step hread (.step rfl (.of_ended rfl))
    · have hcheck : (intent.status == .pending || intent.status == .requiresAction) = false := by
        simpa using hopen
      have hread : CancelStage.advance s (.findIntent ctx intentId) = (s, .done) := by
        simp only [CancelStage.advance, hfind, if_neg hopen]
      rw [hcheck]
      exact .step hread (.of_ended rfl)

-- ---
-- Captured intents, and the statements that move one
-- ---

def Succeeded (s : Store) (intentId : Id) : Prop :=
  ∃ intent ∈ s.paymentIntents.get? intentId, intent.status = .succeeded

/-- A completed payment was recorded for the intent. -/
def Captured (s : Store) (intentId : Id) : Prop := 0 < charges s intentId

instance : Decidable (Succeeded s intentId) := inferInstanceAs (Decidable (∃ _ ∈ _, _))

instance : Decidable (Captured s intentId) := inferInstanceAs (Decidable (_ < _))

/-- The next statement writes another status to the intent. -/
def IntentThread.moves (intentId : Id) : IntentThread → Bool
  | .delivery { stage := .updateIntent _ status k _, .. } => k == intentId && status != .succeeded
  | .cancel (.cancel k) => k == intentId
  | _ => false

/-- What a thread relies on: the row it is to update exists, and an intent whose
payment it is to look for or record is captured. -/
def IntentThread.Holds (s : Store) (intentId : Id) : IntentThread → Prop
  | .delivery { stage := .updateIntent _ _ k _, .. } =>
    ∃ intent, s.paymentIntents.get? k = some intent
  | .delivery { stage := .findPayment _ k _, .. } => k = intentId → Succeeded s k
  | .delivery { stage := .createPayment _ k _, .. } => k = intentId → Succeeded s k
  | _ => True

theorem Succeeded.of_intents (h : Succeeded s k) (hintents : r.paymentIntents = s.paymentIntents) :
    Succeeded r k := by
  rw [Succeeded, hintents]
  exact h

-- ---
-- One statement
-- ---

/-- What one statement does to the intents: nothing, or one update of one row. -/
theorem advance_intents (s : Store) (t : IntentThread) :
    (t.advance s).1.paymentIntents = s.paymentIntents ∨
      (∃ d e status k intent eventId outcome,
        t = .delivery ⟨d, .updateIntent e status k intent, eventId, outcome⟩ ∧
        (t.advance s).1 = updateIntent s d e status k intent) ∨
      ∃ k, t = .cancel (.cancel k) ∧ (t.advance s).1 = cancelIntent s k := by
  rcases t with t | stage
  · obtain ⟨d, stage, eventId, outcome⟩ := t
    cases stage with
    | updateIntent e status k intent =>
      exact .inr (.inl ⟨d, e, status, k, intent, eventId, outcome, rfl, rfl⟩)
    | settleOrder intent =>
      refine .inl ?_
      simp only [IntentThread.advance, WebhookThread.advance]
      split <;> rfl
    | _ => exact .inl rfl
  · cases stage with
    | cancel k => exact .inr (.inr ⟨k, rfl, rfl⟩)
    | findIntent ctx k =>
      refine .inl ?_
      simp only [IntentThread.advance, CancelStage.advance]
      split <;> rfl
    | done => exact .inl rfl

/-- No statement removes an intent. -/
theorem advance_exists (s : Store) (t : IntentThread)
    (h : ∃ intent, s.paymentIntents.get? k = some intent) :
    ∃ intent, (t.advance s).1.paymentIntents.get? k = some intent := by
  rcases advance_intents s t with hsame | ⟨d, e, status, j, intent, _, _, _, hadvance⟩ |
    ⟨j, _, hadvance⟩
  · rw [hsame]
    exact h
  · rw [hadvance]
    exact Table.exists_update h
  · rw [hadvance]
    exact Table.exists_update h

theorem Succeeded.advance (h : Succeeded s intentId) (t : IntentThread)
    (hmoves : t.moves intentId = false) :
    Succeeded (t.advance s).1 intentId := by
  obtain ⟨row, hrow, hstatus⟩ := h
  rcases advance_intents s t with hsame | ⟨d, e, status, k, intent, _, _, rfl, hadvance⟩ |
    ⟨k, rfl, hadvance⟩
  · exact Succeeded.of_intents ⟨row, hrow, hstatus⟩ hsame
  · rw [hadvance]
    by_cases hk : intentId = k
    · subst hk
      have hwrites : status = .succeeded := by simpa [IntentThread.moves] using hmoves
      exact ⟨_, by rw [updateIntent, Table.get?_update_self, hrow]; rfl, hwrites⟩
    · exact ⟨row, by rw [updateIntent, Table.get?_update_ne _ _ hk, hrow]; rfl, hstatus⟩
  · have hk : intentId ≠ k := by
      rintro rfl
      simp [IntentThread.moves] at hmoves
    rw [hadvance]
    exact ⟨row, by rw [cancelIntent, Table.get?_update_ne _ _ hk, hrow]; rfl, hstatus⟩

theorem holds_found (s : Store) (t : WebhookThread) (e : String)
    (h : s.paymentIntents.get? row.1 = some row.2) :
    IntentThread.Holds s intentId (.delivery (t.found e row)) := by
  unfold WebhookThread.found
  split
  · trivial
  · trivial
  · exact ⟨row.2, h⟩

theorem holds_afterFind (s : Store) (t : WebhookThread) (e : String)
    (h : IntentThread.Holds s intentId (.delivery (t.goto otherwise)))
    (p : Nat → PaymentIntent → Bool) :
    IntentThread.Holds s intentId
      (.delivery (t.afterFind e (s.paymentIntents.findFirst p) otherwise)) := by
  cases hrow : s.paymentIntents.findFirst p with
  | none => exact h
  | some row => exact holds_found s t e (Table.findFirst_some hrow).1

theorem holds_goto_ite {t : WebhookThread} [Decidable c]
    (ha : IntentThread.Holds s intentId (.delivery (t.goto a)))
    (hb : IntentThread.Holds s intentId (.delivery (t.goto b))) :
    IntentThread.Holds s intentId (.delivery (t.goto (if c then a else b))) := by
  split <;> assumption

/-- The thread that moves establishes what it relies on next. -/
theorem holds_own (s : Store) (t : IntentThread) (h : t.Holds s intentId) :
    (t.advance s).2.Holds (t.advance s).1 intentId := by
  rcases t with t | stage
  · obtain ⟨d, stage, eventId, outcome⟩ := t
    cases stage with
    | receive =>
      simp only [IntentThread.advance, WebhookThread.advance]
      cases d.externalId <;> trivial
    | findByExternalId e | findByProviderRef e =>
      refine holds_afterFind s _ e ?_ _
      trivial
    | findByTransaction e =>
      simp only [IntentThread.advance, WebhookThread.advance, findByTransaction]
      cases truthy d.providerTransactionId with
      | none => trivial
      | some txn =>
        refine holds_afterFind s _ e ?_ _
        trivial
    | updateIntent e status k intent =>
      simp only [IntentThread.advance, WebhookThread.advance]
      obtain ⟨row, hrow⟩ := h
      by_cases hsuccess : status = .succeeded
      · rw [if_pos hsuccess]
        intro _
        exact ⟨_, by rw [updateIntent, Table.get?_update_self, hrow]; rfl, hsuccess⟩
      · rw [if_neg hsuccess]
        trivial
    | findPayment e k intent =>
      exact holds_goto_ite (t := ⟨d, _, eventId, outcome⟩) trivial h
    | settleOrder intent =>
      simp only [IntentThread.advance, WebhookThread.advance]
      split
      · trivial
      · exact holds_goto_ite (t := ⟨d, _, eventId, outcome⟩) trivial trivial
    | settlePayments intent total =>
      exact holds_goto_ite (t := ⟨d, _, eventId, outcome⟩) trivial trivial
    | createPayment e k intent | settleBalance intent | settleClose intent | finish | done =>
      trivial
  · trivial

/-- What another thread relies on stays. -/
theorem holds_others (s : Store) (t u : IntentThread) (hu : u.Holds s intentId)
    (hmoves : Succeeded s intentId → t.moves intentId = false) :
    u.Holds (t.advance s).1 intentId := by
  rcases u with ⟨d, stage, eventId, outcome⟩ | stage
  · cases stage with
    | updateIntent e status k intent => exact advance_exists s t hu
    | findPayment e k intent | createPayment e k intent =>
      rintro rfl
      exact (hu rfl).advance t (hmoves (hu rfl))
    | _ => trivial
  · trivial

/-- A charge is recorded by a delivery that saw the intent captured. -/
theorem captured_advance (s : Store) (t : IntentThread) (h : t.Holds s intentId)
    (hcaptured : Captured (t.advance s).1 intentId) :
    Captured s intentId ∨ Succeeded s intentId := by
  rcases t with t | stage
  · have hcharges := WebhookThread.advance_charges s t intentId
    by_cases hactive : t.pending intentId + t.misses s intentId = 0
    · refine .inl ?_
      have hafter : 0 < charges (t.advance s).1 intentId := hcaptured
      have hbefore : 0 < charges s intentId := by omega
      exact hbefore
    · refine .inr ?_
      obtain ⟨d, stage, eventId, outcome⟩ := t
      cases stage with
      | findPayment e k intent | createPayment e k intent =>
        by_cases hk : k = intentId
        · exact hk ▸ h hk
        · simp [WebhookThread.pending, WebhookThread.misses, hk] at hactive
      | _ => exact absurd rfl hactive
  · refine .inl ?_
    cases stage with
    | findIntent ctx k =>
      simp only [IntentThread.advance, CancelStage.advance] at hcaptured
      split at hcaptured
      · exact hcaptured
      · exact hcaptured
    | cancel k | done => exact hcaptured

-- ---
-- Runs
-- ---

/-- The thread about to move does not take a captured intent to another status. -/
def keepsCaptured (intentId : Id) (p : Pool Store IntentThread) (i : Nat) : Prop :=
  ∀ t ∈ p.threads[i]?, Succeeded p.shared intentId → t.moves intentId = false

instance : Decidable (keepsCaptured intentId p i) :=
  inferInstanceAs (Decidable (∀ t ∈ p.threads[i]?, _))

theorem succeeded_step {p : Pool Store IntentThread} (h : Succeeded p.shared intentId)
    (hok : keepsCaptured intentId p i) :
    Succeeded (p.step IntentThread.advance i).shared intentId := by
  rcases p.step_cases IntentThread.advance i with ⟨_, hsame⟩ | ⟨_, t, _, _, _, ht, hstep⟩
  · rw [hsame]
    exact h
  · rw [hstep]
    exact h.advance t (hok t ht h)

structure Capturing (intentId : Id) (p : Pool Store IntentThread) : Prop where
  holds : ∀ t ∈ p.threads, t.Holds p.shared intentId
  charged : Captured p.shared intentId → Succeeded p.shared intentId

theorem Capturing.step {p : Pool Store IntentThread} (h : Capturing intentId p)
    (hok : keepsCaptured intentId p i) :
    Capturing intentId (p.step IntentThread.advance i) := by
  refine ⟨?_, ?_⟩
  · exact Pool.step_assertions (A := fun s t => t.Holds s intentId) h.holds
      (fun t _ hown => holds_own _ t hown)
      fun t u ht _ hu => holds_others _ t u hu (hok t ht)
  · intro hcaptured
    rcases p.step_cases IntentThread.advance i with ⟨_, hsame⟩ |
      ⟨before, t, after, hp, _, ht, hstep⟩
    · rw [hsame] at hcaptured ⊢
      exact h.charged hcaptured
    · rw [hstep] at hcaptured ⊢
      have hsucceeded : Succeeded p.shared intentId := by
        rcases captured_advance _ t (h.holds t (by simp [hp])) hcaptured with hbefore | hsucceeded
        · exact h.charged hbefore
        · exact hsucceeded
      exact hsucceeded.advance t (hok t ht hsucceeded)

theorem Capturing.start (h : Captured s intentId → Succeeded s intentId) :
    Capturing intentId (requested s requests) := by
  refine ⟨?_, h⟩
  intro t ht
  obtain ⟨request, _, rfl⟩ := List.mem_map.mp ht
  cases request <;> trivial

def afterRequests (s : Store) (requests : List IntentRequest) (turns : List Nat) : Store :=
  (turns.foldl (Pool.step IntentThread.advance) (requested s requests)).shared

/-- The provider reports a failure of the same intent. -/
def failure (externalId : String) : Delivery :=
  ⟨.mtn, { externalId := some externalId, transactionId := some "txn", status := some "FAILED" }⟩

end NimbusPos.PaymentsService
