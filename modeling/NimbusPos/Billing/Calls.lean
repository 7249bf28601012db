import NimbusPos.Billing.Service

/-!
# Calls that run together

The calls of the four services, and a history beside the store: what each transaction
was a checkout of, which call recorded it completed, the periods that were started and
the payments that a callback moved back.
-/

namespace NimbusPos.Billing

open Lib Lib.Program

inductive BillingCall
  | createCheckoutSession (orgId : Id) (dto : BillingPesapalService.CreateCheckoutSessionDto)
      (orderTrackingId : String) (redirectUrl : Option String)
  | handleCallback (orderTrackingId pesapalTxnId : String)
  | handleIpn (body : BillingPesapalService.IpnBody)
      (report : Option BillingPesapalService.StatusReport)
  | reconcileStatus (orderTrackingId : String) (report : Option BillingPesapalService.StatusReport)
  | updateSubscription (orgId : Id) (dto : BillingService.UpdateSubscriptionDto)
  | createBranch (orgId : Id) (dto : TenancyService.CreateBranchDto)
  | updatePlan (planId : Id) (dto : UpdateOpsPlanDto)
  deriving DecidableEq, Repr

/-- What a call returns is not looked at. -/
def BillingCall.program : BillingCall → BillingProgram Unit
  | .createCheckoutSession orgId dto orderTrackingId redirectUrl => do
    let _ ← BillingPesapalService.createCheckoutSession orgId dto orderTrackingId redirectUrl
    return ()
  | .handleCallback orderTrackingId pesapalTxnId =>
    BillingPesapalService.handleCallback orderTrackingId pesapalTxnId
  | .handleIpn body report => do
    let _ ← BillingPesapalService.handleIpn body report
    return ()
  | .reconcileStatus orderTrackingId report => do
    let _ ← BillingPesapalService.reconcileStatus orderTrackingId report
    return ()
  | .updateSubscription orgId dto => do
    let _ ← BillingService.updateSubscription orgId dto
    return ()
  | .createBranch orgId dto => do
    let _ ← TenancyService.createBranch orgId dto
    return ()
  | .updatePlan planId dto => OpsPortalService.updatePlan planId dto

-- ---
-- Histories
-- ---

/-- A plan and the cycle it is paid in. -/
structure Purchase where
  planId : Id
  billingCycle : BillingCycle
  deriving DecidableEq, Repr

def Subscription.purchase (row : Subscription) : Purchase := ⟨row.planId, row.billingCycle⟩

def Checkout.purchase (checkout : Checkout) : Purchase := ⟨checkout.planId, checkout.billingCycle⟩

/-- A call turned a subscription active for a transaction, and what was subscribed to
then. -/
structure Period where
  transactionId : Id
  call : Nat
  subscribed : Purchase
  deriving DecidableEq, Repr

/-- The checkouts have the keys of their transactions. A confirmation is a transaction
and the call that recorded it completed. -/
structure World where
  store : Store
  checkouts : Table Checkout := .empty
  confirmations : List (Id × Nat) := []
  periods : List Period := []
  undone : List Id := []

namespace World

/-- A callback would move a completed transaction back. -/
def undoes (w : World) (transactionId : Id) : Bool :=
  (w.store.pesapalTransactions.get? transactionId).any (·.status == .completed)

def exec (i : Nat) (w : World) (k : Statement) : World × Except HttpError k.Answer :=
  let r := w.store.exec k
  ({ store := r.1
     checkouts := match k with
      | .createTransaction checkout =>
        if w.store.trackingTaken checkout.orderTrackingId then w.checkouts
        else w.checkouts.insert checkout
      | _ => w.checkouts
     confirmations := match k with
      | .recordStatus transactionId record =>
        if record.status = .completed then (transactionId, i) :: w.confirmations
        else w.confirmations
      | _ => w.confirmations
     periods := match k with
      | .activateSubscription orgId transactionId _ =>
        match w.store.findSubscription orgId with
        | some row => ⟨transactionId, i, row.purchase⟩ :: w.periods
        | none => w.periods
      | _ => w.periods
     undone := match k with
      | .redirectTransaction transactionId _ =>
        if w.undoes transactionId then transactionId :: w.undone else w.undone
      | _ => w.undone }, r.2)

def wait (w : World) (ms : Nat) : World :=
  { w with store := { w.store with clock := w.store.clock + ms } }

end World

theorem exec_createSubscription (s : Store) (row : Subscription) :
    (s.exec (.createSubscription row)).1 = s ∨ (s.exec (.createSubscription row)).1 =
      { s with subscriptions := s.subscriptions.insert row } := by
  simp only [Store.exec, unlessTaken]
  split
  · exact .inl rfl
  · exact .inr rfl

theorem exec_createBranch (s : Store) (row : Branch) :
    (s.exec (.createBranch row)).1 = s ∨
      (s.exec (.createBranch row)).1 = { s with branches := s.branches.insert row } := by
  simp only [Store.exec, unlessTaken]
  split
  · exact .inl rfl
  · exact .inr rfl

/-- A checkout whose tracking id is taken writes nothing. -/
theorem exec_createTransaction (i : Nat) (w : World) (checkout : Checkout) :
    (w.exec i (.createTransaction checkout)).1 = w ∨
      (w.exec i (.createTransaction checkout)).1 =
        { w with
          store :=
            { w.store with
              pesapalTransactions :=
                w.store.pesapalTransactions.insert checkout.transaction }
          checkouts := w.checkouts.insert checkout } := by
  simp only [World.exec, Store.exec, unlessTaken]
  split
  · exact .inl rfl
  · exact .inr rfl

/-- What a transaction charges, and whom. -/
def PesapalTransaction.charge (row : PesapalTransaction) : Id × Cents := (row.orgId, row.amount)

abbrev SameCharges (s t : Store) : Prop :=
  Table.SameRows PesapalTransaction.charge s.pesapalTransactions t.pesapalTransactions

/-- Only a checkout brings a transaction, and nothing changes its charge. -/
theorem exec_charges (s : Store) (k : Statement) : SameCharges s (s.exec k).1 ∨
    ∃ checkout : Checkout, (s.exec k).1.pesapalTransactions =
      s.pesapalTransactions.insert checkout.transaction := by
  cases k with
  | cancelInitiated orgId => exact .inl (.updateWhere fun _ => rfl)
  | redirectTransaction transactionId pesapalTxnId | recordStatus transactionId record =>
    refine .inl (.update ?_)
    exact fun _ => rfl
  | createTransaction checkout =>
    simp only [Store.exec, unlessTaken]
    split
    · exact .inl (.refl _)
    · exact .inr ⟨checkout, rfl⟩
  | createSubscription row =>
    rcases exec_createSubscription s row with h | h <;> rw [h] <;> exact .inl (.refl _)
  | createBranch row =>
    rcases exec_createBranch s row with h | h <;> rw [h] <;> exact .inl (.refl _)
  | _ => exact .inl (.refl _)

-- ---
-- Statements that any call may send
-- ---

/-- The statement of a reconciliation that starts a period. -/
def Statement.starts : Statement → Bool
  | .activateSubscription .. => true
  | _ => false

section

variable {D : Discipline World.exec} {i : Nat}
  (hplain : ∀ w k, k.starts = false → D.inv w → D.needs i w k)

include hplain

theorem plain_always {k : Statement} (hk : k.starts = false) : Always D i (query k) :=
  always_statement fun w hinv => hplain w k hk hinv

theorem findActivePlan_always (code : String) : Always D i (BillingService.findActivePlan code) :=
  always_bind (plain_always hplain rfl) fun _ => always_needs _ _

theorem checkPlanLimit_always (orgId : Id) : Always D i (BillingService.checkPlanLimit orgId) := by
  refine always_bind (plain_always hplain rfl) fun found => always_need ?_
  rintro ⟨subscription, plan⟩ -
  refine always_ensure fun _ => ?_
  exact always_bind (plain_always hplain rfl) fun count => always_checks _ _

theorem updateSubscription_always (orgId : Id) (dto : BillingService.UpdateSubscriptionDto) :
    Always D i (BillingService.updateSubscription orgId dto) := by
  refine always_bind (plain_always hplain rfl) fun found => always_need ?_
  rintro ⟨existing, plan⟩ -
  cases orNull dto.planCode with
  | some planCode =>
    refine always_bind (findActivePlan_always hplain planCode) ?_
    rintro ⟨planId, newPlan⟩
    refine always_bind ?_ fun _ => plain_always hplain rfl
    exact always_bind (plain_always hplain rfl) fun _ => always_checks _ _
  | none =>
    cases dto.status with
    | some target =>
      refine always_ensure fun _ => ?_
      exact always_bind (plain_always hplain rfl) fun _ => plain_always hplain rfl
    | none =>
      cases dto.billingCycle with
      | some billingCycle => exact plain_always hplain rfl
      | none => exact always_pure _

theorem createBranch_always (orgId : Id) (dto : TenancyService.CreateBranchDto) :
    Always D i (TenancyService.createBranch orgId dto) := by
  refine always_bind (plain_always hplain rfl) fun org => always_ensure fun _ => ?_
  refine always_bind (always_bind (plain_always hplain rfl) fun hasSubscription => ?_) fun _ => ?_
  · cases hasSubscription with
    | some _ => exact checkPlanLimit_always hplain orgId
    | none => exact always_pure ()
  · refine always_bind ?_ fun _ => plain_always hplain rfl
    unfold TenancyService.checkBranchCode
    cases orNull dto.code with
    | some code => exact always_bind (plain_always hplain rfl) fun _ => always_checks _ _
    | none => exact always_pure ()

theorem refuseOrphans_always (planId : Id) (newCap : Nat) :
    Always D i (OpsPortalService.refuseOrphans planId newCap) := by
  refine always_bind (plain_always hplain rfl) fun orgIds => ?_
  cases orgIds.isEmpty with
  | true => exact always_pure ()
  | false => exact always_bind (plain_always hplain rfl) fun _ => always_checks _ _

theorem updatePlan_always (planId : Id) (dto : UpdateOpsPlanDto) :
    Always D i (OpsPortalService.updatePlan planId dto) := by
  refine always_bind (plain_always hplain rfl) fun found => always_need fun existing _ => ?_
  refine always_ensure fun _ => always_bind ?_ fun _ => plain_always hplain rfl
  unfold OpsPortalService.checkNewCap
  cases dto.maxLocations with
  | none => exact always_pure ()
  | some newCap =>
    by_cases hlower : newCap < existing.maxBranches
    · simp only [hlower, if_true]
      exact refuseOrphans_always hplain planId newCap
    · simp only [hlower, if_false]
      exact always_pure ()

theorem createCheckoutSession_always (orgId : Id)
    (dto : BillingPesapalService.CreateCheckoutSessionDto) (orderTrackingId : String)
    (redirectUrl : Option String) :
    Always D i
      (BillingPesapalService.createCheckoutSession orgId dto orderTrackingId redirectUrl) := by
  refine always_bind (findActivePlan_always hplain _) ?_
  rintro ⟨planId, plan⟩
  refine always_need fun billingCycle _ => always_bind (plain_always hplain rfl) fun _ =>
    always_need fun url _ => always_bind (plain_always hplain rfl) fun _ =>
      always_bind (always_bind (plain_always hplain rfl) fun existingSub => ?_) fun _ =>
        always_pure _
  cases existingSub with
  | some _ => exact always_pure ()
  | none => exact always_bind (plain_always hplain rfl) fun _ => plain_always hplain rfl

theorem handleCallback_always (orderTrackingId pesapalTxnId : String) :
    Always D i (BillingPesapalService.handleCallback orderTrackingId pesapalTxnId) := by
  refine always_bind (plain_always hplain rfl) fun found => always_need ?_
  rintro ⟨transactionId, _⟩ -
  exact plain_always hplain rfl

/-- Calls of every kind, given that a reconciliation finds what its activation needs
wherever it starts. -/
theorem program_safe (start : World → Prop) (hrely : ∀ v w, start v → (D.rely i).rel v w → start w)
    (hlog : ∀ w row, start w → start (w.exec i (.createIpnLog row)).1)
    (hreconcile : ∀ orderTrackingId report w, start w →
      (BillingPesapalService.reconcileTransactionStatus orderTrackingId report).Safe D i
        (fun _ _ => True) w) (call : BillingCall) (h : start w) :
    call.program.Safe D i (fun _ _ => True) w := by
  have hdiscard {α : Type} {x : BillingProgram α} {w : World}
      (hx : x.Safe D i (fun _ _ => True) w) :
      (x >>= fun _ => pure ()).Safe D i (fun _ _ => True) w := by
    refine safe_bind (hx.mono fun result v _ => ?_)
    cases result <;> trivial
  cases call with
  | createCheckoutSession orgId dto orderTrackingId redirectUrl =>
    exact hdiscard (createCheckoutSession_always hplain orgId dto orderTrackingId redirectUrl w)
  | handleCallback orderTrackingId pesapalTxnId =>
    exact handleCallback_always hplain orderTrackingId pesapalTxnId w
  | handleIpn body report =>
    refine hdiscard (safe_statement (fun v _ hinv => hplain v _ rfl hinv) fun v hwv _ _ => ?_)
    simp only [continued]
    cases orNull body.orderTrackingId with
    | none => trivial
    | some orderTrackingId =>
      refine safe_bind ((hreconcile orderTrackingId report _
        (hlog v _ (hrely w v h hwv))).mono fun result u _ => ?_)
      cases result <;> trivial
  | reconcileStatus orderTrackingId report => exact hdiscard (hreconcile orderTrackingId report w h)
  | updateSubscription orgId dto => exact hdiscard (updateSubscription_always hplain orgId dto w)
  | createBranch orgId dto => exact hdiscard (createBranch_always hplain orgId dto w)
  | updatePlan planId dto => exact updatePlan_always hplain planId dto w

end

abbrev BillingPool := Pool World (BillingProgram Unit)

abbrev take : BillingPool → Turn → BillingPool := Turn.take World.exec World.wait

/-- The calls, none of which has started. -/
def requested (s : Store) (calls : List BillingCall) : BillingPool where
  shared := { store := s }
  threads := calls.map (·.program)

theorem requested_call {i : Nat} {x : BillingProgram Unit}
    (hx : (requested s calls).threads[i]? = some x) :
    ∃ call, calls[i]? = some call ∧ x = call.program := by
  simp only [requested, List.getElem?_map, Option.map_eq_some_iff] at hx
  obtain ⟨call, hcall, rfl⟩ := hx
  exact ⟨call, hcall, rfl⟩

/-- Two plans, and an organisation with one location and no subscription. -/
def catalog : Store where
  organizations := Table.empty.insert ⟨"Nimbus"⟩
  branches := Table.empty.insert { organizationId := 0, name := "Main" }
  plans := (Table.empty.insert
    { code := "solo", name := "Solo", status := .active, priceMonthly := 8000
      priceAnnual := 86400, maxBranches := 1 }).insert
    { code := "growth", name := "Growth", status := .active, priceMonthly := 15000
      priceAnnual := 162000, maxBranches := 3 }

def checksOut (planCode billingCycle orderTrackingId : String) : BillingCall :=
  .createCheckoutSession 0 ⟨planCode, billingCycle⟩ orderTrackingId (some "https://pay")

/-- The provider's notification that a transaction is paid. -/
def paidNotice (orderTrackingId : String) : BillingCall :=
  .handleIpn { orderTrackingId } (some { pesapalStatus := some "COMPLETED" })

def becomes (status : SubscriptionStatus) : BillingCall := .updateSubscription 0 { status }

end NimbusPos.Billing
