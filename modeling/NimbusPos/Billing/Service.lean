import NimbusPos.Billing.Schema

/-!
# Plans, subscriptions and locations

Changes of a subscription, the creation of a branch under the cap of its plan, and the
changes of a plan. The cap is checked by counting the active branches first.
-/

namespace NimbusPos.Billing

open Lib Lib.Program

namespace BillingService

/-- `VALID_TRANSITIONS`. -/
def validTransitions : SubscriptionStatus → List SubscriptionStatus
  | .pendingPayment => [.active, .cancelled]
  | .trial => [.active, .cancelled]
  | .active => [.gracePeriod, .pastDue, .suspended, .cancelled]
  | .gracePeriod => [.active, .pastDue, .suspended, .cancelled]
  | .pastDue => [.active, .gracePeriod, .suspended, .cancelled]
  | .suspended => [.active, .cancelled]
  | .cancelled => []

structure UpdateSubscriptionDto where
  planCode : Option String := none
  status : Option SubscriptionStatus := none
  billingCycle : Option BillingCycle := none
  cancelReason : Option String := none
  deriving DecidableEq, Repr

def planMissing (code : String) : HttpError :=
  badRequest ("Plan \"" ++ code ++ "\" not found or not active")

/-- The plan of the code, when it is active. -/
def findActivePlan (code : String) : BillingProgram (Id × Plan) := do
  let found ← query (.findPlanByCode code)
  need (found.filter (·.2.status == .active)) (planMissing code)

def enforcePlanLimitsOnChange (orgId : Id) (plan : Plan) : BillingProgram Unit := do
  let branchCount ← query (.countBranches orgId)
  ensure (branchCount ≤ plan.maxBranches)
    (conflict "Plan change blocked: current location count exceeds target plan limit")

/-- Only the case of a location; the other resources are not limited. -/
def checkPlanLimit (orgId : Id) : BillingProgram Unit := do
  let found ← query (.findSubscriptionWithPlan orgId)
  let (subscription, plan) ← need found (forbidden "No active subscription")
  ensure (subscription.status != .cancelled)
    (forbidden "Subscription is cancelled. Cannot create resources.")
  let count ← query (.countBranches orgId)
  ensure (count < plan.maxBranches)
    { kind := .conflict, code := "PLAN_LOCATION_LIMIT_REACHED"
      message := "Location limit reached (" ++ toString count ++ "/" ++
        toString plan.maxBranches ++ "). Upgrade your plan to add another location." }

def changePlan (orgId : Id) (existing : Subscription) (planCode : String)
    (billingCycle : Option BillingCycle) : BillingProgram (Option Subscription) := do
  let (planId, newPlan) ← findActivePlan planCode
  enforcePlanLimitsOnChange orgId newPlan
  query (.updateSubscription orgId (.plan planId (billingCycle.getD existing.billingCycle)))

def changeStatus (orgId : Id) (existing : Subscription) (plan : Plan) (target : SubscriptionStatus)
    (cancelReason : Option String) : BillingProgram (Option Subscription) := do
  ensure (target ∈ validTransitions existing.status)
    (conflict ("Cannot transition subscription from " ++ toString existing.status ++ " to " ++
      toString target))
  let now ← query .now
  query (.updateSubscription orgId (.status target now cancelReason plan.gracePeriodDays))

/-- A plan is changed before a status, and a status before a cycle. -/
def updateSubscription (orgId : Id) (dto : UpdateSubscriptionDto) :
    BillingProgram (Option Subscription) := do
  let found ← query (.findSubscriptionWithPlan orgId)
  let (existing, plan) ← need found (notFound "No subscription found for this organization")
  match orNull dto.planCode, dto.status, dto.billingCycle with
  | some planCode, _, _ => changePlan orgId existing planCode dto.billingCycle
  | none, some target, _ => changeStatus orgId existing plan target dto.cancelReason
  | none, none, some billingCycle => query (.updateSubscription orgId (.cycle billingCycle))
  | none, none, none => return some existing

end BillingService

namespace TenancyService

structure CreateBranchDto where
  name : String
  code : Option String := none
  deriving DecidableEq, Repr

/-- Without a subscription nothing is enforced. -/
def enforceLocationCap (orgId : Id) : BillingProgram Unit := do
  let hasSubscription ← query (.findSubscription orgId)
  match hasSubscription with
  | some _ => BillingService.checkPlanLimit orgId
  | none => return ()

def checkBranchCode (orgId : Id) (code : Option String) : BillingProgram Unit :=
  match orNull code with
  | some code => do
    let existing ← query (.findBranchByCode orgId code)
    ensure existing.isNone (conflict "Branch code already used in this organization")
  | none => return ()

def createBranch (orgId : Id) (dto : CreateBranchDto) : BillingProgram Id := do
  let org ← query (.findOrganization orgId)
  ensure org.isSome (notFound "Organization not found")
  enforceLocationCap orgId
  checkBranchCode orgId dto.code
  query (.createBranch { organizationId := orgId, name := dto.name, code := dto.code })

end TenancyService

namespace OpsPortalService

/-- The subscribers of a plan whose new cap is lower. -/
def refuseOrphans (planId : Id) (newCap : Nat) : BillingProgram Unit := do
  let orgIds ← query (.findSubscribers planId)
  if orgIds.isEmpty then return ()
  else
    let counts ← query (.countBranchesOf orgIds)
    ensure (counts.all (·.2 ≤ newCap))
      (conflict "Cannot lower maxLocations: existing subscribers already exceed the new cap.")

def checkNewCap (planId : Id) (existing : Plan) (maxLocations : Option Nat) : BillingProgram Unit :=
  match maxLocations with
  | some newCap => if newCap < existing.maxBranches then refuseOrphans planId newCap else return ()
  | none => return ()

def updatePlan (planId : Id) (dto : UpdateOpsPlanDto) : BillingProgram Unit := do
  let found ← query (.findPlan planId)
  let existing ← need found (notFound "Plan not found")
  ensure (decide (dto.priceAnnual.getD existing.priceAnnual ≤
      dto.priceMonthly.getD existing.priceMonthly * 12))
    (badRequest "Annual price must not exceed 12 × monthly price (use a discount, not a premium).")
  checkNewCap planId existing dto.maxLocations
  query (.updatePlan planId dto)

end OpsPortalService

end NimbusPos.Billing

/-!
# Payments of subscriptions

A checkout, the provider's two notifications and the reconciliation that they and a
manual call start. What the provider answers is an argument of a call.
-/

namespace NimbusPos.Billing

open Lib Lib.Program

namespace BillingPesapalService

structure CreateCheckoutSessionDto where
  planCode : String
  billingCycle : String
  deriving DecidableEq, Repr

def checkoutCycle : String → Option BillingCycle
  | "MONTHLY" => some .monthly
  | "ANNUAL" => some .annual
  | _ => none

def providerFailed (message : String) : HttpError := { kind := .internalServerError, message }

structure CheckoutSession where
  orderTrackingId : String
  redirectUrl : String
  amount : Cents
  plan : Plan
  deriving DecidableEq, Repr

/-- The first checkout makes the subscription. -/
def ensureSubscription (orgId planId : Id) (billingCycle : BillingCycle) : BillingProgram Unit := do
  let existingSub ← query (.findSubscription orgId)
  match existingSub with
  | some _ => return ()
  | none => do
    let now ← query .now
    query (.createSubscription
      { orgId, planId, status := .pendingPayment, billingCycle, currentPeriodStart := now })

/-- `orderTrackingId` is drawn at random; `redirectUrl` is the provider's answer to the
order, if it took it. -/
def createCheckoutSession (orgId : Id) (dto : CreateCheckoutSessionDto) (orderTrackingId : String)
    (redirectUrl : Option String) : BillingProgram CheckoutSession := do
  let (planId, plan) ← BillingService.findActivePlan dto.planCode
  let billingCycle ← need (checkoutCycle dto.billingCycle)
    (badRequest "billingCycle must be MONTHLY or ANNUAL")
  query (.cancelInitiated orgId)
  let redirectUrl ← need redirectUrl (providerFailed "Failed to create PesaPal order")
  let _ ← query (.createTransaction
    { orgId, planId, plan, billingCycle, orderTrackingId, redirectUrl })
  ensureSubscription orgId planId billingCycle
  return { orderTrackingId, redirectUrl, amount := plan.price billingCycle, plan }

def handleCallback (orderTrackingId pesapalTxnId : String) : BillingProgram Unit := do
  let found ← query (.findTransaction orderTrackingId)
  let (transactionId, _) ← need found
    (notFound ("Transaction not found for order " ++ orderTrackingId))
  query (.redirectTransaction transactionId pesapalTxnId)

/-- The provider's word on a transaction; `pesapalStatus` is its
`payment_status_description?.toUpperCase()`. -/
structure StatusReport where
  pesapalStatus : Option String
  paymentMethod : Option String := none
  paymentAccount : Option String := none
  deriving DecidableEq, Repr

def StatusReport.newStatus (report : StatusReport) : PesapalTxnStatus :=
  if report.pesapalStatus = some "COMPLETED" then .completed
  else if report.pesapalStatus = some "FAILED" then .failed
  else if report.pesapalStatus = some "INVALID" ∨ report.pesapalStatus = some "REVERSED" then
    .cancelled
  else .initiated

/-- A payment is what the subscription waits for. -/
def waiting (subscription : Subscription) : Bool :=
  subscription.status == .pendingPayment || subscription.status == .pastDue

def activate (orgId transactionId : Id) : BillingProgram Unit := do
  let sub ← query (.findSubscription orgId)
  if sub.any waiting then
    let now ← query .now
    query (.activateSubscription orgId transactionId now)
  else return ()

def settle (status : PesapalTxnStatus) (orgId transactionId : Id) : BillingProgram Unit :=
  if status = .completed then activate orgId transactionId else return ()

/-- `report` is the provider's answer, if it gave one. -/
def reconcileTransactionStatus (orderTrackingId : String) (report : Option StatusReport) :
    BillingProgram PesapalTxnStatus := do
  let found ← query (.findTransaction orderTrackingId)
  let (transactionId, txn) ← need found
    (notFound ("Transaction not found: " ++ orderTrackingId))
  let report ← need report (providerFailed "Failed to get PesaPal transaction status")
  let now ← query .now
  query (.recordStatus transactionId
    { status := report.newStatus, paymentMethod := report.paymentMethod
      paymentAccount := report.paymentAccount, now })
  settle report.newStatus txn.orgId transactionId
  return report.newStatus

structure IpnBody where
  orderTrackingId : Option String := none
  notificationType : Option String := none
  pesapalTxnId : Option String := none
  paymentStatus : Option String := none
  deriving DecidableEq, Repr

/-- Answers with no status when the notification is ignored. -/
def handleIpn (body : IpnBody) (report : Option StatusReport) :
    BillingProgram (Option PesapalTxnStatus) := do
  query (.createIpnLog
    { orderTrackingId := (orNull body.orderTrackingId).getD "unknown"
      notificationType := (orNull body.notificationType).getD "unknown"
      pesapalTxnId := orNull body.pesapalTxnId
      paymentStatusCode := orNull body.paymentStatus })
  match orNull body.orderTrackingId with
  | none => return none
  | some orderTrackingId => do
    let status ← reconcileTransactionStatus orderTrackingId report
    return some status

def reconcileStatus (orderTrackingId : String) (report : Option StatusReport) :
    BillingProgram PesapalTxnStatus :=
  reconcileTransactionStatus orderTrackingId report

end BillingPesapalService

end NimbusPos.Billing
