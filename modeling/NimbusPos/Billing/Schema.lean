import NimbusPos.Accounting.Schema
import NimbusPos.Lib.Program

/-!
# Plans, subscriptions and their payments

The rows and statements of the billing services. An organisation has at most one
subscription, to a plan that caps its locations, and pays for it by transactions of a
payment provider. A price is given as an exact amount and stored in cents.
-/

namespace NimbusPos.Billing

open Lib Lib.Program

inductive BillingCycle
  | monthly
  | quarterly
  | annual
  deriving DecidableEq, Repr

inductive PlanStatus
  | active
  | archived
  | draft
  deriving DecidableEq, Repr

inductive SubscriptionStatus
  | pendingPayment
  | trial
  | active
  | gracePeriod
  | pastDue
  | suspended
  | cancelled
  deriving DecidableEq, Repr

def SubscriptionStatus.toString : SubscriptionStatus → String
  | .pendingPayment => "PENDING_PAYMENT"
  | .trial => "TRIAL"
  | .active => "ACTIVE"
  | .gracePeriod => "GRACE_PERIOD"
  | .pastDue => "PAST_DUE"
  | .suspended => "SUSPENDED"
  | .cancelled => "CANCELLED"

instance : ToString SubscriptionStatus := ⟨SubscriptionStatus.toString⟩

inductive PesapalTxnStatus
  | initiated
  | redirected
  | completed
  | failed
  | cancelled
  | invalid
  deriving DecidableEq, Repr

inductive BranchStatus
  | active
  | inactive
  | closed
  deriving DecidableEq, Repr

structure Organization where
  name : String
  deriving DecidableEq, Repr

structure Branch where
  organizationId : Id
  name : String
  code : Option String := none
  status : BranchStatus := .active
  deriving DecidableEq, Repr

structure Plan where
  code : String
  name : String
  status : PlanStatus := .draft
  priceMonthly : Cents := 0
  priceAnnual : Cents := 0
  gracePeriodDays : Nat := 7
  maxBranches : Nat := 1
  deriving DecidableEq, Repr

structure Subscription where
  orgId : Id
  planId : Id
  status : SubscriptionStatus := .trial
  billingCycle : BillingCycle := .monthly
  currentPeriodStart : Time
  graceEndsAt : Option Time := none
  cancelledAt : Option Time := none
  cancelReason : Option String := none
  deriving DecidableEq, Repr

structure PesapalTransaction where
  orgId : Id
  orderTrackingId : String
  pesapalTxnId : Option String := none
  amount : Cents
  description : String
  status : PesapalTxnStatus := .initiated
  redirectUrl : String
  paymentMethod : Option String := none
  paymentAccount : Option String := none
  confirmedAt : Option Time := none
  failedAt : Option Time := none
  deriving DecidableEq, Repr

structure PesapalIpnLog where
  orderTrackingId : String
  notificationType : String
  pesapalTxnId : Option String
  paymentStatusCode : Option String
  deriving DecidableEq, Repr

structure Store where
  clock : Time := 0
  organizations : Table Organization := .empty
  branches : Table Branch := .empty
  plans : Table Plan := .empty
  subscriptions : Table Subscription := .empty
  pesapalTransactions : Table PesapalTransaction := .empty
  pesapalIpnLogs : Table PesapalIpnLog := .empty

-- ---
-- What the statements write
-- ---

def Plan.price (plan : Plan) : BillingCycle → Cents
  | .annual => plan.priceAnnual
  | _ => plan.priceMonthly

def BillingCycle.toString : BillingCycle → String
  | .monthly => "MONTHLY"
  | .quarterly => "QUARTERLY"
  | .annual => "ANNUAL"

/-- A checkout that the provider took: the plan as it was read, and its cycle. -/
structure Checkout where
  orgId : Id
  planId : Id
  plan : Plan
  billingCycle : BillingCycle
  orderTrackingId : String
  redirectUrl : String
  deriving DecidableEq, Repr

def Checkout.transaction (checkout : Checkout) : PesapalTransaction where
  orgId := checkout.orgId
  orderTrackingId := checkout.orderTrackingId
  amount := checkout.plan.price checkout.billingCycle
  description := "Nimbus POS - " ++ checkout.plan.name ++ " Plan (" ++
    checkout.billingCycle.toString ++ ")"
  redirectUrl := checkout.redirectUrl

/-- What a reconciliation records of a transaction. -/
structure StatusRecord where
  status : PesapalTxnStatus
  paymentMethod : Option String
  paymentAccount : Option String
  now : Time
  deriving DecidableEq, Repr

/-- A field that is `undefined` keeps what the column holds. -/
def StatusRecord.data (record : StatusRecord) (row : PesapalTransaction) : PesapalTransaction :=
  { row with
    status := record.status
    paymentMethod := record.paymentMethod <|> row.paymentMethod
    paymentAccount := record.paymentAccount <|> row.paymentAccount
    confirmedAt := if record.status = .completed then some record.now else row.confirmedAt
    failedAt := if record.status = .failed then some record.now else row.failedAt }

inductive SubscriptionChange
  | plan (planId : Id) (billingCycle : BillingCycle)
  | status (target : SubscriptionStatus) (now : Time) (cancelReason : Option String)
      (gracePeriodDays : Nat)
  | cycle (billingCycle : BillingCycle)
  deriving DecidableEq, Repr

def SubscriptionChange.data : SubscriptionChange → Subscription → Subscription
  | .plan planId billingCycle, row => { row with planId, billingCycle }
  | .status target now cancelReason gracePeriodDays, row =>
    { row with
      status := target
      cancelledAt := if target = .cancelled then some now else row.cancelledAt
      cancelReason := if target = .cancelled then cancelReason else row.cancelReason
      graceEndsAt := if target = .gracePeriod then some (now + gracePeriodDays * 86400000)
        else row.graceEndsAt }
  | .cycle billingCycle, row => { row with billingCycle }

/-- The columns of a plan that another service reads. -/
structure UpdateOpsPlanDto where
  name : Option String := none
  priceMonthly : Option Amount := none
  priceAnnual : Option Amount := none
  maxLocations : Option Nat := none
  gracePeriodDays : Option Nat := none
  deriving DecidableEq, Repr

def UpdateOpsPlanDto.data (dto : UpdateOpsPlanDto) (row : Plan) : Plan :=
  { row with
    name := dto.name.getD row.name
    priceMonthly := (dto.priceMonthly.map persist).getD row.priceMonthly
    priceAnnual := (dto.priceAnnual.map persist).getD row.priceAnnual
    maxBranches := dto.maxLocations.getD row.maxBranches
    gracePeriodDays := dto.gracePeriodDays.getD row.gracePeriodDays }

-- ---
-- Statements
-- ---

/-- `activateSubscription` is the update of a reconciliation, and names the transaction
it is for. -/
inductive Statement
  | now
  | findOrganization (orgId : Id)
  | findPlanByCode (code : String)
  | findPlan (planId : Id)
  | updatePlan (planId : Id) (dto : UpdateOpsPlanDto)
  | findSubscription (orgId : Id)
  | findSubscriptionWithPlan (orgId : Id)
  | findSubscribers (planId : Id)
  | createSubscription (row : Subscription)
  | updateSubscription (orgId : Id) (change : SubscriptionChange)
  | activateSubscription (orgId transactionId : Id) (now : Time)
  | countBranches (orgId : Id)
  | countBranchesOf (orgIds : List Id)
  | findBranchByCode (orgId : Id) (code : String)
  | createBranch (row : Branch)
  | createIpnLog (row : PesapalIpnLog)
  | cancelInitiated (orgId : Id)
  | createTransaction (checkout : Checkout)
  | findTransaction (orderTrackingId : String)
  | redirectTransaction (transactionId : Id) (pesapalTxnId : String)
  | recordStatus (transactionId : Id) (record : StatusRecord)
  deriving DecidableEq, Repr

abbrev Statement.Answer : Statement → Type
  | .now => Time
  | .findOrganization _ => Option Organization
  | .findPlanByCode _ => Option (Id × Plan)
  | .findPlan _ => Option Plan
  | .findSubscription _ => Option Subscription
  | .findSubscriptionWithPlan _ => Option (Subscription × Plan)
  | .findSubscribers _ => List Id
  | .updateSubscription _ _ => Option Subscription
  | .countBranches _ => Nat
  | .countBranchesOf _ => List (Id × Nat)
  | .findBranchByCode _ _ => Option Branch
  | .createBranch _ => Id
  | .createTransaction _ => Id
  | .findTransaction _ => Option (Id × PesapalTransaction)
  | _ => Unit

/-- The statuses that `updatePlan` looks at. -/
def SubscriptionStatus.counted (status : SubscriptionStatus) : Bool :=
  status == .active || status == .trial || status == .gracePeriod || status == .pastDue

namespace Store

def activeBranches (s : Store) (orgId : Id) : Nat :=
  s.branches.count fun _ branch => branch.organizationId == orgId && branch.status == .active

def findSubscription (s : Store) (orgId : Id) : Option Subscription :=
  (s.subscriptions.findFirst fun _ row => row.orgId == orgId).map (·.2)

/-- Under the unique constraint on `orgId` this is one row. -/
def updateSubscription (s : Store) (orgId : Id) (data : Subscription → Subscription) : Store :=
  { s with subscriptions := s.subscriptions.updateWhere (fun _ row => row.orgId == orgId) data }

def codeTaken (s : Store) (row : Branch) : Bool :=
  row.code.isSome && (s.branches.findFirst fun _ other =>
    other.organizationId == row.organizationId && other.code == row.code).isSome

def trackingTaken (s : Store) (orderTrackingId : String) : Bool :=
  (s.pesapalTransactions.findFirst fun _ row => row.orderTrackingId == orderTrackingId).isSome

def updateTransaction (s : Store) (transactionId : Id)
    (data : PesapalTransaction → PesapalTransaction) : Store :=
  { s with pesapalTransactions := s.pesapalTransactions.update transactionId data }

def exec (s : Store) : (k : Statement) → Store × Except HttpError k.Answer
  | .now => (s, .ok s.clock)
  | .findOrganization orgId => (s, .ok (s.organizations.get? orgId))
  | .findPlanByCode code => (s, .ok (s.plans.findFirst fun _ plan => plan.code == code))
  | .findPlan planId => (s, .ok (s.plans.get? planId))
  | .updatePlan planId dto => ({ s with plans := s.plans.update planId dto.data }, .ok ())
  | .findSubscription orgId => (s, .ok (s.findSubscription orgId))
  | .findSubscriptionWithPlan orgId =>
    (s, .ok (do
      let row ← s.findSubscription orgId
      let plan ← s.plans.get? row.planId
      return (row, plan)))
  | .findSubscribers planId =>
    (s, .ok ((s.subscriptions.findMany fun _ row =>
      row.planId == planId && row.status.counted).map (·.2.orgId)))
  | .createSubscription row =>
    unlessTaken (s.findSubscription row.orgId).isSome "(orgId)" s
      { s with subscriptions := s.subscriptions.insert row } ()
  | .updateSubscription orgId change =>
    let t := s.updateSubscription orgId change.data
    (t, .ok (t.findSubscription orgId))
  | .activateSubscription orgId _ now =>
    (s.updateSubscription orgId fun row =>
      { row with status := .active, currentPeriodStart := now }, .ok ())
  | .countBranches orgId => (s, .ok (s.activeBranches orgId))
  | .countBranchesOf orgIds => (s, .ok (orgIds.map fun orgId => (orgId, s.activeBranches orgId)))
  | .findBranchByCode orgId code =>
    (s, .ok ((s.branches.findFirst fun _ branch =>
      branch.organizationId == orgId && branch.code == some code).map (·.2)))
  | .createBranch row =>
    unlessTaken (s.codeTaken row) "(organizationId, code)" s
      { s with branches := s.branches.insert row } s.branches.next
  | .createIpnLog row => ({ s with pesapalIpnLogs := s.pesapalIpnLogs.insert row }, .ok ())
  | .cancelInitiated orgId =>
    ({ s with
      pesapalTransactions := s.pesapalTransactions.updateWhere
        (fun _ row => row.orgId == orgId && row.status == .initiated) fun row =>
          { row with status := .cancelled } }, .ok ())
  | .createTransaction checkout =>
    unlessTaken (s.trackingTaken checkout.orderTrackingId) "(orderTrackingId)" s
      { s with
        pesapalTransactions := s.pesapalTransactions.insert checkout.transaction }
      s.pesapalTransactions.next
  | .findTransaction orderTrackingId =>
    (s, .ok (s.pesapalTransactions.findFirst fun _ row => row.orderTrackingId == orderTrackingId))
  | .redirectTransaction transactionId pesapalTxnId =>
    (s.updateTransaction transactionId fun row =>
      { row with status := .redirected, pesapalTxnId := some pesapalTxnId }, .ok ())
  | .recordStatus transactionId record =>
    (s.updateTransaction transactionId record.data, .ok ())

end Store

abbrev BillingProgram := Program Statement Statement.Answer HttpError

abbrev query (k : Statement) : BillingProgram k.Answer := statement k

end NimbusPos.Billing
