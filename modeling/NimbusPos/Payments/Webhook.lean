import NimbusPos.Lib.Run
import NimbusPos.Payments.Service

/-!
# Provider callbacks

`processWebhook` locates an intent from the references in the payload, updates
it, and records a payment when the provider reports success. The second half
gives the same code as a thread that takes one database statement per step, for
deliveries that interleave.
-/

namespace NimbusPos.PaymentsService

open Lib

-- ---
-- The payload
-- ---

/-- `payload.amount`: falsy, a decimal, or a text that `new Decimal` refuses. -/
inductive WebhookAmount
  | absent
  | value (amount : Cents)
  | invalid (text : String)
  deriving DecidableEq, Repr

structure WebhookPayload where
  externalId : Option String := none
  external_id : Option String := none
  referenceId : Option String := none
  financialTransactionId : Option String := none
  transaction_id : Option String := none
  transactionId : Option String := none
  status : Option String := none
  transaction_status : Option String := none
  amount : WebhookAmount := .absent
  deriving DecidableEq, Repr

structure Delivery where
  provider : Provider
  payload : WebhookPayload
  deriving DecidableEq, Repr

def Delivery.externalId (d : Delivery) : Option String :=
  truthy (d.payload.externalId <|> d.payload.external_id <|> d.payload.referenceId)

def Delivery.providerTransactionId (d : Delivery) : Option String :=
  d.payload.financialTransactionId <|> d.payload.transaction_id <|> d.payload.transactionId

def Delivery.status (d : Delivery) : Option String :=
  d.payload.status <|> d.payload.transaction_status

def WebhookAmount.confirmed : WebhookAmount → Option Cents
  | .value amount => some amount
  | _ => none

/-- `toUpperCase`, as far as the result can be an ASCII word. -/
def upperCase : Char → List Char
  | 'ı' => ['I']
  | 'ſ' => ['S']
  | 'ß' => ['S', 'S']
  | 'ﬀ' => ['F', 'F']
  | 'ﬁ' => ['F', 'I']
  | 'ﬂ' => ['F', 'L']
  | 'ﬃ' => ['F', 'F', 'I']
  | 'ﬄ' => ['F', 'F', 'L']
  | 'ﬅ' => ['S', 'T']
  | 'ﬆ' => ['S', 'T']
  | c => [c.toUpper]

def normalizeStatus (providerStatus : Option String) : Option PaymentIntentStatus :=
  match (truthy providerStatus).map fun status =>
    String.ofList (status.toList.flatMap upperCase) with
  | none => none
  | some upper =>
    if ["SUCCESSFUL", "SUCCESS", "SUCCEEDED", "COMPLETED"].contains upper then some .succeeded
    else if ["FAILED", "FAILURE", "REJECTED", "TIMEOUT", "EXPIRED"].contains upper then some .failed
    else if ["PENDING", "PROCESSING"].contains upper then some .pending
    else if ["CANCELLED", "CANCELED"].contains upper then some .cancelled
    else none

-- ---
-- The statements
-- ---

structure Outcome where
  intentUpdated : Bool := false
  paymentCreated : Bool := false
  autoSettled : Bool := false
  processingError : Option String := none
  deriving DecidableEq, Repr

def findByExternalId (s : Store) (externalId : String) : Option (Id × PaymentIntent) :=
  s.paymentIntents.findFirst fun _ intent => intent.externalId == some externalId

def findByProviderRef (s : Store) (d : Delivery) (externalId : String) :
    Option (Id × PaymentIntent) :=
  s.paymentIntents.findFirst fun _ intent =>
    intent.providerRef == some externalId && intent.provider == d.provider

def findByTransaction (s : Store) (d : Delivery) : Option (Id × PaymentIntent) :=
  match truthy d.providerTransactionId with
  | none => none
  | some txn => s.paymentIntents.findFirst fun _ intent =>
      intent.providerTransactionId == some txn && intent.provider == d.provider

def resolveIntent (s : Store) (d : Delivery) (externalId : String) : Option (Id × PaymentIntent) :=
  findByExternalId s externalId <|> findByProviderRef s d externalId <|> findByTransaction s d

theorem resolveIntent_get (h : resolveIntent s d e = some (k, intent)) :
    s.paymentIntents.get? k = some intent := by
  simp only [resolveIntent, Option.orElse_eq_orElse, Option.orElse_eq_or,
    Option.or_eq_some_iff] at h
  rcases h with h | ⟨_, h | ⟨_, h⟩⟩
  · exact (Table.findFirst_some h).1
  · exact (Table.findFirst_some h).1
  · unfold findByTransaction at h
    split at h
    · cases h
    · exact (Table.findFirst_some h).1

/-- `intent` is the row as it was found. -/
def updateIntent (s : Store) (d : Delivery) (externalId : String) (status : PaymentIntentStatus)
    (intentId : Id) (intent : PaymentIntent) : Store :=
  let rewrite (row : PaymentIntent) : PaymentIntent :=
    { row with status, providerRef := some externalId
               providerTransactionId := d.providerTransactionId <|> intent.providerTransactionId
               confirmedAmount := d.payload.amount.confirmed }
  { s with paymentIntents := s.paymentIntents.update intentId rewrite }

def existingPayment (s : Store) (externalId : String) (intent : PaymentIntent) :
    Option (Id × Payment) :=
  s.payments.findFirst fun _ payment => payment.orderId == intent.orderId &&
    payment.method == .momo && payment.transactionId == some externalId

def capturedPayment (s : Store) (d : Delivery) (externalId : String) (intentId : Id)
    (intent : PaymentIntent) : Payment :=
  { orgId := intent.orgId, branchId := intent.branchId, orderId := intent.orderId
    amount := intent.confirmedAmount.getD intent.amount, method := .momo, status := .completed
    transactionId := some externalId, externalTransactionId := d.providerTransactionId
    paymentIntentId := some intentId, createdAt := s.clock }

def createPayment (s : Store) (d : Delivery) (externalId : String) (intentId : Id)
    (intent : PaymentIntent) : Store :=
  { s with payments := s.payments.insert (capturedPayment s d externalId intentId intent) }

def receive (s : Store) (d : Delivery) : Store :=
  { s with webhookEvents := s.webhookEvents.insert { provider := d.provider } }

def finish (s : Store) (eventId : Id) (o : Outcome) : Store :=
  let rewrite (row : WebhookEvent) : WebhookEvent :=
    { row with verified := o.intentUpdated, processed := true, processingError := o.processingError
               intentUpdated := o.intentUpdated, paymentCreated := o.paymentCreated
               autoSettled := o.autoSettled }
  { s with webhookEvents := s.webhookEvents.update eventId rewrite }

def decimalError (text : String) : String := "[DecimalError] Invalid argument: " ++ text

-- ---
-- One delivery
-- ---

def recordSuccess (s : Store) (d : Delivery) (externalId : String) (intentId : Id)
    (intent : PaymentIntent) : Store × Outcome :=
  match existingPayment s externalId intent with
  | some _ => (s, { intentUpdated := true })
  | none =>
    let (autoSettled, s) := autoSettleIfFullyPaid (createPayment s d externalId intentId intent)
      intent.orderId intent.branchId
    (s, { intentUpdated := true, paymentCreated := true, autoSettled })

def handleIntent (s : Store) (d : Delivery) (externalId : String) (intentId : Id)
    (intent : PaymentIntent) : Store × Outcome :=
  match normalizeStatus d.status, d.payload.amount with
  | none, _ => (s, {})
  | some _, .invalid text => (s, { processingError := decimalError text })
  | some .succeeded, _ =>
    recordSuccess (updateIntent s d externalId .succeeded intentId intent) d externalId intentId
      intent
  | some status, _ =>
    (updateIntent s d externalId status intentId intent, { intentUpdated := true })

def handleCallback (s : Store) (d : Delivery) : Store × Outcome :=
  match d.externalId with
  | none => (s, {})
  | some externalId =>
    match resolveIntent s d externalId with
    | none => (s, {})
    | some (intentId, intent) => handleIntent s d externalId intentId intent

def processWebhook (s : Store) (d : Delivery) : Store :=
  let (t, outcome) := handleCallback (receive s d) d
  finish t s.webhookEvents.next outcome

-- ---
-- One delivery, statement by statement
-- ---

/-- The statement a delivery takes next, with the rows it holds. -/
inductive WebhookStage
  | receive
  | findByExternalId (externalId : String)
  | findByProviderRef (externalId : String)
  | findByTransaction (externalId : String)
  | updateIntent (externalId : String) (status : PaymentIntentStatus) (intentId : Id)
      (intent : PaymentIntent)
  | findPayment (externalId : String) (intentId : Id) (intent : PaymentIntent)
  | createPayment (externalId : String) (intentId : Id) (intent : PaymentIntent)
  | settleOrder (intent : PaymentIntent)
  | settleBalance (intent : PaymentIntent)
  | settlePayments (intent : PaymentIntent) (total : Option Cents)
  | settleClose (intent : PaymentIntent)
  | finish
  | done
  deriving DecidableEq, Repr

structure WebhookThread where
  delivery : Delivery
  stage : WebhookStage := .receive
  eventId : Id := 0
  outcome : Outcome := {}
  deriving DecidableEq, Repr

namespace WebhookThread

def goto (t : WebhookThread) (stage : WebhookStage) : WebhookThread := { t with stage }

/-- Between finding the intent and writing it no statement runs. -/
def found (t : WebhookThread) (externalId : String) (row : Id × PaymentIntent) : WebhookThread :=
  match normalizeStatus t.delivery.status, t.delivery.payload.amount with
  | none, _ => t.goto .finish
  | some _, .invalid text =>
    { t with stage := .finish, outcome := { t.outcome with processingError := decimalError text } }
  | some status, _ => t.goto (.updateIntent externalId status row.1 row.2)

def afterFind (t : WebhookThread) (externalId : String) (row : Option (Id × PaymentIntent))
    (otherwise : WebhookStage) : WebhookThread :=
  match row with
  | some row => t.found externalId row
  | none => t.goto otherwise

/-- The next statement of the delivery. -/
def advance (s : Store) (t : WebhookThread) : Store × WebhookThread :=
  match t.stage with
  | .receive =>
    let next := match t.delivery.externalId with
      | none => .finish
      | some externalId => .findByExternalId externalId
    (PaymentsService.receive s t.delivery,
      { t with eventId := s.webhookEvents.next, stage := next })
  | .findByExternalId e =>
    (s, t.afterFind e (PaymentsService.findByExternalId s e) (.findByProviderRef e))
  | .findByProviderRef e =>
    (s, t.afterFind e (PaymentsService.findByProviderRef s t.delivery e) (.findByTransaction e))
  | .findByTransaction e =>
    (s, t.afterFind e (PaymentsService.findByTransaction s t.delivery) .finish)
  | .updateIntent e status k intent =>
    (PaymentsService.updateIntent s t.delivery e status k intent,
      { t with outcome := { t.outcome with intentUpdated := true }
               stage := if status = .succeeded then .findPayment e k intent else .finish })
  | .findPayment e k intent =>
    (s, t.goto (if (existingPayment s e intent).isSome then .finish else .createPayment e k intent))
  | .createPayment e k intent =>
    (PaymentsService.createPayment s t.delivery e k intent,
      { t with outcome := { t.outcome with paymentCreated := true }, stage := .settleOrder intent })
  | .settleOrder intent =>
    match findOrderInBranch s intent.orderId intent.branchId with
    | none => (s, t.goto .finish)
    | some order =>
      (s, t.goto (if order.status = .closed ∨ order.status = .voided then .finish
        else .settleBalance intent))
  | .settleBalance intent =>
    let total := (findOrderInBranch s intent.orderId intent.branchId).map (·.total)
    (s, t.goto (.settlePayments intent total))
  | .settlePayments intent total =>
    let outstanding : Cents := match total with
      | none => 0
      | some total => max (total - totalPaid s intent.orderId intent.branchId) 0
    (s, t.goto (if outstanding ≤ 0 then .settleClose intent else .finish))
  | .settleClose intent =>
    (s.updateOrder intent.orderId fun order => { order with status := .closed },
      { t with outcome := { t.outcome with autoSettled := true }, stage := .finish })
  | .finish => (PaymentsService.finish s t.eventId t.outcome, t.goto .done)
  | .done => (s, t)

end WebhookThread

end NimbusPos.PaymentsService
