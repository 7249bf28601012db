import NimbusPos.Lib.Tally
import NimbusPos.Payments.Webhook
import NimbusPos.Text

/-!
# What the cashier can refund

The refund panel works out what is left of each payment of an order from the payments and the
refunds that it was sent. Its numbers count cents, none where the field holds no number.
-/

namespace NimbusPos.CashierRefunds

open Lib
open PaymentsService (truthy upperCase)

/-- `String(text || fallback).toUpperCase()` -/
def upper (text : Option String) (fallback : String) : String :=
  String.ofList (((truthy text).getD fallback).toList.flatMap upperCase)

/-- The keys of a JSON object, with the texts under them. -/
abbrev Metadata := List (String × Option String)

/-- The first text under one of the keys that is not blank. -/
def metadataString (metadata : Metadata) (keys : List String) : Option String :=
  keys.findSome? fun key =>
    (metadata.lookup key).join.filter fun value => !(Text.trim value).isEmpty

structure CashierPaymentApi where
  id : Id
  amount : Option Cents := none
  method : Option String := none
  status : Option String := none
  transactionId : Option String := none
  externalTransactionId : Option String := none
  postedAt : Option String := none
  createdAt : Option String := none
  metadata : Metadata := []
  deriving DecidableEq, Repr

structure CashierRefundApi where
  paymentId : Option Id := none
  amount : Option Cents := none
  status : Option String := none
  deriving DecidableEq, Repr

structure CashierRefundPaymentOption where
  id : Id
  payment : CashierPaymentApi
  method : String
  provider : Option String
  reference : Option String
  status : String
  amount : Option Cents
  alreadyRefunded : Cents
  refundableAmount : Option Cents
  postedAt : Option String
  disabledReason : Option String
  deriving DecidableEq, Repr

structure CashierRefundSummary where
  totalPaid : Option Cents := none
  alreadyRefunded : Cents
  remainingRefundable : Option Cents := none
  paymentOptions : List CashierRefundPaymentOption
  trustBlockedReason : Option String := none
  deriving DecidableEq, Repr

def activeRefundStatuses : List String := ["PENDING", "PENDING_APPROVAL", "APPROVED", "COMPLETED"]

def paymentProvider (payment : CashierPaymentApi) : Option String :=
  metadataString payment.metadata ["provider"] <|> truthy payment.method

def paymentReference (payment : CashierPaymentApi) : Option String :=
  truthy payment.externalTransactionId <|> truthy payment.transactionId <|>
    metadataString payment.metadata ["reference"]

/-- The payment of a refund that counts, and its amount. -/
def counted (refund : CashierRefundApi) : Option (Id × Cents) := do
  let paymentId ← refund.paymentId
  let amount ← refund.amount
  if activeRefundStatuses.contains (upper refund.status "") then some (paymentId, amount) else none

def refundedByPayment (refunds : List CashierRefundApi) : Tally Id Cents :=
  Tally.collect Prod.fst (fun _ => 0) (fun row total => total + row.2) (refunds.filterMap counted)

def paymentOption (refunded : Tally Id Cents) (payment : CashierPaymentApi) :
    CashierRefundPaymentOption :=
  let alreadyRefunded := (refunded.lookup payment.id).getD 0
  let status := upper payment.status "UNKNOWN"
  let refundableAmount := payment.amount.map fun amount => max 0 (amount - alreadyRefunded)
  let disabledReason :=
    if status ≠ "COMPLETED" then some "Only completed payments can be refunded."
    else if refundableAmount.any (· ≤ 0) then some "This payment has no refundable balance."
    else none
  { id := payment.id, payment, method := (truthy payment.method).getD "Unknown method"
    provider := paymentProvider payment, reference := paymentReference payment, status
    amount := payment.amount, alreadyRefunded, refundableAmount
    postedAt := truthy payment.postedAt <|> truthy payment.createdAt, disabledReason }

def deriveRefundableAmount (payments : List CashierPaymentApi) (refunds : List CashierRefundApi)
    (refundsTrusted : Bool) : CashierRefundSummary :=
  if refundsTrusted then
    let refunded := refundedByPayment refunds
    let paymentOptions := payments.map (paymentOption refunded)
    { totalPaid := some (paymentOptions.map fun option => option.amount.getD 0).sum
      alreadyRefunded := (refunded.map Prod.snd).sum
      remainingRefundable := some (paymentOptions.map fun option =>
        if option.disabledReason.isSome then 0 else option.refundableAmount.getD 0).sum
      paymentOptions }
  else
    { alreadyRefunded := 0, paymentOptions := []
      trustBlockedReason :=
        some "Could not load refund history, so refundable amount cannot be trusted." }

/-- What counts against a payment is the sum of the refunds that count for it. -/
theorem refundedByPayment_lookup (refunds : List CashierRefundApi) (paymentId : Id) :
    ((refundedByPayment refunds).lookup paymentId).getD 0 =
      (((refunds.filterMap counted).filter fun row => row.1 = paymentId).map Prod.snd).sum := by
  have hsum := Tally.collect_lookup Prod.fst (fun _ => 0) (fun row total => total + row.2)
    (m := id) (w := Prod.snd) (fun _ => rfl) (fun _ _ => rfl) (refunds.filterMap counted) paymentId
  rwa [Option.map_id] at hsum

end NimbusPos.CashierRefunds
