import NimbusPos.Common
import NimbusPos.Text

/-!
# Readiness for the payments of diners

An organisation records how ready it is to take payments of its diners, in front of a note. No
payment is made.
-/

namespace NimbusPos.MerchantPaymentsService

open Lib Lib.Service
open Text (isWhiteSpace trim)

-- ---
-- Rows
-- ---

inductive MerchantPaymentReadiness
  | notConfigured
  | pendingMtn
  | pendingAirtel
  | readyForIntegration
  | live
  | disabled
  deriving DecidableEq, Repr

def MerchantPaymentReadiness.label : MerchantPaymentReadiness → String
  | .notConfigured => "NOT_CONFIGURED"
  | .pendingMtn => "PENDING_MTN"
  | .pendingAirtel => "PENDING_AIRTEL"
  | .readyForIntegration => "READY_FOR_INTEGRATION"
  | .live => "LIVE"
  | .disabled => "DISABLED"

inductive MerchantPaymentConfigStatus
  | pending
  | connected
  | failed
  | disabled
  deriving DecidableEq, Repr

structure MerchantPaymentConfig where
  orgId : Id
  provider : String
  status : MerchantPaymentConfigStatus
  notes : Option String
  connectedAt : Option Time := none
  lastCheckedAt : Option Time := none
  deriving DecidableEq, Repr

structure PaymentStore where
  clock : Time := 0
  configs : Table MerchantPaymentConfig := .empty

def PaymentStore.findConfig (s : PaymentStore) (orgId : Id) : Option (Id × MerchantPaymentConfig) :=
  s.configs.findFirst fun _ config => config.orgId == orgId

-- ---
-- The readiness in the notes
-- ---

def readinessPrefix : List Char := "[readiness=".toList

/-- What comes after `/^\[readiness=[^\]]+\]\s*/i`. -/
def afterTag (notes : List Char) : Option (List Char) :=
  if (notes.take 11).map Char.toLower = readinessPrefix then
    let label := (notes.drop 11).takeWhile (· != ']')
    match (notes.drop 11).dropWhile (· != ']') with
    | [] => none
    | _ :: rest => if label = [] then none else some (rest.dropWhile isWhiteSpace)
  else none

/-- `notes.replace(…, '')`. -/
def withoutTag (notes : String) : String :=
  ((afterTag notes.toList).map String.ofList).getD notes

def encodeReadiness (readiness : String) (notes : Option String) : String :=
  trim ("[readiness=" ++ readiness ++ "] " ++ withoutTag (notes.getD ""))

/-- The readiness of a row is whatever text stands there. -/
structure Decoded where
  readiness : String
  notes : Option String
  deriving DecidableEq, Repr

def orNull (text : String) : Option String := if text = "" then none else some text

def readinessOf : MerchantPaymentConfigStatus → MerchantPaymentReadiness
  | .connected => .readyForIntegration
  | .disabled => .disabled
  | .failed => .notConfigured
  | .pending => .pendingMtn

def decodeReadiness (status : MerchantPaymentConfigStatus) (notes : Option String) : Decoded :=
  let raw := (notes.getD "").toList
  if readinessPrefix <+: raw then
    match raw.findIdx? (· == ']') with
    | some last =>
      { readiness := String.ofList ((raw.take last).drop 11)
        notes := orNull (trim (String.ofList (raw.drop (last + 1)))) }
    | none =>
      -- The index is -1: `substring` swaps its bounds, and the notes are the whole text.
      { readiness := String.ofList readinessPrefix, notes := orNull (trim (String.ofList raw)) }
  else { readiness := (readinessOf status).label, notes := orNull (String.ofList raw) }

def readinessToEnum (readiness : String) : MerchantPaymentConfigStatus :=
  if readiness = "READY_FOR_INTEGRATION" ∨ readiness = "LIVE" then .connected
  else if readiness = "DISABLED" then .disabled
  else .pending

def MerchantPaymentConfig.decoded (config : MerchantPaymentConfig) : Decoded :=
  decodeReadiness config.status config.notes

-- ---
-- Calls
-- ---

structure Shape where
  id : Id
  provider : String
  readiness : String
  live : Bool
  notes : Option String
  connectedAt : Option Time
  lastCheckedAt : Option Time
  message : String
  deriving DecidableEq, Repr

def shape (configId : Id) (config : MerchantPaymentConfig) : Shape :=
  { id := configId, provider := config.provider, readiness := config.decoded.readiness
    live := config.decoded.readiness == "LIVE", notes := config.decoded.notes
    connectedAt := config.connectedAt, lastCheckedAt := config.lastCheckedAt
    message := if config.decoded.readiness = "LIVE" then "Public payment collection is LIVE."
      else "Public payment collection is not yet live. Mobile-money integration is pending." }

structure ConnectMerchantPaymentDto where
  notes : Option String := none
  readiness : Option MerchantPaymentReadiness := none
  deriving DecidableEq, Repr

structure UpdateMerchantPaymentConfigDto where
  notes : Option String := none
  readiness : Option MerchantPaymentReadiness := none
  deriving DecidableEq, Repr

/-- The row is rewritten, or else inserted. -/
def upsert (orgId : Id) (rewrite : MerchantPaymentConfig → MerchantPaymentConfig)
    (new : MerchantPaymentConfig) : Service HttpError PaymentStore Shape := do
  let s ← get
  match s.findConfig orgId with
  | some (configId, config) => do
    modify fun s => { s with configs := s.configs.update configId rewrite }
    return shape configId (rewrite config)
  | none => do
    modify fun s => { s with configs := s.configs.insert new }
    return shape s.configs.next new

def connect (orgId : Id) (dto : ConnectMerchantPaymentDto) :
    Service HttpError PaymentStore Shape := do
  let s ← get
  ensure (!(s.findConfig orgId).any fun existing => existing.2.decoded.readiness == "LIVE")
    (conflict "Merchant public-payment configuration is already LIVE")
  let readiness := (dto.readiness.getD .pendingMtn).label
  let status := readinessToEnum readiness
  let notes := some (encodeReadiness readiness dto.notes)
  upsert orgId (fun config => { config with status, notes, lastCheckedAt := some s.clock })
    { orgId, provider := "MOBILE_MONEY", status, notes }

def updateConfig (orgId : Id) (dto : UpdateMerchantPaymentConfigDto) :
    Service HttpError PaymentStore Shape := do
  let s ← get
  let (configId, config) ← need (s.findConfig orgId)
    (notFound "No merchant payment configuration found")
  let current := config.decoded
  let readiness := (dto.readiness.map (·.label)).getD current.readiness
  let updated := { config with
    status := readinessToEnum readiness
    notes := some (encodeReadiness readiness (dto.notes.or current.notes))
    lastCheckedAt := some s.clock
    connectedAt := if readiness = "LIVE" then some s.clock else config.connectedAt }
  modify fun s => { s with configs := s.configs.update configId fun _ => updated }
  return shape configId updated

end NimbusPos.MerchantPaymentsService
