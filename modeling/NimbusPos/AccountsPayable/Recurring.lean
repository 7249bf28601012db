import NimbusPos.AccountsPayable.Bills
import NimbusPos.Lib.Program
import NimbusPos.Text

/-!
# Recurring bills

A profile says how often a bill falls due, and when the next one does. Its cycle is billed in one
transaction, which moves the profile on to the next. Dates are taken on the clock of UTC, on which
a date column holds midnight; a date that a month does not have runs over into the next.
-/

namespace NimbusPos.AccountsPayableService

open Lib Lib.Program Lib.Calendar

inductive RecurrenceCadence
  | weekly
  | monthly
  | quarterly
  | annually
  deriving DecidableEq, Repr

/-- `String(cadence).toLowerCase()` -/
def RecurrenceCadence.text : RecurrenceCadence → String
  | .weekly => "weekly"
  | .monthly => "monthly"
  | .quarterly => "quarterly"
  | .annually => "annually"

def computeServicePeriodStart (cadence : RecurrenceCadence) (dueDate : Int) : Int :=
  match cadence with
  | .weekly => dueDate - 7
  | .monthly => addMonths dueDate (-1)
  | .quarterly => addMonths dueDate (-3)
  | .annually => addMonths dueDate (-12)

def advanceDueDate (cadence : RecurrenceCadence) (current : Int) : Int :=
  match cadence with
  | .weekly => current + 7
  | .monthly => addMonths current 1
  | .quarterly => addMonths current 3
  | .annually => addMonths current 12

/-- The same of a time, which keeps its hour. -/
def advanceTime (cadence : RecurrenceCadence) (current : Time) : Int :=
  advanceDueDate cadence (dayOf current) * 86400000 + current % 86400000

-- ---
-- Rows and statements
-- ---

structure RecurringBillProfile where
  orgId : Id
  branchId : Option Id
  supplierId : Id
  profileName : String
  cadence : RecurrenceCadence
  expectedAmount : Cents
  currencyCode : String
  nextDueDate : Int
  leadDays : Nat := 7
  endDate : Option Int := none
  sourceType : VendorBillSourceType := .recurring
  description : Option String := none
  isActive : Bool := true
  lastGeneratedAt : Option Time := none
  lastGeneratedBillId : Option Id := none
  deriving DecidableEq, Repr

structure RecurringStore where
  clock : Time := 0
  profiles : Table RecurringBillProfile := .empty
  bills : Table VendorBillRecord := .empty

/-- The fields that a request names; an end date or a description may be taken away. -/
structure UpdateRecurringProfileDto where
  profileName : Option String := none
  cadence : Option RecurrenceCadence := none
  expectedAmount : Option Cents := none
  nextDueDate : Option Int := none
  leadDays : Option Nat := none
  endDate : Option (Option Int) := none
  description : Option (Option String) := none
  isActive : Option Bool := none
  deriving DecidableEq, Repr

def UpdateRecurringProfileDto.apply (dto : UpdateRecurringProfileDto)
    (profile : RecurringBillProfile) : RecurringBillProfile :=
  { profile with
    profileName := dto.profileName.getD profile.profileName
    cadence := dto.cadence.getD profile.cadence
    expectedAmount := dto.expectedAmount.getD profile.expectedAmount
    nextDueDate := dto.nextDueDate.getD profile.nextDueDate
    leadDays := dto.leadDays.getD profile.leadDays
    endDate := dto.endDate.getD profile.endDate
    description := dto.description.getD profile.description
    isActive := dto.isActive.getD profile.isActive }

/-- The bill of a cycle, with its line. -/
def cycleBill (ctx : BranchContext) (profileId : Id) (profile : RecurringBillProfile) (now : Time)
    (billNumber : String) : VendorBillRecord where
  orgId := ctx.organizationId
  branchId := some ctx.branchId
  supplierId := profile.supplierId
  billNumber := billNumber
  status := .draft
  sourceType := profile.sourceType
  billDate := dayOf now
  issueDate := dayOf now
  dueDate := profile.nextDueDate
  currencyCode := profile.currencyCode
  subtotal := profile.expectedAmount
  taxAmount := 0
  totalAmount := profile.expectedAmount
  outstandingAmount := profile.expectedAmount
  notes := some ("Auto-generated from recurring profile: " ++ profile.profileName)
  recurringProfileId := some profileId
  servicePeriodStart := some (computeServicePeriodStart profile.cadence profile.nextDueDate)
  servicePeriodEnd := some profile.nextDueDate
  lines := [
    { orgId := ctx.organizationId
      description := (orNull profile.description).getD profile.profileName
      quantity := 1000, unitPrice := profile.expectedAmount, taxRate := 0, taxAmount := 0
      lineTotal := profile.expectedAmount }]
  createdAt := now

/-- What the transaction writes to the profile, from what was read of it. -/
structure NextCycle where
  lastGeneratedAt : Time
  nextDueDate : Int
  ended : Bool
  deriving DecidableEq, Repr

def nextCycle (profile : RecurringBillProfile) (now : Time) : NextCycle where
  lastGeneratedAt := now
  nextDueDate := advanceDueDate profile.cadence profile.nextDueDate
  ended := profile.endDate.any fun endDate =>
    endDate < advanceDueDate profile.cadence profile.nextDueDate

def NextCycle.apply (next : NextCycle) (billId : Id) (profile : RecurringBillProfile) :
    RecurringBillProfile :=
  { profile with
    lastGeneratedAt := some next.lastGeneratedAt
    lastGeneratedBillId := some billId
    nextDueDate := next.nextDueDate
    isActive := profile.isActive && !next.ended }

inductive RecurringStatement
  | now
  | findProfile (ctx : BranchContext) (profileId : Id) (activeOnly : Bool)
  | findCycle (orgId profileId : Id) (dueDate : Int)
  | lastBill (orgId : Id)
  | generate (profileId : Id) (row : VendorBillRecord) (next : NextCycle)
  | updateProfile (profileId : Id) (dto : UpdateRecurringProfileDto)
  deriving DecidableEq, Repr

abbrev RecurringStatement.Answer : RecurringStatement → Type
  | .now => Time
  | .findProfile .. => Option RecurringBillProfile
  | .findCycle .. => Option (Id × VendorBillRecord)
  | .lastBill _ => Option String
  | .generate .. => Id
  | .updateProfile .. => Unit

namespace RecurringStore

def findProfile (s : RecurringStore) (ctx : BranchContext) (profileId : Id) (activeOnly : Bool) :
    Option RecurringBillProfile :=
  (s.profiles.get? profileId).filter fun profile =>
    profile.orgId == ctx.organizationId && (!activeOnly || profile.isActive) &&
      branchOrOrgScope ctx.branchId profile.branchId

def findCycle (s : RecurringStore) (orgId profileId : Id) (dueDate : Int) :
    Option (Id × VendorBillRecord) :=
  s.bills.findFirst fun _ bill =>
    bill.orgId == orgId && bill.recurringProfileId == some profileId && bill.dueDate == dueDate

def lastBill (s : RecurringStore) (orgId : Id) : Option String :=
  (s.bills.findLatest (fun _ bill => bill.orgId == orgId) (·.createdAt)).map (·.2.billNumber)

def numberTaken (s : RecurringStore) (row : VendorBillRecord) : Bool :=
  (s.bills.findFirst fun _ bill =>
    bill.orgId == row.orgId && bill.billNumber == row.billNumber).isSome

def generated (s : RecurringStore) (profileId : Id) (row : VendorBillRecord) (next : NextCycle) :
    RecurringStore :=
  { s with
    bills := s.bills.insert { row with createdAt := s.clock }
    profiles := s.profiles.update profileId (next.apply s.bills.next) }

def exec (s : RecurringStore) :
    (k : RecurringStatement) → RecurringStore × Except HttpError k.Answer
  | .now => (s, .ok s.clock)
  | .findProfile ctx profileId activeOnly => (s, .ok (s.findProfile ctx profileId activeOnly))
  | .findCycle orgId profileId dueDate => (s, .ok (s.findCycle orgId profileId dueDate))
  | .lastBill orgId => (s, .ok (s.lastBill orgId))
  | .generate profileId row next =>
    unlessTaken (s.numberTaken row) "(`org_id`,`bill_number`)" s (s.generated profileId row next)
      s.bills.next
  | .updateProfile profileId dto =>
    ({ s with profiles := s.profiles.update profileId dto.apply }, .ok ())

end RecurringStore

-- ---
-- Calls
-- ---

abbrev RecurringProgram := Program RecurringStatement RecurringStatement.Answer HttpError

abbrev ask (k : RecurringStatement) : RecurringProgram k.Answer := statement k

def alreadyGenerated (dueDate : Int) (billNumber : String) : HttpError :=
  conflict ("A bill has already been generated for due date " ++ isoDate dueDate ++ " (" ++
    billNumber ++ ").")

def notElapsed (profile : RecurringBillProfile) (lastGeneratedAt : Time) : HttpError :=
  conflict ("A " ++ profile.cadence.text ++ " bill was already generated for profile \"" ++
    profile.profileName ++ "\" on " ++ isoDate (dayOf lastGeneratedAt) ++
    ". The next scheduled generation is available from " ++
    isoDate (advanceDueDate profile.cadence (dayOf lastGeneratedAt)) ++
    ". Raise a one-off bill via POST /api/accounting/ap/bills if an extra bill is genuinely due.")

/-- The time at which the profile may be billed again, if it has passed. -/
def cadenceElapsed (profile : RecurringBillProfile) (now : Time) : Except HttpError Unit :=
  match profile.lastGeneratedAt with
  | none => .ok ()
  | some lastGeneratedAt =>
    if (now : Int) < advanceTime profile.cadence lastGeneratedAt then
      .error (notElapsed profile lastGeneratedAt)
    else .ok ()

/-- The cycle has not been billed, and the cadence has elapsed. -/
def cycleDue (ctx : BranchContext) (profileId : Id) (profile : RecurringBillProfile) (now : Time) :
    RecurringProgram Unit := do
  let existing ← ask (.findCycle ctx.organizationId profileId profile.nextDueDate)
  match existing with
  | some bill => throw (alreadyGenerated profile.nextDueDate bill.2.billNumber)
  | none =>
    match cadenceElapsed profile now with
    | .error e => throw e
    | .ok _ => return ()

def generateBillFromRecurring (ctx : BranchContext) (profileId : Id) : RecurringProgram Id := do
  let profile ← ask (.findProfile ctx profileId true)
  let profile ← need profile (notFound "Recurring profile not found or inactive")
  let now ← ask .now
  cycleDue ctx profileId profile now
  let last ← ask (.lastBill ctx.organizationId)
  ask (.generate profileId (cycleBill ctx profileId profile now (nextBillNumber last))
    (nextCycle profile now))

def updateRecurringProfile (ctx : BranchContext) (profileId : Id)
    (dto : UpdateRecurringProfileDto) : RecurringProgram Id := do
  let existing ← ask (.findProfile ctx profileId false)
  let _ ← need existing (notFound "Recurring profile not found")
  ask (.updateProfile profileId dto)
  return profileId

end NimbusPos.AccountsPayableService
