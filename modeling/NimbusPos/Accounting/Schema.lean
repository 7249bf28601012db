import Mathlib.Algebra.Order.Ring.Rat
import Mathlib.Data.Rat.Defs
import NimbusPos.Common
import NimbusPos.Lib.Rounding

/-!
# The accounting tables

Rows that the ledger, payables, receivables and bank reconciliation services read
or write. A request names an amount as a decimal text of any number of places: an
`Amount` is its exact value in cents, and `persist` what a money column keeps of
it. A journal line is addressed by its entry and its place in it.
-/

namespace NimbusPos

open Lib Lib.Service

-- ---
-- Amounts and dates
-- ---

abbrev Amount := ℚ

/-- A column of two places rounds what it is given. -/
def persist (amount : Amount) : Cents := roundHalfUp amount.num amount.den

@[simp] theorem persist_intCast (m : Int) : persist m = m := by
  have h := roundHalfUp_mul m Int.one_pos
  rw [Int.mul_one] at h
  simpa [persist] using h

theorem persist_add {m : Int} {amount : Amount} (hm : 0 ≤ m) (h : 0 ≤ amount) :
    persist (m + amount) = m + persist amount := by
  have hden : ((m : ℚ) + amount).den = amount.den := Rat.intCast_add_den m amount
  have hnum : ((m : ℚ) + amount).num = amount.num + m * amount.den := by
    have hd : (amount.den : ℚ) ≠ 0 := by exact_mod_cast amount.den_ne_zero
    have hcast : (((m : ℚ) + amount).num : ℚ) = amount.num + m * amount.den := by
      rw [← Rat.mul_den_eq_num ((m : ℚ) + amount), hden, add_mul, Rat.mul_den_eq_num, add_comm]
    exact_mod_cast hcast
  rw [persist, hden, hnum,
    roundHalfUp_add_mul (Rat.num_nonneg.mpr h) hm (by exact_mod_cast amount.den_pos), persist]

theorem pos_of_persist {amount : Amount} (h : 0 < persist amount) : 0 < amount := by
  by_contra hle
  have hnum : amount.num ≤ 0 := Rat.num_nonpos.mpr (not_lt.mp hle)
  have hd : (0 : Int) < amount.den := by exact_mod_cast amount.den_pos
  have hround : persist amount ≤ 0 := roundHalfUp_le hd (Int.le_refl 0) (by simpa using hnum)
  exact absurd h (not_lt.mpr hround)

/-- Days since the epoch, the values of a date column. -/
abbrev Day := Nat

def dayOf (time : Time) : Day := time / 86400000

def midnight (day : Day) : Time := day * 86400000

/-- The digits of `r / d` behind the point, as far as they go. -/
def fractionDigits : Nat → Nat → Nat → List Char
  | 0, _, _ => []
  | places + 1, r, d =>
    if r = 0 then [] else Nat.digitChar (10 * r / d) :: fractionDigits places (10 * r % d) d

/-- `Decimal.toString` of an amount, in units of the currency. -/
def amountText (amount : Amount) : String :=
  let value := amount / 100
  let whole := toString (value.num.natAbs / value.den)
  let fraction := fractionDigits value.den (value.num.natAbs % value.den) value.den
  (if value < 0 then "-" else "") ++ whole ++
    if fraction.isEmpty then "" else "." ++ String.ofList fraction

example : amountText (-123 / 2) = "-0.615" := by decide +kernel

-- ---
-- Enumerations
-- ---

inductive AccountType
  | asset
  | liability
  | equity
  | revenue
  | expense
  deriving DecidableEq, Repr

inductive AccountStatus
  | active
  | inactive
  | systemLocked
  deriving DecidableEq, Repr

inductive FiscalPeriodStatus
  | draft
  | open
  | closed
  | locked
  deriving DecidableEq, Repr

def FiscalPeriodStatus.toString : FiscalPeriodStatus → String
  | .draft => "DRAFT"
  | .open => "OPEN"
  | .closed => "CLOSED"
  | .locked => "LOCKED"

instance : ToString FiscalPeriodStatus := ⟨FiscalPeriodStatus.toString⟩

inductive JournalStatus
  | draft
  | posted
  | reversed
  deriving DecidableEq, Repr

inductive JournalLineDirection
  | debit
  | credit
  deriving DecidableEq, Repr

def JournalLineDirection.opposite : JournalLineDirection → JournalLineDirection
  | .debit => .credit
  | .credit => .debit

inductive PostingRunStatus
  | pending
  | succeeded
  | failed
  deriving DecidableEq, Repr

inductive VendorBillStatus
  | draft
  | approved
  | partiallyPaid
  | paid
  | overdue
  | cancelled
  deriving DecidableEq, Repr

def VendorBillStatus.toString : VendorBillStatus → String
  | .draft => "DRAFT"
  | .approved => "APPROVED"
  | .partiallyPaid => "PARTIALLY_PAID"
  | .paid => "PAID"
  | .overdue => "OVERDUE"
  | .cancelled => "CANCELLED"

instance : ToString VendorBillStatus := ⟨VendorBillStatus.toString⟩

/-- Of vendor payments and of receipts. -/
inductive PostingStatus
  | pending
  | posted
  deriving DecidableEq, Repr

inductive CustomerAccountStatus
  | active
  | inactive
  | suspended
  deriving DecidableEq, Repr

inductive InvoiceStatus
  | draft
  | issued
  | partiallyPaid
  | paid
  | cancelled
  | creditAdjusted
  deriving DecidableEq, Repr

def InvoiceStatus.toString : InvoiceStatus → String
  | .draft => "DRAFT"
  | .issued => "ISSUED"
  | .partiallyPaid => "PARTIALLY_PAID"
  | .paid => "PAID"
  | .cancelled => "CANCELLED"
  | .creditAdjusted => "CREDIT_ADJUSTED"

instance : ToString InvoiceStatus := ⟨InvoiceStatus.toString⟩

inductive BankStatementLineStatus
  | unmatched
  | matched
  | skipped
  deriving DecidableEq, Repr

inductive BankReconciliationStatus
  | open
  | inProgress
  | completed
  | disputed
  deriving DecidableEq, Repr

def BankReconciliationStatus.toString : BankReconciliationStatus → String
  | .open => "OPEN"
  | .inProgress => "IN_PROGRESS"
  | .completed => "COMPLETED"
  | .disputed => "DISPUTED"

instance : ToString BankReconciliationStatus := ⟨BankReconciliationStatus.toString⟩

-- ---
-- Ledger rows
-- ---

structure Account where
  orgId : Id
  accountType : AccountType
  status : AccountStatus := .active
  deriving DecidableEq, Repr

structure CostCenter where
  orgId : Id
  active : Bool := true
  deriving DecidableEq, Repr

structure FiscalPeriod where
  orgId : Id
  name : String
  startsAt : Time
  endsAt : Time
  status : FiscalPeriodStatus := .draft
  closedAt : Option Time := none
  closedById : Option Id := none
  deriving DecidableEq, Repr

structure JournalLine where
  orgId : Id
  accountId : Id
  costCenterId : Option Id := none
  direction : JournalLineDirection
  amount : Cents
  description : Option String := none
  deriving DecidableEq, Repr

structure JournalEntry where
  orgId : Id
  branchId : Option Id
  journalNumber : String
  journalDate : Day
  status : JournalStatus
  sourceKey : Option String := none
  sourceDocumentId : Option String := none
  reference : Option String := none
  description : Option String := none
  fiscalPeriodId : Option Id := none
  reversedFromId : Option Id := none
  reversalOfId : Option Id := none
  totalDebit : Cents
  totalCredit : Cents
  postedAt : Option Time
  postedById : Option Id
  lines : List JournalLine
  createdAt : Time
  deriving DecidableEq, Repr

structure PostingSourceMap where
  orgId : Id
  sourceKey : String
  debitAccountId : Option Id
  creditAccountId : Option Id
  active : Bool := true
  deriving DecidableEq, Repr

structure PostingRun where
  orgId : Id
  branchId : Option Id
  sourceKey : String
  sourceDocumentId : Option String
  status : PostingRunStatus
  runKey : String
  journalEntryId : Option Id := none
  finishedAt : Option Time := none
  errorCount : Nat := 0
  deriving DecidableEq, Repr

structure PostingError where
  orgId : Id
  branchId : Option Id
  postingRunId : Id
  sourceKey : String
  sourceDocumentId : Option String
  code : String
  message : String
  deriving DecidableEq, Repr

structure PeriodCloseRun where
  orgId : Id
  fiscalPeriodId : Id
  closedById : Id
  retainedEarningsAmount : Cents
  incomeTotal : Cents
  expenseTotal : Cents
  notes : Option String := none
  deriving DecidableEq, Repr

-- ---
-- Payables and receivables
-- ---

structure Supplier where
  orgId : Id
  branchId : Option Id
  currencyCode : Option String := none
  deriving DecidableEq, Repr

structure VendorBill where
  orgId : Id
  branchId : Option Id
  supplierId : Id
  status : VendorBillStatus
  totalAmount : Cents
  outstandingAmount : Cents
  deriving DecidableEq, Repr

structure VendorPayment where
  orgId : Id
  branchId : Option Id
  supplierId : Id
  paymentNumber : String
  status : PostingStatus := .pending
  paymentDate : Day
  currencyCode : String
  amount : Cents
  paymentMethod : String
  reference : Option String := none
  notes : Option String := none
  paidById : Id
  journalEntryId : Option Id := none
  createdAt : Time
  deriving DecidableEq, Repr

structure VendorPaymentAllocation where
  orgId : Id
  vendorPaymentId : Id
  vendorBillId : Id
  amount : Cents
  deriving DecidableEq, Repr

structure CustomerAccount where
  orgId : Id
  branchId : Option Id
  status : CustomerAccountStatus := .active
  currencyCode : String := "USD"
  openBalance : Cents := 0
  deriving DecidableEq, Repr

structure Invoice where
  orgId : Id
  branchId : Option Id
  customerAccountId : Id
  invoiceNumber : String
  status : InvoiceStatus
  sourceType : String
  sourceDocumentId : Option String := none
  invoiceDate : Day
  dueDate : Day
  currencyCode : String
  subtotal : Cents
  taxAmount : Cents
  totalAmount : Cents
  outstandingBalance : Cents
  issuedAt : Option Time
  issuedById : Option Id
  notes : Option String := none
  createdAt : Time
  deriving DecidableEq, Repr

structure ArReceipt where
  orgId : Id
  branchId : Option Id
  customerAccountId : Id
  receiptNumber : String
  status : PostingStatus := .pending
  receiptDate : Day
  currencyCode : String
  amount : Cents
  paymentMethod : String
  reference : Option String := none
  notes : Option String := none
  receivedById : Id
  journalEntryId : Option Id := none
  createdAt : Time
  deriving DecidableEq, Repr

structure ReceiptAllocation where
  orgId : Id
  receiptId : Id
  invoiceId : Id
  allocatedAmount : Cents
  deriving DecidableEq, Repr

-- ---
-- Bank reconciliation
-- ---

structure BankAccount where
  orgId : Id
  branchId : Id
  glAccountId : Option Id := none
  deriving DecidableEq, Repr

structure BankStatement where
  orgId : Id
  branchId : Id
  bankAccountId : Id
  openingBalance : Cents
  closingBalance : Cents
  deriving DecidableEq, Repr

structure BankStatementLine where
  orgId : Id
  bankStatementId : Id
  amount : Cents
  direction : JournalLineDirection
  status : BankStatementLineStatus := .unmatched
  matchedJournalLineId : Option (Id × Nat) := none
  matchedManualEntryId : Option Id := none
  matchedAt : Option Time := none
  matchedById : Option Id := none
  deriving DecidableEq, Repr

structure ManualBankEntry where
  orgId : Id
  branchId : Id
  bankAccountId : Id
  amount : Cents
  direction : JournalLineDirection
  deriving DecidableEq, Repr

structure BankReconciliation where
  orgId : Id
  branchId : Id
  bankAccountId : Id
  bankStatementId : Option Id
  fiscalPeriodId : Option Id
  status : BankReconciliationStatus := .open
  statementBalance : Cents := 0
  matchedTotal : Cents := 0
  unmatchedCount : Nat := 0
  matchedCount : Nat := 0
  startedById : Id
  completedAt : Option Time := none
  completedById : Option Id := none
  notes : Option String := none
  deriving DecidableEq, Repr

-- ---
-- The store
-- ---

structure Books where
  clock : Time := 0
  accounts : Table Account := .empty
  costCenters : Table CostCenter := .empty
  fiscalPeriods : Table FiscalPeriod := .empty
  journalEntries : Table JournalEntry := .empty
  postingSourceMaps : Table PostingSourceMap := .empty
  postingRuns : Table PostingRun := .empty
  postingErrors : Table PostingError := .empty
  periodCloseRuns : Table PeriodCloseRun := .empty
  suppliers : Table Supplier := .empty
  vendorBills : Table VendorBill := .empty
  vendorPayments : Table VendorPayment := .empty
  vendorPaymentAllocations : Table VendorPaymentAllocation := .empty
  customerAccounts : Table CustomerAccount := .empty
  invoices : Table Invoice := .empty
  arReceipts : Table ArReceipt := .empty
  receiptAllocations : Table ReceiptAllocation := .empty
  bankAccounts : Table BankAccount := .empty
  bankStatements : Table BankStatement := .empty
  bankStatementLines : Table BankStatementLine := .empty
  manualBankEntries : Table ManualBankEntry := .empty
  bankReconciliations : Table BankReconciliation := .empty

/-- What a service throws: an HTTP exception or a plain error. -/
inductive AccountingError
  | http (error : HttpError)
  | error (message : String)
  deriving DecidableEq, Repr

/-- A call of one of the accounting services. -/
abbrev Acct (α : Type) := Service AccountingError Books α

def bad (message : String) : AccountingError := .http (badRequest message)
def missing (message : String) : AccountingError := .http (notFound message)
def refused (message : String) : AccountingError := .http (conflict message)

/-- A unique constraint refused the row. -/
def uniqueViolation : AccountingError :=
  .http { kind := .uniqueViolation, message := "Unique constraint failed" }

/-- `text || null`. -/
def orNull (text : Option String) : Option String := text.filter fun text => !text.isEmpty

/-- `branchOrOrgScope`: the rows of the branch and those of no branch. -/
def branchOrOrgScope (branchId : Id) (rowBranchId : Option Id) : Bool :=
  rowBranchId == some branchId || rowBranchId == none

end NimbusPos
