import NimbusPos.Accounting.Allocations
import NimbusPos.Ledger.Service

/-!
# Payments to suppliers

`createApPayment` reads the bills and checks the allocations, writes the payment,
its allocations and the bills in one transaction, and then tries to post a journal.
-/

namespace NimbusPos.AccountsPayableService

open Lib Lib.Service

structure CreateApPaymentDto where
  supplierId : Id
  paymentDate : Time := 0
  currencyCode : Option String := none
  amount : Amount
  paymentMethod : String := "BANK_TRANSFER"
  reference : Option String := none
  allocations : List AllocationDto
  notes : Option String := none
  cashAccountId : Option Id := none
  apAccountId : Option Id := none
  deriving DecidableEq, Repr

structure CreateApPayment where
  ctx : BranchContext
  userId : Id
  dto : CreateApPaymentDto
  deriving DecidableEq, Repr

/-- Bills and what payments allocate to them. -/
def bills : DocumentKind VendorBill VendorPaymentAllocation where
  orgId := (·.orgId)
  branchId := (·.branchId)
  counterpartyId := (·.supplierId)
  payable bill := bill.status == .approved || bill.status == .partiallyPaid
  statusText bill := toString bill.status
  totalAmount := (·.totalAmount)
  outstanding := (·.outstandingAmount)
  settle outstandingAmount paid bill :=
    { bill with outstandingAmount, status := if paid then .paid else .partiallyPaid }
  settle_outstanding _ _ _ := rfl
  settle_totalAmount _ _ _ := rfl
  settle_counterpartyId _ _ _ := rfl
  allocatedTo := (·.vendorBillId)
  allocatedAmount := (·.amount)
  payment := "payment"
  paymentTitle := "Payment"
  document := "bill"
  documentTitle := "Bill"
  documentMissing := "Vendor bill"
  foreign := "supplied supplierId"
  unpayable := "APPROVED or PARTIALLY_PAID bills can be paid"

abbrev Bills := List (Id × VendorBill)

-- ---
-- The checks
-- ---

def findSupplier (s : Books) (p : CreateApPayment) : Option Supplier :=
  (s.suppliers.get? p.dto.supplierId).filter fun supplier =>
    supplier.orgId == p.ctx.organizationId && branchOrOrgScope p.ctx.branchId supplier.branchId

def requestError (p : CreateApPayment) : Option AccountingError :=
  bills.requestError p.dto.amount p.dto.allocations

def findBills (s : Books) (p : CreateApPayment) : Bills :=
  bills.findDocuments s.vendorBills p.ctx p.dto.allocations

def billsError (found : Bills) (p : CreateApPayment) : Option AccountingError :=
  bills.documentsError found p.dto.supplierId p.dto.allocations

-- ---
-- The transaction
-- ---

def paymentLabel : List Char := "AP-PAY-".toList

def nextPaymentNumber (s : Books) (orgId : Id) : String :=
  let last := s.vendorPayments.findLatest (fun _ payment => payment.orgId == orgId) (·.createdAt)
  nextDashNumber paymentLabel (last.map (·.2.paymentNumber))

def numberTaken (s : Books) (orgId : Id) (paymentNumber : String) : Bool :=
  (s.vendorPayments.findFirst fun _ payment =>
    payment.orgId == orgId && payment.paymentNumber == paymentNumber).isSome

def vendorPayment (s : Books) (p : CreateApPayment) (supplier : Supplier) (paymentNumber : String) :
    VendorPayment where
  orgId := p.ctx.organizationId
  branchId := some p.ctx.branchId
  supplierId := p.dto.supplierId
  paymentNumber := paymentNumber
  paymentDate := dayOf p.dto.paymentDate
  currencyCode := (orNull p.dto.currencyCode <|> orNull supplier.currencyCode).getD "USD"
  amount := persist p.dto.amount
  paymentMethod := p.dto.paymentMethod
  reference := orNull p.dto.reference
  notes := orNull p.dto.notes
  paidById := p.userId
  createdAt := s.clock

def allocation (orgId paymentId : Id) (alloc : AllocationDto) : VendorPaymentAllocation where
  orgId := orgId
  vendorPaymentId := paymentId
  vendorBillId := alloc.documentId
  amount := persist alloc.amount

/-- The payment, its allocations and the bills. -/
def recordPayment (s : Books) (p : CreateApPayment) (supplier : Supplier) (found : Bills)
    (paymentNumber : String) : Books :=
  let allocated := bills.allocateAll (allocation p.ctx.organizationId s.vendorPayments.next) found
    p.dto.allocations
    (s.vendorBills, s.vendorPaymentAllocations)
  { s with
    vendorPayments := s.vendorPayments.insert (vendorPayment s p supplier paymentNumber)
    vendorBills := allocated.1
    vendorPaymentAllocations := allocated.2 }

-- ---
-- Posting to the ledger
-- ---

/-- The accounts named in the request, or those of the source map. -/
def glAccounts (s : Books) (p : CreateApPayment) : Option (Id × Id) := do
  let sourceMap := s.postingSourceMaps.findFirst fun _ row =>
    row.orgId == p.ctx.organizationId && row.sourceKey == "AP_PAYMENT" && row.active
  let debit ← p.dto.apAccountId <|> sourceMap.bind (·.2.debitAccountId)
  let credit ← p.dto.cashAccountId <|> sourceMap.bind (·.2.creditAccountId)
  return (debit, credit)

def journalDto (s : Books) (p : CreateApPayment) (paymentId : Id) (paymentNumber : String)
    (accounts : Id × Id) : LedgerService.CreateJournalDto where
  journalDate := midnight (dayOf s.clock)
  sourceKey := some "AP_PAYMENT"
  sourceDocumentId := some (toString paymentId)
  reference := some paymentNumber
  description := some ("AP Payment " ++ paymentNumber)
  lines := [
    { accountId := accounts.1, direction := .debit, amount := p.dto.amount
      description := some ("AP Payment debit — " ++ paymentNumber) },
    { accountId := accounts.2, direction := .credit, amount := p.dto.amount
      description := some ("AP Payment credit — " ++ paymentNumber) }]

def postApPaymentToGL (p : CreateApPayment) (paymentId : Id) (paymentNumber : String) :
    Acct Id := do
  let s ← get
  let accounts ← need (glAccounts s p)
    (.error "Cannot post AP payment: no AP_PAYMENT posting source map configured and no account IDs provided")
  LedgerService.createJournal p.ctx.organizationId (some p.ctx.branchId) p.userId
    (journalDto s p paymentId paymentNumber accounts)

def markPosted (s : Books) (paymentId journalId : Id) : Books :=
  { s with
    vendorPayments := s.vendorPayments.update paymentId fun payment =>
      { payment with status := .posted, journalEntryId := some journalId } }

/-- A failure to post leaves the payment pending. -/
def settleGL (p : CreateApPayment) (paymentId : Id) (paymentNumber : String) : Acct Unit :=
  attempt do
    let journalId ← postApPaymentToGL p paymentId paymentNumber
    modify (markPosted · paymentId journalId)

-- ---
-- One call
-- ---

def createApPayment (p : CreateApPayment) : Acct Id := do
  let s ← get
  let supplier ← need (findSupplier s p) (missing "Supplier not found")
  reject (requestError p) id
  let found := findBills s p
  reject (billsError found p) id
  let paymentNumber := nextPaymentNumber s p.ctx.organizationId
  ensure (!numberTaken s p.ctx.organizationId paymentNumber) uniqueViolation
  let paymentId := s.vendorPayments.next
  modify (recordPayment · p supplier found paymentNumber)
  settleGL p paymentId paymentNumber
  pure paymentId

/-- A frame that its three writes stay in. -/
theorem createApPayment_keeps {F : Frame Books} (p : CreateApPayment)
    (hrecord : ∀ supplier found paymentNumber s,
      F.rel s (recordPayment s p supplier found paymentNumber))
    (hmark : ∀ paymentId journalId s, F.rel s (markPosted s paymentId journalId))
    (hjournal : ∀ paymentId paymentNumber accounts s journalId t, glAccounts s p = some accounts →
      LedgerService.createJournal p.ctx.organizationId (some p.ctx.branchId) p.userId
        (journalDto s p paymentId paymentNumber accounts) s = .ok journalId t → F.rel s t) :
    Keeps F (createApPayment p) := by
  have hpost (paymentId : Id) (paymentNumber : String) :
      Keeps F (postApPaymentToGL p paymentId paymentNumber) := by
    refine (Reads.get.then fun s => (Reads.need _ _).then fun accounts =>
      LedgerService.createJournal_atomic _ _ _ _).keeps ?_
    intro s journalId t hok
    simp only [bind_ok, get_ok, need_ok] at hok
    obtain ⟨_, _, ⟨rfl, rfl⟩, accounts, _, ⟨haccounts, rfl⟩, hcreated⟩ := hok
    exact hjournal paymentId paymentNumber accounts _ journalId t haccounts hcreated
  have hsettle (paymentId : Id) (paymentNumber : String) :
      Keeps F (settleGL p paymentId paymentNumber) :=
    ((hpost paymentId paymentNumber).bind fun journalId =>
      Keeps.modify (hmark paymentId journalId)).attempt
  refine Reads.get.keeps.bind fun s => (Reads.need _ _).keeps.bind fun supplier =>
    (Reads.reject _ _).keeps.bind fun _ => (Reads.reject _ _).keeps.bind fun _ =>
      (Reads.ensure _ _).keeps.bind fun _ => ?_
  exact (Keeps.modify (hrecord _ _ _)).bind fun _ => (hsettle _ _).bind fun _ =>
    (Reads.pure _).keeps

end NimbusPos.AccountsPayableService
