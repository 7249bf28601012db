import NimbusPos.Accounting.Allocations
import NimbusPos.Ledger.Service

/-!
# Invoices and receipts

`createInvoice` inserts the invoice and then adds its total to the customer's open
balance, in two statements. `createReceipt` writes the receipt, its allocations,
the invoices and the balance in one transaction. Every write takes the fate it
meets, so that a call may fail part-way.
-/

namespace NimbusPos.AccountsReceivableService

open Lib Lib.Service

-- ---
-- Invoices
-- ---

structure InvoiceLineDto where
  quantity : ℚ
  unitPrice : Amount
  taxRate : ℚ := 0
  deriving DecidableEq, Repr

def InvoiceLineDto.cost (line : InvoiceLineDto) : Amount := line.quantity * line.unitPrice

def InvoiceLineDto.tax (line : InvoiceLineDto) : Amount := line.cost * line.taxRate / 100

structure CreateInvoiceDto where
  customerAccountId : Id
  sourceType : Option String := none
  sourceDocumentId : Option String := none
  invoiceDate : Time := 0
  dueDate : Time := 0
  currencyCode : Option String := none
  lines : List InvoiceLineDto
  notes : Option String := none
  deriving DecidableEq, Repr

def CreateInvoiceDto.subtotal (dto : CreateInvoiceDto) : Amount := (dto.lines.map (·.cost)).sum

def CreateInvoiceDto.taxAmount (dto : CreateInvoiceDto) : Amount := (dto.lines.map (·.tax)).sum

def CreateInvoiceDto.totalAmount (dto : CreateInvoiceDto) : Amount := dto.subtotal + dto.taxAmount

structure CreateInvoice where
  ctx : BranchContext
  userId : Id
  dto : CreateInvoiceDto
  deriving DecidableEq, Repr

inductive InvoiceWrite
  | create
  | updateAccount
  deriving DecidableEq, Repr

def findAccount (s : Books) (ctx : BranchContext) (accountId : Id) : Option CustomerAccount :=
  (s.customerAccounts.get? accountId).filter fun account =>
    account.orgId == ctx.organizationId && branchOrOrgScope ctx.branchId account.branchId

def invoiceLabel : List Char := "INV-".toList

def nextInvoiceNumber (s : Books) (orgId : Id) : String :=
  let last := s.invoices.findLatest (fun _ invoice => invoice.orgId == orgId) (·.createdAt)
  nextDashNumber invoiceLabel (last.map (·.2.invoiceNumber))

def invoiceNumberTaken (s : Books) (orgId : Id) (invoiceNumber : String) : Bool :=
  (s.invoices.findFirst fun _ invoice =>
    invoice.orgId == orgId && invoice.invoiceNumber == invoiceNumber).isSome

def invoiceRow (s : Books) (p : CreateInvoice) (account : CustomerAccount) : Invoice where
  orgId := p.ctx.organizationId
  branchId := some p.ctx.branchId
  customerAccountId := p.dto.customerAccountId
  invoiceNumber := nextInvoiceNumber s p.ctx.organizationId
  status := .issued
  sourceType := (orNull p.dto.sourceType).getD "MANUAL"
  sourceDocumentId := orNull p.dto.sourceDocumentId
  invoiceDate := dayOf p.dto.invoiceDate
  dueDate := dayOf p.dto.dueDate
  currencyCode := (orNull p.dto.currencyCode <|> orNull (some account.currencyCode)).getD "USD"
  subtotal := persist p.dto.subtotal
  taxAmount := persist p.dto.taxAmount
  totalAmount := persist p.dto.totalAmount
  outstandingBalance := persist p.dto.totalAmount
  issuedAt := some s.clock
  issuedById := some p.userId
  notes := orNull p.dto.notes
  createdAt := s.clock

def insertInvoice (s : Books) (invoice : Invoice) : Books :=
  { s with invoices := s.invoices.insert invoice }

/-- `increment`, or `decrement` of a negated amount: the sum is what the column rounds. -/
def addBalance (s : Books) (accountId : Id) (amount : Amount) : Books :=
  { s with
    customerAccounts := s.customerAccounts.update accountId fun account =>
      { account with openBalance := persist (account.openBalance + amount) } }

def createInvoice (fate : InvoiceWrite → Fate) (p : CreateInvoice) : Acct Id := do
  let s ← get
  let account ← need ((findAccount s p.ctx p.dto.customerAccountId).filter (·.status == .active))
    (missing "Customer account not found or inactive")
  ensure (!p.dto.lines.isEmpty) (bad "Invoice must have at least one line")
  let invoice := invoiceRow s p account
  ensure (!invoiceNumberTaken s p.ctx.organizationId invoice.invoiceNumber) uniqueViolation
  fated .error (fate .create) (modify (insertInvoice · invoice))
  fated .error (fate .updateAccount)
    (modify (addBalance · p.dto.customerAccountId p.dto.totalAmount))
  pure s.invoices.next

-- ---
-- Receipts
-- ---

structure CreateReceiptDto where
  customerAccountId : Id
  receiptDate : Time := 0
  currencyCode : Option String := none
  amount : Amount
  paymentMethod : String := "BANK_TRANSFER"
  reference : Option String := none
  allocations : List AllocationDto
  debitAccountId : Option Id := none
  arAccountId : Option Id := none
  notes : Option String := none
  deriving DecidableEq, Repr

structure CreateReceipt where
  ctx : BranchContext
  userId : Id
  dto : CreateReceiptDto
  deriving DecidableEq, Repr

inductive ReceiptWrite
  | transaction
  | createJournal
  | markPosted
  deriving DecidableEq, Repr

/-- Invoices and what receipts allocate to them. -/
def invoices : DocumentKind Invoice ReceiptAllocation where
  orgId := (·.orgId)
  branchId := (·.branchId)
  counterpartyId := (·.customerAccountId)
  payable invoice := invoice.status == .issued || invoice.status == .partiallyPaid
  statusText invoice := toString invoice.status
  totalAmount := (·.totalAmount)
  outstanding := (·.outstandingBalance)
  settle outstandingBalance paid invoice :=
    { invoice with outstandingBalance, status := if paid then .paid else .partiallyPaid }
  settle_outstanding _ _ _ := rfl
  settle_totalAmount _ _ _ := rfl
  settle_counterpartyId _ _ _ := rfl
  allocatedTo := (·.invoiceId)
  allocatedAmount := (·.allocatedAmount)
  payment := "receipt"
  paymentTitle := "Receipt"
  document := "invoice"
  documentTitle := "Invoice"
  documentMissing := "Invoice"
  foreign := "this customer account"
  unpayable := "ISSUED or PARTIALLY_PAID invoices can receive payments"

abbrev Invoices := List (Id × Invoice)

def requestError (p : CreateReceipt) : Option AccountingError :=
  invoices.requestError p.dto.amount p.dto.allocations

def findInvoices (s : Books) (p : CreateReceipt) : Invoices :=
  invoices.findDocuments s.invoices p.ctx p.dto.allocations

def invoicesError (found : Invoices) (p : CreateReceipt) : Option AccountingError :=
  invoices.documentsError found p.dto.customerAccountId p.dto.allocations

def receiptLabel : List Char := "RCP-".toList

def nextReceiptNumber (s : Books) (orgId : Id) : String :=
  let last := s.arReceipts.findLatest (fun _ receipt => receipt.orgId == orgId) (·.createdAt)
  nextDashNumber receiptLabel (last.map (·.2.receiptNumber))

def receiptNumberTaken (s : Books) (orgId : Id) (receiptNumber : String) : Bool :=
  (s.arReceipts.findFirst fun _ receipt =>
    receipt.orgId == orgId && receipt.receiptNumber == receiptNumber).isSome

def arReceipt (s : Books) (p : CreateReceipt) (account : CustomerAccount) (receiptNumber : String) :
    ArReceipt where
  orgId := p.ctx.organizationId
  branchId := some p.ctx.branchId
  customerAccountId := p.dto.customerAccountId
  receiptNumber := receiptNumber
  receiptDate := dayOf p.dto.receiptDate
  currencyCode := (orNull p.dto.currencyCode <|> orNull (some account.currencyCode)).getD "USD"
  amount := persist p.dto.amount
  paymentMethod := p.dto.paymentMethod
  reference := orNull p.dto.reference
  notes := orNull p.dto.notes
  receivedById := p.userId
  createdAt := s.clock

def allocation (orgId receiptId : Id) (alloc : AllocationDto) : ReceiptAllocation where
  orgId := orgId
  receiptId := receiptId
  invoiceId := alloc.documentId
  allocatedAmount := persist alloc.amount

/-- The receipt, its allocations and the invoices. -/
def recordAllocations (s : Books) (p : CreateReceipt) (account : CustomerAccount) (found : Invoices)
    (receiptNumber : String) : Books :=
  let allocated := invoices.allocateAll (allocation p.ctx.organizationId s.arReceipts.next) found
    p.dto.allocations
    (s.invoices, s.receiptAllocations)
  { s with
    arReceipts := s.arReceipts.insert (arReceipt s p account receiptNumber)
    invoices := allocated.1
    receiptAllocations := allocated.2 }

def recordReceipt (s : Books) (p : CreateReceipt) (account : CustomerAccount) (found : Invoices)
    (receiptNumber : String) : Books :=
  addBalance (recordAllocations s p account found receiptNumber) p.dto.customerAccountId
    (-p.dto.amount)

-- ---
-- Posting to the ledger
-- ---

/-- Both accounts are named, and two distinct active accounts answer to them. -/
def glAccounts (s : Books) (p : CreateReceipt) : Option (Id × Id) := do
  let debit ← p.dto.debitAccountId
  let credit ← p.dto.arAccountId
  let found := s.accounts.count fun accountId account =>
    (accountId == debit || accountId == credit) && account.orgId == p.ctx.organizationId &&
      account.status == .active
  if found = 2 then return (debit, credit) else none

def journalDto (s : Books) (p : CreateReceipt) (receiptId : Id) (receiptNumber : String)
    (accounts : Id × Id) : LedgerService.CreateJournalDto where
  journalDate := midnight (dayOf s.clock)
  sourceKey := some "AR_RECEIPT"
  sourceDocumentId := some (toString receiptId)
  description := some ("AR Receipt " ++ receiptNumber)
  lines := [
    { accountId := accounts.1, direction := .debit, amount := p.dto.amount
      description := some ("Cash received — " ++ receiptNumber) },
    { accountId := accounts.2, direction := .credit, amount := p.dto.amount
      description := some ("AR cleared — " ++ receiptNumber) }]

def postReceiptToGL (fate : Fate) (p : CreateReceipt) (receiptId : Id) (receiptNumber : String) :
    Acct (Option Id) := do
  let s ← get
  match glAccounts s p with
  | none => pure none
  | some accounts =>
    some <$> fated .error fate
      (LedgerService.createJournal p.ctx.organizationId (some p.ctx.branchId) p.userId
      (journalDto s p receiptId receiptNumber accounts))

/-- A receipt without a journal is marked posted all the same. -/
def markPosted (s : Books) (receiptId : Id) (journalId : Option Id) : Books :=
  { s with
    arReceipts := s.arReceipts.update receiptId fun receipt =>
      { receipt with status := .posted, journalEntryId := journalId } }

def settleGL (fate : ReceiptWrite → Fate) (p : CreateReceipt) (receiptId : Id)
    (receiptNumber : String) : Acct Unit :=
  attempt do
    let journalId ← postReceiptToGL (fate .createJournal) p receiptId receiptNumber
    fated .error (fate .markPosted) (modify (markPosted · receiptId journalId))

def createReceipt (fate : ReceiptWrite → Fate) (p : CreateReceipt) : Acct Id := do
  let s ← get
  let account ← need (findAccount s p.ctx p.dto.customerAccountId)
    (missing "Customer account not found")
  reject (requestError p) id
  let found := findInvoices s p
  reject (invoicesError found p) id
  let receiptNumber := nextReceiptNumber s p.ctx.organizationId
  ensure (!receiptNumberTaken s p.ctx.organizationId receiptNumber) uniqueViolation
  let receiptId := s.arReceipts.next
  fated .error (fate .transaction) (modify (recordReceipt · p account found receiptNumber))
  settleGL fate p receiptId receiptNumber
  pure receiptId

/-- A frame that its three writes stay in. -/
theorem createReceipt_keeps {F : Frame Books} (fate : ReceiptWrite → Fate) (p : CreateReceipt)
    (hrecord : ∀ account found receiptNumber s,
      F.rel s (recordReceipt s p account found receiptNumber))
    (hmark : ∀ receiptId journalId s, F.rel s (markPosted s receiptId journalId))
    (hjournal : ∀ receiptId receiptNumber accounts s journalId t,
      (fate .createJournal).written = true → glAccounts s p = some accounts →
      LedgerService.createJournal p.ctx.organizationId (some p.ctx.branchId) p.userId
        (journalDto s p receiptId receiptNumber accounts) s = .ok journalId t → F.rel s t) :
    Keeps F (createReceipt fate p) := by
  have hpost (receiptId : Id) (receiptNumber : String) :
      Keeps F (postReceiptToGL (fate .createJournal) p receiptId receiptNumber) := by
    intro s
    rw [postReceiptToGL, final_get]
    cases haccounts : glAccounts s p with
    | none => exact F.refl _
    | some accounts =>
      simp only [final_map, final_fated, Fate.write_eq]
      split
      · rename_i hwritten
        refine (LedgerService.createJournal_atomic _ _ _ _).elim (F.refl _) ?_
        intro journalId t hcreated
        exact hjournal receiptId receiptNumber accounts s journalId t hwritten haccounts hcreated
      · exact F.refl _
  have hsettle (receiptId : Id) (receiptNumber : String) :
      Keeps F (settleGL fate p receiptId receiptNumber) :=
    ((hpost receiptId receiptNumber).bind fun journalId =>
      (Keeps.modify (hmark receiptId journalId)).fated _).attempt
  refine Reads.get.keeps.bind fun s => (Reads.need _ _).keeps.bind fun account =>
    (Reads.reject _ _).keeps.bind fun _ => (Reads.reject _ _).keeps.bind fun _ =>
      (Reads.ensure _ _).keeps.bind fun _ => ?_
  exact ((Keeps.modify (hrecord _ _ _)).fated _).bind fun _ => (hsettle _ _).bind fun _ =>
    (Reads.pure _).keeps

end NimbusPos.AccountsReceivableService
