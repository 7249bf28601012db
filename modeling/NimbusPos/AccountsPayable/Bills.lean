import NimbusPos.Accounting.Schema
import NimbusPos.Numbering

/-!
# Vendor bills with their lines

A row of `vendor_bills` as payments and the ledger see it, with the columns that its creation
writes. Dates are days since the epoch, before it or after. A bill is totalled from the exact
values of its lines, and each column is rounded as it is written.
-/

namespace NimbusPos.AccountsPayableService

open Lib Lib.Service

inductive VendorBillSourceType
  | manualService
  | grnLinked
  | expense
  | recurring
  | oneOffEvent
  | utility
  | subscription
  deriving DecidableEq, Repr

/-- Quantities are in thousandths, tax rates in hundredths of a percent. -/
structure VendorBillLine where
  orgId : Id
  description : String
  quantity : Int
  unitPrice : Cents
  taxRate : Int
  taxAmount : Cents
  lineTotal : Cents
  accountId : Option Id := none
  costCenterId : Option Id := none
  itemId : Option Id := none
  deriving DecidableEq, Repr

structure VendorBillRecord extends VendorBill where
  billNumber : String
  sourceType : VendorBillSourceType
  sourceDocumentId : Option String := none
  recurringProfileId : Option Id := none
  billDate : Int
  issueDate : Int
  dueDate : Int
  servicePeriodStart : Option Int := none
  servicePeriodEnd : Option Int := none
  currencyCode : String
  subtotal : Cents
  taxAmount : Cents
  notes : Option String := none
  lines : List VendorBillLine
  createdAt : Time
  deriving DecidableEq, Repr

def billLabel : List Char := "BILL-".toList

/-- `nextBillNumber`, after the bill created last. -/
def nextBillNumber (last : Option String) : String := nextDashNumber billLabel last

structure SupplierRecord extends Supplier where
  name : String
  isActive : Bool := true
  deriving DecidableEq, Repr

structure PayablesStore where
  clock : Time := 0
  suppliers : Table SupplierRecord := .empty
  bills : Table VendorBillRecord := .empty

-- ---
-- Totals
-- ---

/-- A quantity is at least a thousandth, and a price any decimal. -/
structure VendorBillLineDto where
  description : String
  quantity : Nat
  positive : 0 < quantity
  unitPrice : Amount
  taxRate : Nat := 0
  accountId : Option Id := none
  costCenterId : Option Id := none
  itemId : Option Id := none
  deriving DecidableEq, Repr

def VendorBillLineDto.cost (line : VendorBillLineDto) : Amount :=
  line.quantity / 1000 * line.unitPrice

def VendorBillLineDto.tax (line : VendorBillLineDto) : Amount :=
  line.cost * (line.taxRate / 100) / 100

structure BillTotals where
  subtotal : Amount := 0
  taxAmount : Amount := 0
  deriving DecidableEq, Repr

def BillTotals.totalAmount (totals : BillTotals) : Amount := totals.subtotal + totals.taxAmount

def computeBillTotals (lines : List VendorBillLineDto) : BillTotals :=
  lines.foldl (fun totals line =>
    { subtotal := totals.subtotal + line.cost, taxAmount := totals.taxAmount + line.tax }) {}

-- ---
-- A bill
-- ---

structure CreateVendorBillDto where
  supplierId : Id
  sourceType : VendorBillSourceType
  sourceDocumentId : Option String := none
  billDate : Int
  issueDate : Int
  dueDate : Int
  servicePeriodStart : Option Int := none
  servicePeriodEnd : Option Int := none
  recurringProfileId : Option Id := none
  currencyCode : Option String := none
  lines : List VendorBillLineDto
  notes : Option String := none
  deriving DecidableEq, Repr

structure CreateVendorBill where
  ctx : BranchContext
  userId : Id
  dto : CreateVendorBillDto
  deriving DecidableEq, Repr

def billLine (orgId : Id) (line : VendorBillLineDto) : VendorBillLine where
  orgId := orgId
  description := line.description
  quantity := line.quantity
  unitPrice := persist line.unitPrice
  taxRate := line.taxRate
  taxAmount := persist line.tax
  lineTotal := persist (line.cost + line.tax)
  accountId := line.accountId
  costCenterId := line.costCenterId
  itemId := line.itemId

def vendorBill (s : PayablesStore) (p : CreateVendorBill) (supplier : SupplierRecord)
    (billNumber : String) : VendorBillRecord where
  orgId := p.ctx.organizationId
  branchId := some p.ctx.branchId
  supplierId := p.dto.supplierId
  billNumber := billNumber
  status := .draft
  sourceType := p.dto.sourceType
  sourceDocumentId := orNull p.dto.sourceDocumentId
  billDate := p.dto.billDate
  issueDate := p.dto.issueDate
  dueDate := p.dto.dueDate
  currencyCode := (orNull p.dto.currencyCode <|> orNull supplier.currencyCode).getD "USD"
  subtotal := persist (computeBillTotals p.dto.lines).subtotal
  taxAmount := persist (computeBillTotals p.dto.lines).taxAmount
  totalAmount := persist (computeBillTotals p.dto.lines).totalAmount
  outstandingAmount := persist (computeBillTotals p.dto.lines).totalAmount
  notes := orNull p.dto.notes
  servicePeriodStart := p.dto.servicePeriodStart
  servicePeriodEnd := p.dto.servicePeriodEnd
  recurringProfileId := p.dto.recurringProfileId
  lines := p.dto.lines.map (billLine p.ctx.organizationId)
  createdAt := s.clock

def findActiveSupplier (s : PayablesStore) (p : CreateVendorBill) : Option SupplierRecord :=
  (s.suppliers.get? p.dto.supplierId).filter fun supplier =>
    supplier.orgId == p.ctx.organizationId && supplier.isActive &&
      branchOrOrgScope p.ctx.branchId supplier.branchId

def billNumberTaken (s : PayablesStore) (orgId : Id) (billNumber : String) : Bool :=
  (s.bills.findFirst fun _ bill => bill.orgId == orgId && bill.billNumber == billNumber).isSome

def createVendorBill (p : CreateVendorBill) : Service HttpError PayablesStore Id := do
  let s ← get
  let supplier ← need (findActiveSupplier s p) (notFound "Supplier not found or inactive")
  ensure (!p.dto.lines.isEmpty) (badRequest "Vendor bill must have at least one line")
  let last := s.bills.findLatest (fun _ bill => bill.orgId == p.ctx.organizationId) (·.createdAt)
  let billNumber := nextBillNumber (last.map (·.2.billNumber))
  ensure (!billNumberTaken s p.ctx.organizationId billNumber)
    (uniqueFailed "(`org_id`,`bill_number`)")
  modify fun s => { s with bills := s.bills.insert (vendorBill s p supplier billNumber) }
  pure s.bills.next

end NimbusPos.AccountsPayableService
