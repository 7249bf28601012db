import NimbusPos.Accounting.DocumentTotals
import NimbusPos.AccountsPayable.Bills
import NimbusPos.AccountsReceivable.Service

/-!
# Stored totals

The columns of a bill and its lines, and those of an invoice and its lines, are what the exact
amounts of the lines are when each is rounded on its own.
-/

namespace NimbusPos

open Lib Lib.Service

namespace AccountsPayableService

def VendorBillLineDto.amounts (line : VendorBillLineDto) : LineAmounts := ⟨line.cost, line.tax⟩

def VendorBillRecord.totals (bill : VendorBillRecord) : StoredTotals where
  subtotal := bill.subtotal
  taxAmount := bill.taxAmount
  totalAmount := bill.totalAmount
  lineTotals := bill.lines.map (·.lineTotal)

theorem computeBillTotals_eq (lines : List VendorBillLineDto) :
    computeBillTotals lines =
      { subtotal := (lines.map (·.cost)).sum, taxAmount := (lines.map (·.tax)).sum } := by
  induction lines using List.reverseRecOn with
  | nil => rfl
  | append_singleton lines line ih =>
    rw [computeBillTotals, List.foldl_append, ← computeBillTotals, ih]
    simp

theorem vendorBill_totals (s : PayablesStore) (p : CreateVendorBill) (supplier : SupplierRecord)
    (billNumber : String) : (vendorBill s p supplier billNumber).totals =
      storedTotals (p.dto.lines.map (·.amounts)) := by
  simp only [VendorBillRecord.totals, vendorBill, computeBillTotals_eq, BillTotals.totalAmount,
    storedTotals, List.map_map]
  rfl

theorem createVendorBill_totals (h : createVendorBill p s = .ok billId t) :
    ∃ bill, t.bills.get? billId = some bill ∧
      bill.totals = storedTotals (p.dto.lines.map (·.amounts)) := by
  simp only [createVendorBill, bind_ok, get_ok, need_ok, ensure_ok, modify_ok, pure_ok] at h
  obtain ⟨_, _, ⟨rfl, rfl⟩, supplier, _, ⟨-, rfl⟩, _, _, ⟨-, rfl⟩, _, _, ⟨-, rfl⟩, _, _, rfl, rfl,
    rfl⟩ := h
  exact ⟨_, Table.get?_insert_self _ _, vendorBill_totals s p supplier _⟩

end AccountsPayableService

namespace AccountsReceivableService

/-- Quantities are in thousandths, tax rates in hundredths of a percent. -/
structure InvoiceLine where
  orgId : Id
  quantity : Int
  unitPrice : Cents
  taxRate : Int
  taxAmount : Cents
  lineTotal : Cents
  deriving DecidableEq, Repr

def InvoiceLineDto.amounts (line : InvoiceLineDto) : LineAmounts := ⟨line.cost, line.tax⟩

def invoiceLine (orgId : Id) (line : InvoiceLineDto) : InvoiceLine where
  orgId := orgId
  quantity := roundHalf (1000 * line.quantity)
  unitPrice := persist line.unitPrice
  taxRate := roundHalf (100 * line.taxRate)
  taxAmount := persist line.tax
  lineTotal := persist (line.cost + line.tax)

/-- The lines that are written with the invoice. -/
def invoiceLines (p : CreateInvoice) : List InvoiceLine :=
  p.dto.lines.map (invoiceLine p.ctx.organizationId)

def invoiceTotals (invoice : Invoice) (lines : List InvoiceLine) : StoredTotals where
  subtotal := invoice.subtotal
  taxAmount := invoice.taxAmount
  totalAmount := invoice.totalAmount
  lineTotals := lines.map (·.lineTotal)

theorem invoiceRow_totals (s : Books) (p : CreateInvoice) (account : CustomerAccount) :
    invoiceTotals (invoiceRow s p account) (invoiceLines p) =
      storedTotals (p.dto.lines.map (·.amounts)) := by
  simp only [invoiceTotals, invoiceRow, invoiceLines, CreateInvoiceDto.subtotal,
    CreateInvoiceDto.taxAmount, CreateInvoiceDto.totalAmount, storedTotals, List.map_map]
  rfl

theorem createInvoice_totals (h : createInvoice fate p s = .ok invoiceId t) :
    ∃ invoice, t.invoices.get? invoiceId = some invoice ∧
      invoiceTotals invoice (invoiceLines p) = storedTotals (p.dto.lines.map (·.amounts)) := by
  simp only [createInvoice, bind_ok, get_ok, need_ok, ensure_ok, fated_modify_ok, pure_ok] at h
  obtain ⟨_, _, ⟨rfl, rfl⟩, account, _, ⟨-, rfl⟩, _, _, ⟨-, rfl⟩, _, _, ⟨-, rfl⟩, _, _, ⟨-, rfl⟩, _,
    _, ⟨-, rfl⟩, rfl, rfl⟩ := h
  exact ⟨_, Table.get?_insert_self _ _, invoiceRow_totals s p account⟩

end AccountsReceivableService

open AccountsPayableService AccountsReceivableService

def oneSupplier : PayablesStore where
  suppliers := Table.empty.insert { orgId := 0, branchId := none, name := "Mill" }

def billing (lines : List VendorBillLineDto) : CreateVendorBill where
  ctx := ⟨0, 0⟩
  userId := 1
  dto :=
    { supplierId := 0, sourceType := .expense, billDate := 0, issueDate := 0, dueDate := 0, lines }

/-- Half of what costs a cent. -/
def halfCent (taxRate : Nat) : VendorBillLineDto where
  description := "Yeast"
  quantity := 500
  positive := by decide
  unitPrice := 1
  taxRate := taxRate

def oneCustomer : Books where
  customerAccounts := Table.empty.insert { orgId := 0, branchId := none }

def invoicing (lines : List InvoiceLineDto) : CreateInvoice where
  ctx := ⟨0, 0⟩
  userId := 1
  dto := { customerAccountId := 0, lines }

def two : InvoiceLineDto := { quantity := 2, unitPrice := 25000, taxRate := 18 }

def halfEach : InvoiceLineDto := { quantity := 1 / 2, unitPrice := 1 }

end NimbusPos
