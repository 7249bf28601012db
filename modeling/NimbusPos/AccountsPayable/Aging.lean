import NimbusPos.Accounting.Aging
import NimbusPos.AccountsPayable.Bills
import NimbusPos.Text

/-!
# Aging of payables

The open bills of a branch, in buckets for all of them and for each supplier.
-/

namespace NimbusPos.AccountsPayableService

open Lib

structure SupplierAging where
  supplierName : String
  buckets : Buckets := {}
  deriving DecidableEq, Repr

structure ApAging where
  asOf : String
  buckets : Buckets
  bySupplier : Tally Id SupplierAging
  billCount : Nat
  deriving DecidableEq, Repr

abbrev BillRow := Id × VendorBillRecord

def openBills (bills : Table VendorBillRecord) (ctx : BranchContext) : List BillRow :=
  bills.findMany fun _ bill =>
    bill.orgId == ctx.organizationId && branchOrOrgScope ctx.branchId bill.branchId &&
      (bill.status == .approved || bill.status == .partiallyPaid || bill.status == .overdue) &&
        0 < bill.outstandingAmount

def bucketOf (daysDue : Int) : AgingBucket :=
  if daysDue ≤ 0 then .current
  else if daysDue ≤ 30 then .days1to30
  else if daysDue ≤ 60 then .days31to60
  else if daysDue ≤ 90 then .days61to90
  else .days90plus

def billBucket (referenceDate : Int) (row : BillRow) : AgingBucket :=
  bucketOf (daysFrom row.2.dueDate referenceDate)

def billOwed (row : BillRow) : Cents := row.2.outstandingAmount

def SupplierAging.addBill (referenceDate : Int) (row : BillRow) (entry : SupplierAging) :
    SupplierAging :=
  { entry with buckets := entry.buckets.put (billBucket referenceDate row) (billOwed row) }

def newSupplier (suppliers : Table SupplierRecord) (row : BillRow) : SupplierAging :=
  { supplierName := ((suppliers.get? row.2.supplierId).map (·.name)).getD "" }

def getApAgingSummary (suppliers : Table SupplierRecord) (bills : Table VendorBillRecord)
    (ctx : BranchContext) (asOf : Option Int) (now : Int) : ApAging :=
  let referenceDate := asOf.getD now
  let openBills := openBills bills ctx
  { asOf := isoTime referenceDate
    buckets := openBills.foldl
      (fun buckets row => buckets.put (billBucket referenceDate row) (billOwed row)) {}
    bySupplier := Tally.collect (·.2.supplierId) (newSupplier suppliers)
      (SupplierAging.addBill referenceDate) openBills
    billCount := openBills.length }

variable {suppliers : Table SupplierRecord} {bills : Table VendorBillRecord} {ctx : BranchContext}
  {asOf : Option Int} {now : Int}

theorem apAging_buckets : (getApAgingSummary suppliers bills ctx asOf now).buckets =
    Buckets.ofDocs (billBucket (asOf.getD now)) billOwed (openBills bills ctx) :=
  Buckets.foldl_put _

/-- Each open bill is in one bucket. -/
theorem apAging_partition : (getApAgingSummary suppliers bills ctx asOf now).buckets.Partition
    (openBills bills ctx) (billBucket (asOf.getD now)) billOwed := by
  rw [apAging_buckets]
  exact Buckets.partition_ofDocs _

/-- The suppliers have the buckets of all together. -/
theorem apAging_suppliers :
    ((getApAgingSummary suppliers bills ctx asOf now).bySupplier.map (·.2.buckets)).sum =
      (getApAgingSummary suppliers bills ctx asOf now).buckets := by
  rw [apAging_buckets]
  exact Tally.collect_sum (m := SupplierAging.buckets) _ _ _ (fun _ => rfl)
    (fun _ entry => entry.buckets.put_eq _ _) _

/-- A supplier has the buckets of its own bills. -/
theorem apAging_supplier
    (h : (supplierId, entry) ∈ (getApAgingSummary suppliers bills ctx asOf now).bySupplier) :
    entry.buckets.Partition
      ((openBills bills ctx).filter fun row => row.2.supplierId = supplierId)
      (billBucket (asOf.getD now)) billOwed := by
  have hentry := Tally.collect_entry (m := SupplierAging.buckets) _ _ _ (fun _ => rfl)
    (fun _ entry => entry.buckets.put_eq _ _) h
  rw [hentry]
  exact Buckets.partition_ofDocs _

end NimbusPos.AccountsPayableService
