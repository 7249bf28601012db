import Mathlib.Data.Prod.Lex
import NimbusPos.AccountsPayable.Aging

/-!
# Aging of receivables

The open invoices of a branch, in buckets for all of them and for each customer of a page. A page
is read in an order by customer and due date, which leaves invoices that agree on both as the
database has them: pages may then show one of them twice and another not at all.
-/

namespace NimbusPos.AccountsReceivableService

open Lib AccountsPayableService

structure CustomerAccountRecord extends CustomerAccount where
  name : String
  code : Option String
  type : String
  deriving DecidableEq, Repr

structure AgingQuery where
  asOf : Option Int := none
  customerAccountId : Option Id := none
  skip : Option Nat := none
  take : Option Nat := none
  deriving DecidableEq, Repr

def maxAccountingListPageSize : Nat := 100

def clampTake (take : Option Nat) (fallback : Nat) : Nat :=
  min (max (take.getD fallback) 1) maxAccountingListPageSize

/-- The text of a bucket. -/
def bucketKey : AgingBucket → String
  | .current => "current"
  | .days1to30 => "1_30"
  | .days31to60 => "31_60"
  | .days61to90 => "61_90"
  | .days90plus => "90_plus"

def computeAgingBucket (dueDate : Day) (asOf : Int) : AgingBucket :=
  let daysOverdue := daysFrom dueDate asOf
  if daysOverdue ≤ 0 then .current
  else if daysOverdue ≤ 30 then .days1to30
  else if daysOverdue ≤ 60 then .days31to60
  else if daysOverdue ≤ 90 then .days61to90
  else .days90plus

structure AgedInvoice where
  invoiceId : Id
  invoiceNumber : String
  dueDate : Day
  outstandingBalance : Cents
  agingBucket : String
  daysOverdue : Int
  deriving DecidableEq, Repr

structure AccountAging where
  customerAccountName : String
  customerAccountCode : Option String
  customerAccountType : String
  buckets : Buckets := {}
  invoices : List AgedInvoice := []
  deriving DecidableEq, Repr

structure AgingReport where
  asOf : String
  total : Nat
  skip : Nat
  take : Nat
  summary : Buckets
  accounts : Tally Id AccountAging
  deriving DecidableEq, Repr

abbrev InvoiceRow := Id × Invoice

def openInvoices (invoices : Table Invoice) (ctx : BranchContext)
    (customerAccountId : Option Id) : List InvoiceRow :=
  invoices.findMany fun _ invoice =>
    invoice.orgId == ctx.organizationId && branchOrOrgScope ctx.branchId invoice.branchId &&
      (invoice.status == .issued || invoice.status == .partiallyPaid) &&
        0 < invoice.outstandingBalance &&
          customerAccountId.all fun accountId => invoice.customerAccountId == accountId

/-- `orderBy: [{ customerAccountId: 'asc' }, { dueDate: 'asc' }]` -/
def byCustomer (row : InvoiceRow) : Nat ×ₗ Nat := toLex (row.2.customerAccountId, row.2.dueDate)

def invoiceBucket (asOf : Int) (row : InvoiceRow) : AgingBucket :=
  computeAgingBucket row.2.dueDate asOf

def invoiceOwed (row : InvoiceRow) : Cents := row.2.outstandingBalance

def newAccount (customers : Table CustomerAccountRecord) (row : InvoiceRow) : AccountAging :=
  let account := customers.get? row.2.customerAccountId
  { customerAccountName := (account.map (·.name)).getD ""
    customerAccountCode := account.bind (·.code)
    customerAccountType := (account.map (·.type)).getD "" }

def AccountAging.addInvoice (asOf : Int) (row : InvoiceRow) (entry : AccountAging) : AccountAging :=
  { entry with
    buckets := entry.buckets.put (invoiceBucket asOf row) (invoiceOwed row)
    invoices := entry.invoices ++ [
      { invoiceId := row.1
        invoiceNumber := row.2.invoiceNumber
        dueDate := row.2.dueDate
        outstandingBalance := invoiceOwed row
        agingBucket := bucketKey (invoiceBucket asOf row)
        daysOverdue := max 0 (daysFrom row.2.dueDate asOf) }] }

/-- `order` is the one in which the database reads the page. -/
def getAgingSummary (customers : Table CustomerAccountRecord) (invoices : Table Invoice)
    (ctx : BranchContext) (now : Int) (query : AgingQuery)
    (order : Arranged byCustomer (openInvoices invoices ctx query.customerAccountId)) :
    AgingReport :=
  let asOf := query.asOf.getD now
  let skip := query.skip.getD 0
  let take := clampTake query.take 50
  let allOpenInvoices := openInvoices invoices ctx query.customerAccountId
  { asOf := isoDate (asOf / 86400000)
    total := allOpenInvoices.length
    skip := skip
    take := take
    summary := allOpenInvoices.foldl
      (fun buckets row => buckets.put (invoiceBucket asOf row) (invoiceOwed row)) {}
    accounts := Tally.collect (·.2.customerAccountId) (newAccount customers)
      (AccountAging.addInvoice asOf) (order.page skip take) }

variable {customers : Table CustomerAccountRecord} {invoices : Table Invoice} {ctx : BranchContext}
  {now : Int} {query : AgingQuery}
  {order : Arranged byCustomer (openInvoices invoices ctx query.customerAccountId)}

theorem agingSummary_eq : (getAgingSummary customers invoices ctx now query order).summary =
    Buckets.ofDocs (invoiceBucket (query.asOf.getD now)) invoiceOwed
      (openInvoices invoices ctx query.customerAccountId) := Buckets.foldl_put _

/-- Each open invoice is in one bucket. -/
theorem agingSummary_partition :
    (getAgingSummary customers invoices ctx now query order).summary.Partition
      (openInvoices invoices ctx query.customerAccountId) (invoiceBucket (query.asOf.getD now))
      invoiceOwed := by
  rw [agingSummary_eq]
  exact Buckets.partition_ofDocs _

/-- The customers of a page have the buckets of its invoices. -/
theorem agingSummary_accounts :
    ((getAgingSummary customers invoices ctx now query order).accounts.map (·.2.buckets)).sum =
      Buckets.ofDocs (invoiceBucket (query.asOf.getD now)) invoiceOwed
        (order.page (query.skip.getD 0) (clampTake query.take 50)) :=
  Tally.collect_sum (m := AccountAging.buckets) _ _ _ (fun _ => rfl)
    (fun _ entry => entry.buckets.put_eq _ _) _

-- ---
-- All pages
-- ---

/-- What the customers have on the first `n` pages, each read in its own order. -/
def rowsOverPages (customers : Table CustomerAccountRecord) (invoices : Table Invoice)
    (ctx : BranchContext) (now : Int) (query : AgingQuery) (take : Nat)
    (orders : Nat → Arranged byCustomer (openInvoices invoices ctx query.customerAccountId))
    (n : Nat) : Buckets :=
  ∑ i ∈ Finset.range n,
    ((getAgingSummary customers invoices ctx now
      { query with skip := some (i * take), take := some take } (orders i)).accounts.map
        (·.2.buckets)).sum

/-- Open invoices of one customer that fall due on one day are of one amount. -/
def TiesAgree (rows : List InvoiceRow) : Prop :=
  ∀ row ∈ rows, ∀ other ∈ rows, row.2.customerAccountId = other.2.customerAccountId →
    row.2.dueDate = other.2.dueDate → row.2.outstandingBalance = other.2.outstandingBalance

instance (rows : List InvoiceRow) : Decidable (TiesAgree rows) := by
  unfold TiesAgree
  infer_instance

theorem clampTake_some (hpos : 1 ≤ take) (hmax : take ≤ 100) : clampTake (some take) 50 = take := by
  simp only [clampTake, maxAccountingListPageSize, Option.getD_some]
  omega

theorem rowsOverPages_eq (customers : Table CustomerAccountRecord) (now : Int) (hpos : 1 ≤ take)
    (hmax : take ≤ 100)
    (orders : Nat → Arranged byCustomer (openInvoices invoices ctx query.customerAccountId))
    (n : Nat) : rowsOverPages customers invoices ctx now query take orders n =
      Arranged.pagesWeigh (fun row =>
        Buckets.single (invoiceBucket (query.asOf.getD now) row) (invoiceOwed row)) take orders
          n := by
  refine Finset.sum_congr rfl fun i _ => ?_
  rw [agingSummary_accounts]
  simp only [Option.getD_some, clampTake_some hpos hmax]
  rfl

theorem rowsOverPages_iff : (∀ take, 1 ≤ take → take ≤ 100 → ∀ orders n,
      (openInvoices invoices ctx query.customerAccountId).length ≤ n * take →
        rowsOverPages customers invoices ctx now query take orders n =
          (getAgingSummary customers invoices ctx now query order).summary) ↔
    TiesAgree (openInvoices invoices ctx query.customerAccountId) := by
  rw [agingSummary_eq]
  constructor
  · intro h row hrow other hother hcustomer hdue
    have hkey : byCustomer row = byCustomer other := by rw [byCustomer, byCustomer, hcustomer, hdue]
    have hnodup : (openInvoices invoices ctx query.customerAccountId).Nodup :=
      .of_map _ (Table.findMany_keys _ _)
    have hpages (orders : Nat → Arranged byCustomer
        (openInvoices invoices ctx query.customerAccountId)) :=
      (rowsOverPages_eq customers now (le_refl 1) (by decide) orders _).symm.trans
        (h 1 (le_refl 1) (by decide) orders _ (by rw [Nat.mul_one]))
    have hsingle := Arranged.weights_of_pagesWeigh hnodup hpages hrow hother hkey
    simpa only [Buckets.total_single, invoiceOwed] using congrArg Buckets.total hsingle
  · intro h take hpos hmax orders n hn
    rw [rowsOverPages_eq customers now hpos hmax]
    refine Arranged.pagesWeigh_eq (fun row hrow other hother hkey => ?_) orders hn
    obtain ⟨hcustomer, hdue⟩ := Prod.mk.inj (toLex.injective hkey)
    simp only [invoiceBucket, invoiceOwed, hdue, h row hrow other hother hcustomer hdue]

/-- Both summaries put each open document into one bucket, by the same rule, and their rows add up
to them; so do the rows of all pages of receivables, whatever the page size and the orders in
which pages are read, if and only if ties are of one amount. -/
theorem aging_partitions (ctx : BranchContext) (now : Int) :
    (∀ (suppliers : Table SupplierRecord) (bills : Table VendorBillRecord) (asOf : Option Int),
      let aging := getApAgingSummary suppliers bills ctx asOf now
      aging.buckets.Partition (openBills bills ctx)
          (fun row => bucketOf (daysFrom row.2.dueDate (asOf.getD now)))
          (·.2.outstandingAmount) ∧
        (aging.bySupplier.map (·.2.buckets)).sum = aging.buckets ∧
        ∀ supplierId entry, (supplierId, entry) ∈ aging.bySupplier → entry.buckets.Partition
          ((openBills bills ctx).filter fun row =>
            row.2.supplierId = supplierId)
          (fun row => bucketOf (daysFrom row.2.dueDate (asOf.getD now)))
          (·.2.outstandingAmount)) ∧
    ∀ (customers : Table CustomerAccountRecord) (invoices : Table Invoice) (query : AgingQuery)
      (order : Arranged byCustomer (openInvoices invoices ctx query.customerAccountId)),
      let report := getAgingSummary customers invoices ctx now query order
      let rows := openInvoices invoices ctx query.customerAccountId
      report.summary.Partition rows
          (fun row => bucketOf
            (daysFrom row.2.dueDate (query.asOf.getD now)))
          (·.2.outstandingBalance) ∧
        (∀ skip take order',
          (getAgingSummary customers invoices ctx now { query with skip, take } order').summary =
            report.summary) ∧
        ((∀ take, 1 ≤ take → take ≤ 100 → ∀ orders n, rows.length ≤ n * take →
          rowsOverPages customers invoices ctx now query take orders n = report.summary) ↔
            TiesAgree rows) :=
  ⟨fun _ _ _ => ⟨apAging_partition, apAging_suppliers, fun _ _ h => apAging_supplier h⟩,
    fun _ _ _ _ => ⟨agingSummary_partition, fun _ _ _ => rfl, rowsOverPages_iff⟩⟩

def issued (invoiceNumber : String) (dueDate : Day) (outstandingBalance : Cents) : Invoice where
  orgId := 0
  branchId := none
  customerAccountId := 3
  invoiceNumber := invoiceNumber
  status := .issued
  sourceType := "MANUAL"
  invoiceDate := 0
  dueDate := dueDate
  currencyCode := "USD"
  subtotal := outstandingBalance
  taxAmount := 0
  totalAmount := outstandingBalance
  outstandingBalance := outstandingBalance
  issuedAt := none
  issuedById := none
  createdAt := 0

/-- Three invoices, two of which fall due on one day. -/
def issuedThree (first second third : Cents) : Table Invoice :=
  ((Table.empty.insert (issued "INV-000001" 40 first)).insert
    (issued "INV-000002" 40 second)).insert
    (issued "INV-000003" 95 third)

/-- Two of one amount, which a page may show in either order. -/
theorem aging_partitions_three :
    let invoices := issuedThree 1000 1000 700
    let report := getAgingSummary .empty invoices ⟨0, 0⟩ (100 * 86400000) {} (.stable _ byCustomer)
    report.summary.get .days31to60 = 2000 ∧
      rowsOverPages .empty invoices ⟨0, 0⟩ (100 * 86400000) {} 2 (fun _ => .stable _ byCustomer) 2 =
        report.summary := by
  intro invoices report
  have hreport := (aging_partitions ⟨0, 0⟩ (100 * 86400000)).2 .empty invoices {}
    (.stable _ byCustomer)
  refine ⟨(hreport.1.buckets .days31to60).trans (by decide), ?_⟩
  exact hreport.2.2.mpr (by decide) 2 (by decide) (by decide) _ 2 (by decide)

/-- The two in the other order. -/
def otherWay : Arranged byCustomer (openInvoices (issuedThree 1000 2500 700) ⟨0, 0⟩ none) where
  list := [(1, issued "INV-000002" 40 2500), (0, issued "INV-000001" 40 1000),
    (2, issued "INV-000003" 95 700)]
  perm := .swap _ _ _
  sorted := by decide

/-- Pages of one invoice: the first and the second show the same one. -/
theorem aging_page_twice :
    ¬(∀ (customers : Table CustomerAccountRecord) (invoices : Table Invoice) (ctx : BranchContext)
        (now : Int) (query : AgingQuery)
        (order : Arranged byCustomer (openInvoices invoices ctx query.customerAccountId))
          (take : Nat),
      1 ≤ take → take ≤ 100 → ∀ orders n,
        (openInvoices invoices ctx query.customerAccountId).length ≤ n * take →
          rowsOverPages customers invoices ctx now query take orders n =
            (getAgingSummary customers invoices ctx now query order).summary) ∧
    let invoices := issuedThree 1000 2500 700
    (rowsOverPages .empty invoices ⟨0, 0⟩ 0 {} 1
      (fun i => if i = 1 then otherWay else .stable _ byCustomer) 3).total = 1000 + 1000 + 700 ∧
    (getAgingSummary .empty invoices ⟨0, 0⟩ 0 {} otherWay).summary.total = 1000 + 2500 + 700 := by
  refine ⟨fun h => ?_, by decide +kernel, by decide⟩
  have hties := rowsOverPages_iff.mp (h .empty (issuedThree 1000 2500 700) ⟨0, 0⟩ 0 {} otherWay)
  exact absurd hties (by decide)

end NimbusPos.AccountsReceivableService
