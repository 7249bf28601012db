import Mathlib.Data.String.Basic
import NimbusPos.Accounting.Schema
import NimbusPos.Lib.Paging
import NimbusPos.Text
import NimbusPos.UnifiedApprovals.Service

/-!
# The inbox of approvals

Each source that the filters name is read on its own, newest first and up to a cap, which
keeps the merge cheap; what was read is merged by the time of the request, and a page is cut
out of it.
-/

namespace NimbusPos.ApprovalInbox

open Lib
open Approvals (ApprovalSourceType)

-- ---
-- Sources
-- ---

inductive ApprovalDomain
  | pos
  | finance
  | hr
  deriving DecidableEq, Repr

def ApprovalDomain.toString : ApprovalDomain → String
  | .pos => "POS"
  | .finance => "FINANCE"
  | .hr => "HR"

structure ApprovalSourceMapping where
  type : ApprovalSourceType
  domain : ApprovalDomain
  pendingStatuses : List String
  branchScoped : Bool
  supportsReject : Bool
  label : String
  sourceModule : String
  deriving DecidableEq, Repr

def approvalSourceRegistry : List ApprovalSourceMapping :=
  [{ type := .discount, domain := .pos, pendingStatuses := ["PENDING"], branchScoped := true
     supportsReject := true, label := "Discount approval", sourceModule := "discounts" },
   { type := .refund, domain := .pos, pendingStatuses := ["PENDING"], branchScoped := true
     supportsReject := false, label := "Refund approval", sourceModule := "refunds" },
   { type := .leaveRequest, domain := .hr, pendingStatuses := ["PENDING"], branchScoped := false
     supportsReject := true, label := "Leave request", sourceModule := "attendance" },
   { type := .shiftSwap, domain := .hr, pendingStatuses := ["PENDING"], branchScoped := true
     supportsReject := true, label := "Shift swap", sourceModule := "attendance" },
   { type := .vendorBill, domain := .finance, pendingStatuses := ["DRAFT"], branchScoped := false
     supportsReject := false, label := "Vendor bill", sourceModule := "accounts-payable" },
   { type := .interBranchTransfer, domain := .finance, pendingStatuses := ["REQUESTED"]
     branchScoped := false, supportsReject := true, label := "Inter-branch transfer"
     sourceModule := "franchise" }]

/-- A row of one of the tables; it has the columns of its own table. -/
structure SourceRow where
  id : Id
  orgId : Id
  branchId : Option Id := none
  status : String
  createdAt : Time
  createdById : Option Id := none
  requestedById : Option Id := none
  value : Option Cents := none
  amount : Option Cents := none
  totalAmount : Option Cents := none
  estimatedValue : Option Cents := none
  urgency : Option String := none
  deriving DecidableEq, Repr

/-- The tables, each with its rows in the order in which the database comes upon them. -/
structure Tables where
  rows : ApprovalSourceType → List SourceRow
  keys : ∀ type, ((rows type).map (·.id)).Nodup

-- ---
-- Requests and answers
-- ---

inductive ApprovalListStatus
  | pending
  | decided
  | all
  deriving DecidableEq, Repr

/-- A domain filter is a list, or a text of items with commas between them. -/
structure ListApprovalsDto where
  status : Option ApprovalListStatus := none
  sourceType : Option ApprovalSourceType := none
  domain : Option (List String) := none
  branchId : Option Id := none
  dateFrom : Option Time := none
  dateTo : Option Time := none
  page : Option Nat := none
  pageSize : Option Nat := none
  deriving DecidableEq, Repr

inductive Priority
  | low
  | normal
  | high
  deriving DecidableEq, Repr

inductive ApprovalAction
  | approve
  | reject
  deriving DecidableEq, Repr

structure ApprovalListItem where
  id : String
  sourceType : ApprovalSourceType
  sourceModule : String
  domain : ApprovalDomain
  sourceEntityId : Id
  label : String
  status : String
  priority : Priority
  amount : Option String
  requestedById : Option Id
  requestedAt : String
  branchId : Id
  orgId : Id
  actionsAvailable : List ApprovalAction
  deriving DecidableEq, Repr

structure ListFilters where
  status : ApprovalListStatus
  sourceType : Option ApprovalSourceType
  domain : Option (List ApprovalDomain)
  branchId : Id
  dateFrom : Option Time
  dateTo : Option Time
  deriving DecidableEq, Repr

structure ApprovalListResult where
  data : List ApprovalListItem
  total : Nat
  page : Nat
  pageSize : Nat
  filters : ListFilters
  wiredSources : List ApprovalSourceType
  deriving DecidableEq, Repr

-- ---
-- Items
-- ---

def encodeApprovalId (type : ApprovalSourceType) (entityId : Id) : String :=
  toString type ++ "--" ++ toString entityId

def pickRequestedById (type : ApprovalSourceType) (row : SourceRow) : Option Id :=
  match type with
  | .discount | .refund => row.createdById
  | .leaveRequest | .interBranchTransfer => row.requestedById
  | .shiftSwap | .vendorBill => none

def pickAmount (type : ApprovalSourceType) (row : SourceRow) : Option Cents :=
  match type with
  | .discount => some (row.value.getD 0)
  | .refund => some (row.amount.getD 0)
  | .vendorBill => some (row.totalAmount.getD 0)
  | .interBranchTransfer => row.estimatedValue
  | .leaveRequest | .shiftSwap => none

def computePriority (type : ApprovalSourceType) (row : SourceRow) (amount : Option Cents) :
    Priority :=
  if type = .interBranchTransfer then
    let urgency := row.urgency.getD "MEDIUM"
    if urgency = "HIGH" ∨ urgency = "CRITICAL" then .high
    else if urgency = "LOW" then .low
    else .normal
  else match amount with
    | some amount =>
      if 10000000 ≤ amount then .high else if 1000000 ≤ amount then .normal else .low
    | none => .normal

def toListItem (source : ApprovalSourceMapping) (orgId fallbackBranchId : Id) (row : SourceRow) :
    ApprovalListItem where
  id := encodeApprovalId source.type row.id
  sourceType := source.type
  sourceModule := source.sourceModule
  domain := source.domain
  sourceEntityId := row.id
  label := source.label
  status := row.status
  priority := computePriority source.type row (pickAmount source.type row)
  amount := (pickAmount source.type row).map fun amount => amountText amount
  requestedById := pickRequestedById source.type row
  requestedAt := toISOString row.createdAt
  branchId := row.branchId.getD fallbackBranchId
  orgId := orgId
  actionsAvailable :=
    if source.pendingStatuses.contains row.status then
      if source.supportsReject then [.approve, .reject] else [.approve]
    else []

-- ---
-- The list
-- ---

-- `trim` and `toUpperCase` are those of the language's strings.
variable (trim toUpperCase : String → String)

def parseDomain (text : String) : Option ApprovalDomain :=
  [ApprovalDomain.pos, .finance, .hr].find? fun domain =>
    domain.toString == toUpperCase (trim text)

/-- A filter that names no domain at all is none. -/
def normalizeDomainFilter (raw : Option (List String)) : Option (List ApprovalDomain) :=
  (raw.map (·.filterMap (parseDomain trim toUpperCase))).filter (!·.isEmpty)

def sourcesToQuery (query : ListApprovalsDto) : List ApprovalSourceMapping :=
  approvalSourceRegistry.filter fun source =>
    query.sourceType.all (source.type == ·) &&
      (normalizeDomainFilter trim toUpperCase query.domain).all (·.contains source.domain)

/-- The `where` of a source. -/
def matching (source : ApprovalSourceMapping) (orgId branchId : Id) (status : ApprovalListStatus)
    (query : ListApprovalsDto) (row : SourceRow) : Bool :=
  row.orgId == orgId && (!source.branchScoped || row.branchId == some branchId) &&
    (match status with
      | .pending => source.pendingStatuses.contains row.status
      | .decided => !source.pendingStatuses.contains row.status
      | .all => true) &&
    query.dateFrom.all (· ≤ row.createdAt) && query.dateTo.all (row.createdAt ≤ ·)

/-- `orderBy: { createdAt: 'desc' }` -/
def newer (row other : SourceRow) : Prop := other.createdAt ≤ row.createdAt

instance : DecidableRel newer := fun _ _ => inferInstanceAs (Decidable (_ ≤ _))

def fetchSourceRows (t : Tables) (source : ApprovalSourceMapping) (orgId branchId : Id)
    (status : ApprovalListStatus) (query : ListApprovalsDto) (cap : Nat) : List ApprovalListItem :=
  (firsts newer cap ((t.rows source.type).filter
    (matching source orgId branchId status query))).map (toListItem source orgId branchId)

/-- The items by `requestedAt`, the latest text first; items of one text stay in their order. -/
def requestedAfter (item other : ApprovalListItem) : Prop := other.requestedAt ≤ item.requestedAt

instance : DecidableRel requestedAfter := fun _ _ => inferInstanceAs (Decidable (_ ≤ _))

def perSourceCap (pageSize : Nat) : Nat := max 50 (pageSize * 4)

def list (t : Tables) (ctx : BranchContext) (query : ListApprovalsDto) : ApprovalListResult :=
  let status := query.status.getD .pending
  let page := query.page.getD 1
  let pageSize := query.pageSize.getD 20
  let branchId := query.branchId.getD ctx.branchId
  let buckets := (sourcesToQuery trim toUpperCase query).map fun source =>
    fetchSourceRows t source ctx.organizationId branchId status query (perSourceCap pageSize)
  let merged := buckets.flatten.insertionSort requestedAfter
  { data := pageOf pageSize merged page
    total := merged.length
    page, pageSize
    filters :=
      { status, sourceType := query.sourceType
        domain := normalizeDomainFilter trim toUpperCase query.domain, branchId
        dateFrom := query.dateFrom, dateTo := query.dateTo }
    wiredSources := approvalSourceRegistry.map (·.type) }

end NimbusPos.ApprovalInbox
