import NimbusPos.Lib.Paging
import NimbusPos.Payments.Service
import NimbusPos.Reports.Service

/-!
# The download centre

The artifacts of reports and the documents that were uploaded are shown as one kind of entry. The
export id names the domain that an entry is of, and its row there. Ids are texts here, as a filter
may be the empty one, which is none.
-/

namespace NimbusPos.ExportsFacadeService

open Lib
open PaymentsService (truthy)
open ReportsService (ReportType)

-- ---
-- Rows
-- ---

inductive ExportFormat
  | csv
  | pdf
  deriving DecidableEq, Repr

def ExportFormat.toString : ExportFormat → String
  | .csv => "CSV"
  | .pdf => "PDF"

inductive ExportArtifactStatus
  | pending
  | ready
  | failed
  deriving DecidableEq, Repr

inductive DocumentStatus
  | active
  | deleted
  deriving DecidableEq, Repr

inductive DocumentType
  | receipt
  | invoice
  | contract
  | payslip
  | reportExport
  | attachment
  | other
  deriving DecidableEq, Repr

def DocumentType.toString : DocumentType → String
  | .receipt => "RECEIPT"
  | .invoice => "INVOICE"
  | .contract => "CONTRACT"
  | .payslip => "PAYSLIP"
  | .reportExport => "REPORT_EXPORT"
  | .attachment => "ATTACHMENT"
  | .other => "OTHER"

/-- The report types, under their names. -/
def reportTypes : List (ReportType × String) :=
  [(.shiftEnd, "SHIFT_END"), (.dailySales, "DAILY_SALES"), (.paymentMix, "PAYMENT_MIX"),
   (.topItems, "TOP_ITEMS"), (.stockVariance, "STOCK_VARIANCE"),
   (.anomalySummary, "ANOMALY_SUMMARY"), (.reservationSummary, "RESERVATION_SUMMARY"),
   (.eventSummary, "EVENT_SUMMARY"), (.salesByCategory, "SALES_BY_CATEGORY"),
   (.salesByHour, "SALES_BY_HOUR"), (.discountsSummary, "DISCOUNTS_SUMMARY"),
   (.voidsSummary, "VOIDS_SUMMARY"), (.refundsSummary, "REFUNDS_SUMMARY"),
   (.cashVariance, "CASH_VARIANCE"), (.cashMovements, "CASH_MOVEMENTS"),
   (.wastageSummary, "WASTAGE_SUMMARY"), (.lowStock, "LOW_STOCK"),
   (.reservationDeposits, "RESERVATION_DEPOSITS"), (.reservationNoShows, "RESERVATION_NO_SHOWS"),
   (.eventBookings, "EVENT_BOOKINGS"), (.eventCheckins, "EVENT_CHECKINS"),
   (.staffOperations, "STAFF_OPERATIONS"), (.highRiskActors, "HIGH_RISK_ACTORS"),
   (.openClosedOrders, "OPEN_CLOSED_ORDERS"), (.reportCatalog, "REPORT_CATALOG")]

def typeName (reportType : ReportType) : String := (reportTypes.lookup reportType).getD ""

/-- With the type of its report run. -/
structure ExportArtifact where
  id : String
  orgId : String
  branchId : Option String
  reportRunId : String
  reportType : ReportType
  format : ExportFormat
  status : ExportArtifactStatus
  fileName : String
  mimeType : String
  fileSizeBytes : Option Nat := none
  checksum : Option String := none
  generatedById : String
  readyAt : Option Time := none
  failedAt : Option Time := none
  failureReason : Option String := none
  createdAt : Time
  deriving DecidableEq, Repr

structure Document where
  id : String
  orgId : String
  branchId : Option String
  originalFileName : String
  mimeType : String
  fileSizeBytes : Nat
  checksum : String
  documentType : DocumentType
  status : DocumentStatus := .active
  uploadedById : String
  createdAt : Time
  deriving DecidableEq, Repr

/-- The rows, in the order in which the database comes upon them. -/
structure ExportTables where
  artifacts : List ExportArtifact
  documents : List Document
  artifactKeys : (artifacts.map (·.id)).Nodup
  documentKeys : (documents.map (·.id)).Nodup

-- ---
-- Requests and answers
-- ---

/-- What an export can be requested of; documents are listed only. -/
inductive ExportSourceDomain
  | reports
  deriving DecidableEq, Repr

/-- What an entry can be of. -/
inductive EntryDomain
  | reports
  | documents
  deriving DecidableEq, Repr

def EntryDomain.toString : EntryDomain → String
  | .reports => "reports"
  | .documents => "documents"

inductive ExportFacadeStatus
  | queued
  | running
  | completed
  | failed
  | expired
  deriving DecidableEq, Repr

structure ListExportsDto where
  sourceDomain : Option ExportSourceDomain := none
  sourceType : Option String := none
  status : Option ExportFacadeStatus := none
  format : Option ExportFormat := none
  requestedBy : Option String := none
  page : Option Nat := none
  pageSize : Option Nat := none
  deriving DecidableEq, Repr

structure ExportEnvelope where
  exportId : String
  sourceDomain : EntryDomain
  sourceType : Option String
  sourceRefId : String
  requestedBy : String
  requestedAt : Time
  status : ExportFacadeStatus
  format : String
  fileName : String
  contentType : String
  fileSizeBytes : Option Nat
  checksum : Option String
  readyAt : Option Time
  failedAt : Option Time
  failureReason : Option String
  downloadReady : Bool
  downloadUrl : String
  retentionExpiresAt : Option Time
  deriving DecidableEq, Repr

structure ExportPage where
  data : List ExportEnvelope
  total : Nat
  page : Nat
  pageSize : Nat
  deriving DecidableEq, Repr

-- ---
-- Export ids
-- ---

def encodeId (domain : EntryDomain) (id : String) : String := domain.toString ++ ":" ++ id

/-- What stands before the first colon, and behind it. -/
def decodeId (id : String) : Except HttpError (EntryDomain × String) :=
  let domain := id.toList.takeWhile (· != ':')
  let underlyingId := (id.toList.dropWhile (· != ':')).drop 1
  if domain.isEmpty || underlyingId.isEmpty then
    .error (badRequest
      "Export id must be in the form \"<domain>:<id>\" (e.g. \"reports:abc123\")")
  else if domain == "reports".toList then .ok (.reports, String.ofList underlyingId)
  else if domain == "documents".toList then .ok (.documents, String.ofList underlyingId)
  else .error (badRequest ("Unsupported export domain: " ++ String.ofList domain))

-- ---
-- Envelopes
-- ---

def mapReportStatus : ExportArtifactStatus → ExportFacadeStatus
  | .pending => .queued
  | .ready => .completed
  | .failed => .failed

def downloadUrl (exportId : String) : String := "/api/exports/" ++ exportId ++ "/download"

def envelopeForReportArtifact (a : ExportArtifact) : ExportEnvelope where
  exportId := encodeId .reports a.id
  sourceDomain := .reports
  sourceType := some (typeName a.reportType)
  sourceRefId := a.reportRunId
  requestedBy := a.generatedById
  requestedAt := a.createdAt
  status := mapReportStatus a.status
  format := a.format.toString
  fileName := a.fileName
  contentType := a.mimeType
  fileSizeBytes := a.fileSizeBytes
  checksum := a.checksum
  readyAt := a.readyAt
  failedAt := a.failedAt
  failureReason := a.failureReason
  downloadReady := a.status == .ready
  downloadUrl := downloadUrl (encodeId .reports a.id)
  retentionExpiresAt := none

/-- `fileName.split('.').pop()` -/
def extension (fileName : String) : String :=
  String.ofList (fileName.toList.reverse.takeWhile (· != '.')).reverse

/-- `ext || 'BINARY'` -/
def orBinary (ext : String) : String := if ext.isEmpty then "BINARY" else ext

-- `toUpperCase` is that of the language's strings.
variable (toUpperCase : String → String)

def envelopeForDocument (d : Document) : ExportEnvelope where
  exportId := encodeId .documents d.id
  sourceDomain := .documents
  sourceType := some d.documentType.toString
  sourceRefId := d.id
  requestedBy := d.uploadedById
  requestedAt := d.createdAt
  status := .completed
  format := orBinary (toUpperCase (extension d.originalFileName))
  fileName := d.originalFileName
  contentType := d.mimeType
  -- Of `fileSize`; the column is named otherwise.
  fileSizeBytes := none
  checksum := some d.checksum
  readyAt := some d.createdAt
  failedAt := none
  failureReason := none
  downloadReady := true
  downloadUrl := downloadUrl (encodeId .documents d.id)
  retentionExpiresAt := none

-- ---
-- The list
-- ---

/-- The status of a row that a status filter asks for, if there is one. -/
def statusFilter : ExportFacadeStatus → Option ExportArtifactStatus
  | .completed => some .ready
  | .queued => some .pending
  | .failed => some .failed
  | .running | .expired => none

def artifactMatches (orgId : String) (branchId : Option String) (query : ListExportsDto)
    (a : ExportArtifact) : Bool :=
  a.orgId == orgId && (truthy branchId).all (a.branchId == some ·) &&
    query.format.all (a.format == ·) && (truthy query.requestedBy).all (a.generatedById == ·) &&
    (query.status.bind statusFilter).all (a.status == ·) &&
    (truthy query.sourceType).all (typeName a.reportType == ·)

def documentMatches (orgId : String) (branchId : Option String) (query : ListExportsDto)
    (d : Document) : Bool :=
  d.orgId == orgId && (truthy branchId).all (d.branchId == some ·) && d.status == .active &&
    (truthy query.requestedBy).all (d.uploadedById == ·)

/-- `orderBy: { createdAt: 'desc' }` -/
def newer (createdAt : α → Time) (row other : α) : Prop := createdAt other ≤ createdAt row

instance (createdAt : α → Time) : DecidableRel (newer createdAt) :=
  fun _ _ => inferInstanceAs (Decidable (_ ≤ _))

/-- The database's client refuses a filter that is the name of no report type. -/
def isReportType (name : String) : Bool := (reportTypes.map (·.2)).contains name

def listExports (t : ExportTables) (orgId : String) (branchId : Option String)
    (query : ListExportsDto) : Except HttpError ExportPage :=
  let page := query.page.getD 1
  let pageSize := query.pageSize.getD 25
  -- The one domain that the filter can name is that of the reports.
  if !(truthy query.sourceType).all isReportType then
    .error { kind := .internalServerError, message := "Internal server error" }
  else
    let reportArtifacts :=
      firsts (newer (·.createdAt)) 200 (t.artifacts.filter (artifactMatches orgId branchId query))
    let documents :=
      if query.sourceDomain.isNone then
        firsts (newer (·.createdAt)) 200
          (t.documents.filter (documentMatches orgId branchId query))
      else []
    let merged := (reportArtifacts.map envelopeForReportArtifact ++
      documents.map (envelopeForDocument toUpperCase)).insertionSort (newer (·.requestedAt))
    .ok { data := pageOf pageSize merged page, total := merged.length, page, pageSize }

-- ---
-- One entry
-- ---

def getExport (t : ExportTables) (orgId id : String) : Except HttpError ExportEnvelope :=
  match decodeId id with
  | .error e => .error e
  | .ok (.reports, underlyingId) =>
    match t.artifacts.find? fun a => a.id == underlyingId && a.orgId == orgId with
    | some a => .ok (envelopeForReportArtifact a)
    | none => .error (notFound "Export not found")
  | .ok (.documents, underlyingId) =>
    match t.documents.find? fun d =>
        d.id == underlyingId && d.orgId == orgId && d.status == .active with
    | some d => .ok (envelopeForDocument toUpperCase d)
    | none => .error (notFound "Export not found")

end NimbusPos.ExportsFacadeService
