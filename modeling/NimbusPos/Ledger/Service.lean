import NimbusPos.Accounting.Schema
import NimbusPos.Numbering

/-!
# The ledger

Manual journals, reversals, and the replay of postings from a source document.
-/

namespace NimbusPos.LedgerService

open Lib Lib.Service

def journalLabel : List Char := "JNL-".toList

def nextJournalNumber (s : Books) (orgId : Id) : String :=
  let last := s.journalEntries.findLatest (fun _ entry => entry.orgId == orgId) (·.createdAt)
  nextDashNumber journalLabel (last.map (·.2.journalNumber))

def numberTaken (s : Books) (orgId : Id) (journalNumber : String) : Bool :=
  (s.journalEntries.findFirst fun _ entry =>
    entry.orgId == orgId && entry.journalNumber == journalNumber).isSome

def insertEntry (s : Books) (entry : JournalEntry) : Books :=
  { s with journalEntries := s.journalEntries.insert entry }

-- ---
-- Manual journals
-- ---

structure CreateJournalLineDto where
  accountId : Id
  costCenterId : Option Id := none
  direction : JournalLineDirection
  amount : Amount
  description : Option String := none
  deriving DecidableEq, Repr

structure CreateJournalDto where
  journalDate : Time
  sourceKey : Option String := none
  sourceDocumentId : Option String := none
  reference : Option String := none
  description : Option String := none
  fiscalPeriodId : Option Id := none
  lines : List CreateJournalLineDto
  deriving DecidableEq, Repr

def CreateJournalDto.total (dto : CreateJournalDto) (direction : JournalLineDirection) : Amount :=
  ((dto.lines.filter (·.direction == direction)).map (·.amount)).sum

/-- The first account of the lines that is not an active one of the organisation. -/
def CreateJournalDto.missingAccount (dto : CreateJournalDto) (s : Books) (orgId : Id) : Option Id :=
  (dto.lines.map (·.accountId)).find? fun id =>
    !(s.accounts.get? id).any fun account => account.orgId == orgId && account.status == .active

def CreateJournalDto.missingCostCenter (dto : CreateJournalDto) (s : Books) (orgId : Id) :
    Option Id :=
  (dto.lines.filterMap (·.costCenterId)).find? fun id =>
    !(s.costCenters.get? id).any fun costCenter => costCenter.orgId == orgId && costCenter.active

/-- The period is named and is not an open one of the organisation. -/
def CreateJournalDto.periodClosed (dto : CreateJournalDto) (s : Books) (orgId : Id) : Bool :=
  dto.fiscalPeriodId.any fun id =>
    !(s.fiscalPeriods.get? id).any fun period => period.orgId == orgId && period.status == .open

def CreateJournalDto.entry (dto : CreateJournalDto) (s : Books) (orgId : Id) (branchId : Option Id)
    (userId : Id) : JournalEntry where
  orgId := orgId
  branchId := branchId
  journalNumber := nextJournalNumber s orgId
  journalDate := dayOf dto.journalDate
  status := .posted
  sourceKey := orNull dto.sourceKey
  sourceDocumentId := orNull dto.sourceDocumentId
  reference := orNull dto.reference
  description := orNull dto.description
  fiscalPeriodId := dto.fiscalPeriodId
  totalDebit := persist (dto.total .debit)
  totalCredit := persist (dto.total .credit)
  postedAt := some s.clock
  postedById := some userId
  lines := dto.lines.map fun line =>
    { orgId, accountId := line.accountId, costCenterId := line.costCenterId
      direction := line.direction
      amount := persist line.amount, description := orNull line.description }
  createdAt := s.clock

def createJournal (orgId : Id) (branchId : Option Id) (userId : Id) (dto : CreateJournalDto) :
    Acct Id := do
  ensure (dto.lines.all fun line => 0 < line.amount) (bad "Line amounts must be positive")
  ensure (dto.total .debit == dto.total .credit)
    (bad ("Journal must balance: debits (" ++ amountText (dto.total .debit) ++ ") ≠ credits (" ++
      amountText (dto.total .credit) ++ ")"))
  let s ← get
  reject (dto.missingAccount s orgId) fun id =>
    bad ("Account " ++ toString id ++ " not found or inactive")
  reject (dto.missingCostCenter s orgId) fun id =>
    bad ("Cost center " ++ toString id ++ " not found or inactive")
  ensure (!dto.periodClosed s orgId) (bad "Fiscal period not found or not in OPEN status")
  let entry := dto.entry s orgId branchId userId
  ensure (!numberTaken s orgId entry.journalNumber) uniqueViolation
  modify (insertEntry · entry)
  pure s.journalEntries.next

theorem createJournal_ok (h : createJournal orgId branchId userId dto s = .ok journalId t) :
    dto.periodClosed s orgId = false ∧ journalId = s.journalEntries.next ∧
      t = insertEntry s (dto.entry s orgId branchId userId) := by
  simp only [createJournal, bind_ok, ensure_ok, get_ok, reject_ok, modify_ok, pure_ok,
    Bool.not_eq_true'] at h
  obtain ⟨_, _, ⟨_, rfl⟩, _, _, ⟨_, rfl⟩, _, _, ⟨rfl, rfl⟩, _, _, ⟨_, rfl⟩, _, _, ⟨_, rfl⟩,
    _, _, ⟨hperiod, rfl⟩, _, _, ⟨_, rfl⟩, _, _, rfl, rfl, rfl⟩ := h
  exact ⟨hperiod, rfl, rfl⟩

theorem createJournal_atomic (orgId : Id) (branchId : Option Id) (userId : Id)
    (dto : CreateJournalDto) :
    Atomic (createJournal orgId branchId userId dto) := by
  refine (Reads.ensure _ _).then fun _ => (Reads.ensure _ _).then fun _ => Reads.get.then fun s =>
    (Reads.reject _ _).then fun _ => (Reads.reject _ _).then fun _ =>
      (Reads.ensure _ _).then fun _ => (Reads.ensure _ _).then fun _ => Total.atomic ?_
  exact (Total.modify _).bind fun _ => Total.pure _

-- ---
-- Reversals
-- ---

def reversalLine (orgId : Id) (line : JournalLine) : JournalLine where
  orgId := orgId
  accountId := line.accountId
  costCenterId := line.costCenterId
  direction := line.direction.opposite
  amount := line.amount
  description := some ("Reversal: " ++ line.description.getD "").trimAscii.toString

def reversal (s : Books) (orgId userId : Id) (reason : Option String) (originalId : Id)
    (original : JournalEntry) : JournalEntry where
  orgId := orgId
  branchId := original.branchId
  journalNumber := nextJournalNumber s orgId
  journalDate := dayOf s.clock
  status := .posted
  sourceKey := original.sourceKey
  sourceDocumentId := original.sourceDocumentId
  reference := some ("Reversal of " ++ original.journalNumber ++
    match orNull reason with
    | some reason => ": " ++ reason
    | none => "")
  description := some ("Reversal of " ++ original.journalNumber)
  fiscalPeriodId := original.fiscalPeriodId
  reversedFromId := some originalId
  totalDebit := original.totalCredit
  totalCredit := original.totalDebit
  postedAt := some s.clock
  postedById := some userId
  lines := original.lines.map (reversalLine orgId)
  createdAt := s.clock

/-- The transaction: the reversal is posted, the original marked. -/
def reverseEntry (s : Books) (originalId : Id) (entry : JournalEntry) : Books :=
  let marked (original : JournalEntry) : JournalEntry :=
    { original with status := .reversed, reversalOfId := some s.journalEntries.next }
  { s with journalEntries := (s.journalEntries.insert entry).update originalId marked }

def reverseJournal (orgId journalId userId : Id) (reason : Option String) : Acct Id := do
  let s ← get
  let original ← need ((s.journalEntries.get? journalId).filter (·.orgId == orgId))
    (missing "Journal entry not found")
  ensure (original.status != .reversed) (refused "Journal is already reversed")
  ensure (original.status == .posted) (refused "Only POSTED journals can be reversed")
  ensure ((s.journalEntries.findFirst fun _ entry => entry.reversedFromId == some journalId).isNone)
    (refused "Journal already has a reversal entry")
  let entry := reversal s orgId userId reason journalId original
  ensure (!numberTaken s orgId entry.journalNumber) uniqueViolation
  modify (reverseEntry · journalId entry)
  pure s.journalEntries.next

theorem reverseJournal_ok (h : reverseJournal orgId journalId userId reason s = .ok reversalId t) :
    ∃ original, s.journalEntries.get? journalId = some original ∧ original.orgId = orgId ∧
      original.status = .posted ∧ reversalId = s.journalEntries.next ∧
      t = reverseEntry s journalId (reversal s orgId userId reason journalId original) := by
  simp only [reverseJournal, bind_ok, ensure_ok, get_ok, need_ok, modify_ok, pure_ok, beq_iff_eq,
    Option.filter_eq_some_iff] at h
  obtain ⟨_, _, ⟨rfl, rfl⟩, original, _, ⟨⟨hget, horg⟩, rfl⟩, _, _, ⟨_, rfl⟩, _, _, ⟨hposted, rfl⟩,
    _, _, ⟨_, rfl⟩, _, _, ⟨_, rfl⟩, _, _, rfl, rfl, rfl⟩ := h
  exact ⟨original, hget, horg, hposted, rfl, rfl⟩

theorem reverseJournal_atomic (orgId journalId userId : Id) (reason : Option String) :
    Atomic (reverseJournal orgId journalId userId reason) := by
  refine Reads.get.then fun s => (Reads.need _ _).then fun original =>
    (Reads.ensure _ _).then fun _ => (Reads.ensure _ _).then fun _ =>
      (Reads.ensure _ _).then fun _ => (Reads.ensure _ _).then fun _ => Total.atomic ?_
  exact (Total.modify _).bind fun _ => Total.pure _

-- ---
-- Posting replay
-- ---

structure ReplayPosting where
  orgId : Id
  branchId : Option Id := none
  userId : Id
  sourceKey : String
  sourceDocumentId : Option String := none
  deriving DecidableEq, Repr

namespace ReplayPosting

def document (p : ReplayPosting) : Option String := orNull p.sourceDocumentId

def runKey (p : ReplayPosting) : String := p.sourceKey ++ ":" ++ p.document.getD "manual"

end ReplayPosting

def findSucceededRun (s : Books) (p : ReplayPosting) : Option (Id × PostingRun) :=
  s.postingRuns.findFirst fun _ run =>
    run.orgId == p.orgId && run.runKey == p.runKey && run.status == .succeeded

def createRun (s : Books) (p : ReplayPosting) : Books :=
  { s with
    postingRuns := s.postingRuns.insert
      { orgId := p.orgId, branchId := p.branchId, sourceKey := p.sourceKey
        sourceDocumentId := p.document, status := .pending, runKey := p.runKey } }

/-- The accounts of the active source map, when it has both. -/
def findSourceMap (s : Books) (p : ReplayPosting) : Option (Id × Id) := do
  let (_, sourceMap) ← s.postingSourceMaps.findFirst fun _ row =>
    row.orgId == p.orgId && row.sourceKey == p.sourceKey && row.active
  return (← sourceMap.debitAccountId, ← sourceMap.creditAccountId)

def missingSourceMap (p : ReplayPosting) : String :=
  "No active posting source map found for key: " ++ p.sourceKey

/-- The placeholder amount is one cent. -/
def postingEntry (s : Books) (p : ReplayPosting) (accounts : Id × Id) (journalNumber : String) :
    JournalEntry where
  orgId := p.orgId
  branchId := p.branchId
  journalNumber := journalNumber
  journalDate := dayOf s.clock
  status := .posted
  sourceKey := some p.sourceKey
  sourceDocumentId := p.document
  description := some ("Auto-posted from " ++ p.sourceKey ++
    match p.document with
    | some document => " / " ++ document
    | none => "")
  totalDebit := 1
  totalCredit := 1
  postedAt := some s.clock
  postedById := some p.userId
  lines := [
    { orgId := p.orgId, accountId := accounts.1, direction := .debit, amount := 1
      description := some (p.sourceKey ++ " debit") },
    { orgId := p.orgId, accountId := accounts.2, direction := .credit, amount := 1
      description := some (p.sourceKey ++ " credit") }]
  createdAt := s.clock

@[simp] theorem postingEntry_journalNumber (s : Books) (p : ReplayPosting) (accounts : Id × Id)
    (journalNumber : String) :
    (postingEntry s p accounts journalNumber).journalNumber = journalNumber := rfl

def succeedRun (s : Books) (runId journalId : Id) : Books :=
  { s with
    postingRuns := s.postingRuns.update runId fun run =>
      { run with
        status := .succeeded, journalEntryId := some journalId, finishedAt := some s.clock } }

def createError (s : Books) (p : ReplayPosting) (runId : Id) (message : String) : Books :=
  { s with
    postingErrors := s.postingErrors.insert
      { orgId := p.orgId, branchId := p.branchId, postingRunId := runId, sourceKey := p.sourceKey
        sourceDocumentId := p.document, code := "POSTING_FAILED", message } }

def failRun (s : Books) (runId : Id) : Books :=
  { s with
    postingRuns := s.postingRuns.update runId fun run =>
      { run with status := .failed, finishedAt := some s.clock, errorCount := 1 } }

inductive ReplayResult
  | alreadyPosted (runId : Id)
  | posted (runId journalId : Id)
  | failed (runId : Id) (message : String)
  deriving DecidableEq, Repr

/-- The call when every statement succeeds that the database does not refuse. -/
def replayPosting (s : Books) (p : ReplayPosting) : Books × ReplayResult :=
  match findSucceededRun s p with
  | some (runId, _) => (s, .alreadyPosted runId)
  | none =>
    let runId := s.postingRuns.next
    let s := createRun s p
    match findSourceMap s p with
    | none => (failRun (createError s p runId (missingSourceMap p)) runId,
        .failed runId (missingSourceMap p))
    | some accounts =>
      let entry := postingEntry s p accounts (nextJournalNumber s p.orgId)
      if numberTaken s p.orgId entry.journalNumber then
        (failRun (createError s p runId "Unique constraint failed") runId,
          .failed runId "Unique constraint failed")
      else
        let journalId := s.journalEntries.next
        (succeedRun (insertEntry s entry) runId journalId, .posted runId journalId)

end NimbusPos.LedgerService
