import NimbusPos.Accounting.Schema

/-!
# Bank reconciliation and period close

A reconciliation stores the totals of the statement lines it is about. Matching
recomputes them, skipping recounts what is left unmatched. Closing a fiscal period
stores what its journals earned.
-/

namespace NimbusPos.BankRecService

open Lib Lib.Service

-- ---
-- Totals
-- ---

@[ext]
structure Totals where
  matchedTotal : Cents
  matchedCount : Nat
  unmatchedCount : Nat
  deriving DecidableEq, Repr

/-- A credit counts up, a debit down. -/
def signed (line : BankStatementLine) : Cents :=
  if line.direction = .credit then line.amount else -line.amount

/-- The statement of the line belongs to the bank account. -/
def ofBankAccount (s : Books) (bankAccountId : Id) (line : BankStatementLine) : Bool :=
  (s.bankStatements.get? line.bankStatementId).any (·.bankAccountId == bankAccountId)

/-- `lineFilter`: the lines of the account, and of the statement if there is one. -/
def lineFilter (s : Books) (rec : BankReconciliation) (line : BankStatementLine) : Bool :=
  line.orgId == rec.orgId && ofBankAccount s rec.bankAccountId line &&
    rec.bankStatementId.all (line.bankStatementId == ·)

def recomputeTotals (s : Books) (rec : BankReconciliation) : Totals where
  matchedTotal := s.bankStatementLines.sumWhere
    (fun _ line => lineFilter s rec line && line.status == .matched)
    signed
  matchedCount := s.bankStatementLines.count fun _ line =>
    lineFilter s rec line && line.status == .matched
  unmatchedCount :=
    s.bankStatementLines.count fun _ line => lineFilter s rec line && line.status == .unmatched

-- ---
-- Opening a reconciliation
-- ---

structure CreateReconciliationDto where
  bankAccountId : Id
  bankStatementId : Option Id := none
  fiscalPeriodId : Option Id := none
  notes : Option String := none
  deriving DecidableEq, Repr

def findBankAccount (s : Books) (ctx : BranchContext) (bankAccountId : Id) : Option BankAccount :=
  (s.bankAccounts.get? bankAccountId).filter fun account =>
    account.orgId == ctx.organizationId && account.branchId == ctx.branchId

def findStatement (s : Books) (ctx : BranchContext) (bankStatementId : Id) : Option BankStatement :=
  (s.bankStatements.get? bankStatementId).filter fun statement =>
    statement.orgId == ctx.organizationId && statement.branchId == ctx.branchId

/-- The period is named and there is none. -/
def CreateReconciliationDto.periodMissing (dto : CreateReconciliationDto) (s : Books)
    (ctx : BranchContext) : Bool :=
  dto.fiscalPeriodId.any fun id => !(s.fiscalPeriods.get? id).any (·.orgId == ctx.organizationId)

def findActive (s : Books) (ctx : BranchContext) (bankAccountId : Id) :
    Option (Id × BankReconciliation) :=
  s.bankReconciliations.findFirst fun _ rec =>
    rec.orgId == ctx.organizationId && rec.bankAccountId == bankAccountId &&
      (rec.status == .open || rec.status == .inProgress)

/-- The reconciliation, with the balance and the count of its statement. -/
def openReconciliation (s : Books) (userId : Id) (ctx : BranchContext)
    (dto : CreateReconciliationDto) (statement : Option BankStatement) : BankReconciliation where
  orgId := ctx.organizationId
  branchId := ctx.branchId
  bankAccountId := dto.bankAccountId
  bankStatementId := dto.bankStatementId
  fiscalPeriodId := dto.fiscalPeriodId
  statementBalance := (statement.map (·.closingBalance)).getD 0
  unmatchedCount := match dto.bankStatementId with
    | some id => s.bankStatementLines.count fun _ line =>
      line.bankStatementId == id && line.orgId == ctx.organizationId && line.status == .unmatched
    | none => 0
  startedById := userId
  notes := dto.notes

def insertReconciliation (s : Books) (rec : BankReconciliation) : Books :=
  { s with bankReconciliations := s.bankReconciliations.insert rec }

/-- The statement, if one is named. -/
def statementOf (s : Books) (ctx : BranchContext) (dto : CreateReconciliationDto) :
    Acct (Option BankStatement) :=
  match dto.bankStatementId with
  | some id => some <$> need (findStatement s ctx id) (missing "Bank statement not found")
  | none => pure none

def createReconciliation (userId : Id) (ctx : BranchContext) (dto : CreateReconciliationDto) :
    Acct Id := do
  let s ← get
  let _ ← need (findBankAccount s ctx dto.bankAccountId) (missing "Bank account not found")
  ensure (!dto.periodMissing s ctx) (missing "Fiscal period not found")
  reject (findActive s ctx dto.bankAccountId) fun active =>
    refused ("An active reconciliation already exists for this bank account (status: " ++
      toString active.2.status ++ ")")
  let statement ← statementOf s ctx dto
  modify (insertReconciliation · (openReconciliation s userId ctx dto statement))
  pure s.bankReconciliations.next

theorem createReconciliation_ok
    (h : createReconciliation userId ctx dto s = .ok reconciliationId t) :
    ∃ statement, (∀ id ∈ dto.bankStatementId, findStatement s ctx id = statement ∧
      statement.isSome = true) ∧
      t = insertReconciliation s (openReconciliation s userId ctx dto statement) := by
  simp only [createReconciliation, bind_ok, get_ok, need_ok, ensure_ok, reject_ok, modify_ok,
    pure_ok] at h
  obtain ⟨_, _, ⟨rfl, rfl⟩, _, _, ⟨_, rfl⟩, _, _, ⟨_, rfl⟩, _, _, ⟨_, rfl⟩, statement, r,
    hstatement, _, _, rfl, rfl, rfl⟩ := h
  cases hid : dto.bankStatementId with
  | none =>
    simp only [statementOf, hid, pure_ok] at hstatement
    obtain ⟨rfl, rfl⟩ := hstatement
    refine ⟨none, ?_, rfl⟩
    intro id hid
    cases hid
  | some id =>
    simp only [statementOf, hid, map_ok, need_ok] at hstatement
    obtain ⟨row, ⟨hrow, rfl⟩, rfl⟩ := hstatement
    refine ⟨some row, ?_, rfl⟩
    intro id' hid'
    cases hid'
    exact ⟨hrow, rfl⟩

theorem createReconciliation_next
    (h : createReconciliation userId ctx dto s = .ok reconciliationId t) :
    reconciliationId = s.bankReconciliations.next := by
  simp only [createReconciliation, bind_ok, get_ok, pure_ok] at h
  obtain ⟨_, _, ⟨rfl, rfl⟩, _, _, _, _, _, _, _, _, _, _, _, _, _, _, _, rfl, _⟩ := h
  rfl

theorem createReconciliation_atomic (userId : Id) (ctx : BranchContext)
    (dto : CreateReconciliationDto) :
    Atomic (createReconciliation userId ctx dto) := by
  have hstatement (s : Books) : Reads (statementOf s ctx dto) := by
    unfold statementOf
    split
    · intro r
      rw [final_map]
      exact Reads.need _ _ r
    · exact Reads.pure _
  refine Reads.get.then fun s => (Reads.need _ _).then fun _ => (Reads.ensure _ _).then fun _ =>
    (Reads.reject _ _).then fun _ => (hstatement s).then fun _ => Total.atomic ?_
  exact (Total.modify _).bind fun _ => Total.pure _

-- ---
-- Matching and skipping
-- ---

def findReconciliation (s : Books) (ctx : BranchContext) (reconciliationId : Id) :
    Option BankReconciliation :=
  (s.bankReconciliations.get? reconciliationId).filter fun rec =>
    rec.orgId == ctx.organizationId && rec.branchId == ctx.branchId

/-- A line has no branch of its own: it is found through its statement. -/
def findLine (s : Books) (ctx : BranchContext) (lineId : Id) : Option BankStatementLine :=
  (s.bankStatementLines.get? lineId).filter fun line =>
    line.orgId == ctx.organizationId &&
      (s.bankStatements.get? line.bankStatementId).any (·.branchId == ctx.branchId)

/-- The period of the reconciliation, when it is closed or locked. -/
def closedPeriod (s : Books) (rec : BankReconciliation) : Option FiscalPeriod :=
  (rec.fiscalPeriodId.bind s.fiscalPeriods.get?).filter fun period =>
    period.status == .locked || period.status == .closed

structure MatchLineDto where
  bankStatementLineId : Id
  journalLineId : Option (Id × Nat) := none
  manualEntryId : Option Id := none
  deriving DecidableEq, Repr

def MatchLineDto.journalLineMissing (dto : MatchLineDto) (s : Books) (ctx : BranchContext) : Bool :=
  dto.journalLineId.any fun id =>
    !((s.journalEntries.get? id.1).bind (·.lines[id.2]?)).any (·.orgId == ctx.organizationId)

def MatchLineDto.manualEntryMissing (dto : MatchLineDto) (s : Books) (ctx : BranchContext) : Bool :=
  dto.manualEntryId.any fun id =>
    !(s.manualBankEntries.get? id).any fun entry =>
      entry.orgId == ctx.organizationId && entry.branchId == ctx.branchId

def markMatched (s : Books) (userId : Id) (dto : MatchLineDto) : Books :=
  { s with
    bankStatementLines := s.bankStatementLines.update dto.bankStatementLineId fun line =>
      { line with
        status := .matched, matchedJournalLineId := dto.journalLineId,
        matchedManualEntryId := dto.manualEntryId
        matchedAt := some s.clock, matchedById := some userId } }

/-- `rec` is the row as it was read. -/
def storeTotals (s : Books) (reconciliationId : Id) (rec : BankReconciliation) : Books :=
  let totals := recomputeTotals s rec
  { s with
    bankReconciliations := s.bankReconciliations.update reconciliationId fun row =>
      { row with
        status := if rec.status = .open then .inProgress else rec.status
        matchedTotal := totals.matchedTotal
        matchedCount := totals.matchedCount
        unmatchedCount := totals.unmatchedCount } }

def matchLine (userId : Id) (ctx : BranchContext) (reconciliationId : Id) (dto : MatchLineDto) :
    Acct Unit := do
  let s ← get
  let rec ← need (findReconciliation s ctx reconciliationId) (missing "Reconciliation not found")
  ensure (rec.status != .completed) (refused "Cannot match lines on a completed reconciliation")
  reject (closedPeriod s rec) fun period =>
    refused ("Cannot match lines — fiscal period is " ++ toString period.status)
  let line ← need (findLine s ctx dto.bankStatementLineId) (missing "Bank statement line not found")
  ensure (line.status != .matched) (refused "Bank statement line is already matched")
  ensure (dto.journalLineId.isSome || dto.manualEntryId.isSome)
    (bad "Either journalLineId or manualEntryId must be provided")
  ensure (!dto.journalLineMissing s ctx) (missing "Journal line not found")
  ensure (!dto.manualEntryMissing s ctx) (missing "Manual bank entry not found")
  modify fun s => storeTotals (markMatched s userId dto) reconciliationId rec

theorem matchLine_ok (h : matchLine userId ctx reconciliationId dto s = .ok u t) :
    ∃ rec line, findReconciliation s ctx reconciliationId = some rec ∧ rec.status ≠ .completed ∧
      findLine s ctx dto.bankStatementLineId = some line ∧ line.status ≠ .matched ∧
      t = storeTotals (markMatched s userId dto) reconciliationId rec := by
  simp only [matchLine, bind_ok, get_ok, need_ok, ensure_ok, reject_ok, modify_ok, bne_iff_ne] at h
  obtain ⟨_, _, ⟨rfl, rfl⟩, rec, _, ⟨hrec, rfl⟩, _, _, ⟨hstatus, rfl⟩, _, _, ⟨_, rfl⟩, line, _,
    ⟨hline, rfl⟩, _, _, ⟨hmatched, rfl⟩, _, _, ⟨_, rfl⟩, _, _, ⟨_, rfl⟩, _, _, ⟨_, rfl⟩, rfl⟩ := h
  exact ⟨rec, line, hrec, hstatus, hline, hmatched, rfl⟩

/-- A match names something, and what it names was found. -/
theorem matchLine_named (h : matchLine userId ctx reconciliationId dto s = .ok u t) :
    (dto.journalLineId.isSome || dto.manualEntryId.isSome) = true ∧
      dto.journalLineMissing s ctx = false ∧ dto.manualEntryMissing s ctx = false := by
  simp only [matchLine, bind_ok, get_ok, need_ok, ensure_ok, reject_ok, modify_ok] at h
  obtain ⟨_, _, ⟨rfl, rfl⟩, _, _, ⟨_, rfl⟩, _, _, ⟨_, rfl⟩, _, _, ⟨_, rfl⟩, _, _, ⟨_, rfl⟩,
    _, _, ⟨_, rfl⟩, _, _, ⟨hnamed, rfl⟩, _, _, ⟨hjournalLine, rfl⟩, _, _, ⟨hentry, rfl⟩, _⟩ := h
  exact ⟨hnamed, by simpa using hjournalLine, by simpa using hentry⟩

theorem matchLine_atomic (userId : Id) (ctx : BranchContext) (reconciliationId : Id)
    (dto : MatchLineDto) :
    Atomic (matchLine userId ctx reconciliationId dto) := by
  refine Reads.get.then fun s => (Reads.need _ _).then fun _ => (Reads.ensure _ _).then fun _ =>
    (Reads.reject _ _).then fun _ => (Reads.need _ _).then fun _ => (Reads.ensure _ _).then fun _ =>
      (Reads.ensure _ _).then fun _ => (Reads.ensure _ _).then fun _ =>
        (Reads.ensure _ _).then fun _ => ?_
  exact (Total.modify _).atomic

def markSkipped (s : Books) (lineId : Id) : Books :=
  { s with
    bankStatementLines := s.bankStatementLines.update lineId fun line =>
      { line with status := .skipped } }

/-- The unmatched lines of the statement, or of the account when there is no statement. -/
def countUnmatched (s : Books) (rec : BankReconciliation) : Nat :=
  s.bankStatementLines.count fun _ line =>
    (match rec.bankStatementId with
      | some id => line.bankStatementId == id
      | none => ofBankAccount s rec.bankAccountId line) && line.orgId == rec.orgId &&
          line.status == .unmatched

def storeUnmatched (s : Books) (reconciliationId : Id) (rec : BankReconciliation) : Books :=
  let unmatchedCount := countUnmatched s rec
  { s with
    bankReconciliations :=
      s.bankReconciliations.update reconciliationId fun row => { row with unmatchedCount } }

def skipLine (ctx : BranchContext) (reconciliationId lineId : Id) : Acct Unit := do
  let s ← get
  let rec ← need (findReconciliation s ctx reconciliationId) (missing "Reconciliation not found")
  ensure (rec.status != .completed) (refused "Cannot skip lines on a completed reconciliation")
  let line ← need (findLine s ctx lineId) (missing "Bank statement line not found")
  ensure (line.status != .matched) (refused "Cannot skip a matched line")
  modify fun s => storeUnmatched (markSkipped s lineId) reconciliationId rec

theorem skipLine_ok (h : skipLine ctx reconciliationId lineId s = .ok u t) :
    ∃ rec line, findReconciliation s ctx reconciliationId = some rec ∧ rec.status ≠ .completed ∧
      findLine s ctx lineId = some line ∧ line.status ≠ .matched ∧
      t = storeUnmatched (markSkipped s lineId) reconciliationId rec := by
  simp only [skipLine, bind_ok, get_ok, need_ok, ensure_ok, modify_ok, bne_iff_ne] at h
  obtain ⟨_, _, ⟨rfl, rfl⟩, rec, _, ⟨hrec, rfl⟩, _, _, ⟨hstatus, rfl⟩, line, _, ⟨hline, rfl⟩,
    _, _, ⟨hmatched, rfl⟩, rfl⟩ := h
  exact ⟨rec, line, hrec, hstatus, hline, hmatched, rfl⟩

theorem skipLine_atomic (ctx : BranchContext) (reconciliationId lineId : Id) :
    Atomic (skipLine ctx reconciliationId lineId) := by
  refine Reads.get.then fun s => (Reads.need _ _).then fun _ => (Reads.ensure _ _).then fun _ =>
    (Reads.need _ _).then fun _ => (Reads.ensure _ _).then fun _ => ?_
  exact (Total.modify _).atomic

-- ---
-- Completion
-- ---

def markCompleted (s : Books) (userId reconciliationId : Id) : Books :=
  { s with
    bankReconciliations := s.bankReconciliations.update reconciliationId fun row =>
      { row with status := .completed, completedAt := some s.clock, completedById := some userId } }

def completeReconciliation (userId : Id) (ctx : BranchContext) (reconciliationId : Id) :
    Acct Unit := do
  let s ← get
  let rec ← need (findReconciliation s ctx reconciliationId) (missing "Reconciliation not found")
  ensure (rec.status != .completed) (refused "Reconciliation is already completed")
  ensure (rec.status != .open)
    (bad "Cannot complete a reconciliation with no matched lines — start matching first")
  let difference := rec.statementBalance - rec.matchedTotal
  ensure (difference == 0)
    (bad ("Cannot complete reconciliation — difference is " ++ toFixed difference ++
      " (must be zero)"))
  modify (markCompleted · userId reconciliationId)

theorem completeReconciliation_ok
    (h : completeReconciliation userId ctx reconciliationId s = .ok u t) :
    ∃ rec, s.bankReconciliations.get? reconciliationId = some rec ∧
      rec.statementBalance = rec.matchedTotal ∧
      t = markCompleted s userId reconciliationId := by
  simp only [completeReconciliation, bind_ok, get_ok, need_ok, ensure_ok, modify_ok,
    beq_iff_eq] at h
  obtain ⟨_, _, ⟨rfl, rfl⟩, rec, _, ⟨hrec, rfl⟩, _, _, ⟨_, rfl⟩, _, _, ⟨_, rfl⟩, _, _,
    ⟨hdifference, rfl⟩, rfl⟩ := h
  exact ⟨rec, (Option.filter_eq_some_iff.mp hrec).1, Int.sub_eq_zero.mp hdifference, rfl⟩

theorem completeReconciliation_atomic (userId : Id) (ctx : BranchContext) (reconciliationId : Id) :
    Atomic (completeReconciliation userId ctx reconciliationId) := by
  refine Reads.get.then fun s => (Reads.need _ _).then fun _ => (Reads.ensure _ _).then fun _ =>
    (Reads.ensure _ _).then fun _ => (Reads.ensure _ _).then fun _ => ?_
  exact (Total.modify _).atomic

-- ---
-- Period close
-- ---

/-- The sum of an entry's lines of one direction on accounts of one type. -/
def lineTotal (s : Books) (orgId : Id) (accountType : AccountType)
    (direction : JournalLineDirection) (entry : JournalEntry) : Cents :=
  ((entry.lines.filter fun line => line.orgId == orgId && line.direction == direction &&
    (s.accounts.get? line.accountId).any (·.accountType == accountType)).map (·.amount)).sum

/-- `journalLine.aggregate` over the posted entries of the period. -/
def periodTotal (s : Books) (orgId periodId : Id) (accountType : AccountType)
    (direction : JournalLineDirection) : Cents :=
  s.journalEntries.sumWhere
    (fun _ entry => entry.fiscalPeriodId == some periodId && entry.status == .posted)
    (lineTotal s orgId accountType direction)

def incomeTotal (s : Books) (orgId periodId : Id) : Cents :=
  periodTotal s orgId periodId .revenue .credit

def expenseTotal (s : Books) (orgId periodId : Id) : Cents :=
  periodTotal s orgId periodId .expense .debit

def retainedEarnings (s : Books) (orgId periodId : Id) : Cents :=
  incomeTotal s orgId periodId - expenseTotal s orgId periodId

def closeRun (s : Books) (userId orgId periodId : Id) (notes : Option String) : PeriodCloseRun where
  orgId := orgId
  fiscalPeriodId := periodId
  closedById := userId
  retainedEarningsAmount := retainedEarnings s orgId periodId
  incomeTotal := incomeTotal s orgId periodId
  expenseTotal := expenseTotal s orgId periodId
  notes := notes

def markClosed (now : Time) (userId : Id) (period : FiscalPeriod) : FiscalPeriod :=
  { period with status := .closed, closedAt := some now, closedById := some userId }

def recordClose (s : Books) (userId periodId : Id) (run : PeriodCloseRun) : Books :=
  { s with
    fiscalPeriods := s.fiscalPeriods.update periodId (markClosed s.clock userId)
    periodCloseRuns := s.periodCloseRuns.insert run }

def closeFiscalPeriod (userId orgId periodId : Id) (notes : Option String) : Acct FiscalPeriod := do
  let s ← get
  let period ← need ((s.fiscalPeriods.get? periodId).filter (·.orgId == orgId))
    (missing "Fiscal period not found")
  ensure (period.status == .open)
    (refused ("Cannot close period — current status is " ++ toString period.status ++
      " (must be OPEN)"))
  modify (recordClose · userId periodId (closeRun s userId orgId periodId notes))
  pure (markClosed s.clock userId period)

theorem closeFiscalPeriod_ok (h : closeFiscalPeriod userId orgId periodId notes s = .ok closed t) :
    ∃ period, s.fiscalPeriods.get? periodId = some period ∧ period.orgId = orgId ∧
      closed = markClosed s.clock userId period ∧
      t = recordClose s userId periodId (closeRun s userId orgId periodId notes) := by
  simp only [closeFiscalPeriod, bind_ok, get_ok, need_ok, ensure_ok, modify_ok, pure_ok, beq_iff_eq,
    Option.filter_eq_some_iff] at h
  obtain ⟨_, _, ⟨rfl, rfl⟩, period, _, ⟨⟨hget, horg⟩, rfl⟩, _, _, ⟨_, rfl⟩, _, _, rfl, rfl, rfl⟩ :=
    h
  exact ⟨period, hget, horg, rfl, rfl⟩

end NimbusPos.BankRecService
