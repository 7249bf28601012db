import NimbusPos.BankRec.Service
import NimbusPos.Lib.Program
import NimbusPos.Text

/-!
# Fiscal periods

One service creates and opens the periods of an organisation and another closes and locks
them. Each call reads what it checks and writes in a later statement; a transaction is one.
-/

namespace NimbusPos.FiscalPeriods

open Lib Lib.Program
open BankRecService (markClosed recordClose periodTotal)

-- ---
-- Statements
-- ---

inductive Statement
  | now
  | findOverlapping (orgId : Id) (startsAt endsAt : Time)
  | createPeriod (row : FiscalPeriod)
  | findPeriod (orgId periodId : Id)
  | updateOpened (periodId : Id)
  | aggregate (orgId periodId : Id) (accountType : AccountType) (direction : JournalLineDirection)
  | recordClose (userId periodId : Id) (run : PeriodCloseRun)
  | updateLocked (periodId : Id)
  deriving DecidableEq, Repr

abbrev Statement.Answer : Statement → Type
  | .now => Time
  | .findOverlapping .. => Option (Id × FiscalPeriod)
  | .createPeriod _ => Id
  | .findPeriod .. => Option FiscalPeriod
  | .updateOpened _ | .recordClose .. | .updateLocked _ => FiscalPeriod
  | .aggregate .. => Cents

def overlaps (orgId : Id) (startsAt endsAt : Time) (_ : Id) (period : FiscalPeriod) : Bool :=
  period.orgId == orgId && period.startsAt ≤ endsAt && startsAt ≤ period.endsAt

def withStatus (status : FiscalPeriodStatus) (period : FiscalPeriod) : FiscalPeriod :=
  { period with status }

/-- `fiscalPeriod.update`, where the row is there. -/
def updated (s t : Books) (periodId : Id) (data : FiscalPeriod → FiscalPeriod) :
    Books × Except HttpError FiscalPeriod :=
  match s.fiscalPeriods.get? periodId with
  | some period => (t, .ok (data period))
  | none => (s, .error (notFound "Record to update not found"))

def setStatus (s : Books) (periodId : Id) (status : FiscalPeriodStatus) : Books :=
  { s with fiscalPeriods := s.fiscalPeriods.update periodId (withStatus status) }

def exec (s : Books) : (k : Statement) → Books × Except HttpError k.Answer
  | .now => (s, .ok s.clock)
  | .findOverlapping orgId startsAt endsAt =>
    (s, .ok (s.fiscalPeriods.findFirst (overlaps orgId startsAt endsAt)))
  | .createPeriod row =>
    ({ s with fiscalPeriods := s.fiscalPeriods.insert row }, .ok s.fiscalPeriods.next)
  | .findPeriod orgId periodId =>
    (s, .ok ((s.fiscalPeriods.get? periodId).filter (·.orgId == orgId)))
  | .updateOpened periodId => updated s (setStatus s periodId .open) periodId (withStatus .open)
  | .aggregate orgId periodId accountType direction =>
    (s, .ok (periodTotal s orgId periodId accountType direction))
  | .recordClose userId periodId run =>
    updated s (recordClose s userId periodId run) periodId (markClosed s.clock userId)
  | .updateLocked periodId => updated s (setStatus s periodId .locked) periodId (withStatus .locked)

-- ---
-- Calls
-- ---

abbrev PeriodProgram := Program Statement Statement.Answer HttpError

abbrev query (k : Statement) : PeriodProgram k.Answer := statement k

structure CreateFiscalPeriodDto where
  name : String
  startsAt : Time
  endsAt : Time
  deriving DecidableEq, Repr

inductive Reply
  | created (periodId : Id)
  | updated (period : FiscalPeriod)
  deriving DecidableEq, Repr

def createFiscalPeriod (orgId : Id) (dto : CreateFiscalPeriodDto) : PeriodProgram Reply := do
  ensure (dto.startsAt < dto.endsAt) (badRequest "endsAt must be after startsAt")
  let overlapping ← query (.findOverlapping orgId dto.startsAt dto.endsAt)
  match overlapping with
  | some (_, period) =>
    throw (conflict ("Fiscal period overlaps with existing period \"" ++ period.name ++ "\" (" ++
      toISOString period.startsAt ++ " — " ++ toISOString period.endsAt ++ ")"))
  | none =>
    let periodId ← query (.createPeriod
      { orgId, name := dto.name, startsAt := dto.startsAt, endsAt := dto.endsAt })
    return .created periodId

/-- The period, in the status that the call asks for. -/
def checkPeriod (orgId periodId : Id) (verb : String) (status : FiscalPeriodStatus) :
    PeriodProgram FiscalPeriod := do
  let found ← query (.findPeriod orgId periodId)
  let period ← need found (notFound "Fiscal period not found")
  ensure (period.status == status)
    (conflict ("Cannot " ++ verb ++ " period — current status is " ++ toString period.status ++
      " (must be " ++ toString status ++ ")"))
  return period

def openFiscalPeriod (orgId periodId : Id) : PeriodProgram Reply := do
  let _ ← checkPeriod orgId periodId "open" .draft
  let updated ← query (.updateOpened periodId)
  return .updated updated

def closeFiscalPeriod (userId orgId periodId : Id) (notes : Option String) :
    PeriodProgram Reply := do
  let _ ← checkPeriod orgId periodId "close" .open
  let incomeTotal ← query (.aggregate orgId periodId .revenue .credit)
  let expenseTotal ← query (.aggregate orgId periodId .expense .debit)
  let updated ← query (.recordClose userId periodId
    { orgId, fiscalPeriodId := periodId, closedById := userId
      retainedEarningsAmount := incomeTotal - expenseTotal, incomeTotal, expenseTotal, notes })
  return .updated updated

def lockFiscalPeriod (orgId periodId : Id) : PeriodProgram Reply := do
  let _ ← checkPeriod orgId periodId "lock" .closed
  let updated ← query (.updateLocked periodId)
  return .updated updated

inductive PeriodCall
  | createFiscalPeriod (orgId : Id) (dto : CreateFiscalPeriodDto)
  | openFiscalPeriod (orgId periodId : Id)
  | closeFiscalPeriod (userId orgId periodId : Id) (notes : Option String)
  | lockFiscalPeriod (orgId periodId : Id)
  deriving DecidableEq, Repr

def PeriodCall.program : PeriodCall → PeriodProgram Reply
  | .createFiscalPeriod orgId dto => FiscalPeriods.createFiscalPeriod orgId dto
  | .openFiscalPeriod orgId periodId => FiscalPeriods.openFiscalPeriod orgId periodId
  | .closeFiscalPeriod userId orgId periodId notes =>
    FiscalPeriods.closeFiscalPeriod userId orgId periodId notes
  | .lockFiscalPeriod orgId periodId => FiscalPeriods.lockFiscalPeriod orgId periodId

-- ---
-- A close alone
-- ---

theorem findPeriod_run
    (hfound : (s.fiscalPeriods.get? periodId).filter (·.orgId == orgId) = found) :
    (query (.findPeriod orgId periodId)).run exec s = (s, .ok found) :=
  congrArg (fun found => (s, Except.ok found)) hfound

theorem checkPeriod_ok (hfound : (s.fiscalPeriods.get? periodId).filter (·.orgId == orgId) =
    some period) (hstatus : (period.status == status) = true) :
    (checkPeriod orgId periodId verb status).run exec s = (s, .ok period) := by
  rw [checkPeriod, run_bind_ok (findPeriod_run hfound), run_bind_ok run_need_some,
    run_bind_ok (run_ensure_ok hstatus)]
  rfl

theorem checkPeriod_refused (hfound : (s.fiscalPeriods.get? periodId).filter (·.orgId == orgId) =
    some period) (hstatus : (period.status == status) = false) :
    ∃ e, (checkPeriod orgId periodId verb status).run exec s = (s, .error e) := by
  rw [checkPeriod, run_bind_ok (findPeriod_run hfound), run_bind_ok run_need_some]
  exact ⟨_, run_bind_error (run_ensure_error hstatus)⟩

theorem checkPeriod_missing (hfound : (s.fiscalPeriods.get? periodId).filter (·.orgId == orgId) =
    none) : ∃ e, (checkPeriod orgId periodId verb status).run exec s = (s, .error e) := by
  rw [checkPeriod, run_bind_ok (findPeriod_run hfound)]
  exact ⟨_, run_bind_error rfl⟩

theorem aggregate_run (s : Books) (orgId periodId : Id) (accountType : AccountType)
    (direction : JournalLineDirection) :
    (query (.aggregate orgId periodId accountType direction)).run exec s =
      (s, .ok (periodTotal s orgId periodId accountType direction)) := rfl

/-- A close with no other call between its statements is the one the ledger takes whole. -/
theorem closeFiscalPeriod_alone (userId orgId periodId : Id) (notes : Option String) (s : Books) :
    ((closeFiscalPeriod userId orgId periodId notes).run exec s).1 =
      Service.final (BankRecService.closeFiscalPeriod userId orgId periodId notes s) := by
  rw [BankRecService.closeFiscalPeriod, Service.final_get, closeFiscalPeriod]
  cases hfound : (s.fiscalPeriods.get? periodId).filter (·.orgId == orgId) with
  | none =>
    obtain ⟨e, hcheck⟩ := checkPeriod_missing hfound
    rw [run_bind_error hcheck]
    rfl
  | some period =>
    obtain ⟨hget, -⟩ := Option.filter_eq_some_iff.mp hfound
    rw [Service.final_need_some, Service.final_ensure]
    cases hopen : period.status == .open with
    | false =>
      obtain ⟨e, hcheck⟩ := checkPeriod_refused hfound hopen
      rw [run_bind_error hcheck]
      rfl
    | true =>
      have hclosed (row : PeriodCloseRun) : (query (.recordClose userId periodId row)).run exec s =
          (recordClose s userId periodId row, .ok (markClosed s.clock userId period)) := by
        show updated s (recordClose s userId periodId row) periodId _ = _
        simp only [updated, hget]
      rw [run_bind_ok (checkPeriod_ok hfound hopen), run_bind_ok (aggregate_run ..),
        run_bind_ok (aggregate_run ..), run_bind_ok (hclosed _)]
      rfl

end NimbusPos.FiscalPeriods
