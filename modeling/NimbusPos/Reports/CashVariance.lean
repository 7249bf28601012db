import NimbusPos.Reports.Service
import NimbusPos.Shifts.Custody
import NimbusPos.Text

/-!
# The cash variance report

The report lists the sessions that are closed, and the calls leave a session open or
reconciled. It says what was reconciled in its window exactly when nothing was.
-/

namespace NimbusPos.ReportsService

open Lib Lib.Program
open CashControl (DrawerCall DrawerPool World take requested)

/-- A session of the branch was reconciled in the range. -/
def reconciledIn (ctx : BranchContext) (range : Range) (_ : Id) (till : TillSession) : Bool :=
  till.orgId == ctx.organizationId && till.branchId == ctx.branchId && till.closedAt.any range.has

/-- The report lists what was reconciled, and sums its variances. -/
structure Covers (email : Id → String) (s : Store) (ctx : BranchContext) (range : Range)
    (summary : CashVarianceSummary) : Prop where
  listed : summary.tillBreakdown.Perm
    ((s.tillSessions.findMany (reconciledIn ctx range)).map (tillLine email))
  total : summary.totalVariance =
    amountText (s.tillSessions.sumWhere (reconciledIn ctx range) (·.variance.getD 0) : Cents)

/-- No session has the status that the report asks for. -/
def NoneClosed (s : Store) : Prop :=
  ∀ tillId till, s.tillSessions.get? tillId = some till → till.status ≠ .closed

-- ---
-- No call closes a session
-- ---

theorem NoneClosed.exec {k : CashControl.Statement} (h : NoneClosed w.store)
    (hopen : World.createsOpen k) :
    NoneClosed (World.exec w k).1.store := by
  cases k with
  | createTill row =>
    intro tillId till hget
    replace hget : (w.store.tillSessions.insert _).get? tillId = some till := hget
    rcases Table.insert_cases hget with ⟨-, rfl⟩ | hget
    · rw [show row.status = .open from hopen]
      exact TillSessionStatus.noConfusion
    · exact h tillId till hget
  | updateReconciled id data =>
    intro tillId till hget
    replace hget : (w.store.tillSessions.update id _).get? tillId = some till := hget
    rcases Table.update_cases hget with ⟨-, old, -, rfl⟩ | ⟨-, hget⟩
    · exact TillSessionStatus.noConfusion
    · exact h tillId till hget
  | createShift row =>
    simp only [World.exec, CashControl.exec]
    split <;> exact h
  | _ => exact h

def noneClosedDiscipline : Discipline fun _ => World.exec where
  inv w := NoneClosed w.store
  rely _ := .same fun _ => ()
  needs _ _ := World.createsOpen
  allowed _ _ := True
  keeps _ _ _ h hopen _ := ⟨h.exec hopen, fun _ _ => rfl⟩

theorem requested_none_closed (hstart : NoneClosed s)
    (hrun : Run take (fun _ _ => True) (requested s calls) turns p) :
    NoneClosed p.shared.store := by
  have hsafe : SafePool noneClosedDiscipline (fun _ _ _ => True) (requested s calls) := by
    refine ⟨hstart, fun i x hx => ?_⟩
    simp only [requested, List.getElem?_map, Option.map_eq_some_iff] at hx
    obtain ⟨call, -, rfl⟩ := hx
    exact CashControl.always_program (fun _ _ _ hopen => hopen) call _
  have hwait (w : World) (ms : Nat) (h : NoneClosed w.store) :
      NoneClosed (w.wait ms).store ∧
        ∀ i, (noneClosedDiscipline.rely i).rel w (w.wait ms) :=
    ⟨h, fun _ => rfl⟩
  rw [hrun.eq_foldl]
  exact (hsafe.run_any (fun _ _ _ _ _ _ => trivial) hwait (fun _ _ => trivial) turns).inv

-- ---
-- The report
-- ---

theorem NoneClosed.findMany (h : NoneClosed s) (ctx : BranchContext) (range : Range) :
    s.tillSessions.findMany (closedIn ctx range) = [] := by
  rw [List.eq_nil_iff_forall_not_mem]
  rintro ⟨tillId, till⟩ hmem
  obtain ⟨hget, hclosed⟩ := Table.mem_findMany.mp hmem
  simp only [closedIn, Bool.and_eq_true, beq_iff_eq] at hclosed
  exact h tillId till hget hclosed.1.2

theorem covers_nothing_iff (email : Id → String) (s : Store) (ctx : BranchContext)
    (range : Range) :
    Covers email s ctx range (cashVariance email []) ↔ ∀ tillId till,
      s.tillSessions.get? tillId = some till → reconciledIn ctx range tillId till = false := by
  have hnone : s.tillSessions.findMany (reconciledIn ctx range) = [] ↔ ∀ tillId till,
      s.tillSessions.get? tillId = some till → reconciledIn ctx range tillId till = false := by
    simp [List.eq_nil_iff_forall_not_mem, Table.mem_findMany]
  rw [← hnone]
  constructor
  · intro h
    exact List.map_eq_nil_iff.mp h.listed.symm.eq_nil
  · intro h
    refine ⟨?_, ?_⟩
    · rw [h]
      exact .nil
    · rw [Table.sumWhere, h]
      rfl

/-- After any interleaving of the calls, a report says what was reconciled in its window
exactly when no session of the branch was. -/
theorem cash_variance_iff (hstart : NoneClosed s)
    (hrun : Run take (fun _ _ => True) (requested s calls) turns p)
    (hreport : (generateCashVarianceReport calendar email p.shared.store runs ctx requestedById
      request).2 = .ok (runId, report)) :
    ∃ range summary, resolveRange calendar p.shared.store.clock request = .ok range ∧
      report.summary = some summary ∧
      (Covers email p.shared.store ctx range summary ↔ ∀ tillId till,
        p.shared.store.tillSessions.get? tillId = some till →
          reconciledIn ctx range tillId till = false) := by
  obtain ⟨range, hrange, hsummary⟩ := generateCashVarianceReport_ok hreport
  rw [(requested_none_closed hstart hrun).findMany] at hsummary
  exact ⟨range, _, hrange, hsummary, covers_nothing_iff email _ ctx range⟩

/-- The calendar of a server in UTC; the first day was a Thursday. -/
def utc : Calendar where
  day now := midnight (dayOf now)
  week now := midnight (dayOf now - (dayOf now + 4) % 7)
  month now := midnight (dayOf now + 1 - (civil (dayOf now)).2.2)
  nextMonth now :=
    let next := dayOf now + 1 - (civil (dayOf now)).2.2 + 31
    midnight (next + 1 - (civil next).2.2)

theorem counted_nonneg : (0 : Cents) ≤ 4500 := by decide

/-- A till is opened with 50.00 and reconciled on day 0 with 45.00. -/
def dayZero : List DrawerCall :=
  [.openShift 1 ⟨0, 0⟩, .openTill 1 ⟨0, 0⟩ (CashControl.till "A"),
    .reconcileTill 0 ⟨0, 0⟩
      { countedCash := 4500, countedCash_nonneg := counted_nonneg, varianceReason := "coins" }]

def firstDay : List Turn := times 4 0 ++ times 5 1 ++ [.wait 3600000] ++ times 5 2

def toNextDay : List Turn := firstDay ++ [.wait 86400000]

def after (turns : List Turn) : DrawerPool := turns.foldl take (requested {} dayZero)

/-- A report of a day that lists no session. -/
def nothing (day : Day) (generatedAt : Time) : ReportRun CashVarianceSummary where
  orgId := 0
  branchId := 0
  reportType := .cashVariance
  reportWindow := .day
  requestedById := 7
  status := .completed
  dateFrom := midnight day
  dateTo := midnight (day + 1)
  parameters := none
  summary := some ⟨0, "0", []⟩
  generatedAt := some generatedAt

def dayReport (p : DrawerPool) : Except HttpError (Id × ReportRun CashVarianceSummary) :=
  (generateCashVarianceReport utc toString p.shared.store .empty ⟨0, 0⟩ 7
    { reportWindow := .day }).2

theorem none_closed_empty : NoneClosed {} := by
  rintro tillId till ⟨⟩

/-- The day after, nothing was reconciled and the report says so. -/
theorem cash_variance_iff_next_day :
    dayReport (after toNextDay) = .ok (0, nothing 1 90000000) ∧
      Covers toString (after toNextDay).shared.store ⟨0, 0⟩ ⟨86400000, 172800000⟩ ⟨0, "0", []⟩ := by
  have hreport : dayReport (after toNextDay) = .ok (0, nothing 1 90000000) := by decide +kernel
  refine ⟨hreport, ?_⟩
  have hrun : Run take (fun _ _ => True) (requested {} dayZero) toNextDay (after toNextDay) :=
    Run.foldl _ _ _
  obtain ⟨range, summary, hrange, hsummary, hiff⟩ :=
    cash_variance_iff none_closed_empty hrun hreport
  have hday : resolveRange utc (after toNextDay).shared.store.clock { reportWindow := .day } =
      .ok ⟨86400000, 172800000⟩ := by decide +kernel
  cases hrange.symm.trans hday
  cases hsummary
  refine hiff.mpr fun tillId till hget => ?_
  have hrows : ∀ row ∈ (after toNextDay).shared.store.tillSessions.rows,
      reconciledIn ⟨0, 0⟩ ⟨86400000, 172800000⟩ row.1 row.2 = false := by decide +kernel
  exact hrows _ (Table.get?_iff.mp hget)

/-- On the day itself the report lists no session, and one was reconciled, 5.00 short. -/
theorem cash_variance_missing :
    ¬(∀ (s : Store) (calls : List DrawerCall) (turns : List Turn) (p : DrawerPool)
        (calendar : Calendar) (email : Id → String) (runs : Table (ReportRun CashVarianceSummary))
        (ctx : BranchContext) (requestedById : Id) (request : ReportRequest) (range : Range)
        (runId : Id) (report : ReportRun CashVarianceSummary) (summary : CashVarianceSummary),
      NoneClosed s → Run take (fun _ _ => True) (requested s calls) turns p →
      (generateCashVarianceReport calendar email p.shared.store runs ctx requestedById
        request).2 = .ok (runId, report) →
      resolveRange calendar p.shared.store.clock request = .ok range →
      report.summary = some summary → Covers email p.shared.store ctx range summary) ∧
    dayReport (after firstDay) = .ok (0, nothing 0 3600000) ∧
      ((after firstDay).shared.store.tillSessions.findMany (reconciledIn ⟨0, 0⟩ ⟨0, 86400000⟩)).map
        (fun row => (row.1, row.2.status, row.2.variance)) = [(0, .reconciled, some (-500))] := by
  have hreport : dayReport (after firstDay) = .ok (0, nothing 0 3600000) := by decide +kernel
  have hone : ((after firstDay).shared.store.tillSessions.findMany
      (reconciledIn ⟨0, 0⟩ ⟨0, 86400000⟩)).map
        (fun row => (row.1, row.2.status, row.2.variance)) =
          [(0, .reconciled, some (-500))] := by decide +kernel
  refine ⟨fun h => ?_, hreport, hone⟩
  have hcovers := h {} dayZero firstDay (after firstDay) utc toString .empty ⟨0, 0⟩ 7
      { reportWindow := .day }
    ⟨0, 86400000⟩ 0 _ _ none_closed_empty (Run.foldl take _ _) hreport (by decide +kernel) rfl
  have hlisted := hcovers.listed.length_eq
  have hlength := congrArg List.length hone
  rw [List.length_map] at hlisted hlength
  rw [hlength] at hlisted
  cases hlisted

end NimbusPos.ReportsService
