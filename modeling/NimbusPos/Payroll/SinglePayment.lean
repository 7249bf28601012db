import Mathlib.Data.Set.Lattice
import Mathlib.Order.CompletePartialOrder
import Mathlib.Order.Interval.Set.Basic
import NimbusPos.Payroll.Service

/-!
# Each employee is paid once

The totals of a run are those of its slips, whose status follows the run's, in any
interleaving. That an employee is paid once for a day, and an adjustment counted once, holds
all along exactly those runs that pay no one who has a slip of an overlapping period, whatever
the branch: the check before a run is built looks at the runs of its own branch.
-/

namespace NimbusPos.PayrollService

open Lib Lib.Program

-- ---
-- The rules
-- ---

/-- The status of the slips of a run. -/
def slipStatus : PayRunStatus → Option PaySlipStatus
  | .draft => some .draft
  | .approved => some .final
  | .paid => some .paid
  | .cancelled => none

/-- The days that a run pays for. -/
def PayRun.period (run : PayRun) : Set Day := Set.Icc run.periodStart run.periodEnd

/-- The adjustments that a slip counts. -/
def PaySlipData.counted (data : PaySlipData) : List Id :=
  data.componentSnapshot.adjustments.map (·.id)

/-- A slip of a run that is not cancelled. -/
structure Store.Pays (s : Store) (slip : PaySlip) (run : PayRun) : Prop where
  written : ∃ slipId, s.paySlips.get? slipId = some slip
  ofRun : s.payRuns.get? slip.payRunId = some run
  live : run.status ≠ .cancelled

def Single (s : Store) : Prop :=
  ∀ slip other run run', s.Pays slip run → s.Pays other run' →
    slip.employeeId = other.employeeId → slip.payRunId ≠ other.payRunId →
    Disjoint run.period run'.period

structure Totals (s : Store) : Prop where
  gross : ∀ id run, s.payRuns.get? id = some run →
    run.grossTotal = s.paySlips.sumWhere (slipOf id) (·.grossPay)
  net : ∀ id run, s.payRuns.get? id = some run →
    run.netTotal = s.paySlips.sumWhere (slipOf id) (·.netPay)
  nets : ∀ slipId slip, s.paySlips.get? slipId = some slip →
    slip.netPay = slip.grossPay - slip.totalDeductions
  statuses : ∀ slipId slip, s.paySlips.get? slipId = some slip →
    ∃ run, s.payRuns.get? slip.payRunId = some run ∧
      ∀ status ∈ slipStatus run.status, slip.status = status

structure Rules (s : Store) : Prop extends Totals s where
  counted : ∀ slip other run run' adjustmentId, s.Pays slip run → s.Pays other run' →
    adjustmentId ∈ slip.counted → adjustmentId ∈ other.counted → slip.payRunId = other.payRunId
  single : Single s

-- ---
-- What is always kept
-- ---

/-- What a slip counts is its employee's and of the run's days. -/
def Sourced (adjustments : Table PayrollAdjustment) (run : PayRun) (data : PaySlipData) : Prop :=
  ∀ id ∈ data.counted, ∃ adjustment, adjustments.get? id = some adjustment ∧
    adjustment.employeeId = data.employeeId ∧ adjustment.effectiveDate ∈ run.period

structure Sound (adjustments : Table PayrollAdjustment) (s : Store) : Prop where
  fixed : s.adjustments = adjustments
  gross : ∀ id run, s.payRuns.get? id = some run →
    run.grossTotal = s.paySlips.sumWhere (slipOf id) (·.grossPay)
  net : ∀ id run, s.payRuns.get? id = some run →
    run.netTotal = s.paySlips.sumWhere (slipOf id) (·.netPay)
  nets : ∀ slipId slip, s.paySlips.get? slipId = some slip →
    slip.netPay = slip.grossPay - slip.totalDeductions
  runs : ∀ id run, s.payRuns.get? id = some run →
    run.status ≠ .cancelled ∧ run.periodStart ≤ run.periodEnd
  slips : ∀ slipId slip, s.paySlips.get? slipId = some slip →
    ∃ run, s.payRuns.get? slip.payRunId = some run ∧ slipStatus run.status = some slip.status ∧
      Sourced adjustments run slip.toPaySlipData

/-- A run as it is built. -/
structure Ready (adjustments : Table PayrollAdjustment) (run : PayRun) (slips : List PaySlipData) :
    Prop where
  draft : run.status = .draft
  span : run.periodStart ≤ run.periodEnd
  gross : run.grossTotal = (slips.map (·.grossPay)).sum
  net : run.netTotal = (slips.map (·.netPay)).sum
  nets : ∀ data ∈ slips, data.netPay = data.grossPay - data.totalDeductions
  sourced : ∀ data ∈ slips, Sourced adjustments run data

def ready (adjustments : Table PayrollAdjustment) : Statement → Prop
  | .createRun run slips => Ready adjustments run slips
  | _ => True

variable {adjustments : Table PayrollAdjustment} {s : Store} {run : PayRun}
  {slips : List PaySlipData} {slip : PaySlip} {id slipId : Id}

theorem Sound.pays (h : Sound adjustments s) (hslip : s.paySlips.get? slipId = some slip) :
    ∃ run, s.Pays slip run := by
  obtain ⟨run, hrun, -⟩ := h.slips slipId slip hslip
  exact ⟨run, ⟨slipId, hslip⟩, hrun, (h.runs _ run hrun).1⟩

theorem Sound.totals (h : Sound adjustments s) : Totals s where
  gross := h.gross
  net := h.net
  nets := h.nets
  statuses slipId slip hslip := by
    obtain ⟨run, hrun, hstatus, -⟩ := h.slips slipId slip hslip
    refine ⟨run, hrun, fun status hmem => ?_⟩
    exact Option.some.inj (hstatus.symm.trans hmem)

/-- An adjustment counted twice would be paid to its employee for its day twice. -/
theorem Sound.rules_iff (h : Sound adjustments s) : Rules s ↔ Single s := by
  refine ⟨fun hrules => hrules.single, fun hsingle => ⟨h.totals, ?_, hsingle⟩⟩
  intro slip other run run' id hpays hpays' hid hid'
  by_contra hne
  have hsource (slip : PaySlip) (run : PayRun) (hpays : s.Pays slip run) :
      Sourced adjustments run slip.toPaySlipData := by
    obtain ⟨slipId, hslip⟩ := hpays.written
    obtain ⟨run', hrun', -, hsource⟩ := h.slips slipId slip hslip
    rw [hpays.ofRun] at hrun'
    cases hrun'
    exact hsource
  obtain ⟨adjustment, hget, hemployee, hday⟩ := hsource slip run hpays id hid
  obtain ⟨adjustment', hget', hemployee', hday'⟩ := hsource other run' hpays' id hid'
  rw [hget] at hget'
  cases hget'
  have hdisjoint := hsingle slip other run run' hpays hpays' (hemployee.symm.trans hemployee') hne
  exact Set.disjoint_left.mp hdisjoint hday hday'

-- ---
-- A run is built
-- ---

theorem mem_insertRun (h : (insertRun s run slips).paySlips.get? slipId = some slip) :
    s.paySlips.get? slipId = some slip ∨
      slip.payRunId = s.payRuns.next ∧ slip.status = .draft ∧ slip.toPaySlipData ∈ slips := by
  refine (Table.get?_foldl_insert h).imp_right fun hmem => ?_
  obtain ⟨data, hdata, rfl⟩ := List.mem_map.mp hmem
  exact ⟨rfl, rfl, hdata⟩

theorem insertRun_run (h : s.payRuns.get? id = some old) :
    (insertRun s run slips).payRuns.get? id = some old :=
  Table.get?_insert_of_some h

/-- The slips of a run are summed over the others and the new ones. -/
theorem insertRun_sum (s : Store) (run : PayRun) (slips : List PaySlipData) (id : Id)
    (column : PaySlipData → Int) :
    (insertRun s run slips).paySlips.sumWhere (slipOf id) (fun slip => column slip.toPaySlipData) =
      s.paySlips.sumWhere (slipOf id) (fun slip => column slip.toPaySlipData) +
        if id = s.payRuns.next then (slips.map column).sum else 0 := by
  rw [Table.sumWhere_eq_total, Table.sumWhere_eq_total]
  refine (Table.total_foldl_insert (d := fun slip : PaySlip =>
    if slipOf id 0 slip then column slip.toPaySlipData else 0) fun _ _ _ _ => rfl).trans ?_
  congr 1
  simp only [List.map_map, Function.comp_def]
  by_cases hid : id = s.payRuns.next
  · simp [slipOf, hid]
  · simp [slipOf, hid, Ne.symm hid]

theorem Sound.sum_next (h : Sound adjustments s) (column : PaySlip → Int) :
    s.paySlips.sumWhere (slipOf s.payRuns.next) column = 0 := by
  rw [Table.sumWhere_eq_total]
  refine Table.total_zero fun slipId slip hslip => ?_
  obtain ⟨run, hrun, -⟩ := h.slips slipId slip hslip
  have hlt := Table.lt_next hrun
  simp [slipOf, Nat.ne_of_lt hlt]

theorem Sound.insertRun_total (h : Sound adjustments s) (total : PayRun → Int)
    (column : PaySlipData → Int)
    (hold : ∀ id run, s.payRuns.get? id = some run →
      total run = s.paySlips.sumWhere (slipOf id) fun slip => column slip.toPaySlipData)
    (hnew : total run = (slips.map column).sum)
    (hget : (insertRun s run slips).payRuns.get? id = some found) :
    total found = (insertRun s run slips).paySlips.sumWhere (slipOf id)
      fun slip => column slip.toPaySlipData := by
  replace hget : (s.payRuns.insert run).get? id = some found := hget
  rw [insertRun_sum]
  rcases Table.insert_cases hget with ⟨rfl, rfl⟩ | hget
  · rw [h.sum_next, if_pos rfl, hnew, Int.zero_add]
  · rw [if_neg (Nat.ne_of_lt (Table.lt_next hget)), Int.add_zero]
    exact hold id found hget

theorem Sound.createRun (h : Sound adjustments s) (hready : Ready adjustments run slips) :
    Sound adjustments (insertRun s run slips) where
  fixed := h.fixed
  gross _ _ := h.insertRun_total (·.grossTotal) (·.grossPay) h.gross hready.gross
  net _ _ := h.insertRun_total (·.netTotal) (·.netPay) h.net hready.net
  nets slipId slip hslip := by
    rcases mem_insertRun hslip with hslip | ⟨-, -, hslip⟩
    · exact h.nets slipId slip hslip
    · exact hready.nets _ hslip
  runs id found hget := by
    replace hget : (s.payRuns.insert run).get? id = some found := hget
    rcases Table.insert_cases hget with ⟨-, rfl⟩ | hget
    · exact ⟨by simp [hready.draft], hready.span⟩
    · exact h.runs id found hget
  slips slipId slip hslip := by
    rcases mem_insertRun hslip with hslip | ⟨hrun, hstatus, hslip⟩
    · obtain ⟨old, hold, hrest⟩ := h.slips slipId slip hslip
      exact ⟨old, insertRun_run hold, hrest⟩
    · refine ⟨run, ?_, ?_, hready.sourced _ hslip⟩
      · rw [hrun]
        exact Table.get?_insert_self _ _
      · simp [hready.draft, hstatus, slipStatus]

-- ---
-- A run goes on
-- ---

/-- What an update writes over a run and its slips: both get a status. -/
structure Moves (data : PayRun → PayRun) (slipData : PaySlip → PaySlip) (status : PayRunStatus) :
    Prop where
  live : status ≠ .cancelled
  sets : ∀ run, (data run).status = status
  spans : ∀ run, (data run).periodStart = run.periodStart ∧ (data run).periodEnd = run.periodEnd
  totals : ∀ run, (data run).grossTotal = run.grossTotal ∧ (data run).netTotal = run.netTotal
  slips : ∀ slip, (slipData slip).toPaySlipData = slip.toPaySlipData
  ofRun : ∀ slip, (slipData slip).payRunId = slip.payRunId
  follows : ∀ slip, slipStatus status = some (slipData slip).status

section

variable {data : PayRun → PayRun} {slipData : PaySlip → PaySlip} {status : PayRunStatus}
  (hmoves : Moves data slipData status)
include hmoves

theorem Moves.period_eq (run : PayRun) : (data run).period = run.period := by
  rw [PayRun.period, PayRun.period, (hmoves.spans run).1, (hmoves.spans run).2]

/-- The runs and slips after the update, and what they were. -/
theorem Moves.back (hslip : (s.paySlips.updateWhere (slipOf id) slipData).get? slipId = some slip) :
    ∃ old, s.paySlips.get? slipId = some old ∧ old.toPaySlipData = slip.toPaySlipData ∧
      old.payRunId = slip.payRunId ∧
      (old.payRunId = id → slipStatus status = some slip.status) ∧
      (old.payRunId ≠ id → old = slip) := by
  rw [Table.get?_updateWhere] at hslip
  obtain ⟨old, hold, rfl⟩ := Option.map_eq_some_iff.mp hslip
  refine ⟨old, hold, ?_⟩
  by_cases hid : old.payRunId = id
  · simp [slipOf, hid, hmoves.slips, hmoves.ofRun, ← hmoves.follows old]
  · simp [slipOf, hid]

theorem Moves.sum (s : Store) (id runId : Id) (column : PaySlipData → Int) :
    (s.paySlips.updateWhere (slipOf id) slipData).sumWhere (slipOf runId)
        (fun slip => column slip.toPaySlipData) =
      s.paySlips.sumWhere (slipOf runId) fun slip => column slip.toPaySlipData := by
  rw [Table.sumWhere_eq_total, Table.sumWhere_eq_total, Table.total_updateWhere]
  refine Table.total_congr fun slipId slip _ => ?_
  simp only [slipOf, hmoves.ofRun, hmoves.slips]
  split <;> rfl

/-- A run after the update has the period and the totals that it had. -/
theorem Moves.runBack (hrun : (s.payRuns.update id data).get? runId = some run) :
    ∃ old, s.payRuns.get? runId = some old ∧ run.period = old.period ∧
      (run.periodStart = old.periodStart ∧ run.periodEnd = old.periodEnd) ∧
      (run.grossTotal = old.grossTotal ∧ run.netTotal = old.netTotal) ∧
      (run = old ∨ run.status = status) := by
  rcases Table.update_cases hrun with ⟨-, old, hold, rfl⟩ | ⟨-, hrun⟩
  · exact ⟨old, hold, hmoves.period_eq old, hmoves.spans old, hmoves.totals old,
      .inr (hmoves.sets old)⟩
  · exact ⟨run, hrun, rfl, ⟨rfl, rfl⟩, ⟨rfl, rfl⟩, .inl rfl⟩

theorem Sound.updateRun (h : Sound adjustments s) (id : Id) :
    Sound adjustments (updateRun s id data slipData).1 := by
  unfold PayrollService.updateRun
  split
  · rename_i existing hexisting
    refine ⟨h.fixed, ?_, ?_, ?_, ?_, ?_⟩
    · intro runId run hrun
      obtain ⟨old, hold, -, -, htotals, -⟩ := hmoves.runBack hrun
      rw [htotals.1, h.gross runId old hold]
      exact (hmoves.sum s id runId (·.grossPay)).symm
    · intro runId run hrun
      obtain ⟨old, hold, -, -, htotals, -⟩ := hmoves.runBack hrun
      rw [htotals.2, h.net runId old hold]
      exact (hmoves.sum s id runId (·.netPay)).symm
    · intro slipId slip hslip
      obtain ⟨old, hold, hdata, -⟩ := hmoves.back hslip
      have hnet := h.nets slipId old hold
      rwa [hdata] at hnet
    · intro runId run hrun
      obtain ⟨old, hold, -, hspan, -, hstatus⟩ := hmoves.runBack hrun
      obtain ⟨hlive, hle⟩ := h.runs runId old hold
      rw [hspan.1, hspan.2]
      refine ⟨?_, hle⟩
      rcases hstatus with rfl | hstatus
      · exact hlive
      · exact hstatus ▸ hmoves.live
    · intro slipId slip hslip
      obtain ⟨old, hold, hdata, hrunId, hmoved, hkept⟩ := hmoves.back hslip
      obtain ⟨run, hrun, hstatus, hsource⟩ := h.slips slipId old hold
      rw [hdata] at hsource
      by_cases hid : old.payRunId = id
      · refine ⟨data run, ?_, (hmoves.sets run).symm ▸ hmoved hid, ?_⟩
        · rw [← hrunId, hid, Table.get?_update_self, ← hid, hrun]
          rfl
        · intro adjustmentId hmem
          obtain ⟨adjustment, hget, hemployee, hday⟩ := hsource adjustmentId hmem
          exact ⟨adjustment, hget, hemployee, hmoves.period_eq run ▸ hday⟩
      · rw [← hrunId, Table.get?_update_ne _ _ hid]
        exact ⟨run, hrun, hkept hid ▸ hstatus, hsource⟩
  · exact h

theorem Sound.updateRun_single (h : Sound adjustments s) (hsingle : Single s) (id : Id) :
    Single (PayrollService.updateRun s id data slipData).1 := by
  unfold PayrollService.updateRun
  split
  · have hback (slip : PaySlip) (run : PayRun) (old : PayRun)
        (hslip : ∃ slipId, (s.paySlips.updateWhere (slipOf id) slipData).get? slipId = some slip)
        (hold : s.payRuns.get? slip.payRunId = some old) :
        ∃ slip', s.Pays slip' old ∧ slip'.employeeId = slip.employeeId ∧
          slip'.payRunId = slip.payRunId := by
      obtain ⟨slipId, hslip⟩ := hslip
      obtain ⟨slip', hslip', hdata, hrunId, -⟩ := hmoves.back hslip
      exact ⟨slip', ⟨⟨slipId, hslip'⟩, hrunId ▸ hold, (h.runs _ old hold).1⟩,
        congrArg (·.employeeId) hdata, hrunId⟩
    intro slip other run run' hpays hpays' hemployee hne
    obtain ⟨old, hold, hperiod, -⟩ := hmoves.runBack hpays.ofRun
    obtain ⟨old', hold', hperiod', -⟩ := hmoves.runBack hpays'.ofRun
    obtain ⟨slip', hslip', he, hr⟩ := hback slip run old hpays.written hold
    obtain ⟨other', hother', he', hr'⟩ := hback other run' old' hpays'.written hold'
    rw [hperiod, hperiod']
    refine hsingle slip' other' old old' hslip' hother' ?_ ?_
    · rw [he, he', hemployee]
    · rw [hr, hr']
      exact hne
  · exact hsingle

end

-- ---
-- Who is paid already
-- ---

/-- A slip of one of the employees, of a run that has a day of the period. -/
def paidAlready (s : Store) (periodStart periodEnd : Day) (employees : List Id) (_ : Id)
    (slip : PaySlip) : Bool :=
  employees.contains slip.employeeId &&
    (s.payRuns.get? slip.payRunId).any (·.covers periodStart periodEnd)

/-- A run that is written pays no one who is paid already. -/
def stillGood (s : Store) : Statement → Prop
  | .createRun run slips => s.paySlips.findFirst
      (paidAlready s run.periodStart run.periodEnd (slips.map (·.employeeId))) = none
  | _ => True

instance (s : Store) : (k : Statement) → Decidable (stillGood s k)
  | .createRun .. => inferInstanceAs (Decidable (_ = _))
  | .now | .findOverlap .. | .findEmployees .. | .findComponents _ | .findAdjustments .. |
    .findRun .. | .approveRun .. | .payRun .. => .isTrue trivial

theorem disjoint_iff {run other : PayRun} (hlive : other.status ≠ .cancelled)
    (hspan : run.periodStart ≤ run.periodEnd) (hspan' : other.periodStart ≤ other.periodEnd) :
    Disjoint other.period run.period ↔ other.covers run.periodStart run.periodEnd = false := by
  have hcovers : other.covers run.periodStart run.periodEnd = false ↔
      ¬(other.periodStart ≤ run.periodEnd ∧ run.periodStart ≤ other.periodEnd) := by
    simp [PayRun.covers, hlive]
  rw [hcovers, Set.disjoint_left]
  constructor
  · rintro hdisjoint ⟨hbefore, hafter⟩
    refine hdisjoint (a := max other.periodStart run.periodStart) ?_ ?_
    · exact ⟨le_max_left _ _, max_le hspan' hafter⟩
    · exact ⟨le_max_right _ _, max_le hbefore hspan⟩
  · rintro hapart day ⟨hstart, hend⟩ ⟨hstart', hend'⟩
    exact hapart ⟨hstart.trans hend', hstart'.trans hend⟩

/-- A slip after a run is built was there before, or is one of the run's. -/
theorem Sound.pays_back (h : Sound adjustments s)
    (hpays : (insertRun s run slips).Pays slip found) :
    s.Pays slip found ∨
      slip.payRunId = s.payRuns.next ∧ found = run ∧ slip.toPaySlipData ∈ slips := by
  obtain ⟨slipId, hslip⟩ := hpays.written
  have hfound : (s.payRuns.insert run).get? slip.payRunId = some found := hpays.ofRun
  rcases mem_insertRun hslip with hslip | ⟨hrunId, -, hmem⟩
  · obtain ⟨old, hold, -⟩ := h.slips slipId slip hslip
    rw [Table.get?_insert_of_some hold] at hfound
    cases hfound
    exact .inl ⟨⟨slipId, hslip⟩, hold, hpays.live⟩
  · rw [hrunId, Table.get?_insert_self] at hfound
    cases hfound
    exact .inr ⟨hrunId, rfl, hmem⟩

theorem Sound.createRun_single (h : Sound adjustments s) (hready : Ready adjustments run slips)
    (hsingle : Single s) :
    Single (insertRun s run slips) ↔ stillGood s (.createRun run slips) := by
  have hspan (slip : PaySlip) (old : PayRun) (hpays : s.Pays slip old) :
      Disjoint old.period run.period ↔ old.covers run.periodStart run.periodEnd = false :=
    disjoint_iff hpays.live hready.span (h.runs _ old hpays.ofRun).2
  simp only [stillGood, Table.findFirst_none]
  constructor
  · intro hnew slipId slip hslip
    obtain ⟨old, hpays⟩ := h.pays hslip
    by_contra hpaid
    simp only [paidAlready, hpays.ofRun, Option.any_some, Bool.not_eq_false, Bool.and_eq_true,
      List.contains_eq_mem, List.mem_map, decide_eq_true_eq] at hpaid
    obtain ⟨⟨data, hdata, hemployee⟩, hcovers⟩ := hpaid
    obtain ⟨newId, hwritten⟩ : ∃ newId, (insertRun s run slips).paySlips.get? newId =
        some { toPaySlipData := data, payRunId := s.payRuns.next } :=
      Table.exists_foldl_insert (List.mem_map.mpr ⟨data, hdata, rfl⟩)
    have hbefore : (insertRun s run slips).Pays slip old :=
      ⟨⟨slipId, Table.get?_foldl_insert_of_some hslip⟩, insertRun_run hpays.ofRun, hpays.live⟩
    have hpaysNew : (insertRun s run slips).Pays
        { toPaySlipData := data, payRunId := s.payRuns.next } run :=
      ⟨⟨newId, hwritten⟩, Table.get?_insert_self _ _, by simp [hready.draft]⟩
    have hdisjoint := hnew slip _ old run hbefore hpaysNew hemployee.symm
      (Nat.ne_of_lt (Table.lt_next hpays.ofRun))
    rw [(hspan slip old hpays).mp hdisjoint] at hcovers
    cases hcovers
  · intro hgood slip other run₁ run₂ hpays₁ hpays₂ hemployee hne
    have hapart (slip : PaySlip) (old : PayRun) (data : PaySlipData) (hpays : s.Pays slip old)
        (hdata : data ∈ slips) (hemployee : slip.employeeId = data.employeeId) :
        Disjoint old.period run.period := by
      obtain ⟨slipId, hslip⟩ := hpays.written
      have hpaid := hgood slipId slip hslip
      have hmem : slip.employeeId ∈ slips.map (·.employeeId) :=
        List.mem_map.mpr ⟨data, hdata, hemployee.symm⟩
      rw [hspan slip old hpays]
      simpa [paidAlready, hpays.ofRun, hmem] using hpaid
    rcases h.pays_back hpays₁ with hold₁ | ⟨hid₁, rfl, hmem₁⟩ <;>
      rcases h.pays_back hpays₂ with hold₂ | ⟨hid₂, rfl, hmem₂⟩
    · exact hsingle slip other run₁ run₂ hold₁ hold₂ hemployee hne
    · exact hapart slip run₁ _ hold₁ hmem₂ hemployee
    · exact (hapart other run₂ _ hold₂ hmem₁ hemployee.symm).symm
    · exact absurd (hid₁.trans hid₂.symm) hne

-- ---
-- The calls
-- ---

theorem approve_moves (userId : Id) (now : Time) (notes : Option String) :
    Moves
      (fun run => { run with
        status := .approved, approvedById := some userId, approvedAt := some now, notes })
      (fun slip => { slip with status := .final }) .approved :=
  ⟨by decide, fun _ => rfl, fun _ => ⟨rfl, rfl⟩, fun _ => ⟨rfl, rfl⟩, fun _ => rfl, fun _ => rfl,
    fun _ => rfl⟩

theorem pay_moves (userId : Id) (now : Time) (notes : Option String) :
    Moves
      (fun run => { run with
        status := .paid, paidById := some userId, paidAt := some now, notes })
      (fun slip => { slip with status := .paid, paidAt := some now }) .paid :=
  ⟨by decide, fun _ => rfl, fun _ => ⟨rfl, rfl⟩, fun _ => ⟨rfl, rfl⟩, fun _ => rfl, fun _ => rfl,
    fun _ => rfl⟩

theorem Sound.exec (h : Sound adjustments s) (hready : ready adjustments k) :
    Sound adjustments (exec s k).1 := by
  cases k with
  | createRun run slips => exact h.createRun hready
  | approveRun id userId now notes => exact h.updateRun (approve_moves userId now notes) id
  | payRun id userId now notes => exact h.updateRun (pay_moves userId now notes) id
  | _ => exact h

theorem Sound.exec_rules (h : Sound adjustments s) (hready : ready adjustments k)
    (hrules : Rules s) : Rules (PayrollService.exec s k).1 ↔ stillGood s k := by
  rw [(h.exec hready).rules_iff]
  have hsingle := hrules.single
  cases k with
  | createRun run slips => exact h.createRun_single hready hsingle
  | approveRun id userId now notes =>
    exact iff_of_true (h.updateRun_single (approve_moves userId now notes) hsingle id) trivial
  | payRun id userId now notes =>
    exact iff_of_true (h.updateRun_single (pay_moves userId now notes) hsingle id) trivial
  | _ => exact iff_of_true hsingle trivial

def payrollDiscipline (adjustments : Table PayrollAdjustment) : Discipline fun _ => exec where
  inv := Sound adjustments
  rely _ := .same fun _ => ()
  needs _ _ := ready adjustments
  allowed _ _ := True
  keeps _ _ _ h hready _ := ⟨h.exec hready, fun _ _ => rfl⟩

/-- The slips that are built count what was read of the period. -/
theorem built_ready {employees : List (Including Employee CompensationProfile)}
    {found : List (Including PayrollAdjustment PayComponent)}
    (hdraft : run.status = .draft) (hspan : run.periodStart ≤ run.periodEnd)
    (hfound : ∀ a ∈ found, adjustments.get? a.id = some a.row ∧
      a.row.effectiveDate ∈ run.period)
    (hgross : run.grossTotal = ((employees.map (buildSlip ctx components found)).map
      (·.grossPay)).sum)
    (hnet : run.netTotal = ((employees.map (buildSlip ctx components found)).map (·.netPay)).sum) :
    Ready adjustments run (employees.map (buildSlip ctx components found)) where
  draft := hdraft
  span := hspan
  gross := hgross
  net := hnet
  nets data hdata := by
    obtain ⟨emp, -, rfl⟩ := List.mem_map.mp hdata
    rfl
  sourced data hdata id hid := by
    obtain ⟨emp, -, rfl⟩ := List.mem_map.mp hdata
    simp only [PaySlipData.counted, buildSlip, List.map_map, List.mem_map, List.mem_filter,
      beq_iff_eq] at hid
    obtain ⟨a, ⟨ha, hemployee⟩, rfl⟩ := hid
    exact ⟨a.row, (hfound a ha).1, hemployee, (hfound a ha).2⟩

theorem buildPayRun_safe (userId : Id) (ctx : BranchContext) (dto : BuildPayRunDto) :
    (buildPayRun userId ctx dto).Safe (payrollDiscipline adjustments) i (fun _ _ => True) s := by
  refine safe_ensure (fun hspan => ?_) fun _ => trivial
  refine safe_any (fun _ _ _ => trivial) (fun _ _ => trivial) fun t found => ?_
  cases found with
  | some row => trivial
  | none =>
    refine safe_any (fun _ _ _ => trivial) (fun _ _ => trivial) fun t employees => ?_
    refine safe_ensure (fun _ => ?_) fun _ => trivial
    refine safe_any (fun _ _ _ => trivial) (fun _ _ => trivial) fun t components => ?_
    refine safe_statement (fun _ _ _ => trivial) fun u _ hu _ => ?_
    intro v _ _
    refine ⟨built_ready rfl ?_ (fun a ha => ?_) rfl rfl, fun _ => trivial⟩
    · exact Nat.div_le_div_right (of_decide_eq_true hspan)
    · obtain ⟨row, hrow, rfl⟩ := List.mem_map.mp ha
      obtain ⟨hget, hkept⟩ := Table.mem_findMany.mp hrow
      simp only [Bool.and_eq_true, decide_eq_true_eq] at hkept
      obtain ⟨⟨⟨-, hstart⟩, hend⟩, -⟩ := hkept
      exact ⟨hu.fixed ▸ hget, hstart, hend⟩

theorem checkRun_always (ctx : BranchContext) (id : Id) (status : PayRunStatus) (verb : String) :
    Always (payrollDiscipline adjustments) i (checkRun ctx id status verb) := by
  refine always_bind (always_statement fun _ _ => trivial) fun _ => always_need fun _ _ => ?_
  exact always_ensure fun _ => always_pure _

theorem program_always (call : PayrollCall) :
    Always (payrollDiscipline adjustments) i call.program := by
  cases call with
  | buildPayRun userId ctx dto => exact fun _ => buildPayRun_safe userId ctx dto
  | approvePayRun userId ctx id notes =>
    refine always_bind (checkRun_always _ _ _ _) fun _ => ?_
    refine always_bind (always_statement fun _ _ => trivial) fun _ => ?_
    exact always_statement fun _ _ => trivial
  | payPayRun userId ctx id notes =>
    refine always_bind (checkRun_always _ _ _ _) fun _ => ?_
    refine always_bind (always_statement fun _ _ => trivial) fun _ => ?_
    exact always_statement fun _ _ => trivial

-- ---
-- Every interleaving
-- ---

def Store.wait (s : Store) (ms : Nat) : Store := { s with clock := s.clock + ms }

abbrev PayrollPool := Pool Store (PayrollProgram RunWithSlips)

abbrev take : PayrollPool → Turn → PayrollPool := Turn.take (fun _ => exec) Store.wait

/-- The calls, none of which has started. -/
def requested (s : Store) (calls : List PayrollCall) : PayrollPool where
  shared := s
  threads := calls.map (·.program)

theorem Sound.of_empty (hruns : s.payRuns = .empty) (hslips : s.paySlips = .empty) :
    Sound s.adjustments s where
  fixed := rfl
  gross id run hrun := by simp [hruns] at hrun
  net id run hrun := by simp [hruns] at hrun
  nets slipId slip hslip := by simp [hslips] at hslip
  runs id run hrun := by simp [hruns] at hrun
  slips slipId slip hslip := by simp [hslips] at hslip

theorem Single.of_empty (hslips : s.paySlips = .empty) : Single s := by
  intro slip other run run' hpays
  obtain ⟨slipId, hslip⟩ := hpays.written
  simp [hslips] at hslip

/-- The totals and the statuses agree in any interleaving, and all rules hold all along exactly
those in which a run that is written pays no one who is paid already for some of its days. -/
theorem pool_payroll (hruns : s.payRuns = .empty) (hslips : s.paySlips = .empty)
    (calls : List PayrollCall) (turns : List Turn) :
    Totals (turns.foldl take (requested s calls)).shared ∧
      ((∀ before later, turns = before ++ later →
          Rules (before.foldl take (requested s calls)).shared) ↔
        Run take (fun p t => t.asks stillGood p) (requested s calls) turns
          (turns.foldl take (requested s calls))) := by
  have hsafe : SafePool (payrollDiscipline s.adjustments) (fun _ _ _ => True)
      (requested s calls) := by
    refine ⟨.of_empty hruns hslips, fun i x hx => ?_⟩
    simp only [requested, List.getElem?_map, Option.map_eq_some_iff] at hx
    obtain ⟨call, -, rfl⟩ := hx
    exact program_always call _
  have hwait (t : Store) (ms : Nat) (h : Sound s.adjustments t) :
      Sound s.adjustments (t.wait ms) ∧
        ∀ i, ((payrollDiscipline s.adjustments).rely i).rel t (t.wait ms) :=
    ⟨⟨h.fixed, h.gross, h.net, h.nets, h.runs, h.slips⟩, fun _ => rfl⟩
  have hrules (t : Store) (ms : Nat) (h : Rules t) : Rules (t.wait ms) := by
    have hpays (slip : PaySlip) (run : PayRun) (h : (t.wait ms).Pays slip run) : t.Pays slip run :=
      ⟨h.written, h.ofRun, h.live⟩
    refine ⟨⟨h.gross, h.net, h.nets, h.statuses⟩, ?_, ?_⟩
    · exact fun slip other run run' id hslip hother =>
        h.counted slip other run run' id (hpays _ _ hslip) (hpays _ _ hother)
    · exact fun slip other run run' hslip hother =>
        h.single slip other run run' (hpays _ _ hslip) (hpays _ _ hother)
  have hstart : Rules (requested s calls).shared :=
    (Sound.of_empty hruns hslips).rules_iff.mpr (.of_empty hslips)
  constructor
  · have hended := hsafe.run_any (fun _ _ _ _ _ _ => trivial) hwait (fun _ _ => trivial) turns
    exact hended.inv.totals
  · exact hsafe.all_iff (fun _ _ _ _ _ _ => trivial) hwait (fun _ _ => trivial) hstart
      (fun _ t k h hready hrules => h.exec_rules hready hrules) hrules turns

/-- Two employees of branches 0 and 1 and one of no branch, each with a bonus on day 10. -/
def staff : Store where
  compensationProfiles := Table.empty.insert { baseAmount := some 50000 }
  employees :=
    ((Table.empty.insert { orgId := 0, branchId := some 0, compensationProfileId := some 0 }).insert
      { orgId := 0, branchId := some 1, compensationProfileId := some 0 }).insert
      { orgId := 0, branchId := none, compensationProfileId := some 0 }
  payComponents :=
    Table.empty.insert
      { orgId := 0, branchId := none, code := "TAX", name := "Tax", componentType := .deduction
        defaultAmount := some 8000 }
  adjustments :=
    ((Table.empty.insert { orgId := 0, branchId := some 0, employeeId := 0, amount := 1500
                           adjustmentType := .bonus, effectiveDate := 10 }).insert
      { orgId := 0, branchId := none, employeeId := 1, amount := 1500
        adjustmentType := .bonus, effectiveDate := 10 }).insert
      { orgId := 0, branchId := none, employeeId := 2, amount := 1500
        adjustmentType := .bonus, effectiveDate := 10 }

def build (branchId : Id) (periodStart periodEnd : Day) (employeeIds : List Id) : PayrollCall :=
  .buildPayRun 7 ⟨0, branchId⟩
    { name := "January", periodStart := midnight periodStart, periodEnd := midnight periodEnd
      employeeIds }

/-- Two branches pay for the same days, the employee without a branch once. -/
theorem pool_payroll_branches :
    let calls := [build 0 0 30 [], build 1 0 30 [1], .approvePayRun 7 ⟨0, 0⟩ 0 none,
      .payPayRun 7 ⟨0, 0⟩ 0 none, build 0 31 60 []]
    let turns := times 5 0 ++ times 3 1 ++ times 3 2 ++ [.wait 60000] ++ times 2 1 ++ times 3 3 ++
      times 5 4
    let p := turns.foldl take (requested staff calls)
    (p.shared.payRuns.get? 0).map (·.netTotal) = some (2 * 43500) ∧
      (p.shared.paySlips.findMany fun _ _ => true).map (·.2.status) =
        [.paid, .paid, .draft, .draft, .draft] ∧ Rules p.shared := by
  intro calls turns p
  have hrun : Run take (fun p t => t.asks stillGood p) (requested staff calls) turns p :=
    Run.of_holds (by decide +kernel)
  have hrules := (pool_payroll (s := staff) rfl rfl calls turns).2.mpr hrun
  exact ⟨by decide +kernel, by decide +kernel, hrules turns [] (List.append_nil _).symm⟩

/-- An employee and a bonus of no branch are paid in each of two branches; two runs of one
branch are built at once. -/
def paidTwice : List (List PayrollCall × List Turn) :=
  [([build 0 0 30 [], build 1 0 30 []], times 5 0 ++ times 5 1),
    ([build 0 0 30 [2], build 0 10 20 [2]], times 1 0 ++ times 5 1 ++ times 4 0)]

/-- Slips of one employee pay for no day twice. -/
theorem Rules.apart (h : Rules s) (slipId otherId : Id) (day : Day) :
    ∀ slip ∈ s.paySlips.get? slipId, ∀ other ∈ s.paySlips.get? otherId,
      ∀ run ∈ s.payRuns.get? slip.payRunId, ∀ run' ∈ s.payRuns.get? other.payRunId,
        run.status ≠ .cancelled → run'.status ≠ .cancelled →
        slip.employeeId = other.employeeId → slip.payRunId ≠ other.payRunId →
        ¬((run.periodStart ≤ day ∧ day ≤ run.periodEnd) ∧
          run'.periodStart ≤ day ∧ day ≤ run'.periodEnd) := by
  rintro slip hslip other hother run hrun run' hrun' hlive hlive' hemployee hne ⟨hday, hday'⟩
  have hdisjoint := h.single slip other run run' ⟨⟨slipId, hslip⟩, hrun, hlive⟩
    ⟨⟨otherId, hother⟩, hrun', hlive'⟩ hemployee hne
  exact Set.disjoint_left.mp hdisjoint hday hday'

theorem pool_payroll_twice :
    ¬(∀ (s : Store) (calls : List PayrollCall) (turns : List Turn) (p : PayrollPool),
      s.payRuns = .empty → s.paySlips = .empty →
      Run take (fun _ _ => True) (requested s calls) turns p → Rules p.shared) ∧
    ∀ run ∈ paidTwice, ¬Rules (run.2.foldl take (requested staff run.1)).shared := by
  have hruns : ∀ run ∈ paidTwice, ¬Rules (run.2.foldl take (requested staff run.1)).shared := by
    intro run hrun h
    simp only [paidTwice, List.mem_cons, List.not_mem_nil, or_false] at hrun
    rcases hrun with rfl | rfl
    · exact absurd (h.apart 1 3 15) (by decide +kernel)
    · exact absurd (h.apart 0 1 15) (by decide +kernel)
  refine ⟨fun h => ?_, hruns⟩
  exact hruns _ (.head _) (h staff _ _ _ rfl rfl (Run.foldl _ _ _))

end NimbusPos.PayrollService
