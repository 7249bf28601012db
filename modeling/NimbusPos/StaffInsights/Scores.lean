import NimbusPos.Analytics.Service
import NimbusPos.Attendance.ClockCalls
import NimbusPos.Attendance.Leave
import NimbusPos.Lib.Rounding

/-!
# Staff scores

An employee is scored over a period from orders, attendance, rosters and anomalies. Numbers are
exact rationals; the places of the source that round do so to two decimals.
-/

namespace NimbusPos.StaffInsightsService

open Lib
open AnalyticsService (AnomalyEvent)
open AttendanceService (AttendanceStore AttendanceRecord ScheduleAssignment dateOf)

structure InsightStore where
  attendance : AttendanceStore := {}
  orders : Table Order := .empty
  assignments : Table ScheduleAssignment := .empty
  anomalyEvents : Table AnomalyEvent := .empty

/-- In milliseconds. -/
structure Period where
  periodStart : Int
  periodEnd : Int
  deriving DecidableEq, Repr

def Period.hasTime (period : Period) (time : Time) : Bool :=
  decide (period.periodStart ≤ time) && decide ((time : Int) ≤ period.periodEnd)

def Period.hasDate (period : Period) (date : Int) : Bool :=
  decide (dateOf period.periodStart ≤ date) && decide (date ≤ dateOf period.periodEnd)

-- ---
-- Weights
-- ---

/-- `@IsNumber() @Min(0) @Max(100)`. -/
abbrev Weight := { weight : ℚ // 0 ≤ weight ∧ weight ≤ 100 }

/-- Each is optional, `@IsOptional()`. -/
structure StaffWeights where
  salesWeight : Option Weight := none
  reliabilityWeight : Option Weight := none
  attendanceWeight : Option Weight := none
  wastageWeight : Option Weight := none
  riskPenaltyWeight : Option Weight := none

/-- `weight ?? default`. -/
def weightOr (weight : Option Weight) (default : ℚ) : ℚ := weight.elim default (·.val)

namespace StaffWeights

variable (w : StaffWeights)

def sales : ℚ := weightOr w.salesWeight 25
def reliability : ℚ := weightOr w.reliabilityWeight 25
def attendance : ℚ := weightOr w.attendanceWeight 25
def wastage : ℚ := weightOr w.wastageWeight 15
def riskPenalty : ℚ := weightOr w.riskPenaltyWeight 10

def total : ℚ := w.sales + w.reliability + w.attendance + w.wastage

end StaffWeights

-- ---
-- Scores
-- ---

/-- `Number(x.toFixed(2))`. -/
def toFixed (x : ℚ) : ℚ := roundHalf (x * 100) / 100

structure SourceSummary where
  salesCount : Nat
  salesTotal : Cents
  totalAttendanceDays : Nat
  lateDays : Nat
  absentDays : Nat
  scheduledShifts : Nat
  anomalyCount : Nat
  unresolvedHighSeverity : ℚ
  deriving DecidableEq, Repr

/-- A composite that is not a number is `none`. -/
structure Scores where
  salesScore : ℚ
  reliabilityScore : ℚ
  attendanceScore : ℚ
  wastageScore : ℚ
  riskPenalty : ℚ
  compositeScore : Option ℚ
  sourceSummary : SourceSummary
  deriving DecidableEq, Repr

def salesScore (salesCount : Nat) : ℚ := min 100 ((salesCount : ℚ) / 50 * 100)

def attendanceScore (lateDays absentDays : Nat) : ℚ :=
  max 0 (100 - (lateDays : ℚ) * 5 - (absentDays : ℚ) * 15)

def reliabilityScore (totalDays absentDays assignments : Nat) : ℚ :=
  if 0 < assignments then min 100 (((totalDays : ℚ) - absentDays) / assignments * 100) else 80

def wastageScore (anomalyCount : Nat) : ℚ := max 0 (100 - (anomalyCount : ℚ) * 10)

def riskPenalty (unresolvedHighSeverity : Nat) : ℚ := min 50 ((unresolvedHighSeverity : ℚ) * 10)

/-- With no weight at all the source divides zero by zero. -/
def rawComposite (w : StaffWeights) (sales reliability attendance wastage : ℚ) : Option ℚ :=
  if w.total = 0 then none
  else some ((sales * w.sales + reliability * w.reliability + attendance * w.attendance +
    wastage * w.wastage) / w.total)

def compositeScore (w : StaffWeights) (sales reliability attendance wastage risk : ℚ) : Option ℚ :=
  (rawComposite w sales reliability attendance wastage).map fun raw =>
    max 0 (raw - risk * w.riskPenalty / 100)

namespace InsightStore

variable (s : InsightStore) (orgId branchId employeeId : Id) (period : Period)

/-- The linked user of the employee. -/
def userOf : Option Id := (s.attendance.employees.get? employeeId).bind (·.userId)

def sales : List (Id × Order) :=
  match s.userOf employeeId with
  | none => []
  | some userId => s.orders.findMany fun _ order =>
      order.orgId == orgId && order.branchId == branchId && order.userId == userId &&
        period.hasTime order.createdAt

def inPeriod (record : AttendanceRecord) : Bool :=
  record.orgId == orgId && record.employeeId == employeeId && period.hasDate record.attendanceDate

/-- The attendance records of the period that have a property. -/
def days (p : AttendanceRecord → Bool) : Nat :=
  s.attendance.records.count fun _ record => inPeriod orgId employeeId period record && p record

def scheduledShifts : Nat :=
  s.assignments.count fun _ assignment => assignment.orgId == orgId &&
    assignment.employeeId == employeeId && period.hasDate assignment.shiftDate

def isAgainst (userId : Id) (event : AnomalyEvent) : Bool :=
  event.orgId == orgId && event.branchId == branchId && event.actorUserId == some userId

def anomalyCount : Nat :=
  (s.userOf employeeId).elim 0 fun userId => s.anomalyEvents.count fun _ event =>
    isAgainst orgId branchId userId event && period.hasTime event.createdAt

def unresolvedHighSeverity : Nat :=
  (s.userOf employeeId).elim 0 fun userId => s.anomalyEvents.count fun _ event =>
    isAgainst orgId branchId userId event && event.status == .open &&
      (event.severity == .high || event.severity == .critical)

end InsightStore

def calculateScores (s : InsightStore) (orgId branchId employeeId : Id) (period : Period)
    (w : StaffWeights) : Scores :=
  let orders := s.sales orgId branchId employeeId period
  let records := s.days orgId employeeId period fun _ => true
  let totalDays := if records = 0 then 1 else records
  let lateDays := s.days orgId employeeId period (·.status == .late)
  let absentDays := s.days orgId employeeId period (·.status == .absent)
  let assignments := s.scheduledShifts orgId employeeId period
  let anomalyCount := s.anomalyCount orgId branchId employeeId period
  let sales := salesScore orders.length
  let attendance := attendanceScore lateDays absentDays
  let reliability := reliabilityScore totalDays absentDays assignments
  let wastage := wastageScore anomalyCount
  let risk := riskPenalty (s.unresolvedHighSeverity orgId branchId employeeId)
  { salesScore := toFixed sales
    reliabilityScore := toFixed reliability
    attendanceScore := toFixed attendance
    wastageScore := toFixed wastage
    riskPenalty := toFixed risk
    compositeScore := (compositeScore w sales reliability attendance wastage risk).map toFixed
    sourceSummary :=
      { salesCount := orders.length, salesTotal := (orders.map (·.2.total)).sum
        totalAttendanceDays := totalDays, lateDays, absentDays, scheduledShifts := assignments
        anomalyCount, unresolvedHighSeverity := risk / 10 } }

end NimbusPos.StaffInsightsService

/-!
# What the scores reflect

The composite is within bounds, and no further anomaly raises it, as soon as some weight is
positive. The attendance score counts the records that still say `LATE`, so that it misses a late
day once the employee has clocked out, and an employee without any record is scored as if they
had come once.
-/

namespace NimbusPos.StaffInsightsService

open Lib
open AnalyticsService (AnomalyEvent)
open AttendanceService (AttendanceStore AttendanceRecord ClockCall Zone takeClock)

-- ---
-- Two decimals
-- ---

theorem toFixed_mono {x y : ℚ} (h : x ≤ y) : toFixed x ≤ toFixed y := by
  have hround : roundHalf (x * 100) ≤ roundHalf (y * 100) := roundHalf_mono (by linarith)
  rw [toFixed, toFixed]
  gcongr

theorem toFixed_intCast (n : ℤ) : toFixed n = n := by
  have hcast : (n : ℚ) * 100 = ((n * 100 : ℤ) : ℚ) := by push_cast; rfl
  rw [toFixed, hcast, roundHalf_intCast]
  push_cast
  field_simp

/-- A score is between nothing and a hundred. -/
def IsScore (x : ℚ) : Prop := 0 ≤ x ∧ x ≤ 100

theorem IsScore.toFixed {x : ℚ} (h : IsScore x) : IsScore (toFixed x) := by
  have hzero := toFixed_intCast 0
  have hhundred := toFixed_intCast 100
  push_cast at hzero hhundred
  exact ⟨hzero ▸ toFixed_mono h.1, hhundred ▸ toFixed_mono h.2⟩

theorem toFixed_eq_zero {x : ℚ} (h : 0 ≤ x) : toFixed x = 0 ↔ x < 1 / 200 := by
  have hround : roundHalf (x * 100) = 0 ↔ x < 1 / 200 := by
    rw [roundHalf_eq_iff (by linarith)]
    push_cast
    constructor
    · rintro ⟨_, hlt⟩
      linarith
    · intro hlt
      exact ⟨by linarith, by linarith⟩
  rw [← hround, toFixed, div_eq_zero_iff]
  simp

-- ---
-- The scores
-- ---

theorem salesScore_isScore (salesCount : Nat) : IsScore (salesScore salesCount) :=
  ⟨le_min (by norm_num) (by positivity), min_le_left _ _⟩

theorem attendanceScore_isScore (lateDays absentDays : Nat) :
    IsScore (attendanceScore lateDays absentDays) := by
  refine ⟨le_max_left _ _, max_le (by norm_num) ?_⟩
  have hlate : (0 : ℚ) ≤ lateDays := Nat.cast_nonneg _
  have habsent : (0 : ℚ) ≤ absentDays := Nat.cast_nonneg _
  linarith

theorem reliabilityScore_isScore {totalDays absentDays : Nat} (h : absentDays ≤ totalDays)
    (assignments : Nat) : IsScore (reliabilityScore totalDays absentDays assignments) := by
  have hdays : (absentDays : ℚ) ≤ totalDays := by exact_mod_cast h
  have hpresent : (0 : ℚ) ≤ (totalDays : ℚ) - absentDays := by linarith
  unfold reliabilityScore
  split
  · exact ⟨le_min (by norm_num) (by positivity), min_le_left _ _⟩
  · constructor <;> norm_num

theorem wastageScore_isScore (anomalyCount : Nat) : IsScore (wastageScore anomalyCount) := by
  refine ⟨le_max_left _ _, max_le (by norm_num) ?_⟩
  have hcount : (0 : ℚ) ≤ anomalyCount := Nat.cast_nonneg _
  linarith

theorem wastageScore_anti {a b : Nat} (h : a ≤ b) : wastageScore b ≤ wastageScore a := by
  have hcount : (a : ℚ) ≤ b := by exact_mod_cast h
  exact max_le_max (le_refl 0) (by linarith)

theorem riskPenalty_nonneg (unresolved : Nat) : 0 ≤ riskPenalty unresolved :=
  le_min (by norm_num) (by positivity)

theorem riskPenalty_mono {a b : Nat} (h : a ≤ b) : riskPenalty a ≤ riskPenalty b := by
  have hcount : (a : ℚ) ≤ b := by exact_mod_cast h
  exact min_le_min (le_refl 50) (by linarith)

theorem weightOr_nonneg (weight : Option Weight) {default : ℚ} (h : 0 ≤ default) :
    0 ≤ weightOr weight default := by
  cases weight with
  | none => exact h
  | some weight => exact weight.2.1

-- ---
-- The composite
-- ---

section

variable {w : StaffWeights} {sales reliability attendance wastage risk : ℚ}

theorem StaffWeights.weights_nonneg (w : StaffWeights) : 0 ≤ w.sales ∧ 0 ≤ w.reliability ∧
    0 ≤ w.attendance ∧ 0 ≤ w.wastage ∧ 0 ≤ w.riskPenalty :=
  ⟨weightOr_nonneg _ (by norm_num), weightOr_nonneg _ (by norm_num),
    weightOr_nonneg _ (by norm_num), weightOr_nonneg _ (by norm_num),
    weightOr_nonneg _ (by norm_num)⟩

theorem StaffWeights.total_pos (h : w.total ≠ 0) : 0 < w.total := by
  obtain ⟨hsales, hreliability, hattendance, hwastage, -⟩ := w.weights_nonneg
  refine lt_of_le_of_ne ?_ h.symm
  unfold StaffWeights.total
  positivity

/-- A weighted average of scores is a score. -/
theorem rawComposite_isScore (h : w.total ≠ 0) (hsales : IsScore sales)
    (hreliability : IsScore reliability) (hattendance : IsScore attendance)
    (hwastage : IsScore wastage) :
    ∃ raw, rawComposite w sales reliability attendance wastage = some raw ∧ IsScore raw := by
  obtain ⟨ws, wr, wa, ww, -⟩ := w.weights_nonneg
  refine ⟨_, if_neg h, ?_, ?_⟩
  · have hs := mul_nonneg hsales.1 ws
    have hr := mul_nonneg hreliability.1 wr
    have ha := mul_nonneg hattendance.1 wa
    have hw := mul_nonneg hwastage.1 ww
    exact div_nonneg (by linarith) (StaffWeights.total_pos h).le
  · rw [div_le_iff₀ (StaffWeights.total_pos h), StaffWeights.total]
    have hs := mul_le_mul_of_nonneg_right hsales.2 ws
    have hr := mul_le_mul_of_nonneg_right hreliability.2 wr
    have ha := mul_le_mul_of_nonneg_right hattendance.2 wa
    have hw := mul_le_mul_of_nonneg_right hwastage.2 ww
    linarith

theorem compositeScore_isScore (h : w.total ≠ 0) (hsales : IsScore sales)
    (hreliability : IsScore reliability) (hattendance : IsScore attendance)
    (hwastage : IsScore wastage) (hrisk : 0 ≤ risk) :
    ∃ c, compositeScore w sales reliability attendance wastage risk = some c ∧ IsScore c := by
  obtain ⟨raw, hraw, hscore⟩ :=
    rawComposite_isScore h hsales hreliability hattendance hwastage
  obtain ⟨-, -, -, -, hpenalty⟩ := w.weights_nonneg
  have hless : 0 ≤ risk * w.riskPenalty / 100 := by positivity
  refine ⟨_, by rw [compositeScore, hraw, Option.map_some], le_max_left _ _, ?_⟩
  exact max_le (by norm_num) (by linarith [hscore.2])

/-- Less wastage score and more risk make no better composite. -/
theorem compositeScore_anti {wastage' risk' : ℚ} (hwastage : wastage' ≤ wastage)
    (hrisk : risk ≤ risk') {c c' : ℚ}
    (hc : compositeScore w sales reliability attendance wastage risk = some c)
    (hc' : compositeScore w sales reliability attendance wastage' risk' = some c') : c' ≤ c := by
  unfold compositeScore rawComposite at hc hc'
  split at hc
  · cases hc
  · rename_i htotal
    have hpos := StaffWeights.total_pos htotal
    obtain ⟨-, -, -, ww, wp⟩ := w.weights_nonneg
    rw [if_neg htotal] at hc'
    cases hc
    cases hc'
    refine max_le_max (le_refl 0) (sub_le_sub ?_ ?_)
    · gcongr
    · gcongr

end

-- ---
-- The property
-- ---

/-- The employee clocked in late. -/
def isLateDay (record : AttendanceRecord) : Bool :=
  record.clockInAt.isSome && decide (0 < record.lateMinutes)

section

variable (s : InsightStore) (orgId branchId employeeId : Id) (period : Period) (w : StaffWeights)

namespace InsightStore

def lateDays : Nat := s.days orgId employeeId period isLateDay

/-- The late days that are clocked out, and those that are not. -/
def lateDaysClosed : Nat :=
  s.days orgId employeeId period fun record => isLateDay record && record.clockOutAt.isSome

def lateDaysOpen : Nat :=
  s.days orgId employeeId period fun record => isLateDay record && record.clockOutAt.isNone

def absences : Nat := s.days orgId employeeId period (·.status == .absent)

def daysAttended : Nat := s.days orgId employeeId period (·.clockInAt.isSome)

def daysRecorded : Nat := s.days orgId employeeId period fun _ => true

def anomaly (event : AnomalyEvent) : InsightStore :=
  { s with anomalyEvents := s.anomalyEvents.insert event }

/-- The store after some clock calls. -/
def clocked (zone : Zone) (calls : List ClockCall) : InsightStore :=
  { s with attendance := calls.foldl (takeClock zone) s.attendance }

end InsightStore

structure Reflects : Prop where
  attendance : (calculateScores s orgId branchId employeeId period w).attendanceScore =
    max 0 (100 - 5 * (s.lateDays orgId employeeId period : ℚ) -
      15 * (s.absences orgId employeeId period : ℚ))
  reliability : 0 < s.scheduledShifts orgId employeeId period →
    s.daysAttended orgId employeeId period = 0 →
      (calculateScores s orgId branchId employeeId period w).reliabilityScore = 0
  composite : ∃ c, (calculateScores s orgId branchId employeeId period w).compositeScore = some c ∧
    0 ≤ c ∧ c ≤ 100 ∧ ∀ event, ∃ c',
      (calculateScores (s.anomaly event) orgId branchId employeeId period w).compositeScore =
        some c' ∧ c' ≤ c

/-- No late day is clocked out, unless the score is nothing without it. Who is rostered and never
came has only absences recorded, and some. Some weight is positive. -/
structure Faithful : Prop where
  late : s.lateDaysClosed orgId employeeId period = 0 ∨
    100 ≤ 5 * s.lateDaysOpen orgId employeeId period + 15 * s.absences orgId employeeId period
  rostered : 0 < s.scheduledShifts orgId employeeId period →
    s.daysAttended orgId employeeId period = 0 →
      20000 * (max 1 (s.daysRecorded orgId employeeId period) -
        s.absences orgId employeeId period) < s.scheduledShifts orgId employeeId period
  weights : w.total ≠ 0

end

-- ---
-- What clock calls leave
-- ---

/-- `LATE` says of a record that its day was late, until it is closed. -/
def StatusKept (s : AttendanceStore) : Prop :=
  ∀ recordId record, s.records.get? recordId = some record →
    (record.status = .late ↔ isLateDay record = true ∧ record.clockOutAt = none)

variable {zone : Zone} {s : InsightStore} {orgId branchId employeeId : Id} {period : Period}
  {w : StaffWeights}

theorem StatusKept.takeClock {s : AttendanceStore} (h : StatusKept s) (call : ClockCall) :
    StatusKept (takeClock zone s call) := by
  have hclocks := AttendanceService.clockInOut_clocks zone call.userId call.ctx call.dto
    (s.wait call.ms)
  rw [AttendanceService.takeClock]
  generalize Service.final _ = t at hclocks
  cases hclocks with
  | unlinked | refused => exact h
  | clocksOut hlinked hfound hopen =>
    intro recordId record hget
    rcases Table.update_cases hget with ⟨rfl, old, hold, rfl⟩ | ⟨_, hold⟩
    · simp
    · exact h recordId record hold
  | clocksIn hlinked hfound =>
    intro recordId record hget
    rcases Table.insert_cases hget with ⟨rfl, rfl⟩ | hold
    · simp only [AttendanceService.clockInRow, isLateDay]
      split <;> simp_all
    · exact h recordId record hold

theorem StatusKept.run {s : AttendanceStore} (h : StatusKept s) (calls : List ClockCall) :
    StatusKept (calls.foldl (AttendanceService.takeClock zone) s) :=
  (Run.foldl _ s calls).invariant h fun _ call hs _ => hs.takeClock call

-- ---
-- Each part
-- ---

theorem days_late (h : StatusKept s.attendance) :
    s.days orgId employeeId period (·.status == .late) =
      s.lateDaysOpen orgId employeeId period := by
  refine Table.count_congr fun recordId record hget => ?_
  congr 1
  rw [Bool.eq_iff_iff, beq_iff_eq, Bool.and_eq_true, Option.isNone_iff_eq_none]
  exact h recordId record hget

theorem lateDays_eq : s.lateDays orgId employeeId period =
    s.lateDaysClosed orgId employeeId period + s.lateDaysOpen orgId employeeId period := by
  rw [InsightStore.lateDays, InsightStore.days, Table.count_split _ _ fun _ record =>
    record.clockOutAt.isSome]
  simp only [InsightStore.lateDaysClosed, InsightStore.lateDaysOpen, InsightStore.days,
    Bool.and_assoc, Option.not_isSome]

theorem absences_le :
    s.absences orgId employeeId period ≤ s.daysRecorded orgId employeeId period := by
  refine Table.count_mono fun recordId record h => ?_
  rw [Bool.and_eq_true] at h
  rw [Bool.and_true]
  exact h.1

/-- Fewer late days make the same score only where none is left. -/
theorem attendanceScore_eq_iff (lateOpen lateClosed absent : Nat) :
    attendanceScore lateOpen absent = max 0 (100 - 5 * ((lateClosed + lateOpen : Nat) : ℚ) -
      15 * (absent : ℚ)) ↔ lateClosed = 0 ∨ 100 ≤ 5 * lateOpen + 15 * absent := by
  have hcast : 100 ≤ 5 * lateOpen + 15 * absent ↔
      (100 : ℚ) ≤ 5 * lateOpen + 15 * absent := by exact_mod_cast Iff.rfl
  have hzero : lateClosed = 0 ↔ (lateClosed : ℚ) = 0 := by simp
  have hclosed : (0 : ℚ) ≤ lateClosed := Nat.cast_nonneg _
  rw [attendanceScore, hcast, hzero]
  push_cast
  constructor
  · intro h
    rcases le_total (100 - (lateOpen : ℚ) * 5 - absent * 15) 0 with hle | hle
    · exact .inr (by linarith)
    · rw [max_eq_right hle] at h
      rcases max_cases 0 (100 - 5 * ((lateClosed : ℚ) + lateOpen) - 15 * absent) with
        ⟨hmax, _⟩ | ⟨hmax, _⟩
      · exact .inr (by linarith)
      · exact .inl (by linarith)
  · rintro (h | h)
    · congr 1
      linarith
    · rw [max_eq_left (by linarith), max_eq_left (by linarith)]

theorem attendance_iff (h : StatusKept s.attendance) :
    (calculateScores s orgId branchId employeeId period w).attendanceScore =
        max 0 (100 - 5 * (s.lateDays orgId employeeId period : ℚ) -
          15 * (s.absences orgId employeeId period : ℚ)) ↔
      s.lateDaysClosed orgId employeeId period = 0 ∨
        100 ≤ 5 * s.lateDaysOpen orgId employeeId period +
          15 * s.absences orgId employeeId period := by
  rw [← attendanceScore_eq_iff, lateDays_eq]
  have hscore : (calculateScores s orgId branchId employeeId period w).attendanceScore =
      toFixed (attendanceScore (s.lateDaysOpen orgId employeeId period)
        (s.absences orgId employeeId period)) := by
    rw [← days_late h]
    rfl
  have hwhole (lateDays absentDays : Nat) :
      toFixed (attendanceScore lateDays absentDays) = attendanceScore lateDays absentDays := by
    have hcast : attendanceScore lateDays absentDays =
        ((max 0 (100 - lateDays * 5 - absentDays * 15) : ℤ) : ℚ) := by
      rw [attendanceScore]
      push_cast
      rfl
    rw [hcast, toFixed_intCast]
  rw [hscore, hwhole]

theorem max_one (n : Nat) : (if n = 0 then 1 else n) = max 1 n := by
  split <;> omega

theorem reliability_iff (h : 0 < s.scheduledShifts orgId employeeId period) :
    (calculateScores s orgId branchId employeeId period w).reliabilityScore = 0 ↔
      20000 * (max 1 (s.daysRecorded orgId employeeId period) -
        s.absences orgId employeeId period) < s.scheduledShifts orgId employeeId period := by
  have hle : s.absences orgId employeeId period ≤
      max 1 (s.daysRecorded orgId employeeId period) := absences_le.trans (le_max_right _ _)
  have hscore : (calculateScores s orgId branchId employeeId period w).reliabilityScore =
      toFixed (reliabilityScore (max 1 (s.daysRecorded orgId employeeId period))
        (s.absences orgId employeeId period) (s.scheduledShifts orgId employeeId period)) := by
    rw [← max_one]
    rfl
  rw [hscore, toFixed_eq_zero (reliabilityScore_isScore hle _).1, reliabilityScore, if_pos h]
  obtain ⟨days, hdays⟩ := Nat.exists_eq_add_of_le hle
  generalize s.scheduledShifts orgId employeeId period = shifts at h ⊢
  rw [hdays, Nat.add_sub_cancel_left]
  have hshifts : (0 : ℚ) < shifts := by exact_mod_cast h
  have hcast : 20000 * days < shifts ↔ (20000 : ℚ) * days < shifts := by exact_mod_cast Iff.rfl
  rw [hcast, min_lt_iff, or_iff_right (by norm_num)]
  push_cast
  rw [add_sub_cancel_left, div_mul_eq_mul_div, div_lt_iff₀ hshifts]
  constructor <;> intro hlt <;> linarith

theorem anomalyCount_le (event : AnomalyEvent) :
    s.anomalyCount orgId branchId employeeId period ≤
      (s.anomaly event).anomalyCount orgId branchId employeeId period := by
  have huser : (s.anomaly event).userOf employeeId = s.userOf employeeId := rfl
  rw [InsightStore.anomalyCount, InsightStore.anomalyCount, huser]
  cases s.userOf employeeId with
  | none => exact Nat.le_refl _
  | some userId =>
    simp only [Option.elim_some, InsightStore.anomaly, Table.count_insert]
    exact Nat.le_add_right _ _

theorem unresolvedHighSeverity_le (event : AnomalyEvent) :
    s.unresolvedHighSeverity orgId branchId employeeId ≤
      (s.anomaly event).unresolvedHighSeverity orgId branchId employeeId := by
  have huser : (s.anomaly event).userOf employeeId = s.userOf employeeId := rfl
  rw [InsightStore.unresolvedHighSeverity, InsightStore.unresolvedHighSeverity, huser]
  cases s.userOf employeeId with
  | none => exact Nat.le_refl _
  | some userId =>
    simp only [Option.elim_some, InsightStore.anomaly, Table.count_insert]
    exact Nat.le_add_right _ _

/-- The composite of the scores before they are rounded. -/
def InsightStore.composite (s : InsightStore) (orgId branchId employeeId : Id) (period : Period)
    (w : StaffWeights) : Option ℚ :=
  compositeScore w (salesScore (s.sales orgId branchId employeeId period).length)
    (reliabilityScore (max 1 (s.daysRecorded orgId employeeId period))
      (s.absences orgId employeeId period) (s.scheduledShifts orgId employeeId period))
    (attendanceScore (s.days orgId employeeId period (·.status == .late))
      (s.absences orgId employeeId period))
    (wastageScore (s.anomalyCount orgId branchId employeeId period))
    (riskPenalty (s.unresolvedHighSeverity orgId branchId employeeId))

theorem calculateScores_composite :
    (calculateScores s orgId branchId employeeId period w).compositeScore =
      (s.composite orgId branchId employeeId period w).map toFixed := by
  rw [InsightStore.composite, ← max_one]
  rfl

theorem composite_isScore (h : w.total ≠ 0) :
    ∃ c, s.composite orgId branchId employeeId period w = some c ∧ IsScore c :=
  compositeScore_isScore h (salesScore_isScore _)
    (reliabilityScore_isScore (absences_le.trans (le_max_right _ _)) _)
    (attendanceScore_isScore _ _) (wastageScore_isScore _) (riskPenalty_nonneg _)

theorem composite_iff :
    (∃ c, (calculateScores s orgId branchId employeeId period w).compositeScore = some c ∧
      0 ≤ c ∧ c ≤ 100 ∧ ∀ event, ∃ c',
        (calculateScores (s.anomaly event) orgId branchId employeeId period w).compositeScore =
          some c' ∧ c' ≤ c) ↔ w.total ≠ 0 := by
  constructor
  · rintro ⟨c, hc, -⟩ htotal
    have hnone : s.composite orgId branchId employeeId period w = none := by
      rw [InsightStore.composite, compositeScore, rawComposite, if_pos htotal, Option.map_none]
    rw [calculateScores_composite, hnone] at hc
    cases hc
  · intro htotal
    obtain ⟨c, hc, hscore⟩ := composite_isScore htotal
    refine ⟨toFixed c, by rw [calculateScores_composite, hc, Option.map_some],
      hscore.toFixed.1, hscore.toFixed.2, fun event => ?_⟩
    obtain ⟨c', hc', -⟩ := composite_isScore htotal
    refine ⟨toFixed c', by rw [calculateScores_composite, hc', Option.map_some], ?_⟩
    exact toFixed_mono (compositeScore_anti (wastageScore_anti (anomalyCount_le event))
      (riskPenalty_mono (unresolvedHighSeverity_le event)) hc hc')

-- ---
-- All histories
-- ---

/-- The scores reflect what the clock calls of any history have left exactly when they are
faithful. -/
theorem score_reflects_attendance (h : StatusKept s.attendance) (calls : List ClockCall) :
    Reflects (s.clocked zone calls) orgId branchId employeeId period w ↔
      Faithful (s.clocked zone calls) orgId employeeId period w := by
  have hkept : StatusKept (s.clocked zone calls).attendance := h.run calls
  constructor
  · intro hreflects
    refine ⟨(attendance_iff hkept).mp hreflects.attendance, fun hshifts hnever => ?_,
      composite_iff.mp hreflects.composite⟩
    exact (reliability_iff hshifts).mp (hreflects.reliability hshifts hnever)
  · intro hfaithful
    refine ⟨(attendance_iff hkept).mpr hfaithful.late, fun hshifts hnever => ?_,
      composite_iff.mpr hfaithful.weights⟩
    exact (reliability_iff hshifts).mpr (hfaithful.rostered hshifts hnever)

/-- An employee without records, rostered for one day. -/
def rostered : InsightStore where
  attendance := AttendanceService.hired
  assignments := Table.empty.insert
    { orgId := 0, branchId := 0, scheduleId := 0, employeeId := 0, shiftDate := 0 }

/-- Who clocked in late, at nine, and has not clocked out. -/
theorem score_reflects_attendance_open :
    Reflects (rostered.clocked (.offset 0) [AttendanceService.clocks 540]) 0 0 0 ⟨0, 86400000⟩
      {} := by
  refine (score_reflects_attendance ?_ _).mpr ⟨.inl (by decide +kernel), ?_, ?_⟩
  · rintro recordId record hget
    cases hget
  · rintro - hnever
    exact absurd hnever (by decide +kernel)
  · norm_num [StaffWeights.total, StaffWeights.sales, StaffWeights.reliability,
      StaffWeights.attendance, StaffWeights.wastage, weightOr]

/-- Who also clocks out, at five, was never late. -/
theorem late_day_lost :
    ¬Reflects (rostered.clocked (.offset 0)
      [AttendanceService.clocks 540, AttendanceService.clocks 480]) 0 0 0 ⟨0, 86400000⟩ {} := by
  intro h
  exact absurd h.attendance (by decide +kernel)

end NimbusPos.StaffInsightsService
