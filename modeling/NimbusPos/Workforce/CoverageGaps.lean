import Mathlib.Data.String.Basic
import Mathlib.Order.Interval.Set.LinearOrder
import NimbusPos.Common

/-!
# Staffing gaps

`getCoverageGaps` counts, for each day and each coverage rule, the shifts that overlap the
rule's window, by comparing the times as texts. A time after midnight compares as one early in
the same day. `coverage_gaps_iff`: the deficit is the true one exactly when no shift is missed
for that, or enough are counted all the same.
-/

namespace NimbusPos.WorkforceService

open Lib

-- ---
-- Times of the day
-- ---

/-- A time of the day to the minute; `24:00` is the end of the day. -/
structure ClockTime where
  hour : Nat
  minute : Nat
  minute_lt : minute < 60
  within : 60 * hour + minute ≤ 1440
  deriving DecidableEq, Repr

def digit (n : Nat) : Char := Char.ofNat (48 + n % 10)

/-- `HH:mm`. -/
def ClockTime.text (time : ClockTime) : String :=
  String.ofList [digit (time.hour / 10), digit time.hour, ':', digit (time.minute / 10),
    digit time.minute]

def ClockTime.minutes (time : ClockTime) : Nat := 60 * time.hour + time.minute

theorem ClockTime.minutes_le (time : ClockTime) : time.minutes ≤ 1440 := time.within

theorem digit_lt_iff : digit m < digit n ↔ m % 10 < n % 10 := by
  have hm := Nat.mod_lt m (by decide : 10 > 0)
  have hn := Nat.mod_lt n (by decide : 10 > 0)
  simp only [digit]
  generalize m % 10 = m at *
  generalize n % 10 = n at *
  revert m n
  decide

theorem digit_inj : digit m = digit n ↔ m % 10 = n % 10 := by
  have hm := Nat.mod_lt m (by decide : 10 > 0)
  have hn := Nat.mod_lt n (by decide : 10 > 0)
  simp only [digit]
  generalize m % 10 = m at *
  generalize n % 10 = n at *
  revert m n
  decide

/-- The texts compare as the times do. -/
theorem ClockTime.text_lt_iff (time time' : ClockTime) :
    time.text < time'.text ↔ time.minutes < time'.minutes := by
  have hminute := time.minute_lt
  have hminute' := time'.minute_lt
  have hday := time.within
  have hday' := time'.within
  rw [String.lt_iff_toList_lt]
  simp only [text, String.toList_ofList, List.cons_lt_cons_iff, digit_lt_iff, digit_inj, minutes]
  simp only [Char.lt_irrefl, true_and, false_or, List.lt_irrefl, and_false, or_false]
  omega

theorem ClockTime.text_le_iff (time time' : ClockTime) :
    time.text ≤ time'.text ↔ time.minutes ≤ time'.minutes := by
  rw [← not_lt, text_lt_iff, not_lt]

/-- What does not end after it began ends on the next day. -/
def ends (start finish : ClockTime) : Nat :=
  if start.minutes < finish.minutes then finish.minutes else finish.minutes + 1440

/-- The minutes of a day, and of the next one, from one time to another. -/
def interval (start finish : ClockTime) : Set Nat :=
  Set.Ico start.minutes (ends start finish)

-- ---
-- Rows
-- ---

inductive ScheduleStatus
  | draft
  | published
  | archived
  deriving DecidableEq, Repr

structure Schedule where
  status : ScheduleStatus
  deriving DecidableEq, Repr

structure ShiftTemplate where
  startsAtTime : ClockTime
  endsAtTime : ClockTime
  roleKey : Option String := none
  positionId : Option Id := none
  deriving DecidableEq, Repr

/-- `shiftDate` is in days. -/
structure ScheduleAssignment where
  orgId : Id
  branchId : Id
  scheduleId : Id
  shiftTemplateId : Id
  shiftDate : Int
  roleKey : Option String := none
  deriving DecidableEq, Repr

inductive CoverageRuleStatus
  | active
  | inactive
  deriving DecidableEq, Repr

inductive CoverageSeverity
  | low
  | medium
  | high
  | critical
  deriving DecidableEq, Repr

structure CoverageRule where
  orgId : Id
  branchId : Option Id
  name : String
  roleKey : Option String := none
  positionId : Option Id := none
  minimumHeadcount : Nat := 1
  appliesFromTime : Option ClockTime := none
  appliesToTime : Option ClockTime := none
  status : CoverageRuleStatus := .active
  severity : CoverageSeverity := .medium
  deriving DecidableEq, Repr

structure Roster where
  schedules : Table Schedule := .empty
  shiftTemplates : Table ShiftTemplate := .empty
  scheduleAssignments : Table ScheduleAssignment := .empty
  coverageRules : Table CoverageRule := .empty

-- ---
-- The report
-- ---

structure GapRule where
  id : Id
  name : String
  roleKey : Option String
  positionId : Option Id
  deriving DecidableEq, Repr

structure Gap where
  date : Int
  rule : GapRule
  required : Nat
  assigned : Nat
  deficit : Nat
  severity : CoverageSeverity
  deriving DecidableEq, Repr

structure CoverageGaps where
  gaps : List Gap
  message : Option String := none
  total : Option Nat := none
  deriving DecidableEq, Repr

def coverageRulesOf (s : Roster) (ctx : BranchContext) : List (Id × CoverageRule) :=
  s.coverageRules.findMany fun _ rule =>
    rule.orgId == ctx.organizationId && rule.status == .active &&
      rule.branchId.all (· == ctx.branchId)

def publishedFor (s : Roster) (ctx : BranchContext) (assignment : ScheduleAssignment) : Bool :=
  assignment.orgId == ctx.organizationId && assignment.branchId == ctx.branchId &&
    (s.schedules.get? assignment.scheduleId).any (·.status == .published)

def publishedAssignments (s : Roster) (ctx : BranchContext) (dateFrom dateTo : Int) :
    List (Id × ScheduleAssignment) :=
  s.scheduleAssignments.findMany fun _ assignment =>
    publishedFor s ctx assignment && decide (dateFrom ≤ assignment.shiftDate) &&
      decide (assignment.shiftDate ≤ dateTo)

/-- An empty `roleKey` names no role. -/
def CoverageRule.matchesRole (rule : CoverageRule) (assignment : ScheduleAssignment)
    (template : ShiftTemplate) : Bool :=
  (rule.roleKey.filter fun roleKey => !roleKey.isEmpty).all fun roleKey =>
    assignment.roleKey == some roleKey || template.roleKey == some roleKey

def CoverageRule.matchesPosition (rule : CoverageRule) (template : ShiftTemplate) : Bool :=
  rule.positionId.all fun positionId => template.positionId == some positionId

def CoverageRule.window (rule : CoverageRule) : Option (ClockTime × ClockTime) := do
  let appliesFromTime ← rule.appliesFromTime
  let appliesToTime ← rule.appliesToTime
  pure (appliesFromTime, appliesToTime)

/-- The overlap check on the texts. -/
def CoverageRule.inWindow (rule : CoverageRule) (template : ShiftTemplate) : Bool :=
  rule.window.all fun (appliesFromTime, appliesToTime) =>
    !(decide (template.endsAtTime.text ≤ appliesFromTime.text) ||
      decide (appliesToTime.text ≤ template.startsAtTime.text))

def CoverageRule.counts (s : Roster) (rule : CoverageRule) (date : Int)
    (assignment : ScheduleAssignment) : Bool :=
  assignment.shiftDate == date &&
    (s.shiftTemplates.get? assignment.shiftTemplateId).any fun template =>
      rule.matchesRole assignment template && rule.matchesPosition template &&
        rule.inWindow template

def gapOf (s : Roster) (assignments : List (Id × ScheduleAssignment)) (date : Int)
    (row : Id × CoverageRule) : Option Gap :=
  let (ruleId, rule) := row
  let dayAssignments := assignments.filter fun (_, assignment) => rule.counts s date assignment
  let assigned := dayAssignments.length
  if assigned < rule.minimumHeadcount then some
    { date, required := rule.minimumHeadcount, assigned
      rule := { id := ruleId, name := rule.name, roleKey := rule.roleKey,
                positionId := rule.positionId }
      deficit := rule.minimumHeadcount - assigned, severity := rule.severity }
  else none

/-- The days from one to another, both included. -/
def daysBetween (dateFrom dateTo : Int) : List Int :=
  (List.range (dateTo + 1 - dateFrom).toNat).map fun (passed : Nat) => dateFrom + passed

def getCoverageGaps (s : Roster) (ctx : BranchContext) (dateFrom dateTo : Int) : CoverageGaps :=
  let rules := coverageRulesOf s ctx
  if rules.isEmpty then { gaps := [], message := some "No active coverage rules defined" }
  else
    let assignments := publishedAssignments s ctx dateFrom dateTo
    let gaps := (daysBetween dateFrom dateTo).flatMap fun date =>
      rules.filterMap (gapOf s assignments date)
    { gaps, total := some gaps.length }

-- ---
-- Shifts as intervals
-- ---

/-- The shift shares a time with the window. A rule without one is about the whole day. -/
def CoverageRule.Overlaps (rule : CoverageRule) (template : ShiftTemplate) : Prop :=
  ∀ window ∈ rule.window,
    (interval template.startsAtTime template.endsAtTime ∩ interval window.1 window.2).Nonempty

theorem interval_inter (start finish start' finish' : ClockTime) :
    (interval start finish ∩ interval start' finish').Nonempty ↔
      (start.minutes < ends start finish ∧ start'.minutes < ends start finish) ∧
        start.minutes < ends start' finish' ∧ start'.minutes < ends start' finish' := by
  rw [interval, interval, Set.Ico_inter_Ico, Set.nonempty_Ico, sup_lt_iff, lt_inf_iff, lt_inf_iff]
  tauto

instance (start finish start' finish' : ClockTime) :
    Decidable (interval start finish ∩ interval start' finish').Nonempty :=
  decidable_of_iff _ (interval_inter start finish start' finish').symm

instance (rule : CoverageRule) (template : ShiftTemplate) : Decidable (rule.Overlaps template) :=
  inferInstanceAs (Decidable (∀ window ∈ rule.window, _))

/-- A shift of the day that the rule asks for, of a kind. -/
def asksFor (s : Roster) (ctx : BranchContext) (rule : CoverageRule) (date : Int)
    (kind : ShiftTemplate → Bool) (assignment : ScheduleAssignment) : Bool :=
  publishedFor s ctx assignment && assignment.shiftDate == date &&
    (s.shiftTemplates.get? assignment.shiftTemplateId).any fun template =>
      rule.matchesRole assignment template && rule.matchesPosition template && kind template

def staffed (s : Roster) (ctx : BranchContext) (rule : CoverageRule) (date : Int)
    (kind : ShiftTemplate → Bool) : Nat :=
  s.scheduleAssignments.count fun _ assignment => asksFor s ctx rule date kind assignment

/-- The shifts of the day that overlap the window. -/
def present (s : Roster) (ctx : BranchContext) (rule : CoverageRule) (date : Int) : Nat :=
  staffed s ctx rule date fun template => decide (rule.Overlaps template)

/-- A shift of the day that the rule asks for. -/
structure OnDuty (s : Roster) (ctx : BranchContext) (rule : CoverageRule) (date : Int)
    (assignment : ScheduleAssignment) (template : ShiftTemplate) : Prop where
  listed : ∃ k, s.scheduleAssignments.get? k = some assignment
  shift : s.shiftTemplates.get? assignment.shiftTemplateId = some template
  published : publishedFor s ctx assignment = true
  date : assignment.shiftDate = date
  role : rule.matchesRole assignment template = true
  position : rule.matchesPosition template = true

/-- The deficit reported for the rule on the day is what is missing of the required number. -/
def ReportsDeficit (report : CoverageGaps) (date : Int) (ruleId : Id) (required present : Nat) :
    Prop :=
  (report.gaps.filter fun gap => gap.date == date && gap.rule.id == ruleId).map (·.deficit) =
    if present < required then [required - present] else []

variable {rule : CoverageRule} {template : ShiftTemplate}

theorem inWindow_iff : rule.inWindow template = true ↔
    ∀ window ∈ rule.window, window.1.minutes < template.endsAtTime.minutes ∧
      template.startsAtTime.minutes < window.2.minutes := by
  simp [CoverageRule.inWindow, Option.all_eq_true, ClockTime.text_le_iff]

/-- What overlaps on one day overlaps. -/
theorem overlaps_of_inWindow (h : rule.inWindow template = true) : rule.Overlaps template := by
  rintro window hwindow
  obtain ⟨hstarts, hends⟩ := inWindow_iff.mp h window hwindow
  have hshift := template.startsAtTime.minutes_le
  have hfrom := window.1.minutes_le
  rw [interval_inter]
  simp only [ends]
  split <;> split <;> omega

-- ---
-- The gaps of one rule on one day
-- ---

/-- Of what a list is mapped to, a condition that only one element's part can meet keeps that
part. -/
theorem filter_flatMap_only {α β : Type} {l : List α} {a : α} {f : α → List β} {p : β → Bool}
    (hnodup : l.Nodup) (ha : a ∈ l) (hother : ∀ b ∈ l, b ≠ a → (f b).filter p = []) :
    (l.flatMap f).filter p = (f a).filter p := by
  induction l with
  | nil => cases ha
  | cons b rest ih =>
    rw [List.flatMap_cons, List.filter_append]
    obtain ⟨hfresh, hrest⟩ := List.nodup_cons.mp hnodup
    rcases List.mem_cons.mp ha with rfl | hmem
    · have hnone : (rest.flatMap f).filter p = [] := by
        rw [List.filter_flatMap, List.flatMap_eq_nil_iff]
        intro b hb
        exact hother b (List.mem_cons_of_mem _ hb) (ne_of_mem_of_not_mem hb hfresh)
      rw [hnone, List.append_nil]
    · rw [hother b List.mem_cons_self (ne_of_mem_of_not_mem hmem hfresh).symm, List.nil_append]
      exact ih hrest hmem fun c hc => hother c (List.mem_cons_of_mem _ hc)

theorem mem_daysBetween : date ∈ daysBetween dateFrom dateTo ↔ dateFrom ≤ date ∧ date ≤ dateTo := by
  simp only [daysBetween, List.mem_map, List.mem_range]
  constructor
  · rintro ⟨passed, hpassed, rfl⟩
    omega
  · rintro ⟨hfrom, hto⟩
    exact ⟨(date - dateFrom).toNat, by omega, by omega⟩

theorem daysBetween_nodup (dateFrom dateTo : Int) : (daysBetween dateFrom dateTo).Nodup := by
  refine List.nodup_range.map ?_
  intro m n heq
  simpa using heq

theorem gapOf_for (h : gapOf s assignments date row = some gap) :
    gap.date = date ∧ gap.rule.id = row.1 := by
  simp only [gapOf] at h
  split at h
  · cases h
    exact ⟨rfl, rfl⟩
  · cases h

/-- What the report says of a rule on a day is what `gapOf` says of them. -/
theorem gaps_of_rule (hrule : (ruleId, rule) ∈ coverageRulesOf s ctx)
    (hdate : date ∈ daysBetween dateFrom dateTo) :
    ((getCoverageGaps s ctx dateFrom dateTo).gaps.filter fun gap =>
        gap.date == date && gap.rule.id == ruleId) =
      (gapOf s (publishedAssignments s ctx dateFrom dateTo) date (ruleId, rule)).toList := by
  generalize hassignments : publishedAssignments s ctx dateFrom dateTo = assignments
  have hkeys : (coverageRulesOf s ctx).Nodup :=
    .of_map Prod.fst (Table.findMany_keys s.coverageRules _)
  have hsome : (coverageRulesOf s ctx).isEmpty = false := by
    rw [List.isEmpty_eq_false_iff]
    exact List.ne_nil_of_mem hrule
  simp only [getCoverageGaps, hsome, hassignments, Bool.false_eq_true, if_false]
  rw [filter_flatMap_only (daysBetween_nodup _ _) hdate, List.filterMap_eq_flatMap_toList,
    filter_flatMap_only hkeys hrule]
  · rw [List.filter_eq_self]
    intro gap hgap
    obtain ⟨rfl, hid⟩ := gapOf_for (Option.mem_toList.mp hgap)
    simp [hid]
  · rintro ⟨other, rule'⟩ hother hne
    rw [List.filter_eq_nil_iff]
    intro gap hgap hthis
    obtain ⟨-, hid⟩ := gapOf_for (Option.mem_toList.mp hgap)
    simp only [Bool.and_eq_true, beq_iff_eq] at hthis
    obtain rfl : other = ruleId := hid.symm.trans hthis.2
    have hget := (Table.mem_findMany.mp hother).1.symm.trans (Table.mem_findMany.mp hrule).1
    exact hne (by rw [Option.some.inj hget])
  · intro day hday hne
    rw [List.filter_eq_nil_iff]
    intro gap hgap hthis
    obtain ⟨row, -, hgap⟩ := List.mem_filterMap.mp hgap
    simp only [Bool.and_eq_true, beq_iff_eq] at hthis
    exact hne ((gapOf_for hgap).1.symm.trans hthis.1)

/-- The shifts that are counted for a rule on a day. -/
theorem counted_eq (hdate : date ∈ daysBetween dateFrom dateTo) :
    ((publishedAssignments s ctx dateFrom dateTo).filter fun row =>
        rule.counts s date row.2).length = staffed s ctx rule date rule.inWindow := by
  rw [mem_daysBetween] at hdate
  rw [publishedAssignments, Table.findMany, List.filter_filter, staffed, Table.count,
    Table.findMany]
  congr 1
  refine List.filter_congr fun row _ => ?_
  by_cases hday : row.2.shiftDate = date
  · simp [asksFor, CoverageRule.counts, hday, hdate, Bool.and_comm]
  · have hother : (row.2.shiftDate == date) = false := by simpa using hday
    simp [asksFor, CoverageRule.counts, hother]

theorem asksFor_imp {kind kind' : ShiftTemplate → Bool}
    (h : ∀ template, kind template = true → kind' template = true)
    (hasks : asksFor s ctx rule date kind assignment = true) :
    asksFor s ctx rule date kind' assignment = true := by
  simp only [asksFor, Bool.and_eq_true, Option.any_eq_true] at hasks ⊢
  obtain ⟨hday, template, hget, hmatches, hkind⟩ := hasks
  exact ⟨hday, template, hget, hmatches, h template hkind⟩

theorem counted_le_present :
    staffed s ctx rule date rule.inWindow ≤ present s ctx rule date :=
  Table.count_mono fun _ _ => asksFor_imp fun _ hin => decide_eq_true (overlaps_of_inWindow hin)

/-- As many are counted as are there exactly when none is missed. -/
theorem counted_eq_present_iff :
    staffed s ctx rule date rule.inWindow = present s ctx rule date ↔
      ∀ assignment template, OnDuty s ctx rule date assignment template →
        rule.Overlaps template → rule.inWindow template = true := by
  rw [present, staffed, staffed, Table.count_eq_iff]
  · constructor
    · rintro h assignment template ⟨⟨k, hget⟩, hshift, hpublished, hdate, hrole, hposition⟩
        hoverlaps
      have hcounted := h k assignment hget
        (by simp [asksFor, hpublished, hdate, hshift, hrole, hposition, hoverlaps])
      simpa [asksFor, hpublished, hdate, hshift, hrole, hposition] using hcounted
    · intro h k assignment hget hpresent
      simp only [asksFor, Bool.and_eq_true, beq_iff_eq, Option.any_eq_true,
        decide_eq_true_eq] at hpresent ⊢
      obtain ⟨⟨hpublished, hdate⟩, template, hshift, ⟨hrole, hposition⟩, hoverlaps⟩ := hpresent
      have hin := h assignment template ⟨⟨k, hget⟩, hshift, hpublished, hdate, hrole, hposition⟩
        hoverlaps
      exact ⟨⟨hpublished, hdate⟩, template, hshift, ⟨hrole, hposition⟩, hin⟩
  · exact fun _ _ => asksFor_imp fun _ hin => decide_eq_true (overlaps_of_inWindow hin)

/-- The deficit of a rule on a day is reported exactly when every shift that overlaps the window
does so by the texts of its times, or those that do are enough. -/
theorem coverage_gaps_iff (hrule : (ruleId, rule) ∈ coverageRulesOf s ctx)
    (hfrom : dateFrom ≤ date) (hto : date ≤ dateTo) :
    ReportsDeficit (getCoverageGaps s ctx dateFrom dateTo) date ruleId rule.minimumHeadcount
        (present s ctx rule date) ↔
      (∀ assignment template, OnDuty s ctx rule date assignment template →
        rule.Overlaps template → rule.inWindow template = true) ∨
      rule.minimumHeadcount ≤ staffed s ctx rule date rule.inWindow := by
  have hdate := mem_daysBetween.mpr ⟨hfrom, hto⟩
  have hle : staffed s ctx rule date rule.inWindow ≤ present s ctx rule date := counted_le_present
  rw [ReportsDeficit, gaps_of_rule hrule hdate, ← counted_eq_present_iff]
  simp only [gapOf, counted_eq hdate]
  generalize staffed s ctx rule date rule.inWindow = counted at hle ⊢
  generalize present s ctx rule date = there at hle ⊢
  by_cases hfew : counted < rule.minimumHeadcount
  · by_cases hmissing : there < rule.minimumHeadcount
    · simp [hfew, hmissing]
      omega
    · simp [hfew, hmissing]
      omega
  · have henough : ¬there < rule.minimumHeadcount := by omega
    simp [hfew, henough]
    omega

-- ---
-- A late bar
-- ---

def oClock (hour : Nat) (h : hour ≤ 24) : ClockTime :=
  { hour, minute := 0, minute_lt := by decide, within := by omega }

/-- From six to ten in the evening two are needed. -/
def barRule : CoverageRule where
  orgId := 0
  branchId := some 0
  name := "Bar"
  minimumHeadcount := 2
  appliesFromTime := some (oClock 18 (by decide))
  appliesToTime := some (oClock 22 (by decide))

/-- Two shifts, one until eleven and one until two. -/
def lateBar : Roster where
  schedules := Table.empty.insert { status := .published }
  shiftTemplates :=
    (Table.empty.insert
      { startsAtTime := oClock 14 (by decide), endsAtTime := oClock 23 (by decide) }).insert
      { startsAtTime := oClock 18 (by decide), endsAtTime := oClock 2 (by decide) }
  scheduleAssignments :=
    (Table.empty.insert
      { orgId := 0, branchId := 0, scheduleId := 0, shiftTemplateId := 0, shiftDate := 1 }).insert
      { orgId := 0, branchId := 0, scheduleId := 0, shiftTemplateId := 1, shiftDate := 1 }
  coverageRules := Table.empty.insert barRule

theorem coverage_gaps_iff_late :
    ReportsDeficit (getCoverageGaps lateBar ⟨0, 0⟩ 1 1) 1 0 2 (present lateBar ⟨0, 0⟩ barRule 1) ↔
      (∀ assignment template, OnDuty lateBar ⟨0, 0⟩ barRule 1 assignment template →
        barRule.Overlaps template → barRule.inWindow template = true) ∨
      2 ≤ staffed lateBar ⟨0, 0⟩ barRule 1 barRule.inWindow :=
  coverage_gaps_iff (by decide) (by decide) (by decide)

/-- Both shifts overlap the evening, and a gap of one is reported. -/
theorem late_shift_missed :
    ¬∀ (s : Roster) (ctx : BranchContext) (dateFrom dateTo date : Int) (ruleId : Id)
      (rule : CoverageRule), (ruleId, rule) ∈ coverageRulesOf s ctx → dateFrom ≤ date →
      date ≤ dateTo →
      ReportsDeficit (getCoverageGaps s ctx dateFrom dateTo) date ruleId rule.minimumHeadcount
        (present s ctx rule date) := by
  intro h
  have hreport := h lateBar ⟨0, 0⟩ 1 1 1 0 barRule (by decide) (by decide) (by decide)
  have hpresent : present lateBar ⟨0, 0⟩ barRule 1 = 2 := by decide
  rw [ReportsDeficit, hpresent] at hreport
  revert hreport
  decide

end NimbusPos.WorkforceService
