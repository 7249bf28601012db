import Mathlib.Data.List.Chain
import Mathlib.Data.List.Count
import NimbusPos.AccountsPayable.Recurring

/-!
# Service periods

The periods of a profile follow each other as long as each month they end in has the date of the
first, and then each calendar month, quarter or year has one due date.
-/

namespace NimbusPos.AccountsPayableService

open Lib Lib.Program Lib.Calendar

/-- A period ends on its due date, on which the next one starts. -/
structure ServicePeriod where
  start : Int
  dueDate : Int
  deriving DecidableEq, Repr

/-- The periods of the first bills, one after the other. -/
def generations (cadence : RecurrenceCadence) (dueDate : Int) : Nat → List ServicePeriod
  | 0 => []
  | n + 1 =>
    ⟨computeServicePeriodStart cadence dueDate, dueDate⟩ ::
      generations cadence (advanceDueDate cadence dueDate) n

/-- A calendar month, a quarter or a year, in months. -/
def RecurrenceCadence.months : RecurrenceCadence → Option Int
  | .weekly => none
  | .monthly => some 1
  | .quarterly => some 3
  | .annually => some 12

def Consecutive (periods : List ServicePeriod) : Prop :=
  periods.IsChain fun earlier later => later.start = earlier.dueDate

/-- From the first to the last, each so many calendar months have one due date. -/
def OnePerCalendarPeriod (months : Int) (periods : List ServicePeriod) : Prop :=
  let dues := periods.map fun period => monthOf period.dueDate / months
  ∀ first ∈ dues, ∀ last ∈ dues, ∀ k, first ≤ k → k ≤ last → dues.count k = 1

def Tiles (cadence : RecurrenceCadence) (periods : List ServicePeriod) : Prop :=
  Consecutive periods ∧ ∀ months ∈ cadence.months, OnePerCalendarPeriod months periods

/-- The months in which the bills fall due have the date of the first. -/
def KeepsDate (cadence : RecurrenceCadence) (dueDate : Int) (n : Nat) : Prop :=
  ∀ months ∈ cadence.months, ∀ i < n, HasDate (monthOf dueDate + months * i) (dateOf dueDate)

variable {cadence : RecurrenceCadence} {dueDate months : Int} {n : Nat}

theorem advanceDueDate_months (h : months ∈ cadence.months) :
    advanceDueDate cadence dueDate = addMonths dueDate months := by
  cases cadence with
  | weekly => cases h
  | _ =>
    obtain rfl := Option.some.inj h
    rfl

theorem computeServicePeriodStart_months (h : months ∈ cadence.months) :
    computeServicePeriodStart cadence dueDate = addMonths dueDate (-months) := by
  cases cadence with
  | weekly => cases h
  | _ =>
    obtain rfl := Option.some.inj h
    rfl

theorem months_pos (h : months ∈ cadence.months) : 0 < months := by
  cases cadence with
  | weekly => cases h
  | _ =>
    obtain rfl := Option.some.inj h
    decide

/-- A period starts where the one before ended, only if its month has the date. -/
theorem start_eq_iff :
    computeServicePeriodStart cadence (advanceDueDate cadence dueDate) = dueDate ↔
    ∀ months ∈ cadence.months, HasDate (monthOf dueDate + months) (dateOf dueDate) := by
  cases hmonths : cadence.months with
  | none =>
    obtain rfl : cadence = .weekly := by cases cadence <;> first | rfl | cases hmonths
    simp [computeServicePeriodStart, advanceDueDate]
  | some months =>
    rw [computeServicePeriodStart_months hmonths, advanceDueDate_months hmonths, addMonths_neg_iff]
    simp

/-- The date is kept by one more bill. -/
theorem keepsDate_succ : KeepsDate cadence dueDate (n + 2) ↔
    (∀ months ∈ cadence.months, HasDate (monthOf dueDate + months) (dateOf dueDate)) ∧
      KeepsDate cadence (advanceDueDate cadence dueDate) (n + 1) := by
  constructor
  · intro h
    have hnext (months : Int) (hmonths : months ∈ cadence.months) :
        HasDate (monthOf dueDate + months) (dateOf dueDate) := by
      simpa using h months hmonths 1 (by omega)
    refine ⟨hnext, fun months hmonths i hi => ?_⟩
    rw [advanceDueDate_months hmonths, monthOf_addMonths (hnext months hmonths),
      dateOf_addMonths (hnext months hmonths)]
    have hlater := h months hmonths (i + 1) (by omega)
    rwa [Nat.cast_succ, mul_add, mul_one, add_comm (months * i), ← add_assoc] at hlater
  · rintro ⟨hnext, h⟩ months hmonths i hi
    cases i with
    | zero =>
      simpa using hasDate_dateOf dueDate
    | succ i =>
      have hlater := h months hmonths i (by omega)
      rw [advanceDueDate_months hmonths, monthOf_addMonths (hnext months hmonths),
        dateOf_addMonths (hnext months hmonths)] at hlater
      rwa [Nat.cast_succ, mul_add, mul_one, add_comm (months * i), ← add_assoc]

theorem consecutive_iff (cadence : RecurrenceCadence) (dueDate : Int) (n : Nat) :
    Consecutive (generations cadence dueDate n) ↔ KeepsDate cadence dueDate n := by
  induction n generalizing dueDate with
  | zero => exact iff_of_true .nil fun _ _ _ hi => absurd hi (Nat.not_lt_zero _)
  | succ n ih =>
    cases n with
    | zero =>
      refine iff_of_true (.singleton _) fun months _ i hi => ?_
      obtain rfl : i = 0 := by omega
      simpa using hasDate_dateOf dueDate
    | succ n =>
      rw [keepsDate_succ, ← ih, ← start_eq_iff]
      exact List.isChain_cons_cons

/-- The due dates are so many months apart. -/
theorem generations_months (hmonths : months ∈ cadence.months) (h : KeepsDate cadence dueDate n) :
    (generations cadence dueDate n).map (fun period => monthOf period.dueDate / months) =
      (List.range n).map fun i : Nat => monthOf dueDate / months + i := by
  induction n generalizing dueDate with
  | zero => rfl
  | succ n ih =>
    rw [List.range_succ_eq_map, generations, List.map_cons, List.map_cons, List.map_map]
    cases n with
    | zero => simp [generations]
    | succ n =>
      rw [keepsDate_succ] at h
      rw [ih h.2, advanceDueDate_months hmonths, monthOf_addMonths (h.1 months hmonths),
        Int.add_ediv_of_dvd_right (dvd_refl _), Int.ediv_self (months_pos hmonths).ne']
      simp only [Function.comp_def, Nat.cast_zero, add_zero, Nat.cast_succ, add_assoc,
        add_comm (1 : Int)]

/-- Numbers from `first` on, each once. -/
theorem count_range (first : Int) (hlo : first ≤ k) (hhi : k < first + n) :
    ((List.range n).map fun i : Nat => first + i).count k = 1 := by
  refine List.count_eq_one_of_mem ?_ ?_
  · refine List.nodup_range.map fun i j hij => ?_
    omega
  · exact List.mem_map.mpr ⟨(k - first).toNat, List.mem_range.mpr (by omega), by omega⟩

theorem onePerCalendarPeriod (hmonths : months ∈ cadence.months)
    (h : KeepsDate cadence dueDate n) :
    OnePerCalendarPeriod months (generations cadence dueDate n) := by
  simp only [OnePerCalendarPeriod]
  rw [generations_months hmonths h]
  intro first hfirst last hlast k hlo hhi
  obtain ⟨i, -, rfl⟩ := List.mem_map.mp hfirst
  obtain ⟨j, hj, rfl⟩ := List.mem_map.mp hlast
  have hn := List.mem_range.mp hj
  exact count_range _ (by omega) (by omega)

theorem tiles_iff (cadence : RecurrenceCadence) (dueDate : Int) (n : Nat) :
    Tiles cadence (generations cadence dueDate n) ↔ KeepsDate cadence dueDate n := by
  rw [← consecutive_iff]
  refine ⟨And.left, fun h => ⟨h, fun months hmonths => ?_⟩⟩
  exact onePerCalendarPeriod hmonths ((consecutive_iff ..).mp h)

/-- A date that all months have is kept. -/
theorem keepsDate_of_lt (hdate : dateOf dueDate < 28) : KeepsDate cadence dueDate n :=
  fun _ _ _ _ => hasDate_of_lt _ hdate

-- ---
-- Calls, one after the other
-- ---

/-- A call of the service, with no other between its statements, or time that passes. -/
inductive RecurringCall
  | wait (ms : Nat)
  | generate (ctx : BranchContext) (profileId : Id)
  deriving DecidableEq, Repr

def RecurringCall.take (s : RecurringStore) : RecurringCall → RecurringStore
  | .wait ms => { s with clock := s.clock + ms }
  | .generate ctx profileId =>
    ((generateBillFromRecurring ctx profileId).run RecurringStore.exec s).1

def VendorBillRecord.servicePeriod (bill : VendorBillRecord) : Option ServicePeriod :=
  bill.servicePeriodStart.map fun start => ⟨start, bill.dueDate⟩

/-- The periods of the bills of a profile, as they were generated. -/
def RecurringStore.periodsOf (s : RecurringStore) (profileId : Id) : List ServicePeriod :=
  (s.bills.findMany fun _ bill => bill.recurringProfileId == some profileId).filterMap
    (·.2.servicePeriod)

theorem run_ask {s t : RecurringStore} {k : RecurringStatement} {answer : k.Answer}
    (h : s.exec k = (t, .ok answer)) : (ask k).run RecurringStore.exec s = (t, .ok answer) := h

theorem cycleDue_alone (s : RecurringStore) (ctx : BranchContext) (profileId : Id)
    (profile : RecurringBillProfile) (now : Time) :
    (∃ e, (cycleDue ctx profileId profile now).run RecurringStore.exec s = (s, .error e)) ∨
      s.findCycle ctx.organizationId profileId profile.nextDueDate = none ∧
        (cycleDue ctx profileId profile now).run RecurringStore.exec s = (s, .ok ()) := by
  rw [cycleDue, run_bind_ok (run_ask rfl)]
  cases s.findCycle ctx.organizationId profileId profile.nextDueDate with
  | some bill => exact .inl ⟨_, rfl⟩
  | none =>
    dsimp only
    cases cadenceElapsed profile now with
    | error e => exact .inl ⟨e, rfl⟩
    | ok _ => exact .inr ⟨rfl, rfl⟩

/-- A call alone bills the cycle of the profile that it read, or changes nothing. -/
theorem generateBillFromRecurring_alone (s : RecurringStore) (ctx : BranchContext)
    (profileId : Id) :
    ((generateBillFromRecurring ctx profileId).run RecurringStore.exec s).1 = s ∨
      ∃ profile billNumber, s.findProfile ctx profileId true = some profile ∧
        s.findCycle ctx.organizationId profileId profile.nextDueDate = none ∧
        ((generateBillFromRecurring ctx profileId).run RecurringStore.exec s).1 =
          s.generated profileId (cycleBill ctx profileId profile s.clock billNumber)
            (nextCycle profile s.clock) := by
  rw [generateBillFromRecurring, run_bind_ok (run_ask rfl)]
  cases hprofile : s.findProfile ctx profileId true with
  | none => exact .inl rfl
  | some profile =>
    rw [run_bind_ok run_need_some, run_bind_ok (run_ask (k := .now) rfl)]
    rcases cycleDue_alone s ctx profileId profile s.clock with ⟨e, hrefused⟩ | ⟨hcycle, hdue⟩
    · exact .inl (by rw [run_bind_error hrefused])
    · rw [run_bind_ok hdue, run_bind_ok (run_ask (k := .lastBill ctx.organizationId) rfl)]
      let row := cycleBill ctx profileId profile s.clock (nextBillNumber (s.lastBill
        ctx.organizationId))
      rcases unlessTaken_cases (s.numberTaken row) "(`org_id`,`bill_number`)" s
        (s.generated profileId row (nextCycle profile s.clock)) s.bills.next with
        ⟨-, hrow⟩ | ⟨-, hrow⟩
      · exact .inl (congrArg Prod.fst hrow)
      · exact .inr ⟨profile, _, rfl, hcycle, congrArg Prod.fst hrow⟩

theorem generations_succ (cadence : RecurrenceCadence) (dueDate : Int) (n : Nat) :
    generations cadence dueDate (n + 1) = generations cadence dueDate n ++
      [⟨computeServicePeriodStart cadence ((advanceDueDate cadence)^[n] dueDate),
        (advanceDueDate cadence)^[n] dueDate⟩] := by
  induction n generalizing dueDate with
  | zero => rfl
  | succ n ih => rw [generations, ih, generations, Function.iterate_succ_apply, List.cons_append]

theorem generated_periodsOf (s : RecurringStore) (hrow : row.recurringProfileId = some billed)
    (next : NextCycle) (profileId : Id) :
    (s.generated billed row next).periodsOf profileId = s.periodsOf profileId ++
      if billed = profileId then row.servicePeriod.toList else [] := by
  simp only [RecurringStore.periodsOf, RecurringStore.generated, Table.findMany_insert, hrow,
    List.filterMap_append]
  congr 1
  by_cases hbilled : billed = profileId
  · simp only [hbilled, beq_self_eq_true, if_true, List.filterMap_cons,
      VendorBillRecord.servicePeriod]
    cases row.servicePeriodStart <;> rfl
  · simp [hbilled]

/-- The bills of a profile are the first of its generations, and the profile is at the next. -/
structure Generated (profileId : Id) (cadence : RecurrenceCadence) (dueDate : Int) (n : Nat)
    (s : RecurringStore) : Prop where
  profile : ∀ row, s.profiles.get? profileId = some row →
    row.cadence = cadence ∧ row.nextDueDate = (advanceDueDate cadence)^[n] dueDate
  periods : s.periodsOf profileId = generations cadence dueDate n

theorem Generated.take (h : Generated profileId cadence dueDate n s) (call : RecurringCall) :
    ∃ n, Generated profileId cadence dueDate n (call.take s) := by
  cases call with
  | wait ms => exact ⟨n, h.profile, h.periods⟩
  | generate ctx billed =>
    simp only [RecurringCall.take]
    rcases generateBillFromRecurring_alone s ctx billed with hsame |
      ⟨row, billNumber, hrow, -, hnew⟩
    · rw [hsame]
      exact ⟨n, h⟩
    · have hget : s.profiles.get? billed = some row := (Option.filter_eq_some_iff.mp hrow).1
      have hbill : (cycleBill ctx billed row s.clock billNumber).recurringProfileId = some billed :=
        rfl
      have hperiods := generated_periodsOf s hbill (nextCycle row s.clock) profileId
      rw [hnew]
      by_cases hbilled : billed = profileId
      · subst hbilled
        obtain ⟨rfl, hdue⟩ := h.profile row hget
        refine ⟨n + 1, fun new hnew => ?_, ?_⟩
        · rcases Table.update_cases hnew with ⟨-, old, hold, rfl⟩ | ⟨hne, -⟩
          · obtain rfl : row = old := Option.some.inj (hget.symm.trans hold)
            rw [Function.iterate_succ_apply', ← hdue]
            exact ⟨rfl, rfl⟩
          · exact absurd rfl hne
        · rw [hperiods, if_pos rfl, h.periods, generations_succ, ← hdue]
          rfl
      · refine ⟨n, fun new hnew => ?_, ?_⟩
        · rcases Table.update_cases hnew with ⟨heq, -⟩ | ⟨-, hold⟩
          · exact absurd heq.symm hbilled
          · exact h.profile new hold
        · rw [hperiods, if_neg hbilled, List.append_nil, h.periods]

/-- However often a profile is billed, its bills are the first of its generations. -/
theorem generated_run (hprofile : s.profiles.get? profileId = some profile)
    (hnone : s.periodsOf profileId = []) (calls : List RecurringCall) :
    ∃ n, (calls.foldl RecurringCall.take s).periodsOf profileId =
      generations profile.cadence profile.nextDueDate n := by
  have hstart : ∃ n, Generated profileId profile.cadence profile.nextDueDate n s := by
    refine ⟨0, fun row hrow => ?_, hnone⟩
    obtain rfl : profile = row := Option.some.inj (hprofile.symm.trans hrow)
    exact ⟨rfl, rfl⟩
  clear hprofile hnone
  induction calls generalizing s with
  | nil =>
    obtain ⟨n, h⟩ := hstart
    exact ⟨n, h.periods⟩
  | cons call calls ih =>
    obtain ⟨n, h⟩ := hstart
    exact ih (h.take call)

/-- A rent that falls due on the last of January 2024. -/
def rent : RecurringStore where
  profiles := Table.empty.insert
    { orgId := 0, branchId := none, supplierId := 0, profileName := "Rent", cadence := .monthly
      expectedAmount := 50000, currencyCode := "USD", nextDueDate := 19753 }

end NimbusPos.AccountsPayableService
