import NimbusPos.Budget.Forecast

/-!
# Covers of a forecast

A reservation is counted in the rows of its date and its daypart. No row is built for the
afternoon, so a reservation of another daypart is counted once if its date is that of one day
of the horizon. A baseline is averaged over the weeks that a number of orders would make, so
it is a weekly average for four orders a week, and nearly for no other number.
-/

namespace NimbusPos.ForecastService

open Lib

-- ---
-- Reservations
-- ---

def Reservation.daypart (z : Zone) (reservation : Reservation) : Daypart :=
  hourToDaypart (z.getHours reservation.reservationAt)

/-- The days of the horizon that have the reservation's date. -/
def daysOf (z : Zone) (horizonStart : Time) (horizonDays : Nat) (reservation : Reservation) : Nat :=
  (List.range horizonDays).countP fun d =>
    dayOf reservation.reservationAt == dayOf (z.addDays horizonStart d)

/-- The rows that count the reservation. -/
def rowsOf (z : Zone) (horizonStart : Time) (horizonDays : Nat) (reservation : Reservation) : Nat :=
  (rows z horizonStart horizonDays).countP fun row => countsFor z row.1 row.2 reservation

variable {z : Zone} {horizonStart : Time} {horizonDays : Nat} {reservation : Reservation}

theorem hourToDaypart_cases (hour : Nat) :
    hourToDaypart hour ∈ dayparts ∨ hourToDaypart hour = .afternoon := by
  unfold hourToDaypart
  repeat' split
  all_goals simp [dayparts]

/-- On a day of its date a reservation counts for one daypart, or is of the afternoon. -/
theorem countP_dayparts (z : Zone) (date : Time) (reservation : Reservation) :
    dayparts.countP (countsFor z date · reservation) =
      if dayOf reservation.reservationAt = dayOf date ∧ reservation.daypart z ≠ .afternoon then 1
      else 0 := by
  by_cases hdate : dayOf reservation.reservationAt = dayOf date
  · rcases hourToDaypart_cases (z.getHours reservation.reservationAt) with hmem | hafternoon
    · simp only [dayparts, List.mem_cons, List.not_mem_nil, or_false] at hmem
      rcases hmem with hdp | hdp | hdp | hdp <;>
        simp [dayparts, countsFor, hdate, Reservation.daypart, hdp]
    · simp [dayparts, countsFor, Reservation.daypart, hafternoon]
  · simp [dayparts, countsFor, hdate]

theorem rowsOf_eq (z : Zone) (horizonStart : Time) (horizonDays : Nat) (reservation : Reservation) :
    rowsOf z horizonStart horizonDays reservation =
      if reservation.daypart z = .afternoon then 0
      else daysOf z horizonStart horizonDays reservation := by
  simp only [rowsOf, rows, daysOf]
  induction List.range horizonDays with
  | nil => simp
  | cons d days ih =>
    have hday := countP_dayparts z (z.addDays horizonStart d) reservation
    rw [List.flatMap_cons, List.countP_append, ih, List.countP_map, List.countP_cons]
    simp only [Function.comp_def]
    rw [hday]
    by_cases hafternoon : reservation.daypart z = .afternoon
    · simp [hafternoon]
    · by_cases hdate : dayOf reservation.reservationAt = dayOf (z.addDays horizonStart d) <;>
        simp [hafternoon, hdate, Nat.add_comm]

/-- Sums over rows and over what they count. -/
theorem sum_filter_countP (rows : List α) (items : List β) (counts : α → β → Bool) (f : β → Int) :
    (rows.map fun row => ((items.filter (counts row)).map f).sum).sum =
      (items.map fun item => rows.countP (counts · item) * f item).sum := by
  induction rows with
  | nil => simp
  | cons row rows ih =>
    have hfirst : ((items.filter (counts row)).map f).sum =
        (items.map fun item => (if counts row item then 1 else 0) * f item).sum := by
      clear ih
      induction items with
      | nil => rfl
      | cons item items ih' =>
        by_cases hcounts : counts row item <;> simp [hcounts] at ih' ⊢ <;> exact ih'
    rw [List.map_cons, List.sum_cons, ih, hfirst, ← List.sum_map_add]
    congr 1
    refine List.map_congr_left fun item _ => ?_
    rw [List.countP_cons]
    by_cases hcounts : counts row item
    · simp only [hcounts, if_true]
      push_cast
      ring
    · simp [hcounts]

theorem reservationCovers_sum (z : Zone) (horizonStart : Time) (horizonDays : Nat)
    (orders : List HistoricalOrder) (entries : List CalendarEntry)
    (reservations : List Reservation) :
    ((buildDaypartSummaries z horizonStart horizonDays orders entries reservations).map
        (·.reservationCovers)).sum =
      (reservations.map fun r => rowsOf z horizonStart horizonDays r * r.partySize).sum := by
  refine Eq.trans ?_ (sum_filter_countP (rows z horizonStart horizonDays) reservations
    (fun row => countsFor z row.1 row.2) (·.partySize))
  simp only [buildDaypartSummaries, List.map_map]
  rfl

/-- Reservations whose dates are of one day of the horizon each: those of the afternoon count
in no row, and every other in one. -/
theorem reservations_counted (orders : List HistoricalOrder) (entries : List CalendarEntry)
    {reservations : List Reservation}
    (hdays : ∀ r ∈ reservations, daysOf z horizonStart horizonDays r = 1) :
    ((buildDaypartSummaries z horizonStart horizonDays orders entries reservations).map
        (·.reservationCovers)).sum =
        ((reservations.filter fun r => r.daypart z != .afternoon).map (·.partySize)).sum ∧
      ∀ r ∈ reservations, rowsOf z horizonStart horizonDays r =
        if r.daypart z = .afternoon then 0 else 1 := by
  have hrows (r : Reservation) (hr : r ∈ reservations) :
      rowsOf z horizonStart horizonDays r = if r.daypart z = .afternoon then 0 else 1 := by
    rw [rowsOf_eq, hdays r hr]
  refine ⟨?_, hrows⟩
  rw [reservationCovers_sum]
  clear hdays
  induction reservations with
  | nil => rfl
  | cons r reservations ih =>
    have hfirst := hrows r (.head _)
    have hrest := ih fun other hother => hrows other (.tail _ hother)
    by_cases hafternoon : r.daypart z = .afternoon <;> simp [hafternoon, hfirst, hrest]

/-- Where the server's clock shows UTC, the dates of the days follow one another. -/
theorem daysOf_utc {day : Nat} (hstart : midnight day ≤ reservation.reservationAt)
    (hend : reservation.reservationAt < midnight (day + horizonDays)) :
    daysOf .utc (midnight day) horizonDays reservation = 1 := by
  let date : Nat := reservation.reservationAt / 86400000
  have hfirst : day ≤ date := (Nat.le_div_iff_mul_le (by decide)).mpr hstart
  have hlast : date < day + horizonDays := (Nat.div_lt_iff_lt_mul (by decide)).mpr hend
  have hdate (d : Nat) :
      (dayOf reservation.reservationAt == dayOf (Zone.utc.addDays (midnight day) d)) =
        (d == date - day) := by
    have hday : dayOf (Zone.utc.addDays (midnight day) d) = day + d := by
      simp only [Zone.addDays, Zone.utc, id, midnight, ← Nat.add_mul]
      exact Nat.mul_div_cancel _ (by decide)
    rw [hday, Bool.eq_iff_iff, beq_iff_eq, beq_iff_eq]
    change date = day + d ↔ d = date - day
    omega
  have hmem : date - day ∈ List.range horizonDays := List.mem_range.mpr (by omega)
  simp only [daysOf, hdate]
  exact List.count_eq_one_of_mem List.nodup_range hmem

/-- Breakfast on the first day of two, and dinner on the second. -/
theorem reservations_counted_utc :
    let reservations : List Reservation :=
      [⟨4, midnight 100 + 8 * 3600000⟩, ⟨6, midnight 101 + 19 * 3600000⟩,
        ⟨3, midnight 101 + 15 * 3600000⟩]
    ((buildDaypartSummaries .utc (midnight 100) 2 [] [] reservations).map
        (·.reservationCovers)).sum = 10 ∧
      ∀ r ∈ reservations, rowsOf .utc (midnight 100) 2 r =
        if r.daypart .utc = .afternoon then 0 else 1 := by
  intro reservations
  have hdays : ∀ r ∈ reservations, daysOf .utc (midnight 100) 2 r = 1 := by
    intro r hr
    simp only [reservations, List.mem_cons, List.not_mem_nil, or_false] at hr
    rcases hr with rfl | rfl | rfl <;> exact daysOf_utc (by decide) (by decide)
  exact reservations_counted [] [] hdays

/-- A table for four at half past three. -/
theorem afternoon_lost :
    ¬ ∀ (z : Zone) (day : Day) (horizonDays : Nat) (reservations : List Reservation),
      (∀ r ∈ reservations, midnight day ≤ r.reservationAt ∧
        r.reservationAt < midnight (day + horizonDays)) →
      ((buildDaypartSummaries z (midnight day) horizonDays [] [] reservations).map
          (·.reservationCovers)).sum = (reservations.map (·.partySize)).sum ∧
        ∀ r ∈ reservations, rowsOf z (midnight day) horizonDays r = 1 := by
  intro h
  have hlost := (h .utc 100 1 [⟨4, midnight 100 + 15 * 3600000 + 1800000⟩] (by decide)).1
  exact absurd hlost (by decide +kernel)

-- ---
-- Baselines
-- ---

/-- The covers of the four weeks, over four. -/
def weeklyAverage (historical : List Nat) : Int := mathRound ((historical.sum : ℚ) / 4)

/-- `sum / weeks`, rounded. -/
def rounded (sum weeks : Nat) : Nat := (2 * sum + weeks) / (2 * weeks)

theorem mathRound_div (sum weeks : Nat) (hweeks : 0 < weeks) :
    mathRound ((sum : ℚ) / weeks) = rounded sum weeks := by
  have hsum : (sum : ℚ) / weeks + 1 / 2 = ((2 * sum + weeks : Nat) : ℚ) / (2 * weeks : Nat) := by
    have hne : (weeks : ℚ) ≠ 0 := by exact_mod_cast Nat.ne_of_gt hweeks
    push_cast
    field_simp
  rw [mathRound, hsum, Rat.floor_natCast_div_natCast, rounded, Int.natCast_ediv]

theorem weeklyAverage_eq (historical : List Nat) :
    weeklyAverage historical = rounded historical.sum 4 :=
  mathRound_div historical.sum 4 (by decide)

theorem avgWeeks_eq {historical : List Nat} (h : 0 < historical.length) :
    avgWeeks historical = ((historical.length + 3) / 4 : Nat) := by
  have hceil : ⌈(historical.length : ℚ) / 4⌉ = -((-(historical.length : Int)) / (4 : Nat)) :=
    Rat.ceil_natCast_div_natCast historical.length 4
  rw [avgWeeks, if_pos h, hceil]
  omega

theorem baselineCovers_eq (historical : List Nat) (h : 0 < historical.length) :
    baselineCovers historical = rounded historical.sum ((historical.length + 3) / 4) := by
  rw [baselineCovers, if_pos h, avgWeeks_eq h]
  exact mathRound_div historical.sum _ (by omega)

/-- The numbers of orders and of covers whose baseline is their weekly average. -/
def Weekly (orders covers : Nat) : Prop :=
  orders = 0 ∨ (13 ≤ orders ∧ orders ≤ 16) ∨ (covers = 10 ∧ (orders = 9 ∨ orders = 10))

/-- And does not fall with a further order. -/
def Steady (orders covers : Nat) : Prop :=
  orders = 0 ∨ (13 ≤ orders ∧ orders ≤ 15) ∨ (orders = 16 ∧ covers = 17) ∨
    (covers = 10 ∧ (orders = 9 ∨ orders = 10))

/-- Of six weeks or more the average is lower than of four. -/
theorem rounded_lt {sum weeks : Nat} (hweeks : 6 ≤ weeks) (hsum : 4 * weeks ≤ sum + 3) :
    rounded sum weeks < rounded sum 4 := by
  rw [rounded, Nat.div_lt_iff_lt_mul (by omega)]
  have hfour : 2 * sum ≤ 8 * rounded sum 4 + 3 := by
    unfold rounded
    omega
  nlinarith

theorem rounded_weeks {orders covers : Nat} (horders : 0 < orders) (hcovers : orders ≤ covers) :
    rounded covers ((orders + 3) / 4) = rounded covers 4 ↔ Weekly orders covers := by
  generalize hweeks : (orders + 3) / 4 = weeks
  unfold Weekly
  by_cases hmany : 6 ≤ weeks
  · have hlt : rounded covers weeks < rounded covers 4 := rounded_lt hmany (by omega)
    constructor <;> intro h <;> omega
  · -- One to five weeks, in numbers.
    have hfew : weeks = 1 ∨ weeks = 2 ∨ weeks = 3 ∨ weeks = 4 ∨ weeks = 5 := by omega
    unfold rounded
    rcases hfew with rfl | rfl | rfl | rfl | rfl <;> constructor <;> intro h <;> omega

theorem one_le_covers (order : HistoricalOrder) : 1 ≤ covers order := by
  simp only [covers]
  split <;> omega

variable {orders : List HistoricalOrder} {dow : Nat} {dp : Daypart}

/-- An order counts for one cover at least. -/
theorem length_le_sum (z : Zone) (orders : List HistoricalOrder) (dow : Nat) (dp : Daypart) :
    (historicalByDayDaypart z orders dow dp).length ≤
      (historicalByDayDaypart z orders dow dp).sum := by
  simp only [historicalByDayDaypart]
  induction orders.filter _ with
  | nil => simp
  | cons order rest ih =>
    have hone := one_le_covers order
    simp only [List.map_cons, List.length_cons, List.sum_cons]
    omega

theorem historicalByDayDaypart_append (z : Zone) (orders : List HistoricalOrder)
    (order : HistoricalOrder) (dow : Nat) (dp : Daypart) :
    historicalByDayDaypart z (orders ++ [order]) dow dp =
      historicalByDayDaypart z orders dow dp ++
        if z.getDay order.createdAt = dow ∧ hourToDaypart (z.getHours order.createdAt) = dp then
          [covers order] else [] := by
  by_cases hslot : z.getDay order.createdAt = dow ∧ hourToDaypart (z.getHours order.createdAt) = dp
  · simp [historicalByDayDaypart, hslot]
  · have hout : (z.getDay order.createdAt == dow &&
        hourToDaypart (z.getHours order.createdAt) == dp) = false := by
      simpa using hslot
    simp [historicalByDayDaypart, hslot, hout]

/-- Covers are counted of an order at their weekday and daypart. -/
theorem exists_sold (h : 0 < (historicalByDayDaypart z orders dow dp).length) :
    ∃ order : HistoricalOrder,
      z.getDay order.createdAt = dow ∧ hourToDaypart (z.getHours order.createdAt) = dp := by
  rw [historicalByDayDaypart, List.length_map] at h
  obtain ⟨order, horder⟩ := List.exists_mem_of_length_pos h
  simp only [List.mem_filter, Bool.and_eq_true, beq_iff_eq] at horder
  exact ⟨order, horder.2⟩

theorem Steady.weekly {counted sold : Nat} (h : Steady counted sold) : Weekly counted sold := by
  unfold Steady at h
  unfold Weekly
  omega

theorem baseline_weekly {historical : List Nat} (h : historical.length ≤ historical.sum) :
    baselineCovers historical = weeklyAverage historical ↔
      Weekly historical.length historical.sum := by
  rw [weeklyAverage_eq]
  rcases Nat.eq_zero_or_pos historical.length with hnone | hsome
  · have hempty := List.length_eq_zero_iff.mp hnone
    subst hempty
    exact iff_of_true rfl (.inl rfl)
  · rw [baselineCovers_eq _ hsome, ← rounded_weeks hsome h]
    exact_mod_cast Iff.rfl

/-- A further order that counts for some covers. -/
theorem baseline_grows {historical : List Nat} (h : historical.length ≤ historical.sum)
    (hsteady : Steady historical.length historical.sum) (hadded : 1 ≤ added) :
    baselineCovers historical ≤ baselineCovers (historical ++ [added]) := by
  rw [baselineCovers_eq (historical ++ [added]) (by simp)]
  simp only [List.length_append, List.length_singleton, List.sum_append, List.sum_singleton]
  rcases Nat.eq_zero_or_pos historical.length with hnone | hsome
  · have hempty := List.length_eq_zero_iff.mp hnone
    subst hempty
    exact Int.natCast_nonneg _
  · rw [baselineCovers_eq _ hsome, Int.ofNat_le]
    generalize historical.length = orders at *
    generalize historical.sum = sold at *
    unfold Steady at hsteady
    unfold rounded
    rcases hsteady with rfl | ⟨hlow, hhigh⟩ | ⟨rfl, rfl⟩ | ⟨rfl, rfl | rfl⟩
    · cases hsome
    · have hweeks : (orders + 3) / 4 = 4 := by omega
      have hnext : (orders + 1 + 3) / 4 = 4 := by omega
      rw [hweeks, hnext]
      omega
    · omega
    · omega
    · omega

/-- A seventeenth order of one cover takes a fifth week, and the average down. -/
theorem baseline_falls {historical : List Nat} (h : historical.length ≤ historical.sum)
    (hlength : historical.length = 16) (hsum : historical.sum ≠ 17) :
    baselineCovers (historical ++ [1]) < baselineCovers historical := by
  rw [baselineCovers_eq (historical ++ [1]) (by simp),
    baselineCovers_eq historical (by omega), Int.ofNat_lt]
  simp only [List.length_append, List.length_singleton, List.sum_append, List.sum_singleton,
    hlength, rounded]
  omega

/-- The baseline of a weekday and a daypart is the weekly average of the four weeks exactly
for so many orders and covers, and does not fall with a further order exactly for these. -/
theorem baseline_iff (z : Zone) (orders : List HistoricalOrder) (entries : List CalendarEntry)
    (reservations : List Reservation) (date : Time) (dp : Daypart) :
    let sold := historicalByDayDaypart z orders (z.getDay date) dp
    let baseline (orders : List HistoricalOrder) :=
      (daypartSummary z orders entries reservations date dp).baselineCovers
    (baseline orders = weeklyAverage sold ↔ Weekly sold.length sold.sum) ∧
      (baseline orders = weeklyAverage sold ∧
          (∀ order, baseline orders ≤ baseline (orders ++ [order])) ↔
        Steady sold.length sold.sum) := by
  intro sold baseline
  have hcovers : sold.length ≤ sold.sum := length_le_sum z orders (z.getDay date) dp
  have hbaseline (orders : List HistoricalOrder) :
      baseline orders = baselineCovers (historicalByDayDaypart z orders (z.getDay date) dp) := rfl
  refine ⟨baseline_weekly hcovers, ?_⟩
  constructor
  · rintro ⟨haverage, hgrows⟩
    rcases (baseline_weekly hcovers).mp haverage with hnone | ⟨hlow, hhigh⟩ | hten
    · exact .inl hnone
    · by_cases hfull : sold.length = 16
      · refine .inr (.inr (.inl ⟨hfull, ?_⟩))
        by_contra hsum
        -- An order without items at the time of one that is sold.
        obtain ⟨order, hslot⟩ := exists_sold (by omega : 0 < sold.length)
        have hfurther := hgrows ⟨order.createdAt, []⟩
        rw [hbaseline, hbaseline, historicalByDayDaypart_append, if_pos hslot] at hfurther
        exact absurd hfurther (not_le.mpr (baseline_falls hcovers hfull hsum))
      · exact .inr (.inl ⟨hlow, by omega⟩)
    · exact .inr (.inr (.inr hten))
  · intro hsteady
    refine ⟨(baseline_weekly hcovers).mpr hsteady.weekly, fun order => ?_⟩
    rw [hbaseline, hbaseline, historicalByDayDaypart_append]
    split
    · exact baseline_grows hcovers hsteady (one_le_covers order)
    · simp

/-- An order of `quantity` items at noon on day 4, a Monday. -/
def lunchOrder (quantity : Nat) : HistoricalOrder := ⟨midnight 4 + 12 * 3600000, [⟨quantity, []⟩]⟩

/-- One order of eight in four weeks is two covers a week, and the baseline is eight. -/
theorem baseline_not_weekly :
    ¬ ∀ (z : Zone) (orders : List HistoricalOrder) (date : Time) (dp : Daypart),
      let sold := historicalByDayDaypart z orders (z.getDay date) dp
      let baseline (orders : List HistoricalOrder) :=
        (daypartSummary z orders [] [] date dp).baselineCovers
      baseline orders = weeklyAverage sold ∧
        ∀ order, baseline orders ≤ baseline (orders ++ [order]) := by
  intro h
  exact absurd (h .utc [lunchOrder 8] (midnight 32) .lunch).1 (by decide +kernel)

-- A fifth order, of one cover, nearly halves the baseline of four orders of ten.
example : (daypartSummary .utc (List.replicate 4 (lunchOrder 10)) [] [] (midnight 32)
      .lunch).baselineCovers = 40 ∧
    (daypartSummary .utc (List.replicate 4 (lunchOrder 10) ++ [lunchOrder 1]) [] [] (midnight 32)
      .lunch).baselineCovers = 21 := by
  decide +kernel

end NimbusPos.ForecastService
