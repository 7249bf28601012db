import Mathlib.Data.List.Infix
import Mathlib.Data.List.Sort
import Mathlib.Data.Rat.Floor
import Mathlib.Tactic.FieldSimp
import NimbusPos.Accounting.Schema

/-!
# Forecasts

Covers are projected for each day of a horizon and each daypart, from what was sold in the
four weeks before, the demand calendar and the reservations; and what the covers use of each
item, from the recipes of what was sold. Numbers are exact, and a calendar date is its day.
-/

namespace NimbusPos.ForecastService

open Lib

-- ---
-- The server's clock
-- ---

/-- The server's time zone: what its clock shows at an instant, and the instant at which it
shows a time. Both are counted as if the clock showed UTC. -/
structure Zone where
  toLocal : Time → Time
  ofLocal : Time → Time

namespace Zone

def utc : Zone := ⟨id, id⟩

def getHours (z : Zone) (t : Time) : Nat := z.toLocal t / 3600000 % 24

/-- Sunday is 0; the epoch was a Thursday. -/
def getDay (z : Zone) (t : Time) : Nat := (dayOf (z.toLocal t) + 4) % 7

/-- `setDate(getDate() + days)` -/
def addDays (z : Zone) (t : Time) (days : Nat) : Time := z.ofLocal (z.toLocal t + midnight days)

end Zone

-- ---
-- What is read
-- ---

inductive Daypart
  | breakfast
  | lunch
  | afternoon
  | dinner
  | lateNight
  | allDay
  deriving DecidableEq, Repr

def Daypart.toString : Daypart → String
  | .breakfast => "BREAKFAST"
  | .lunch => "LUNCH"
  | .afternoon => "AFTERNOON"
  | .dinner => "DINNER"
  | .lateNight => "LATE_NIGHT"
  | .allDay => "ALL_DAY"

instance : ToString Daypart := ⟨Daypart.toString⟩

structure RecipeIngredient where
  inventoryItemId : Id
  qtyPerUnit : ℚ
  wastePct : ℚ
  deriving DecidableEq, Repr

structure OrderItem where
  quantity : Nat
  recipeIngredients : List RecipeIngredient := []
  deriving DecidableEq, Repr

structure HistoricalOrder where
  createdAt : Time
  items : List OrderItem
  deriving DecidableEq, Repr

structure CalendarEntry where
  id : Id
  dateStart : Time
  dateEnd : Time
  daypart : Daypart
  calendarType : String
  expectedCovers : Option Int := none
  demandMultiplier : Option ℚ := none
  title : String
  itemNotes : Option String := none
  deriving DecidableEq, Repr

structure Reservation where
  partySize : Int
  reservationAt : Time
  deriving DecidableEq, Repr

structure InventoryItem where
  id : Id
  name : String
  unit : String
  reorderLevel : ℚ
  reorderQty : ℚ
  stockBatches : List ℚ
  deriving DecidableEq, Repr

-- ---
-- Numbers
-- ---

/-- `Math.round` -/
def mathRound (x : ℚ) : Int := ⌊x + 1 / 2⌋

/-- A number as text. -/
def numberText (x : ℚ) : String := amountText (x * 100)

/-- `parseFloat(n.toFixed(3))` -/
def round3 (n : ℚ) : ℚ := (persist (n * 1000) : ℚ) / 1000

-- ---
-- Covers
-- ---

def hourToDaypart (hour : Nat) : Daypart :=
  if 6 ≤ hour ∧ hour < 11 then .breakfast
  else if 11 ≤ hour ∧ hour < 15 then .lunch
  else if 15 ≤ hour ∧ hour < 17 then .afternoon
  else if 17 ≤ hour ∧ hour < 22 then .dinner
  else .lateNight

def dayparts : List Daypart := [.breakfast, .lunch, .dinner, .lateNight]

/-- What an order is counted as: at least one cover. -/
def covers (order : HistoricalOrder) : Nat :=
  let sold := (order.items.map (·.quantity)).sum
  if sold = 0 then 1 else sold

/-- `historicalByDayDaypart.get(key)`: the covers of the orders of a weekday and a daypart. -/
def historicalByDayDaypart (z : Zone) (orders : List HistoricalOrder) (dow : Nat) (dp : Daypart) :
    List Nat :=
  (orders.filter fun order => z.getDay order.createdAt == dow &&
    hourToDaypart (z.getHours order.createdAt) == dp).map covers

def avgWeeks (historical : List Nat) : Int :=
  max 1 ⌈if 0 < historical.length then (historical.length : ℚ) / 4 else 1⌉

def baselineCovers (historical : List Nat) : Int :=
  if 0 < historical.length then mathRound ((historical.sum : ℚ) / avgWeeks historical) else 0

/-- A calendar entry adds to the uplift of a date and a daypart, and to what drives it. -/
def addUplift (date : Time) (dp : Daypart) (baseline : Int) (uplift : Int × List String)
    (entry : CalendarEntry) : Int × List String :=
  if entry.dateStart ≤ date ∧ date ≤ entry.dateEnd ∧ (entry.daypart = .allDay ∨ entry.daypart = dp)
  then
    let multiplier := entry.demandMultiplier.getD (13 / 10)
    let added := uplift.1 + mathRound (baseline * (multiplier - 1))
    let raised := match entry.expectedCovers with
      | some expected => if expected = 0 then added else max added expected
      | none => added
    (raised, uplift.2 ++ [entry.calendarType ++ ": " ++ entry.title])
  else uplift

/-- The reservation counts for a row: by its date in UTC, and its hour on the server's clock. -/
def countsFor (z : Zone) (date : Time) (dp : Daypart) (reservation : Reservation) : Bool :=
  dayOf reservation.reservationAt == dayOf date &&
    hourToDaypart (z.getHours reservation.reservationAt) == dp

def reservationCovers (z : Zone) (date : Time) (dp : Daypart) (reservations : List Reservation) :
    Int :=
  ((reservations.filter (countsFor z date dp)).map (·.partySize)).sum

def weekdayNames : List String :=
  ["Sunday", "Monday", "Tuesday", "Wednesday", "Thursday", "Friday", "Saturday"]

structure DaypartSummary where
  daypart : Daypart
  date : Day
  baselineCovers : Int
  calendarUplift : Int
  reservationCovers : Int
  projectedCovers : Int
  isBusy : Bool
  busyReason : Option String
  demandDrivers : List String
  deriving DecidableEq, Repr

def busyReasons (dow : Nat) (dp : Daypart) (baseline uplift reserved : Int)
    (drivers : List String) : List String :=
  let reasons :=
    (if 0 < uplift then ["demand calendar: " ++ ", ".intercalate drivers] else []) ++
    if (reserved : ℚ) > baseline * (3 / 10) then [toString reserved ++ " reservation covers"]
      else []
  if reasons.isEmpty then
    [weekdayNames.getD dow "" ++ " " ++ toString dp ++ " historically busy"]
  else reasons

/-- The row of a date and a daypart. -/
def daypartSummary (z : Zone) (orders : List HistoricalOrder) (entries : List CalendarEntry)
    (reservations : List Reservation) (date : Time) (dp : Daypart) : DaypartSummary :=
  let dow := z.getDay date
  let baseline := baselineCovers (historicalByDayDaypart z orders dow dp)
  let (uplift, drivers) := entries.foldl (addUplift date dp baseline) (0, [])
  let reserved := reservationCovers z date dp reservations
  let projected := baseline + uplift + reserved
  let busyThreshold : ℚ := max (baseline * (13 / 10)) (baseline + 20)
  let isBusy := decide ((projected : ℚ) > busyThreshold) && decide (projected > 0)
  { daypart := dp, date := dayOf date, baselineCovers := baseline, calendarUplift := uplift
    reservationCovers := reserved, projectedCovers := projected, isBusy
    busyReason :=
      if isBusy then some ("; ".intercalate (busyReasons dow dp baseline uplift reserved drivers))
      else none
    demandDrivers := drivers }

/-- The rows of a horizon, by day and daypart. -/
def rows (z : Zone) (horizonStart : Time) (horizonDays : Nat) : List (Time × Daypart) :=
  (List.range horizonDays).flatMap fun d => dayparts.map fun dp => (z.addDays horizonStart d, dp)

def buildDaypartSummaries (z : Zone) (horizonStart : Time) (horizonDays : Nat)
    (orders : List HistoricalOrder) (entries : List CalendarEntry)
    (reservations : List Reservation) : List DaypartSummary :=
  (rows z horizonStart horizonDays).map fun row =>
    daypartSummary z orders entries reservations row.1 row.2

-- ---
-- Items
-- ---

inductive Urgency
  | urgentLocalBuy
  | stockUpBeforeEvent
  | transferFromBranch
  | orderNextPo
  | monitor
  deriving DecidableEq, Repr

structure ItemUsageProjection where
  inventoryItemId : Id
  itemName : String
  unit : String
  projectedUsage : ℚ
  currentStock : ℚ
  inboundStock : ℚ
  safetyStock : ℚ
  leadTimeDays : Nat
  deficit : ℚ
  urgency : Urgency
  suggestedAction : String
  rationale : String
  linkedCalendarEntryId : Option Id
  daypart : Option Daypart
  deriving DecidableEq, Repr

/-- What an order item uses of an inventory item, waste included. -/
def itemUsage (inventoryItemId : Id) (item : OrderItem) : ℚ :=
  let used (ingredient : RecipeIngredient) : ℚ :=
    ingredient.qtyPerUnit * item.quantity * (1 + ingredient.wastePct / 100)
  ((item.recipeIngredients.filter (·.inventoryItemId == inventoryItemId)).map used).sum

def historicalUsage (orders : List HistoricalOrder) (inventoryItemId : Id) : ℚ :=
  ((orders.flatMap (·.items)).map (itemUsage inventoryItemId)).sum

def totalHistCovers (orders : List HistoricalOrder) : Nat :=
  ((orders.flatMap (·.items)).map (·.quantity)).sum

def coverMultiplier (orders : List HistoricalOrder) (totalProjectedCovers : Int)
    (horizonDays : Nat) : ℚ :=
  let avgDailyCovers : ℚ :=
    if 0 < totalHistCovers orders then totalHistCovers orders / (max 1 horizonDays : Nat) else 0
  if 0 < avgDailyCovers then totalProjectedCovers / (avgDailyCovers * horizonDays) else 1

section

-- `String.toLowerCase` is the language's.
variable (toLowerCase : String → String)

/-- The note names the item. -/
def mentions (note : String) (item : InventoryItem) : Bool :=
  decide ((toLowerCase item.name).toList <:+: (toLowerCase note).toList)

/-- Some entry has a note that names the item. -/
def mentioned (entries : List CalendarEntry) (item : InventoryItem) : Bool :=
  entries.any fun entry =>
    entry.itemNotes.any fun note => !note.isEmpty && mentions toLowerCase note item

def projectedUsage (orders : List HistoricalOrder) (totalProjectedCovers : Int)
    (entries : List CalendarEntry) (horizonDays : Nat) (item : InventoryItem) : ℚ :=
  let dailyUsage := historicalUsage orders item.id / max 1 28
  let usage := dailyUsage * horizonDays * coverMultiplier orders totalProjectedCovers horizonDays
  if mentioned toLowerCase entries item then usage * (3 / 2) else usage

def classifyUrgency (deficit currentStock safetyStock projectedUsage : ℚ) (horizonDays : Nat)
    (mentionedInCalendar : Bool) : Urgency :=
  let runsOutWithin (days : ℚ) : Bool :=
    decide (0 < projectedUsage) && decide (currentStock / (projectedUsage / horizonDays) < days)
  if runsOutWithin 1 then .urgentLocalBuy
  else if mentionedInCalendar && decide (0 < deficit) then .stockUpBeforeEvent
  else if runsOutWithin 2 && decide (0 < deficit) then .urgentLocalBuy
  else if 0 < deficit ∧ currentStock ≤ safetyStock then .orderNextPo
  else if 0 < deficit then .orderNextPo
  else if currentStock ≤ safetyStock * (6 / 5) then .monitor
  else .monitor

def urgencyToPriority : Urgency → Nat
  | .urgentLocalBuy => 1
  | .stockUpBeforeEvent => 2
  | .transferFromBranch => 3
  | .orderNextPo => 4
  | .monitor => 5

def buildSuggestedAction (urgency : Urgency) (itemName : String) (qty : Int) : String :=
  match urgency with
  | .urgentLocalBuy => "Urgent local buy: " ++ toString qty ++ " units of " ++ itemName ++
      " — likely to run out before end of shift"
  | .stockUpBeforeEvent =>
    "Stock up tomorrow: " ++ toString qty ++ " units of " ++ itemName ++ " before upcoming event"
  | .orderNextPo => "Add " ++ toString qty ++ " units of " ++ itemName ++ " to next purchase order"
  | .transferFromBranch => "Request branch transfer: " ++ toString qty ++ " units of " ++ itemName
  | .monitor => "Monitor " ++ itemName ++ " — stock approaching safety level"

def buildRationale (name unit : String) (currentStock projectedUsage safetyStock deficit : ℚ)
    (urgency : Urgency) (calendarType : Option String) : String :=
  let amount (x : ℚ) := numberText (round3 x) ++ " " ++ unit
  let parts := ["Current stock: " ++ amount currentStock,
      "Projected usage over horizon: " ++ amount projectedUsage,
      "Safety stock: " ++ amount safetyStock] ++
    (if 0 < deficit then ["Projected deficit: " ++ amount deficit] else []) ++
    (match calendarType with
      | some type => if type.isEmpty then [] else ["Linked to demand calendar event: " ++ type]
      | none => []) ++
    match urgency with
    | .urgentLocalBuy =>
      [name ++ " is likely to run out before replenishment — urgent local buy recommended"]
    | .stockUpBeforeEvent => ["Stock up before event to avoid shortage"]
    | _ => []
  ". ".intercalate parts ++ "."

/-- One round of the loop over the items; an item with stock enough has no projection. -/
def projectItem (orders : List HistoricalOrder) (totalProjectedCovers : Int)
    (entries : List CalendarEntry) (horizonDays : Nat) (item : InventoryItem) :
    Option ItemUsageProjection :=
  let usage := projectedUsage toLowerCase orders totalProjectedCovers entries horizonDays item
  let currentStock := item.stockBatches.sum
  let safetyStock := item.reorderLevel
  let deficit := usage - (currentStock - safetyStock)
  if deficit ≤ 0 ∧ currentStock > safetyStock then none
  else
    let isMentioned := mentioned toLowerCase entries item
    let urgency := classifyUrgency deficit currentStock safetyStock usage horizonDays isMentioned
    let linkedEntry := if isMentioned then
      entries.find? fun entry => entry.itemNotes.any (mentions toLowerCase · item) else none
    some
      { inventoryItemId := item.id, itemName := item.name, unit := item.unit
        projectedUsage := usage, currentStock, inboundStock := 0, safetyStock, leadTimeDays := 1
        deficit := max 0 deficit, urgency
        suggestedAction := buildSuggestedAction urgency item.name
          ⌈if 0 < deficit then deficit else item.reorderQty⌉
        rationale := buildRationale item.name item.unit currentStock usage safetyStock deficit
          urgency (linkedEntry.map (·.calendarType))
        linkedCalendarEntryId := linkedEntry.map (·.id), daypart := none }

def projectItemUsage (items : List InventoryItem) (orders : List HistoricalOrder)
    (totalProjectedCovers : Int) (entries : List CalendarEntry) (horizonDays : Nat) :
    List ItemUsageProjection :=
  (items.filterMap (projectItem toLowerCase orders totalProjectedCovers entries
    horizonDays)).insertionSort
    fun a b => urgencyToPriority a.urgency ≤ urgencyToPriority b.urgency

end

def getHorizonDays (horizon : String) : Nat :=
  if horizon = "TODAY" then 1
  else if horizon = "THREE_DAY" then 3
  else if horizon = "SEVEN_DAY" then 7
  else 3

end NimbusPos.ForecastService

/-!
# Usage of a forecast

The usage of an item is averaged over 28 days, and the covers over as many days as the horizon
has. The horizon cancels out of the covers, so what is left is the usage of the covers that are
projected, by the horizon's share of 28 days.
-/

namespace NimbusPos.ForecastService

open Lib

variable {toLowerCase : String → String} {items : List InventoryItem}
  {orders : List HistoricalOrder} {totalProjectedCovers : Int} {entries : List CalendarEntry}
  {horizonDays : Nat} {item : InventoryItem} {p : ItemUsageProjection}

/-- What a cover of the history used of an item. -/
def usagePerCover (orders : List HistoricalOrder) (inventoryItemId : Id) : ℚ :=
  historicalUsage orders inventoryItemId / totalHistCovers orders

theorem coverMultiplier_eq (hcovers : 0 < totalHistCovers orders) (hdays : 0 < horizonDays) :
    coverMultiplier orders totalProjectedCovers horizonDays =
      totalProjectedCovers / totalHistCovers orders := by
  have hcovers' : (0 : ℚ) < totalHistCovers orders := by exact_mod_cast hcovers
  have hdays' : (0 : ℚ) < horizonDays := by exact_mod_cast hdays
  have hmax : max 1 horizonDays = horizonDays := Nat.max_eq_right hdays
  have havg : (0 : ℚ) < totalHistCovers orders / horizonDays := div_pos hcovers' hdays'
  simp only [coverMultiplier, hmax, if_pos hcovers, if_pos havg]
  rw [div_mul_cancel₀ _ (ne_of_gt hdays')]

/-- The usage of the projected covers, by the horizon's share of 28 days. -/
theorem projectedUsage_eq (hcovers : 0 < totalHistCovers orders) (hdays : 0 < horizonDays)
    (hmentioned : mentioned toLowerCase entries item = false) :
    projectedUsage toLowerCase orders totalProjectedCovers entries horizonDays item =
      usagePerCover orders item.id * totalProjectedCovers * (horizonDays / 28) := by
  simp only [projectedUsage, hmentioned, Bool.false_eq_true, if_false,
    coverMultiplier_eq hcovers hdays, usagePerCover]
  have hmax : max (1 : ℚ) 28 = 28 := by norm_num
  rw [hmax]
  ring

theorem mem_projectItemUsage :
    p ∈ projectItemUsage toLowerCase items orders totalProjectedCovers entries horizonDays ↔
      ∃ item ∈ items,
        projectItem toLowerCase orders totalProjectedCovers entries horizonDays item = some p := by
  rw [projectItemUsage, List.mem_insertionSort, List.mem_filterMap]

theorem projectItem_some
    (h : projectItem toLowerCase orders totalProjectedCovers entries horizonDays item = some p) :
    p.inventoryItemId = item.id ∧ p.projectedUsage =
      projectedUsage toLowerCase orders totalProjectedCovers entries horizonDays item := by
  simp only [projectItem] at h
  split at h
  · cases h
  · obtain rfl := Option.some.inj h
    exact ⟨rfl, rfl⟩

/-- What is projected for an item that no note names is what the projected covers use exactly
where the horizon has 28 days, or nothing was used, or no covers are projected. -/
theorem projectItemUsage_iff (hcovers : 0 < totalHistCovers orders) (hdays : 0 < horizonDays)
    (hp : p ∈ projectItemUsage toLowerCase items orders totalProjectedCovers entries horizonDays)
    (hmentioned : ∀ item ∈ items, item.id = p.inventoryItemId →
      mentioned toLowerCase entries item = false) :
    p.projectedUsage = usagePerCover orders p.inventoryItemId * totalProjectedCovers ↔
      horizonDays = 28 ∨ historicalUsage orders p.inventoryItemId = 0 ∨
        totalProjectedCovers = 0 := by
  obtain ⟨item, hitem, hsome⟩ := mem_projectItemUsage.mp hp
  obtain ⟨hid, husage⟩ := projectItem_some hsome
  rw [husage, projectedUsage_eq hcovers hdays (hmentioned item hitem hid.symm), ← hid,
    usagePerCover]
  have hcovers' : (totalHistCovers orders : ℚ) ≠ 0 := by exact_mod_cast Nat.ne_of_gt hcovers
  have hshare : ((horizonDays : ℚ) / 28 = 1) ↔ horizonDays = 28 := by
    rw [div_eq_one_iff_eq (by norm_num)]
    exact_mod_cast Iff.rfl
  rw [mul_right_eq_self₀, hshare]
  simp [hcovers']

/-- Twenty meals with 300 g each, and a tenth of waste. -/
def chickenOrders : List HistoricalOrder := [⟨0, [⟨20, [⟨1, 3 / 10, 10⟩]⟩]⟩]

def chicken : InventoryItem where
  id := 1
  name := "Chicken Breast"
  unit := "kg"
  reorderLevel := 10
  reorderQty := 20
  stockBatches := [8]

theorem chicken_unmentioned (p : ItemUsageProjection) :
    ∀ item ∈ [chicken], item.id = p.inventoryItemId → mentioned id [] item = false := by
  intro item _ _
  rfl

/-- Over 28 days sixty covers take 19.8 kg. -/
theorem projectItemUsage_month :
    ∃ p ∈ projectItemUsage id [chicken] chickenOrders 60 [] 28,
      p.projectedUsage = 99 / 5 ∧
        p.projectedUsage = usagePerCover chickenOrders p.inventoryItemId * (60 : Int) := by
  have husages : (projectItemUsage id [chicken] chickenOrders 60 [] 28).map (·.projectedUsage) =
      [99 / 5] := by
    decide +kernel
  obtain ⟨p, hp, husage⟩ := List.mem_map.mp (husages ▸ List.mem_singleton_self (99 / 5 : ℚ))
  exact ⟨p, hp, husage, (projectItemUsage_iff (by decide) (by decide) hp
    (chicken_unmentioned p)).mpr (.inl rfl)⟩

/-- Over three days they are said to take 2.12 kg. -/
theorem usage_by_horizon :
    ¬ ∀ (toLowerCase : String → String) (items : List InventoryItem) (orders : List HistoricalOrder)
        (totalProjectedCovers : Int) (entries : List CalendarEntry) (horizon : String)
        (p : ItemUsageProjection), 0 < totalHistCovers orders →
      p ∈ projectItemUsage toLowerCase items orders totalProjectedCovers entries
        (getHorizonDays horizon) →
      (∀ item ∈ items, item.id = p.inventoryItemId → mentioned toLowerCase entries item = false) →
      p.projectedUsage = usagePerCover orders p.inventoryItemId * totalProjectedCovers := by
  intro h
  have husages : (projectItemUsage id [chicken] chickenOrders 60 []
      (getHorizonDays "THREE_DAY")).map
      (fun p => (p.inventoryItemId, p.projectedUsage)) = [(1, 297 / 140)] := by
    decide +kernel
  obtain ⟨p, hp, husage⟩ := List.mem_map.mp
    (husages ▸ List.mem_singleton_self ((1, 297 / 140) : Id × ℚ))
  obtain ⟨hid, husage⟩ := Prod.mk.inj husage
  have hclaimed := h id [chicken] chickenOrders 60 [] "THREE_DAY" p (by decide) hp
    (chicken_unmentioned p)
  rw [husage, hid] at hclaimed
  exact absurd hclaimed (by decide +kernel)

end NimbusPos.ForecastService
