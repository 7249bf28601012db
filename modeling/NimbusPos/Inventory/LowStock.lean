import Mathlib.Data.List.Dedup
import NimbusPos.Inventory.Service

/-!
# Low stock

Four places say which items of a branch are low. The dashboards take the batches that are left
and compare with at most the level; the report and the franchise figures take the sum of all
batches and compare with less than it. They agree as long as no stock is exactly at its level.
-/

namespace NimbusPos.LowStock

open Lib
open InventoryService (StockBatch)

/-- Levels and quantities are in thousandths. -/
structure InventoryItem where
  orgId : Id
  branchId : Id
  sku : Option String := none
  name : String
  unit : String
  reorderLevel : Option Int := some 0
  reorderQty : Option Int := some 0
  isActive : Bool := true
  deriving DecidableEq, Repr

structure StockStore where
  items : Table InventoryItem := .empty
  stockBatches : Table StockBatch := .empty

/-- `reorderLevel: { gt: 0 }`. -/
def InventoryItem.hasLevel (item : InventoryItem) : Bool := item.reorderLevel.any fun level =>
  decide (0 < level)

namespace StockStore

variable (s : StockStore) (orgId branchId itemId : Id)

/-- The batches of the item that have something left. -/
def onHand : Int :=
  s.stockBatches.sumWhere (fun _ batch => batch.itemId == itemId && decide (0 < batch.remainingQty))
    (·.remainingQty)

def currentStock : Int :=
  s.stockBatches.sumWhere (fun _ batch => batch.itemId == itemId) (·.remainingQty)

/-- The batches of the item in the branch. -/
def totalQty : Int :=
  s.stockBatches.sumWhere (fun _ batch =>
    batch.orgId == orgId && batch.branchId == branchId && batch.itemId == itemId) (·.remainingQty)

end StockStore

-- ---
-- Dashboards
-- ---

/-- The active items with a level, of one branch or of all. -/
def leveled (s : StockStore) (orgId : Id) (branchId : Option Id) : List (Id × InventoryItem) :=
  s.items.findMany fun _ item => item.orgId == orgId && item.isActive && item.hasLevel &&
    branchId.all (item.branchId == ·)

/-- `item.reorderLevel && totalQty.lessThanOrEqualTo(item.reorderLevel)`. -/
def isLow (s : StockStore) (item : Id × InventoryItem) : Bool :=
  item.2.reorderLevel.any fun level => decide (s.onHand item.1 ≤ level)

def countLowStock (s : StockStore) (orgId : Id) (branchId : Option Id) : Nat :=
  (leveled s orgId branchId).foldl (fun count item => if isLow s item then count + 1 else count) 0

structure LowItem where
  id : Id
  name : String
  sku : Option String
  unit : String
  currentStock : Int
  reorderLevel : Option Int
  reorderQty : Option Int
  deriving DecidableEq, Repr

structure LowItems where
  count : Nat
  items : List LowItem
  deriving DecidableEq, Repr

def lowItem (s : StockStore) (item : Id × InventoryItem) : LowItem :=
  { id := item.1, name := item.2.name, sku := item.2.sku, unit := item.2.unit
    currentStock := s.onHand item.1, reorderLevel := item.2.reorderLevel
    reorderQty := item.2.reorderQty }

def getLowStock (s : StockStore) (orgId : Id) (branchId : Option Id) : LowItems :=
  let lowItems := ((leveled s orgId branchId).filter (isLow s)).map (lowItem s)
  ⟨lowItems.length, lowItems⟩

-- ---
-- Report
-- ---

structure LowStockItem where
  inventoryItemId : Id
  name : String
  unit : String
  currentStock : Int
  reorderLevel : Option Int
  reorderQty : Option Int
  belowReorderLevel : Bool
  deriving DecidableEq, Repr

structure LowStockReport where
  totalLowStockItems : Nat
  lowStockItems : List LowStockItem
  deriving DecidableEq, Repr

/-- A level is an object, so that there is one when it is zero too. -/
def lowStockItem (s : StockStore) (item : Id × InventoryItem) : LowStockItem :=
  { inventoryItemId := item.1, name := item.2.name, unit := item.2.unit
    currentStock := s.currentStock item.1, reorderLevel := item.2.reorderLevel
    reorderQty := item.2.reorderQty
    belowReorderLevel := item.2.reorderLevel.any fun level =>
      decide (s.currentStock item.1 < level) }

def generateLowStockReport (s : StockStore) (orgId branchId : Id) : LowStockReport :=
  let items := s.items.findMany fun _ item =>
    item.orgId == orgId && item.branchId == branchId && item.isActive
  let lowStockItems := (items.map (lowStockItem s)).filter (·.belowReorderLevel)
  ⟨lowStockItems.length, lowStockItems⟩

-- ---
-- Franchise figures
-- ---

/-- The items that the query of the scorecard counts. -/
def lowStockRows (s : StockStore) (orgId branchId : Id) : List Id :=
  (s.items.findMany fun itemId item =>
    item.orgId == orgId && item.branchId == branchId && item.isActive && item.hasLevel &&
      item.reorderLevel.any fun level => decide (s.totalQty orgId branchId itemId < level)).map
    (·.1)

/-- `COUNT(DISTINCT ii.id)`. -/
def lowStockCount (s : StockStore) (orgId branchId : Id) : Nat :=
  (lowStockRows s orgId branchId).dedup.length

-- ---
-- One definition
-- ---

section

variable (s : StockStore) (orgId branchId : Id)

def dashboardIds : List Id := (getLowStock s orgId (some branchId)).items.map (·.id)

def reportIds : List Id := (generateLowStockReport s orgId branchId).lowStockItems.map
  (·.inventoryItemId)

/-- All four mark the same items, and count them. -/
structure OneDefinition : Prop where
  report : ∀ itemId, itemId ∈ dashboardIds s orgId branchId ↔ itemId ∈ reportIds s orgId branchId
  franchise : ∀ itemId, itemId ∈ dashboardIds s orgId branchId ↔
    itemId ∈ lowStockRows s orgId branchId
  counts : countLowStock s orgId (some branchId) = (dashboardIds s orgId branchId).length ∧
    (getLowStock s orgId (some branchId)).count = (dashboardIds s orgId branchId).length ∧
    (generateLowStockReport s orgId branchId).totalLowStockItems =
      (dashboardIds s orgId branchId).length ∧
    lowStockCount s orgId branchId = (dashboardIds s orgId branchId).length

end

/-- What is left is below the level, or above it with the sums of all batches no lower than it; at
the level, only batches of less than nothing can bring the sums below. Without a positive level,
no sum is below it. -/
def Settled (level onHand currentStock totalQty : Int) : Prop :=
  if 0 < level then
    onHand < level ∨ (onHand = level ∧ currentStock < level ∧ totalQty < level) ∨
      (level < onHand ∧ level ≤ currentStock ∧ level ≤ totalQty)
  else level ≤ currentStock

variable {s : StockStore} {orgId branchId : Id}

theorem currentStock_le (itemId : Id) : s.currentStock itemId ≤ s.onHand itemId := by
  rw [StockStore.currentStock, StockStore.onHand, Table.sumWhere_eq_total, Table.sumWhere_eq_total]
  refine Table.total_le fun _ batch _ => ?_
  by_cases hitem : batch.itemId = itemId
  · by_cases hleft : 0 < batch.remainingQty
    · simp [hitem, hleft]
    · simp [hitem, hleft, not_lt.mp hleft]
  · simp [hitem]

theorem totalQty_le (orgId branchId itemId : Id) :
    s.totalQty orgId branchId itemId ≤ s.onHand itemId := by
  rw [StockStore.totalQty, StockStore.onHand, Table.sumWhere_eq_total, Table.sumWhere_eq_total]
  refine Table.total_le fun _ batch _ => ?_
  by_cases hitem : batch.itemId = itemId
  · by_cases hleft : 0 < batch.remainingQty
    · simp only [hitem, hleft, beq_self_eq_true, Bool.and_true, decide_true, if_true]
      split
      · exact le_refl _
      · exact hleft.le
    · simp only [hitem, hleft, beq_self_eq_true, Bool.and_true, decide_false, Bool.and_false,
        Bool.false_eq_true, if_false]
      split
      · exact not_lt.mp hleft
      · exact le_refl _
  · simp [hitem]

theorem settled_iff {level onHand currentStock totalQty : Int} (hcurrent : currentStock ≤ onHand)
    (htotal : totalQty ≤ onHand) :
    Settled level onHand currentStock totalQty ↔
      ((0 < level ∧ onHand ≤ level ↔ currentStock < level) ∧
        (0 < level ∧ onHand ≤ level ↔ 0 < level ∧ totalQty < level)) := by
  unfold Settled
  split <;> omega

-- ---
-- Which items each marks
-- ---

/-- An active item of the branch, with its level. -/
def Stocks (s : StockStore) (orgId branchId itemId : Id) (level : Int) : Prop :=
  ∃ item, s.items.get? itemId = some item ∧ item.orgId = orgId ∧ item.branchId = branchId ∧
    item.isActive = true ∧ item.reorderLevel = some level

theorem dashboardIds_eq : dashboardIds s orgId branchId =
    ((leveled s orgId (some branchId)).filter (isLow s)).map (·.1) := by
  simp only [dashboardIds, getLowStock, List.map_map]
  rfl

theorem reportIds_eq : reportIds s orgId branchId =
    ((s.items.findMany fun _ item => item.orgId == orgId && item.branchId == branchId &&
      item.isActive).filter fun item => (lowStockItem s item).belowReorderLevel).map (·.1) := by
  simp only [reportIds, generateLowStockReport, List.filter_map, List.map_map]
  rfl

theorem mem_dashboardIds : itemId ∈ dashboardIds s orgId branchId ↔
    ∃ level, Stocks s orgId branchId itemId level ∧ 0 < level ∧ s.onHand itemId ≤ level := by
  rw [dashboardIds_eq]
  simp only [leveled, isLow, InventoryItem.hasLevel, Stocks, List.mem_map, List.mem_filter,
    Prod.exists, Table.mem_findMany, Option.all_some, Option.any_eq_true, Bool.and_eq_true,
    beq_iff_eq, decide_eq_true_eq]
  constructor
  · rintro ⟨_, item, ⟨⟨hget, ⟨⟨horg, hactive⟩, level, hlevel, hpos⟩, hbranch⟩, level', hlevel',
      hlow⟩, rfl⟩
    cases hlevel.symm.trans hlevel'
    exact ⟨level, ⟨item, hget, horg, hbranch, hactive, hlevel⟩, hpos, hlow⟩
  · rintro ⟨level, ⟨item, hget, horg, hbranch, hactive, hlevel⟩, hpos, hlow⟩
    exact ⟨itemId, item, ⟨⟨hget, ⟨⟨horg, hactive⟩, level, hlevel, hpos⟩, hbranch⟩, level, hlevel,
      hlow⟩, rfl⟩

theorem mem_reportIds : itemId ∈ reportIds s orgId branchId ↔
    ∃ level, Stocks s orgId branchId itemId level ∧ s.currentStock itemId < level := by
  rw [reportIds_eq]
  simp only [lowStockItem, Stocks, List.mem_map, List.mem_filter, Prod.exists, Table.mem_findMany,
    Option.any_eq_true, Bool.and_eq_true, beq_iff_eq, decide_eq_true_eq]
  constructor
  · rintro ⟨_, item, ⟨⟨hget, ⟨horg, hbranch⟩, hactive⟩, level, hlevel, hlow⟩, rfl⟩
    exact ⟨level, ⟨item, hget, horg, hbranch, hactive, hlevel⟩, hlow⟩
  · rintro ⟨level, ⟨item, hget, horg, hbranch, hactive, hlevel⟩, hlow⟩
    exact ⟨itemId, item, ⟨⟨hget, ⟨horg, hbranch⟩, hactive⟩, level, hlevel, hlow⟩, rfl⟩

theorem mem_lowStockRows : itemId ∈ lowStockRows s orgId branchId ↔
    ∃ level, Stocks s orgId branchId itemId level ∧ 0 < level ∧
      s.totalQty orgId branchId itemId < level := by
  simp only [lowStockRows, InventoryItem.hasLevel, Stocks, List.mem_map, Prod.exists,
    Table.mem_findMany, Option.any_eq_true, Bool.and_eq_true, beq_iff_eq, decide_eq_true_eq]
  constructor
  · rintro ⟨_, item, ⟨hget, ⟨⟨⟨horg, hbranch⟩, hactive⟩, level, hlevel, hpos⟩, level', hlevel',
      hlow⟩, rfl⟩
    cases hlevel.symm.trans hlevel'
    exact ⟨level, ⟨item, hget, horg, hbranch, hactive, hlevel⟩, hpos, hlow⟩
  · rintro ⟨level, ⟨item, hget, horg, hbranch, hactive, hlevel⟩, hpos, hlow⟩
    exact ⟨itemId, item, ⟨hget, ⟨⟨⟨horg, hbranch⟩, hactive⟩, level, hlevel, hpos⟩, level, hlevel,
      hlow⟩, rfl⟩

theorem stocks_unique (h : Stocks s orgId branchId itemId level)
    (h' : Stocks s orgId branchId itemId level') : level = level' := by
  obtain ⟨item, hget, -, -, -, hlevel⟩ := h
  obtain ⟨item', hget', -, -, -, hlevel'⟩ := h'
  cases hget.symm.trans hget'
  exact Option.some.inj (hlevel.symm.trans hlevel')

-- ---
-- How many
-- ---

theorem dashboardIds_nodup : (dashboardIds s orgId branchId).Nodup := by
  rw [dashboardIds_eq]
  exact (Table.findMany_keys _ _).sublist (List.filter_sublist.map _)

theorem reportIds_nodup : (reportIds s orgId branchId).Nodup := by
  rw [reportIds_eq]
  exact (Table.findMany_keys _ _).sublist (List.filter_sublist.map _)

theorem lowStockRows_nodup : (lowStockRows s orgId branchId).Nodup := Table.findMany_keys _ _

theorem foldl_count (p : α → Bool) (as : List α) (start : Nat) :
    as.foldl (fun count a => if p a then count + 1 else count) start =
      start + (as.filter p).length := by
  induction as generalizing start with
  | nil => rfl
  | cons a as ih =>
    rw [List.foldl_cons, ih, List.filter_cons]
    split
    · rw [List.length_cons]
      omega
    · rfl

theorem countLowStock_eq : countLowStock s orgId (some branchId) =
    (dashboardIds s orgId branchId).length := by
  rw [countLowStock, foldl_count, dashboardIds_eq, List.length_map, Nat.zero_add]

-- ---
-- Agreement
-- ---

/-- The same items, so as many of them. -/
theorem oneDefinition_iff : OneDefinition s orgId branchId ↔
    ∀ itemId, (itemId ∈ dashboardIds s orgId branchId ↔ itemId ∈ reportIds s orgId branchId) ∧
      (itemId ∈ dashboardIds s orgId branchId ↔ itemId ∈ lowStockRows s orgId branchId) := by
  constructor
  · rintro h itemId
    exact ⟨h.report itemId, h.franchise itemId⟩
  · intro h
    have hreport := (List.perm_ext_iff_of_nodup dashboardIds_nodup reportIds_nodup).mpr
      fun itemId => (h itemId).1
    have hfranchise := (List.perm_ext_iff_of_nodup dashboardIds_nodup lowStockRows_nodup).mpr
      fun itemId => (h itemId).2
    refine ⟨fun itemId => (h itemId).1, fun itemId => (h itemId).2, countLowStock_eq, ?_, ?_, ?_⟩
    · rw [dashboardIds, List.length_map]
      rfl
    · rw [hreport.length_eq, reportIds, List.length_map]
      rfl
    · rw [hfranchise.length_eq, lowStockCount, List.dedup_eq_self.mpr lowStockRows_nodup]

/-- The four agree exactly when the stock of every active item of the branch is settled. -/
theorem one_definition (s : StockStore) (orgId branchId : Id) :
    OneDefinition s orgId branchId ↔ ∀ itemId level, Stocks s orgId branchId itemId level →
      Settled level (s.onHand itemId) (s.currentStock itemId)
        (s.totalQty orgId branchId itemId) := by
  rw [oneDefinition_iff]
  refine forall_congr' fun itemId => ?_
  rw [mem_dashboardIds, mem_reportIds, mem_lowStockRows]
  constructor
  · rintro ⟨hreport, hfranchise⟩ level hstocks
    have honly {P : Int → Prop} :
        (∃ other, Stocks s orgId branchId itemId other ∧ P other) ↔ P level := by
      constructor
      · rintro ⟨other, hother, hP⟩
        exact stocks_unique hother hstocks ▸ hP
      · exact fun hP => ⟨level, hstocks, hP⟩
    rw [honly, honly] at hreport hfranchise
    exact (settled_iff (currentStock_le itemId) (totalQty_le orgId branchId itemId)).mpr
      ⟨hreport, hfranchise⟩
  · intro h
    have hsettled (level : Int) (hstocks : Stocks s orgId branchId itemId level) :=
      (settled_iff (currentStock_le itemId) (totalQty_le orgId branchId itemId)).mp
        (h level hstocks)
    constructor
    · exact exists_congr fun level => and_congr_right fun hstocks => (hsettled level hstocks).1
    · exact exists_congr fun level => and_congr_right fun hstocks => (hsettled level hstocks).2

/-- One item with a level of five, and five of it left. -/
def atLevel : StockStore where
  items := Table.empty.insert
    { orgId := 0, branchId := 0, name := "Flour", unit := "kg", reorderLevel := some 5000 }
  stockBatches := Table.empty.insert
    { orgId := 0, branchId := 0, itemId := 0, receivedQty := 5000, remainingQty := 5000
      unitCost := 100, receivedAt := 0 }

/-- The dashboard marks it as low, and the report does not. -/
theorem two_definitions : ¬OneDefinition atLevel 0 0 := by
  intro h
  exact absurd ((h.report 0).mp (by decide +kernel)) (by decide +kernel)

end NimbusPos.LowStock
