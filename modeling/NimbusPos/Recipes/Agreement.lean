import NimbusPos.Access.Guards
import NimbusPos.FranchiseAnalytics.Service
import NimbusPos.Orders.Pricing

/-!
# The cost of a recipe

`getRecipeCost` totals every row of a menu item's recipe, base rows as well as those bound to a
serving or to a modifier option. The serving that is asked for decides the selling price.
-/

namespace NimbusPos.RecipesService

open Lib Lib.Service

structure CallerInfo where
  permissions : List String
  /-- The role of the branch context, if it has one. -/
  role : Option Access.Role
  deriving DecidableEq, Repr

/-- Cost is masked for a chef unless the organization shows it; a manager or owner sees it. -/
def shouldMaskCostForCaller (caller : CallerInfo) (showCostToChef : Option Bool) : Bool :=
  match caller.role with
  | none => false
  | some role =>
    if role.level = .L4 ∨ role.level = .L5 then false
    else if role.jobRole = some "CHEF" then !(showCostToChef.getD false)
    else false

/-- The masked columns are absent. Quantities and costs are in thousandths. -/
structure RecipeCostRow where
  recipeIngredientId : Id
  qtyPerUnit : Int
  wastePct : Int
  modifierOptionId : Option Id
  menuItemServingId : Option Id
  unitCost : Option Int
  effectiveQty : Option Int
  extendedCost : Option Int
  deriving DecidableEq, Repr

/-- Total and margin are in thousandths, the percentage in hundredths. -/
structure RecipeCost where
  sellingPrice : Cents
  ingredientCount : Nat
  rows : List RecipeCostRow
  totalTheoreticalCogs : Option Int
  margin : Option Int
  marginPercent : Option Int
  deriving DecidableEq, Repr

/-- A row's branch is one of the organization of the caller's context. -/
def recipeRows (s : Store) (ctx : BranchContext) (menuItemId : Id) :
    List (Id × RecipeIngredient) :=
  s.menu.recipeIngredients.findMany fun _ row =>
    row.menuItemId == menuItemId && row.branchId == ctx.branchId

/-- The active servings in their order. -/
def activeServings (s : Store) (menuItemId : Id) : List (Id × MenuItemServing) :=
  (s.menu.servings.findMany fun _ serving =>
    serving.menuItemId == menuItemId && serving.isActive).mergeSort
      fun row row' => decide (row.2.sortOrder ≤ row'.2.sortOrder)

def sellingPrice (s : Store) (menuItemId : Id) (menuItem : MenuItem) : Option Id → Db Cents
  | some servingId => do
    let serving ← need ((activeServings s menuItemId).find? (·.1 == servingId))
      (notFound "Serving not found for this menu item")
    pure serving.2.price
  | none =>
    let defaultServing := (activeServings s menuItemId).find? (·.2.isDefault)
    pure ((defaultServing.map (·.2.price)).getD menuItem.price)

def costRow (masked : Bool) (row : Id × RecipeIngredient) : RecipeCostRow :=
  let shown (amount : Int) : Option Int := if masked then none else some amount
  { recipeIngredientId := row.1, qtyPerUnit := row.2.qtyPerUnit, wastePct := row.2.wastePct
    modifierOptionId := row.2.modifierOptionId, menuItemServingId := row.2.menuItemServingId
    unitCost := shown row.2.theoreticalUnitCost
    effectiveQty := shown (roundHalfUp (row.2.qtyPerUnit * (10000 + row.2.wastePct)) 10000)
    extendedCost := shown (roundHalfUp row.2.extCost 10000000) }

/-- `totalCogs`, before it is rounded, in units of `10⁻¹⁰`. -/
def totalCogs (ingredients : List (Id × RecipeIngredient)) : Int :=
  (ingredients.map fun row => row.2.extCost).sum

def recipeCostReport (ingredients : List (Id × RecipeIngredient)) (price : Cents) (masked : Bool) :
    RecipeCost :=
  let total := totalCogs ingredients
  let margin := price * 100000000 - total
  let shown (amount : Int) : Option Int := if masked then none else some amount
  { sellingPrice := price, ingredientCount := ingredients.length
    rows := ingredients.map (costRow masked)
    totalTheoreticalCogs := shown (roundHalfUp total 10000000)
    margin := shown (roundHalfUp margin 10000000)
    marginPercent := shown
      (if 0 < price then roundHalfUp (margin * 10000) (price * 100000000) else 0) }

def getRecipeCost (menuItemId : Id) (ctx : BranchContext) (caller : CallerInfo)
    (showCostToChef : Option Bool) (servingId : Option Id) : Db RecipeCost := do
  ensure (caller.permissions.contains "pos:cost:read")
    (forbidden "Insufficient permissions to view cost data")
  let s ← get
  let menuItem ← need ((s.menu.menuItems.get? menuItemId).filter fun item =>
      item.branchId == ctx.branchId && item.orgId == ctx.organizationId)
    (notFound "Menu item not found")
  let price ← sellingPrice s menuItemId menuItem servingId
  pure (recipeCostReport (recipeRows s ctx menuItemId) price
    (shouldMaskCostForCaller caller showCostToChef))

/-- What a call that succeeds reports of the cost. -/
theorem getRecipeCost_total
    (h : getRecipeCost menuItemId ctx caller showCostToChef servingId s = .ok report t) :
    report.totalTheoreticalCogs =
      if shouldMaskCostForCaller caller showCostToChef then none
      else some (roundHalfUp (totalCogs (recipeRows s ctx menuItemId)) 10000000) := by
  simp only [getRecipeCost, bind_ok, get_ok, need_ok, ensure_ok, pure_ok] at h
  obtain ⟨_, _, ⟨-, rfl⟩, _, _, ⟨rfl, rfl⟩, _, _, ⟨-, rfl⟩, _, _, -, rfl, -⟩ := h
  rfl

end NimbusPos.RecipesService

/-!
# Three costs of one recipe

A line's cost columns are computed from the base rows and the rows of the selected options, and
only where there is a base row. The recipe report and the waste report take every row.
`snapshot_and_reports`: the reports exceed the snapshot by the rows bound to a serving, or to an
option that is not selected.
-/

namespace NimbusPos.RecipesService

open Lib Lib.Service
open FranchiseAnalyticsService (theoreticalUnitCost)

/-- Bound neither to a serving nor to an option. -/
def isBase (row : RecipeIngredient) : Bool :=
  row.modifierOptionId.isNone && row.menuItemServingId.isNone

/-- Bound to an option that is selected. -/
def isSelected (selected : LineMetadata) (row : RecipeIngredient) : Bool :=
  row.modifierOptionId.any fun id => selected.contains (some id)

/-- The base rows, the rows of the chosen serving, and those of the selected options. -/
def applies (servingId : Option Id) (selected : LineMetadata) (row : RecipeIngredient) : Bool :=
  isSelected selected row || row.modifierOptionId.isNone &&
    (row.menuItemServingId.isNone || row.menuItemServingId == servingId)

section

variable (s : Store) (ctx : BranchContext) (menuItemId : Id)

/-- The cost of the item's rows of a kind in the branch, in units of `10⁻¹⁰`. -/
def costOf (kind : RecipeIngredient → Bool) : Int :=
  s.menu.recipeIngredients.sumWhere
    (fun _ row => row.menuItemId == menuItemId && row.branchId == ctx.branchId && kind row)
    (·.extCost)

/-- The rows a line's cost columns are computed from. -/
def snapshotCost (selected : LineMetadata) : Int :=
  costOf s ctx menuItemId fun row => isBase row || isSelected selected row

/-- The rows they leave out. -/
def leftOut (selected : LineMetadata) : Int :=
  costOf s ctx menuItemId fun row => !(isBase row || isSelected selected row)

/-- The item's rows in other branches. -/
def elsewhere : Int :=
  s.menu.recipeIngredients.sumWhere
    (fun _ row => row.menuItemId == menuItemId && row.branchId != ctx.branchId) (·.extCost)

def hasBase : Bool :=
  !(s.menu.recipeIngredients.findMany fun _ row =>
    row.menuItemId == menuItemId && row.branchId == ctx.branchId && isBase row).isEmpty

end

/-- The three costs are that of the rows that apply. -/
structure CostsAgree (s : Store) (ctx : BranchContext) (menuItemId : Id) (servingId : Option Id)
    (selected : LineMetadata) (pricing : LinePricing) : Prop where
  snapshot : pricing.costUnit =
    some (roundHalfUp (costOf s ctx menuItemId (applies servingId selected)) 100000000)
  report : selected.reduceOption = [] →
    totalCogs (recipeRows s ctx menuItemId) = costOf s ctx menuItemId (applies servingId selected)
  waste : theoreticalUnitCost s menuItemId =
    costOf s ctx menuItemId (applies servingId selected)

variable {s : Store} {ctx : BranchContext} {menuItemId : Id} {selected : LineMetadata}

-- ---
-- Sums over kinds of rows
-- ---

theorem costOf_split (kind : RecipeIngredient → Bool) :
    totalCogs (recipeRows s ctx menuItemId) =
      costOf s ctx menuItemId kind + costOf s ctx menuItemId fun row => !kind row := by
  have hall : totalCogs (recipeRows s ctx menuItemId) = s.menu.recipeIngredients.sumWhere
      (fun _ row => row.menuItemId == menuItemId && row.branchId == ctx.branchId) (·.extCost) := rfl
  rw [hall, costOf, costOf]
  simp only [Table.sumWhere_eq_total, ← Table.total_add]
  refine Table.total_congr fun _ row _ => ?_
  cases kind row <;> simp

theorem theoreticalUnitCost_split : theoreticalUnitCost s menuItemId =
    totalCogs (recipeRows s ctx menuItemId) + elsewhere s ctx menuItemId := by
  have hall : totalCogs (recipeRows s ctx menuItemId) = s.menu.recipeIngredients.sumWhere
      (fun _ row => row.menuItemId == menuItemId && row.branchId == ctx.branchId) (·.extCost) := rfl
  rw [hall, theoreticalUnitCost, elsewhere]
  simp only [Table.sumWhere_eq_total, ← Table.total_add]
  refine Table.total_congr fun _ row _ => ?_
  by_cases hbranch : row.branchId = ctx.branchId <;> simp [hbranch]

/-- The rows of the snapshot come from two queries, none from both. -/
theorem snapshotCost_eq : snapshotCost s ctx menuItemId selected =
    costOf s ctx menuItemId isBase + costOf s ctx menuItemId (isSelected selected) := by
  rw [snapshotCost, costOf, costOf, costOf]
  simp only [Table.sumWhere_eq_total, ← Table.total_add]
  refine Table.total_congr fun _ row _ => ?_
  cases hmodifier : row.modifierOptionId with
  | none => simp [isSelected, hmodifier]
  | some id => simp [isBase, hmodifier]

theorem recipeCost_eq : recipeCost s ctx menuItemId selected =
    if hasBase s ctx menuItemId then some (snapshotCost s ctx menuItemId selected) else none := by
  have hbase : (fun (_ : Id) (row : RecipeIngredient) =>
      row.menuItemId == menuItemId && row.branchId == ctx.branchId &&
        row.modifierOptionId.isNone && row.menuItemServingId.isNone) =
      fun _ row => row.menuItemId == menuItemId && row.branchId == ctx.branchId && isBase row := by
    funext _ row
    simp [isBase, Bool.and_assoc]
  rw [snapshotCost_eq]
  simp only [recipeCost, hbase, hasBase, List.map_append, List.sum_append]
  by_cases hempty : (s.menu.recipeIngredients.findMany fun _ row => row.menuItemId == menuItemId &&
      row.branchId == ctx.branchId && isBase row).isEmpty = true
  · simp [hempty]
  · simp only [hempty]
    rfl

/-- The unit cost of a line that is priced. -/
theorem computeLinePricing_costUnit
    (h : Returns (computeLinePricing ctx menuItemId servingId quantity selected) s pricing) :
    pricing.costUnit =
      (recipeCost s ctx menuItemId selected).map fun cost => roundHalfUp cost 100000000 := by
  unfold Returns at h
  simp only [computeLinePricing, bind_ok, get_ok, pure_ok] at h
  obtain ⟨_, _, ⟨rfl, rfl⟩, _, _, hitem, _, _, hactive, _, _, hprice, _, _, hdelta, rfl, -⟩ := h
  cases recipeCost _ ctx menuItemId selected <;> rfl

-- ---
-- The three costs
-- ---

/-- Of a line that is priced and a report that is made: what each cost is the sum of, and that
the three are one amount where the item has base rows of its branch alone. -/
theorem snapshot_and_reports
    (hpriced : Returns (computeLinePricing ctx menuItemId servingId quantity selected) s pricing)
    (hreported : getRecipeCost menuItemId ctx caller showCostToChef reportServingId s =
      .ok report t) :
    pricing.costUnit = (if hasBase s ctx menuItemId then
      some (roundHalfUp (snapshotCost s ctx menuItemId selected) 100000000) else none) ∧
    report.totalTheoreticalCogs = (if shouldMaskCostForCaller caller showCostToChef then none else
      some (roundHalfUp (snapshotCost s ctx menuItemId selected +
        leftOut s ctx menuItemId selected) 10000000)) ∧
    theoreticalUnitCost s menuItemId = snapshotCost s ctx menuItemId selected +
      leftOut s ctx menuItemId selected + elsewhere s ctx menuItemId ∧
    ((∀ k row, s.menu.recipeIngredients.get? k = some row → row.menuItemId = menuItemId →
        row.branchId = ctx.branchId ∧ isBase row = true) →
      leftOut s ctx menuItemId selected = 0 ∧ elsewhere s ctx menuItemId = 0) := by
  have htotal : totalCogs (recipeRows s ctx menuItemId) =
      snapshotCost s ctx menuItemId selected + leftOut s ctx menuItemId selected :=
    costOf_split _
  refine ⟨?_, ?_, ?_, fun hbase => ⟨?_, ?_⟩⟩
  · rw [computeLinePricing_costUnit hpriced, recipeCost_eq]
    split <;> rfl
  · rw [getRecipeCost_total hreported, htotal]
  · rw [theoreticalUnitCost_split, htotal]
  · rw [leftOut, costOf, Table.sumWhere_eq_total]
    refine Table.total_zero fun k row hget => if_neg ?_
    simp only [Bool.and_eq_true, beq_iff_eq, Bool.not_eq_true', Bool.or_eq_false_iff]
    rintro ⟨⟨hitem, -⟩, hnot, -⟩
    rw [(hbase k row hget hitem).2] at hnot
    cases hnot
  · rw [elsewhere, Table.sumWhere_eq_total]
    refine Table.total_zero fun k row hget => if_neg ?_
    simp only [Bool.and_eq_true, beq_iff_eq, bne_iff_ne]
    rintro ⟨hitem, hother⟩
    exact hother (hbase k row hget hitem).1

/-- A burger of which the large serving has more meat. -/
def servedBurger : Store where
  menu :=
    { menuItems := Table.empty.insert { orgId := 0, branchId := 0, price := 1000 }
      servings := Table.empty.insert { menuItemId := 0, price := 1500 }
      recipeIngredients :=
        (Table.empty.insert
          { branchId := 0, menuItemId := 0, menuItemServingId := none, modifierOptionId := none
            qtyPerUnit := 1000, wastePct := 0, theoreticalUnitCost := 3000 }).insert
          { branchId := 0, menuItemId := 0, menuItemServingId := some 0, modifierOptionId := none
            qtyPerUnit := 500, wastePct := 0, theoreticalUnitCost := 2000 } }

theorem snapshot_and_reports_burger :
    theoreticalUnitCost servedBurger 0 =
      snapshotCost servedBurger { organizationId := 0, branchId := 0 } 0 [] +
        leftOut servedBurger { organizationId := 0, branchId := 0 } 0 [] +
        elsewhere servedBurger { organizationId := 0, branchId := 0 } 0 := by
  have hpriced : Returns
      (computeLinePricing { organizationId := 0, branchId := 0 } 0 (some 0) 1 []) servedBurger
      { price := 1500, subtotal := 1500, costUnit := some 300, costTotal := some 300
        marginTotal := some 1200, marginPct := some 8000 } := by
    rfl
  have hservings : activeServings servedBurger 0 = [(0, { menuItemId := 0, price := 1500 })] :=
    List.mergeSort_singleton _
  have hprice : sellingPrice servedBurger 0 { orgId := 0, branchId := 0, price := 1000 } (some 0)
      servedBurger = .ok 1500 servedBurger := by
    simp only [sellingPrice, hservings]
    rfl
  have hreported : getRecipeCost 0 { organizationId := 0, branchId := 0 }
      { permissions := ["pos:cost:read"], role := none } none (some 0) servedBurger =
        .ok (recipeCostReport (recipeRows servedBurger { organizationId := 0, branchId := 0 } 0)
          1500 false) servedBurger := by
    simp only [getRecipeCost, bind_ok, get_ok, need_ok, ensure_ok, pure_ok]
    exact ⟨(), _, ⟨rfl, rfl⟩, _, _, ⟨rfl, rfl⟩, _, _, ⟨rfl, rfl⟩, _, _, hprice, rfl, rfl⟩
  exact (snapshot_and_reports hpriced hreported).2.2.1

/-- The large serving is sold at the cost of the small one. -/
theorem serving_rows_left_out :
    ¬∀ s ctx menuItemId servingId quantity selected pricing,
      Returns (computeLinePricing ctx menuItemId servingId quantity selected) s pricing →
        CostsAgree s ctx menuItemId servingId selected pricing := by
  intro hall
  have hpriced : Returns
      (computeLinePricing { organizationId := 0, branchId := 0 } 0 (some 0) 1 []) servedBurger
      { price := 1500, subtotal := 1500, costUnit := some 300, costTotal := some 300
        marginTotal := some 1200, marginPct := some 8000 } := by
    rfl
  exact absurd (hall _ _ _ _ _ _ _ hpriced).snapshot (by decide)

end NimbusPos.RecipesService
