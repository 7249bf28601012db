import NimbusPos.Common
import NimbusPos.Lib.Rounding

/-!
# Order totals

The discount formula that the order and the discount services share, and the
recomputation of an order from its lines.
-/

namespace NimbusPos

open Lib

/-- `value` of a percentage has two places, so the product is in units of
`10⁻⁴` cents. -/
def discountAmount (subtotal : Cents) (discount : Discount) : Cents :=
  match discount.type with
  | .percentage => roundHalfUp (subtotal * discount.value) 10000
  | .fixed => min discount.value subtotal

/-- The approved discount with the latest `approvedAt`; an approved row always
has one. -/
def Store.approvedDiscount (s : Store) (orderId : Id) : Option (Id × Discount) :=
  s.discounts.findLatest (fun _ row => row.orderId == orderId && row.status == .approved)
    (·.approvedAt.getD 0)

def Store.approvedAmount (s : Store) (orderId : Id) (subtotal : Cents) : Cents :=
  match s.approvedDiscount orderId with
  | some (_, discount) => discountAmount subtotal discount
  | none => 0

def Store.lineSum (s : Store) (orderId : Id) : Cents :=
  s.orderItems.sumWhere (fun _ item => item.orderId == orderId) (·.subtotal)

def OrdersService.recalcOrderTotals (s : Store) (orderId : Id) : Store :=
  let subtotal := s.lineSum orderId
  let discount := s.approvedAmount orderId subtotal
  s.updateOrder orderId fun order =>
    { order with subtotal, discount, total := max (subtotal - discount) 0 }

/-- Where a discount lies on a non-negative subtotal. -/
theorem discountAmount_bounds (hsub : 0 ≤ subtotal) (hvalue : 0 ≤ discount.value)
    (hpct : discount.type = .percentage → discount.value ≤ 10000) :
    0 ≤ discountAmount subtotal discount ∧ discountAmount subtotal discount ≤ subtotal := by
  unfold discountAmount
  cases htype : discount.type with
  | percentage =>
    have hle : subtotal * discount.value ≤ subtotal * 10000 :=
      Int.mul_le_mul_of_nonneg_left (hpct htype) hsub
    exact ⟨roundHalfUp_nonneg (Int.mul_nonneg hsub hvalue) (by decide),
      roundHalfUp_le (by decide) hsub hle⟩
  | fixed => exact ⟨le_min hvalue hsub, min_le_right _ _⟩

end NimbusPos

/-!
# Pricing a line

`computeLinePricing` prices one line from the menu and snapshots its cost from
the recipes. Unit prices have two places, so price times quantity needs no
rounding; only the cost and margin figures round.
-/

namespace NimbusPos

open Lib Lib.Service

structure LinePricing where
  price : Cents
  subtotal : Cents
  costUnit : Option Cents
  costTotal : Option Cents
  marginTotal : Option Cents
  marginPct : Option Int
  deriving DecidableEq, Repr

/-- The price deltas of the selected options, each option once. -/
def modifierDelta (ctx : BranchContext) (menuItemId : Id) (selectedModifiers : LineMetadata) :
    Db Cents := do
  let s ← get
  let optionIds := selectedModifiers.reduceOption.dedup
  let groupOf (option : ModifierOption) := (s.menu.modifierGroups.get? option.groupId).filter
    fun group => group.branchId == ctx.branchId && group.orgId == ctx.organizationId
  let options := s.menu.modifierOptions.findMany fun id option =>
    optionIds.contains id && (groupOf option).isSome
  ensure (options.length == optionIds.length)
    { kind := .badRequest, code := "MODIFIER_OPTION_NOT_FOUND",
      message := "One or more selected modifier options were not found for this branch." }
  ensure (options.all fun (_, option) => option.isActive && (groupOf option).any (·.isActive))
    { kind := .conflict, code := "MODIFIER_OPTION_INACTIVE",
      message := "One or more selected modifier options are not currently available." }
  let assigned (groupId : Id) := (s.menu.menuItemOnGroups.findFirst fun _ row =>
    row.itemId == menuItemId && row.groupId == groupId).isSome
  ensure (options.all fun (_, option) => assigned option.groupId)
    { kind := .badRequest, code := "MODIFIER_NOT_ASSIGNED_TO_ITEM",
      message := "One or more selected modifiers are not assigned to this menu item." }
  pure (options.map fun (_, option) => option.priceDelta).sum

/-- Cost of one unit in units of `10⁻¹⁰`: quantity with waste times the
ingredient's unit cost. -/
def RecipeIngredient.extCost (ingredient : RecipeIngredient) : Int :=
  ingredient.qtyPerUnit * (10000 + ingredient.wastePct) * ingredient.theoreticalUnitCost

/-- The cost columns. `none` when the menu item has no base recipe. -/
def recipeCost (s : Store) (ctx : BranchContext) (menuItemId : Id)
    (selectedModifiers : LineMetadata) : Option Int :=
  let base := s.menu.recipeIngredients.findMany fun _ row =>
    row.menuItemId == menuItemId && row.branchId == ctx.branchId &&
      row.modifierOptionId.isNone && row.menuItemServingId.isNone
  let modifiers := s.menu.recipeIngredients.findMany fun _ row =>
    row.menuItemId == menuItemId && row.branchId == ctx.branchId &&
      row.modifierOptionId.any fun id => selectedModifiers.contains (some id)
  if base.isEmpty then none
  else some ((base ++ modifiers).map fun (_, row) => row.extCost).sum

def linePricing (price : Cents) (quantity : Int) (baseCost : Option Int) : LinePricing :=
  let subtotal := price * quantity
  match baseCost with
  | none =>
    { price, subtotal, costUnit := none, costTotal := none, marginTotal := none, marginPct := none }
  | some cost =>
    let costTotal := roundHalfUp (cost * quantity) 100000000
    let marginTotal := subtotal - costTotal
    { price, subtotal
      costUnit := some (roundHalfUp cost 100000000)
      costTotal := some costTotal
      marginTotal := some marginTotal
      marginPct := some (if 0 < subtotal then roundHalfUp (marginTotal * 10000) subtotal else 0) }

/-- The serving's price when one is chosen, the item's otherwise. -/
def basePrice (menuItemId : Id) (menuItem : MenuItem) : Option Id → Db Cents
  | none => pure menuItem.price
  | some servingId => do
    let s ← get
    let serving ← need ((s.menu.servings.get? servingId).filter (·.menuItemId == menuItemId))
      (badRequest "Serving not found for this menu item")
    ensure serving.isActive
      { kind := .conflict, code := "MENU_SERVING_INACTIVE",
        message := "This serving is not currently available." }
    pure serving.price

def computeLinePricing (ctx : BranchContext) (menuItemId : Id) (menuItemServingId : Option Id)
    (quantity : Int) (modifierMeta : LineMetadata) : Db LinePricing := do
  let s ← get
  let menuItem ← need ((s.menu.menuItems.get? menuItemId).filter fun item =>
      item.branchId == ctx.branchId && item.orgId == ctx.organizationId)
    (notFound "Menu item not found in this branch")
  ensure menuItem.isActive
    { kind := .conflict, code := "MENU_ITEM_UNAVAILABLE",
      message := "This menu item is not currently available." }
  let unitPrice ← basePrice menuItemId menuItem menuItemServingId
  let delta ← modifierDelta ctx menuItemId modifierMeta
  pure (linePricing (unitPrice + delta) quantity (recipeCost s ctx menuItemId modifierMeta))

theorem modifierDelta_reads : Reads (modifierDelta ctx menuItemId selected) :=
  .bind .get fun _ => .bind (.ensure _ _) fun _ => .bind (.ensure _ _) fun _ =>
    .bind (.ensure _ _) fun _ => .pure _

theorem basePrice_reads : Reads (basePrice menuItemId menuItem servingId) := by
  cases servingId with
  | none => exact .pure _
  | some servingId =>
    exact .bind .get fun _ => .bind (.need _ _) fun _ => .bind (.ensure _ _) fun _ => .pure _

theorem computeLinePricing_reads :
    Reads (computeLinePricing ctx menuItemId servingId quantity modifierMeta) :=
  .bind .get fun _ => .bind (.need _ _) fun _ => .bind (.ensure _ _) fun _ =>
    .bind basePrice_reads fun _ => .bind modifierDelta_reads fun _ => .pure _

@[simp] theorem linePricing_price : (linePricing price quantity cost).price = price := by
  cases cost <;> rfl

@[simp] theorem linePricing_subtotal :
    (linePricing price quantity cost).subtotal = price * quantity := by
  cases cost <;> rfl

@[simp] theorem computeLinePricing_ok :
    computeLinePricing ctx menuItemId servingId quantity modifierMeta s = .ok pricing t ↔
      Returns (computeLinePricing ctx menuItemId servingId quantity modifierMeta) s pricing ∧
        s = t :=
  computeLinePricing_reads.returns

/-- A priced line is worth its unit price times its quantity. -/
theorem computeLinePricing_subtotal
    (h : Returns (computeLinePricing ctx menuItemId servingId quantity modifierMeta) s pricing) :
    pricing.subtotal = pricing.price * quantity := by
  unfold Returns at h
  simp only [computeLinePricing, bind_ok, pure_ok] at h
  obtain ⟨_, _, _, _, _, _, _, _, _, _, _, _, _, _, _, rfl, _⟩ := h
  simp

end NimbusPos
