import NimbusPos.Common

/-!
# Menu catalogue

Servings of an item, the browse group and subgroup that it is listed under, and groups of
modifiers. An update writes the properties that its request holds.
-/

namespace NimbusPos.MenuService

open Lib Lib.Service

-- ---
-- Rows
-- ---

inductive ServingFormat
  | glass
  | bottle
  | jug
  | pint
  | halfPint
  | shot
  | single
  | double
  | carafe
  | flight
  | cup
  | custom
  deriving DecidableEq, Repr

def ServingFormat.name : ServingFormat → String
  | .glass => "GLASS"
  | .bottle => "BOTTLE"
  | .jug => "JUG"
  | .pint => "PINT"
  | .halfPint => "HALF_PINT"
  | .shot => "SHOT"
  | .single => "SINGLE"
  | .double => "DOUBLE"
  | .carafe => "CARAFE"
  | .flight => "FLIGHT"
  | .cup => "CUP"
  | .custom => "CUSTOM"

structure MenuItem where
  orgId : Id
  branchId : Id
  browseGroupId : Option Id := none
  browseSubgroupId : Option Id := none
  deriving DecidableEq, Repr

structure MenuBrowseGroup where
  orgId : Id
  branchId : Id
  deriving DecidableEq, Repr

structure MenuBrowseSubgroup where
  groupId : Id
  deriving DecidableEq, Repr

structure MenuItemServing where
  menuItemId : Id
  format : ServingFormat
  label : Option String := none
  price : Cents
  volumeText : Option String := none
  isDefault : Bool := false
  sortOrder : Nat := 0
  isActive : Bool := true
  deriving DecidableEq, Repr

/-- A `max` of zero is no limit. -/
structure ModifierGroup where
  orgId : Id
  branchId : Id
  name : String
  min : Nat := 0
  max : Nat := 0
  required : Bool := false
  sortOrder : Nat := 0
  isActive : Bool := true
  deriving DecidableEq, Repr

structure MenuStore where
  menuItems : Table MenuItem := .empty
  browseGroups : Table MenuBrowseGroup := .empty
  browseSubgroups : Table MenuBrowseSubgroup := .empty
  servings : Table MenuItemServing := .empty
  modifierGroups : Table ModifierGroup := .empty

-- ---
-- Requests
-- ---

/-- A property of a request: left out, `null` or a value. -/
inductive Patch (α : Type)
  | undefined
  | null
  | value (a : α)
  deriving DecidableEq, Repr

namespace Patch

variable {α : Type}

def value? : Patch α → Option α
  | value a => some a
  | undefined | null => none

def isNull : Patch α → Bool
  | null => true
  | undefined | value _ => false

/-- The column after an update, which may be null. -/
def write (patch : Patch α) (column : Option α) : Option α :=
  match patch with
  | undefined => column
  | null => none
  | value a => some a

end Patch

structure CreateMenuItemServingDto where
  format : ServingFormat
  label : Option String := none
  price : Cents
  volumeText : Option String := none
  isDefault : Option Bool := none
  sortOrder : Option Nat := none
  isActive : Option Bool := none
  deriving DecidableEq, Repr

structure UpdateMenuItemServingDto where
  format : Patch ServingFormat := .undefined
  label : Patch String := .undefined
  price : Patch Cents := .undefined
  volumeText : Patch String := .undefined
  isDefault : Patch Bool := .undefined
  sortOrder : Patch Nat := .undefined
  isActive : Patch Bool := .undefined
  deriving DecidableEq, Repr

structure AssignMenuItemBrowseDto where
  browseGroupId : Patch Id := .undefined
  browseSubgroupId : Patch Id := .undefined
  deriving DecidableEq, Repr

structure CreateModifierGroupDto where
  name : String
  min : Option Nat := none
  max : Option Nat := none
  required : Option Bool := none
  sortOrder : Option Nat := none
  isActive : Option Bool := none
  deriving DecidableEq, Repr

structure UpdateModifierGroupDto where
  name : Patch String := .undefined
  min : Patch Nat := .undefined
  max : Patch Nat := .undefined
  required : Patch Bool := .undefined
  sortOrder : Patch Nat := .undefined
  isActive : Patch Bool := .undefined
  deriving DecidableEq, Repr

/-- The client of the database refuses `null` for a column that has none. -/
def notNullable : HttpError :=
  { kind := .internalServerError, message := "Argument must not be null" }

/-- A column without `null` is cleared. -/
def UpdateMenuItemServingDto.clears (dto : UpdateMenuItemServingDto) : Bool :=
  dto.format.isNull || dto.price.isNull || dto.isDefault.isNull || dto.sortOrder.isNull ||
    dto.isActive.isNull

def UpdateModifierGroupDto.clears (dto : UpdateModifierGroupDto) : Bool :=
  dto.name.isNull || dto.min.isNull || dto.max.isNull || dto.required.isNull ||
    dto.sortOrder.isNull || dto.isActive.isNull

-- ---
-- Servings
-- ---

namespace MenuStore

variable (s : MenuStore)

def itemOf (ctx : BranchContext) (itemId : Id) : Option MenuItem :=
  (s.menuItems.get? itemId).filter fun item =>
    item.branchId == ctx.branchId && item.orgId == ctx.organizationId

/-- A serving of the item with the format and the label, or with none. -/
def findServing (menuItemId : Id) (format : ServingFormat) (label : Option String) :
    Option (Id × MenuItemServing) :=
  s.servings.findFirst fun _ serving =>
    serving.menuItemId == menuItemId && serving.format == format && serving.label == label

/-- Another serving stands under the row's key of the unique index. Rows without a label have no
key: nulls are distinct. -/
def servingTaken (servingId : Id) (row : MenuItemServing) : Bool :=
  row.label.isSome && (s.servings.findFirst fun id serving => id != servingId &&
    serving.menuItemId == row.menuItemId && serving.format == row.format &&
      serving.label == row.label).isSome

end MenuStore

def servingRow (menuItemId : Id) (dto : CreateMenuItemServingDto) : MenuItemServing :=
  { menuItemId, format := dto.format, label := dto.label, price := dto.price
    volumeText := dto.volumeText, isDefault := dto.isDefault.getD false
    sortOrder := dto.sortOrder.getD 0, isActive := dto.isActive.getD true }

def createMenuItemServing (menuItemId : Id) (ctx : BranchContext) (dto : CreateMenuItemServingDto) :
    Service HttpError MenuStore Id := do
  let s ← get
  let _ ← need (s.itemOf ctx menuItemId) (notFound "Menu item not found in this branch")
  reject (s.findServing menuItemId dto.format dto.label) fun _ =>
    conflict ("Serving format \"" ++ dto.format.name ++ "\" with label \"" ++ dto.label.getD "" ++
      "\" already exists for this item")
  modify fun s => { s with servings := s.servings.insert (servingRow menuItemId dto) }
  return s.servings.next

def UpdateMenuItemServingDto.apply (dto : UpdateMenuItemServingDto) (row : MenuItemServing) :
    MenuItemServing :=
  { row with
    format := dto.format.value?.getD row.format
    label := dto.label.write row.label
    price := dto.price.value?.getD row.price
    volumeText := dto.volumeText.write row.volumeText
    isDefault := dto.isDefault.value?.getD row.isDefault
    sortOrder := dto.sortOrder.value?.getD row.sortOrder
    isActive := dto.isActive.value?.getD row.isActive }

def updateMenuItemServing (itemId servingId : Id) (ctx : BranchContext)
    (dto : UpdateMenuItemServingDto) : Service HttpError MenuStore Unit := do
  let s ← get
  let _ ← need (s.itemOf ctx itemId) (notFound "Menu item not found in this branch")
  let existing ← need ((s.servings.get? servingId).filter (·.menuItemId == itemId))
    (notFound "Serving not found for this menu item")
  ensure (!dto.clears) notNullable
  ensure (!s.servingTaken servingId (dto.apply existing))
    (uniqueFailed "(menu_item_id, format, label)")
  modify fun s => { s with servings := s.servings.update servingId dto.apply }

-- ---
-- Browse groups
-- ---

def MenuStore.groupOf (s : MenuStore) (ctx : BranchContext) (groupId : Id) :
    Option MenuBrowseGroup :=
  (s.browseGroups.get? groupId).filter fun group =>
    group.branchId == ctx.branchId && group.orgId == ctx.organizationId

def MenuStore.isSubgroupOf (s : MenuStore) (subgroupId groupId : Id) : Bool :=
  (s.browseSubgroups.get? subgroupId).any (·.groupId == groupId)

/-- Clearing the group clears the subgroup too, unless the request sets one. -/
def AssignMenuItemBrowseDto.apply (dto : AssignMenuItemBrowseDto) (item : MenuItem) : MenuItem :=
  { item with
    browseGroupId := dto.browseGroupId.write item.browseGroupId
    browseSubgroupId :=
      dto.browseSubgroupId.write (if dto.browseGroupId.isNull then none else item.browseSubgroupId)
        }

/-- Validate that the subgroup belongs to the intended group. -/
def checkSubgroup (s : MenuStore) (item : MenuItem) (dto : AssignMenuItemBrowseDto) :
    Service HttpError MenuStore Unit :=
  match dto.browseSubgroupId with
  | .undefined | .null => pure ()
  | .value subgroupId => do
    let targetGroupId ← need (dto.browseGroupId.value?.or item.browseGroupId)
      (badRequest "Cannot assign subgroup without a browse group")
    ensure (s.isSubgroupOf subgroupId targetGroupId)
      (badRequest "Subgroup does not belong to the specified browse group")

def assignItemBrowse (itemId : Id) (ctx : BranchContext) (dto : AssignMenuItemBrowseDto) :
    Service HttpError MenuStore Unit := do
  let s ← get
  let item ← need (s.itemOf ctx itemId) (notFound "Menu item not found in this branch")
  ensure (dto.browseGroupId.value?.all fun groupId => (s.groupOf ctx groupId).isSome)
    (notFound "Browse group not found in this branch")
  checkSubgroup s item dto
  modify fun s => { s with menuItems := s.menuItems.update itemId dto.apply }

-- ---
-- Modifier groups
-- ---

/-- `findUnique({ where: { branchId_name } })`. -/
def MenuStore.groupNamed (s : MenuStore) (branchId : Id) (name : String) :
    Option (Id × ModifierGroup) :=
  s.modifierGroups.findFirst fun _ group => group.branchId == branchId && group.name == name

/-- `min > 0 && max > 0 && min > max`. -/
def exceeds (min max : Nat) : Bool := decide (0 < min) && decide (0 < max) && decide (max < min)

def modifierGroupRow (ctx : BranchContext) (dto : CreateModifierGroupDto) : ModifierGroup :=
  { orgId := ctx.organizationId, branchId := ctx.branchId, name := dto.name
    min := dto.min.getD 0, max := dto.max.getD 0, required := dto.required.getD false
    sortOrder := dto.sortOrder.getD 0, isActive := dto.isActive.getD true }

def createModifierGroup (ctx : BranchContext) (dto : CreateModifierGroupDto) :
    Service HttpError MenuStore Id := do
  let s ← get
  reject (s.groupNamed ctx.branchId dto.name) fun _ =>
    conflict "Modifier group name already exists in this branch"
  ensure (!exceeds (dto.min.getD 0) (dto.max.getD 0)) (badRequest "min cannot exceed max")
  modify fun s => { s with modifierGroups := s.modifierGroups.insert (modifierGroupRow ctx dto) }
  return s.modifierGroups.next

def UpdateModifierGroupDto.apply (dto : UpdateModifierGroupDto) (group : ModifierGroup) :
    ModifierGroup :=
  { group with
    name := dto.name.value?.getD group.name
    min := dto.min.value?.getD group.min
    max := dto.max.value?.getD group.max
    required := dto.required.value?.getD group.required
    sortOrder := dto.sortOrder.value?.getD group.sortOrder
    isActive := dto.isActive.value?.getD group.isActive }

def updateModifierGroup (groupId : Id) (ctx : BranchContext) (dto : UpdateModifierGroupDto) :
    Service HttpError MenuStore Unit := do
  let s ← get
  let existing ← need ((s.modifierGroups.get? groupId).filter fun group =>
    group.branchId == ctx.branchId && group.orgId == ctx.organizationId)
    (notFound "Modifier group not found")
  reject (((dto.name.value?.filter (· != existing.name)).bind (s.groupNamed ctx.branchId ·)))
    fun _ => conflict "Modifier group name already exists in this branch"
  ensure (!exceeds (dto.min.value?.getD existing.min) (dto.max.value?.getD existing.max))
    (badRequest "min cannot exceed max")
  ensure (!dto.clears) notNullable
  modify fun s => { s with modifierGroups := s.modifierGroups.update groupId dto.apply }

end NimbusPos.MenuService
