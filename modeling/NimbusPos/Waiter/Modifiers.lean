import Mathlib.Data.List.ReduceOption
import NimbusPos.Orders.Service
import NimbusPos.Text

/-!
# The modifiers of a line

The waiter's form writes the options chosen for a line into the line's metadata and reads
them back from it when the line is opened again. `saved_selection_iff`: the two agree on
every selection but the empty one of an item without a serving. For that one the form sends
no metadata at all, and the stored options stay.
-/

namespace NimbusPos.WaiterOrderModel

open Lib Lib.Service OrdersService

-- ---
-- The form
-- ---

structure WaiterModifierOptionViewModel where
  id : Id
  name : String := "Option"
  priceDelta : Cents := 0
  deriving DecidableEq, Repr

structure WaiterModifierGroupViewModel where
  id : Id
  name : String := "Options"
  options : List WaiterModifierOptionViewModel
  deriving DecidableEq, Repr

structure WaiterMenuServingViewModel where
  id : Id
  label : String
  deriving DecidableEq, Repr

structure WaiterSelectedModifier where
  modifierGroupId : Id
  modifierGroupName : String
  modifierOptionId : Id
  modifierOptionName : String
  priceDelta : String
  deriving DecidableEq, Repr

structure WaiterOrderItemMetadata where
  selectedModifiers : Option (List WaiterSelectedModifier)
  servingLabel : Option String
  deriving DecidableEq, Repr

/-- `serving?.label`, when it is a text that is not empty. -/
def shownLabel (serving : Option WaiterMenuServingViewModel) : Option String :=
  (serving.map (·.label)).filter fun label => !label.isEmpty

def selectedModifier (group : WaiterModifierGroupViewModel)
    (option : WaiterModifierOptionViewModel) : WaiterSelectedModifier :=
  { modifierGroupId := group.id, modifierGroupName := group.name, modifierOptionId := option.id
    modifierOptionName := option.name, priceDelta := toFixed option.priceDelta }

def selectedModifiers (groups : List WaiterModifierGroupViewModel)
    (selectedOptionIds : List Id) : List WaiterSelectedModifier :=
  groups.flatMap fun group =>
    (group.options.filter fun option => selectedOptionIds.contains option.id).map
      (selectedModifier group)

def buildOrderItemMetadata (serving : Option WaiterMenuServingViewModel)
    (groups : List WaiterModifierGroupViewModel) (selectedOptionIds : List Id) :
    Option WaiterOrderItemMetadata :=
  let selected := selectedModifiers groups selectedOptionIds
  if selected.isEmpty && (shownLabel serving).isNone then none
  else some
    { selectedModifiers := if selected.isEmpty then none else some selected
      servingLabel := shownLabel serving }

structure UpdateOrderItemPayload where
  quantity : Int
  notes : String
  metadata : Option WaiterOrderItemMetadata
  deriving DecidableEq, Repr

def buildUpdateItemPayload (groups : List WaiterModifierGroupViewModel)
    (serving : Option WaiterMenuServingViewModel) (quantity : Int) (note : String)
    (selectedOptionIds : List Id) : UpdateOrderItemPayload :=
  { quantity, notes := Text.trim note
    metadata := buildOrderItemMetadata serving groups selectedOptionIds }

/-- `metadata?.selectedModifiers || []`, the entries that name an option. -/
def selectedOptionIdsFromMetadata (metadata : LineMetadata) : List Id :=
  metadata.reduceOption

-- ---
-- The request
-- ---

/-- The metadata as the row keeps it: without `selectedModifiers` it names no option. -/
def WaiterOrderItemMetadata.stored (metadata : WaiterOrderItemMetadata) : LineMetadata :=
  (metadata.selectedModifiers.getD []).map fun modifier => some modifier.modifierOptionId

/-- The body the route hands over. A key that is `undefined` is not in the request. -/
def UpdateOrderItemPayload.received (payload : UpdateOrderItemPayload) : Db UpdateOrderItemDto := do
  let quantity ← need (if h : 1 ≤ payload.quantity then some ⟨payload.quantity, h⟩ else none)
    (badRequest "quantity must not be less than 1")
  ensure (payload.notes.length ≤ 500)
    (badRequest "notes must be shorter than or equal to 500 characters")
  pure { quantity := some quantity, metadata := payload.metadata.map (·.stored) }

def submitUpdate (ctx : BranchContext) (orderId itemId : Id) (payload : UpdateOrderItemPayload)
    (request : RequestMeta) : Db Unit := do
  let dto ← payload.received
  updateOrderItem ctx orderId itemId dto request

/-- Options chosen among those the groups offer. -/
structure Selection (groups : List WaiterModifierGroupViewModel) where
  optionIds : List Id
  offered : ∀ id ∈ optionIds, ∃ group ∈ groups, ∃ option ∈ group.options, option.id = id

/-- The form, opened on the line again, shows the selection. -/
def ReadsBack (s : Store) (orderId itemId : Id) (selection : Selection groups) : Prop :=
  ∃ line, s.itemOn orderId itemId = some line ∧
    ∀ id, id ∈ selectedOptionIdsFromMetadata line.metadata ↔ id ∈ selection.optionIds

-- ---
-- Writing and reading
-- ---

theorem mem_selectedModifiers {groups : List WaiterModifierGroupViewModel} :
    modifier ∈ selectedModifiers groups selectedOptionIds ↔
      ∃ group ∈ groups, ∃ option ∈ group.options, option.id ∈ selectedOptionIds ∧
        selectedModifier group option = modifier := by
  simp [selectedModifiers, and_assoc]

/-- The entries of a selection name its options. -/
theorem mem_selected_ids (selection : Selection groups) :
    optionId ∈ (selectedModifiers groups selection.optionIds).map (·.modifierOptionId) ↔
      optionId ∈ selection.optionIds := by
  simp only [List.mem_map, mem_selectedModifiers]
  constructor
  · rintro ⟨_, ⟨group, -, option, -, hid, rfl⟩, rfl⟩
    exact hid
  · intro hid
    obtain ⟨group, hgroup, option, hoption, rfl⟩ := selection.offered optionId hid
    exact ⟨_, ⟨group, hgroup, option, hoption, hid, rfl⟩, rfl⟩

theorem selectedModifiers_nil_iff (selection : Selection groups) :
    selectedModifiers groups selection.optionIds = [] ↔ selection.optionIds = [] := by
  have hids (optionId : Id) :
      optionId ∈ (selectedModifiers groups selection.optionIds).map (·.modifierOptionId) ↔
        optionId ∈ selection.optionIds := mem_selected_ids selection
  constructor
  · intro hnil
    simpa [hnil, List.eq_nil_iff_forall_not_mem] using hids
  · intro hnil
    simpa [hnil, List.eq_nil_iff_forall_not_mem] using hids

/-- What the form reads in metadata it wrote itself. -/
theorem mem_stored {groups : List WaiterModifierGroupViewModel} {selection : Selection groups}
    (h : buildOrderItemMetadata serving groups selection.optionIds = some metadata) :
    optionId ∈ selectedOptionIdsFromMetadata metadata.stored ↔ optionId ∈ selection.optionIds := by
  simp only [buildOrderItemMetadata, Option.ite_none_left_eq_some, Option.some.injEq] at h
  obtain ⟨-, rfl⟩ := h
  rw [← mem_selected_ids selection]
  by_cases hnil : selectedModifiers groups selection.optionIds = [] <;>
    simp [selectedOptionIdsFromMetadata, WaiterOrderItemMetadata.stored, List.reduceOption_mem_iff,
      hnil]

/-- The selection the form leaves out of its request: none chosen, and no serving named. -/
theorem buildOrderItemMetadata_none (selection : Selection groups) :
    buildOrderItemMetadata serving groups selection.optionIds = none ↔
      selection.optionIds = [] ∧ shownLabel serving = none := by
  simp [buildOrderItemMetadata, selectedModifiers_nil_iff]

-- ---
-- What a save left in the line
-- ---

theorem received_ok {payload : UpdateOrderItemPayload} (h : payload.received s = .ok dto t) :
    dto.metadata = payload.metadata.map (·.stored) ∧ s = t := by
  simp only [UpdateOrderItemPayload.received, bind_ok, need_ok, ensure_ok, pure_ok] at h
  obtain ⟨_, _, ⟨-, rfl⟩, _, _, ⟨-, rfl⟩, rfl, rfl⟩ := h
  exact ⟨rfl, rfl⟩

/-- The line after a save: the metadata of the request, its own where there is none. -/
theorem submitUpdate_line {payload : UpdateOrderItemPayload}
    (h : submitUpdate ctx orderId itemId payload request s = .ok u t)
    (hitem : s.itemOn orderId itemId = some existing) :
    ∃ line, t.itemOn orderId itemId = some line ∧
      line.metadata = (payload.metadata.map (·.stored)).getD existing.metadata := by
  rw [submitUpdate, bind_ok] at h
  obtain ⟨dto, _, hreceived, hupdate⟩ := h
  obtain ⟨hmetadata, rfl⟩ := received_ok hreceived
  obtain ⟨_, _, pricing, -, -, hfound, -, rfl⟩ := updateOrderItem_ok hupdate
  obtain rfl := Option.some.inj (hitem.symm.trans hfound)
  obtain ⟨hget, horder⟩ := itemOn_iff.mp hitem
  refine ⟨updatedItem dto existing pricing existing, itemOn_iff.mpr ⟨?_, horder⟩, ?_⟩
  · simp [recalcOrderTotals, Store.updateOrder, hget]
  · simp [updatedItem, hmetadata]

/-- A line keeps naming options only where an empty selection is not sent. -/
theorem kept_iff {existing : LineMetadata} (selection : Selection groups)
    (hempty : selection.optionIds = []) :
    (∀ optionId, optionId ∈ selectedOptionIdsFromMetadata existing ↔
      optionId ∈ selection.optionIds) ↔ selectedOptionIdsFromMetadata existing = [] := by
  simp [hempty, List.eq_nil_iff_forall_not_mem]

/-- The selection that a save stored is read back exactly when the form sent it, or the line
named no option before. -/
theorem saved_selection_iff (selection : Selection groups)
    (hsaved : submitUpdate ctx orderId itemId
      (buildUpdateItemPayload groups serving quantity note selection.optionIds) request s = .ok u t)
    (hitem : s.itemOn orderId itemId = some existing) :
    ReadsBack t orderId itemId selection ↔
      selection.optionIds ≠ [] ∨ shownLabel serving ≠ none ∨
        selectedOptionIdsFromMetadata existing.metadata = [] := by
  obtain ⟨line, hline, hmetadata⟩ := submitUpdate_line hsaved hitem
  have hreads : ReadsBack t orderId itemId selection ↔
      ∀ optionId, optionId ∈ selectedOptionIdsFromMetadata line.metadata ↔
        optionId ∈ selection.optionIds := by
    simp [ReadsBack, hline]
  rw [hreads, hmetadata]
  simp only [buildUpdateItemPayload]
  cases hbuilt : buildOrderItemMetadata serving groups selection.optionIds with
  | none =>
    obtain ⟨hempty, hlabel⟩ := (buildOrderItemMetadata_none selection).mp hbuilt
    simpa [hempty, hlabel] using kept_iff selection hempty
  | some metadata =>
    have hsent : selection.optionIds ≠ [] ∨ shownLabel serving ≠ none := by
      by_contra hnot
      push Not at hnot
      rw [(buildOrderItemMetadata_none selection).mpr hnot] at hbuilt
      cases hbuilt
    refine iff_of_true (fun _ => mem_stored hbuilt) ?_
    rcases hsent with hselected | hlabel
    · exact .inl hselected
    · exact .inr (.inl hlabel)

def cheese : WaiterModifierGroupViewModel where
  id := 0
  name := "Extras"
  options := [{ id := 0, name := "Cheese", priceDelta := 150 }]

def noExtras : Selection [cheese] := ⟨[], by simp⟩

def withCheese : Selection [cheese] := ⟨[0], by simp [cheese]⟩

/-- One burger, with cheese. -/
def cheeseburger : OrderItem where
  orderId := 0
  menuItemId := 0
  menuItemServingId := none
  quantity := 1
  price := 1150
  subtotal := 1150
  metadata := [some 0]
  costUnit := none
  costTotal := none
  marginTotal := none
  marginPct := none

def burgerOrder : Store where
  menu :=
    { menuItems := Table.empty.insert { orgId := 0, branchId := 0, price := 1000 }
      modifierGroups := Table.empty.insert { orgId := 0, branchId := 0 }
      modifierOptions := Table.empty.insert { groupId := 0, priceDelta := 150 }
      menuItemOnGroups := Table.empty.insert { itemId := 0, groupId := 0 } }
  orders := Table.empty.insert
    { orgId := 0, branchId := 0, tableId := none, userId := 0, orderNumber := "ORD-0001"
      serviceType := .takeaway, createdAt := 0, updatedAt := 0 }
  orderItems := Table.empty.insert cheeseburger

/-- The order after two burgers are saved on the line with the selection. -/
def savedBurgers (selection : Selection [cheese]) : Store :=
  final (submitUpdate ⟨0, 0⟩ 0 0
    (buildUpdateItemPayload [cheese] none 2 "" selection.optionIds) {} burgerOrder)

/-- The burger is saved with its cheese. -/
theorem saved_selection_iff_cheese :
    ReadsBack (savedBurgers withCheese) 0 0 withCheese ↔
      withCheese.optionIds ≠ [] ∨ shownLabel none ≠ none ∨
        selectedOptionIdsFromMetadata cheeseburger.metadata = [] :=
  have hsaved : submitUpdate ⟨0, 0⟩ 0 0
      (buildUpdateItemPayload [cheese] none 2 "" withCheese.optionIds) {} burgerOrder =
        .ok () (savedBurgers withCheese) := rfl
  saved_selection_iff withCheese hsaved rfl

/-- The burger is saved without its cheese, and has it when it is opened again. -/
theorem emptied_selection_stays :
    ¬∀ (s t : Store) (ctx : BranchContext) (orderId itemId : Id)
      (groups : List WaiterModifierGroupViewModel) (serving : Option WaiterMenuServingViewModel)
      (quantity : Int) (note : String) (selection : Selection groups) (request : RequestMeta),
      submitUpdate ctx orderId itemId
        (buildUpdateItemPayload groups serving quantity note selection.optionIds) request s =
          .ok () t →
      ReadsBack t orderId itemId selection := by
  intro h
  obtain ⟨line, hline, hreads⟩ := h burgerOrder (savedBurgers noExtras) ⟨0, 0⟩
    0 0 [cheese] none 2 "" noExtras {} rfl
  have hkept : line.metadata = [some 0] := by
    cases hline
    rfl
  have hshown := hreads 0
  simp [hkept, selectedOptionIdsFromMetadata, noExtras] at hshown

end NimbusPos.WaiterOrderModel
