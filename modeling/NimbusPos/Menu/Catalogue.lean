import NimbusPos.Lib.Run
import NimbusPos.Menu.Service

/-!
# The catalogue stays consistent

A call that changes one of two columns that belong together may leave the other one behind: the
subgroup of an item when its group changes, the servings without a label, which the database does
not compare, and the default of an item, which no call takes from another serving.
-/

namespace NimbusPos.MenuService

open Lib Lib.Service

-- ---
-- Consistency
-- ---

/-- The item has no subgroup, or one of its group. -/
def MenuStore.Placed (s : MenuStore) (item : MenuItem) : Prop :=
  ∀ subgroupId, item.browseSubgroupId = some subgroupId →
    ∃ groupId, item.browseGroupId = some groupId ∧ s.isSubgroupOf subgroupId groupId = true

namespace MenuItemServing

variable (serving : MenuItemServing)

/-- "Uniqueness: one format+label combination per menu item". -/
def offer : Option (Id × ServingFormat × Option String) :=
  some (serving.menuItemId, serving.format, serving.label)

/-- The item that it is the default of. -/
def defaultOf : Option Id := if serving.isDefault then some serving.menuItemId else none

end MenuItemServing

/-- A limit on both sides leaves a choice. -/
def ModifierGroup.Bounded (group : ModifierGroup) : Prop :=
  0 < group.min → 0 < group.max → group.min ≤ group.max

structure Consistent (s : MenuStore) : Prop where
  placed : ∀ k item, s.menuItems.get? k = some item → s.Placed item
  offers : s.servings.UniqueOn MenuItemServing.offer
  defaults : s.servings.UniqueOn MenuItemServing.defaultOf
  bounded : ∀ k group, s.modifierGroups.get? k = some group → group.Bounded

-- ---
-- Calls
-- ---

inductive MenuCall
  | assignItemBrowse (itemId : Id) (ctx : BranchContext) (dto : AssignMenuItemBrowseDto)
  | createMenuItemServing (menuItemId : Id) (ctx : BranchContext) (dto : CreateMenuItemServingDto)
  | updateMenuItemServing (itemId servingId : Id) (ctx : BranchContext)
      (dto : UpdateMenuItemServingDto)
  | createModifierGroup (ctx : BranchContext) (dto : CreateModifierGroupDto)
  | updateModifierGroup (groupId : Id) (ctx : BranchContext) (dto : UpdateModifierGroupDto)
  deriving DecidableEq, Repr

namespace MenuCall

/-- The store that the call leaves, whether it is served or refused. -/
def take (s : MenuStore) : MenuCall → MenuStore
  | assignItemBrowse itemId ctx dto => final (MenuService.assignItemBrowse itemId ctx dto s)
  | createMenuItemServing menuItemId ctx dto =>
    final (MenuService.createMenuItemServing menuItemId ctx dto s)
  | updateMenuItemServing itemId servingId ctx dto =>
    final (MenuService.updateMenuItemServing itemId servingId ctx dto s)
  | createModifierGroup ctx dto => final (MenuService.createModifierGroup ctx dto s)
  | updateModifierGroup groupId ctx dto => final (MenuService.updateModifierGroup groupId ctx dto s)

end MenuCall

/-- A subgroup that the request sets is one of the group that it sets, or else of the item's. -/
def SubgroupFits (s : MenuStore) (item : MenuItem) (dto : AssignMenuItemBrowseDto) : Prop :=
  ∀ subgroupId, dto.browseSubgroupId = .value subgroupId →
    ∃ groupId, dto.browseGroupId.value?.or item.browseGroupId = some groupId ∧
      s.isSubgroupOf subgroupId groupId = true

/-- The request passes the checks of `assignItemBrowse`. -/
structure Assigns (s : MenuStore) (itemId : Id) (ctx : BranchContext)
    (dto : AssignMenuItemBrowseDto) (item : MenuItem) : Prop where
  found : s.itemOf ctx itemId = some item
  group : ∀ groupId, dto.browseGroupId = .value groupId → (s.groupOf ctx groupId).isSome = true
  subgroup : SubgroupFits s item dto

/-- The group is cleared together with the setting of a subgroup, or set over a subgroup of
another one. -/
inductive Strays (s : MenuStore) (item : MenuItem) : AssignMenuItemBrowseDto → Prop
  | cleared : Strays s item { browseGroupId := .null, browseSubgroupId := .value subgroupId }
  | moved : item.browseSubgroupId = some subgroupId → s.isSubgroupOf subgroupId groupId = false →
    Strays s item { browseGroupId := .value groupId }

/-- The request passes the checks of `updateMenuItemServing`. -/
structure Updates (s : MenuStore) (itemId servingId : Id) (ctx : BranchContext)
    (dto : UpdateMenuItemServingDto) (existing : MenuItemServing) : Prop where
  found : (s.itemOf ctx itemId).isSome = true
  serving : s.servings.get? servingId = some existing
  own : existing.menuItemId = itemId
  notCleared : dto.clears = false
  free : s.servingTaken servingId (dto.apply existing) = false

/-- Another serving of the item is its default. -/
def MenuStore.hasDefault (s : MenuStore) (servingId itemId : Id) : Prop :=
  ∃ id serving, id ≠ servingId ∧ s.servings.get? id = some serving ∧ serving.isDefault = true ∧
    serving.menuItemId = itemId

/-- Another serving of the item has the format and no label. -/
def MenuStore.hasUnlabelled (s : MenuStore) (servingId itemId : Id) (format : ServingFormat) :
    Prop :=
  ∃ id serving, id ≠ servingId ∧ s.servings.get? id = some serving ∧ serving.label = none ∧
    serving.menuItemId = itemId ∧ serving.format = format

/-- The calls that leave something behind. -/
inductive Breaks (s : MenuStore) : MenuCall → Prop
  | strays : Assigns s itemId ctx dto item → Strays s item dto →
    Breaks s (.assignItemBrowse itemId ctx dto)
  | createsDefault : (s.itemOf ctx menuItemId).isSome = true →
    s.findServing menuItemId dto.format dto.label = none → dto.isDefault = some true →
    s.hasDefault s.servings.next menuItemId → Breaks s (.createMenuItemServing menuItemId ctx dto)
  | updatesDefault : Updates s itemId servingId ctx dto existing →
    dto.isDefault.value?.getD existing.isDefault = true → s.hasDefault servingId itemId →
    Breaks s (.updateMenuItemServing itemId servingId ctx dto)
  | unlabels : Updates s itemId servingId ctx dto existing →
    dto.label.write existing.label = none →
    s.hasUnlabelled servingId itemId (dto.format.value?.getD existing.format) →
    Breaks s (.updateMenuItemServing itemId servingId ctx dto)

variable {s : MenuStore}

-- ---
-- Browse groups
-- ---

theorem checkSubgroup_cases (s : MenuStore) (item : MenuItem) (dto : AssignMenuItemBrowseDto)
    (t : MenuStore) :
    checkSubgroup s item dto t = .ok () t ∧ SubgroupFits s item dto ∨
      (∃ e, checkSubgroup s item dto t = .error e t) ∧ ¬SubgroupFits s item dto := by
  rw [checkSubgroup]
  cases hsub : dto.browseSubgroupId with
  | undefined | null => exact .inl ⟨rfl, fun subgroupId h => by simp [hsub] at h⟩
  | value subgroupId =>
    cases hgroup : dto.browseGroupId.value?.or item.browseGroupId with
    | none =>
      refine .inr ⟨⟨_, rfl⟩, fun h => ?_⟩
      obtain ⟨groupId, hsome, -⟩ := h subgroupId hsub
      simp [hgroup] at hsome
    | some groupId =>
      cases hown : s.isSubgroupOf subgroupId groupId with
      | true =>
        refine .inl ⟨by simp [run_bind, run_need_some, run_ensure, hown], ?_⟩
        rintro other hother
        cases hsub.symm.trans hother
        exact ⟨groupId, hgroup, hown⟩
      | false =>
        refine .inr ⟨⟨badRequest "Subgroup does not belong to the specified browse group",
          by simp [run_bind, run_need_some, run_ensure, hown]⟩, fun h => ?_⟩
        obtain ⟨other, hother, hfits⟩ := h subgroupId hsub
        cases hgroup.symm.trans hother
        cases hown.symm.trans hfits

theorem assignItemBrowse_final (s : MenuStore) (itemId : Id) (ctx : BranchContext)
    (dto : AssignMenuItemBrowseDto) :
    (∃ item, Assigns s itemId ctx dto item ∧ final (assignItemBrowse itemId ctx dto s) =
      { s with menuItems := s.menuItems.update itemId dto.apply }) ∨
    (∀ item, ¬Assigns s itemId ctx dto item) ∧ final (assignItemBrowse itemId ctx dto s) = s := by
  rw [assignItemBrowse, final_get]
  cases hitem : s.itemOf ctx itemId with
  | none => exact .inr ⟨fun item h => absurd (hitem.symm.trans h.found) (by simp), final_need_none⟩
  | some item =>
    rw [final_need_some, final_ensure]
    split
    · rename_i hgroup
      rcases checkSubgroup_cases s item dto s with ⟨hrun, hfits⟩ | ⟨⟨e, hrun⟩, hfits⟩
      · refine .inl ⟨item, ⟨hitem, fun groupId hvalue => ?_, hfits⟩, ?_⟩
        · simpa [hvalue, Patch.value?] using hgroup
        · rw [run_bind, hrun]
          rfl
      · refine .inr ⟨fun other h => ?_, ?_⟩
        · cases hitem.symm.trans h.found
          exact hfits h.subgroup
        · rw [run_bind, hrun]
          rfl
    · rename_i hgroup
      refine .inr ⟨fun other h => hgroup ?_, rfl⟩
      cases hvalue : dto.browseGroupId with
      | undefined | null => rfl
      | value groupId => simpa [Patch.value?] using h.group groupId hvalue

/-- An item that was placed is so after the request, unless it strays. -/
theorem placed_apply_iff (hfits : SubgroupFits s item dto) (hplaced : s.Placed item) :
    s.Placed (dto.apply item) ↔ ¬Strays s item dto := by
  obtain ⟨group, subgroup⟩ := dto
  cases subgroup with
  | null =>
    refine iff_of_true (fun _ h => ?_) (fun h => ?_)
    · cases h
    · cases h
  | value subgroupId =>
    obtain ⟨groupId, hgroup, hown⟩ := hfits subgroupId rfl
    cases group with
    | null =>
      refine iff_of_false (fun h => ?_) (fun h => h .cleared)
      obtain ⟨_, hnone, -⟩ := h subgroupId rfl
      cases hnone
    | undefined | value _ =>
      refine iff_of_true (fun _ h => ?_) (fun h => ?_)
      · cases h
        exact ⟨groupId, hgroup, hown⟩
      · cases h
  | undefined =>
    cases group with
    | undefined =>
      refine iff_of_true hplaced fun h => ?_
      cases h
    | null =>
      refine iff_of_true (fun _ h => ?_) (fun h => ?_)
      · cases h
      · cases h
    | value groupId =>
      constructor
      · rintro h ⟨⟩
        rename_i subgroupId hsub hstray
        obtain ⟨_, ⟨⟩, hown⟩ := h subgroupId hsub
        cases hstray.symm.trans hown
      · intro h subgroupId hsub
        refine ⟨groupId, rfl, ?_⟩
        by_contra hstray
        exact h (.moved hsub (Bool.not_eq_true _ ▸ hstray))

theorem assignItemBrowse_iff (h : Consistent s) :
    Consistent (final (assignItemBrowse itemId ctx dto s)) ↔
      ¬Breaks s (.assignItemBrowse itemId ctx dto) := by
  rcases assignItemBrowse_final s itemId ctx dto with ⟨item, hassigns, hfinal⟩ | ⟨hnone, hfinal⟩
  · have hget : s.menuItems.get? itemId = some item :=
      (Option.filter_eq_some_iff.mp hassigns.found).1
    have hbreaks : Breaks s (.assignItemBrowse itemId ctx dto) ↔ Strays s item dto := by
      constructor
      · rintro ⟨hother, hstrays⟩
        cases hassigns.found.symm.trans hother.found
        exact hstrays
      · exact .strays hassigns
    rw [hfinal, hbreaks, ← placed_apply_iff hassigns.subgroup (h.placed itemId item hget)]
    constructor
    · exact fun hnext => (Table.forall_update hget h.placed).mp hnext.placed
    · exact fun hplaced => { h with placed := (Table.forall_update hget h.placed).mpr hplaced }
  · rw [hfinal]
    exact iff_of_true h fun hbreaks => by
      cases hbreaks with
      | strays hassigns => exact hnone _ hassigns

-- ---
-- Servings
-- ---

theorem consistent_servings_iff (h : Consistent s) (servings : Table MenuItemServing) :
    Consistent { s with servings } ↔
      servings.UniqueOn MenuItemServing.offer ∧ servings.UniqueOn MenuItemServing.defaultOf :=
  ⟨fun hnext => ⟨hnext.offers, hnext.defaults⟩,
    fun ⟨hoffers, hdefaults⟩ => { h with offers := hoffers, defaults := hdefaults }⟩

theorem defaultOf_iff {serving : MenuItemServing} :
    serving.defaultOf = some itemId ↔ serving.isDefault = true ∧ serving.menuItemId = itemId := by
  rw [MenuItemServing.defaultOf]
  split <;> simp_all

/-- The item of a row has no default in another row. -/
theorem default_free_iff (row : MenuItemServing) :
    (∀ id serving itemId, id ≠ servingId → s.servings.get? id = some serving →
      row.defaultOf = some itemId → serving.defaultOf ≠ some itemId) ↔
    ¬(row.isDefault = true ∧ s.hasDefault servingId row.menuItemId) := by
  simp only [defaultOf_iff, ne_eq]
  constructor
  · rintro hfree ⟨hdefault, id, serving, hne, hget, hother, hitem⟩
    exact hfree id serving _ hne hget ⟨hdefault, rfl⟩ ⟨hother, hitem⟩
  · rintro hfree id serving _ hne hget ⟨hdefault, rfl⟩ ⟨hother, hitem⟩
    exact hfree ⟨hdefault, id, serving, hne, hget, hother, hitem⟩

theorem findServing_none :
    s.findServing menuItemId format label = none ↔
      ∀ id serving, s.servings.get? id = some serving →
        serving.offer ≠ some (menuItemId, format, label) := by
  rw [MenuStore.findServing, Table.findFirst_none]
  simp only [MenuItemServing.offer, ← Bool.not_eq_true]
  simp [and_assoc]

/-- The index leaves to the call what has no label. -/
theorem offer_free_iff {row : MenuItemServing} (h : s.servingTaken servingId row = false) :
    (∀ id serving offer, id ≠ servingId → s.servings.get? id = some serving →
      row.offer = some offer → serving.offer ≠ some offer) ↔
    ¬(row.label = none ∧ s.hasUnlabelled servingId row.menuItemId row.format) := by
  constructor
  · rintro hfree ⟨hlabel, id, serving, hne, hget, hnone, hitem, hformat⟩
    refine hfree id serving _ hne hget rfl ?_
    simp [MenuItemServing.offer, hlabel, hnone, hitem, hformat]
  · rintro hfree id serving _ hne hget ⟨⟩ hsame
    simp only [MenuItemServing.offer, Option.some.injEq, Prod.mk.injEq] at hsame
    obtain ⟨hitem, hformat, hlabel⟩ := hsame
    cases hrow : row.label with
    | none => exact hfree ⟨hrow, id, serving, hne, hget, hlabel.trans hrow, hitem, hformat⟩
    | some label =>
      rw [MenuStore.servingTaken, hrow, Option.isSome_some, Bool.true_and,
        Option.isSome_eq_false_iff, Option.isNone_iff_eq_none, Table.findFirst_none] at h
      simpa [hne, hitem, hformat, hlabel, hrow] using h id serving hget

theorem createMenuItemServing_final (s : MenuStore) (menuItemId : Id) (ctx : BranchContext)
    (dto : CreateMenuItemServingDto) :
    ((s.itemOf ctx menuItemId).isSome = true ∧
      s.findServing menuItemId dto.format dto.label = none ∧
      final (createMenuItemServing menuItemId ctx dto s) =
        { s with servings := s.servings.insert (servingRow menuItemId dto) }) ∨
    ((s.itemOf ctx menuItemId).isSome = true →
      s.findServing menuItemId dto.format dto.label ≠ none) ∧
      final (createMenuItemServing menuItemId ctx dto s) = s := by
  rw [createMenuItemServing, final_get]
  cases s.itemOf ctx menuItemId with
  | none => exact .inr ⟨fun h => absurd h Bool.false_ne_true, final_need_none⟩
  | some item =>
    rw [final_need_some]
    cases s.findServing menuItemId dto.format dto.label with
    | none => exact .inl ⟨rfl, rfl, rfl⟩
    | some existing => exact .inr ⟨fun _ => Option.some_ne_none _, final_reject_some⟩

theorem createMenuItemServing_iff (h : Consistent s) :
    Consistent (final (createMenuItemServing menuItemId ctx dto s)) ↔
      ¬Breaks s (.createMenuItemServing menuItemId ctx dto) := by
  rcases createMenuItemServing_final s menuItemId ctx dto with
    ⟨hitem, hnone, hfinal⟩ | ⟨hrefused, hfinal⟩
  · have hbreaks : Breaks s (.createMenuItemServing menuItemId ctx dto) ↔
        (servingRow menuItemId dto).isDefault = true ∧ s.hasDefault s.servings.next menuItemId := by
      constructor
      · intro hbreaks
        cases hbreaks with
        | createsDefault _ _ hdefault hother => exact ⟨by simp [servingRow, hdefault], hother⟩
      · rintro ⟨hdefault, hother⟩
        refine .createsDefault hitem hnone ?_ hother
        cases hflag : dto.isDefault with
        | none => simp [servingRow, hflag] at hdefault
        | some flag => simpa [servingRow, hflag] using hdefault
    have hoffers : (s.servings.insert (servingRow menuItemId dto)).UniqueOn
        MenuItemServing.offer := by
      refine h.offers.insert fun id serving _ hget hrow => ?_
      cases hrow
      exact findServing_none.mp hnone id serving hget
    rw [hfinal, consistent_servings_iff h, and_iff_right hoffers, h.defaults.insert_iff, hbreaks]
    refine Iff.trans ?_ (default_free_iff (servingRow menuItemId dto))
    exact ⟨fun hfree id serving itemId _ => hfree id serving itemId,
      fun hfree id serving itemId hget => hfree id serving itemId (Table.lt_next hget).ne hget⟩
  · rw [hfinal]
    refine iff_of_true h fun hbreaks => ?_
    cases hbreaks with
    | createsDefault hitem hnone => exact hrefused hitem hnone

theorem updateMenuItemServing_final (s : MenuStore) (itemId servingId : Id) (ctx : BranchContext)
    (dto : UpdateMenuItemServingDto) :
    (∃ existing, Updates s itemId servingId ctx dto existing ∧
      final (updateMenuItemServing itemId servingId ctx dto s) =
        { s with servings := s.servings.update servingId dto.apply }) ∨
    (∀ existing, ¬Updates s itemId servingId ctx dto existing) ∧
      final (updateMenuItemServing itemId servingId ctx dto s) = s := by
  rw [updateMenuItemServing, final_get]
  cases hitem : s.itemOf ctx itemId with
  | none => exact .inr ⟨fun _ h => by simpa [hitem] using h.found, final_need_none⟩
  | some item =>
    rw [final_need_some]
    cases hserving : (s.servings.get? servingId).filter (·.menuItemId == itemId) with
    | none =>
      refine .inr ⟨fun existing h => ?_, final_need_none⟩
      simp [h.serving, h.own] at hserving
    | some existing =>
      obtain ⟨hget, hown⟩ := Option.filter_eq_some_iff.mp hserving
      rw [final_need_some, final_ensure, final_ensure]
      by_cases hclears : dto.clears = true
      · refine .inr ⟨fun other h => ?_, by simp [hclears]⟩
        cases hclears.symm.trans h.notCleared
      · by_cases htaken : s.servingTaken servingId (dto.apply existing) = true
        · refine .inr ⟨fun other h => ?_, by simp [hclears, htaken]⟩
          cases hget.symm.trans h.serving
          cases htaken.symm.trans h.free
        · refine .inl ⟨existing, ⟨?_, hget, ?_, ?_, ?_⟩, ?_⟩
          all_goals simp_all
          rfl

theorem updateMenuItemServing_iff (h : Consistent s) :
    Consistent (final (updateMenuItemServing itemId servingId ctx dto s)) ↔
      ¬Breaks s (.updateMenuItemServing itemId servingId ctx dto) := by
  rcases updateMenuItemServing_final s itemId servingId ctx dto with
    ⟨existing, hupdates, hfinal⟩ | ⟨hnone, hfinal⟩
  · have hitem : (dto.apply existing).menuItemId = itemId := hupdates.own
    have hbreaks : Breaks s (.updateMenuItemServing itemId servingId ctx dto) ↔
        ((dto.apply existing).label = none ∧
          s.hasUnlabelled servingId itemId (dto.apply existing).format) ∨
        ((dto.apply existing).isDefault = true ∧ s.hasDefault servingId itemId) := by
      constructor
      · intro hbreaks
        cases hbreaks with
        | updatesDefault hother hdefault htwo =>
          cases hupdates.serving.symm.trans hother.serving
          exact .inr ⟨hdefault, htwo⟩
        | unlabels hother hlabel htwo =>
          cases hupdates.serving.symm.trans hother.serving
          exact .inl ⟨hlabel, htwo⟩
      · rintro (⟨hlabel, htwo⟩ | ⟨hdefault, htwo⟩)
        · exact .unlabels hupdates hlabel htwo
        · exact .updatesDefault hupdates hdefault htwo
    rw [hfinal, consistent_servings_iff h, h.offers.update_iff hupdates.serving,
      h.defaults.update_iff hupdates.serving, offer_free_iff hupdates.free, default_free_iff, hitem,
      hbreaks, not_or]
  · rw [hfinal]
    refine iff_of_true h fun hbreaks => ?_
    cases hbreaks with
    | updatesDefault hupdates | unlabels hupdates => exact hnone _ hupdates

-- ---
-- Modifier groups
-- ---

theorem bounded_iff {group : ModifierGroup} :
    group.Bounded ↔ exceeds group.min group.max = false := by
  simp only [ModifierGroup.Bounded, exceeds, ← Bool.not_eq_true, Bool.and_eq_true,
    decide_eq_true_eq]
  omega

theorem createModifierGroup_consistent (h : Consistent s) :
    Consistent (final (createModifierGroup ctx dto s)) := by
  rw [createModifierGroup, final_get]
  cases s.groupNamed ctx.branchId dto.name with
  | some existing => exact h
  | none =>
    rw [final_reject_none, final_ensure]
    split
    · rename_i hfits
      have hbounded : (modifierGroupRow ctx dto).Bounded :=
        bounded_iff.mpr (Bool.not_eq_true' _ ▸ hfits)
      exact { h with bounded := Table.forall_insert.mpr ⟨hbounded, h.bounded⟩ }
    · exact h

theorem updateModifierGroup_consistent (h : Consistent s) :
    Consistent (final (updateModifierGroup groupId ctx dto s)) := by
  rw [updateModifierGroup, final_get]
  cases hfound : (s.modifierGroups.get? groupId).filter fun group =>
    group.branchId == ctx.branchId && group.orgId == ctx.organizationId with
  | none => exact h
  | some existing =>
    rw [final_need_some]
    cases (dto.name.value?.filter (· != existing.name)).bind (s.groupNamed ctx.branchId ·) with
    | some other => exact h
    | none =>
      rw [final_reject_none, final_ensure]
      split
      · rename_i hfits
        have hget := (Option.filter_eq_some_iff.mp hfound).1
        have hbounded : (dto.apply existing).Bounded :=
          bounded_iff.mpr (Bool.not_eq_true' _ ▸ hfits)
        rw [final_ensure]
        split
        · exact { h with bounded := (Table.forall_update hget h.bounded).mpr hbounded }
        · exact h
      · exact h

-- ---
-- All calls
-- ---

theorem take_iff (s : MenuStore) (call : MenuCall) (h : Consistent s) :
    Consistent (call.take s) ↔ ¬Breaks s call := by
  cases call with
  | assignItemBrowse itemId ctx dto => exact assignItemBrowse_iff h
  | createMenuItemServing menuItemId ctx dto => exact createMenuItemServing_iff h
  | updateMenuItemServing itemId servingId ctx dto => exact updateMenuItemServing_iff h
  | createModifierGroup ctx dto =>
    refine iff_of_true (createModifierGroup_consistent h) fun hbreaks => ?_
    cases hbreaks
  | updateModifierGroup groupId ctx dto =>
    refine iff_of_true (updateModifierGroup_consistent h) fun hbreaks => ?_
    cases hbreaks

/-- The catalogue is consistent after every call exactly when none of the calls breaks it. -/
theorem catalogue_consistent (start : MenuStore) (calls : List MenuCall) (h : Consistent start) :
    (∀ before later, calls = before ++ later → Consistent (before.foldl MenuCall.take start)) ↔
      Run MenuCall.take (fun s call => ¬Breaks s call) start calls
        (calls.foldl MenuCall.take start) :=
  Run.all_iff h take_iff

/-- A cocktail in a subgroup of the first of two groups. -/
def drinks : MenuStore where
  menuItems := Table.empty.insert
    { orgId := 0, branchId := 0, browseGroupId := some 0, browseSubgroupId := some 0 }
  browseGroups := (Table.empty.insert { orgId := 0, branchId := 0 }).insert
    { orgId := 0, branchId := 0 }
  browseSubgroups := Table.empty.insert { groupId := 0 }

theorem drinks_consistent : Consistent drinks where
  placed := by
    refine Table.forall_insert.mpr ⟨fun subgroupId h => ?_, fun k item hget => ?_⟩
    · cases h
      exact ⟨0, rfl, by decide⟩
    · cases hget
  offers _ _ _ _ _ hget := by cases hget
  defaults _ _ _ _ _ hget := by cases hget
  bounded _ _ hget := by cases hget

/-- The request sets the other group, and says nothing of the subgroup. -/
def moveItem : MenuCall := .assignItemBrowse 0 ⟨0, 0⟩ { browseGroupId := .value 1 }

theorem moveItem_inconsistent : ¬Consistent (moveItem.take drinks) := by
  intro h
  have hget : (moveItem.take drinks).menuItems.get? 0 = some ⟨0, 0, some 1, some 0⟩ := by decide
  obtain ⟨_, ⟨⟩, hown⟩ := h.placed 0 _ hget 0 rfl
  exact absurd hown (by decide)

theorem catalogue_consistent_moved :
    ¬Run MenuCall.take (fun s call => ¬Breaks s call) drinks [moveItem] (moveItem.take drinks) :=
  fun hrun => moveItem_inconsistent
    ((catalogue_consistent drinks [moveItem] drinks_consistent).mpr hrun [moveItem] [] rfl)

/-- The item keeps a subgroup that is not one of its group. -/
theorem subgroup_left_behind :
    ¬∀ (start : MenuStore) (calls : List MenuCall), Consistent start →
      Consistent (calls.foldl MenuCall.take start) :=
  fun h => moveItem_inconsistent (h drinks [moveItem] drinks_consistent)

end NimbusPos.MenuService
