import Mathlib.Algebra.BigOperators.Group.List.Basic
import NimbusPos.UnifiedApprovals.Inbox

/-!
# Walking the inbox

The pages of one filter are those of one merged list. It has the newest rows of each source
that the filter names, up to the cap of a source; all of them where there are no more.
-/

namespace NimbusPos.ApprovalInbox

open Lib
open Approvals (ApprovalSourceType)

variable {trim toUpperCase : String → String} {t : Tables} {ctx : BranchContext}
  {query : ListApprovalsDto} {source : ApprovalSourceMapping} {row other : SourceRow}
  {item : ApprovalListItem}

def ListApprovalsDto.size (query : ListApprovalsDto) : Nat := query.pageSize.getD 20

def ListApprovalsDto.branch (query : ListApprovalsDto) (ctx : BranchContext) : Id :=
  query.branchId.getD ctx.branchId

/-- The rows of a source that match the filter in the caller's scope. -/
def matchingRows (t : Tables) (ctx : BranchContext) (query : ListApprovalsDto)
    (source : ApprovalSourceMapping) : List SourceRow :=
  (t.rows source.type).filter
    (matching source ctx.organizationId (query.branch ctx) (query.status.getD .pending) query)

def itemOf (ctx : BranchContext) (query : ListApprovalsDto) (source : ApprovalSourceMapping)
    (row : SourceRow) : ApprovalListItem :=
  toListItem source ctx.organizationId (query.branch ctx) row

/-- What the walk over the pages of a filter is to find. -/
structure Walked (queried : List ApprovalSourceMapping) (t : Tables) (ctx : BranchContext)
    (query : ListApprovalsDto) (items : List ApprovalListItem) : Prop where
  sorted : items.Pairwise requestedAfter
  once : (items.map fun item => (item.sourceType, item.sourceEntityId)).Nodup
  matched : ∀ item ∈ items, ∃ source ∈ queried, ∃ row ∈ matchingRows t ctx query source,
    item = itemOf ctx query source row
  counted : ∀ source ∈ queried, items.countP (·.sourceType == source.type) =
    min (perSourceCap query.size) (matchingRows t ctx query source).length
  newest : ∀ source ∈ queried, ∀ row ∈ matchingRows t ctx query source,
    ∀ other ∈ matchingRows t ctx query source, itemOf ctx query source row ∈ items →
      itemOf ctx query source other ∉ items → other.createdAt ≤ row.createdAt
  complete : ∀ source ∈ queried,
    (matchingRows t ctx query source).length ≤ perSourceCap query.size →
      ∀ row ∈ matchingRows t ctx query source, itemOf ctx query source row ∈ items

-- ---
-- What is read of a source
-- ---

def fetched (t : Tables) (ctx : BranchContext) (query : ListApprovalsDto)
    (source : ApprovalSourceMapping) : List SourceRow :=
  firsts newer (perSourceCap query.size) (matchingRows t ctx query source)

instance : Std.Total newer := ⟨fun row other => Nat.le_total other.createdAt row.createdAt⟩

instance : IsTrans SourceRow newer := ⟨fun _ _ _ h h' => Nat.le_trans h' h⟩

instance : Std.Total requestedAfter :=
  ⟨fun item other => le_total other.requestedAt item.requestedAt⟩

instance : IsTrans ApprovalListItem requestedAfter := ⟨fun _ _ _ h h' => le_trans h' h⟩

theorem matchingRows_keys (source : ApprovalSourceMapping) :
    ((matchingRows t ctx query source).map (·.id)).Nodup :=
  (t.keys source.type).sublist (List.filter_sublist.map _)

theorem fetched_keys (source : ApprovalSourceMapping) :
    ((fetched t ctx query source).map (·.id)).Nodup :=
  nodup_firsts newer (matchingRows_keys source)

/-- The sources are told apart by their types. -/
theorem registry_types : (approvalSourceRegistry.map (·.type)).Nodup := by decide

theorem mem_registry (h : source ∈ sourcesToQuery trim toUpperCase query) :
    source ∈ approvalSourceRegistry :=
  List.mem_of_mem_filter h

theorem queried_types :
    ((sourcesToQuery trim toUpperCase query).map (·.type)).Nodup :=
  registry_types.sublist (List.filter_sublist.map _)

-- ---
-- The merged list
-- ---

def unsorted (trim toUpperCase : String → String) (t : Tables) (ctx : BranchContext)
    (query : ListApprovalsDto) : List ApprovalListItem :=
  ((sourcesToQuery trim toUpperCase query).map fun source =>
    (fetched t ctx query source).map (itemOf ctx query source)).flatten

def merged (trim toUpperCase : String → String) (t : Tables) (ctx : BranchContext)
    (query : ListApprovalsDto) : List ApprovalListItem :=
  (unsorted trim toUpperCase t ctx query).insertionSort requestedAfter

theorem mem_merged : item ∈ merged trim toUpperCase t ctx query ↔
    ∃ source ∈ sourcesToQuery trim toUpperCase query, ∃ row ∈ fetched t ctx query source,
      item = itemOf ctx query source row := by
  simp only [merged, List.mem_insertionSort, unsorted, List.mem_flatten, List.mem_map]
  constructor
  · rintro ⟨-, ⟨source, hsource, rfl⟩, hitem⟩
    obtain ⟨row, hrow, rfl⟩ := List.mem_map.mp hitem
    exact ⟨source, hsource, row, hrow, rfl⟩
  · rintro ⟨source, hsource, row, hrow, rfl⟩
    exact ⟨_, ⟨source, hsource, rfl⟩, List.mem_map.mpr ⟨row, hrow, rfl⟩⟩

/-- A matching row has an item exactly when it was read. -/
theorem itemOf_mem_merged (hsource : source ∈ sourcesToQuery trim toUpperCase query)
    (hrow : row ∈ matchingRows t ctx query source) :
    itemOf ctx query source row ∈ merged trim toUpperCase t ctx query ↔
      row ∈ fetched t ctx query source := by
  rw [mem_merged]
  constructor
  · rintro ⟨source', hsource', row', hrow', hitem⟩
    obtain rfl : source = source' :=
      List.inj_on_of_nodup_map registry_types (mem_registry hsource) (mem_registry hsource')
        (congrArg (·.sourceType) hitem)
    obtain rfl : row = row' :=
      List.inj_on_of_nodup_map (matchingRows_keys source) hrow (mem_of_firsts newer hrow')
        (congrArg (·.sourceEntityId) hitem)
    exact hrow'
  · intro hfetched
    exact ⟨source, hsource, row, hfetched, rfl⟩

theorem merged_once : ((merged trim toUpperCase t ctx query).map fun item =>
    (item.sourceType, item.sourceEntityId)).Nodup := by
  have hperm := List.perm_insertionSort requestedAfter (unsorted trim toUpperCase t ctx query)
  refine (hperm.map _).nodup_iff.mpr ?_
  simp only [unsorted, List.map_flatten, List.map_map]
  rw [List.nodup_flatten]
  constructor
  · intro keys hkeys
    obtain ⟨source, -, rfl⟩ := List.mem_map.mp hkeys
    have hids : ((fetched t ctx query source).map (·.id)).Nodup := fetched_keys source
    have hpairs := hids.map (f := fun id => (source.type, id)) fun id id' h => (Prod.mk.inj h).2
    simpa [List.map_map, Function.comp_def, itemOf, toListItem] using hpairs
  · rw [List.pairwise_map]
    refine (List.pairwise_map.mp queried_types).imp ?_
    intro source source' hne key hkey hkey'
    simp only [Function.comp_apply, List.mem_map, itemOf, toListItem] at hkey hkey'
    obtain ⟨_, ⟨row, -, rfl⟩, rfl⟩ := hkey
    obtain ⟨_, ⟨row', -, rfl⟩, hsame⟩ := hkey'
    exact hne (Prod.mk.inj hsame).1.symm

theorem merged_counted (hsource : source ∈ sourcesToQuery trim toUpperCase query) :
    (merged trim toUpperCase t ctx query).countP (·.sourceType == source.type) =
      min (perSourceCap query.size) (matchingRows t ctx query source).length := by
  have hperm := List.perm_insertionSort requestedAfter (unsorted trim toUpperCase t ctx query)
  have hbucket (source' : ApprovalSourceMapping) :
      ((fetched t ctx query source').map (itemOf ctx query source')).countP
          (·.sourceType == source.type) =
        if source'.type = source.type then (fetched t ctx query source').length else 0 := by
    rw [List.countP_map]
    split
    · rename_i htype
      simp [Function.comp_def, itemOf, toListItem, htype]
    · rename_i htype
      simp [Function.comp_def, itemOf, toListItem, htype]
  rw [merged, hperm.countP_eq, unsorted, List.countP_flatten, List.map_map]
  have hsum := List.sum_map_eq_nsmul_single source
    (List.countP (·.sourceType == source.type) ∘ fun source' =>
      (fetched t ctx query source').map (itemOf ctx query source'))
    (l := sourcesToQuery trim toUpperCase query) ?_
  · rw [hsum, List.count_eq_one_of_mem (List.Nodup.of_map _ queried_types) hsource, one_nsmul,
      Function.comp_apply, hbucket, if_pos rfl, fetched, length_firsts]
  · intro source' hne hsource'
    rw [Function.comp_apply, hbucket, if_neg]
    intro htype
    exact hne (List.inj_on_of_nodup_map registry_types (mem_registry hsource')
      (mem_registry hsource) htype)

theorem merged_walked :
    Walked (sourcesToQuery trim toUpperCase query) t ctx query
      (merged trim toUpperCase t ctx query) where
  sorted := List.pairwise_insertionSort _ _
  once := merged_once
  matched item hitem := by
    obtain ⟨source, hsource, row, hrow, rfl⟩ := mem_merged.mp hitem
    exact ⟨source, hsource, row, mem_of_firsts newer hrow, rfl⟩
  counted source hsource := merged_counted hsource
  newest source hsource row hrow other hother hin hout := by
    rw [itemOf_mem_merged hsource hrow] at hin
    rw [itemOf_mem_merged hsource hother] at hout
    exact firsts_before newer hin hother hout
  complete source hsource hle row hrow :=
    (itemOf_mem_merged hsource hrow).mpr ((mem_firsts_of_le newer hle).mpr hrow)

-- ---
-- The walk
-- ---

/-- The filter, at another page. -/
def atPage (query : ListApprovalsDto) (page : Nat) :
    ListApprovalsDto := { query with page := some page }

theorem list_data (page : Nat) : (list trim toUpperCase t ctx (atPage query page)).data =
    pageOf query.size (merged trim toUpperCase t ctx query) page := rfl

theorem list_total (page : Nat) : (list trim toUpperCase t ctx (atPage query page)).total =
    (merged trim toUpperCase t ctx query).length := rfl

theorem walk_data {fuel : Nat} (hsize : ∀ size ∈ query.pageSize, 1 ≤ size)
    (hfuel : (merged trim toUpperCase t ctx query).length < fuel) :
    walk (fun page => (list trim toUpperCase t ctx (atPage query page)).data) fuel 1 =
      merged trim toUpperCase t ctx query := by
  have hpos : 0 < query.size := by
    unfold ListApprovalsDto.size
    cases hpage : query.pageSize with
    | none => decide
    | some size => exact hsize size hpage
  simp only [list_data]
  exact walk_pageOf hpos hfuel

/-- Walking the pages finds, once and by the time of the request, the newest matching rows of
each source up to its cap, and the total is their number. -/
theorem walk_list (trim toUpperCase : String → String) (t : Tables) (ctx : BranchContext)
    (query : ListApprovalsDto) (hsize : ∀ size ∈ query.pageSize, 1 ≤ size) :
    ∃ items, Walked (sourcesToQuery trim toUpperCase query) t ctx query items ∧
      (∀ fuel, items.length < fuel →
        walk (fun page => (list trim toUpperCase t ctx (atPage query page)).data) fuel 1 = items) ∧
      ∀ page, (list trim toUpperCase t ctx (atPage query page)).total = items.length :=
  ⟨merged trim toUpperCase t ctx query, merged_walked, fun _ => walk_data hsize, list_total⟩

/-- So many discounts, requested one after the other. -/
def discounts (n : Nat) : Tables where
  rows
    | .discount => (List.range n).map fun id =>
        { id, orgId := 0, branchId := some 0, status := "PENDING", createdAt := id }
    | _ => []
  keys type := by
    cases type with
    | discount => simpa [Function.comp_def] using List.nodup_range
    | _ => exact .nil

/-- Two discounts, on a page each. -/
theorem walk_list_two :
    ∃ items, Walked (sourcesToQuery id id { pageSize := some 1 }) (discounts 2) ⟨0, 0⟩
        { pageSize := some 1 } items ∧
      (∀ fuel, items.length < fuel →
        walk (fun page =>
          (list id id (discounts 2) ⟨0, 0⟩ (atPage { pageSize := some 1 } page)).data)
          fuel 1 = items) ∧
      ∀ page, (list id id (discounts 2) ⟨0, 0⟩ (atPage { pageSize := some 1 } page)).total =
        items.length :=
  walk_list id id (discounts 2) ⟨0, 0⟩ { pageSize := some 1 } (by simp)

/-- Of 51 discounts in pages of ten the first is on no page. -/
theorem inbox_capped :
    ¬ ∀ (trim toUpperCase : String → String) (t : Tables) (ctx : BranchContext)
        (query : ListApprovalsDto), (∀ size ∈ query.pageSize, 1 ≤ size) →
      ∃ items, (∀ fuel, items.length < fuel →
          walk (fun page => (list trim toUpperCase t ctx (atPage query page)).data) fuel 1 =
            items) ∧
        ∀ source ∈ sourcesToQuery trim toUpperCase query,
          ∀ row ∈ matchingRows t ctx query source, itemOf ctx query source row ∈ items := by
  intro h
  have hsize : ∀ size ∈ ({ pageSize := some 10 } : ListApprovalsDto).pageSize, 1 ≤ size := by simp
  obtain ⟨items, hwalk, hall⟩ := h id id (discounts 51) ⟨0, 0⟩ { pageSize := some 10 } hsize
  have hitems := hwalk (max items.length (merged id id (discounts 51) ⟨0, 0⟩
    { pageSize := some 10 }).length + 1) (by omega)
  rw [walk_data hsize (by omega)] at hitems
  have hsource : approvalSourceRegistry.head (by decide) ∈
      sourcesToQuery id id { pageSize := some 10 } := by
    decide
  have hrow : (⟨0, 0, some 0, "PENDING", 0, none, none, none, none, none, none, none⟩ : SourceRow) ∈
      matchingRows (discounts 51) ⟨0, 0⟩ { pageSize := some 10 }
        (approvalSourceRegistry.head (by decide)) := by
    decide +kernel
  have hmem := hall _ hsource _ hrow
  rw [← hitems, itemOf_mem_merged hsource hrow] at hmem
  exact absurd hmem (by decide +kernel)

end NimbusPos.ApprovalInbox
