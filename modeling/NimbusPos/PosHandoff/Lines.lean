import Mathlib.Algebra.BigOperators.Ring.List
import Mathlib.Data.List.Induction
import NimbusPos.PosHandoff.Service

/-!
# What the selection loop does to the lines

The loop works on rows as they were read before it, so the fate of a line
depends only on the quantities requested of it: it changes order when one of
them is the whole line, ends with what the last of the others left, and each of
the others makes a row in the destination.
-/

namespace NimbusPos.PosHandoffService

open Lib

-- ---
-- Requests for one line
-- ---

/-- The quantities requested of a line, in order. -/
def requested (sels : List ItemSelection) (itemId : Id) : List Int :=
  (sels.filter fun sel => sel.orderItemId == itemId).map (·.quantity)

/-- The requests for less than the whole line. -/
def partials (it : OrderItem) (requests : List Int) : List Int :=
  requests.filter fun quantity => quantity != it.quantity

/-- What the last of them left in the row. -/
def leftQuantity (it : OrderItem) (requests : List Int) : Int :=
  it.quantity - (partials it requests).getLast?.getD 0

/-- The row of a line after the loop. -/
def fate (targetId : Id) (it : OrderItem) (requests : List Int) : OrderItem :=
  { it with
    orderId := if requests.contains it.quantity then targetId else it.orderId
    quantity := leftQuantity it requests
    subtotal := if (partials it requests).isEmpty then it.subtotal
      else it.price * leftQuantity it requests }

/-- The rows a line sheds into the destination. -/
def shed (targetId : Id) (it : OrderItem) (requests : List Int) : List OrderItem :=
  (partials it requests).map (movedLine targetId it)

@[simp] theorem requested_nil : requested [] itemId = [] := rfl

theorem requested_snoc : requested (sels ++ [sel]) itemId =
    if sel.orderItemId = itemId then requested sels itemId ++ [sel.quantity]
    else requested sels itemId := by
  by_cases h : sel.orderItemId = itemId <;> simp [requested, List.filter_append, h]

theorem mem_requested : quantity ∈ requested sels itemId ↔
    ∃ sel ∈ sels, sel.orderItemId = itemId ∧ sel.quantity = quantity := by
  simp [requested, and_assoc]

theorem partials_snoc : partials it (requests ++ [quantity]) =
    if quantity = it.quantity then partials it requests
      else partials it requests ++ [quantity] := by
  by_cases h : quantity = it.quantity <;> simp [partials, List.filter_append, h]

@[simp] theorem fate_nil : fate targetId it [] = it := by
  simp [fate, leftQuantity, partials]

@[simp] theorem shed_nil : shed targetId it [] = [] := rfl

/-- A request for the whole line reparents its row. -/
theorem fate_whole : fate targetId it (requests ++ [it.quantity]) =
    { fate targetId it requests with orderId := targetId } := by
  simp [fate, leftQuantity, partials_snoc]

theorem shed_whole : shed targetId it (requests ++ [it.quantity]) = shed targetId it requests := by
  simp [shed, partials_snoc]

/-- A smaller request overwrites what the ones before it left. -/
theorem fate_partial (h : quantity ≠ it.quantity) : fate targetId it (requests ++ [quantity]) =
    { fate targetId it requests with
      quantity := it.quantity - quantity, subtotal := it.price * (it.quantity - quantity) } := by
  have hq : ¬it.quantity = quantity := fun he => h he.symm
  simp [fate, leftQuantity, partials_snoc, h, hq]

theorem shed_partial (h : quantity ≠ it.quantity) : shed targetId it (requests ++ [quantity]) =
    shed targetId it requests ++ [movedLine targetId it quantity] := by
  simp [shed, partials_snoc, h]

-- ---
-- The loop
-- ---

/-- The lines of one order, `new Map(source.items.map((i) => [i.id, i]))`. -/
def sourceLine (items : Table OrderItem) (sourceId : Id) (itemId : Id) : Option OrderItem :=
  (items.get? itemId).filter (·.orderId == sourceId)

theorem sourceLine_iff : sourceLine items sourceId itemId = some it ↔
    items.get? itemId = some it ∧ it.orderId = sourceId := by
  simp [sourceLine, Option.filter_eq_some_iff]

/-- What a line before the loop contributes to a sum over the rows after it. -/
def spread (sourceId targetId : Id) (sels : List ItemSelection) (f : OrderItem → Int) (k : Id)
    (it : OrderItem) : Int :=
  if it.orderId = sourceId then
    f (fate targetId it (requested sels k)) + ((shed targetId it (requested sels k)).map f).sum
  else f it

/-- Where the rows of `done` come from after the selections `sels`. -/
structure Moved (items : Table OrderItem) (sourceId targetId : Id) (sels : List ItemSelection)
    (done : Table OrderItem) : Prop where
  /-- Each line of the source has met its fate. -/
  lines : ∀ k it, sourceLine items sourceId k = some it →
    done.get? k = some (fate targetId it (requested sels k))
  /-- Every row is an untouched one, a line of the source or one that it shed. -/
  rows : ∀ k row, done.get? k = some row →
    (items.get? k = some row ∧ row.orderId ≠ sourceId) ∨
    (∃ it, sourceLine items sourceId k = some it ∧ row = fate targetId it (requested sels k)) ∨
    ∃ j it, sourceLine items sourceId j = some it ∧ row ∈ shed targetId it (requested sels j)
  total : ∀ f : OrderItem → Int,
    done.total (fun _ row => f row) = items.total (spread sourceId targetId sels f)

theorem Moved.start (items : Table OrderItem) (sourceId targetId : Id) :
    Moved items sourceId targetId [] items where
  lines k it h := by simpa using (sourceLine_iff.mp h).1
  rows k row h := by
    by_cases hs : row.orderId = sourceId
    · exact .inr (.inl ⟨row, sourceLine_iff.mpr ⟨h, hs⟩, by simp⟩)
    · exact .inl ⟨h, hs⟩
  total f := Table.total_congr fun _ _ _ => by simp [spread]

theorem requested_of_ne (h : k ≠ sel.orderItemId) :
    requested (sels ++ [sel]) k = requested sels k := by
  rw [requested_snoc, if_neg fun he => h he.symm]

theorem requested_self : requested (sels ++ [sel]) sel.orderItemId =
    requested sels sel.orderItemId ++ [sel.quantity] := by
  rw [requested_snoc, if_pos rfl]

/-- One more selection changes one line's contribution. -/
theorem total_spread_snoc {items : Table OrderItem}
    (hit : sourceLine items sourceId sel.orderItemId = some it) (f : OrderItem → Int) :
    items.total (spread sourceId targetId (sels ++ [sel]) f) =
      items.total (spread sourceId targetId sels f) +
        (spread sourceId targetId (sels ++ [sel]) f sel.orderItemId it -
          spread sourceId targetId sels f sel.orderItemId it) := by
  apply Table.total_at (sourceLine_iff.mp hit).1
  intro j row _ hj
  simp only [spread, requested_of_ne hj]

theorem Moved.whole (h : Moved items sourceId targetId sels done)
    (hit : sourceLine items sourceId sel.orderItemId = some it) (hq : sel.quantity = it.quantity) :
    Moved items sourceId targetId (sels ++ [sel])
      (done.update sel.orderItemId fun row => { row with orderId := targetId }) := by
  have hself : requested (sels ++ [sel]) sel.orderItemId =
      requested sels sel.orderItemId ++ [it.quantity] := hq ▸ requested_self
  have hrow := h.lines _ _ hit
  constructor
  · intro k it' hk
    by_cases hke : k = sel.orderItemId
    · subst hke
      cases hit.symm.trans hk
      simp [hrow, hself, fate_whole]
    · rw [Table.get?_update_ne _ _ hke, h.lines k it' hk, requested_of_ne hke]
  · intro k row hk
    by_cases hke : k = sel.orderItemId
    · subst hke
      simp only [Table.get?_update_self, hrow, Option.map_some, Option.some.injEq] at hk
      exact .inr (.inl ⟨it, hit, by rw [hself, fate_whole, ← hk]⟩)
    · rw [Table.get?_update_ne _ _ hke] at hk
      rcases h.rows k row hk with hu | ⟨it', hl, rfl⟩ | ⟨j, it', hl, hs⟩
      · exact .inl hu
      · exact .inr (.inl ⟨it', hl, by rw [requested_of_ne hke]⟩)
      · refine .inr (.inr ⟨j, it', hl, ?_⟩)
        by_cases hje : j = sel.orderItemId
        · subst hje
          cases hit.symm.trans hl
          rwa [hself, shed_whole]
        · rwa [requested_of_ne hje]
  · intro f
    rw [Table.total_update hrow, h.total f, total_spread_snoc hit]
    simp only [spread, (sourceLine_iff.mp hit).2, if_true, hself, fate_whole, shed_whole]
    ring

/-- A smaller request decrements the row and sheds a new one. -/
theorem Moved.part (h : Moved items sourceId targetId sels done)
    (hit : sourceLine items sourceId sel.orderItemId = some it) (hq : sel.quantity ≠ it.quantity) :
    Moved items sourceId targetId (sels ++ [sel])
      ((done.update sel.orderItemId fun row =>
          { row with
            quantity := it.quantity - sel.quantity
            subtotal := it.price * (it.quantity - sel.quantity) }).insert
        (movedLine targetId it sel.quantity)) := by
  have hself : requested (sels ++ [sel]) sel.orderItemId =
      requested sels sel.orderItemId ++ [sel.quantity] := requested_self
  have hrow := h.lines _ _ hit
  constructor
  · intro k it' hk
    apply Table.get?_insert_of_some
    by_cases hke : k = sel.orderItemId
    · subst hke
      cases hit.symm.trans hk
      simp [hrow, hself, fate_partial hq]
    · rw [Table.get?_update_ne _ _ hke, h.lines k it' hk, requested_of_ne hke]
  · intro k row hk
    rcases Table.insert_cases hk with ⟨-, rfl⟩ | hk
    · refine .inr (.inr ⟨sel.orderItemId, it, hit, ?_⟩)
      simp [hself, shed_partial hq]
    by_cases hke : k = sel.orderItemId
    · subst hke
      simp only [Table.get?_update_self, hrow, Option.map_some, Option.some.injEq] at hk
      exact .inr (.inl ⟨it, hit, by rw [hself, fate_partial hq, ← hk]⟩)
    · rw [Table.get?_update_ne _ _ hke] at hk
      rcases h.rows k row hk with hu | ⟨it', hl, rfl⟩ | ⟨j, it', hl, hs⟩
      · exact .inl hu
      · exact .inr (.inl ⟨it', hl, by rw [requested_of_ne hke]⟩)
      · refine .inr (.inr ⟨j, it', hl, ?_⟩)
        by_cases hje : j = sel.orderItemId
        · subst hje
          cases hit.symm.trans hl
          rw [hself, shed_partial hq]
          exact List.mem_append_left _ hs
        · rwa [requested_of_ne hje]
  · intro f
    rw [Table.total_insert, Table.total_update hrow, h.total f, total_spread_snoc hit]
    simp only [spread, (sourceLine_iff.mp hit).2, if_true, hself, fate_partial hq, shed_partial hq,
      List.map_append, List.map_cons, List.map_nil, List.sum_append, List.sum_cons, List.sum_nil]
    ring

/-- The loop, by its turns. -/
theorem moveSelections_moved (items : Table OrderItem) (sourceId targetId : Id)
    (hfits : ∀ sel ∈ sels, ∃ it, sourceLine items sourceId sel.orderItemId = some it) :
    Moved items sourceId targetId sels
      (moveSelections (sourceLine items sourceId) targetId items sels) := by
  induction sels using List.reverseRecOn with
  | nil => exact .start items sourceId targetId
  | append_singleton sels sel ih =>
    have hrun := ih fun s hs => hfits s (List.mem_append_left _ hs)
    obtain ⟨it, hit⟩ := hfits sel (by simp)
    simp only [moveSelections, List.foldl_append, List.foldl_cons, List.foldl_nil, moveSelection,
      hit, moveLine, Int.sub_eq_zero] at hrun ⊢
    split
    · rename_i hq
      exact hrun.whole hit hq.symm
    · rename_i hq
      exact hrun.part hit (Ne.symm hq)

/-- What validation lets through asks for at least one and for no more than the
line holds. -/
theorem requested_bounds {s : Store} (hfits : selectionsFit s sourceId sels)
    (hit : sourceLine s.orderItems sourceId k = some it) :
    ∀ quantity ∈ requested sels k, 1 ≤ quantity ∧ quantity ≤ it.quantity := by
  intro quantity hq
  obtain ⟨sel, hsel, rfl, rfl⟩ := mem_requested.mp hq
  obtain ⟨it', hit', hle⟩ := hfits sel hsel
  cases hit.symm.trans hit'
  exact ⟨sel.quantity_pos, hle⟩

theorem partials_bounds (h : ∀ quantity ∈ requests, 1 ≤ quantity ∧ quantity ≤ it.quantity) :
    ∀ quantity ∈ partials it requests, 1 ≤ quantity ∧ quantity < it.quantity := by
  intro quantity hq
  simp only [partials, List.mem_filter, bne_iff_ne] at hq
  obtain ⟨hpos, hle⟩ := h quantity hq.1
  exact ⟨hpos, lt_of_le_of_ne hle hq.2⟩

/-- A row is never left empty. -/
theorem leftQuantity_pos (hit : 1 ≤ it.quantity)
    (h : ∀ quantity ∈ requests, 1 ≤ quantity ∧ quantity ≤ it.quantity) :
    1 ≤ leftQuantity it requests := by
  unfold leftQuantity
  cases hlast : (partials it requests).getLast? with
  | none => simpa using hit
  | some quantity =>
    have hq := partials_bounds h quantity (List.mem_of_getLast? hlast)
    simp only [Option.getD_some]
    omega

-- ---
-- The value on both sides
-- ---

/-- What the lines kept by the source are worth. -/
def keptValue (items : Table OrderItem) (sourceId : Id) (sels : List ItemSelection) : Cents :=
  items.total fun k it =>
    if it.orderId = sourceId then
      if (requested sels k).contains it.quantity then 0
        else it.price * leftQuantity it (requested sels k)
    else 0

/-- What arrives at the target: lines that were moved whole, and rows shed. -/
def arrivingValue (items : Table OrderItem) (sourceId : Id) (sels : List ItemSelection) : Cents :=
  items.total fun k it =>
    if it.orderId = sourceId then
      it.price * ((if (requested sels k).contains it.quantity then leftQuantity it
        (requested sels k)
        else 0) + (partials it (requested sels k)).sum)
    else 0

/-- The contribution of a row to the value of an order. -/
def worthOn (orderId : Id) (row : OrderItem) : Cents :=
  if row.orderId = orderId then row.price * row.quantity else 0

theorem lineValue_eq (items : Table OrderItem) (orderId : Id) :
    lineValue items orderId = items.total fun _ => worthOn orderId := by
  simp only [lineValue, Table.sumWhere_eq_total, beq_iff_eq]
  rfl

theorem shed_worth : ((shed targetId it requests).map (worthOn orderId)).sum =
    if targetId = orderId then it.price * (partials it requests).sum else 0 := by
  have hone : worthOn orderId ∘ movedLine targetId it =
      fun quantity => if targetId = orderId then it.price * quantity else 0 := rfl
  rw [shed, List.map_map, hone]
  split
  · rw [List.sum_map_mul_left, List.map_id']
  · simp

theorem Moved.kept (h : Moved items sourceId targetId sels done) (hne : sourceId ≠ targetId) :
    lineValue done sourceId = keptValue items sourceId sels := by
  rw [lineValue_eq, h.total]
  apply Table.total_congr
  intro k it _
  by_cases hs : it.orderId = sourceId
  · simp only [spread, if_pos hs, shed_worth, if_neg hne.symm, worthOn, fate, add_zero]
    split
    · rw [if_neg hne.symm]
    · rfl
  · simp only [spread, if_neg hs, worthOn]

theorem Moved.arriving (h : Moved items sourceId targetId sels done) (hne : sourceId ≠ targetId) :
    lineValue done targetId = lineValue items targetId + arrivingValue items sourceId sels := by
  rw [lineValue_eq, lineValue_eq, h.total, arrivingValue, ← Table.total_add]
  apply Table.total_congr
  intro k it _
  by_cases hs : it.orderId = sourceId
  · have hne' : it.orderId ≠ targetId := hs ▸ hne
    simp only [spread, if_pos hs, shed_worth, if_true, worthOn, fate, if_neg hne']
    split
    · rw [if_pos rfl]
      ring
    · ring
  · simp only [spread, if_neg hs, add_zero]

theorem Moved.others (h : Moved items sourceId targetId sels done) (hs : orderId ≠ sourceId)
    (ht : orderId ≠ targetId) : lineValue done orderId = lineValue items orderId := by
  rw [lineValue_eq, lineValue_eq, h.total]
  apply Table.total_congr
  intro k it _
  by_cases hsource : it.orderId = sourceId
  · have hne : it.orderId ≠ orderId := hsource ▸ hs.symm
    simp only [spread, if_pos hsource, shed_worth, if_neg ht.symm, worthOn, fate, add_zero,
      if_neg hne]
    split
    · rw [if_neg ht.symm]
    · rfl
  · simp only [spread, if_neg hsource]

-- ---
-- Merging
-- ---

theorem reparentAll_eq_contains (items : Table OrderItem) (lines : List (Id × OrderItem)) :
    reparentAll targetId items lines =
      items.updateWhere (fun k _ => (lines.map Prod.fst).contains k)
      fun item => { item with orderId := targetId } := by
  induction lines generalizing items with
  | nil => exact Table.updateWhere_false.symm
  | cons line lines ih =>
    simp only [reparentAll, List.foldl_cons] at ih ⊢
    rw [ih]
    simp only [List.map_cons, List.contains_cons]
    exact Table.updateWhere_or (by intro; rfl) _

/-- One update after another rewrites the lines of the source and no other. -/
theorem reparentAll_eq (s : Store) (sourceId targetId : Id) :
    reparentAll targetId s.orderItems (s.itemsOf sourceId) =
      reparent s.orderItems sourceId targetId := by
  rw [reparentAll_eq_contains, reparent]
  apply Table.updateWhere_congr
  intro k item hget
  have hiff : k ∈ (s.itemsOf sourceId).map Prod.fst ↔ item.orderId = sourceId := by
    simp only [List.mem_map, Prod.exists, exists_and_right, exists_eq_right, Store.itemsOf,
      Table.mem_findMany, hget, Option.some.injEq, beq_iff_eq]
    constructor
    · rintro ⟨_, rfl, hs⟩
      exact hs
    · intro hs
      exact ⟨item, rfl, hs⟩
  rw [Bool.eq_iff_iff, List.contains_iff_mem, hiff, beq_iff_eq]

theorem lineValue_reparent_others (items : Table OrderItem) (hs : orderId ≠ sourceId)
    (ht : orderId ≠ targetId) :
    lineValue (reparent items sourceId targetId) orderId = lineValue items orderId := by
  simp only [lineValue_eq, reparent, Table.total_updateWhere]
  apply Table.total_congr
  intro k it _
  simp only [worthOn, beq_iff_eq]
  by_cases hsource : it.orderId = sourceId
  · simp [hsource, hs.symm, ht.symm]
  · simp [hsource]

theorem lineValue_reparent (items : Table OrderItem) (hne : sourceId ≠ targetId) :
    lineValue (reparent items sourceId targetId) targetId =
      lineValue items targetId + lineValue items sourceId := by
  simp only [lineValue_eq, reparent, Table.total_updateWhere, ← Table.total_add]
  apply Table.total_congr
  intro k it _
  simp only [worthOn, beq_iff_eq]
  by_cases hs : it.orderId = sourceId
  · have hne' : it.orderId ≠ targetId := hs ▸ hne
    simp [hs, hne]
  · simp [hs]

end NimbusPos.PosHandoffService
