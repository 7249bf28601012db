import NimbusPos.PosHandoff.Conservation

/-!
# Cost of goods across a split or a move

A partial request writes the cost of what it takes on the new row and leaves the cost total of the
row it takes it from. `cost_conserved_iff`: a split or a move conserves the cost of its orders when
what the partial requests take costs next to nothing, and what the selected rows are left with is
what they already cost.
-/

namespace NimbusPos.PosHandoffService

open Lib Lib.Service

/-- The cost total is the unit cost times the quantity, to the cent. -/
def Costed (row : OrderItem) : Prop :=
  |row.costTotal.getD 0 - row.costUnit.getD 0 * row.quantity| ≤ 1

instance (row : OrderItem) : Decidable (Costed row) :=
  inferInstanceAs (Decidable (|row.costTotal.getD 0 - row.costUnit.getD 0 * row.quantity| ≤ 1))

/-- Sum of the cost totals of the lines of two orders. -/
def pairCost (s : Store) (a b : Id) : Cents :=
  s.orderItems.total fun _ => onPair a b fun row => row.costTotal.getD 0

/-- The sum changes by a cent a line at most; the selected rows and the new ones are costed. -/
structure CostConserved (s t : Store) (sourceId targetId : Id) (sels : List ItemSelection) :
    Prop where
  total : |pairCost t sourceId targetId - pairCost s sourceId targetId| ≤ sels.length
  selected : ∀ sel ∈ sels, ∀ row, t.orderItems.get? sel.orderItemId = some row → Costed row
  created : ∀ k row, s.orderItems.get? k = none → t.orderItems.get? k = some row → Costed row

/-- What a partial request takes, at unit cost. -/
def takenCost (items : Table OrderItem) (sourceId : Id) (sel : ItemSelection) : Cents :=
  match sourceLine items sourceId sel.orderItemId with
  | none => 0
  | some it => if sel.quantity = it.quantity then 0 else it.costUnit.getD 0 * sel.quantity

/-- What stays in a selected row: a row that is moved whole keeps its quantity. -/
def keptQuantity (it : OrderItem) (sel : ItemSelection) : Int :=
  if sel.quantity = it.quantity then it.quantity else it.quantity - sel.quantity

/-- The partial requests take a cent a line at most, and each selected row costs, before the call,
what the quantity that stays in it costs. -/
structure CostStays (s : Store) (sourceId : Id) (sels : List ItemSelection) : Prop where
  taken : |(sels.map (takenCost s.orderItems sourceId)).sum| ≤ sels.length
  kept : ∀ sel ∈ sels, ∀ it, s.itemOn sourceId sel.orderItemId = some it →
    Costed { it with quantity := keptQuantity it sel }

variable {s t : Store} {sels : List ItemSelection} {items : Table OrderItem}

-- ---
-- The sum over both orders
-- ---

theorem requested_of_nodup (hdistinct : (sels.map (·.orderItemId)).Nodup) (hsel : sel ∈ sels) :
    requested sels sel.orderItemId = [sel.quantity] := by
  induction sels with
  | nil => cases hsel
  | cons first rest ih =>
    rw [List.map_cons, List.nodup_cons] at hdistinct
    obtain ⟨hfirst, hrest⟩ := hdistinct
    rcases List.mem_cons.mp hsel with rfl | hsel
    · have hnone : rest.filter (fun other => other.orderItemId == sel.orderItemId) = [] := by
        simp only [List.filter_eq_nil_iff, beq_iff_eq]
        intro other hother hsame
        exact hfirst (hsame ▸ List.mem_map_of_mem hother)
      simp [requested, hnone]
    · have hne : first.orderItemId ≠ sel.orderItemId := fun hsame =>
        hfirst (hsame ▸ List.mem_map_of_mem hsel)
      have hskip : requested (first :: rest) sel.orderItemId = requested rest sel.orderItemId := by
        simp [requested, hne]
      rw [hskip, ih hrest hsel]

/-- What the partial requests of each line take, by the requests. -/
theorem total_partials
    (hfits : ∀ sel ∈ sels, ∃ it, sourceLine items sourceId sel.orderItemId = some it) :
    (items.total fun k it => if it.orderId = sourceId then
      it.costUnit.getD 0 * (partials it (requested sels k)).sum else 0) =
      (sels.map (takenCost items sourceId)).sum := by
  induction sels using List.reverseRecOn with
  | nil =>
    refine Table.total_zero fun k it _ => ?_
    simp [partials]
  | append_singleton sels sel ih =>
    obtain ⟨it, hit⟩ := hfits sel (by simp)
    obtain ⟨hget, hsource⟩ := sourceLine_iff.mp hit
    rw [List.map_append, List.sum_append, ← ih fun sel' h => hfits sel' (List.mem_append_left _ h)]
    rw [Table.total_at hget fun j row _ hj => by rw [requested_of_ne hj]]
    congr 1
    simp only [hsource, if_true, requested_self, partials_snoc, List.map_cons, List.map_nil,
      List.sum_cons, List.sum_nil, add_zero, takenCost, hit]
    split
    · simp
    · simp [mul_add]

theorem pairCost_moved (hfits : selectionsFit s sourceId sels)
    (h : Moved s.orderItems sourceId targetId sels t.orderItems) :
    pairCost t sourceId targetId =
      pairCost s sourceId targetId + (sels.map (takenCost s.orderItems sourceId)).sum := by
  have hlines : ∀ sel ∈ sels, ∃ it, sourceLine s.orderItems sourceId sel.orderItemId = some it := by
    intro sel hsel
    obtain ⟨it, hit, -⟩ := hfits sel hsel
    exact ⟨it, hit⟩
  rw [pairCost, pairCost, onPair_total h, ← total_partials hlines]
  congr 1
  apply Table.total_congr
  intro k it _
  -- the row keeps its cost total, and the rows it sheds cost what they take
  have hshed : ((shed targetId it (requested sels k)).map fun row => row.costTotal.getD 0).sum =
      it.costUnit.getD 0 * (partials it (requested sels k)).sum := by
    have hone : (fun row : OrderItem => row.costTotal.getD 0) ∘ movedLine targetId it =
        fun quantity => it.costUnit.getD 0 * quantity := by
      funext quantity
      cases hunit : it.costUnit <;> simp [movedLine, hunit]
    rw [shed, List.map_map, hone, List.sum_map_mul_left, List.map_id']
  rw [hshed]
  simp [fate]

-- ---
-- The affected rows
-- ---

theorem costed_of_shed (h : row ∈ shed targetId it requests) : Costed row := by
  obtain ⟨quantity, -, rfl⟩ := List.mem_map.mp h
  cases hunit : it.costUnit <;> simp [Costed, movedLine, hunit]

theorem Moved.created_costed (h : Moved s.orderItems sourceId targetId sels t.orderItems)
    (hnew : s.orderItems.get? k = none) (hget : t.orderItems.get? k = some row) : Costed row := by
  rcases h.rows k row hget with ⟨hold, -⟩ | ⟨it, hit, -⟩ | ⟨j, it, -, hshed⟩
  · rw [hnew] at hold
    cases hold
  · rw [sourceLine_iff, hnew] at hit
    cases hit.1
  · exact costed_of_shed hshed

/-- A selected row is costed after the call when it was at the quantity that stays in it. -/
theorem Moved.selected_costed (h : Moved s.orderItems sourceId targetId sels t.orderItems)
    (hdistinct : (sels.map (·.orderItemId)).Nodup) (hsel : sel ∈ sels)
    (hit : s.itemOn sourceId sel.orderItemId = some it) :
    (∀ row, t.orderItems.get? sel.orderItemId = some row → Costed row) ↔
      Costed { it with quantity := keptQuantity it sel } := by
  have hrow := h.lines _ _ hit
  rw [requested_of_nodup hdistinct hsel] at hrow
  have hkept : (fate targetId it [sel.quantity]).quantity = keptQuantity it sel := by
    by_cases hwhole : sel.quantity = it.quantity <;>
      simp [fate, leftQuantity, partials, keptQuantity, hwhole]
  have hcosted : Costed (fate targetId it [sel.quantity]) ↔
      Costed { it with quantity := keptQuantity it sel } := by
    simp only [Costed, hkept]
    rfl
  rw [← hcosted]
  constructor
  · intro hall
    exact hall _ hrow
  · rintro hfate row hget
    rw [hrow] at hget
    cases hget
    exact hfate

-- ---
-- When the cost is conserved
-- ---

/-- An accepted split or move of distinct lines conserves the cost of its two orders if and only if
the cost stays where it was. -/
theorem cost_conserved_iff (h : Accepted s sels sourceId targetId t)
    (hdistinct : (sels.map (·.orderItemId)).Nodup) :
    CostConserved s t sourceId targetId sels ↔ CostStays s sourceId sels := by
  have htotal : pairCost t sourceId targetId - pairCost s sourceId targetId =
      (sels.map (takenCost s.orderItems sourceId)).sum := by
    rw [pairCost_moved h.fits h.moved]
    ring
  constructor
  · intro hconserved
    refine ⟨htotal ▸ hconserved.total, fun sel hsel it hit => ?_⟩
    exact (h.moved.selected_costed hdistinct hsel hit).mp (hconserved.selected sel hsel)
  · intro hstays
    refine ⟨htotal ▸ hstays.taken, fun sel hsel => ?_, fun k row => h.moved.created_costed⟩
    obtain ⟨it, hit, -⟩ := h.fits sel hsel
    exact (h.moved.selected_costed hdistinct hsel hit).mpr (hstays.kept sel hsel it hit)

-- ---
-- Two units of a line of five
-- ---

/-- The item costs 1.00. -/
def costedCafe : Store :=
  { System.cafe with
    menu := { System.cafe.menu with
      recipeIngredients := Table.empty.insert
        { branchId := 0, menuItemId := 0, menuItemServingId := none, modifierOptionId := none
          qtyPerUnit := 1000, wastePct := 0, theoreticalUnitCost := 1000 } } }

theorem five_taken : (1 : Int) ≤ 5 := by decide

def splitFive : SplitItemsDto where
  items := [⟨0, 5, five_taken⟩]
  size := System.one_selection

/-- Two of five units are split off: the five cost 5.00 before, and 7.00 after. -/
theorem split_creates_cost :
    ¬∀ (s : Store) (sels : List ItemSelection) (sourceId targetId : Id) (t : Store),
      Accepted s sels sourceId targetId t → (sels.map (·.orderItemId)).Nodup →
        CostConserved s t sourceId targetId sels := by
  intro hall
  let s := System.after (· == ·) costedCafe fiveUnits
  obtain ⟨_, hok⟩ := ok_of_returned (r := splitItems ⟨0, 0⟩ 0 splitTwo s) (by decide)
  have htotal := (hall _ _ _ _ _ (.split hok) (by decide)).total
  revert htotal
  decide

theorem cost_conserved_iff_five : ∃ t,
    let s := System.after (· == ·) costedCafe fiveUnits
    Accepted s splitFive.items 0 s.orders.next t ∧
      CostConserved s t 0 s.orders.next splitFive.items := by
  let s := System.after (· == ·) costedCafe fiveUnits
  obtain ⟨_, hok⟩ := ok_of_returned (r := splitItems ⟨0, 0⟩ 0 splitFive s) (by decide)
  refine ⟨_, .split hok, (cost_conserved_iff (.split hok) (by decide)).mpr ⟨by decide, ?_⟩⟩
  rintro sel hsel it hit
  cases List.mem_singleton.mp hsel
  cases hit
  decide

end NimbusPos.PosHandoffService
