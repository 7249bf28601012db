import NimbusPos.Inventory.OnHand
import NimbusPos.Lib.Rounding

/-!
# Deductions, oldest batch first

A deduction that runs alone takes what it is asked for, as far as the stock goes, from one batch
after the other. It takes the quantity to three places, like the columns.
-/

namespace NimbusPos.InventoryService

open Lib Lib.Program

/-- `fifoDeduct` of any decimal: `qty.toFixed(3)` rounds it half up to thousandths. -/
def fifoDeductDecimal (ctx : BranchContext) (itemId : Id) (qty : ℚ) :
    StockProgram (List (Id × Int)) :=
  fifoDeduct ctx itemId (roundHalf (1000 * qty))

/-- A call with no other between its statements. -/
abbrev alone (x : StockProgram α) (s : Store) : Store × Except HttpError α := x.run exec s

theorem run_query {k : Statement} {answer : k.Answer} (h : exec s k = (t, .ok answer)) :
    alone (query k) s = (t, .ok answer) := h

-- ---
-- One batch
-- ---

def setRemaining (s : Store) (batchId : Id) (remainingQty : Int) : Store :=
  { s with batches := s.batches.update batchId fun batch => { batch with remainingQty } }

theorem setRemaining_get (s : Store) (batchId : Id) (remainingQty : Int) :
    (setRemaining s batchId remainingQty).batches.get? k =
      if k = batchId then (s.batches.get? k).map fun batch => { batch with remainingQty }
      else s.batches.get? k := Table.get?_update _ _

theorem onHand_eq_total (s : Store) (item : Stocked) : s.onHand item =
    s.batches.total fun _ batch =>
      if batch.stocked = item ∧ 0 < batch.remainingQty then batch.remainingQty else 0 := by
  rw [Store.onHand, Table.sumWhere_eq_total]
  refine Table.total_congr fun _ batch _ => ?_
  simp [StockBatch.holds]

/-- The stock of the item goes down with the batch. -/
theorem setRemaining_onHand (hget : s.batches.get? batchId = some batch)
    (hbatch : 0 < batch.remainingQty) (hqty : 0 ≤ remainingQty) (item : Stocked) :
    (setRemaining s batchId remainingQty).onHand item =
      s.onHand item - ofItem batch.stocked (batch.remainingQty - remainingQty) item := by
  have hcount : (if 0 < remainingQty then remainingQty else 0) = remainingQty := by
    split <;> omega
  simp only [onHand_eq_total, setRemaining, Table.total_update hget, StockBatch.stocked, ofItem]
  by_cases hitem : item = ⟨batch.orgId, batch.branchId, batch.itemId⟩
  · subst hitem
    simp only [true_and, hbatch, if_true, hcount]
    ring
  · simp [hitem, Ne.symm hitem]

theorem createBatch_onHand (s : Store) {row : StockBatch} (hqty : 0 < row.remainingQty)
    (item : Stocked) : { s with batches := s.batches.insert row }.onHand item =
      s.onHand item + ofItem row.stocked row.remainingQty item := by
  simp only [onHand_eq_total, Table.total_insert, hqty, and_true, ofItem, eq_comm]

-- ---
-- The loop
-- ---

/-- What the loop leaves of the batches that it reads, oldest first. -/
structure Deducted (s : Store) (item : Stocked) (batches : List (Id × StockBatch)) (qty : Int)
    (t : Store) (deductions : List (Id × Int)) : Prop where
  total : (deductions.map (·.2)).sum = min (max qty 0) (batches.map (·.2.remainingQty)).sum
  onHand : ∀ other, t.onHand other =
    s.onHand other - ofItem item (deductions.map (·.2)).sum other
  rows : ∀ row ∈ batches, ∃ remainingQty, 0 ≤ remainingQty ∧
    remainingQty ≤ row.2.remainingQty ∧
      t.batches.get? row.1 = some { row.2 with remainingQty }
  others : ∀ k, k ∉ batches.map (·.1) → t.batches.get? k = s.batches.get? k
  untouched : qty ≤ 0 → t = s
  order : batches.Pairwise fun earlier later => t.batches.get? later.1 ≠ some later.2 →
    t.batches.get? earlier.1 = some { earlier.2 with remainingQty := 0 }

/-- The batches as they are stored: of the item, and not empty. -/
def Holding (s : Store) (item : Stocked) (batches : List (Id × StockBatch)) : Prop :=
  ∀ row ∈ batches, s.batches.get? row.1 = some row.2 ∧ row.2.stocked = item ∧
    0 < row.2.remainingQty

theorem Holding.sum_nonneg (h : Holding s item batches) :
    0 ≤ (batches.map (·.2.remainingQty)).sum := by
  refine List.sum_nonneg fun qty hqty => ?_
  obtain ⟨row, hrow, rfl⟩ := List.mem_map.mp hqty
  exact (h row hrow).2.2.le

/-- Nothing is asked for any more. -/
theorem deducted_nothing (h : Holding s item batches) (hqty : qty ≤ 0) :
    Deducted s item batches qty s [] where
  total := by
    have hsum := h.sum_nonneg
    rw [max_eq_right hqty, min_eq_left hsum]
    rfl
  onHand other := by simp [ofItem]
  rows row hrow := ⟨row.2.remainingQty, (h row hrow).2.2.le, le_refl _, (h row hrow).1⟩
  others _ _ := rfl
  untouched _ := rfl
  order := by
    refine List.pairwise_of_forall_mem_list fun earlier _ later hlater htouched => ?_
    exact absurd (h later hlater).1 htouched

theorem ofItem_add (item : Stocked) (a b : Int) (other : Stocked) :
    ofItem item (a + b) other = ofItem item a other + ofItem item b other := by
  unfold ofItem
  split <;> simp

/-- One batch is deducted from, and then the others. -/
theorem deducted_cons (hget : s.batches.get? batchId = some batch) (hitem : batch.stocked = item)
    (hbatch : 0 < batch.remainingQty) (hqty : 0 < qty) (hkey : batchId ∉ batches.map (·.1))
    (hrest : Holding (setRemaining s batchId (batch.remainingQty - min batch.remainingQty qty)) item
      batches)
    (h : Deducted (setRemaining s batchId (batch.remainingQty - min batch.remainingQty qty)) item
      batches (qty - min batch.remainingQty qty) t deductions) :
    Deducted s item ((batchId, batch) :: batches) qty t
      ((batchId, min batch.remainingQty qty) :: deductions) := by
  have hhead : t.batches.get? batchId =
      some { batch with remainingQty := batch.remainingQty - min batch.remainingQty qty } := by
    rw [h.others batchId hkey, setRemaining_get, if_pos rfl, hget]
    rfl
  refine ⟨?_, fun other => ?_, fun row hrow => ?_, fun k hk => ?_, fun hno => by omega, ?_⟩
  · have hsum := hrest.sum_nonneg
    have htotal := h.total
    simp only [List.map_cons, List.sum_cons] at htotal ⊢
    generalize (deductions.map (·.2)).sum = taken at htotal ⊢
    generalize (batches.map (·.2.remainingQty)).sum = stock at hsum htotal ⊢
    omega
  · have htaken : batch.remainingQty - (batch.remainingQty - min batch.remainingQty qty) =
        min batch.remainingQty qty := by omega
    rw [h.onHand, setRemaining_onHand hget hbatch (by omega), hitem, htaken, List.map_cons,
      List.sum_cons, ofItem_add]
    ring
  · rcases List.mem_cons.mp hrow with rfl | hrow
    · have hbounds : 0 ≤ batch.remainingQty - min batch.remainingQty qty ∧
          batch.remainingQty - min batch.remainingQty qty ≤ batch.remainingQty := by omega
      exact ⟨_, hbounds.1, hbounds.2, hhead⟩
    · exact h.rows row hrow
  · rw [List.map_cons, List.mem_cons, not_or] at hk
    rw [h.others k hk.2, setRemaining_get, if_neg hk.1]
  · refine List.pairwise_cons.mpr ⟨fun later hlater htouched => ?_, h.order⟩
    by_cases hexhausted : batch.remainingQty ≤ qty
    · have hzero : batch.remainingQty - min batch.remainingQty qty = 0 := by omega
      rw [hhead, hzero]
    · -- nothing is left to be taken of the later batches
      have hsame := h.untouched (by omega)
      exact absurd (hsame ▸ (hrest later hlater).1) htouched

/-- The loop ends, and leaves what it should. -/
theorem deductFrom_run (h : Holding s item batches) (hkeys : (batches.map (·.1)).Nodup)
    (qty : Int) : ∃ t deductions, alone (deductFrom batches qty) s = (t, .ok deductions) ∧
      Deducted s item batches qty t deductions := by
  induction batches generalizing s qty with
  | nil =>
    have hnone : Deducted s item [] qty s [] := {
      total := by simp
      onHand other := by simp [ofItem]
      rows row hrow := by cases hrow
      others _ _ := rfl
      untouched _ := rfl
      order := .nil }
    exact ⟨s, [], rfl, hnone⟩
  | cons row batches ih =>
    obtain ⟨batchId, batch⟩ := row
    obtain ⟨hget, hitem, hbatch⟩ := h _ (.head _)
    rw [List.map_cons, List.nodup_cons] at hkeys
    by_cases hqty : qty ≤ 0
    · refine ⟨s, [], ?_, deducted_nothing h hqty⟩
      simp only [alone, deductFrom, if_pos hqty]
      rfl
    · have hholding : Holding (setRemaining s batchId
          (batch.remainingQty - min batch.remainingQty qty)) item batches := by
        intro row hrow
        obtain ⟨hrow', hrest⟩ := h row (.tail _ hrow)
        refine ⟨?_, hrest⟩
        rw [setRemaining_get, if_neg, hrow']
        rintro rfl
        exact hkeys.1 (List.mem_map.mpr ⟨row, hrow, rfl⟩)
      obtain ⟨t, deductions, hrun, hdeducted⟩ :=
        ih hholding hkeys.2 (qty - min batch.remainingQty qty)
      refine ⟨t, (batchId, min batch.remainingQty qty) :: deductions, ?_,
        deducted_cons hget hitem hbatch (not_le.mp hqty) hkeys.1 hholding hdeducted⟩
      have hupdate : alone (query (.updateRemaining batchId batch.remainingQty
          (min batch.remainingQty qty))) s = (setRemaining s batchId
            (batch.remainingQty - min batch.remainingQty qty), .ok ()) := by
        simp only [alone, query, statement, run, exec, hget, Option.isSome_some, if_true]
        rfl
      simp only [alone, deductFrom, if_neg hqty]
      rw [run_bind_ok hupdate, run_bind_ok hrun]
      rfl

-- ---
-- A deduction alone
-- ---

/-- The batches of an item that a deduction reads, in the order in which it takes from them. -/
def Store.byAge (s : Store) (item : Stocked) : List (Id × StockBatch) :=
  byReceipt (s.batches.findMany (StockBatch.holds item))

theorem Store.byAge_perm (s : Store) (item : Stocked) :
    (s.byAge item).Perm (s.batches.findMany (StockBatch.holds item)) :=
  List.perm_insertionSort _ _

theorem Store.byAge_sum (s : Store) (item : Stocked) :
    ((s.byAge item).map (·.2.remainingQty)).sum = s.onHand item :=
  ((s.byAge_perm item).map fun row => row.2.remainingQty).sum_eq

theorem Store.byAge_holding (s : Store) (item : Stocked) : Holding s item (s.byAge item) := by
  intro row hrow
  obtain ⟨hget, hholds⟩ := Table.mem_findMany.mp ((s.byAge_perm item).mem_iff.mp hrow)
  simpa only [StockBatch.holds, Bool.and_eq_true, beq_iff_eq, decide_eq_true_eq] using
    And.intro hget hholds

theorem Store.byAge_nodup (s : Store) (item : Stocked) : ((s.byAge item).map (·.1)).Nodup := by
  rw [((s.byAge_perm item).map _).nodup_iff]
  exact Table.findMany_keys _ _

theorem fifoDeduct_run (s : Store) (ctx : BranchContext) (itemId : Id) (qty : Int) :
    ∃ t deductions, alone (fifoDeduct ctx itemId qty) s = (t, .ok deductions) ∧
      Deducted s (stocked ctx itemId) (s.byAge (stocked ctx itemId)) qty t deductions :=
  deductFrom_run (s.byAge_holding _) (s.byAge_nodup _) qty

-- ---
-- An adjustment alone
-- ---

theorem changeStock_onHand (h : alone (changeStock ctx dto (s.onHand (stocked ctx dto.itemId))) s =
      (t, .ok ())) (hqty : dto.qtyDelta.value ≠ 0) (other : Stocked) :
    t.onHand other = s.onHand other + ofItem (stocked ctx dto.itemId) dto.qtyDelta.value other := by
  generalize hdelta : dto.qtyDelta.value = qtyDelta at h hqty
  unfold changeStock at h
  rw [hdelta] at h
  split at h
  · by_cases hcover : 0 ≤ s.onHand (stocked ctx dto.itemId) + qtyDelta
    · obtain ⟨u, deductions, hrun, hdeducted⟩ := fifoDeduct_run s ctx dto.itemId (-qtyDelta)
      rw [alone, run_bind_ok (run_ensure_ok (decide_eq_true hcover)), run_bind_ok hrun] at h
      obtain rfl : u = t := congrArg Prod.fst h
      have htotal := hdeducted.total
      rw [Store.byAge_sum] at htotal
      have htaken : (deductions.map (·.2)).sum = -qtyDelta := by omega
      rw [hdeducted.onHand, htaken]
      simp only [ofItem]
      split <;> ring
    · rw [alone, run_bind_error (run_ensure_error (decide_eq_false hcover))] at h
      cases congrArg Prod.snd h
  · obtain rfl : _ = t := congrArg Prod.fst h
    exact createBatch_onHand s (by dsimp only; omega) other

theorem adjust_onHand (h : alone (adjust userId ctx dto) s = (t, .ok reply)) (other : Stocked) :
    t.onHand other = s.onHand other + ofItem (stocked ctx dto.itemId) dto.qtyDelta.value other := by
  unfold adjust at h
  rw [alone, run_bind_ok (run_query (k := .findItem ctx dto.itemId) rfl)] at h
  cases hitem : (s.items.get? dto.itemId).filter fun item =>
    item.branchId == ctx.branchId && item.orgId == ctx.organizationId with
  | none =>
    rw [hitem] at h
    cases congrArg Prod.snd h
  | some item =>
    rw [hitem, run_bind_ok run_need_some] at h
    by_cases hqty : dto.qtyDelta.value = 0
    · rw [run_bind_error (run_ensure_error (by simp [hqty]))] at h
      cases congrArg Prod.snd h
    · rw [run_bind_ok (run_ensure_ok (by simp [hqty])),
        run_bind_ok (run_query (k := .onHand ctx dto.itemId) rfl)] at h
      rcases hchanged : alone (changeStock ctx dto (s.onHand (stocked ctx dto.itemId))) s with
        ⟨u, _ | ⟨⟨⟩⟩⟩
      · rw [run_bind_error hchanged] at h
        cases congrArg Prod.snd h
      · rw [run_bind_ok hchanged] at h
        obtain rfl : _ = t := congrArg Prod.fst h
        exact changeStock_onHand hchanged hqty other

theorem createStockAdjustment_onHand
    (h : alone (createStockAdjustment plane userId ctx dto) s = (t, .ok reply)) :
    if plane.trainingSessionId = none then
      ∀ other, t.onHand other =
        s.onHand other + ofItem (stocked ctx dto.itemId) dto.qtyDelta.value other
    else t = s := by
  obtain ⟨_ | window, _ | sessionId⟩ := plane
  · exact adjust_onHand h
  · exact (congrArg Prod.fst h).symm
  · cases congrArg Prod.snd h
  · cases congrArg Prod.snd h

theorem Store.byAge_sorted (s : Store) (item : Stocked) :
    (s.byAge item).Pairwise fun earlier later => earlier.2.receivedAt ≤ later.2.receivedAt := by
  have htotal : Std.Total fun a b : Id × StockBatch => a.2.receivedAt ≤ b.2.receivedAt :=
    ⟨fun a b => le_total a.2.receivedAt b.2.receivedAt⟩
  have htrans : IsTrans (Id × StockBatch) fun a b => a.2.receivedAt ≤ b.2.receivedAt :=
    ⟨fun a b c hab hbc => le_trans hab hbc⟩
  exact List.pairwise_insertionSort _ _

/-- A deduction alone takes the quantity, rounded to thousandths, as far as the stock goes and
from the oldest batches; an adjustment alone changes the stock by its quantity, unless it is
part of a training. -/
theorem fifo_exact :
    (∀ (s : Store) (ctx : BranchContext) (itemId : Id) (qty : ℚ), ∃ t deductions,
      alone (fifoDeductDecimal ctx itemId qty) s = (t, .ok deductions) ∧
        (deductions.map (·.2)).sum =
          min (max (roundHalf (1000 * qty)) 0) (s.onHand (stocked ctx itemId)) ∧
        Deducted s (stocked ctx itemId) (s.byAge (stocked ctx itemId)) (roundHalf (1000 * qty)) t
          deductions ∧
        (s.byAge (stocked ctx itemId)).Pairwise fun earlier later =>
          earlier.2.receivedAt ≤ later.2.receivedAt) ∧
    ∀ (s t : Store) (plane : ControlPlane) (userId : Id) (ctx : BranchContext)
      (dto : CreateStockAdjustmentDto) (reply : Reply),
      alone (createStockAdjustment plane userId ctx dto) s = (t, .ok reply) →
        if plane.trainingSessionId = none then
          ∀ other, t.onHand other =
            s.onHand other + ofItem (stocked ctx dto.itemId) dto.qtyDelta.value other
        else t = s := by
  refine ⟨fun s ctx itemId qty => ?_, fun s t plane userId ctx dto reply h => ?_⟩
  · obtain ⟨t, deductions, hrun, hdeducted⟩ :=
      fifoDeduct_run s ctx itemId (roundHalf (1000 * qty))
    have htotal := hdeducted.total
    rw [Store.byAge_sum] at htotal
    exact ⟨t, deductions, hrun, htotal, hdeducted, s.byAge_sorted _⟩
  · exact createStockAdjustment_onHand h

def sixOff : CreateStockAdjustmentDto := { itemId := 0, qtyDelta := ⟨true, six⟩ }

/-- Six are taken off the shelf. -/
theorem fifo_exact_six :
    (alone (createStockAdjustment {} 1 ⟨0, 0⟩ sixOff) shelf).1.onHand flour =
      10000 + ofItem flour (-6000) flour := by
  have hdone : (alone (createStockAdjustment {} 1 ⟨0, 0⟩ sixOff) shelf).2 =
      .ok (.adjusted flour (-6000) 0) := by decide +kernel
  exact fifo_exact.2 shelf _ {} 1 ⟨0, 0⟩ sixOff _ (Prod.ext rfl hdone) flour

/-- Half a thousandth is taken as a whole one, and an adjustment in a training takes nothing. -/
theorem fifo_rounded :
    ¬(∀ (s t : Store) (ctx : BranchContext) (itemId : Id) (qty : ℚ) (deductions : List (Id × Int)),
      alone (fifoDeductDecimal ctx itemId qty) s = (t, .ok deductions) →
        (((deductions.map (·.2)).sum : ℤ) : ℚ) = min (1000 * qty) (s.onHand (stocked ctx itemId))) ∧
    alone (createStockAdjustment { trainingSessionId := some 4 } 1 ⟨0, 0⟩ sixOff) shelf =
      (shelf, .ok (.simulated 4)) ∧ sixOff.qtyDelta.value = -6000 := by
  refine ⟨fun h => ?_, rfl, by decide +kernel⟩
  have hround : roundHalf (1000 * (1 / 2000)) = 1 := by
    rw [roundHalf_eq_iff (by norm_num)]
    norm_num
  have hstock : shelf.onHand flour = 10000 := by decide
  obtain ⟨t, deductions, hrun, hdeducted⟩ := fifoDeduct_run shelf ⟨0, 0⟩ 0 1
  have htotal := hdeducted.total
  rw [Store.byAge_sum, show stocked ⟨0, 0⟩ 0 = flour from rfl, hstock] at htotal
  have hexact := h shelf t ⟨0, 0⟩ 0 (1 / 2000) deductions (by rwa [fifoDeductDecimal, hround])
  rw [show stocked ⟨0, 0⟩ 0 = flour from rfl, hstock] at hexact
  have hone : (deductions.map (·.2)).sum = 1 := htotal
  rw [hone] at hexact
  norm_num at hexact

end NimbusPos.InventoryService
