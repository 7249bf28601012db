import NimbusPos.Inventory.Service

/-!
# Stock on hand

What is taken from a batch is written over what was read of it. The stock of an item is what
was there with all receipts and adjustments, in a run while each update still finds the
quantity it read, and each deduction the stock it needs; no batch ever becomes negative.
-/

namespace NimbusPos.InventoryService

open Lib Lib.Program

/-- A quantity that a call puts to an item's batches, or takes from them. -/
structure Move where
  call : Nat
  item : Stocked
  qty : Int
  deriving DecidableEq, Repr

/-- What a call has moved of an item. -/
def movedBy (moves : List Move) (i : Nat) (item : Stocked) : Int :=
  ((moves.filter fun m => m.call == i && m.item == item).map (·.qty)).sum

def movedOf (moves : List Move) (item : Stocked) : Int :=
  ((moves.filter (·.item == item)).map (·.qty)).sum

structure World where
  store : Store
  moves : List Move := []

namespace World

def movement (w : World) : Statement → Option (Stocked × Int)
  | .createBatch row => some (row.stocked, row.remainingQty)
  | .updateRemaining batchId _ deductAmount =>
    (w.store.batches.get? batchId).map fun batch => (batch.stocked, -deductAmount)
  | _ => none

def exec (i : Nat) (w : World) (k : Statement) : World × Except HttpError k.Answer :=
  let r := InventoryService.exec w.store k
  ({ store := r.1
     moves := ((w.movement k).map fun m => ⟨i, m.1, m.2⟩).toList ++ w.moves }, r.2)

def wait (w : World) (ms : Nat) : World :=
  { w with store := { w.store with clock := w.store.clock + ms } }

/-- The batches that are read cover what will be taken, and an update finds what was read. -/
def stillGood (w : World) : Statement → Prop
  | .findBatches ctx itemId qty => qty ≤ w.store.onHand (stocked ctx itemId)
  | .updateRemaining batchId batchRemaining _ =>
    ∀ batch ∈ w.store.batches.get? batchId, batch.remainingQty = batchRemaining
  | _ => True

instance (w : World) : (k : Statement) → Decidable (w.stillGood k)
  | .findBatches .. => inferInstanceAs (Decidable (_ ≤ _))
  | .updateRemaining batchId batchRemaining _ => inferInstanceAs (Decidable
      (∀ batch ∈ w.store.batches.get? batchId, batch.remainingQty = batchRemaining))
  | .now | .findItem .. | .createBatch _ | .onHand .. | .createAdjustment _ => .isTrue trivial

end World

/-- A quantity of one item. -/
def ofItem (item : Stocked) (qty : Int) (other : Stocked) : Int :=
  if other = item then qty else 0

/-- What a call that returned has put to an item, or taken from it. -/
def change : Except HttpError Reply → Stocked → Int
  | .ok (.received item receivedQty _) => ofItem item receivedQty
  | .ok (.adjusted item qtyDelta _) => ofItem item qtyDelta
  | .ok (.simulated _) | .error _ => fun _ => 0

/-- What a batch counts for an item. -/
def share (item : Stocked) (batch : StockBatch) : Int :=
  if batch.stocked = item then batch.remainingQty else 0

def NonNegative (s : Store) : Prop :=
  ∀ batchId batch, s.batches.get? batchId = some batch → 0 ≤ batch.remainingQty

theorem onHand_eq (h : NonNegative s) (item : Stocked) :
    s.onHand item = s.batches.total fun _ => share item := by
  rw [Store.onHand, Table.sumWhere_eq_total]
  refine Table.total_congr fun batchId batch hget => ?_
  have hnonneg := h batchId batch hget
  simp only [StockBatch.holds, share, Bool.and_eq_true, beq_iff_eq, decide_eq_true_eq]
  by_cases hitem : batch.stocked = item
  · subst hitem
    by_cases hempty : 0 < batch.remainingQty
    · simp [hempty]
    · have hzero : batch.remainingQty = 0 := by omega
      simp [hzero]
  · simp [hitem]

-- ---
-- Moves
-- ---

theorem movedBy_cons (m : Move) (moves : List Move) (i : Nat) (item : Stocked) :
    movedBy (m :: moves) i item =
      (if m.call = i ∧ m.item = item then m.qty else 0) + movedBy moves i item := by
  simp only [movedBy, List.filter_cons, Bool.and_eq_true, beq_iff_eq]
  split <;> simp

theorem movedOf_cons (m : Move) (moves : List Move) (item : Stocked) :
    movedOf (m :: moves) item = (if m.item = item then m.qty else 0) + movedOf moves item := by
  simp only [movedOf, List.filter_cons, beq_iff_eq]
  split <;> simp

/-- The moves of an item are those of each call. -/
theorem movedOf_eq (h : ∀ m ∈ moves, m.call < n) (item : Stocked) :
    movedOf moves item = ((List.range n).map fun i => movedBy moves i item).sum := by
  induction moves with
  | nil => simp [movedOf, movedBy]
  | cons m moves ih =>
    have hmine : ((List.range n).map fun i => if m.call = i ∧ m.item = item then m.qty else 0).sum =
        if m.item = item then m.qty else 0 := by
      rw [List.sum_map_eq_nsmul_single m.call]
      · simp [h m (.head _)]
      · intro i hi _
        simp [Ne.symm hi]
    simp only [movedBy_cons, movedOf_cons]
    rw [List.sum_map_add, hmine, ih fun m' hm' => h m' (.tail _ hm')]

-- ---
-- One statement
-- ---

/-- The stock is what was there at the start and what the first `n` calls have moved. -/
structure Sound (start : Store) (n : Nat) (w : World) : Prop where
  nonneg : NonNegative w.store
  stock : ∀ item, (w.store.batches.total fun _ => share item) =
    (start.batches.total fun _ => share item) + movedOf w.moves item
  calls : ∀ m ∈ w.moves, m.call < n

/-- A batch begins with a quantity, and no more is taken from it than was read. -/
def World.ready : Statement → Prop
  | .createBatch row => 0 ≤ row.remainingQty
  | .updateRemaining _ batchRemaining deductAmount => deductAmount ≤ batchRemaining
  | _ => True

def StockBatch.Kept (batch new : StockBatch) : Prop := new.stocked = batch.stocked

theorem StockBatch.Kept.refl (batch : StockBatch) : batch.Kept batch := rfl

theorem StockBatch.Kept.trans (a b c : StockBatch) (h : a.Kept b) (h' : b.Kept c) : a.Kept c :=
  Eq.trans h' h

/-- The moves of a call are its own, and batches stay with their items. -/
def moving (i : Nat) : Service.Frame World where
  rel w v := movedBy v.moves i = movedBy w.moves i ∧
    Table.Grows StockBatch.Kept w.store.batches v.store.batches
  refl _ := ⟨rfl, .refl .refl _⟩
  trans h h' := ⟨h'.1.trans h.1, h.2.trans StockBatch.Kept.trans h'.2⟩

variable {w v : World} {k : Statement} {start : Store} {i n : Nat}

theorem share_taken (item : Stocked) (batch : StockBatch) (qty : Int) :
    share item { batch with remainingQty := qty } - share item batch =
      if batch.stocked = item then qty - batch.remainingQty else 0 := by
  have hsame : ({ batch with remainingQty := qty } : StockBatch).stocked = batch.stocked := rfl
  simp only [share, hsame]
  split <;> simp

theorem Sound.createBatch (h : Sound start n w) (hi : i < n) (hready : 0 ≤ row.remainingQty) :
    Sound start n (w.exec i (.createBatch row)).1 := by
  refine ⟨fun batchId batch hget => ?_, fun item => ?_, ?_⟩
  · replace hget : (w.store.batches.insert row).get? batchId = some batch := hget
    rcases Table.insert_cases hget with ⟨-, rfl⟩ | hget
    · exact hready
    · exact h.nonneg batchId batch hget
  · show ((w.store.batches.insert row).total fun _ => share item) =
      _ + movedOf (⟨i, row.stocked, row.remainingQty⟩ :: w.moves) item
    rw [Table.total_insert, h.stock, movedOf_cons, share]
    ring
  · rintro m (_ | ⟨_, hm⟩)
    · exact hi
    · exact h.calls m hm

theorem Sound.updateRemaining (h : Sound start n w) (hi : i < n)
    (hready : deductAmount ≤ batchRemaining)
    (hgood : w.stillGood (.updateRemaining batchId batchRemaining deductAmount)) :
    Sound start n (w.exec i (.updateRemaining batchId batchRemaining deductAmount)).1 := by
  simp only [World.exec, InventoryService.exec, World.movement]
  cases hget : w.store.batches.get? batchId with
  | none => exact h
  | some batch =>
    obtain rfl : batch.remainingQty = batchRemaining := hgood batch hget
    refine ⟨fun id new hnew => ?_, fun item => ?_, ?_⟩
    · replace hnew : (w.store.batches.update batchId fun row =>
        { row with remainingQty := batch.remainingQty - deductAmount }).get? id = some new := hnew
      rcases Table.update_cases hnew with ⟨-, _, -, rfl⟩ | ⟨-, hnew⟩
      · exact sub_nonneg.mpr hready
      · exact h.nonneg id new hnew
    · show ((w.store.batches.update batchId fun row =>
          { row with remainingQty := batch.remainingQty - deductAmount }).total fun _ =>
            share item) =
        _ + movedOf (⟨i, batch.stocked, -deductAmount⟩ :: w.moves) item
      rw [Table.total_update hget, share_taken, h.stock, movedOf_cons]
      simp only
      split <;> ring
    · rintro m (_ | ⟨_, hm⟩)
      · exact hi
      · exact h.calls m hm

theorem Sound.exec (h : Sound start n w) (hi : i < n) (hready : World.ready k)
    (hgood : w.stillGood k) : Sound start n (w.exec i k).1 := by
  cases k with
  | createBatch row => exact h.createBatch hi hready
  | updateRemaining batchId batchRemaining deductAmount => exact h.updateRemaining hi hready hgood
  | _ => exact ⟨h.nonneg, h.stock, h.calls⟩

/-- A statement moves for its own call alone. -/
theorem movedBy_exec (w : World) (k : Statement) (hj : j ≠ i) :
    movedBy (w.exec i k).1.moves j = movedBy w.moves j := by
  funext item
  simp only [World.exec]
  cases w.movement k with
  | none => rfl
  | some m =>
    show movedBy (⟨i, m.1, m.2⟩ :: w.moves) j item = movedBy w.moves j item
    rw [movedBy_cons, if_neg fun h => hj h.1.symm, Int.zero_add]

theorem batches_exec (i : Nat) (w : World) (k : Statement) :
    Table.Grows StockBatch.Kept w.store.batches (w.exec i k).1.store.batches := by
  cases k with
  | createBatch row => exact .insert .refl _ _
  | updateRemaining batchId batchRemaining deductAmount =>
    simp only [World.exec, InventoryService.exec]
    split
    · have hkept : Table.Grows StockBatch.Kept w.store.batches
          (w.store.batches.update batchId fun batch =>
            { batch with remainingQty := batchRemaining - deductAmount }) := by
        refine .update StockBatch.Kept.refl ?_ _ _
        exact fun _ => rfl
      exact hkept
    · exact .refl .refl _
  | _ => exact .refl .refl _

-- ---
-- Calls
-- ---

/-- Call `i` is one of the first `n`. -/
def stockDiscipline (start : Store) (n : Nat) : Discipline World.exec where
  inv := Sound start n
  rely := moving
  needs i _ k := i < n ∧ World.ready k
  allowed := World.stillGood
  keeps _ w k h hneeds hgood :=
    ⟨h.exec hneeds.1 hneeds.2 hgood, fun _ hj => ⟨movedBy_exec w k hj, batches_exec _ w k⟩⟩

/-- A call that has taken `qty` of an item, or given it back. -/
def Moved (i : Nat) (item : Stocked) (qty : Int) (w : World) : Prop :=
  movedBy w.moves i = ofItem item qty

theorem Moved.rely (h : Moved i item qty w) (hrely : (moving i).rel w v) : Moved i item qty v :=
  hrely.1.trans h

/-- A statement that moves nothing. -/
theorem Moved.plain (h : Moved i item qty w) (hk : w.movement k = none) :
    Moved i item qty (w.exec i k).1 := by
  simpa only [Moved, World.exec, hk, Option.map_none, Option.toList_none, List.nil_append] using h

theorem Moved.add (h : Moved i item qty w) (hk : w.movement k = some (item, more)) :
    Moved i item (more + qty) (w.exec i k).1 := by
  funext other
  simp only [World.exec, hk]
  show movedBy (⟨i, item, more⟩ :: w.moves) i other = ofItem item (more + qty) other
  have hother := congrFun h other
  rw [movedBy_cons, hother]
  simp only [ofItem, true_and, eq_comm (a := item)]
  split <;> simp

theorem ofItem_zero (item : Stocked) : ofItem item 0 = fun _ => 0 := by
  funext other
  simp [ofItem]

/-- The loop takes what remains, where the batches cover it. -/
theorem deductFrom_safe {batches : List (Id × StockBatch)} (hi : i < n)
    (hmoved : Moved i item (-taken) w)
    (hrows : ∀ row ∈ batches, row.2.stocked = item ∧ 0 ≤ row.2.remainingQty ∧
      ∃ batch, w.store.batches.get? row.1 = some batch ∧ batch.stocked = item)
    (hremaining : 0 ≤ remaining) (hcover : remaining ≤ (batches.map (·.2.remainingQty)).sum) :
    (deductFrom batches remaining).Safe (stockDiscipline start n) i
      (fun result v => (∃ deductions, result = .ok deductions) ∧
        Moved i item (-(taken + remaining)) v) w := by
  induction batches generalizing w remaining taken with
  | nil =>
    obtain rfl : remaining = 0 := by
      simp only [List.map_nil, List.sum_nil] at hcover
      omega
    exact ⟨⟨[], rfl⟩, by rwa [Int.add_zero]⟩
  | cons row batches ih =>
    obtain ⟨batchId, batch⟩ := row
    simp only [deductFrom]
    split
    · obtain rfl : remaining = 0 := by omega
      exact ⟨⟨[], rfl⟩, by rwa [Int.add_zero]⟩
    · obtain ⟨hitem, hnonneg, old, hold, hkept⟩ := hrows _ (.head _)
      let deductAmount := min batch.remainingQty remaining
      refine safe_statement (fun v _ _ => ⟨hi, min_le_left _ _⟩) fun v hwv _ _ => ?_
      obtain ⟨now, hnow, hsame⟩ := hwv.2.forth _ old hold
      have hmovement : v.movement (.updateRemaining batchId batch.remainingQty deductAmount) =
          some (item, -deductAmount) := by
        simp only [World.movement, hnow, Option.map_some, ← hkept]
        rw [hsame]
      have hok : (v.exec i (.updateRemaining batchId batch.remainingQty deductAmount)).2 =
          .ok () := by
        simp [World.exec, InventoryService.exec, hnow]
      rw [hok]
      have htaken := (hmoved.rely hwv).add hmovement
      have hrest := hwv.2.trans StockBatch.Kept.trans (batches_exec i v
        (.updateRemaining batchId batch.remainingQty deductAmount))
      rw [← neg_add_rev] at htaken
      refine safe_bind ((ih htaken ?_ ?_ ?_).mono ?_)
      · intro row hrow
        obtain ⟨hitem, hnonneg, old, hold, hkept⟩ := hrows row (.tail _ hrow)
        obtain ⟨new, hnew, hsame⟩ := hrest.forth _ old hold
        exact ⟨hitem, hnonneg, new, hnew, Eq.trans hsame hkept⟩
      · omega
      · have hnonneg : 0 ≤ (batches.map (·.2.remainingQty)).sum := by
          refine List.sum_nonneg fun qty hqty => ?_
          obtain ⟨row, hrow, rfl⟩ := List.mem_map.mp hqty
          exact (hrows row (.tail _ hrow)).2.1
        simp only [List.map_cons, List.sum_cons] at hcover
        omega
      · rintro result u ⟨⟨deductions, rfl⟩, hmoved⟩
        refine ⟨⟨_, rfl⟩, ?_⟩
        rwa [show taken + remaining = taken + deductAmount + (remaining - deductAmount) by ring]

/-- A deduction takes its quantity from the batches it reads. -/
theorem fifoDeduct_safe (hi : i < n) (hmoved : Moved i (stocked ctx itemId) 0 w) (hqty : 0 ≤ qty) :
    (fifoDeduct ctx itemId qty).Safe (stockDiscipline start n) i
      (fun result v => (∃ deductions, result = .ok deductions) ∧
        Moved i (stocked ctx itemId) (-qty) v) w := by
  refine safe_statement (fun _ _ _ => ⟨hi, trivial⟩) fun v hwv hv hgood => ?_
  have hperm : (byReceipt
      (v.store.batches.findMany (StockBatch.holds (stocked ctx itemId)))).Perm _ :=
    List.perm_insertionSort _ _
  have hmoved' : Moved i (stocked ctx itemId) (-0) v := hmoved.rely hwv
  refine (deductFrom_safe hi hmoved' ?_ hqty ?_).mono ?_
  · intro row hrow
    obtain ⟨hget, hholds⟩ := Table.mem_findMany.mp (hperm.mem_iff.mp hrow)
    simp only [StockBatch.holds, Bool.and_eq_true, beq_iff_eq] at hholds
    exact ⟨hholds.1, hv.nonneg _ _ hget, row.2, hget, hholds.1⟩
  · have hsum := (hperm.map fun row => row.2.remainingQty).sum_eq
    exact le_of_le_of_eq hgood hsum.symm
  · rintro result u ⟨hok, hmoved⟩
    rw [Int.zero_add] at hmoved
    exact ⟨hok, hmoved⟩

/-- What a call that ended has moved is what it answers. -/
def Answered (i : Nat) (result : Except HttpError Reply) (w : World) : Prop :=
  movedBy w.moves i = change result

theorem Moved.none_error (h : Moved i item 0 w) (e : HttpError) : Answered i (.error e) w :=
  Eq.trans h (ofItem_zero item)

theorem createStockBatch_safe (hi : i < n) (hmoved : Moved i (stocked ctx dto.itemId) 0 w) :
    (createStockBatch ctx dto).Safe (stockDiscipline start n) i (Answered i) w := by
  refine safe_statement (fun _ _ _ => ⟨hi, trivial⟩) fun v hwv _ _ => ?_
  have hmoved := (hmoved.rely hwv).plain (k := .findItem ctx dto.itemId) rfl
  refine safe_need (fun item _ => ?_) fun _ => hmoved.none_error _
  -- No step looks into the number that was read.
  generalize dto.receivedQty.value = receivedQty
  refine safe_ensure (fun hpos => ?_) fun _ => hmoved.none_error _
  refine safe_statement (fun _ _ _ => ⟨hi, trivial⟩) fun u hvu _ _ => ?_
  have hmoved := (hmoved.rely hvu).plain (k := .now) rfl
  refine safe_statement (fun _ _ _ => ⟨hi, (of_decide_eq_true hpos).le⟩) fun t hut _ _ => ?_
  refine Eq.trans ((hmoved.rely hut).add rfl) ?_
  rw [Int.add_zero]
  rfl

/-- A change of the stock is one move of it, or it is refused before any. -/
theorem changeStock_safe (hi : i < n) (hmoved : Moved i (stocked ctx dto.itemId) 0 w) :
    (changeStock ctx dto currentOnHand).Safe (stockDiscipline start n) i
      (fun result v => Moved i (stocked ctx dto.itemId)
        (if result.toOption.isSome then dto.qtyDelta.value else 0) v) w := by
  unfold changeStock
  split
  · refine safe_ensure (fun _ => ?_) fun _ => hmoved
    refine safe_bind ((fifoDeduct_safe hi hmoved (by omega)).mono ?_)
    rintro result v ⟨⟨deductions, rfl⟩, htaken⟩
    rw [Int.neg_neg] at htaken
    exact htaken
  · rename_i hpositive
    refine safe_statement (fun _ _ _ => ⟨hi, trivial⟩) fun v hwv _ _ => ?_
    have hmoved := (hmoved.rely hwv).plain (k := .now) rfl
    refine safe_statement (fun _ _ _ => ⟨hi, not_lt.mp hpositive⟩) fun u hvu _ _ => ?_
    refine Eq.trans ((hmoved.rely hvu).add rfl) ?_
    rw [Int.add_zero]
    rfl

theorem adjust_safe (hi : i < n) (hmoved : Moved i (stocked ctx dto.itemId) 0 w) :
    (adjust userId ctx dto).Safe (stockDiscipline start n) i (Answered i) w := by
  refine safe_statement (fun _ _ _ => ⟨hi, trivial⟩) fun v hwv _ _ => ?_
  have hmoved := (hmoved.rely hwv).plain (k := .findItem ctx dto.itemId) rfl
  refine safe_need (fun item _ => ?_) fun _ => hmoved.none_error _
  refine safe_ensure (fun _ => ?_) fun _ => hmoved.none_error _
  refine safe_statement (fun _ _ _ => ⟨hi, trivial⟩) fun u hvu _ _ => ?_
  have hmoved := (hmoved.rely hvu).plain (k := .onHand ctx dto.itemId) rfl
  refine safe_bind ((changeStock_safe hi hmoved).mono fun result t hchanged => ?_)
  cases result with
  | error e => exact Moved.none_error hchanged e
  | ok _ =>
    refine safe_statement (fun _ _ _ => ⟨hi, trivial⟩) fun t' htt' _ _ => ?_
    exact (Moved.rely hchanged htt').plain (k := .createAdjustment _) rfl

theorem program_safe (call : StockCall) (hi : i < n) (hmoved : movedBy w.moves i = fun _ => 0) :
    call.program.Safe (stockDiscipline start n) i (Answered i) w := by
  cases call with
  | createStockBatch ctx dto => exact createStockBatch_safe hi (hmoved.trans (ofItem_zero _).symm)
  | createStockAdjustment plane userId ctx dto =>
    simp only [StockCall.program, createStockAdjustment]
    cases plane.blocking with
    | some window => exact hmoved
    | none =>
      cases plane.trainingSessionId with
      | some sessionId => exact hmoved
      | none => exact adjust_safe hi (hmoved.trans (ofItem_zero _).symm)

-- ---
-- No batch becomes negative
-- ---

theorem NonNegative.exec (h : NonNegative w.store) (hready : World.ready k) :
    NonNegative (w.exec i k).1.store := by
  cases k with
  | createBatch row =>
    intro batchId batch hget
    replace hget : (w.store.batches.insert row).get? batchId = some batch := hget
    rcases Table.insert_cases hget with ⟨-, rfl⟩ | hget
    · exact hready
    · exact h batchId batch hget
  | updateRemaining batchId batchRemaining deductAmount =>
    simp only [World.exec, InventoryService.exec]
    split
    · intro id new hnew
      replace hnew : (w.store.batches.update batchId fun row =>
        { row with remainingQty := batchRemaining - deductAmount }).get? id = some new := hnew
      rcases Table.update_cases hnew with ⟨-, _, -, rfl⟩ | ⟨-, hnew⟩
      · exact sub_nonneg.mpr hready
      · exact h id new hnew
    · exact h
  | _ => exact h

def nonNegativeDiscipline : Discipline World.exec where
  inv w := NonNegative w.store
  rely _ := .same fun _ => ()
  needs _ _ := World.ready
  allowed _ _ := True
  keeps _ _ _ h hready _ := ⟨h.exec hready, fun _ _ => rfl⟩

theorem deductFrom_always (batches : List (Id × StockBatch)) (remaining : Int) :
    Always nonNegativeDiscipline i (deductFrom batches remaining) := by
  induction batches generalizing remaining with
  | nil => exact always_pure _
  | cons row batches ih =>
    obtain ⟨batchId, batch⟩ := row
    simp only [deductFrom]
    split
    · exact always_pure _
    · refine always_bind (always_statement fun _ _ => min_le_left _ _) fun _ => ?_
      exact always_bind (ih _) fun _ => always_pure _

theorem changeStock_always (ctx : BranchContext) (dto : CreateStockAdjustmentDto)
    (currentOnHand : Int) :
    Always nonNegativeDiscipline i (changeStock ctx dto currentOnHand) := by
  unfold changeStock
  split
  · refine always_ensure fun _ => always_bind ?_ fun _ => always_pure _
    exact always_bind (always_statement fun _ _ => trivial) fun _ => deductFrom_always _ _
  · rename_i hpositive
    refine always_bind (always_statement fun _ _ => trivial) fun _ => ?_
    exact always_bind (always_statement fun _ _ => not_lt.mp hpositive) fun _ => always_pure _

theorem program_always (call : StockCall) : Always nonNegativeDiscipline i call.program := by
  cases call with
  | createStockBatch ctx dto =>
    refine always_bind (always_statement fun _ _ => trivial) fun _ => always_need fun _ _ => ?_
    generalize dto.receivedQty.value = receivedQty
    refine always_ensure fun hpos => always_bind (always_statement fun _ _ => trivial) fun _ => ?_
    exact always_bind (always_statement fun _ _ => (of_decide_eq_true hpos).le) fun _ =>
      always_pure _
  | createStockAdjustment plane userId ctx dto =>
    simp only [StockCall.program, createStockAdjustment]
    cases plane.blocking with
    | some window => exact always_throw _
    | none =>
      cases plane.trainingSessionId with
      | some sessionId => exact always_pure _
      | none =>
        refine always_bind (always_statement fun _ _ => trivial) fun _ => always_need fun _ _ => ?_
        refine always_ensure fun _ => always_bind (always_statement fun _ _ => trivial) fun _ => ?_
        refine always_bind (changeStock_always _ _ _) fun _ => ?_
        exact always_bind (always_statement fun _ _ => trivial) fun _ => always_pure _

-- ---
-- Every interleaving
-- ---

abbrev StockPool := Pool World (StockProgram Reply)

abbrev take : StockPool → Turn → StockPool := Turn.take World.exec World.wait

/-- The calls, none of which has started. -/
def requested (s : Store) (calls : List StockCall) : StockPool where
  shared := { store := s }
  threads := calls.map (·.program)

theorem requested_nonneg (hstart : NonNegative s)
    (hrun : Run take (fun _ _ => True) (requested s calls) turns p) :
    NonNegative p.shared.store := by
  have hsafe : SafePool nonNegativeDiscipline (fun _ _ _ => True) (requested s calls) := by
    refine ⟨hstart, fun i x hx => ?_⟩
    simp only [requested, List.getElem?_map, Option.map_eq_some_iff] at hx
    obtain ⟨call, -, rfl⟩ := hx
    exact program_always call _
  have hwait (w : World) (ms : Nat) (h : NonNegative w.store) :
      NonNegative (w.wait ms).store ∧ ∀ i, (nonNegativeDiscipline.rely i).rel w (w.wait ms) :=
    ⟨h, fun _ => rfl⟩
  rw [hrun.eq_foldl]
  exact (hsafe.run_any (fun _ _ _ _ _ _ => trivial) hwait (fun _ _ => trivial) turns).inv

/-- When all calls have returned, an item has what it had and what they answered. -/
theorem requested_stock {results : List (Except HttpError Reply)} (hstart : NonNegative s)
    (hrun : Run take (fun p t => t.asks World.stillGood p) (requested s calls) turns p)
    (hdone : p.threads.map result? = results.map some) (item : Stocked) :
    p.shared.store.onHand item = s.onHand item + (results.map (change · item)).sum := by
  have hsafe : SafePool (stockDiscipline s calls.length) Answered (requested s calls) := by
    refine ⟨⟨hstart, fun item => (Int.add_zero _).symm, fun _ hm => absurd hm List.not_mem_nil⟩,
      fun i x hx => ?_⟩
    simp only [requested, List.getElem?_map, Option.map_eq_some_iff] at hx
    obtain ⟨call, hcall, rfl⟩ := hx
    exact program_safe call (List.getElem?_eq_some_iff.mp hcall).1 rfl
  have hpost (i : Nat) (result : Except HttpError Reply) (w v : World) (h : Answered i result w)
      (hrely : (moving i).rel w v) : Answered i result v := hrely.1.trans h
  have hwait (w : World) (ms : Nat) (h : Sound s calls.length w) :
      Sound s calls.length (w.wait ms) ∧ ∀ i, (moving i).rel w (w.wait ms) :=
    ⟨⟨h.nonneg, h.stock, h.calls⟩, fun _ => ⟨rfl, .refl .refl _⟩⟩
  have hended := hsafe.run hpost hwait hrun
  have hlength : results.length = calls.length := by
    have hthreads : p.threads.length = calls.length := by
      refine hrun.invariant (I := fun p => p.threads.length = calls.length) (by simp [requested])
        fun p t h _ => (Turn.take_length p t).trans h
    simpa [hthreads] using (congrArg List.length hdone).symm
  have hmoves : ((List.range calls.length).map fun i => movedBy p.shared.moves i item) =
      results.map (change · item) := by
    refine List.ext_getElem (by simp [hlength]) fun i hi hi' => ?_
    have hlt : i < results.length := by simpa using hi'
    have hthread : (p.threads[i]?).map result? = some (some results[i]) := by
      rw [← List.getElem?_map, hdone]
      simp [hlt]
    obtain ⟨x, hx, hresult⟩ := Option.map_eq_some_iff.mp hthread
    have hanswered := congrFun (hended.ended (hx.trans (congrArg some (eq_done hresult)))) item
    simpa using hanswered
  rw [onHand_eq hended.inv.nonneg, onHand_eq hstart, hended.inv.stock item,
    movedOf_eq hended.inv.calls, hmoves]

/-- In any interleaving no batch becomes negative; in one whose deductions find the stock they
need and what they read, the stock of each item is accounted for once all have returned. -/
theorem pool_stock (hstart : NonNegative s)
    (hrun : Run take (fun _ _ => True) (requested s calls) turns p) :
    NonNegative p.shared.store ∧
      (Run take (fun p t => t.asks World.stillGood p) (requested s calls) turns p →
        ∀ results : List (Except HttpError Reply), p.threads.map result? = results.map some →
          ∀ item, p.shared.store.onHand item =
            s.onHand item + (results.map (change · item)).sum) :=
  ⟨requested_nonneg hstart hrun, fun hgood _ hdone => requested_stock hstart hgood hdone⟩

/-- 10.000 of an item, in two batches. -/
def shelf : Store where
  items := Table.empty.insert { orgId := 0, branchId := 0 }
  batches :=
    (Table.empty.insert { orgId := 0, branchId := 0, itemId := 0, receivedQty := 6000
                          remainingQty := 6000, unitCost := 0, receivedAt := 5 }).insert
      { orgId := 0, branchId := 0, itemId := 0, receivedQty := 4000, remainingQty := 4000
        unitCost := 0, receivedAt := 3 }

theorem matches_six : matchesQuantity "6".toList = true := by decide

theorem matches_two : matchesQuantity "2.5".toList = true := by decide

def six : QuantityText := ⟨"6", matches_six⟩

def twoAndAHalf : QuantityText := ⟨"2.5", matches_two⟩

def adjusting (negative : Bool) (digits : QuantityText) : StockCall :=
  .createStockAdjustment {} 1 ⟨0, 0⟩ { itemId := 0, qtyDelta := ⟨negative, digits⟩ }

def receiving (receivedQty : QuantityText) : StockCall :=
  .createStockBatch ⟨0, 0⟩ { itemId := 0, receivedQty, unitCost := 0 }

def flour : Stocked := ⟨0, 0, 0⟩

theorem shelf_nonneg : NonNegative shelf := by
  intro batchId batch hget
  have hmem := Table.get?_iff.mp hget
  have hrows : ∀ row ∈ shelf.batches.rows, 0 ≤ row.2.remainingQty := by decide
  exact hrows _ hmem

/-- A deduction over two batches while stock is received and added. -/
theorem pool_stock_received :
    let calls := [adjusting true six, receiving twoAndAHalf, adjusting false twoAndAHalf]
    let turns := times 3 0 ++ times 3 1 ++ times 2 0 ++ times 5 2 ++ times 1 0
    let p := turns.foldl take (requested shelf calls)
    NonNegative p.shared.store ∧ p.shared.store.onHand flour = 10000 + (-6000 + (2500 + 2500)) := by
  intro calls turns p
  have hstock := pool_stock (p := p) shelf_nonneg (Run.foldl take (requested shelf calls) turns)
  have hrun : Run take (fun p t => t.asks World.stillGood p) (requested shelf calls) turns p :=
    Run.of_holds (by decide +kernel)
  have hdone : p.threads.map result? = List.map some [.ok (.adjusted flour (-6000) 1),
      .ok (.received flour 2500 2), .ok (.adjusted flour 2500 0)] := by decide +kernel
  exact ⟨hstock.1, hstock.2 hrun _ hdone flour⟩

/-- Two deductions overlap: each passes the check of the stock before the other takes any, or
each has read the batches before the other writes them. -/
def overlapping : List (List StockCall × List Turn × List (Except HttpError Reply)) :=
  [([adjusting true six, adjusting true six],
      times 2 0 ++ times 2 1 ++ times 4 0 ++ times 3 1,
      [.ok (.adjusted flour (-6000) 0), .ok (.adjusted flour (-6000) 1)]),
    ([adjusting true six, adjusting true twoAndAHalf],
      times 3 0 ++ times 3 1 ++ times 3 0 ++ times 2 1,
      [.ok (.adjusted flour (-6000) 0), .ok (.adjusted flour (-2500) 1)])]

theorem stock_lost :
    ¬(∀ (s : Store) (calls : List StockCall) (turns : List Turn) (p : StockPool)
        (results : List (Except HttpError Reply)) (item : Stocked), NonNegative s →
      Run take (fun _ _ => True) (requested s calls) turns p →
        p.threads.map result? = results.map some →
      p.shared.store.onHand item = s.onHand item + (results.map (change · item)).sum) ∧
    ∀ run ∈ overlapping,
      let p := run.2.1.foldl take (requested shelf run.1)
      p.threads.map result? = run.2.2.map some ∧
        p.shared.store.onHand flour ≠ shelf.onHand flour + (run.2.2.map (change · flour)).sum := by
  have hruns : ∀ run ∈ overlapping,
      let p := run.2.1.foldl take (requested shelf run.1)
      p.threads.map result? = run.2.2.map some ∧
        p.shared.store.onHand flour ≠
          shelf.onHand flour + (run.2.2.map (change · flour)).sum := by
    intro run hrun
    simp only [overlapping, List.mem_cons, List.not_mem_nil, or_false] at hrun
    rcases hrun with rfl | rfl
    · exact ⟨by decide +kernel, by decide +kernel⟩
    · exact ⟨by decide +kernel, by decide +kernel⟩
  refine ⟨fun h => ?_, hruns⟩
  obtain ⟨hdone, hlost⟩ := hruns _ (.head _)
  exact hlost (h shelf _ _ _ _ flour shelf_nonneg (Run.foldl _ _ _) hdone)

end NimbusPos.InventoryService
