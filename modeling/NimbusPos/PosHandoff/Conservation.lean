import NimbusPos.Sound

/-!
# Lines conserved by a split or a move

Every request for less than a whole line is served from the quantity the line
had before the loop. The last one decides what the line keeps, so the others
are created twice: once in the destination, once left behind. A split or a move
conserves quantities and values exactly when no line has two such requests.
-/

namespace NimbusPos.PosHandoffService

open Lib Lib.Service

/-- An accepted split or move: its selections, its two orders, and the store it
leaves. -/
inductive Accepted (s : Store) : List ItemSelection → Id → Id → Store → Prop
  | split (h : splitItems ctx orderId dto s = .ok u t) :
      Accepted s dto.items orderId s.orders.next t
  | move (h : moveItems ctx sourceId dto s = .ok u t) :
      Accepted s dto.items sourceId dto.targetOrderId t

variable {s t : Store}

theorem Accepted.fits (h : Accepted s sels sourceId targetId t) : selectionsFit s sourceId sels :=
  by
  cases h with
  | split h =>
    obtain ⟨_, _, _, hfits, _⟩ := splitItems_ok h
    exact hfits
  | move h => exact (moveItems_ok h).2.2.2.1

theorem Accepted.items (h : Accepted s sels sourceId targetId t) :
    t.orderItems = moveSelections (s.itemOn sourceId) targetId s.orderItems sels := by
  cases h with
  | split h =>
    obtain ⟨_, _, _, _, _, rfl⟩ := splitItems_ok h
    rfl
  | move h =>
    obtain ⟨_, _, _, _, rfl⟩ := moveItems_ok h
    rfl

theorem Accepted.moved (h : Accepted s sels sourceId targetId t) :
    Moved s.orderItems sourceId targetId sels t.orderItems :=
  h.items ▸ moved_of_fits h.fits

theorem Accepted.next (h : Accepted s sels sourceId targetId t) :
    s.orders.next ≤ t.orders.next ∧ targetId < t.orders.next := by
  cases h with
  | split h =>
    obtain ⟨_, _, _, _, _, rfl⟩ := splitItems_ok h
    exact ⟨Nat.le_succ _, Nat.lt_succ_self _⟩
  | move h =>
    obtain ⟨_, _, ⟨_, htarget, _⟩, _, rfl⟩ := moveItems_ok h
    exact ⟨Nat.le_refl _, placed_of_find htarget (Nat.le_refl _)⟩

theorem Accepted.lines (h : Accepted s sels sourceId targetId t) (hs : LinesSound s) :
    LinesSound t :=
  hs.moved h.fits h.moved h.next.1 h.next.2

-- ---
-- Quantity created by repeated requests
-- ---

/-- What a line and the rows it sheds hold together beyond the line's quantity. -/
def excess (it : OrderItem) (requests : List Int) : Int :=
  (partials it requests).sum - (partials it requests).getLast?.getD 0

theorem excess_bounds (h : ∀ quantity ∈ requests, 1 ≤ quantity ∧ quantity ≤ it.quantity) :
    0 ≤ excess it requests ∧ (excess it requests = 0 ↔ (partials it requests).length ≤ 1) := by
  have hpos : ∀ quantity ∈ partials it requests, 1 ≤ quantity :=
    fun q hq => (partials_bounds h q hq).1
  unfold excess
  generalize partials it requests = qs at hpos
  rcases List.eq_nil_or_concat qs with rfl | ⟨init, last, rfl⟩
  · simp
  · have hsum := List.card_nsmul_le_sum init 1 fun q hq => hpos q (by simp [hq])
    simp only [nsmul_eq_mul, mul_one] at hsum
    simp only [List.concat_eq_append, List.sum_append, List.sum_cons, List.sum_nil, add_zero,
      List.getLast?_append, List.getLast?_singleton, Option.some_or, Option.getD_some,
      add_sub_cancel_right, List.length_append, List.length_cons, List.length_nil, zero_add]
    refine ⟨by omega, ?_⟩
    constructor
    · intro hzero
      omega
    · intro hlen
      have hnil : init = [] := List.length_eq_zero_iff.mp (by omega)
      simp [hnil]

/-- A sum over the lines of two orders. -/
def onPair (a b : Id) (weight : OrderItem → Int) (item : OrderItem) : Int :=
  if item.orderId = a ∨ item.orderId = b then weight item else 0

/-- A sum over both orders changes where a line of the source changed or shed rows. -/
theorem onPair_total {items done : Table OrderItem} (h : Moved items sourceId targetId sels done)
    (f : OrderItem → Int) :
    done.total (fun _ => onPair sourceId targetId f) =
      items.total (fun _ => onPair sourceId targetId f) +
        items.total fun k it => if it.orderId = sourceId then
          f (fate targetId it (requested sels k)) +
            ((shed targetId it (requested sels k)).map f).sum - f it else 0 := by
  rw [h.total, ← Table.total_add]
  apply Table.total_congr
  intro k it _
  by_cases hsource : it.orderId = sourceId
  · have hrow : onPair sourceId targetId f (fate targetId it (requested sels k)) =
        f (fate targetId it (requested sels k)) := by
      rw [onPair, if_pos]
      simp only [fate]
      split
      · exact .inr rfl
      · exact .inl hsource
    have hrows : (shed targetId it (requested sels k)).map (onPair sourceId targetId f) =
        (shed targetId it (requested sels k)).map f := by
      simp only [shed, List.map_map]
      apply List.map_congr_left
      intro quantity _
      exact if_pos (.inr rfl)
    simp only [spread, if_pos hsource, hrow, hrows]
    simp only [onPair, hsource, true_or, if_true]
    ring
  · simp [spread, hsource]

/-- A quantity weighted by columns that the loop copies changes by the excess. -/
theorem onPair_moved {items done : Table OrderItem} (h : Moved items sourceId targetId sels done)
    {c : OrderItem → Int} (hfate : ∀ it requests, c (fate targetId it requests) = c it)
    (hshed : ∀ it quantity, c (movedLine targetId it quantity) = c it) :
    done.total (fun _ => onPair sourceId targetId fun row => c row * row.quantity) =
      items.total (fun _ => onPair sourceId targetId fun row => c row * row.quantity) +
        items.total fun k it =>
          if it.orderId = sourceId then c it * excess it (requested sels k) else 0 := by
  rw [onPair_total h]
  congr 1
  apply Table.total_congr
  intro k it _
  have hrows : ((shed targetId it (requested sels k)).map fun row => c row * row.quantity).sum =
      c it * (partials it (requested sels k)).sum := by
    have hone : (fun row => c row * row.quantity) ∘ movedLine targetId it =
        fun quantity => c it * quantity := by
      funext quantity
      rw [← hshed it quantity]
      rfl
    rw [shed, List.map_map, hone, List.sum_map_mul_left, List.map_id']
  split
  · rw [hrows, hfate]
    simp only [fate, leftQuantity, excess]
    ring
  · rfl

-- ---
-- When a split or a move conserves the lines
-- ---

/-- Quantity of one menu item on two orders. -/
def pairQuantity (s : Store) (a b menuItemId : Id) : Int :=
  s.orderItems.total fun _ => onPair a b fun item =>
    if item.menuItemId = menuItemId then item.quantity else 0

/-- Sum of the line subtotals of two orders. -/
def pairValue (s : Store) (a b : Id) : Cents :=
  s.orderItems.total fun _ => onPair a b (·.subtotal)

structure Conserved (s t : Store) (a b : Id) : Prop where
  quantity : ∀ menuItemId, pairQuantity t a b menuItemId = pairQuantity s a b menuItemId
  value : pairValue t a b = pairValue s a b
  lines : ∀ k item, t.orderItems.get? k = some item → item.orderId = a ∨ item.orderId = b →
    1 ≤ item.quantity

/-- No line of the order is asked twice for less than its whole quantity. -/
def partialOnce (s : Store) (sourceId : Id) (sels : List ItemSelection) : Prop :=
  ∀ k it, s.itemOn sourceId k = some it → (partials it (requested sels k)).length ≤ 1

theorem pairQuantity_moved (h : Moved s.orderItems sourceId targetId sels t.orderItems)
    (menuItemId : Id) :
    pairQuantity t sourceId targetId menuItemId = pairQuantity s sourceId targetId menuItemId +
      s.orderItems.total fun k it => if it.orderId = sourceId then
        (if it.menuItemId = menuItemId then 1 else 0) * excess it (requested sels k) else 0 := by
  have hweight : (fun item : OrderItem => if item.menuItemId = menuItemId then item.quantity
      else 0) =
      fun item => (if item.menuItemId = menuItemId then 1 else 0) * item.quantity := by
    funext item
    split <;> simp
  simp only [pairQuantity, hweight]
  exact onPair_moved h (fun _ _ => rfl) fun _ _ => rfl

theorem pairValue_eq (hs : LinesSound s) : pairValue s a b =
    s.orderItems.total fun _ => onPair a b fun item => item.price * item.quantity := by
  apply Table.total_congr
  intro k item hget
  simp only [onPair, (hs k item hget).priced]

theorem pairValue_moved (hs : LinesSound s) (ht : LinesSound t)
    (h : Moved s.orderItems sourceId targetId sels t.orderItems) :
    pairValue t sourceId targetId = pairValue s sourceId targetId +
      s.orderItems.total fun k it => if it.orderId = sourceId then
        it.price * excess it (requested sels k) else 0 := by
  rw [pairValue_eq hs, pairValue_eq ht]
  exact onPair_moved h (fun _ _ => rfl) fun _ _ => rfl

theorem excess_zero_of_quantity (hfits : selectionsFit s sourceId sels)
    (h : Moved s.orderItems sourceId targetId sels t.orderItems)
    (hquantity : ∀ menuItemId, pairQuantity t sourceId targetId menuItemId =
      pairQuantity s sourceId targetId menuItemId)
    (hit : s.itemOn sourceId k = some it) : excess it (requested sels k) = 0 := by
  obtain ⟨hget, hsource⟩ := itemOn_iff.mp hit
  have hbound {j row} (hrow : s.itemOn sourceId j = some row) :=
    excess_bounds (requested_bounds hfits hrow)
  have hzero := pairQuantity_moved h it.menuItemId
  rw [hquantity, left_eq_add] at hzero
  have hle := Table.le_total hget (c := fun j row => if row.orderId = sourceId then
      (if row.menuItemId = it.menuItemId then 1 else 0) * excess row (requested sels j)
        else 0) <| by
    intro j row hrow
    split
    · rename_i hs
      have hnonneg := (hbound (itemOn_iff.mpr ⟨hrow, hs⟩)).1
      split <;> simp [hnonneg]
    · exact Int.le_refl 0
  simp only [hzero, hsource, if_true, one_mul] at hle
  exact le_antisymm hle (hbound hit).1

/-- From any reachable store, an accepted split or move conserves the lines of
its two orders if and only if it asks no line twice for a part. -/
theorem handoff_conserved_iff (hstart : System.Opening start)
    (hreach : System.Reach bcrypt (fun _ _ => True) start events s)
    (h : Accepted s sels sourceId targetId t) :
    Conserved s t sourceId targetId ↔ partialOnce s sourceId sels := by
  have hs := reach_lines hstart hreach
  have ht := h.lines hs
  have hexcess {k it} (hit : s.itemOn sourceId k = some it) :=
    excess_bounds (requested_bounds h.fits hit)
  constructor
  · intro hc k it hit
    exact (hexcess hit).2.mp (excess_zero_of_quantity h.fits h.moved hc.quantity hit)
  · intro honce
    have hzero (c : OrderItem → Int) : s.orderItems.total (fun k it =>
        if it.orderId = sourceId then c it * excess it (requested sels k) else 0) = 0 := by
      apply Table.total_zero
      intro k it hget
      split
      · rename_i hsource
        have hit := itemOn_iff.mpr ⟨hget, hsource⟩
        rw [(hexcess hit).2.mpr (honce k it hit), mul_zero]
      · rfl
    refine ⟨fun menuItemId => ?_, ?_, fun k item hget _ => (ht k item hget).quantity⟩
    · rw [pairQuantity_moved h.moved, hzero, add_zero]
    · rw [pairValue_moved hs ht h.moved, hzero, add_zero]

-- ---
-- A line asked for twice
-- ---

/-- An order with one line of five units. -/
def fiveUnits : List Event :=
  [⟨.orders (.createOrder 0 ⟨0, 0⟩ { serviceType := .takeaway } {}), 0⟩,
   ⟨.orders (.addOrderItem ⟨0, 0⟩ 0 { menuItemId := 0, quantity := some ⟨5, by decide⟩ } {}), 0⟩]

def splitTwo : SplitItemsDto where
  items := [⟨0, 2, System.two_units⟩]
  size := System.one_selection

def splitTwoTwice : SplitItemsDto where
  items := [⟨0, 2, System.two_units⟩, ⟨0, 2, System.two_units⟩]
  size := System.two_selections

/-- Two requests for two of five units leave three and make four. -/
theorem splitItems_creates_units :
    ¬∀ (bcrypt : Bcrypt) (start : Store) (events : List Event) (s : Store)
    (sels : List ItemSelection) (sourceId targetId : Id) (t : Store), System.Opening start →
    System.Reach bcrypt (fun _ _ => True) start events s → Accepted s sels sourceId targetId t →
    Conserved s t sourceId targetId := by
  intro h
  let s := System.after (· == ·) System.cafe fiveUnits
  obtain ⟨_, hok⟩ := ok_of_returned (r := splitItems ⟨0, 0⟩ 0 splitTwoTwice s) (by decide)
  have hreach := System.reach_after (· == ·) System.cafe fiveUnits
  have hquantity := (h _ _ _ _ _ _ _ _ System.cafe_opening hreach (.split hok)).quantity 0
  revert hquantity
  decide

theorem handoff_conserved_iff_two : ∃ t,
    let s := System.after (· == ·) System.cafe fiveUnits
    Accepted s splitTwo.items 0 s.orders.next t ∧ Conserved s t 0 s.orders.next := by
  let s := System.after (· == ·) System.cafe fiveUnits
  obtain ⟨_, hok⟩ := ok_of_returned (r := splitItems ⟨0, 0⟩ 0 splitTwo s) (by decide)
  have hreach := System.reach_after (· == ·) System.cafe fiveUnits
  refine ⟨_, .split hok, (handoff_conserved_iff System.cafe_opening hreach (.split hok)).mpr ?_⟩
  intro k it _
  exact (List.length_filter_le _ _).trans ((List.length_map _).trans_le (List.length_filter_le _ _))

end NimbusPos.PosHandoffService
