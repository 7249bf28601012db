import NimbusPos.Effects
import NimbusPos.Orders.Edits

/-!
# Edits that are not lost

An order's totals are those of its lines and its approved discount, or a call is under
way that will make them so: a call that changed the order and has read nothing stale.
What a step may do to that is one condition, and it keeps closed orders as they are.
-/

namespace NimbusPos.OrderEdits

open Lib Lib.Service
open OrdersService DiscountsService

-- ---
-- What an edit may lose
-- ---

/-- The stored discount and total are those of the lines and the approved discount. -/
def Discounted (s : Store) (orderId : Id) (order : Order) : Prop :=
  order.discount = s.approvedAmount orderId (s.lineSum orderId) ∧
    order.total = max (s.lineSum orderId - s.approvedAmount orderId (s.lineSum orderId)) 0

/-- An order's totals equal those recomputed from its items and approved discount. -/
def Balanced (s : Store) (orderId : Id) : Prop :=
  ∀ order, s.orders.get? orderId = some order →
    order.subtotal = s.lineSum orderId ∧ Discounted s orderId order

/-- The money columns of an order. -/
def sums (order : Order) : Cents × Cents × Cents := (order.subtotal, order.discount, order.total)

/-- No line, discount or total of the order changes. -/
structure SameSums (orderId : Id) (s t : Store) : Prop where
  items : Table.AgreeOn (fun _ item => item.orderId = orderId) s.orderItems t.orderItems
  discounts : Table.AgreeOn (fun _ row => row.orderId = orderId) s.discounts t.discounts
  sums : (t.orders.get? orderId).map sums = (s.orders.get? orderId).map sums

/-- Nor does its status. -/
structure SameOrder (orderId : Id) (s t : Store) : Prop extends SameSums orderId s t where
  status : (t.orders.get? orderId).map (·.status) = (s.orders.get? orderId).map (·.status)

def Closed (s : Store) (orderId : Id) : Prop :=
  ∃ order, s.orders.get? orderId = some order ∧ order.status.active = false

/-- The order, where there is one, is neither closed nor voided. -/
def Open (s : Store) (orderId : Id) : Prop :=
  ∀ order ∈ s.orders.get? orderId, order.status.active = true

def Stage.isEnded : Stage → Bool
  | .ended _ => true
  | _ => false

-- ---
-- What the calls under way will do
-- ---

/-- The call will store the subtotal of the lines. -/
def Stage.rebuilds (s : Store) (orderId : Id) : Stage → Bool
  | .summing .orderTotals k => k == orderId
  | .discounting .orderTotals k subtotal | .storing .orderTotals k subtotal _ =>
    k == orderId && subtotal == s.lineSum orderId
  | _ => false

/-- The call has changed the order and read nothing that is stale. -/
def Stage.due (s : Store) (orderId : Id) : Stage → Bool
  | .summing _ k => k == orderId
  | .discounting _ k subtotal => k == orderId && subtotal == s.lineSum orderId
  | .storing _ k subtotal discount =>
    k == orderId && subtotal == s.lineSum orderId &&
      discount == s.approvedAmount orderId (s.lineSum orderId)
  | _ => false

/-- One of the other calls will do something. -/
def othersWill (p : State) (i : Nat) (will : Stage → Bool) : Prop :=
  ∃ stage ∈ p.threads.eraseIdx i, will stage = true

/-- The subtotal that is stored is that of the lines. -/
def Summed (s : Store) (orderId : Id) : Prop :=
  ∀ order ∈ s.orders.get? orderId, order.subtotal = s.lineSum orderId

/-- A change finds its order open. An approval reads the stored subtotal, and totals are
stored, on an open order, and what is read or stored is right or another call will store
what is right. -/
def mayTake (p : State) (i : Nat) : Stage → Prop
  | .reading (.done (.ok change)) => Open p.shared change.orderId
  | .summing .orderDiscount orderId =>
    Summed p.shared orderId ∨ othersWill p i (·.due p.shared orderId)
  | .storing recalc orderId subtotal discount =>
    Open p.shared orderId ∧
      (recalc = .orderDiscount ∨ subtotal = p.shared.lineSum orderId ∨
        othersWill p i (·.rebuilds p.shared orderId)) ∧
      ((subtotal = p.shared.lineSum orderId ∧
          discount = p.shared.approvedAmount orderId (p.shared.lineSum orderId)) ∨
        othersWill p i (·.due p.shared orderId))
  | _ => True

def undisturbed (p : State) : Step → Prop
  | .turn i => ∀ stage ∈ p.threads[i]?, mayTake p i stage
  | .wait _ => True

instance (s : Store) (k : Id) : Decidable (Open s k) :=
  inferInstanceAs (Decidable (∀ order ∈ s.orders.get? k, order.status.active = true))

instance (s : Store) (k : Id) : Decidable (Summed s k) :=
  inferInstanceAs (Decidable (∀ order ∈ s.orders.get? k, order.subtotal = s.lineSum k))

instance (p : State) (i : Nat) (will : Stage → Bool) : Decidable (othersWill p i will) :=
  inferInstanceAs (Decidable (∃ stage ∈ p.threads.eraseIdx i, will stage = true))

instance (p : State) (i : Nat) : (stage : Stage) → Decidable (mayTake p i stage)
  | .reading (.done (.ok change)) => inferInstanceAs (Decidable (Open p.shared change.orderId))
  | .summing .orderDiscount orderId => inferInstanceAs
      (Decidable (Summed p.shared orderId ∨ othersWill p i (·.due p.shared orderId)))
  | .storing _ orderId subtotal discount => inferInstanceAs (Decidable (Open p.shared orderId ∧
      (_ ∨ subtotal = p.shared.lineSum orderId ∨ othersWill p i (·.rebuilds p.shared orderId)) ∧
      ((subtotal = p.shared.lineSum orderId ∧
          discount = p.shared.approvedAmount orderId (p.shared.lineSum orderId)) ∨
        othersWill p i (·.due p.shared orderId))))
  | .reading (.done (.error _)) | .reading (.send ..) | .summing .orderTotals _
  | .discounting .. | .settling .. | .ended _ => .isTrue trivial

instance (p : State) : (step : Step) → Decidable (undisturbed p step)
  | .turn i => inferInstanceAs (Decidable (∀ stage ∈ p.threads[i]?, mayTake p i stage))
  | .wait _ => .isTrue trivial

-- ---
-- What an order's sums depend on
-- ---

variable {s t u : Store} {k : Id}

theorem SameSums.refl (orderId : Id) (s : Store) : SameSums orderId s s :=
  ⟨fun _ _ _ => .rfl, fun _ _ _ => .rfl, rfl⟩

theorem SameOrder.refl (orderId : Id) (s : Store) : SameOrder orderId s s := ⟨.refl orderId s, rfl⟩

theorem SameOrder.trans (h : SameOrder k s t) (h' : SameOrder k t u) : SameOrder k s u :=
  ⟨⟨fun j a ha => (h.items j a ha).trans (h'.items j a ha),
    fun j a ha => (h.discounts j a ha).trans (h'.discounts j a ha), h'.sums.trans h.sums⟩,
    h'.status.trans h.status⟩

theorem lineSum_of_agree
    (h : Table.AgreeOn (fun _ item => item.orderId = k) s.orderItems t.orderItems) :
    t.lineSum k = s.lineSum k := by
  have hrows := h.findMany (p := fun _ item => item.orderId == k) fun _ _ hk => beq_iff_eq.mp hk
  simp only [Store.lineSum, Table.sumWhere, hrows]

theorem approvedAmount_of_agree
    (h : Table.AgreeOn (fun _ row => row.orderId = k) s.discounts t.discounts) (subtotal : Cents) :
    t.approvedAmount k subtotal = s.approvedAmount k subtotal := by
  have hrows := h.findMany (p := fun _ row => row.orderId == k && row.status == .approved) <| by
    intro _ row hrow
    simp only [Bool.and_eq_true, beq_iff_eq] at hrow
    exact hrow.1
  simp only [Store.approvedAmount, Store.approvedDiscount, Table.findLatest, hrows]

theorem SameSums.rebuilds (h : SameSums k s t) (stage : Stage) :
    stage.rebuilds t k = stage.rebuilds s k := by
  simp only [Stage.rebuilds, lineSum_of_agree h.items]

theorem SameSums.due (h : SameSums k s t) (stage : Stage) : stage.due t k = stage.due s k := by
  simp only [Stage.due, lineSum_of_agree h.items, approvedAmount_of_agree h.discounts]

theorem SameSums.back (h : SameSums k s t) (hget : t.orders.get? k = some order) :
    ∃ order', s.orders.get? k = some order' ∧ order'.subtotal = order.subtotal ∧
      order'.discount = order.discount ∧ order'.total = order.total := by
  have hmap := h.sums
  rw [hget, Option.map_some] at hmap
  obtain ⟨order', hget', hsums⟩ := Option.map_eq_some_iff.mp hmap.symm
  simp only [OrderEdits.sums, Prod.mk.injEq] at hsums
  exact ⟨order', hget', hsums⟩

theorem sameOrder_of_books (h : t.books = s.books) (k : Id) : SameOrder k s t := by
  have hitems : t.orderItems = s.orderItems := of_books (·.orderItems) (fun _ => rfl) h
  have hdiscounts : t.discounts = s.discounts := of_books (·.discounts) (fun _ => rfl) h
  have horders : t.orders = s.orders := of_books (·.orders) (fun _ => rfl) h
  refine ⟨⟨?_, ?_, ?_⟩, ?_⟩
  · rw [hitems]
    exact fun _ _ _ => .rfl
  · rw [hdiscounts]
    exact fun _ _ _ => .rfl
  all_goals rw [horders]

/-- A write of another order. -/
theorem sameOrder_update (hne : k ≠ orderId) (data : Order → Order) :
    SameOrder k s (s.updateOrder orderId data) :=
  ⟨⟨fun _ _ _ => .rfl, fun _ _ _ => .rfl, by rw [updateOrder_get, if_neg hne]⟩,
    by rw [updateOrder_get, if_neg hne]⟩

-- ---
-- What a call knows of the rows it will write
-- ---

/-- A line that was read on an order is on that order or gone. -/
def LineOf (s : Store) (itemId orderId : Id) : Prop :=
  itemId < s.orderItems.next ∧
    ∀ item, s.orderItems.get? itemId = some item → item.orderId = orderId

/-- A change writes rows of its own order. -/
def Change.Fits (s : Store) (change : Change) : Prop :=
  match change.write with
  | .createItem row => row.orderId = change.orderId
  | .updateItem itemId data =>
    LineOf s itemId change.orderId ∧ ∀ item, (data item).orderId = item.orderId
  | .deleteItem itemId => LineOf s itemId change.orderId
  | .claim _ discountId _ _ =>
    ∀ row, s.discounts.get? discountId = some row → row.orderId = change.orderId
  | .setStatus .. => True

/-- Lines and discounts stay on their orders. -/
def placed : Frame Store where
  rel s t := s.orderItems.next ≤ t.orderItems.next ∧
    (∀ k item', k < s.orderItems.next → t.orderItems.get? k = some item' →
      ∃ item, s.orderItems.get? k = some item ∧ item'.orderId = item.orderId) ∧
    ∀ k row', t.discounts.get? k = some row' →
      ∃ row, s.discounts.get? k = some row ∧ row'.orderId = row.orderId
  refl s := ⟨Nat.le_refl _, fun _ item _ h => ⟨item, h, rfl⟩, fun _ row h => ⟨row, h, rfl⟩⟩
  trans := by
    rintro s t u ⟨hnext, hitems, hrows⟩ ⟨hnext', hitems', hrows'⟩
    refine ⟨hnext.trans hnext', fun k item'' hk hget => ?_, fun k row'' hget => ?_⟩
    · obtain ⟨item', hget', heq'⟩ := hitems' k item'' (hk.trans_le hnext) hget
      obtain ⟨item, hget, heq⟩ := hitems k item' hk hget'
      exact ⟨item, hget, heq'.trans heq⟩
    · obtain ⟨row', hget', heq'⟩ := hrows' k row'' hget
      obtain ⟨row, hget, heq⟩ := hrows k row' hget'
      exact ⟨row, hget, heq'.trans heq⟩

theorem LineOf.placed (h : LineOf s itemId orderId) (hrel : placed.rel s t) :
    LineOf t itemId orderId := by
  refine ⟨h.1.trans_le hrel.1, fun item' hget' => ?_⟩
  obtain ⟨item, hget, heq⟩ := hrel.2.1 itemId item' h.1 hget'
  exact heq.trans (h.2 item hget)

theorem Change.Fits.placed {change : Change} (h : change.Fits s) (hrel : placed.rel s t) :
    change.Fits t := by
  unfold Change.Fits at h ⊢
  cases hwrite : change.write with
  | createItem row =>
    simp only [hwrite] at h ⊢
    exact h
  | updateItem itemId data =>
    simp only [hwrite] at h ⊢
    exact ⟨h.1.placed hrel, h.2⟩
  | deleteItem itemId =>
    simp only [hwrite] at h ⊢
    exact h.placed hrel
  | claim ctx discountId approvedAt verified =>
    simp only [hwrite] at h ⊢
    intro row' hget'
    obtain ⟨row, hget, heq⟩ := hrel.2.2 discountId row' hget'
    exact heq.trans (h row hget)
  | setStatus ctx order target => trivial

variable {bcrypt : String → String → Bool}

/-- Reading writes nothing, and the other calls leave lines and discounts where they
are. -/
def readingDiscipline (bcrypt : String → String → Bool) :
    Program.Discipline (fun _ s (k : Read) => (s, k.exec bcrypt s)) where
  inv _ := True
  rely _ := placed
  needs _ _ _ := True
  allowed _ _ := True
  keeps _ s _ _ _ _ := ⟨trivial, fun _ _ => placed.refl s⟩

/-- The change that comes out of a call's reading fits. -/
def fits (result : Except HttpError Change) (s : Store) : Prop :=
  ∀ change, result = .ok change → change.Fits s

def Prepared (bcrypt : String → String → Bool) (s : Store) (x : Reading Change) : Prop :=
  x.Safe (readingDiscipline bcrypt) 0 fits s

theorem fits_error (e : HttpError) (s : Store) : fits (.error e) s := fun _ h => by cases h

section

variable {post : Except HttpError β → Store → Prop}

/-- A statement, with what its answer says of the store it found. -/
theorem safe_query {k : Read} {f : k.Answer → Reading β} (herror : ∀ e t, post (.error e) t)
    (hf : ∀ t a, placed.rel s t → k.exec bcrypt t = .ok a →
      (f a).Safe (readingDiscipline bcrypt) 0 post t) :
    (query k >>= f).Safe (readingDiscipline bcrypt) 0 post s := by
  refine Program.safe_statement (fun _ _ _ => trivial) fun t hrel _ _ => ?_
  dsimp only
  cases hanswer : k.exec bcrypt t with
  | ok a => exact hf t a hrel hanswer
  | error e => exact herror e t

theorem safe_check {b : Bool} {e : HttpError} {f : Unit → Reading β}
    (herror : ∀ e t, post (.error e) t)
    (hf : b = true → (f ()).Safe (readingDiscipline bcrypt) 0 post s) :
    (Program.ensure b e >>= f).Safe (readingDiscipline bcrypt) 0 post s :=
  Program.safe_ensure hf fun _ => herror e s

theorem safe_found {o : Option α} {e : HttpError} {f : α → Reading β}
    (herror : ∀ e t, post (.error e) t)
    (hf : ∀ a, o = some a → (f a).Safe (readingDiscipline bcrypt) 0 post s) :
    (Program.need o e >>= f).Safe (readingDiscipline bcrypt) 0 post s :=
  Program.safe_need hf fun _ => herror e s

end

theorem loadForLines_prepared {f : Order → Reading Change}
    (hf : ∀ t order, placed.rel s t → Prepared bcrypt t (f order)) :
    Prepared bcrypt s (loadForLines ctx orderId request change >>= f) := by
  have herror : ∀ e t, Program.continued (readingDiscipline bcrypt) 0 fits f (.error e) t :=
    fits_error
  refine Program.safe_bind <| safe_query herror fun t _ ht _ => safe_found herror fun order _ =>
    safe_query herror fun u _ hu _ => safe_query herror fun v _ hv _ =>
      safe_check herror fun _ => ?_
  exact hf v order (placed.trans ht (placed.trans hu hv))

/-- A line found on an order. -/
theorem lineOf_found (h : s.itemOn orderId itemId = some item) : LineOf s itemId orderId := by
  obtain ⟨hget, horder⟩ := itemOn_iff.mp h
  refine ⟨Table.lt_next hget, fun item' hget' => ?_⟩
  cases hget.symm.trans hget'
  exact horder

theorem reading_prepared (call : Call) (s : Store) : Prepared bcrypt s call.reading := by
  cases call with
  | addOrderItem ctx orderId dto request =>
    refine loadForLines_prepared fun t _ _ => safe_query fits_error fun u pricing _ _ => ?_
    rintro _ ⟨rfl⟩
    exact rfl
  | updateOrderItem ctx orderId itemId dto request =>
    refine loadForLines_prepared fun t _ _ => safe_query fits_error fun u item _ hitem =>
      safe_found fits_error fun existing hexisting =>
        safe_query fits_error fun v pricing hrel _ => ?_
    rintro _ ⟨rfl⟩
    have hfound := Except.ok.inj hitem
    exact ⟨(lineOf_found (hfound.trans hexisting)).placed hrel, fun _ => rfl⟩
  | deleteOrderItem ctx orderId itemId request =>
    refine loadForLines_prepared fun t _ _ => safe_query fits_error fun u item _ hitem =>
      safe_found fits_error fun existing hexisting => ?_
    rintro _ ⟨rfl⟩
    have hfound := Except.ok.inj hitem
    exact lineOf_found (hfound.trans hexisting)
  | transitionOrder ctx orderId target request =>
    refine safe_query fits_error fun t _ _ _ => safe_found fits_error fun order _ =>
      safe_query fits_error fun u _ _ _ => safe_query fits_error fun v _ _ _ =>
        safe_check fits_error fun _ => ?_
    rintro _ ⟨rfl⟩
    trivial
  | voidOrder ctx orderId dto request =>
    refine safe_query fits_error fun t _ _ _ => safe_found fits_error fun order _ =>
      safe_query fits_error fun u _ _ _ => safe_check fits_error fun _ =>
        safe_check fits_error fun _ => ?_
    rintro _ ⟨rfl⟩
    trivial
  | approveDiscount userId ctx discountId dto =>
    refine safe_query fits_error fun t _ _ hfind => safe_found fits_error fun discount hdiscount =>
      safe_check fits_error fun _ => safe_query fits_error fun u _ hu _ =>
        safe_check fits_error fun _ => safe_query fits_error fun v _ hv _ =>
          safe_query fits_error fun w _ hw _ => ?_
    rintro _ ⟨rfl⟩ row' hget'
    have hfound : findDiscount t ctx discountId = some discount :=
      (Except.ok.inj hfind).trans hdiscount
    have hrow := (Option.filter_eq_some_iff.mp hfound).1
    obtain ⟨row, hget, heq⟩ := (placed.trans hu (placed.trans hv hw)).2.2 discountId row' hget'
    cases hrow.symm.trans hget
    exact heq

-- ---
-- What a change leaves
-- ---

/-- Tables that differ in rows of one order only. -/
theorem agreeOn_of {α : Type} {v w : Table α} {column : α → Id} {orderId : Id} (hne : k ≠ orderId)
    (h : ∀ j, w.get? j = v.get? j ∨ ((∀ a, v.get? j = some a → column a = orderId) ∧
      ∀ a, w.get? j = some a → column a = orderId)) :
    Table.AgreeOn (fun _ a => column a = k) v w := by
  rintro j a rfl
  rcases h j with heq | ⟨hv, hw⟩
  · rw [heq]
  · exact ⟨fun hget => absurd (hv a hget) hne, fun hget => absurd (hw a hget) hne⟩

/-- What a change does: to lines, to a discount, or to the status of its order. -/
inductive Changed (s : Store) (change : Change) (t : Store) : Prop
  | lines (hnext : change.next = .summing .orderTotals change.orderId)
  | discount (hnext : change.next = .summing .orderDiscount change.orderId)
      (hitems : t.orderItems = s.orderItems)
  | status (ctx : BranchContext) (order : Order) (target : OrderStatus)
      (hnext : change.next = .settling ctx change.orderId order target)
      (hitems : t.orderItems = s.orderItems) (hdiscounts : t.discounts = s.discounts)

structure ChangeEffect (s : Store) (change : Change) (t : Store) : Prop where
  placed : placed.rel s t
  others : ∀ k, k ≠ change.orderId → SameOrder k s t
  sums : (t.orders.get? change.orderId).map sums = (s.orders.get? change.orderId).map sums
  changed : Changed s change t

theorem placed_of_orders (hitems : t.orderItems = s.orderItems)
    (hdiscounts : t.discounts = s.discounts) : placed.rel s t := by
  refine ⟨Nat.le_of_eq (by rw [hitems]), fun k item _ hget => ?_, fun k row hget => ?_⟩
  · exact ⟨item, hitems ▸ hget, rfl⟩
  · exact ⟨row, hdiscounts ▸ hget, rfl⟩

/-- Lines change, those of one order. -/
theorem lines_effect {items : Table OrderItem} (hnext : s.orderItems.next ≤ items.next)
    (hback : ∀ k item', k < s.orderItems.next → items.get? k = some item' →
      ∃ item, s.orderItems.get? k = some item ∧ item'.orderId = item.orderId)
    (hrows : ∀ j, items.get? j = s.orderItems.get? j ∨
      ((∀ a, s.orderItems.get? j = some a → a.orderId = change.orderId) ∧
        ∀ a, items.get? j = some a → a.orderId = change.orderId))
    (hstage : change.next = .summing .orderTotals change.orderId) :
    ChangeEffect s change { s with orderItems := items } where
  placed := ⟨hnext, hback, fun _ row hget => ⟨row, hget, rfl⟩⟩
  others _ hne := ⟨⟨agreeOn_of hne hrows, fun _ _ _ => .rfl, rfl⟩, rfl⟩
  sums := rfl
  changed := .lines hstage

theorem change_effect {change : Change} (h : change.exec s = .ok t) (hfits : change.Fits s) :
    ChangeEffect s change t := by
  unfold Change.exec at h
  unfold Change.Fits at hfits
  cases hwrite : change.write with
  | createItem row =>
    simp only [hwrite] at h hfits
    cases h
    refine lines_effect (Nat.le_succ _) (fun k item' hk hget => ?_) (fun j => ?_)
      (by simp only [Change.next, hwrite])
    · rw [Table.get?_insert, if_neg (Nat.ne_of_lt hk)] at hget
      exact ⟨item', hget, rfl⟩
    · rw [Table.get?_insert]
      split
      · rename_i hj
        refine .inr ⟨fun a hget => ?_, fun a hget => ?_⟩
        · rw [hj, Table.get?_next] at hget
          cases hget
        · exact Option.some.inj hget ▸ hfits
      · exact .inl rfl
  | updateItem itemId data =>
    simp only [hwrite] at h hfits
    split at h
    · cases h
      have hkept : ∀ j item', (s.orderItems.update itemId data).get? j = some item' →
          ∃ item, s.orderItems.get? j = some item ∧ item'.orderId = item.orderId := by
        intro j item' hget
        rcases Table.update_cases hget with ⟨-, item, hitem, rfl⟩ | ⟨-, hget⟩
        · exact ⟨item, hitem, hfits.2 item⟩
        · exact ⟨item', hget, rfl⟩
      refine lines_effect (Nat.le_refl _) (fun j item' _ hget => hkept j item' hget) (fun j => ?_)
        (by simp only [Change.next, hwrite])
      by_cases hj : j = itemId
      · subst hj
        refine .inr ⟨hfits.1.2, fun a hget => ?_⟩
        obtain ⟨item, hitem, heq⟩ := hkept j a hget
        exact heq.trans (hfits.1.2 item hitem)
      · exact .inl (Table.get?_update_ne _ _ hj)
    · cases h
  | deleteItem itemId =>
    simp only [hwrite] at h hfits
    split at h
    · cases h
      refine lines_effect (Nat.le_refl _) (fun j item' _ hget => ?_) (fun j => ?_)
        (by simp only [Change.next, hwrite])
      · rw [Table.get?_erase] at hget
        split at hget
        · cases hget
        · exact ⟨item', hget, rfl⟩
      · rw [Table.get?_erase]
        split
        · rename_i hj
          exact .inr ⟨hj ▸ hfits.2, fun a hget => by cases hget⟩
        · exact .inl rfl
    · cases h
  | claim ctx discountId approvedAt verified =>
    simp only [hwrite] at h hfits
    split at h
    · cases h
    · cases h
      have hmatch : ∀ j row, s.discounts.get? j = some row →
          claimMatches ctx discountId j row = true → row.orderId = change.orderId := by
        intro j row hget hmatch
        simp only [claimMatches, Bool.and_eq_true, beq_iff_eq] at hmatch
        exact hfits row (hmatch.1.1.1 ▸ hget)
      refine ⟨⟨Nat.le_refl _, fun _ item _ hget => ⟨item, hget, rfl⟩, fun j row' hget => ?_⟩,
        fun k hne => ⟨⟨fun _ _ _ => .rfl, fun j row hk => ?_, rfl⟩, rfl⟩, rfl,
        .discount (by simp only [Change.next, hwrite]) rfl⟩
      · rw [Table.get?_updateWhere] at hget
        obtain ⟨row, hrow, rfl⟩ := Option.map_eq_some_iff.mp hget
        refine ⟨row, hrow, ?_⟩
        split <;> rfl
      · rw [Table.get?_updateWhere, Option.map_eq_some_iff]
        constructor
        · intro hget
          refine ⟨row, hget, if_neg fun hm => hne ?_⟩
          rw [← hk, hmatch j row hget hm]
        · rintro ⟨old, hget, rfl⟩
          split at hk
          · rename_i hm
            exact absurd (hk.symm.trans (hmatch j old hget hm)) hne
          · rename_i hm
            rw [if_neg hm]
            exact hget
  | setStatus ctx order target =>
    simp only [hwrite] at h
    cases h
    refine ⟨placed_of_orders rfl rfl, fun k hne => sameOrder_update hne _, ?_,
      .status ctx order target (by simp only [Change.next, hwrite]) rfl rfl⟩
    rw [setStatus, updateOrder_get, if_pos rfl, Option.map_map]
    rfl

-- ---
-- The invariant
-- ---

theorem exists_erase {α : Type} {l : List α} {a : α} {P : α → Prop} (hi : l[i]? = some a)
    (h : ∃ x ∈ l, P x) : P a ∨ ∃ x ∈ l.eraseIdx i, P x := by
  obtain ⟨x, hmem, hx⟩ := h
  obtain ⟨j, hj⟩ := List.mem_iff_getElem?.mp hmem
  by_cases hji : j = i
  · subst hji
    cases hi.symm.trans hj
    exact .inl hx
  · exact .inr ⟨x, List.mem_eraseIdx_iff_getElem?.mpr ⟨j, hji, hj⟩, hx⟩

theorem exists_set {α : Type} {l : List α} {a : α} {P : α → Prop} (hi : l[i]? = some a) (b : α)
    (h : P b ∨ ∃ x ∈ l.eraseIdx i, P x) : ∃ x ∈ l.set i b, P x := by
  rcases h with hb | ⟨x, hmem, hx⟩
  · exact ⟨b, List.mem_set (List.getElem?_eq_some_iff.mp hi).1 b, hb⟩
  · obtain ⟨j, hji, hj⟩ := List.mem_eraseIdx_iff_getElem?.mp hmem
    refine ⟨x, List.mem_of_getElem? (i := j) ?_, hx⟩
    rw [List.getElem?_set_ne (Ne.symm hji), hj]

/-- The totals of the order are right, or a call will make them so. -/
structure Accounted (p : State) (k : Id) (order : Order) : Prop where
  summed : order.subtotal = p.shared.lineSum k ∨
    ∃ stage ∈ p.threads, stage.rebuilds p.shared k = true
  discounted : Discounted p.shared k order ∨ ∃ stage ∈ p.threads, stage.due p.shared k = true

structure Inv (bcrypt : String → String → Bool) (p : State) : Prop where
  prepared : ∀ x, .reading x ∈ p.threads → Prepared bcrypt p.shared x
  accounted : ∀ k order, p.shared.orders.get? k = some order → Accounted p k order

theorem Prepared.placed {x : Reading Change} (h : Prepared bcrypt s x) (hrel : placed.rel s t) :
    Prepared bcrypt t x :=
  h.rely (fun _ _ _ hfits hrel _ heq => (hfits _ heq).placed hrel) hrel

variable {p : State} {i : Nat} {stage stage' : Stage}

/-- A step that keeps the order's money, and what its call will do for it. -/
theorem Inv.same (h : Inv bcrypt p) (hi : p.threads[i]? = some stage)
    (hsame : SameSums k p.shared t)
    (hrebuilds : stage.rebuilds p.shared k = true → stage'.rebuilds p.shared k = true)
    (hdue : stage.due p.shared k = true → stage'.due p.shared k = true)
    (hget : t.orders.get? k = some order) : Accounted ⟨t, p.threads.set i stage'⟩ k order := by
  obtain ⟨order', hget', hsub, hdisc, htotal⟩ := hsame.back hget
  have hbefore := h.accounted k order' hget'
  constructor
  · rcases hbefore.summed with heq | hwill
    · exact .inl (hsub.symm.trans (heq.trans (lineSum_of_agree hsame.items).symm))
    · refine .inr (exists_set hi stage' ?_)
      simp only [hsame.rebuilds]
      exact (exists_erase hi hwill).imp_left hrebuilds
  · rcases hbefore.discounted with ⟨hd, ht⟩ | hwill
    · left
      unfold Discounted
      rw [lineSum_of_agree hsame.items, approvedAmount_of_agree hsame.discounts]
      exact ⟨hdisc ▸ hd, htotal ▸ ht⟩
    · refine .inr (exists_set hi stage' ?_)
      simp only [hsame.due]
      exact (exists_erase hi hwill).imp_left hdue

/-- The invariant after a call's turn, order by order. -/
theorem Inv.turned (h : Inv bcrypt p) (hrel : placed.rel p.shared t)
    (hprepared : ∀ x, stage' = .reading x → Prepared bcrypt t x)
    (haccounted : ∀ k order, t.orders.get? k = some order →
      Accounted ⟨t, p.threads.set i stage'⟩ k order) : Inv bcrypt ⟨t, p.threads.set i stage'⟩ where
  prepared x hmem := by
    rcases List.mem_or_eq_of_mem_set hmem with hold | hnew
    · exact (h.prepared x hold).placed hrel
    · exact hprepared x hnew.symm
  accounted := haccounted

/-- A turn that writes nothing. -/
theorem Inv.reads (h : Inv bcrypt p) (hi : p.threads[i]? = some stage)
    (hprepared : ∀ x, stage' = .reading x → Prepared bcrypt p.shared x)
    (hrebuilds : ∀ k, stage.rebuilds p.shared k = true → stage'.rebuilds p.shared k = true)
    (hdue : ∀ k, stage.due p.shared k = true → stage'.due p.shared k = true) :
    Inv bcrypt ⟨p.shared, p.threads.set i stage'⟩ :=
  h.turned (placed.refl _) hprepared fun k _ hget =>
    h.same hi (.refl k _) (hrebuilds k) (hdue k) hget

/-- A call changes its order, which is open. -/
theorem Inv.changes (h : Inv bcrypt p) {change : Change}
    (hi : p.threads[i]? = some (.reading (.done (.ok change))))
    (hexec : change.exec p.shared = .ok t) :
    Inv bcrypt ⟨t, p.threads.set i change.next⟩ := by
  have hfits := h.prepared _ (List.mem_of_getElem? hi) change rfl
  have heffect := change_effect hexec hfits
  have hnext : ∀ x, change.next = .reading x → Prepared bcrypt t x := by
    intro x hx
    cases heffect.changed <;> simp_all
  refine h.turned heffect.placed hnext fun k order hget => ?_
  by_cases hk : k = change.orderId
  · subst hk
    cases heffect.changed with
    | lines hnext =>
      have hself : ∃ stage ∈ p.threads.set i change.next,
          stage.rebuilds t change.orderId = true ∧ stage.due t change.orderId = true :=
        exists_set hi _ (.inl (by simp [hnext, Stage.rebuilds, Stage.due]))
      obtain ⟨stage, hmem, hrebuilds, hdue⟩ := hself
      exact ⟨.inr ⟨stage, hmem, hrebuilds⟩, .inr ⟨stage, hmem, hdue⟩⟩
    | discount hnext hitems =>
      have hsum : t.lineSum change.orderId = p.shared.lineSum change.orderId := by
        rw [Store.lineSum, hitems, Store.lineSum]
      have hmap := heffect.sums
      rw [hget, Option.map_some] at hmap
      obtain ⟨order', hget', hsums⟩ := Option.map_eq_some_iff.mp hmap.symm
      constructor
      · rcases (h.accounted _ order' hget').summed with heq | hwill
        · exact .inl ((congrArg Prod.fst hsums).symm.trans (heq.trans hsum.symm))
        · refine .inr (exists_set hi _ ?_)
          -- The change itself was no recomputation.
          refine (exists_erase hi hwill).imp (fun hself => by cases hself) fun hother => ?_
          simpa only [Stage.rebuilds, hsum] using hother
      · exact .inr (exists_set hi _ (.inl (by simp [hnext, Stage.due])))
    | status ctx row target hnext hitems hdiscounts =>
      refine h.same hi ⟨?_, ?_, heffect.sums⟩ (fun hself => by cases hself)
        (fun hself => by cases hself) hget
      · rw [hitems]
        exact fun _ _ _ => .rfl
      · rw [hdiscounts]
        exact fun _ _ _ => .rfl
  · exact h.same hi (heffect.others k hk).toSameSums (fun hself => by cases hself)
      (fun hself => by cases hself) hget

theorem store_lineSum (recalc : Recalc) (s : Store) (orderId : Id) (subtotal discount : Cents)
    (k : Id) : (recalc.store s orderId subtotal discount).lineSum k = s.lineSum k := by
  cases recalc <;> rfl

theorem store_approvedAmount (recalc : Recalc) (s : Store) (orderId : Id)
    (subtotal discount : Cents) (k : Id) (value : Cents) :
    (recalc.store s orderId subtotal discount).approvedAmount k value =
      s.approvedAmount k value := by
  cases recalc <;> rfl

theorem store_rebuilds (recalc : Recalc) (s : Store) (orderId : Id) (subtotal discount : Cents)
    (k : Id) (stage : Stage) :
    stage.rebuilds (recalc.store s orderId subtotal discount) k = stage.rebuilds s k := by
  simp only [Stage.rebuilds, store_lineSum]

theorem store_due (recalc : Recalc) (s : Store) (orderId : Id) (subtotal discount : Cents) (k : Id)
    (stage : Stage) : stage.due (recalc.store s orderId subtotal discount) k = stage.due s k := by
  simp only [Stage.due, store_lineSum, store_approvedAmount]

theorem store_placed (recalc : Recalc) (s : Store) (orderId : Id) (subtotal discount : Cents) :
    placed.rel s (recalc.store s orderId subtotal discount) := by
  cases recalc <;> exact placed_of_orders rfl rfl

theorem store_others (recalc : Recalc) (subtotal discount : Cents) (hne : k ≠ orderId) :
    SameOrder k s (recalc.store s orderId subtotal discount) := by
  cases recalc <;> exact sameOrder_update hne _

/-- A recomputation writes what it made of what it read. -/
theorem Inv.stores (h : Inv bcrypt p)
    (hi : p.threads[i]? = some (.storing recalc orderId subtotal discount))
    (hmay : mayTake p i (.storing recalc orderId subtotal discount)) :
    Inv bcrypt ⟨recalc.store p.shared orderId subtotal discount,
      p.threads.set i (.ended (.ok ()))⟩ := by
  obtain ⟨-, hsub, hright⟩ := hmay
  refine h.turned (store_placed recalc _ _ _ _) (fun x hx => by cases hx) fun k order hget => ?_
  by_cases hk : k = orderId
  · subst hk
    constructor
    · rw [store_lineSum]
      have hothers : (∃ stage ∈ p.threads.eraseIdx i, stage.rebuilds p.shared k = true) →
          ∃ stage ∈ p.threads.set i (.ended (.ok ())),
            stage.rebuilds (recalc.store p.shared k subtotal discount) k = true := by
        intro hwill
        refine exists_set hi _ (.inr ?_)
        simp only [store_rebuilds]
        exact hwill
      cases recalc with
      | orderTotals =>
        rw [Recalc.store, updateOrder_get, if_pos rfl] at hget
        obtain ⟨order', -, rfl⟩ := Option.map_eq_some_iff.mp hget
        rcases hsub with hno | heq | hwill
        · cases hno
        · exact .inl heq
        · exact .inr (hothers hwill)
      | orderDiscount =>
        rw [Recalc.store, updateOrder_get, if_pos rfl] at hget
        obtain ⟨order', hget', rfl⟩ := Option.map_eq_some_iff.mp hget
        rcases (h.accounted k order' hget').summed with heq | hwill
        · exact .inl heq
        · rcases exists_erase hi hwill with hself | hother
          · cases hself
          · exact .inr (hothers hother)
    · rcases hright with ⟨hsum, hdiscount⟩ | hwill
      · left
        unfold Discounted
        rw [store_lineSum, store_approvedAmount, ← hdiscount, ← hsum]
        cases recalc <;> rw [Recalc.store, updateOrder_get, if_pos rfl] at hget <;>
          obtain ⟨order', -, rfl⟩ := Option.map_eq_some_iff.mp hget <;> exact ⟨rfl, rfl⟩
      · refine .inr (exists_set hi _ (.inr ?_))
        simp only [store_due]
        exact hwill
  · have hne : (orderId == k) = false := beq_eq_false_iff_ne.mpr (Ne.symm hk)
    refine h.same hi (store_others recalc _ _ hk).toSameSums (fun hself => ?_) (fun hself => ?_)
      hget
    · cases recalc <;> simp [Stage.rebuilds, hne] at hself
    · simp [Stage.due, hne] at hself

/-- A recomputation starts from a subtotal. -/
theorem Inv.sums (h : Inv bcrypt p) (hi : p.threads[i]? = some (.summing recalc orderId))
    (hmay : mayTake p i (.summing recalc orderId)) :
    Inv bcrypt ⟨((Stage.summing recalc orderId).advance bcrypt p.shared).1,
      p.threads.set i ((Stage.summing recalc orderId).advance bcrypt p.shared).2⟩ := by
  cases recalc with
  | orderTotals =>
    refine h.reads hi (fun x hx => by cases hx) (fun k hself => ?_) fun k hself => ?_
    · obtain rfl : orderId = k := beq_iff_eq.mp hself
      simp [Stage.advance, Recalc.subtotal, Stage.rebuilds]
    · obtain rfl : orderId = k := beq_iff_eq.mp hself
      simp [Stage.advance, Recalc.subtotal, Stage.due]
  | orderDiscount =>
    simp only [Stage.advance, Recalc.subtotal]
    have hnew : ∀ stage' : Stage, (∀ x, stage' = .reading x → Prepared bcrypt p.shared x) →
        (∀ order, p.shared.orders.get? orderId = some order →
          order.subtotal = p.shared.lineSum orderId →
          stage'.due p.shared orderId = true) → Inv bcrypt ⟨p.shared, p.threads.set i stage'⟩ := by
      intro stage' hprepared hdue
      refine h.turned (placed.refl _) hprepared fun k order hget => ?_
      have hbefore := h.accounted k order hget
      refine ⟨?_, ?_⟩
      · refine hbefore.summed.imp_right fun hwill => exists_set hi _ (.inr ?_)
        exact (exists_erase hi hwill).resolve_left fun hself => by cases hself
      · refine hbefore.discounted.imp_right fun hwill => exists_set hi _ ?_
        rcases exists_erase hi hwill with hself | hother
        · obtain rfl : orderId = k := by simpa only [Stage.due, beq_iff_eq] using hself
          exact hmay.imp_left fun hsummed => hdue order hget (hsummed order hget)
        · exact .inr hother
    cases hget : p.shared.orders.get? orderId with
    | none =>
      exact hnew _ (fun x hx => by cases hx) fun order hsome => by
        cases hget.symm.trans hsome
    | some row =>
      refine hnew _ (fun x hx => by cases hx) fun order hsome heq => ?_
      cases hget.symm.trans hsome
      simp [Stage.due, heq]

theorem settle_books (s : Store) : (final (settle ctx orderId order target s)).books = s.books := by
  cases target with
  | voided =>
    show (if order.serviceType = .dineIn then _ else s).books = s.books
    split
    · exact autoReleaseTableIfIdle_books
    · rfl
  | sent =>
    show (if order.serviceType = .dineIn then _ else s).books = s.books
    split
    · exact autoOccupyTable_books
    · rfl
  | closed =>
    exact (deskFrame_books (ReservationsService.completeForClosedOrder_keeps _)).trans
      autoReleaseTableIfIdle_books
  | new | inKitchen | ready | served => rfl

theorem Inv.turn (h : Inv bcrypt p) (hi : p.threads[i]? = some stage) (hmay : mayTake p i stage) :
    Inv bcrypt ⟨(stage.advance bcrypt p.shared).1,
      p.threads.set i (stage.advance bcrypt p.shared).2⟩ := by
  cases stage with
  | reading x =>
    cases x with
    | done result =>
      cases result with
      | error e =>
        exact h.reads hi (fun x hx => by cases hx) (fun _ hself => by cases hself)
          fun _ hself => by cases hself
      | ok change =>
        simp only [Stage.advance]
        cases hexec : change.exec p.shared with
        | ok t => exact h.changes hi hexec
        | error e =>
          exact h.reads hi (fun x hx => by cases hx) (fun _ hself => by cases hself)
            fun _ hself => by cases hself
    | send k next =>
      refine h.reads hi (fun x hx => ?_) (fun _ hself => by cases hself)
        fun _ hself => by cases hself
      cases hx
      exact ((h.prepared _ (List.mem_of_getElem? hi)) p.shared (placed.refl _) trivial).2 trivial
  | summing recalc orderId => exact h.sums hi hmay
  | discounting recalc orderId subtotal =>
    refine h.reads hi (fun x hx => by cases hx) (fun k hself => ?_) fun k hself => ?_
    · cases recalc with
      | orderTotals => exact hself
      | orderDiscount => cases hself
    · simp only [Stage.due, Bool.and_eq_true, beq_iff_eq] at hself
      obtain ⟨rfl, rfl⟩ := hself
      simp [Stage.advance, Stage.due]
  | storing recalc orderId subtotal discount => exact h.stores hi hmay
  | settling ctx orderId order target =>
    have hbooks : (final (settle ctx orderId order target p.shared)).books = p.shared.books :=
      settle_books p.shared
    have hsame := sameOrder_of_books hbooks
    refine h.turned ?_ (fun x hx => by cases hx) fun k row hget =>
      h.same hi (hsame k).toSameSums (fun hself => by cases hself) (fun hself => by cases hself)
        hget
    exact placed_of_orders (of_books (·.orderItems) (fun _ => rfl) hbooks)
      (of_books (·.discounts) (fun _ => rfl) hbooks)
  | ended result =>
    exact h.reads hi (fun x hx => by cases hx) (fun _ hself => hself) fun _ hself => hself

/-- A turn that is allowed leaves a closed order as it is. -/
theorem Inv.closed (h : Inv bcrypt p) (hi : p.threads[i]? = some stage) (hmay : mayTake p i stage)
    (hclosed : Closed p.shared k) : SameOrder k p.shared (stage.advance bcrypt p.shared).1 := by
  have hopen : ¬Open p.shared k := by
    obtain ⟨order, hget, hinactive⟩ := hclosed
    intro hopen
    cases hinactive.symm.trans (hopen order hget)
  cases stage with
  | reading x =>
    cases x with
    | done result =>
      cases result with
      | error e => exact .refl k _
      | ok change =>
        simp only [Stage.advance]
        cases hexec : change.exec p.shared with
        | error e => exact .refl k _
        | ok t =>
          refine (change_effect hexec (h.prepared _ (List.mem_of_getElem? hi) change rfl)).others
            k ?_
          rintro rfl
          exact hopen hmay
    | send k next => exact .refl _ _
  | summing recalc orderId =>
    simp only [Stage.advance]
    cases recalc.subtotal p.shared orderId <;> exact .refl k _
  | discounting recalc orderId subtotal => exact .refl k _
  | storing recalc orderId subtotal discount =>
    refine store_others recalc subtotal discount ?_
    rintro rfl
    exact hopen hmay.1
  | settling ctx orderId order target => exact sameOrder_of_books (settle_books _) k
  | ended result => exact .refl k _

-- ---
-- Every interleaving
-- ---

theorem Inv.take (h : Inv bcrypt p) (step : Step) (hmay : undisturbed p step) :
    Inv bcrypt (step.take bcrypt p) := by
  cases step with
  | wait ms =>
    refine ⟨fun x hmem => (h.prepared x hmem).placed (placed_of_orders rfl rfl),
      fun k order hget => ?_⟩
    have hbefore := h.accounted k order hget
    exact ⟨hbefore.summed, hbefore.discounted⟩
  | turn i =>
    simp only [Step.take, Pool.step]
    cases hi : p.threads[i]? with
    | none => exact h
    | some stage => exact h.turn hi (hmay stage hi)

theorem Inv.stays (h : Inv bcrypt p) (step : Step) (hmay : undisturbed p step)
    (hclosed : Closed p.shared k) : SameOrder k p.shared (step.take bcrypt p).shared := by
  cases step with
  | wait ms => exact ⟨⟨fun _ _ _ => .rfl, fun _ _ _ => .rfl, rfl⟩, rfl⟩
  | turn i =>
    simp only [Step.take, Pool.step]
    cases hi : p.threads[i]? with
    | none => exact .refl k _
    | some stage => exact h.closed hi (hmay stage hi) hclosed

theorem SameOrder.closed (h : SameOrder k s t) (hclosed : Closed s k) : Closed t k := by
  obtain ⟨order, hget, hinactive⟩ := hclosed
  have hmap := h.status
  rw [hget, Option.map_some] at hmap
  obtain ⟨order', hget', hstatus⟩ := Option.map_eq_some_iff.mp hmap
  exact ⟨order', hget', hstatus ▸ hinactive⟩

theorem inv_begin {start : Store} (hstart : ∀ k, Balanced start k) (calls : List Call) :
    Inv bcrypt ⟨start, calls.map Call.begin⟩ where
  prepared x hmem := by
    obtain ⟨call, -, hcall⟩ := List.mem_map.mp hmem
    cases hcall
    exact reading_prepared call start
  accounted k order hget := ⟨.inl (hstart k order hget).1, .inl (hstart k order hget).2⟩

/-- Nothing is lost, once every call has ended, and nothing moves on a closed order. -/
theorem run_keeps_edits (bcrypt : String → String → Bool) (start : Store)
    (hstart : ∀ k, Balanced start k) (calls : List Call)
    (h : Run (Step.take bcrypt) undisturbed ⟨start, calls.map Call.begin⟩ steps p) :
    ((∀ stage ∈ p.threads, stage.isEnded = true) → ∀ k, Balanced p.shared k) ∧
      ∀ before later, steps = before ++ later →
        ∀ k, Closed (before.foldl (Step.take bcrypt) ⟨start, calls.map Call.begin⟩).shared k →
          SameOrder k (before.foldl (Step.take bcrypt) ⟨start, calls.map Call.begin⟩).shared
            p.shared := by
  have hinv : ∀ {steps q},
      Run (Step.take bcrypt) undisturbed ⟨start, calls.map Call.begin⟩ steps q →
      Inv bcrypt q :=
    fun hrun => hrun.invariant (inv_begin hstart calls) fun q step hq hmay => hq.take step hmay
  constructor
  · intro hended k order hget
    have hnone : ∀ will : Stage → Bool, (∀ result, will (.ended result) = false) →
        ¬∃ stage ∈ p.threads, will stage = true := by
      rintro will hwill ⟨stage, hmem, hstage⟩
      cases stage with
      | ended result => cases (hwill result).symm.trans hstage
      | _ => cases hended _ hmem
    have haccounted := (hinv h).accounted k order hget
    exact ⟨haccounted.summed.resolve_right (hnone _ fun _ => rfl),
      haccounted.discounted.resolve_right (hnone _ fun _ => rfl)⟩
  · rintro before later rfl k hclosed
    generalize hmid :
      before.foldl (Step.take bcrypt) ⟨start, calls.map Call.begin⟩ = mid at hclosed ⊢
    have hlater : Run (Step.take bcrypt) undisturbed mid later p := hmid ▸ h.drop
    have hboth : Inv bcrypt p ∧ SameOrder k mid.shared p.shared := by
      refine hlater.invariant (I := fun q => Inv bcrypt q ∧ SameOrder k mid.shared q.shared)
        ⟨hmid ▸ hinv h.take, .refl k _⟩ fun q step hq hmay => ?_
      exact ⟨hq.1.take step hmay, hq.2.trans (hq.1.stays step hmay (hq.2.closed hclosed))⟩
    exact hboth.2

-- ---
-- Two lines at once
-- ---

/-- An open order without lines, and a dish at 10.00. -/
def emptyOrder : Store where
  menu := { menuItems := Table.empty.insert { orgId := 0, branchId := 0, price := 1000 } }
  orders := Table.empty.insert
    { orgId := 0, branchId := 0, tableId := none, userId := 0, orderNumber := "ORD-0001"
      serviceType := .takeaway, createdAt := 0, updatedAt := 0 }

theorem emptyOrder_balanced (k : Id) : Balanced emptyOrder k := by
  intro order hget
  have hsum : emptyOrder.lineSum k = 0 := rfl
  have hamount : emptyOrder.approvedAmount k 0 = 0 := rfl
  obtain ⟨rfl, rfl⟩ : k = 0 ∧ order = _ := by
    simpa [emptyOrder, Table.get?, Table.insert, Table.empty, List.lookup_cons] using
      Table.get?_iff.mp hget
  exact ⟨rfl, rfl, rfl⟩

def twoDishes : List Call :=
  [.addOrderItem ⟨0, 0⟩ 0 { menuItemId := 0 } {}, .addOrderItem ⟨0, 0⟩ 0 { menuItemId := 0 } {}]

/-- The first call has written its line and read the sum, and stores it after the second
call is through. -/
def overlapping : List Step :=
  List.replicate 6 (.turn 0) ++ List.replicate 8 (.turn 1) ++ List.replicate 2 (.turn 0)

def onePerCall : List Step := List.replicate 8 (.turn 0) ++ List.replicate 8 (.turn 1)

theorem run_keeps_edits_onePerCall :
    let start : State := ⟨emptyOrder, twoDishes.map Call.begin⟩
    let p := onePerCall.foldl (Step.take (· == ·)) start
    Run (Step.take (· == ·)) undisturbed start onePerCall p ∧ p.shared.lineSum 0 = 2000 ∧
      Balanced p.shared 0 := by
  intro start p
  have hrun : Run (Step.take (· == ·)) undisturbed start onePerCall p := Run.of_holds (by decide)
  have hended : ∀ stage ∈ p.threads, stage.isEnded = true := by decide
  exact ⟨hrun, by decide,
    (run_keeps_edits (· == ·) emptyOrder emptyOrder_balanced twoDishes hrun).1 hended 0⟩

theorem overlapping_loses_edit :
    ¬∀ (bcrypt : String → String → Bool) (start : Store) (calls : List Call) (steps : List Step),
      (∀ k, Balanced start k) →
      let p := steps.foldl (Step.take bcrypt) ⟨start, calls.map Call.begin⟩
      (∀ stage ∈ p.threads, stage.isEnded = true) → ∀ k, Balanced p.shared k := by
  intro h
  have hbalanced := h (· == ·) emptyOrder twoDishes overlapping emptyOrder_balanced (by decide) 0
  generalize hp : overlapping.foldl (Step.take (· == ·)) ⟨emptyOrder, twoDishes.map Call.begin⟩ = p
    at hbalanced
  have hstored : (p.shared.orders.get? 0).any (fun order =>
      order.subtotal == 1000 && p.shared.lineSum 0 == 2000) = true := by
    subst hp
    decide
  obtain ⟨order, hget, hrow⟩ := (Option.any_eq_true _ _).mp hstored
  simp only [Bool.and_eq_true, beq_iff_eq] at hrow
  have heq := (hbalanced order hget).1
  rw [hrow.1, hrow.2] at heq
  cases heq

end NimbusPos.OrderEdits
