import NimbusPos.Lib.Rounding
import NimbusPos.OrderMoney
import NimbusPos.Text

/-!
# One discount, three calculators

The orders service takes the approved discount of the sum of the lines, the discounts service
of the stored subtotal, and the supervisor's screen shows beforehand what a discount would
leave. Each has its own code, in decimals of two places. The two services agree after every
call, on a discount that is within the subtotal as long as there is one; the screen agrees
with them but for amounts at half a cent.
-/

namespace NimbusPos

open Lib Lib.Service

-- ---
-- Decimals
-- ---

/-- An amount of cents as a decimal. -/
def toDecimal (cents : Cents) : ℚ := cents / 100

/-- `Decimal.toDecimalPlaces(2)`, which rounds half up. -/
def toDecimalPlaces2 (x : ℚ) : ℚ := roundHalf (100 * x) / 100

theorem toDecimalPlaces2_eq (x : ℚ) : toDecimalPlaces2 x = toDecimal (roundHalf (100 * x)) := rfl

theorem hundred_toDecimal (cents : Cents) : 100 * toDecimal cents = cents := by
  unfold toDecimal
  ring

@[simp] theorem toDecimalPlaces2_toDecimal (cents : Cents) :
    toDecimalPlaces2 (toDecimal cents) = toDecimal cents := by
  rw [toDecimalPlaces2_eq, hundred_toDecimal, roundHalf_intCast]

@[simp] theorem toDecimal_inj : toDecimal a = toDecimal b ↔ a = b := by
  refine ⟨fun h => ?_, congrArg toDecimal⟩
  have hcast := congrArg (100 * ·) h
  simp only [hundred_toDecimal] at hcast
  exact_mod_cast hcast

@[simp] theorem toDecimal_zero : toDecimal 0 = 0 := by simp [toDecimal]

theorem toDecimal_sub (a b : Cents) : toDecimal a - toDecimal b = toDecimal (a - b) := by
  unfold toDecimal
  push_cast
  ring

theorem toDecimal_le : toDecimal a ≤ toDecimal b ↔ a ≤ b := by
  unfold toDecimal
  rw [div_le_div_iff_of_pos_right (by norm_num)]
  exact Int.cast_le

theorem toDecimal_max (a b : Cents) : max (toDecimal a) (toDecimal b) = toDecimal (max a b) := by
  rcases le_total a b with h | h
  · rw [max_eq_right h, max_eq_right (toDecimal_le.mpr h)]
  · rw [max_eq_left h, max_eq_left (toDecimal_le.mpr h)]

theorem toDecimal_min (a b : Cents) : min (toDecimal a) (toDecimal b) = toDecimal (min a b) := by
  rcases le_total a b with h | h
  · rw [min_eq_left h, min_eq_left (toDecimal_le.mpr h)]
  · rw [min_eq_right h, min_eq_right (toDecimal_le.mpr h)]

-- ---
-- The two services
-- ---

/-- What the calculators read of an approved discount. -/
structure ApprovedDiscount where
  type : DiscountType
  value : ℚ
  deriving DecidableEq, Repr

structure OrderTotals where
  subtotal : ℚ
  discount : ℚ
  total : ℚ
  deriving DecidableEq, Repr

/-- What `recalcOrderTotals` stores. -/
def OrdersService.orderTotals (items : List ℚ) (approvedDiscount : Option ApprovedDiscount) :
    OrderTotals :=
  let subtotal := items.foldl (· + ·) 0
  let discountAmount := match approvedDiscount with
    | none => 0
    | some discount => match discount.type with
      | .percentage => toDecimalPlaces2 (subtotal * discount.value / 100)
      | .fixed => toDecimalPlaces2 (min discount.value subtotal)
  let total := max (subtotal - discountAmount) 0
  ⟨toDecimalPlaces2 subtotal, toDecimalPlaces2 discountAmount, toDecimalPlaces2 total⟩

def DiscountsService.computeDiscountAmount (type : DiscountType) (value orderSubtotal : ℚ) : ℚ :=
  match type with
  | .percentage => toDecimalPlaces2 (orderSubtotal * value / 100)
  | .fixed => toDecimalPlaces2 (min value orderSubtotal)

/-- What `recalcOrderDiscount` stores, next to the subtotal that it read. -/
def DiscountsService.orderTotals (subtotal : ℚ) (approvedDiscount : Option ApprovedDiscount) :
    OrderTotals :=
  let discountAmount := match approvedDiscount with
    | none => 0
    | some discount => computeDiscountAmount discount.type discount.value subtotal
  let total := subtotal - discountAmount
  ⟨subtotal, toDecimalPlaces2 discountAmount, toDecimalPlaces2 (max total 0)⟩

/-- `orderItem.findMany`, of the subtotals. -/
def Store.itemSubtotals (s : Store) (orderId : Id) : List ℚ :=
  (s.orderItems.findMany fun _ item => item.orderId == orderId).map fun row =>
    toDecimal row.2.subtotal

def Discount.approved (discount : Discount) : ApprovedDiscount :=
  ⟨discount.type, toDecimal discount.value⟩

def Store.approvedDecimal (s : Store) (orderId : Id) : Option ApprovedDiscount :=
  (s.approvedDiscount orderId).map fun row => row.2.approved

def Order.totals (order : Order) : OrderTotals :=
  ⟨toDecimal order.subtotal, toDecimal order.discount, toDecimal order.total⟩

theorem computeDiscountAmount_approved (discount : Discount) (subtotal : Cents) :
    DiscountsService.computeDiscountAmount discount.type (toDecimal discount.value)
      (toDecimal subtotal) = toDecimal (discountAmount subtotal discount) := by
  unfold DiscountsService.computeDiscountAmount discountAmount
  cases discount.type with
  | percentage =>
    have hcents : 100 * (toDecimal subtotal * toDecimal discount.value / 100) =
        ((subtotal * discount.value : Int) : ℚ) / (10000 : Int) := by
      unfold toDecimal
      push_cast
      ring
    rw [toDecimalPlaces2_eq, hcents, roundHalf_div _ (by decide)]
  | fixed => rw [toDecimal_min, toDecimalPlaces2_toDecimal]

/-- The discounts service on an order whose subtotal is stored. -/
theorem discounts_orderTotals (s : Store) (orderId : Id) (subtotal : Cents) :
    DiscountsService.orderTotals (toDecimal subtotal) (s.approvedDecimal orderId) =
      ⟨toDecimal subtotal, toDecimal (s.approvedAmount orderId subtotal),
        toDecimal (max (subtotal - s.approvedAmount orderId subtotal) 0)⟩ := by
  unfold DiscountsService.orderTotals Store.approvedDecimal Store.approvedAmount
  cases s.approvedDiscount orderId with
  | none =>
    simp only [Option.map_none, ← toDecimal_zero, toDecimal_sub, toDecimal_max,
      toDecimalPlaces2_toDecimal, Int.sub_zero]
  | some row =>
    simp only [Option.map_some, Discount.approved, computeDiscountAmount_approved,
      toDecimalPlaces2_toDecimal, toDecimal_sub, ← toDecimal_zero, toDecimal_max]

theorem foldl_toDecimal (rows : List (Id × OrderItem)) (start : Cents) :
    (rows.map fun row => toDecimal row.2.subtotal).foldl (· + ·) (toDecimal start) =
      toDecimal (start + (rows.map fun row => row.2.subtotal).sum) := by
  induction rows generalizing start with
  | nil => simp
  | cons row rows ih =>
    have hadd : toDecimal start + toDecimal row.2.subtotal =
        toDecimal (start + row.2.subtotal) := by
      unfold toDecimal
      push_cast
      ring
    simp only [List.map_cons, List.foldl_cons, List.sum_cons, hadd, ih, Int.add_assoc]

/-- The orders service on the lines of an order. -/
theorem orders_orderTotals (s : Store) (orderId : Id) :
    OrdersService.orderTotals (s.itemSubtotals orderId) (s.approvedDecimal orderId) =
      DiscountsService.orderTotals (toDecimal (s.lineSum orderId)) (s.approvedDecimal orderId) := by
  have hsum : (s.itemSubtotals orderId).foldl (· + ·) 0 = toDecimal (s.lineSum orderId) := by
    have hfold := foldl_toDecimal (s.orderItems.findMany fun _ item => item.orderId == orderId) 0
    rwa [toDecimal_zero, Int.zero_add] at hfold
  unfold OrdersService.orderTotals DiscountsService.orderTotals
    DiscountsService.computeDiscountAmount
  rw [hsum]
  cases s.approvedDecimal orderId with
  | none => simp
  | some discount => cases discount.type <;> simp

-- ---
-- After every call
-- ---

/-- The order has what either service calculates. -/
structure Calculated (s : Store) (orderId : Id) (order : Order) : Prop where
  subtotal : order.subtotal = s.lineSum orderId
  discount : order.discount = s.approvedAmount orderId order.subtotal
  total : order.total = max (order.subtotal - order.discount) 0

def DiscountsAgree (s : Store) : Prop :=
  ∀ k order, s.orders.get? k = some order → order.status ≠ .voided → Calculated s k order

theorem Calculated.totals_eq (h : Calculated s k order) :
    order.totals = OrdersService.orderTotals (s.itemSubtotals k) (s.approvedDecimal k) ∧
      order.totals =
        DiscountsService.orderTotals order.totals.subtotal (s.approvedDecimal k) := by
  have hdiscounts : order.totals =
      DiscountsService.orderTotals order.totals.subtotal (s.approvedDecimal k) := by
    simp only [Order.totals, discounts_orderTotals]
    rw [← h.discount, ← h.total]
  refine ⟨?_, hdiscounts⟩
  rw [orders_orderTotals, ← h.subtotal]
  exact hdiscounts

/-- Rows of another order, and rows that are not approved, decide nothing. -/
theorem approvedAmount_of_agree {s t : Store}
    (h : Table.AgreeOn (fun _ row => row.orderId = k ∧ row.status = .approved) s.discounts
      t.discounts) (subtotal : Cents) :
    t.approvedAmount k subtotal = s.approvedAmount k subtotal := by
  have hrows := h.findMany (p := fun _ row => row.orderId == k && row.status == .approved) <| by
    intro _ row hrow
    simpa using hrow
  simp only [Store.approvedAmount, Store.approvedDiscount, Table.findLatest, hrows]

theorem Calculated.of_money {s t : Store} (h : Calculated s k order)
    (hmoney : order'.money = order.money) (hsum : t.lineSum k = s.lineSum k)
    (hdiscounts : Table.AgreeOn (fun _ row => row.orderId = k ∧ row.status = .approved) s.discounts
      t.discounts) : Calculated t k order' := by
  simp only [Order.money, Prod.mk.injEq] at hmoney
  obtain ⟨hsub, _, hdisc, htotal⟩ := hmoney
  refine ⟨?_, ?_, ?_⟩
  · rw [hsub, hsum]
    exact h.subtotal
  · rw [hdisc, hsub, approvedAmount_of_agree hdiscounts]
    exact h.discount
  · rw [htotal, hsub, hdisc]
    exact h.total

section

variable {s t : Store}

/-- The lines of one order change, and the orders service recomputes it. -/
theorem DiscountsAgree.lines (hs : DiscountsAgree s) {items : Table OrderItem}
    (hothers : ∀ k, k ≠ orderId → { s with orderItems := items }.lineSum k = s.lineSum k) :
    DiscountsAgree (OrdersService.recalcOrderTotals { s with orderItems := items } orderId) := by
  intro k order' hget hlive
  rw [OrdersService.recalcOrderTotals, updateOrder_get] at hget
  split at hget
  · rename_i hk
    subst hk
    obtain ⟨order, _, rfl⟩ := Option.map_eq_some_iff.mp hget
    exact ⟨rfl, rfl, rfl⟩
  · rename_i hk
    exact (hs k order' hget hlive).of_money rfl (hothers k hk) fun _ _ _ => Iff.rfl

/-- A discount of one order changes, and the discounts service recomputes it. -/
theorem DiscountsAgree.decided (hs : DiscountsAgree s) {discounts : Table Discount}
    (hothers : ∀ k, k ≠ orderId →
      Table.AgreeOn (fun _ row => row.orderId = k ∧ row.status = .approved) s.discounts discounts) :
    DiscountsAgree (DiscountsService.recalcOrderDiscount { s with discounts } orderId) := by
  intro k order' hget hlive
  rw [DiscountsService.recalcOrderDiscount, updateOrder_get] at hget
  split at hget
  · rename_i hk
    subst hk
    obtain ⟨order, horder, rfl⟩ := Option.map_eq_some_iff.mp hget
    exact ⟨(hs k order horder hlive).subtotal, rfl, rfl⟩
  · rename_i hk
    exact (hs k order' hget hlive).of_money rfl rfl (hothers k hk)

/-- Nothing that is approved changes, and no money. -/
theorem DiscountsAgree.carried (hs : DiscountsAgree s) (hlines : LinesSound s)
    (hsound : DiscountsSound t) (hitems : t.orderItems = s.orderItems)
    (hdiscounts : ∀ k, Table.AgreeOn (fun _ row => row.orderId = k ∧ row.status = .approved)
      s.discounts t.discounts) (h : Carried s t) : DiscountsAgree t := by
  intro k order' hget hlive
  have hsum : t.lineSum k = s.lineSum k := by rw [Store.lineSum, hitems, Store.lineSum]
  rcases h k order' hget hlive with ⟨order, horder, hold, hmoney⟩ | ⟨rfl, hmoney⟩
  · exact (hs k order horder hold).of_money hmoney hsum (hdiscounts k)
  · simp only [Order.money, Prod.mk.injEq] at hmoney
    obtain ⟨hsub, _, hdisc, htotal⟩ := hmoney
    have hnothing := @approvedAmount_bounds _ _ s.orders.next hsound (Int.le_refl 0)
    refine ⟨?_, ?_, ?_⟩
    · rw [hsub, hsum, lineSum_eq hlines, lineValue_next hlines]
    · rw [hsub, hdisc]
      exact Int.le_antisymm hnothing.1 hnothing.2
    · rw [hsub, hdisc, htotal, Int.sub_zero, max_self]

end

def Call.isHandoff : Call → Bool
  | .handoff _ => true
  | _ => false

theorem Effect.discountsAgree {s t : Store} (h : Effect s call t) (hs : DiscountsAgree s)
    (hlines : LinesSound s) (hsound : DiscountsSound s) (hcall : call.isHandoff = false) :
    DiscountsAgree t := by
  have hsound' := h.discounts hsound
  have haside (hreckons : call.reckons = false) : DiscountsAgree t := by
    obtain ⟨hitems, hdiscounts, hcarried⟩ := h.aside hreckons
    exact hs.carried hlines hsound' hitems (fun k => hdiscounts ▸ fun _ _ _ => Iff.rfl) hcarried
  cases h with
  | nothing => exact hs
  | addOrderItem _ _ hprice =>
    refine hs.lines fun k hk => ?_
    simp only [lineSum_insert, OrdersService.newItem, if_neg (Ne.symm hk), add_zero]
  | updateOrderItem _ _ hitem =>
    obtain ⟨hget, horder⟩ := itemOn_iff.mp hitem
    refine hs.lines fun k hk => ?_
    rw [lineSum_update hget rfl, if_neg (horder ▸ Ne.symm hk), add_zero]
  | deleteOrderItem _ _ hitem =>
    obtain ⟨hget, horder⟩ := itemOn_iff.mp hitem
    refine hs.lines fun k hk => ?_
    rw [lineSum_erase hget, if_neg (horder ▸ Ne.symm hk), sub_zero]
  | advance hcall' => exact haside (reckons_of_transition hcall')
  | requestDiscount =>
    refine hs.decided fun k hk => .insert _ ?_
    rintro ⟨rfl, -⟩
    exact hk rfl
  | requestPending =>
    refine hs.carried hlines hsound' flagHeavyDiscount_items (fun k => ?_)
      (flagHeavyDiscount_carried s _ _)
    rw [flagHeavyDiscount_discounts]
    refine .insert _ ?_
    rintro ⟨-, hno⟩
    cases hno
  | @approveDiscount discountId discount _ _ _ _ _ hdiscount =>
    have hget := (Option.filter_eq_some_iff.mp hdiscount).1
    refine hs.decided fun k hk => .updateWhere fun j row hrow hclaim => ?_
    simp only [DiscountsService.claimMatches, Bool.and_eq_true, beq_iff_eq] at hclaim
    obtain ⟨⟨⟨rfl, -⟩, -⟩, -⟩ := hclaim
    cases hget.symm.trans hrow
    exact ⟨fun hkind => hk hkind.1.symm, fun hkind => hk hkind.1.symm⟩
  | rejectDiscount =>
    refine hs.carried hlines hsound' rfl (fun k => .updateWhere fun j row _ hclaim => ?_)
      (.refl rfl)
    simp only [DiscountsService.claimMatches, Bool.and_eq_true, beq_iff_eq] at hclaim
    refine ⟨fun hkind => ?_, fun hkind => ?_⟩
    · rw [hclaim.2] at hkind
      cases hkind.2
    · cases hkind.2
  | splitItems | moveItems | mergeOrders => cases hcall
  | _ => exact haside rfl

/-- The agreement with what it rests on. -/
structure Discounting (s : Store) : Prop where
  agree : DiscountsAgree s
  lines : LinesSound s
  sound : DiscountsSound s

theorem opening_discounting (h : System.Opening s) : Discounting s := by
  have hreckoned := opening_reckoned h
  refine ⟨fun k order hget => ?_, hreckoned.lines, hreckoned.discounts⟩
  rw [h.orders] at hget
  cases hget

theorem Effect.discounting (h : Effect s call t) (hs : Discounting s)
    (hcall : call.isHandoff = false) : Discounting t :=
  ⟨h.discountsAgree hs.agree hs.lines hs.sound hcall, h.lines hs.lines, h.discounts hs.sound⟩

/-- After any calls but handoffs both services stand by what is stored. -/
theorem reach_discounting (hstart : System.Opening start)
    (h : System.Reach bcrypt (fun _ call => call.isHandoff = false) start events s) :
    Discounting s := by
  refine h.invariant (opening_discounting hstart) (fun r wait hr => ?_) fun r call hr hok =>
    (exec_effect bcrypt r call).discounting hr hok
  refine ⟨fun k order hget hlive => ?_, hr.lines.same rfl (Nat.le_refl _), hr.sound⟩
  exact (hr.agree k order hget hlive).of_money rfl rfl fun _ _ _ => Iff.rfl

-- ---
-- The supervisor's screen
-- ---

namespace OrderFinancials

/-- What a discount leaves is known with it. -/
theorem left_of_amount {cents d r : Int} :
    (d = r ∧ max 0 (cents - d) = max (cents - r) 0) ↔ d = r := by
  constructor
  · rintro ⟨h, -⟩
    exact h
  · rintro rfl
    exact ⟨rfl, max_comm _ _⟩

/-- Two ways of leaving less by a cent, of at least one. -/
theorem left_iff {cents m i j : Int} (h : m < cents) (hi : i ≤ 1) (hj : j ≤ 1) :
    max 0 (cents - m - i) = max (cents - (m + j)) 0 ↔ i = j := by
  omega

/-- A discount as it is typed, or as a number. -/
inductive DiscountInput
  | number (value : ℚ)
  | text (value : String)
  deriving DecidableEq, Repr

def parseDiscountValue (input : String) : Option ℚ :=
  (Text.plainAmount (Text.trim input)).map fun cents => toDecimal cents

def DiscountInput.value : DiscountInput → Option ℚ
  | .number value => some value
  | .text input => parseDiscountValue input

structure DiscountPreview where
  discountAmount : ℚ
  newTotal : ℚ
  deriving DecidableEq, Repr

section

/-! `Number.EPSILON` makes up for binary fractions: `2⁻⁵²` in the source, zero in decimals. -/

variable (epsilon : ℚ)

/-- `Math.round((value + Number.EPSILON) * 100) / 100`. -/
def round2 (value : ℚ) : ℚ := (⌊(value + epsilon) * 100 + 1 / 2⌋ : ℤ) / 100

def previewAmount (type : DiscountType) (v sub : ℚ) : ℚ :=
  match type with
  | .percentage => round2 epsilon (sub * v / 100)
  | .fixed => min v sub

/-- The subtotal is `Number(subtotal)`, if that is finite. -/
def computeDiscountPreview (type : DiscountType) (input : DiscountInput) (subtotal : Option ℚ) :
    Option DiscountPreview := do
  let v ← input.value
  let sub ← subtotal
  if v ≤ 0 ∨ sub ≤ 0 then none
  else
    let amount := previewAmount epsilon type v sub
    let newTotal := max 0 (round2 epsilon (sub - amount))
    return { discountAmount := round2 epsilon amount, newTotal }

/-- The cents that the screen rounds are within `EPSILON` of a half: of what a percentage takes
off, or of a fixed amount below the subtotal. -/
def AtHalfCent (type : DiscountType) (v sub : ℚ) : Prop :=
  match type with
  | .percentage => 1 / 2 - 100 * epsilon ≤ Int.fract (sub * v) ∧ Int.fract (sub * v) < 1 / 2
  | .fixed => v < sub ∧ 1 / 2 - 100 * epsilon ≤ Int.fract (100 * v) ∧
    Int.fract (100 * v) ≤ 1 / 2 + 100 * epsilon

variable {epsilon}

theorem computeDiscountPreview_some
    (h : computeDiscountPreview epsilon type input (some sub) = some p) :
    ∃ v, input.value = some v ∧ 0 < v ∧ 0 < sub ∧
      p.discountAmount = round2 epsilon (previewAmount epsilon type v sub) ∧
      p.newTotal = max 0 (round2 epsilon (sub - previewAmount epsilon type v sub)) := by
  simp only [computeDiscountPreview, Option.bind_eq_bind, Option.bind_eq_some_iff] at h
  obtain ⟨v, hv, _, hsub, h⟩ := h
  obtain rfl := Option.some.inj hsub
  split at h
  · cases h
  · rename_i hpos
    rw [not_or, not_le, not_le] at hpos
    obtain rfl := Option.some.inj h
    exact ⟨v, hv, hpos.1, hpos.2, rfl, rfl⟩

/-- What both services make of a discount whose amount is known. -/
theorem orderTotals_of
    (h : DiscountsService.computeDiscountAmount type v (toDecimal cents) = toDecimal amount) :
    DiscountsService.orderTotals (toDecimal cents) (some ⟨type, v⟩) =
      ⟨toDecimal cents, toDecimal amount, toDecimal (max (cents - amount) 0)⟩ := by
  simp only [DiscountsService.orderTotals, h, toDecimalPlaces2_toDecimal, toDecimal_sub,
    ← toDecimal_zero, toDecimal_max]

variable (h0 : 0 ≤ epsilon) (hhalf : epsilon < 1 / 200)
include h0 hhalf

theorem round2_eq (x : ℚ) : round2 epsilon x =
    toDecimal (⌊100 * x⌋ + if 1 / 2 - 100 * epsilon ≤ Int.fract (100 * x) then 1 else 0) := by
  have hsum : (x + epsilon) * 100 + 1 / 2 = 100 * x + 100 * epsilon + 1 / 2 := by ring
  rw [round2, hsum, floor_add_half (by linarith) (by linarith), toDecimal]

theorem round2_toDecimal (cents : Cents) : round2 epsilon (toDecimal cents) = toDecimal cents := by
  have hbelow : ¬1 / 2 - 100 * epsilon ≤ 0 := by linarith
  rw [round2_eq h0 hhalf, hundred_toDecimal, Int.fract_intCast, if_neg hbelow, Int.floor_intCast,
    Int.add_zero]

/-- What is left of a subtotal in cents. -/
theorem round2_left (cents : Cents) (x : ℚ) : round2 epsilon (toDecimal cents - x) =
    toDecimal (cents - ⌊100 * x⌋ -
      if Int.fract (100 * x) ≤ 1 / 2 + 100 * epsilon then 0 else 1) := by
  have hsum : (toDecimal cents - x + epsilon) * 100 + 1 / 2 =
      cents - 100 * x + 100 * epsilon + 1 / 2 := by
    rw [← hundred_toDecimal cents]
    ring
  rw [round2, hsum, floor_sub_half (by linarith) (by linarith), toDecimal]

theorem percentage_iff (hv : 0 < v) (hsub : 0 < toDecimal cents) :
    (⟨toDecimal cents, round2 epsilon (previewAmount epsilon .percentage v (toDecimal cents)),
      max 0 (round2 epsilon (toDecimal cents -
        previewAmount epsilon .percentage v (toDecimal cents)))⟩ : OrderTotals) =
      DiscountsService.orderTotals (toDecimal cents) (some ⟨.percentage, v⟩) ↔
    ¬AtHalfCent epsilon .percentage v (toDecimal cents) := by
  have hx : 0 ≤ toDecimal cents * v := by positivity
  have hcents : 100 * (toDecimal cents * v / 100) = toDecimal cents * v := by ring
  have hservice : DiscountsService.computeDiscountAmount .percentage v (toDecimal cents) =
      toDecimal (roundHalf (toDecimal cents * v)) := by
    simp only [DiscountsService.computeDiscountAmount, toDecimalPlaces2_eq, hcents]
  have hscreen := round2_eq h0 hhalf (toDecimal cents * v / 100)
  rw [hcents] at hscreen
  simp only [orderTotals_of hservice, previewAmount, hscreen, round2_toDecimal h0 hhalf,
    toDecimal_sub, ← toDecimal_zero, toDecimal_max, OrderTotals.mk.injEq, toDecimal_inj, true_and,
    AtHalfCent, roundHalf_eq_fract hx]
  rw [left_of_amount, add_right_inj]
  generalize Int.fract (toDecimal cents * v) = f
  by_cases hup : 1 / 2 - 100 * epsilon ≤ f
  · by_cases hmid : 1 / 2 ≤ f
    · simp only [hup, hmid, not_lt.mpr hmid, if_true, and_false, not_false_eq_true]
    · simp only [hup, hmid, not_le.mp hmid, if_true, if_false, and_self, not_true_eq_false,
        one_ne_zero]
  · have hmid : ¬1 / 2 ≤ f := fun h => hup (by linarith)
    simp only [hup, hmid, if_false, false_and, not_false_eq_true]

theorem fixed_iff (hv : 0 < v) :
    (⟨toDecimal cents, round2 epsilon (previewAmount epsilon .fixed v (toDecimal cents)),
      max 0 (round2 epsilon (toDecimal cents -
        previewAmount epsilon .fixed v (toDecimal cents)))⟩ : OrderTotals) =
      DiscountsService.orderTotals (toDecimal cents) (some ⟨.fixed, v⟩) ↔
    ¬AtHalfCent epsilon .fixed v (toDecimal cents) := by
  rcases lt_or_ge v (toDecimal cents) with hlt | hge
  · have hx : 0 ≤ 100 * v := by positivity
    have hservice : DiscountsService.computeDiscountAmount .fixed v (toDecimal cents) =
        toDecimal (roundHalf (100 * v)) := by
      simp only [DiscountsService.computeDiscountAmount, min_eq_left hlt.le, toDecimalPlaces2_eq]
    have hbelow : ⌊100 * v⌋ < cents := by
      rw [Int.floor_lt, ← hundred_toDecimal]
      linarith
    simp only [orderTotals_of hservice, previewAmount, min_eq_left hlt.le, round2_eq h0 hhalf v,
      round2_left h0 hhalf cents v, ← toDecimal_zero, toDecimal_max, OrderTotals.mk.injEq,
      toDecimal_inj, true_and, AtHalfCent, roundHalf_eq_fract hx, hlt, add_right_inj]
    generalize Int.fract (100 * v) = f
    rw [left_iff hbelow (by split <;> decide) (by split <;> decide)]
    by_cases hup : 1 / 2 - 100 * epsilon ≤ f
    · by_cases hdown : f ≤ 1 / 2 + 100 * epsilon
      · by_cases hmid : 1 / 2 ≤ f <;> simp only [hup, hdown, hmid] <;> decide
      · have hmid : 1 / 2 ≤ f := by linarith
        simp only [hup, hdown, hmid]
        decide
    · have hdown : f ≤ 1 / 2 + 100 * epsilon := by linarith
      have hmid : ¬1 / 2 ≤ f := fun h => hup (by linarith)
      simp only [hup, hdown, hmid]
      decide
  · have hservice : DiscountsService.computeDiscountAmount .fixed v (toDecimal cents) =
        toDecimal cents := by
      simp only [DiscountsService.computeDiscountAmount, min_eq_right hge,
        toDecimalPlaces2_toDecimal]
    simp only [orderTotals_of hservice, previewAmount, min_eq_right hge, round2_toDecimal h0 hhalf,
      toDecimal_sub, ← toDecimal_zero, toDecimal_max, AtHalfCent, not_lt.mpr hge, false_and,
      not_false_eq_true, Int.sub_self]

/-- The screen shows what the services will make of it, except at half a cent. -/
theorem computeDiscountPreview_iff
    (h : computeDiscountPreview epsilon type input (some (toDecimal cents)) = some p) :
    ∃ v, input.value = some v ∧ (⟨toDecimal cents, p.discountAmount, p.newTotal⟩ =
      DiscountsService.orderTotals (toDecimal cents) (some ⟨type, v⟩) ↔
        ¬AtHalfCent epsilon type v (toDecimal cents)) := by
  obtain ⟨v, hv, hpos, hsub, hdiscount, htotal⟩ := computeDiscountPreview_some h
  refine ⟨v, hv, ?_⟩
  rw [hdiscount, htotal]
  cases type with
  | percentage => exact percentage_iff h0 hhalf hpos hsub
  | fixed => exact fixed_iff h0 hhalf hpos

end

/-- A value of two places is not at half a cent, for an `EPSILON` like that of the source. -/
theorem not_atHalfCent (hsmall : epsilon < 1 / 1000000) (type : DiscountType)
    (value cents : Cents) : ¬AtHalfCent epsilon type (toDecimal value) (toDecimal cents) := by
  cases type with
  | percentage =>
    rintro ⟨hlow, hhigh⟩
    have hfloor := Int.floor_add_fract (toDecimal cents * toDecimal value)
    have hprod : 10000 * (toDecimal cents * toDecimal value) = (cents * value : Int) := by
      unfold toDecimal
      push_cast
      ring
    generalize ⌊toDecimal cents * toDecimal value⌋ = m at hfloor
    have hlow' : ((4999 : Int) : ℚ) < (cents * value - 10000 * m : Int) := by
      push_cast at hprod ⊢
      linarith
    have hhigh' : ((cents * value - 10000 * m : Int) : ℚ) < (5000 : Int) := by
      push_cast at hprod ⊢
      linarith
    have hlow'' := Int.cast_lt.mp hlow'
    have hhigh'' := Int.cast_lt.mp hhigh'
    omega
  | fixed =>
    rintro ⟨-, hlow, -⟩
    rw [hundred_toDecimal, Int.fract_intCast] at hlow
    linarith

/-- Nor is what was typed. -/
theorem parsed_not_atHalfCent (hsmall : epsilon < 1 / 1000000)
    (h : parseDiscountValue input = some v) (type : DiscountType) (cents : Cents) :
    ¬AtHalfCent epsilon type v (toDecimal cents) := by
  obtain ⟨value, _, rfl⟩ := Option.map_eq_some_iff.mp h
  exact not_atHalfCent hsmall type value cents

end OrderFinancials

-- ---
-- The services and the screen
-- ---

open OrderFinancials

/-- After any calls but handoffs, what is stored of an order is what either service calculates;
its discount is within its subtotal exactly when its lines are worth something or nothing; and
the screen shows what a discount will make of it, except at half a cent. -/
theorem reach_discounts_agree (h0 : 0 ≤ epsilon) (hhalf : epsilon < 1 / 200)
    (hstart : System.Opening start)
    (h : System.Reach bcrypt (fun _ call => call.isHandoff = false) start events s)
    (hget : s.orders.get? k = some order) (hlive : order.status ≠ .voided) :
    order.totals = OrdersService.orderTotals (s.itemSubtotals k) (s.approvedDecimal k) ∧
      order.totals =
        DiscountsService.orderTotals order.totals.subtotal (s.approvedDecimal k) ∧
      (0 ≤ order.discount ∧ order.discount ≤ order.subtotal ↔ 0 ≤ s.lineSum k) ∧
      ∀ type input p,
        computeDiscountPreview epsilon type input (some order.totals.subtotal) = some p →
        ∃ v, input.value = some v ∧
          (⟨order.totals.subtotal, p.discountAmount, p.newTotal⟩ =
            DiscountsService.orderTotals order.totals.subtotal (some ⟨type, v⟩) ↔
            ¬AtHalfCent epsilon type v order.totals.subtotal) := by
  have hinv := reach_discounting hstart h
  have hcalculated := hinv.agree k order hget hlive
  refine ⟨hcalculated.totals_eq.1, hcalculated.totals_eq.2, ?_, fun type input p hp =>
    computeDiscountPreview_iff h0 hhalf hp⟩
  rw [← hcalculated.subtotal, hcalculated.discount]
  constructor
  · rintro ⟨hnonneg, hle⟩
    exact Int.le_trans hnonneg hle
  · intro hsub
    exact approvedAmount_bounds hinv.sound hsub

/-- Half of two dishes at 10.00. -/
def halfOffTwo : List Event :=
  [⟨.orders (.createOrder 0 ⟨0, 0⟩ { serviceType := .takeaway } {}), 0⟩,
   ⟨.orders (.addOrderItem ⟨0, 0⟩ 0 { menuItemId := 0, quantity := some ⟨2, System.two_units⟩ } {}),
     0⟩,
   ⟨.discounts (.requestDiscount ⟨0, 0⟩ 0 ⟨.percentage, 5000, by decide⟩), 0⟩]

theorem reach_discounts_agree_half :
    let s := System.after (· == ·) System.cafe halfOffTwo
    ∃ order, s.orders.get? 0 = some order ∧ order.totals = ⟨20, 10, 10⟩ ∧
      (0 ≤ order.discount ∧ order.discount ≤ order.subtotal ↔ 0 ≤ s.lineSum 0) := by
  intro s
  have hreach : System.Reach (· == ·) (fun _ call => call.isHandoff = false) System.cafe halfOffTwo
      s := Run.of_holds (by decide)
  have hrow : (s.orders.get? 0).any (fun order => order.status == .new &&
      order.money == (2000, 0, 1000, 1000)) = true := by
    decide
  obtain ⟨order, hget, hrow⟩ := (Option.any_eq_true _ _).mp hrow
  simp only [Bool.and_eq_true, beq_iff_eq, Order.money, Prod.mk.injEq] at hrow
  obtain ⟨hstatus, hsub, -, hdisc, htotal⟩ := hrow
  refine ⟨order, hget, ?_, ?_⟩
  · simp only [Order.totals, hsub, hdisc, htotal, toDecimal]
    norm_num
  · exact (reach_discounts_agree (le_refl (0 : ℚ)) (by norm_num) System.cafe_opening hreach
      hget (by simp [hstatus])).2.2.1

/-- A dish at 10.00 and an option that takes 15.00 off it. -/
def optionMenu : Menu where
  menuItems := Table.empty.insert { orgId := 0, branchId := 0, price := 1000 }
  modifierGroups := Table.empty.insert { orgId := 0, branchId := 0 }
  modifierOptions := Table.empty.insert { groupId := 0, priceDelta := -1500 }
  menuItemOnGroups := Table.empty.insert { itemId := 0, groupId := 0 }

/-- A line worth -5.00, and a fixed discount of 5.00. -/
def belowZero : List Event :=
  [⟨.editMenu optionMenu, 0⟩,
   ⟨.orders (.createOrder 0 ⟨0, 0⟩ { serviceType := .takeaway } {}), 0⟩,
   ⟨.orders (.addOrderItem ⟨0, 0⟩ 0 { menuItemId := 0, metadata := [some 0] } {}), 0⟩,
   ⟨.discounts (.requestDiscount ⟨0, 0⟩ 0 ⟨.fixed, 500, by decide⟩), 0⟩]

/-- The discount stored is -5.00; and the screen shows 10.00 to be left when half a cent is taken
off 10.00, of which the services leave 9.99. -/
theorem discounts_disagree :
    ¬(∀ (bcrypt : Bcrypt) (start : Store) (events : List Event) (s : Store) (k : Id)
        (order : Order), System.Opening start →
      System.Reach bcrypt (fun _ call => call.isHandoff = false) start events s →
      s.orders.get? k = some order → order.status ≠ .voided →
      0 ≤ order.discount ∧ order.discount ≤ order.subtotal) ∧
    ¬(∀ (type : DiscountType) (input : DiscountInput) (cents : Cents) (v : ℚ)
        (p : DiscountPreview), input.value = some v →
      computeDiscountPreview 0 type input (some (toDecimal cents)) = some p →
      ⟨toDecimal cents, p.discountAmount, p.newTotal⟩ =
        DiscountsService.orderTotals (toDecimal cents) (some ⟨type, v⟩)) := by
  constructor
  · intro h
    let s := System.after (· == ·) System.cafe belowZero
    have hreach : System.Reach (· == ·) (fun _ call => call.isHandoff = false) System.cafe belowZero
        s := Run.of_holds (by decide)
    have hbad : (s.orders.get? 0).any (fun order => order.status == .new &&
        order.discount == -500) = true := by
      decide
    obtain ⟨order, hget, hrow⟩ := (Option.any_eq_true _ _).mp hbad
    simp only [Bool.and_eq_true, beq_iff_eq] at hrow
    have hnonneg := (h _ _ _ s 0 order System.cafe_opening hreach hget (by simp [hrow.1])).1
    rw [hrow.2] at hnonneg
    exact absurd hnonneg (by decide)
  · intro h
    have hsame := h .fixed (.number (1 / 200)) 1000 (1 / 200) ⟨1 / 100, 10⟩ rfl (by decide +kernel)
    exact absurd hsame (by decide +kernel)

end NimbusPos
