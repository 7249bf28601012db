import NimbusPos.Accounting.Schema
import NimbusPos.PosHandoff.Service
import NimbusPos.Text

/-!
# Split bills

A bill is split into groups, each of which pays an amount: a count of equal groups, the last
of which takes what is left over, or the groups that are named. What is stored are the groups;
the order and its lines stay as they are.
-/

namespace NimbusPos.BillSplits

open Lib Lib.Service
open PosHandoffService (SplitBillMode loadOpenOrder computeOutstanding handoffOpenStatuses)

structure SplitBillGroupInput where
  label : Option String := none
  amount : Option String := none
  deriving DecidableEq, Repr

structure SplitBillDto where
  mode : SplitBillMode
  count : Option Nat := none
  groups : Option (List SplitBillGroupInput) := none
  reason : Option String := none
  deriving DecidableEq, Repr

/-- The amount is stored as a text of two places. -/
structure SplitGroup where
  groupId : String
  label : String
  amount : Cents
  deriving DecidableEq, Repr

/-- `left` groups of an equal split are still to be made. -/
def equalLoop (total base : Cents) (count : Nat) : Nat → Cents → List SplitGroup
  | 0, _ => []
  | left + 1, allocated =>
    let i := count - (left + 1)
    let amount := if i = count - 1 then total - allocated else base
    { groupId := "g" ++ toString (i + 1), label := "Person " ++ toString (i + 1), amount } ::
      equalLoop total base count left (allocated + amount)

/-- A part of the total is rounded down to cents. -/
def equalGroups (total : Cents) (count : Nat) : List SplitGroup :=
  equalLoop total (total.tdiv count) count count 0

-- What `new Decimal` makes of a text, in cents; it throws where there is nothing.
variable (decimal : String → Option Amount)

/-- An empty text is none. -/
def nonempty (text : String) : Option String := if text.isEmpty then none else some text

def customGroup (i : Nat) (g : SplitBillGroupInput) : Except HttpError SplitGroup :=
  match g.amount.bind nonempty with
  | none =>
    .error (badRequest ("groups[" ++ toString i ++ "].amount is required for CUSTOM split"))
  | some text =>
    match decimal text with
    | none =>
      .error { kind := .internalServerError, message := "[DecimalError] Invalid argument: " ++
               text }
    | some value =>
      let amount := persist value
      if amount ≤ 0 then .error (badRequest ("groups[" ++ toString i ++ "].amount must be > 0"))
      else .ok
        { groupId := "g" ++ toString (i + 1)
          label := ((g.label.map Text.trim).bind nonempty).getD ("Person " ++ toString (i + 1))
          amount }

/-- The groups from group `i` on. -/
def customGroups (i : Nat) : List SplitBillGroupInput → Except HttpError (List SplitGroup)
  | [] => .ok []
  | g :: groups => do
    let group ← customGroup decimal i g
    let rest ← customGroups (i + 1) groups
    return group :: rest

def allocated (groups : List SplitGroup) : Cents := (groups.map (·.amount)).sum

def splitGroups (total : Cents) (dto : SplitBillDto) : Except HttpError (List SplitGroup) :=
  match dto.mode with
  | .equal =>
    let count := dto.count.getD 0
    if count < 2 then .error (badRequest "EQUAL split requires count >= 2")
    else .ok (equalGroups total count)
  | .custom =>
    let inputGroups := dto.groups.getD []
    if inputGroups.length < 2 then
      .error (badRequest "CUSTOM split requires at least 2 groups")
    else do
      let groups ← customGroups decimal 0 inputGroups
      if allocated groups = total then return groups
      else .error { kind := .badRequest, code := "SPLIT_BILL_AMOUNT_MISMATCH"
                    message := "Sum of split groups (" ++ toFixed (allocated groups) ++
                      ") must equal order total (" ++ toFixed total ++ ")" }

structure SplitBillResult where
  orderId : Id
  splitMode : SplitBillMode
  splitGroups : List SplitGroup
  subtotal : Cents
  tax : Cents
  discount : Cents
  total : Cents
  amountAllocated : Cents
  amountRemaining : Cents
  outstandingBalance : Cents
  deriving DecidableEq, Repr

def ofExcept {α : Type} : Except HttpError α → Db α
  | .ok a => pure a
  | .error e => throw e

/-- The groups go into `metadata`; the columns of the order stay. -/
def splitBill (ctx : BranchContext) (orderId : Id) (dto : SplitBillDto) : Db SplitBillResult := do
  let order ← loadOpenOrder ctx orderId
  let groups ← ofExcept (splitGroups decimal order.total dto)
  let s ← get
  modify fun s => s.updateOrder orderId id
  pure
    { orderId, splitMode := dto.mode, splitGroups := groups
      subtotal := order.subtotal, tax := order.tax, discount := order.discount
      total := order.total, amountAllocated := allocated groups
      amountRemaining := order.total - allocated groups
      outstandingBalance := computeOutstanding s orderId }

-- ---
-- What a successful call did
-- ---

variable {decimal}

@[simp] theorem ofExcept_ok {α : Type} {made : Except HttpError α} {s t : Store} {a : α} :
    ofExcept made s = .ok a t ↔ made = .ok a ∧ s = t := by
  cases made with
  | ok b => simp [ofExcept]
  | error e => simp [ofExcept]

/-- The open order is found and the groups are made. -/
theorem splitBill_returns {s : Store} :
    (∃ result t, splitBill decimal ctx orderId dto s = .ok result t) ↔
      ∃ order made, (s.findOrder ctx orderId = some order ∧ order.status ∈ handoffOpenStatuses) ∧
        splitGroups decimal order.total dto = .ok made := by
  simp only [splitBill, bind_ok, PosHandoffService.loadOpenOrder_ok, ofExcept_ok, get_ok, modify_ok,
    pure_ok]
  constructor
  · rintro ⟨_, _, order, _, ⟨hopen, rfl⟩, made, _, ⟨hmade, rfl⟩, -⟩
    exact ⟨order, made, hopen, hmade⟩
  · rintro ⟨order, made, hopen, hmade⟩
    exact ⟨_, _, order, s, ⟨hopen, rfl⟩, made, s, ⟨hmade, rfl⟩, s, s, ⟨rfl, rfl⟩, (), _, rfl,
      rfl, rfl⟩

theorem customGroup_ok (h : customGroup decimal i g = .ok group) :
    ∃ text value, g.amount.bind nonempty = some text ∧ decimal text = some value ∧
      group.amount = persist value ∧ 0 < group.amount := by
  unfold customGroup at h
  split at h
  · cases h
  · rename_i text htext
    split at h
    · cases h
    · rename_i value hvalue
      dsimp only at h
      split at h
      · cases h
      · rename_i hpos
        cases h
        exact ⟨text, value, htext, hvalue, rfl, not_le.mp hpos⟩

variable (decimal)

/-- The call with its texts read. -/
def SplitBillDto.amounts (dto : SplitBillDto) : PosHandoffService.SplitBillDto where
  mode := dto.mode
  count := dto.count
  groups := (dto.groups.getD []).map fun g => ((g.amount.bind nonempty).bind decimal).map persist

variable {decimal}

theorem sumGroups_of_customGroups {s : Store} {inputs : List SplitBillGroupInput}
    (h : customGroups decimal i inputs = .ok made) :
    PosHandoffService.sumGroups i
      (inputs.map fun g => ((g.amount.bind nonempty).bind decimal).map persist) s =
        .ok (allocated made) s := by
  induction inputs generalizing i made with
  | nil =>
    cases h
    rfl
  | cons g inputs ih =>
    cases hgroup : customGroup decimal i g with
    | error e => simp [customGroups, hgroup, bind, Except.bind] at h
    | ok group =>
      cases hrest : customGroups decimal (i + 1) inputs with
      | error e => simp [customGroups, hgroup, hrest, bind, Except.bind] at h
      | ok rest =>
        simp [customGroups, hgroup, hrest, bind, Except.bind, pure, Except.pure] at h
        obtain ⟨text, value, htext, hvalue, hamount, hpos⟩ := customGroup_ok hgroup
        subst h
        rw [hamount] at hpos
        simp only [PosHandoffService.sumGroups, List.map_cons, bind_ok, need_ok, ensure_ok, pure_ok]
        refine ⟨persist value, s, ⟨by simp [htext, hvalue], rfl⟩, (), s,
          ⟨by simpa using hpos, rfl⟩, _, s, ih hrest, ?_, rfl⟩
        simp [allocated, hamount]

/-- The same call on amounts goes through, and the orders are left the same. -/
theorem splitBill_amounts {s : Store} (h : splitBill decimal ctx orderId dto s = .ok result t) :
    PosHandoffService.splitBill ctx orderId (dto.amounts decimal) s = .ok () t := by
  simp only [splitBill, bind_ok, PosHandoffService.loadOpenOrder_ok, ofExcept_ok, get_ok, modify_ok,
    pure_ok] at h
  obtain ⟨order, _, ⟨hopen, rfl⟩, made, _, ⟨hmade, rfl⟩, _, _, ⟨rfl, rfl⟩, _, _, rfl, -, rfl⟩ := h
  simp only [PosHandoffService.splitBill, bind_ok, PosHandoffService.loadOpenOrder_ok, modify_ok]
  refine ⟨order, s, ⟨hopen, rfl⟩, (), s, ?_, rfl⟩
  unfold splitGroups at hmade
  cases hmode : dto.mode with
  | equal =>
    simp only [hmode] at hmade
    split at hmade
    · cases hmade
    · rename_i hcount
      simp only [PosHandoffService.checkGroups, SplitBillDto.amounts, hmode, ensure_ok,
        decide_eq_true_eq]
      exact ⟨Nat.not_lt.mp hcount, trivial⟩
  | custom =>
    simp only [hmode] at hmade
    split at hmade
    · cases hmade
    · rename_i hcount
      cases hgroups : customGroups decimal 0 (dto.groups.getD []) with
      | error e => simp [hgroups, bind, Except.bind] at hmade
      | ok groups =>
        simp only [hgroups, bind, Except.bind] at hmade
        split at hmade
        · rename_i htotal
          simp only [PosHandoffService.checkGroups, SplitBillDto.amounts, hmode, bind_ok, ensure_ok]
          refine ⟨(), s, ⟨by simpa using Nat.not_lt.mp hcount, rfl⟩, _, s,
            sumGroups_of_customGroups hgroups, ?_, rfl⟩
          simpa using htotal
        · cases hmade

end NimbusPos.BillSplits
