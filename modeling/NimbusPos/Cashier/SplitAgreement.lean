import NimbusPos.PosHandoff.BillSplits

/-!
# The cashier's form for a split bill

The web checks a split before it is sent, shows the groups of it, and sends the texts without
the white space around them. Its numbers count cents.
-/

namespace NimbusPos.CashierResolution

open BillSplits (SplitBillGroupInput SplitBillDto nonempty)
open PosHandoffService (SplitBillMode)

def parseCashierResolutionAmount (input : String) : Except String Nat :=
  let value := Text.trim input
  if value.isEmpty then .error "Amount is required."
  else match Text.plainAmount value with
    | none => .error "Use a positive amount with no more than 2 decimal places."
    | some amount => if amount = 0 then .error "Amount must be greater than zero." else .ok amount

structure PreviewGroup where
  label : String
  amount : Option Cents
  deriving DecidableEq, Repr

structure SplitBillValidation where
  reasons : List String
  previewGroups : List PreviewGroup
  deriving DecidableEq, Repr

def SplitBillValidation.canSubmit (validation : SplitBillValidation) : Bool :=
  validation.reasons.isEmpty

def guest (index : Nat) : String := "Guest " ++ toString (index + 1)

def groupLabel (index : Nat) (group : SplitBillGroupInput) : String :=
  ((group.label.map Text.trim).bind nonempty).getD (guest index)

def buildEqualSplitPreview (total : Cents) (count : Nat) : List PreviewGroup :=
  if count < 2 ∨ 20 < count then []
  else
    let base := total / count
    let remainder := total - base * count
    (List.range count).map fun index =>
      { label := guest index, amount := some (base + if index = count - 1 then remainder else 0) }

/-- The groups from one on, with what is wrong with them. -/
def parseGroups (index : Nat) : List SplitBillGroupInput → SplitBillValidation
  | [] => ⟨[], []⟩
  | group :: groups =>
    let rest := parseGroups (index + 1) groups
    match parseCashierResolutionAmount (group.amount.getD "") with
    | .error error =>
      { reasons := (guest index ++ ": " ++ error) :: rest.reasons
        previewGroups := ⟨groupLabel index group, none⟩ :: rest.previewGroups }
    | .ok amount =>
      { reasons := rest.reasons
        previewGroups := ⟨groupLabel index group, some amount⟩ :: rest.previewGroups }

def groupTotalCents (groups : List PreviewGroup) : Cents :=
  (groups.map fun group => group.amount.getD 0).sum

/-- A reason when something is wrong. -/
def reasonIf (wrong : Bool) (reason : String) : List String := if wrong then [reason] else []

def validateSplitBillInput (orderTotal : Option Cents) (mode : SplitBillMode) (equalCount : Nat)
    (groups : List SplitBillGroupInput) : SplitBillValidation :=
  let orderTotalCents := orderTotal.getD 0
  let totalReasons :=
    reasonIf (orderTotalCents ≤ 0) "Order total must be available before bill split."
  match mode with
  | .equal =>
    { reasons := totalReasons ++
        reasonIf (equalCount < 2 || 20 < equalCount) "Equal split count must be between 2 and 20."
      previewGroups := buildEqualSplitPreview orderTotalCents equalCount }
  | .custom =>
    let parsed := parseGroups 0 groups
    { reasons := totalReasons ++
        reasonIf (groups.length < 2) "Custom split needs at least two groups." ++ parsed.reasons ++
        reasonIf (0 < orderTotalCents && groupTotalCents parsed.previewGroups != orderTotalCents)
          "Custom split amounts must equal the order total."
      previewGroups := parsed.previewGroups }

/-- The groups from one on, as they are sent. -/
def submitGroups (index : Nat) : List SplitBillGroupInput → List SplitBillGroupInput
  | [] => []
  | group :: groups =>
    { label := some (groupLabel index group), amount := group.amount.map Text.trim } ::
      submitGroups (index + 1) groups

def buildInput (mode : SplitBillMode) (equalCount : Nat) (groups : List SplitBillGroupInput)
    (reason : String) : SplitBillDto :=
  match mode with
  | .equal => { mode, count := some equalCount, reason := nonempty (Text.trim reason) }
  | .custom => { mode, groups := some (submitGroups 0 groups),
                 reason := nonempty (Text.trim reason) }

end NimbusPos.CashierResolution

/-!
# A bill is split as the cashier was shown

`bill_splits`: an equal split pays the total, its last group what is left over, as the form
shows it; and a split that the form lets through is recorded.
-/

namespace NimbusPos.CashierResolution

open Lib Lib.Service BillSplits
open PosHandoffService (loadOpenOrder_ok handoffOpenStatuses)

-- ---
-- Equal groups
-- ---

/-- The groups that are left, the last of which takes what the others leave. -/
theorem equalLoop_amounts {count left : Nat} (total base allocated : Cents) (h : left < count) :
    (equalLoop total base count (left + 1) allocated).map (·.amount) =
      List.replicate left base ++ [total - (allocated + left * base)] := by
  induction left generalizing allocated with
  | zero => simp [equalLoop]
  | succ left ih =>
    have hnot : ¬ count - (left + 1 + 1) = count - 1 := by omega
    have hrest := ih (allocated + base) (Nat.lt_of_succ_lt h)
    rw [equalLoop, List.map_cons]
    simp only [if_neg hnot]
    rw [hrest, List.replicate_succ, List.cons_append]
    congr 3
    push_cast
    ring

/-- What an equal split pays. -/
structure EqualSplit (total : Cents) (count : Nat) (amounts : List Cents) : Prop where
  nonneg : ∀ amount ∈ amounts, 0 ≤ amount
  sum : amounts.sum = total
  shape : ∃ base last : Cents, amounts = List.replicate (count - 1) base ++ [last] ∧
    base ≤ last ∧ last < base + count
  preview : count ≤ 20 →
    (buildEqualSplitPreview total count).map (·.amount) = amounts.map some

/-- The last group's part is what is left over. -/
theorem last_eq {total : Cents} {count : Nat} (h : 2 ≤ count) :
    total - ((count - 1 : Nat) : Int) * (total / count) =
      total / count + (total - total / count * count) := by
  have hcast : ((count - 1 : Nat) : Int) = count - 1 := by omega
  rw [hcast]
  ring

theorem preview_amounts {total : Cents} {count : Nat} (h : 2 ≤ count) (hmax : count ≤ 20) :
    (buildEqualSplitPreview total count).map (·.amount) =
      (List.replicate (count - 1) (total / count) ++
        [total / count + (total - total / count * count)]).map some := by
  obtain ⟨n, rfl⟩ : ∃ n, count = n + 1 := ⟨count - 1, by omega⟩
  have hshown : ¬ (n + 1 < 2 ∨ 20 < n + 1) := by omega
  rw [buildEqualSplitPreview, if_neg hshown]
  simp only [List.map_map, List.range_succ, List.map_append, List.map_replicate, List.map_cons,
    List.map_nil, Nat.add_sub_cancel, if_pos]
  congr 1
  rw [List.eq_replicate_iff]
  refine ⟨by simp, ?_⟩
  simp only [List.mem_map, List.mem_range, Function.comp_apply]
  rintro _ ⟨index, hindex, rfl⟩
  simp [Nat.ne_of_lt hindex]

theorem equalGroups_split {total : Cents} {count : Nat} (htotal : 0 ≤ total) (h : 2 ≤ count) :
    EqualSplit total count ((equalGroups total count).map (·.amount)) := by
  have hcount : (0 : Int) < count := by omega
  have hbase : 0 ≤ total / (count : Int) := Int.ediv_nonneg htotal (by omega)
  have hmod := Int.emod_lt_of_pos total hcount
  have hmod0 := Int.emod_nonneg total (by omega : (count : Int) ≠ 0)
  have hrest : total - total / count * count = total % count := by
    rw [Int.emod_def, Int.mul_comm]
  have hamounts : (equalGroups total count).map (·.amount) =
      List.replicate (count - 1) (total / count) ++
        [total / count + (total - total / count * count)] := by
    have hloop := equalLoop_amounts total (total / count) 0 (by omega : count - 1 < count)
    rw [Nat.sub_add_cancel (by omega), Int.zero_add, last_eq h] at hloop
    rw [equalGroups, Int.tdiv_eq_ediv_of_nonneg htotal, hloop]
  rw [hamounts]
  constructor
  · simp only [List.mem_append, List.mem_replicate, List.mem_singleton]
    rintro amount (⟨-, rfl⟩ | rfl)
    · exact hbase
    · rw [hrest]
      exact Int.add_nonneg hbase hmod0
  · simp only [List.sum_append, List.sum_replicate, List.sum_singleton, nsmul_eq_mul]
    rw [← last_eq h]
    ring
  · rw [hrest]
    exact ⟨_, _, rfl, Int.le_add_of_nonneg_right hmod0, Int.add_lt_add_left hmod _⟩
  · exact preview_amounts h

-- ---
-- Groups with a name
-- ---

theorem parseCashierResolutionAmount_ok (h : parseCashierResolutionAmount input = .ok cents) :
    (Text.trim input).isEmpty = false ∧ Text.plainAmount (Text.trim input) = some cents ∧
      0 < cents := by
  simp only [parseCashierResolutionAmount] at h
  split at h
  · cases h
  · rename_i hempty
    split at h
    · cases h
    · rename_i amount hplain
      split at h
      · cases h
      · rename_i hzero
        cases h
        exact ⟨by simpa using hempty, hplain, Nat.pos_of_ne_zero hzero⟩

variable {decimal : String → Option Amount}

/-- A group that the form can read is made, for the amount the form reads. -/
theorem customGroup_submitted {group : SplitBillGroupInput}
    (hdecimal : ∀ text cents, Text.plainAmount text = some cents →
      decimal text = some (cents : Amount))
    (h : parseCashierResolutionAmount (group.amount.getD "") = .ok cents) (i : Nat)
    (label : Option String) :
    ∃ made, customGroup decimal i { label, amount := group.amount.map Text.trim } = .ok made ∧
      made.amount = cents := by
  obtain ⟨hempty, hplain, hpos⟩ := parseCashierResolutionAmount_ok h
  cases hamount : group.amount with
  | none =>
    rw [hamount] at hempty
    exact absurd hempty (by decide)
  | some text =>
    simp only [hamount, Option.getD_some] at hempty hplain
    have hpersist : persist ((cents : Nat) : Amount) = (cents : Int) := by
      exact_mod_cast persist_intCast cents
    have hnot : cents ≠ 0 := Nat.ne_of_gt hpos
    simp [customGroup, nonempty, hempty, hdecimal _ _ hplain, hpersist, hnot]

theorem customGroups_submitted {groups : List SplitBillGroupInput}
    (hdecimal : ∀ text cents, Text.plainAmount text = some cents →
      decimal text = some (cents : Amount))
    (h : (parseGroups i groups).reasons = []) :
    ∃ made, customGroups decimal i (submitGroups i groups) = .ok made ∧
      allocated made = groupTotalCents (parseGroups i groups).previewGroups := by
  induction groups generalizing i with
  | nil => exact ⟨[], rfl, rfl⟩
  | cons group groups ih =>
    cases hparse : parseCashierResolutionAmount (group.amount.getD "") with
    | error error => simp [parseGroups, hparse] at h
    | ok cents =>
      simp only [parseGroups, hparse] at h
      obtain ⟨rest, hrest, hsum⟩ := ih h
      obtain ⟨made, hmade, hcents⟩ := customGroup_submitted hdecimal hparse i
        (some (groupLabel i group))
      refine ⟨made :: rest, ?_, ?_⟩
      · simp [submitGroups, customGroups, hmade, hrest, bind, Except.bind, pure, Except.pure]
      · simp [parseGroups, hparse, allocated, groupTotalCents, hcents] at hsum ⊢
        exact hsum

@[simp] theorem submitGroups_length : (submitGroups i groups).length = groups.length := by
  induction groups generalizing i with
  | nil => rfl
  | cons group groups ih => simp [submitGroups, ih]

/-- What the form lets through. -/
theorem canSubmit_custom
    (h : (validateSplitBillInput (some total) .custom equalCount groups).canSubmit = true) :
    2 ≤ groups.length ∧ (parseGroups 0 groups).reasons = [] ∧
      groupTotalCents (parseGroups 0 groups).previewGroups = total := by
  simp [validateSplitBillInput, SplitBillValidation.canSubmit, reasonIf] at h
  obtain ⟨hpos, hlength, hreasons, hsum⟩ := h
  exact ⟨hlength, hreasons, hsum hpos⟩

theorem splitGroups_submitted {groups : List SplitBillGroupInput}
    (hdecimal : ∀ text cents, Text.plainAmount text = some cents →
      decimal text = some (cents : Amount))
    (h : (validateSplitBillInput (some total) .custom equalCount groups).canSubmit = true) :
    ∃ made, splitGroups decimal total (buildInput .custom equalCount groups reason) = .ok made := by
  obtain ⟨hlength, hreasons, hsum⟩ := canSubmit_custom h
  obtain ⟨made, hmade, hallocated⟩ := customGroups_submitted hdecimal hreasons
  have hnot : ¬ groups.length < 2 := Nat.not_lt.mpr hlength
  refine ⟨made, ?_⟩
  simp [splitGroups, buildInput, hnot, hmade, hallocated, hsum, bind, Except.bind, pure,
    Except.pure]

-- ---
-- The two together
-- ---

/-- An equal split of any total is what the form shows of it, and a split by names that the
form lets through is recorded as the form sends it. -/
theorem bill_splits (decimal : String → Option Amount)
    (hdecimal : ∀ text cents, Text.plainAmount text = some cents →
      decimal text = some (cents : Amount)) :
    (∀ (total : Cents) (count : Nat), 0 ≤ total → 2 ≤ count →
      ∃ made, splitGroups decimal total { mode := .equal, count := some count } = .ok made ∧
        EqualSplit total count (made.map (·.amount))) ∧
    ∀ (ctx : BranchContext) (orderId : Id) (s : Store) (order : Order) (equalCount : Nat)
      (groups : List SplitBillGroupInput) (reason : String),
      s.findOrder ctx orderId = some order → order.status ∈ handoffOpenStatuses →
      (validateSplitBillInput (some order.total) .custom equalCount groups).canSubmit = true →
      ∃ result t, splitBill decimal ctx orderId (buildInput .custom equalCount groups reason) s =
        .ok result t := by
  constructor
  · intro total count htotal hcount
    have hnot : ¬ count < 2 := Nat.not_lt.mpr hcount
    exact ⟨_, by simp [splitGroups, hnot], equalGroups_split htotal hcount⟩
  · intro ctx orderId s order equalCount groups reason hfind hopen hsubmit
    obtain ⟨made, hmade⟩ := splitGroups_submitted hdecimal hsubmit
    exact splitBill_returns.mpr ⟨order, made, ⟨hfind, hopen⟩, hmade⟩

/-- Numerals without an exponent or a sign; `new Decimal` reads these so, and throws on a text
with white space around it. -/
def plainDecimal (text : String) : Option Amount :=
  (Text.plainAmount text).map fun cents => (cents : Amount)

def served : Order :=
  { orgId := 0, branchId := 0, tableId := none, userId := 0, orderNumber := "A1"
    status := .served, serviceType := .dineIn, subtotal := 1000, total := 1000
    createdAt := 0, updatedAt := 0 }

def withServed : Store := { orders := Table.empty.insert served }

/-- A form with white space before one of its amounts. -/
def spaced : List SplitBillGroupInput := [{ amount := some " 4.00" }, { amount := some "6" }]

/-- A third of ten, and ten in two parts. -/
theorem bill_splits_ten :
    (∃ made, splitGroups plainDecimal 1000 { mode := .equal, count := some 3 } = .ok made ∧
      EqualSplit 1000 3 (made.map (·.amount))) ∧
    ∃ result t, splitBill plainDecimal ⟨0, 0⟩ 0 (buildInput .custom 2 spaced "") withServed =
      .ok result t :=
  have h := bill_splits plainDecimal fun text cents htext => by simp [plainDecimal, htext]
  ⟨h.1 1000 3 (by decide) (by decide),
    h.2 ⟨0, 0⟩ 0 withServed served 2 spaced "" (by decide) (by decide) (by decide +kernel)⟩

/-- As the form holds them the groups are not taken. -/
theorem spaced_refused :
    ¬ ∀ (total : Cents) (equalCount : Nat) (groups : List SplitBillGroupInput),
      groups ≠ [] →
      (validateSplitBillInput (some total) .custom equalCount groups).canSubmit = true →
      ∃ made, splitGroups plainDecimal total { mode := .custom, groups := some groups } =
        .ok made := by
  intro h
  obtain ⟨made, hmade⟩ := h 1000 2 spaced (by decide) (by decide +kernel)
  have hread : plainDecimal " 4.00" = none := by
    have hplain : Text.plainAmount " 4.00" = none := by decide
    simp [plainDecimal, hplain]
  have hempty : nonempty " 4.00" = some " 4.00" := by decide
  simp [splitGroups, spaced, customGroups, customGroup, hread, hempty, bind, Except.bind] at hmade

end NimbusPos.CashierResolution
