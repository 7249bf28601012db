import NimbusPos.Budget.Service
import NimbusPos.Ledger.Reversals

/-!
# Actuals of a budget

A refresh adds up what was posted to an account, on either side and by any branch. That is the
account's net movement exactly when every journal that counts is of the budget's branch,
reverses no other, and posts to the account on its own side.
-/

namespace NimbusPos.BudgetService

open Lib Lib.Service

/-- The side on which an account of income or expense grows. -/
def normalSide : AccountType → Option JournalLineDirection
  | .expense => some .debit
  | .revenue => some .credit
  | _ => none

/-- The journal is one of the branch's, not reversed and no reversal. -/
def effective (budget : Budget) (entry : JournalEntry) : Bool :=
  entry.orgId == budget.orgId && entry.branchId == some budget.branchId &&
    entry.status == .posted && entry.reversedFromId == none

/-- What the branch's journals of the window post to an account, less what they take from it. -/
def netMovement (s : Books) (budget : Budget) (window : Time × Time) (accountId : Id)
    (side : JournalLineDirection) : Cents :=
  s.journalEntries.sumWhere (fun _ entry => effective budget entry && inWindow window entry)
    fun entry => entry.posts accountId side - entry.posts accountId side.opposite

/-- The budget's lines that are on an account of income or expense, with its side. -/
def Planned (s : Store) (budgetId lineId : Id) (line : BudgetLine) (accountId : Id)
    (side : JournalLineDirection) : Prop :=
  s.budgetLines.get? lineId = some line ∧ line.budgetId = budgetId ∧
    line.accountId = some accountId ∧
    (s.books.accounts.get? accountId).bind (normalSide ·.accountType) = some side

/-- Each line of the budget has its account's net movement, and its variance. -/
structure Actual (s : Store) (budgetId : Id) (budget : Budget) (window : Time × Time) : Prop where
  net : ∀ lineId line accountId side, Planned s budgetId lineId line accountId side →
    line.actualAmount = netMovement s.books budget window accountId side
  variance : ∀ lineId line, s.budgetLines.get? lineId = some line → line.budgetId = budgetId →
    line.varianceAmount = line.budgetAmount - line.actualAmount

/-- The organisation's posted journals of the window post to the account on its own side, and
are of the budget's branch and no reversals. -/
def Plain (s : Books) (budget : Budget) (window : Time × Time) (accountId : Id)
    (side : JournalLineDirection) : Prop :=
  ∀ k entry, s.journalEntries.get? k = some entry → entry.orgId = budget.orgId →
    entry.status = .posted → inWindow window entry = true →
    ∀ line ∈ entry.lines, line.accountId = accountId → line.amount ≠ 0 →
      entry.branchId = some budget.branchId ∧ entry.reversedFromId = none ∧ line.direction = side

variable {s t : Store} {entry : JournalEntry} {accountId : Id} {side : JournalLineDirection}

-- ---
-- One journal
-- ---

theorem onAccount_eq (accountId : Id) (side : JournalLineDirection) (entry : JournalEntry) :
    onAccount accountId entry =
      entry.posts accountId side + entry.posts accountId side.opposite := by
  simp only [onAccount, JournalEntry.posts]
  induction entry.lines with
  | nil => rfl
  | cons line lines ih =>
    by_cases haccount : line.accountId = accountId
    · cases hdirection : line.direction <;> cases side <;>
        simp [haccount, hdirection, JournalLineDirection.opposite] at ih ⊢ <;> linarith
    · simpa [haccount] using ih

theorem posts_nonneg (h : entry.Recorded) (accountId : Id) (side : JournalLineDirection) :
    0 ≤ entry.posts accountId side := by
  refine List.sum_nonneg fun amount hamount => ?_
  obtain ⟨line, hline, rfl⟩ := List.mem_map.mp hamount
  exact (h.lines line (List.mem_of_mem_filter hline)).2

/-- No amount is negative, so a sum of them vanishes with its terms. -/
theorem amounts_eq_zero_iff (h : entry.Recorded) (p : JournalLine → Bool) :
    ((entry.lines.filter p).map (·.amount)).sum = 0 ↔
      ∀ line ∈ entry.lines, p line = true → line.amount = 0 := by
  constructor
  · intro hzero line hline hp
    refine List.all_zero_of_le_zero_le_of_sum_eq_zero (fun amount hamount => ?_) hzero
      (List.mem_map.mpr ⟨line, List.mem_filter.mpr ⟨hline, hp⟩, rfl⟩)
    obtain ⟨other, hother, rfl⟩ := List.mem_map.mp hamount
    exact (h.lines other (List.mem_of_mem_filter hother)).2
  · intro hlines
    refine List.sum_eq_zero fun amount hamount => ?_
    obtain ⟨line, hline, rfl⟩ := List.mem_map.mp hamount
    obtain ⟨hmem, hp⟩ := List.mem_filter.mp hline
    exact hlines line hmem hp

theorem posts_eq_zero_iff (h : entry.Recorded) :
    entry.posts accountId side = 0 ↔
      ∀ line ∈ entry.lines, line.accountId = accountId → line.direction = side →
        line.amount = 0 := by
  rw [JournalEntry.posts, amounts_eq_zero_iff h]
  simp only [Bool.and_eq_true, beq_iff_eq, and_imp]

theorem onAccount_eq_zero_iff (h : entry.Recorded) :
    onAccount accountId entry = 0 ↔
      ∀ line ∈ entry.lines, line.accountId = accountId → line.amount = 0 := by
  rw [onAccount, amounts_eq_zero_iff h]
  simp only [beq_iff_eq]

/-- What a counted journal adds beyond its net movement. -/
def excess (budget : Budget) (accountId : Id) (side : JournalLineDirection)
    (entry : JournalEntry) : Cents :=
  onAccount accountId entry -
    if effective budget entry then entry.posts accountId side - entry.posts accountId side.opposite
    else 0

theorem excess_nonneg (h : entry.Recorded) : 0 ≤ excess budget accountId side entry := by
  have hside := posts_nonneg h accountId side
  have hother := posts_nonneg h accountId side.opposite
  rw [excess, onAccount_eq accountId side]
  split <;> linarith

theorem excess_eq_zero_iff (h : entry.Recorded) (horg : entry.orgId = budget.orgId)
    (hposted : entry.status = .posted) :
    excess budget accountId side entry = 0 ↔
      ∀ line ∈ entry.lines, line.accountId = accountId → line.amount ≠ 0 →
        entry.branchId = some budget.branchId ∧ entry.reversedFromId = none ∧
          line.direction = side := by
  have heffective : effective budget entry = true ↔
      entry.branchId = some budget.branchId ∧ entry.reversedFromId = none := by
    simp [effective, horg, hposted]
  by_cases hcounts : effective budget entry = true
  · -- Only the other side is counted wrongly.
    obtain ⟨hbranch, hreverses⟩ := heffective.mp hcounts
    have hdouble : excess budget accountId side entry = 0 ↔
        entry.posts accountId side.opposite = 0 := by
      rw [excess, onAccount_eq accountId side, if_pos hcounts]
      constructor <;> intro heq <;> linarith
    rw [hdouble, posts_eq_zero_iff h]
    refine forall₂_congr fun line _ => forall_congr' fun _ => ?_
    cases hdirection : line.direction <;> cases side <;>
      simp [JournalLineDirection.opposite, hbranch, hreverses]
  · -- All of it is.
    rw [excess, if_neg hcounts, sub_zero, onAccount_eq_zero_iff h]
    refine forall₂_congr fun line _ => forall_congr' fun _ => ?_
    constructor
    · exact fun hzero hamount => absurd hzero hamount
    · intro hplain
      by_contra hamount
      obtain ⟨hbranch, hreverses, -⟩ := hplain hamount
      exact hcounts (heffective.mpr ⟨hbranch, hreverses⟩)

-- ---
-- One refresh
-- ---

variable {budget : Budget} {window : Time × Time}

/-- What is counted beyond the net movement. -/
theorem actualsByAccount_sub (s : Books) :
    actualsByAccount s budget.orgId window accountId -
        netMovement s budget window accountId side =
      s.journalEntries.total fun _ entry =>
        if entry.orgId = budget.orgId ∧ entry.status = .posted ∧ inWindow window entry = true then
          excess budget accountId side entry
        else 0 := by
  simp only [actualsByAccount, netMovement, Table.sumWhere_eq_total, ← Table.total_sub]
  refine Table.total_congr fun k entry _ => ?_
  by_cases horg : entry.orgId = budget.orgId
  · by_cases hposted : entry.status = .posted
    · by_cases hwindow : inWindow window entry = true <;> simp [horg, hposted, hwindow, excess]
    · simp [effective, hposted]
  · simp [effective, horg]

theorem actualsByAccount_iff {s : Books} (h : Recorded s.journalEntries) :
    actualsByAccount s budget.orgId window accountId = netMovement s budget window accountId side ↔
      Plain s budget window accountId side := by
  rw [← sub_eq_zero, actualsByAccount_sub, Table.total_eq_zero_iff]
  · constructor
    · intro hzero k entry hget horg hposted hwindow
      have hexcess := hzero k entry hget
      rw [if_pos ⟨horg, hposted, hwindow⟩, excess_eq_zero_iff (h k entry hget) horg hposted]
        at hexcess
      exact hexcess
    · intro hplain k entry hget
      split
      · rename_i hcounts
        obtain ⟨horg, hposted, hwindow⟩ := hcounts
        exact (excess_eq_zero_iff (h k entry hget) horg hposted).mpr
          (hplain k entry hget horg hposted hwindow)
      · rfl
  · intro k entry hget
    split
    · exact excess_nonneg (h k entry hget)
    · exact le_refl 0

/-- A line of the budget after a refresh is one of before, refreshed. -/
theorem line_refreshed
    (hlines : t.budgetLines =
      s.budgetLines.updateWhere (fun _ line => line.budgetId == budgetId) (refresh actual now))
    (hget : t.budgetLines.get? lineId = some line) (hbudget : line.budgetId = budgetId) :
    ∃ old, s.budgetLines.get? lineId = some old ∧ line = refresh actual now old := by
  rw [hlines, Table.get?_updateWhere] at hget
  obtain ⟨old, hold, hline⟩ := Option.map_eq_some_iff.mp hget
  refine ⟨old, hold, ?_⟩
  split at hline
  · exact hline.symm
  · rename_i hmatch
    subst hline
    exact absurd (beq_iff_eq.mpr hbudget) hmatch

theorem planned_refreshed (hbooks : t.books = s.books)
    (hlines : t.budgetLines =
      s.budgetLines.updateWhere (fun _ line => line.budgetId == budgetId) (refresh actual now)) :
    Planned t budgetId lineId line accountId side ↔
      ∃ old, Planned s budgetId lineId old accountId side ∧ line = refresh actual now old := by
  simp only [Planned, hbooks]
  constructor
  · rintro ⟨hget, hbudget, haccount, hside⟩
    obtain ⟨old, hold, rfl⟩ := line_refreshed hlines hget hbudget
    exact ⟨old, ⟨hold, hbudget, haccount, hside⟩, rfl⟩
  · rintro ⟨old, ⟨hold, hbudget, haccount, hside⟩, rfl⟩
    refine ⟨?_, hbudget, haccount, hside⟩
    simp [hlines, Table.get?_updateWhere, hold, hbudget]

/-- After any calls of the ledger a refresh writes the net movements of its accounts exactly
when what it counts is plain. -/
theorem updateActuals_iff (hrecorded : Recorded start.journalEntries)
    (hrun : Run recordAt (fun _ _ => True) start calls s.books)
    (hbudget : s.budgets.get? budgetId = some budget)
    (hok : updateActuals userId ctx budgetId dto s = .ok refreshed t) :
    Actual t budgetId budget (dto.window budget s.books.clock) ↔
      ∀ lineId line accountId side, Planned s budgetId lineId line accountId side →
        Plain s.books budget (dto.window budget s.books.clock) accountId side := by
  obtain ⟨found, hfound, horg, -, hbooks, hlines⟩ := updateActuals_ok hok
  obtain rfl := Option.some.inj (hbudget.symm.trans hfound)
  rw [← horg] at hlines
  have hkept : Recorded s.books.journalEntries := journalInvariant_recorded.run hrecorded hrun
  constructor
  · intro hactual lineId line accountId side hplanned
    have hnet := hactual.net lineId _ accountId side
      ((planned_refreshed hbooks hlines).mpr ⟨line, hplanned, rfl⟩)
    obtain ⟨-, -, haccount, -⟩ := hplanned
    rw [hbooks] at hnet
    rw [← actualsByAccount_iff hkept, ← hnet]
    simp [refresh, haccount]
  · intro hplain
    constructor
    · intro lineId line accountId side hplanned
      obtain ⟨old, hold, rfl⟩ := (planned_refreshed hbooks hlines).mp hplanned
      have hnet := (actualsByAccount_iff hkept).mpr (hplain lineId old accountId side hold)
      obtain ⟨-, -, haccount, -⟩ := hold
      rw [hbooks, ← hnet]
      simp [refresh, haccount]
    · intro lineId line hget hline
      obtain ⟨old, -, rfl⟩ := line_refreshed hlines hget hline
      rfl

/-- The line is posted to the account on its own side, by a journal of the branch that
reverses none. -/
def plainLine (budget : Budget) (accountId : Id) (side : JournalLineDirection)
    (entry : JournalEntry) (line : JournalLine) : Bool :=
  line.accountId != accountId || line.amount == 0 ||
    (entry.branchId == some budget.branchId && entry.reversedFromId == none &&
      line.direction == side)

instance (s : Books) (budget : Budget) (window : Time × Time) (accountId : Id)
    (side : JournalLineDirection) : Decidable (Plain s budget window accountId side) :=
  decidable_of_iff
    (∀ row ∈ s.journalEntries.rows, row.2.orgId = budget.orgId ∧ row.2.status = .posted ∧
      inWindow window row.2 = true →
        ∀ line ∈ row.2.lines, plainLine budget accountId side row.2 line = true) <| by
    simp only [Plain, plainLine, Table.get?_iff, Bool.or_eq_true, bne_iff_ne, beq_iff_eq,
      Bool.and_eq_true, and_imp, Prod.forall]
    refine forall₃_congr fun k entry _ => forall₃_congr fun _ _ _ => forall₂_congr fun line _ => ?_
    by_cases haccount : line.accountId = accountId <;> by_cases hamount : line.amount = 0 <;>
      simp [haccount, hamount, and_assoc]

/-- A bank, a sales and a rent account. -/
def shopBooks : Books where
  accounts := ((Table.empty.insert { orgId := 0, accountType := .asset }).insert
    { orgId := 0, accountType := .revenue }).insert { orgId := 0, accountType := .expense }

def firstBudget : Budget where
  orgId := 0
  branchId := 0
  periodStart := midnight 0
  periodEnd := midnight 30

/-- A budget of the first branch for its sales and its rent. -/
def shop (calls : List (Time × LedgerCall)) : Store where
  books := calls.foldl recordAt shopBooks
  budgets := Table.empty.insert firstBudget
  budgetLines := (Table.empty.insert
    { budgetId := 0, accountId := some 1, category := "SALES", budgetAmount := 90000 }).insert
    { budgetId := 0, accountId := some 2, category := "RENT", budgetAmount := 50000 }

/-- A journal of a branch that debits one account and credits another. -/
def transferOf (branchId debit credit : Id) (amount : String) : LedgerCall :=
  .createJournal ⟨0, branchId⟩ 0
    { journalDate := midnight 20
      lines := [⟨debit, none, .debit, amount, none⟩, ⟨credit, none, .credit, amount, none⟩] }

def shopWindow : Time × Time := (midnight 0, midnight 20)

def shopSales : List (Time × LedgerCall) :=
  [(midnight 20, transferOf 0 0 1 "800"), (midnight 20, transferOf 0 2 0 "400")]

theorem shop_recorded : Recorded shopBooks.journalEntries := by
  intro k entry hget
  cases hget

/-- Sales and rent of the branch alone. -/
theorem updateActuals_plain :
    let t := final (updateActuals 7 ⟨0, 0⟩ 0 {} (shop shopSales))
    (t.lines 0).map (fun row => (row.2.actualAmount, row.2.varianceAmount)) =
        [(80000, 10000), (40000, 10000)] ∧
      Actual t 0 firstBudget shopWindow := by
  intro t
  obtain ⟨refreshed, hok⟩ := ok_of_returned (r := updateActuals 7 ⟨0, 0⟩ 0 {} (shop shopSales))
    (by decide +kernel)
  have hrun : Run recordAt (fun _ _ => True) shopBooks shopSales (shop shopSales).books :=
    Run.foldl _ _ _
  have hwindow : ({} : UpdateActualsDto).window firstBudget (shop shopSales).books.clock =
      shopWindow := by
    decide +kernel
  have hiff := updateActuals_iff shop_recorded hrun rfl hok
  rw [hwindow] at hiff
  refine ⟨by decide +kernel, hiff.mpr ?_⟩
  have hsales : ((shop shopSales).books.accounts.get? 1).bind (normalSide ·.accountType) =
      some .credit := by
    decide +kernel
  have hrent : ((shop shopSales).books.accounts.get? 2).bind (normalSide ·.accountType) =
      some .debit := by
    decide +kernel
  rintro lineId line accountId side ⟨hget, -, haccount, hside⟩
  have hmem := Table.get?_iff.mp hget
  simp only [shop, Table.insert, Table.empty, List.nil_append, List.cons_append, List.mem_cons,
    Prod.mk.injEq, List.not_mem_nil, or_false] at hmem
  rcases hmem with ⟨-, rfl⟩ | ⟨-, rfl⟩
  · obtain rfl := Option.some.inj haccount
    obtain rfl := Option.some.inj (hsales.symm.trans hside)
    decide +kernel
  · obtain rfl := Option.some.inj haccount
    obtain rfl := Option.some.inj (hrent.symm.trans hside)
    decide +kernel

/-- Rent that is booked, reversed; a refund of rent; and the rent of another branch. -/
def miscounted : List (List (Time × LedgerCall)) :=
  [[(midnight 20, transferOf 0 2 0 "400"), (midnight 20, .reverseJournal 0 0 0 none)],
    [(midnight 20, transferOf 0 2 0 "400"), (midnight 20, transferOf 0 0 2 "100")],
    [(midnight 20, transferOf 1 2 0 "400")]]

theorem updateActuals_miscounts :
    ¬(∀ (calls : List (Time × LedgerCall)) refreshed t,
      updateActuals 7 ⟨0, 0⟩ 0 {} (shop calls) = .ok refreshed t →
        Actual t 0 firstBudget shopWindow) ∧
    ∀ calls ∈ miscounted,
      ¬Actual (final (updateActuals 7 ⟨0, 0⟩ 0 {} (shop calls))) 0 firstBudget shopWindow := by
  have hall : ∀ calls ∈ miscounted,
      ¬Actual (final (updateActuals 7 ⟨0, 0⟩ 0 {} (shop calls))) 0 firstBudget shopWindow := by
    intro calls hcalls hactual
    have hline (line : BudgetLine)
        (hget : (final (updateActuals 7 ⟨0, 0⟩ 0 {} (shop calls))).budgetLines.get? 1 = some line)
        (hplanned : line.budgetId = 0 ∧ line.accountId = some 2)
        (haccount : ((final (updateActuals 7 ⟨0, 0⟩ 0 {} (shop calls))).books.accounts.get? 2).bind
          (normalSide ·.accountType) = some .debit) :=
      hactual.net 1 line 2 .debit ⟨hget, hplanned.1, hplanned.2, haccount⟩
    simp only [miscounted, List.mem_cons, List.not_mem_nil, or_false] at hcalls
    rcases hcalls with rfl | rfl | rfl
    all_goals exact absurd (hline _ rfl ⟨rfl, rfl⟩ (by decide +kernel)) (by decide +kernel)
  refine ⟨fun h => ?_, hall⟩
  obtain ⟨refreshed, hok⟩ := ok_of_returned
    (r := updateActuals 7 ⟨0, 0⟩ 0 {} (shop (miscounted.head (by simp [miscounted]))))
    (by decide +kernel)
  exact hall _ (.head _) (h _ refreshed _ hok)

end NimbusPos.BudgetService
