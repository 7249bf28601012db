import NimbusPos.Ledger.Reversals

/-!
# Retained earnings

A close counts the revenue credits and the expense debits of the posted journals. A
reversal posts on the other sides and takes its original out of the count, so a journal
and its reversal do cancel; but what a journal posts against its kind of account, a sales
return or a credited expense, is never counted.
-/

namespace NimbusPos.BankRecService

open Lib Lib.Service
open LedgerService (reversalLine)

/-- Revenue credits less expense debits. -/
def earned (s : Books) (orgId : Id) (entry : JournalEntry) : Cents :=
  lineTotal s orgId .revenue .credit entry - lineTotal s orgId .expense .debit entry

/-- Revenue debits less expense credits. -/
def contra (s : Books) (orgId : Id) (entry : JournalEntry) : Cents :=
  lineTotal s orgId .revenue .debit entry - lineTotal s orgId .expense .credit entry

/-- The entry counts in the period's result. -/
def inResult (periodId : Id) (entry : JournalEntry) : Bool :=
  entry.fiscalPeriodId == some periodId && (entry.status == .posted || entry.status == .reversed)

/-- Revenue less expenses, each net, of the period's posted and reversed journals. -/
def netEarnings (s : Books) (orgId periodId : Id) : Cents :=
  s.journalEntries.sumWhere (fun _ entry => inResult periodId entry) fun entry =>
    (lineTotal s orgId .revenue .credit entry - lineTotal s orgId .revenue .debit entry) -
      (lineTotal s orgId .expense .debit entry - lineTotal s orgId .expense .credit entry)

/-- What the period's journals other than reversals post against their kind of account. -/
def contraTotal (s : Books) (orgId periodId : Id) : Cents :=
  s.journalEntries.sumWhere
    (fun _ entry => inResult periodId entry && entry.reversedFromId == none) (contra s orgId)

variable {s t start : Books}

theorem retainedEarnings_eq (s : Books) (orgId periodId : Id) :
    retainedEarnings s orgId periodId = s.journalEntries.total fun _ entry =>
      if entry.fiscalPeriodId = some periodId ∧ entry.status = .posted then earned s orgId entry
      else 0 := by
  simp only [retainedEarnings, incomeTotal, expenseTotal, periodTotal, Table.sumWhere_eq_total,
    ← Table.total_sub]
  refine Table.total_congr fun k entry _ => ?_
  by_cases hcounts : entry.fiscalPeriodId = some periodId ∧ entry.status = .posted
  · simp [hcounts, earned]
  · simp [hcounts]

theorem lineTotal_turned (hturns : TurnsRound turned entry) (hentry : entry.Recorded) :
    lineTotal s orgId accountType direction turned =
      lineTotal s orgId accountType direction.opposite entry := by
  simp only [lineTotal, hturns.lines, List.filter_map, List.map_map]
  have hsame : entry.lines.filter
      ((fun line => line.orgId == orgId && line.direction == direction &&
        (s.accounts.get? line.accountId).any (·.accountType == accountType)) ∘
        reversalLine entry.orgId) =
      entry.lines.filter fun line => line.orgId == orgId && line.direction == direction.opposite &&
        (s.accounts.get? line.accountId).any (·.accountType == accountType) := by
    refine List.filter_congr fun line hline => ?_
    simp [reversalLine, (hentry.lines line hline).1]
  rw [hsame]
  rfl

/-- What a journal earned, its reversal posts against its kind of account. -/
theorem contra_turned (hturns : TurnsRound turned entry) (hentry : entry.Recorded) :
    contra s orgId turned = earned s orgId entry := by
  simp only [contra, earned, lineTotal_turned hturns hentry, JournalLineDirection.opposite]

/-- Reversals post against their kinds of account what the reversed journals earned. -/
theorem contra_reversals (h : Reversals s.journalEntries) (hrecorded : Recorded s.journalEntries)
    (orgId periodId : Id) :
    (s.journalEntries.total fun _ entry =>
        if entry.fiscalPeriodId = some periodId ∧ entry.reversedFromId ≠ none then
          contra s orgId entry else 0) =
      s.journalEntries.total fun _ entry =>
        if entry.fiscalPeriodId = some periodId ∧ entry.status = .reversed then
          earned s orgId entry else 0 := by
  refine Table.total_linked h.unique ?_ ?_ ?_
  · intro j turned k hturned hnames
    obtain ⟨entry, hentry, hturns⟩ := h.turns j turned k hturned hnames
    have hstatus := (h.marked k entry hentry).mpr ⟨j, turned, hturned, hnames⟩
    refine ⟨entry, hentry, ?_⟩
    simp [hstatus, hnames, hturns.fiscalPeriodId, contra_turned hturns (hrecorded k entry hentry)]
  · intro j entry _ hnames
    simp [hnames]
  · intro k entry hentry hunnamed
    refine if_neg ?_
    rintro ⟨-, hstatus⟩
    obtain ⟨j, turned, hturned, hnames⟩ := (h.marked k entry hentry).mp hstatus
    exact hunnamed j turned hturned hnames

/-- The recorded amount leaves out what was posted against the kinds of account. -/
theorem retainedEarnings_sub (h : Reversals s.journalEntries)
    (hrecorded : Recorded s.journalEntries) (orgId periodId : Id) :
    retainedEarnings s orgId periodId - netEarnings s orgId periodId =
      contraTotal s orgId periodId := by
  have hreversals := contra_reversals h hrecorded orgId periodId
  have hterms : (s.journalEntries.total fun _ entry =>
      (if entry.fiscalPeriodId = some periodId ∧ entry.status = .posted then earned s orgId entry
        else 0) +
      ((if entry.fiscalPeriodId = some periodId ∧ entry.status = .reversed then
          earned s orgId entry else 0) -
        (if entry.fiscalPeriodId = some periodId ∧ entry.reversedFromId ≠ none then
          contra s orgId entry else 0))) =
      netEarnings s orgId periodId + contraTotal s orgId periodId := by
    simp only [netEarnings, contraTotal, Table.sumWhere_eq_total, ← Table.total_add]
    refine Table.total_congr fun k entry hentry => ?_
    have hstatus := (hrecorded k entry hentry).status
    by_cases hperiod : entry.fiscalPeriodId = some periodId
    · cases hcase : entry.status with
      | draft => exact absurd hcase hstatus
      | posted | reversed =>
        by_cases hnames : entry.reversedFromId = none <;>
          simp [inResult, hperiod, hcase, hnames, earned, contra] <;> ring
    · simp [inResult, hperiod]
  rw [Table.total_add, Table.total_sub, ← hreversals, sub_self, add_zero, ← retainedEarnings_eq]
    at hterms
  rw [hterms]
  ring

/-- After any calls of the ledger a close records the revenue credits less the expense
debits of its posted journals: the net result, and what the journals other than reversals
post against their kind of account. -/
theorem close_retained (hstart : Reversals start.journalEntries)
    (hrecorded : Recorded start.journalEntries)
    (hrun : Run recordAt (fun _ _ => True) start calls s)
    (hclose : closeFiscalPeriod userId orgId periodId notes s = .ok closed t) :
    ∃ run, t.periodCloseRuns.get? s.periodCloseRuns.next = some run ∧
      run.fiscalPeriodId = periodId ∧
      run.retainedEarningsAmount =
        periodTotal s orgId periodId .revenue .credit -
          periodTotal s orgId periodId .expense .debit ∧
      run.retainedEarningsAmount =
        netEarnings s orgId periodId + contraTotal s orgId periodId := by
  have hsub := retainedEarnings_sub (journalInvariant_reversals.run hstart hrun)
    (journalInvariant_recorded.run hrecorded hrun) orgId periodId
  obtain ⟨-, -, -, -, rfl⟩ := closeFiscalPeriod_ok hclose
  exact ⟨_, Table.get?_insert_self .., rfl, rfl, eq_add_of_sub_eq' hsub⟩

/-- An organisation with a bank, a sales and a rent account, and an open period. -/
def tradingBooks : Books where
  accounts := ((Table.empty.insert { orgId := 0, accountType := .asset }).insert
    { orgId := 0, accountType := .revenue }).insert { orgId := 0, accountType := .expense }
  fiscalPeriods := Table.empty.insert
    { orgId := 0, name := "First", startsAt := midnight 0, endsAt := midnight 30, status := .open }

/-- A journal of the period that debits one account and credits another. -/
def transfer (debit credit : Id) (amount : String) : LedgerCall :=
  .createJournal ⟨0, 0⟩ 0
    { journalDate := midnight 20, fiscalPeriodId := some 0
      lines := [⟨debit, none, .debit, amount, none⟩, ⟨credit, none, .credit, amount, none⟩] }

/-- A sale, rent, a return, and a sale that is reversed: thirty too much. -/
theorem close_retained_trading :
    let calls := [(midnight 20, transfer 0 1 "100"), (midnight 20, transfer 2 0 "40"),
      (midnight 20, transfer 1 0 "30"), (midnight 20, transfer 0 1 "7.50"),
      (midnight 20, .reverseJournal 0 3 0 none)]
    let s := calls.foldl recordAt tradingBooks
    let closed := final (closeFiscalPeriod 0 0 0 none s)
    netEarnings s 0 0 = 3000 ∧ contraTotal s 0 0 = 3000 ∧
      ∃ run, closed.periodCloseRuns.get? s.periodCloseRuns.next = some run ∧
        run.fiscalPeriodId = 0 ∧
        run.retainedEarningsAmount =
          periodTotal s 0 0 .revenue .credit - periodTotal s 0 0 .expense .debit ∧
        run.retainedEarningsAmount = netEarnings s 0 0 + contraTotal s 0 0 := by
  intro calls s closed
  have hrun : Run recordAt (fun _ _ => True) tradingBooks calls s := Run.foldl _ _ _
  obtain ⟨period, hclose⟩ := ok_of_returned (r := closeFiscalPeriod 0 0 0 none s)
    (by decide +kernel)
  have hrecorded : Recorded tradingBooks.journalEntries := by
    intro k entry hget
    cases hget
  exact ⟨by decide +kernel, by decide +kernel, close_retained Reversals.empty hrecorded hrun hclose⟩

/-- A sale of a hundred and a return of thirty: the close records the hundred. -/
theorem sales_return_unrecorded :
    ¬ ∀ (calls : List (Time × LedgerCall)) (closed : FiscalPeriod) (t : Books),
      let s := calls.foldl recordAt tradingBooks
      closeFiscalPeriod 0 0 0 none s = .ok closed t →
        ∃ run, t.periodCloseRuns.get? s.periodCloseRuns.next = some run ∧
          run.fiscalPeriodId = 0 ∧ run.retainedEarningsAmount = netEarnings s 0 0 := by
  intro h
  let calls := [(midnight 20, transfer 0 1 "100"), (midnight 20, transfer 1 0 "30")]
  obtain ⟨period, hclose⟩ := ok_of_returned
    (r := closeFiscalPeriod 0 0 0 none (calls.foldl recordAt tradingBooks)) (by decide +kernel)
  obtain ⟨run, hget, -, hamount⟩ := h calls period _ hclose
  have hrow : (final (closeFiscalPeriod 0 0 0 none
      (calls.foldl recordAt tradingBooks))).periodCloseRuns.get? 0 =
        some { orgId := 0, fiscalPeriodId := 0, closedById := 0, retainedEarningsAmount := 10000
               incomeTotal := 10000, expenseTotal := 0 } := by
    decide +kernel
  have hnet : netEarnings (calls.foldl recordAt tradingBooks) 0 0 = 7000 := by decide +kernel
  have hnext : (calls.foldl recordAt tradingBooks).periodCloseRuns.next = 0 := by decide +kernel
  rw [hnext] at hget
  obtain rfl := Option.some.inj (hrow.symm.trans hget)
  rw [hnet] at hamount
  cases hamount

end NimbusPos.BankRecService
