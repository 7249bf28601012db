import NimbusPos.AccountsPayable.Service
import NimbusPos.AccountsReceivable.Service
import NimbusPos.BankRec.Service
import NimbusPos.Lib.Run

/-!
# Closed periods

A journal lands in a period by naming it or by its date. Only a manual journal is
checked against the period it names. So a closed period keeps its journals, and what
they earned, as long as no journal is dated inside it and none of its own is reversed.
-/

namespace NimbusPos

open Lib Lib.Service
open BankRecService LedgerService

-- ---
-- Calls that post
-- ---

inductive PostingCall
  | createJournal (orgId : Id) (branchId : Option Id) (userId : Id) (dto : CreateJournalDto)
  | reverseJournal (orgId journalId userId : Id) (reason : Option String)
  | replayPosting (p : ReplayPosting)
  | createApPayment (p : AccountsPayableService.CreateApPayment)
  | createReceipt (fate : AccountsReceivableService.ReceiptWrite → Fate)
      (p : AccountsReceivableService.CreateReceipt)

/-- The store a call leaves. -/
def PostingCall.perform (s : Books) : PostingCall → Books
  | .createJournal orgId branchId userId dto =>
    final (LedgerService.createJournal orgId branchId userId dto s)
  | .reverseJournal orgId journalId userId reason =>
    final (LedgerService.reverseJournal orgId journalId userId reason s)
  | .replayPosting p => (LedgerService.replayPosting s p).1
  | .createApPayment p => final (AccountsPayableService.createApPayment p s)
  | .createReceipt fate p => final (AccountsReceivableService.createReceipt fate p s)

/-- A call made at a time. -/
def postAt (s : Books) (call : Time × PostingCall) : Books :=
  call.2.perform { s with clock := call.1 }

-- ---
-- Inside a period
-- ---

def FiscalPeriod.contains (period : FiscalPeriod) (day : Day) : Bool :=
  decide (period.startsAt ≤ midnight day) && decide (midnight day ≤ period.endsAt)

/-- An organisation's journals of the day are dated inside the period. -/
def FiscalPeriod.covers (period : FiscalPeriod) (orgId : Id) (day : Day) : Bool :=
  orgId == period.orgId && period.contains day

/-- A journal that names the period or is dated inside it. -/
def InPeriod (periodId : Id) (period : FiscalPeriod) (entry : JournalEntry) : Prop :=
  entry.fiscalPeriodId = some periodId ∨ period.covers entry.orgId entry.journalDate = true

/-- Every posted journal of the period was there when it was closed, and the period
earned what it had earned then. -/
structure KeepsPeriod (closed : Books) (periodId : Id) (period : FiscalPeriod) (s : Books) :
    Prop where
  journals : ∀ k entry, s.journalEntries.get? k = some entry → entry.status = .posted →
    InPeriod periodId period entry →
    closed.journalEntries.get? k = some entry
  retained : retainedEarnings s period.orgId periodId =
    retainedEarnings closed period.orgId periodId

/-- And the period is still closed, with the accounts and close runs there were. -/
structure StaysClosed (closed : Books) (periodId : Id) (period : FiscalPeriod) (s : Books) : Prop
    extends KeepsPeriod closed periodId period s where
  accounts : s.accounts = closed.accounts
  period : s.fiscalPeriods.get? periodId = some period
  closeRuns : s.periodCloseRuns = closed.periodCloseRuns

-- ---
-- One journal
-- ---

theorem dayOf_midnight (day : Day) : dayOf (midnight day) = day :=
  Nat.mul_div_cancel day (by decide)

theorem periodTotal_congr (hjournals : t.journalEntries = s.journalEntries)
    (haccounts : t.accounts = s.accounts) :
    periodTotal t orgId periodId accountType direction =
      periodTotal s orgId periodId accountType direction := by
  simp only [periodTotal, hjournals]
  congr 1
  funext entry
  simp only [lineTotal, haccounts]

theorem periodTotal_insertEntry {entry : JournalEntry}
    (hout : entry.fiscalPeriodId ≠ some periodId) :
    periodTotal (insertEntry s entry) orgId periodId accountType direction =
      periodTotal s orgId periodId accountType direction := by
  have hcount : (entry.fiscalPeriodId == some periodId && entry.status == .posted) = false := by
    simp [hout]
  simp only [periodTotal, insertEntry, Table.sumWhere_eq_total, Table.total_insert, hcount,
    Bool.false_eq_true, if_false]
  exact Int.add_zero _

theorem periodTotal_reverseEntry {entry original : JournalEntry}
    (hget : s.journalEntries.get? originalId = some original)
    (hout : entry.fiscalPeriodId ≠ some periodId)
    (horiginal : original.fiscalPeriodId ≠ some periodId) :
    periodTotal (reverseEntry s originalId entry) orgId periodId accountType direction =
      periodTotal s orgId periodId accountType direction := by
  have hinsert : periodTotal (insertEntry s entry) orgId periodId accountType direction =
      periodTotal s orgId periodId accountType direction := periodTotal_insertEntry hout
  rw [← hinsert]
  have hinserted : (s.journalEntries.insert entry).get? originalId = some original :=
    Table.get?_insert_of_some hget
  simp only [periodTotal, reverseEntry, insertEntry, Table.sumWhere_eq_total,
    Table.total_update hinserted]
  have hcount (status : JournalStatus) :
      (original.fiscalPeriodId == some periodId && status == .posted) = false := by
    simp [horiginal]
  simp only [hcount, Bool.false_eq_true, if_false, Int.sub_zero, Int.add_zero]
  rfl

/-- What a closed period is read from. -/
def ledger (s : Books) :
    Table JournalEntry × Table Account × Table FiscalPeriod × Table PeriodCloseRun :=
  (s.journalEntries, s.accounts, s.fiscalPeriods, s.periodCloseRuns)

variable {closed s t : Books} {periodId : Id} {period : FiscalPeriod}

namespace StaysClosed

theorem congr (h : StaysClosed closed periodId period s) (hsame : ledger t = ledger s) :
    StaysClosed closed periodId period t := by
  simp only [ledger, Prod.mk.injEq] at hsame
  obtain ⟨hjournals, haccounts, hperiods, hruns⟩ := hsame
  refine ⟨⟨?_, ?_⟩, haccounts.trans h.accounts, ?_, hruns.trans h.closeRuns⟩
  · rw [hjournals]
    exact h.journals
  · rw [← h.retained]
    simp only [retainedEarnings, incomeTotal, expenseTotal, periodTotal_congr hjournals haccounts]
  · rw [hperiods]
    exact h.period

/-- A journal outside the period. -/
theorem insertEntry (h : StaysClosed closed periodId period s)
    (hout : ¬InPeriod periodId period entry) :
    StaysClosed closed periodId period (insertEntry s entry) := by
  refine ⟨⟨?_, ?_⟩, h.accounts, h.period, h.closeRuns⟩
  · intro k row hrow hposted hin
    simp only [LedgerService.insertEntry, Table.get?_insert] at hrow
    split at hrow
    · cases hrow
      exact absurd hin hout
    · exact h.journals k row hrow hposted hin
  · rw [← h.retained]
    simp only [retainedEarnings, incomeTotal, expenseTotal, periodTotal_insertEntry fun hnamed =>
      hout (.inl hnamed)]

/-- The reversal, outside the period, of a journal that does not name it. -/
theorem reverseEntry (h : StaysClosed closed periodId period s)
    (hget : s.journalEntries.get? originalId = some original)
    (horiginal : original.fiscalPeriodId ≠ some periodId) (hout : ¬InPeriod periodId period entry) :
    StaysClosed closed periodId period (reverseEntry s originalId entry) := by
  refine ⟨⟨?_, ?_⟩, h.accounts, h.period, h.closeRuns⟩
  · intro k row hrow hposted hin
    simp only [LedgerService.reverseEntry, Table.get?_update] at hrow
    split at hrow
    · obtain ⟨_, _, rfl⟩ := Option.map_eq_some_iff.mp hrow
      cases hposted
    · exact (h.insertEntry hout).journals k row hrow hposted hin
  · rw [← h.retained]
    simp only [retainedEarnings, incomeTotal, expenseTotal,
      periodTotal_reverseEntry hget (fun hnamed => hout (.inl hnamed)) horiginal]

/-- A manual journal, dated outside the period or refused for the period it names. -/
theorem createJournal (h : StaysClosed closed periodId period s) (hclosed : period.status = .closed)
    (hok : LedgerService.createJournal orgId branchId userId dto s = .ok journalId t)
    (hout : dto.periodClosed s orgId = true ∨ period.covers orgId (dayOf dto.journalDate) = false) :
    StaysClosed closed periodId period t := by
  obtain ⟨hopen, _, rfl⟩ := createJournal_ok hok
  refine h.insertEntry ?_
  rintro (hnamed | hdated)
  · have hnamed : dto.fiscalPeriodId = some periodId := hnamed
    simp [CreateJournalDto.periodClosed, hnamed, h.period, hclosed] at hopen
  · rcases hout with hout | hout
    · exact absurd hout (by simp [hopen])
    · exact absurd hdated (by simp [CreateJournalDto.entry, hout])

end StaysClosed

-- ---
-- One call
-- ---

/-- A call that names no closed period posts outside this one, and reverses none of
its journals. -/
def PostingCall.staysOut (periodId : Id) (period : FiscalPeriod) (s : Books) : PostingCall → Prop
  | .createJournal orgId _ _ dto =>
    dto.periodClosed s orgId = true ∨ period.covers orgId (dayOf dto.journalDate) = false
  | .reverseJournal orgId journalId _ _ =>
    ∀ original ∈ s.journalEntries.get? journalId, original.orgId = orgId →
      original.status = .posted →
      original.fiscalPeriodId ≠ some periodId ∧ period.covers orgId (dayOf s.clock) = false
  | .replayPosting p =>
    findSucceededRun s p = none → (findSourceMap s p).isSome = true →
      period.covers p.orgId (dayOf s.clock) = false
  | .createApPayment p =>
    (AccountsPayableService.glAccounts s p).isSome = true →
      period.covers p.ctx.organizationId (dayOf s.clock) = false
  | .createReceipt fate p =>
    (fate .createJournal).written = true →
      (AccountsReceivableService.glAccounts s p).isSome = true →
      period.covers p.ctx.organizationId (dayOf s.clock) = false

instance : (call : PostingCall) → Decidable (call.staysOut periodId period s)
  | .createJournal _ _ _ _ => inferInstanceAs (Decidable (_ ∨ _))
  | .reverseJournal _ _ _ _ => inferInstanceAs (Decidable (∀ _ ∈ _, _ → _ → _ ∧ _))
  | .replayPosting _ => inferInstanceAs (Decidable (_ = none → _ → _))
  | .createApPayment _ => inferInstanceAs (Decidable (_ → _))
  | .createReceipt _ _ => inferInstanceAs (Decidable (_ → _ → _))

theorem replayPosting_staysClosed (h : StaysClosed closed periodId period s)
    (hok : (PostingCall.replayPosting p).staysOut periodId period s) :
    StaysClosed closed periodId period (replayPosting s p).1 := by
  unfold replayPosting
  cases hrun : findSucceededRun s p with
  | some row => exact h
  | none =>
    simp only
    cases hmap : findSourceMap (createRun s p) p with
    | none => exact h.congr rfl
    | some accounts =>
      have hout : period.covers p.orgId (dayOf s.clock) = false :=
        hok hrun (Option.isSome_iff_exists.mpr ⟨accounts, hmap⟩)
      have hcreated : StaysClosed closed periodId period (createRun s p) := h.congr rfl
      simp only
      split
      · exact hcreated.congr rfl
      · have houtside : ¬InPeriod periodId period
            (postingEntry (createRun s p) p accounts
              (nextJournalNumber (createRun s p) p.orgId)) := by
          rintro (hnamed | hdated)
          · cases hnamed
          · exact absurd hdated (by simp [postingEntry, createRun, hout])
        exact (hcreated.insertEntry houtside).congr rfl

/-- A call that stays out of the period keeps it closed. -/
abbrev stayingOut (closed : Books) (periodId : Id) (period : FiscalPeriod) (call : PostingCall) :
    Frame Books :=
  .guarded (call.staysOut periodId period ·) (StaysClosed closed periodId period)

/-- A statement that touches neither the ledger nor where the call posts. -/
theorem rel_ledger {call : PostingCall} {r t : Books}
    (hguard : call.staysOut periodId period t ↔ call.staysOut periodId period r)
    (hsame : ledger t = ledger r) : (stayingOut closed periodId period call).rel r t :=
  ⟨hguard, fun _ h => h.congr hsame⟩

theorem createApPayment_staysClosed (hclosed : period.status = .closed)
    (p : AccountsPayableService.CreateApPayment) :
    Keeps (stayingOut closed periodId period (.createApPayment p))
      (AccountsPayableService.createApPayment p) := by
  refine AccountsPayableService.createApPayment_keeps p ?_ ?_ ?_
  · intro supplier found paymentNumber r
    refine rel_ledger ?_ rfl
    simp only [PostingCall.staysOut, AccountsPayableService.glAccounts,
      AccountsPayableService.recordPayment]
  · intro paymentId journalId r
    exact rel_ledger Iff.rfl rfl
  · intro paymentId paymentNumber accounts s journalId t haccounts hjournal
    obtain ⟨_, _, rfl⟩ := createJournal_ok hjournal
    refine ⟨Iff.rfl, fun hguard h => h.createJournal hclosed hjournal (.inr ?_)⟩
    rw [AccountsPayableService.journalDto, dayOf_midnight]
    exact hguard (by simp [haccounts])

theorem createReceipt_staysClosed (hclosed : period.status = .closed)
    (fate : AccountsReceivableService.ReceiptWrite → Fate)
    (p : AccountsReceivableService.CreateReceipt) :
    Keeps (stayingOut closed periodId period (.createReceipt fate p))
      (AccountsReceivableService.createReceipt fate p) := by
  refine AccountsReceivableService.createReceipt_keeps fate p ?_ ?_ ?_
  · intro account found receiptNumber r
    refine rel_ledger ?_ rfl
    simp only [PostingCall.staysOut, AccountsReceivableService.glAccounts,
      AccountsReceivableService.recordReceipt, AccountsReceivableService.addBalance,
      AccountsReceivableService.recordAllocations]
    exact Iff.rfl
  · intro receiptId journalId r
    exact rel_ledger Iff.rfl rfl
  · intro receiptId receiptNumber accounts s journalId t hwritten haccounts hjournal
    obtain ⟨_, _, rfl⟩ := createJournal_ok hjournal
    refine ⟨Iff.rfl, fun hguard h => h.createJournal hclosed hjournal (.inr ?_)⟩
    rw [AccountsReceivableService.journalDto, dayOf_midnight]
    exact hguard hwritten (by simp [haccounts])

theorem perform_staysClosed (call : PostingCall) (hclosed : period.status = .closed)
    (h : StaysClosed closed periodId period s) (hok : call.staysOut periodId period s) :
    StaysClosed closed periodId period (call.perform s) := by
  cases call with
  | createJournal orgId branchId userId dto =>
    exact (createJournal_atomic _ _ _ _).elim h fun _ _ hjournal =>
      h.createJournal hclosed hjournal hok
  | reverseJournal orgId journalId userId reason =>
    refine (reverseJournal_atomic _ _ _ _).elim h ?_
    intro reversalId t hreversed
    obtain ⟨original, hget, horg, hposted, _, rfl⟩ := reverseJournal_ok hreversed
    obtain ⟨horiginal, hout⟩ := hok original hget horg hposted
    refine h.reverseEntry hget horiginal ?_
    rintro (hnamed | hdated)
    · exact horiginal hnamed
    · exact absurd hdated (by simp [reversal, hout])
  | replayPosting p => exact replayPosting_staysClosed h hok
  | createApPayment p => exact (createApPayment_staysClosed hclosed p s).2 hok h
  | createReceipt fate p => exact (createReceipt_staysClosed hclosed fate p s).2 hok h

-- ---
-- Sequences of calls
-- ---

/-- What a period is like when it has just been closed. -/
theorem closeFiscalPeriod_staysClosed
    (h : closeFiscalPeriod userId orgId periodId notes s = .ok period closed) :
    period.status = .closed ∧ StaysClosed closed periodId period closed ∧
      ∃ run, closed.periodCloseRuns.get? s.periodCloseRuns.next = some run ∧
        run.retainedEarningsAmount = retainedEarnings closed period.orgId periodId := by
  obtain ⟨before, hget, rfl, rfl, rfl⟩ := closeFiscalPeriod_ok h
  refine ⟨rfl, ⟨⟨fun _ _ hrow _ _ => hrow, rfl⟩, rfl, ?_, rfl⟩, _, Table.get?_insert_self _ _, rfl⟩
  rw [recordClose, Table.get?_update_self, hget]
  rfl

def outside (periodId : Id) (period : FiscalPeriod) (s : Books) (call : Time × PostingCall) :
    Prop :=
  call.2.staysOut periodId period { s with clock := call.1 }

instance : Decidable (outside periodId period s call) :=
  inferInstanceAs (Decidable (call.2.staysOut _ _ _))

/-- Once a period is closed, any calls that stay out of it leave its posted journals
alone, and the retained earnings its close run stored are those of its journals. -/
theorem run_keepsPeriod
    (hclose : closeFiscalPeriod userId orgId periodId notes s = .ok period closed)
    (h : Run postAt (outside periodId period) closed calls t) :
    KeepsPeriod closed periodId period t ∧
      ∃ run, t.periodCloseRuns.get? s.periodCloseRuns.next = some run ∧
        run.retainedEarningsAmount = retainedEarnings t period.orgId periodId := by
  obtain ⟨hclosed, hstart, run, hrun, hretained⟩ := closeFiscalPeriod_staysClosed hclose
  have hstays : StaysClosed closed periodId period t := by
    refine h.invariant hstart ?_
    intro r call hr hok
    have hticked : StaysClosed closed periodId period { r with clock := call.1 } := hr.congr rfl
    exact perform_staysClosed call.2 hclosed hticked hok
  refine ⟨hstays.toKeepsPeriod, run, ?_, ?_⟩
  · rw [hstays.closeRuns]
    exact hrun
  · rw [hretained, hstays.retained]

-- ---
-- A concrete period
-- ---

/-- A ledger with one journal in its one period, a bill to pay and an invoice. -/
def booked : Books where
  clock := midnight 20
  accounts := (Table.empty.insert { orgId := 0, accountType := .asset }).insert
    { orgId := 0, accountType := .revenue }
  fiscalPeriods := Table.empty.insert
    { orgId := 0, name := "First", startsAt := midnight 0, endsAt := midnight 30, status := .open }
  journalEntries := Table.empty.insert
    { orgId := 0, branchId := none, journalNumber := "JNL-000001", journalDate := 10
      status := .posted, fiscalPeriodId := some 0, totalDebit := 100, totalCredit := 100
      postedAt := none, postedById := none
      lines := [⟨0, 0, none, .debit, 100, none⟩, ⟨0, 1, none, .credit, 100, none⟩]
      createdAt := midnight 10 }
  postingSourceMaps := Table.empty.insert
    { orgId := 0, sourceKey := "POS_SALE", debitAccountId := some 0, creditAccountId := some 1 }
  suppliers := Table.empty.insert { orgId := 0, branchId := none }
  vendorBills := Table.empty.insert
    { orgId := 0, branchId := none, supplierId := 0, status := .approved
      totalAmount := 100, outstandingAmount := 100 }
  customerAccounts := Table.empty.insert { orgId := 0, branchId := none, openBalance := 100 }
  invoices := Table.empty.insert
    { orgId := 0, branchId := none, customerAccountId := 0, invoiceNumber := "INV-000001"
      status := .issued, sourceType := "MANUAL", invoiceDate := 10, dueDate := 20
      currencyCode := "USD", subtotal := 100, taxAmount := 0, totalAmount := 100
      outstandingBalance := 100, issuedAt := none, issuedById := none, createdAt := midnight 10 }

def closedBooks : Books := final (closeFiscalPeriod 0 0 0 none booked)

def firstClosed : FiscalPeriod where
  orgId := 0
  name := "First"
  startsAt := midnight 0
  endsAt := midnight 30
  status := .closed
  closedAt := some (midnight 20)
  closedById := some 0

theorem booked_closes : closeFiscalPeriod 0 0 0 none booked = .ok firstClosed closedBooks := rfl

/-- A journal of one dollar without a period. -/
def manualJournal (day : Day) : CreateJournalDto where
  journalDate := midnight day
  lines := [⟨0, none, .debit, 100, none⟩, ⟨1, none, .credit, 100, none⟩]

def posSale : ReplayPosting where
  orgId := 0
  userId := 0
  sourceKey := "POS_SALE"

/-- A manual journal, its reversal and a replay, all after the period. -/
theorem run_keepsPeriod_later :
    let calls := [(midnight 40, PostingCall.createJournal 0 none 0 (manualJournal 40)),
      (midnight 41, .reverseJournal 0 1 0 none), (midnight 42, .replayPosting posSale)]
    let s := calls.foldl postAt closedBooks
    Run postAt (outside 0 firstClosed) closedBooks calls s ∧
      KeepsPeriod closedBooks 0 firstClosed s := by
  intro calls s
  have hrun : Run postAt (outside 0 firstClosed) closedBooks calls s :=
    Run.of_holds (by decide +kernel)
  exact ⟨hrun, (run_keepsPeriod booked_closes hrun).1⟩

/-- A closed period gets a manual journal that names no period, the reversal of one
of its own, a replay, and the journals of a payment and of a receipt. -/
theorem closed_period_changes :
    ¬(∀ now dto, KeepsPeriod closedBooks 0 firstClosed
      (postAt closedBooks (now, .createJournal 0 none 0 dto))) ∧
    ¬(∀ now reason, KeepsPeriod closedBooks 0 firstClosed
      (postAt closedBooks (now, .reverseJournal 0 0 0 reason))) ∧
    ¬(∀ now p, KeepsPeriod closedBooks 0 firstClosed (postAt closedBooks (now, .replayPosting p))) ∧
    ¬(∀ now p, KeepsPeriod closedBooks 0 firstClosed
      (postAt closedBooks (now, .createApPayment p))) ∧
    ¬(∀ now fate p, KeepsPeriod closedBooks 0 firstClosed
      (postAt closedBooks (now, .createReceipt fate p))) := by
  have hnew {s : Books} (h : KeepsPeriod closedBooks 0 firstClosed s)
      (hany : (s.journalEntries.get? 1).any (fun entry =>
        entry.status == .posted && firstClosed.covers entry.orgId entry.journalDate) = true) :
      False := by
    obtain ⟨entry, hget, hin⟩ := (Option.any_eq_true _ _).mp hany
    rw [Bool.and_eq_true, beq_iff_eq] at hin
    cases h.journals 1 entry hget hin.1 (.inr hin.2)
  refine ⟨?_, ?_, ?_, ?_, ?_⟩
  · intro h
    exact hnew (h (midnight 40) (manualJournal 25)) (by decide +kernel)
  · intro h
    exact absurd (h (midnight 40) none).retained (by decide +kernel)
  · intro h
    exact hnew (h (midnight 25) posSale) (by decide +kernel)
  · intro h
    exact hnew (h (midnight 25)
      { ctx := ⟨0, 0⟩, userId := 0
        dto :=
          { supplierId := 0, amount := 100, allocations := [⟨0, 100⟩]
            apAccountId := some 0, cashAccountId := some 1 } })
      (by decide +kernel)
  · intro h
    exact hnew (h (midnight 25) (fun _ => .applied)
      { ctx := ⟨0, 0⟩, userId := 0
        dto :=
          { customerAccountId := 0, amount := 100, allocations := [⟨0, 100⟩]
            debitAccountId := some 0, arAccountId := some 1 } })
      (by decide +kernel)

end NimbusPos
