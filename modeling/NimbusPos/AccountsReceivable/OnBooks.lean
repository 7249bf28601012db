import NimbusPos.AccountsReceivable.SubLedger
import NimbusPos.Ledger.DoubleEntry

/-!
# Receipts on the books

A receipt is marked posted after its journal, and without one where its accounts are not
mapped: so a posted receipt has a posted journal over its amount as long as every receipt
that is marked had both accounts.
-/

namespace NimbusPos.AccountsReceivableService

open Lib Lib.Service
open LedgerService (createJournal createJournal_ok createJournal_atomic)

/-- The receipt's journal is posted, and its lines and its totals are the receipt's amount. -/
structure Booked (s : Books) (receipt : ArReceipt) (entry : JournalEntry) : Prop where
  linked : ∃ journalId, receipt.journalEntryId = some journalId ∧
    s.journalEntries.get? journalId = some entry
  posted : entry.status = .posted
  balanced : entry.Balanced
  total : entry.totalDebit = receipt.amount

def OnBooks (s : Books) : Prop :=
  ∀ receiptId receipt, s.arReceipts.get? receiptId = some receipt → receipt.status = .posted →
    ∃ entry, Booked s receipt entry

/-- A call, or a change of the chart of accounts. -/
inductive ReceiptCall
  | createReceipt (fate : ReceiptWrite → Fate) (p : CreateReceipt)
  | configure (accounts : Table Account)

namespace ReceiptCall

def perform (s : Books) : ReceiptCall → Books
  | .createReceipt fate p => final (AccountsReceivableService.createReceipt fate p s)
  | .configure accounts => { s with accounts }

/-- A receipt that is written and then marked has both its accounts. -/
def mapped (s : Books) : ReceiptCall → Bool
  | .createReceipt fate p =>
    !(recordsReceipt s fate p && fate .transaction == .applied && (fate .markPosted).written) ||
      (glAccounts s p).isSome
  | .configure _ => true

end ReceiptCall

variable {s t : Books} {p : CreateReceipt} {fate : ReceiptWrite → Fate}

-- ---
-- One write
-- ---

/-- A receipt is written as pending. -/
theorem OnBooks.recordReceipt (h : OnBooks s) (p : CreateReceipt) (account : CustomerAccount)
    (found : Invoices) (receiptNumber : String) :
    OnBooks (recordReceipt s p account found receiptNumber) := by
  intro receiptId receipt hget hposted
  replace hget : (s.arReceipts.insert (arReceipt s p account receiptNumber)).get? receiptId =
    some receipt := hget
  rcases Table.insert_cases hget with ⟨-, rfl⟩ | hget
  · cases hposted
  · obtain ⟨entry, hentry⟩ := h receiptId receipt hget hposted
    exact ⟨entry, hentry.linked, hentry.posted, hentry.balanced, hentry.total⟩

theorem OnBooks.insertEntry (h : OnBooks s) (entry : JournalEntry) :
    OnBooks (LedgerService.insertEntry s entry) := by
  intro receiptId receipt hget hposted
  obtain ⟨old, hold⟩ := h receiptId receipt hget hposted
  obtain ⟨journalId, hlink, hjournal⟩ := hold.linked
  exact ⟨old, ⟨journalId, hlink, Table.get?_insert_of_some hjournal⟩, hold.posted, hold.balanced,
    hold.total⟩

/-- The mark of a receipt over a journal that was posted for it. -/
theorem OnBooks.markPosted (h : OnBooks s) {row : ArReceipt}
    (hrow : s.arReceipts.get? receiptId = some row)
    (hentry : s.journalEntries.get? journalId = some entry) (hposted : entry.status = .posted)
    (hbalanced : entry.Balanced) (htotal : entry.totalDebit = row.amount) :
    OnBooks (markPosted s receiptId (some journalId)) := by
  intro k receipt hget hstatus
  replace hget : (s.arReceipts.update receiptId fun receipt =>
    { receipt with status := .posted, journalEntryId := some journalId }).get? k =
      some receipt := hget
  rcases Table.update_cases hget with ⟨rfl, old, hold, rfl⟩ | ⟨-, hget⟩
  · cases hrow.symm.trans hold
    exact ⟨entry, ⟨journalId, rfl, hentry⟩, hposted, hbalanced, htotal⟩
  · obtain ⟨old, hold⟩ := h k receipt hget hstatus
    exact ⟨old, hold.linked, hold.posted, hold.balanced, hold.total⟩

/-- A mark without a journal leaves the receipt off the books. -/
theorem not_onBooks_markPosted {row : ArReceipt} (hrow : s.arReceipts.get? receiptId = some row) :
    ¬OnBooks (markPosted s receiptId none) := by
  intro h
  have hget : (AccountsReceivableService.markPosted s receiptId none).arReceipts.get? receiptId =
      some { row with status := .posted, journalEntryId := none } := by
    simp [AccountsReceivableService.markPosted, hrow]
  obtain ⟨entry, hentry⟩ := h receiptId _ hget rfl
  obtain ⟨journalId, hlink, -⟩ := hentry.linked
  cases hlink

-- ---
-- Posting
-- ---

/-- The journal that is created for a receipt. -/
def receiptEntry (s : Books) (p : CreateReceipt) (receiptId : Id) (receiptNumber : String)
    (accounts : Id × Id) : JournalEntry :=
  (journalDto s p receiptId receiptNumber accounts).entry s p.ctx.organizationId
    (some p.ctx.branchId) p.userId

/-- It has one line a side, over the receipt's amount. -/
theorem receiptEntry_totals (s : Books) (p : CreateReceipt) (receiptId : Id)
    (receiptNumber : String) (accounts : Id × Id) :
    (receiptEntry s p receiptId receiptNumber accounts).Balanced ∧
      (receiptEntry s p receiptId receiptNumber accounts).totalDebit = persist p.dto.amount := by
  have htotal (direction : JournalLineDirection) :
      (journalDto s p receiptId receiptNumber accounts).total direction = p.dto.amount := by
    cases direction <;> simp [LedgerService.CreateJournalDto.total, journalDto]
  have hsum (direction : JournalLineDirection) :
      (receiptEntry s p receiptId receiptNumber accounts).sum direction = persist p.dto.amount := by
    rw [receiptEntry, entry_sum]
    cases direction <;> simp [journalDto]
  have hdebit : (receiptEntry s p receiptId receiptNumber accounts).totalDebit =
      persist p.dto.amount := congrArg persist (htotal .debit)
  have hcredit : (receiptEntry s p receiptId receiptNumber accounts).totalCredit =
      persist p.dto.amount := congrArg persist (htotal .credit)
  exact ⟨⟨(hsum .debit).trans hdebit.symm, (hsum .credit).trans hcredit.symm,
    hdebit.trans hcredit.symm⟩, hdebit⟩

theorem postReceiptToGL_unmapped (hnone : glAccounts s p = none) (f : Fate) (receiptId : Id)
    (receiptNumber : String) : postReceiptToGL f p receiptId receiptNumber s = .ok none s := by
  rw [postReceiptToGL, run_bind, run_get]
  simp only [hnone]
  rfl

/-- Where the accounts are mapped a journal is posted and named, or the posting fails. -/
theorem postReceiptToGL_mapped (haccounts : glAccounts s p = some accounts) (f : Fate)
    (receiptId : Id) (receiptNumber : String) :
    ∃ t, (t = s ∨ t = LedgerService.insertEntry s
        (receiptEntry s p receiptId receiptNumber accounts)) ∧
      ((∃ e, postReceiptToGL f p receiptId receiptNumber s = .error e t) ∨
        t = LedgerService.insertEntry s (receiptEntry s p receiptId receiptNumber accounts) ∧
          postReceiptToGL f p receiptId receiptNumber s = .ok (some s.journalEntries.next) t) := by
  have hpost : postReceiptToGL f p receiptId receiptNumber s =
      (some <$> fated .error f (createJournal p.ctx.organizationId (some p.ctx.branchId) p.userId
        (journalDto s p receiptId receiptNumber accounts)) : Acct (Option Id)) s := by
    rw [postReceiptToGL, run_bind, run_get]
    simp only [haccounts]
  rw [hpost]
  cases hcreated : createJournal p.ctx.organizationId (some p.ctx.branchId) p.userId
      (journalDto s p receiptId receiptNumber accounts) s with
  | error e t =>
    obtain rfl := createJournal_atomic _ _ _ _ _ _ _ hcreated
    refine ⟨t, .inl rfl, .inl ?_⟩
    cases f with
    | applied => exact ⟨e, by simp only [fated, Functor.map, EStateM.map, hcreated]⟩
    | refused message => exact ⟨_, rfl⟩
    | unanswered message =>
      exact ⟨e, by simp only [fated, Functor.map, EStateM.map, run_bind, hcreated]⟩
  | ok journalId t =>
    obtain ⟨-, rfl, rfl⟩ := createJournal_ok hcreated
    cases f with
    | applied =>
      exact ⟨_, .inr rfl, .inr ⟨rfl, by simp only [fated, Functor.map, EStateM.map, hcreated]; rfl⟩⟩
    | refused message => exact ⟨s, .inl rfl, .inl ⟨_, rfl⟩⟩
    | unanswered message =>
      refine ⟨_, .inr rfl, .inl ⟨.error message, ?_⟩⟩
      simp only [fated, Functor.map, EStateM.map, run_bind, hcreated]
      rfl

theorem final_settleGL (fate : ReceiptWrite → Fate) (p : CreateReceipt) (receiptId : Id)
    (receiptNumber : String) (s : Books) :
    final (settleGL fate p receiptId receiptNumber s) =
      final ((postReceiptToGL (fate .createJournal) p receiptId receiptNumber >>= fun journalId =>
        fated .error (fate .markPosted) (modify (markPosted · receiptId journalId)) :
          Acct Unit) s) := rfl

/-- Without accounts the mark is all there is. -/
theorem settleGL_unmapped (hnone : glAccounts s p = none) (receiptId : Id)
    (receiptNumber : String) :
    final (settleGL fate p receiptId receiptNumber s) =
      if (fate .markPosted).written then markPosted s receiptId none else s := by
  rw [final_settleGL, run_bind, postReceiptToGL_unmapped hnone, ← Fate.write_eq]
  exact final_fated _

/-- With accounts a receipt is marked once its journal is there. -/
theorem OnBooks.settleGL (h : OnBooks s) {row : ArReceipt}
    (hrow : s.arReceipts.get? receiptId = some row) (hamount : row.amount = persist p.dto.amount)
    (haccounts : glAccounts s p = some accounts) (receiptNumber : String) :
    OnBooks (final (settleGL fate p receiptId receiptNumber s)) := by
  obtain ⟨t, ht, hpost⟩ :=
    postReceiptToGL_mapped haccounts (fate .createJournal) receiptId receiptNumber
  have hkept : OnBooks t := by
    rcases ht with rfl | rfl
    · exact h
    · exact h.insertEntry _
  rw [final_settleGL, run_bind]
  rcases hpost with ⟨e, herror⟩ | ⟨rfl, hok⟩
  · rw [herror]
    exact hkept
  · rw [hok]
    simp only [final_fated, final_modify, Fate.write_eq]
    split
    · obtain ⟨hbalanced, htotal⟩ := receiptEntry_totals s p receiptId receiptNumber accounts
      refine hkept.markPosted hrow ?_ rfl hbalanced (htotal.trans hamount.symm)
      exact Table.get?_insert_self _ _
    · exact hkept

-- ---
-- One call
-- ---

/-- A call keeps the posted receipts on the books exactly where it is mapped. -/
theorem perform_onBooks_iff (h : OnBooks s) (call : ReceiptCall) :
    OnBooks (call.perform s) ↔ call.mapped s = true := by
  cases call with
  | configure accounts =>
    refine iff_of_true (fun receiptId receipt hget hposted => ?_) rfl
    obtain ⟨entry, hentry⟩ := h receiptId receipt hget hposted
    exact ⟨entry, hentry.linked, hentry.posted, hentry.balanced, hentry.total⟩
  | createReceipt fate p =>
    simp only [ReceiptCall.perform]
    rcases createReceipt_stages fate p s with ⟨hnot, hfinal⟩ | ⟨hrecords, account, number, hfinal⟩
    · rw [hfinal]
      exact iff_of_true h (by simp [ReceiptCall.mapped, hnot])
    · have hrecorded := h.recordReceipt p account (findInvoices s p) number
      rw [hfinal]
      split
      · rename_i happlied
        have hrow : (recordReceipt s p account (findInvoices s p) number).arReceipts.get?
            s.arReceipts.next = some (arReceipt s p account number) :=
          Table.get?_insert_self _ _
        cases haccounts : glAccounts s p with
        | some accounts =>
          refine iff_of_true (hrecorded.settleGL hrow rfl haccounts number) ?_
          simp [ReceiptCall.mapped, haccounts]
        | none =>
          have hnone : glAccounts (recordReceipt s p account (findInvoices s p) number) p = none :=
            haccounts
          rw [settleGL_unmapped hnone]
          split
          · rename_i hwritten
            refine iff_of_false (not_onBooks_markPosted hrow) ?_
            simp [ReceiptCall.mapped, hrecords, happlied, hwritten, haccounts]
          · rename_i hwritten
            refine iff_of_true hrecorded ?_
            simp [ReceiptCall.mapped, hwritten]
      · rename_i happlied
        refine iff_of_true hrecorded ?_
        simp [ReceiptCall.mapped, happlied]

-- ---
-- Runs
-- ---

/-- The posted receipts are on the books all along a run exactly where every receipt that is
marked is mapped. -/
theorem run_onBooks_iff (hstart : OnBooks start) (calls : List ReceiptCall) :
    (∀ before later, calls = before ++ later → OnBooks (before.foldl ReceiptCall.perform start)) ↔
      Run ReceiptCall.perform (fun s call => call.mapped s = true) start calls
        (calls.foldl ReceiptCall.perform start) :=
  Run.all_iff hstart fun _ call h => perform_onBooks_iff h call

/-- A customer who owes 100.00, and two accounts, the second in a status. -/
def owing (status : AccountStatus) : Books :=
  { afterCalls [.createInvoice applied (invoicing 10000)] with
    accounts := (Table.empty.insert { orgId := 0, accountType := .asset }).insert
      { orgId := 0, accountType := .asset, status } }

/-- A receipt for the invoice, with the accounts it names. -/
def receiptFor (amount : Amount) (debitAccountId arAccountId : Option Id) : ReceiptCall :=
  .createReceipt applied
    { ctx := ⟨0, 0⟩, userId := 0
      dto :=
        { customerAccountId := 0, amount, allocations := [⟨0, amount⟩]
          debitAccountId, arAccountId } }

theorem owing_onBooks (status : AccountStatus) : OnBooks (owing status) := by
  rintro receiptId receipt ⟨⟩

/-- The invoice is paid in two parts, each on the books. -/
theorem run_onBooks_iff_parts :
    let calls := [receiptFor 6000 (some 0) (some 1), receiptFor 4000 (some 0) (some 1)]
    (calls.foldl ReceiptCall.perform (owing .active)).journalEntries.next = 2 ∧
      ∀ before later, calls = before ++ later →
        OnBooks (before.foldl ReceiptCall.perform (owing .active)) := by
  intro calls
  have hrun : Run ReceiptCall.perform (fun s call => call.mapped s = true) (owing .active) calls
      (calls.foldl ReceiptCall.perform (owing .active)) := Run.of_holds (by decide +kernel)
  exact ⟨by decide +kernel, (run_onBooks_iff (owing_onBooks _) calls).mpr hrun⟩

/-- No accounts are named, one is missing, or one is inactive. -/
def unmapped : List (Books × ReceiptCall) :=
  [(owing .active, receiptFor 10000 none none), (owing .active, receiptFor 10000 (some 0) (some 7)),
    (owing .inactive, receiptFor 10000 (some 0) (some 1))]

/-- Receipts that are posted off the books. -/
theorem posted_off_books :
    (¬∀ (start : Books) (calls : List ReceiptCall), OnBooks start →
        OnBooks (calls.foldl ReceiptCall.perform start)) ∧
      ∀ run ∈ unmapped, ((run.2.perform run.1).arReceipts.get? 0).map
        (fun receipt => (receipt.status, receipt.journalEntryId)) = some (.posted, none) := by
  have hposted : ∀ run ∈ unmapped, ((run.2.perform run.1).arReceipts.get? 0).map
      (fun receipt => (receipt.status, receipt.journalEntryId)) = some (.posted, none) := by
    decide +kernel
  refine ⟨fun h => ?_, hposted⟩
  obtain ⟨receipt, hget, hstatus⟩ := Option.map_eq_some_iff.mp (hposted _ (.head _))
  simp only [Prod.mk.injEq] at hstatus
  obtain ⟨entry, hentry⟩ := h (owing .active) [receiptFor 10000 none none] (owing_onBooks _) 0
    receipt hget hstatus.1
  obtain ⟨journalId, hlink, -⟩ := hentry.linked
  cases hstatus.2.symm.trans hlink

end NimbusPos.AccountsReceivableService
