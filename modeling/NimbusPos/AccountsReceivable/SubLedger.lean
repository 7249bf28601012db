import NimbusPos.AccountsReceivable.Service
import NimbusPos.Lib.Run

/-!
# The customer sub-ledger

What a customer owes is stored as allocations, as what each invoice leaves open and
as the balance of the account. The three agree after any calls, failed ones
included, in which every invoice inserted reaches the balance and every receipt
written names its invoices once, in whole cents.
-/

namespace NimbusPos.AccountsReceivableService

open Lib Lib.Service

-- ---
-- The invariant
-- ---

/-- Nothing is overpaid, and the status says what is paid in full. -/
structure InvoiceStands (invoice : Invoice) : Prop where
  nonneg : 0 ≤ invoice.outstandingBalance
  paid : invoice.status = .paid ↔ invoice.outstandingBalance = 0

/-- Every invoice leaves open what is not allocated to it, and every account sums up
its invoices. -/
structure ReceivablesAgree (s : Books) : Prop where
  balanced : invoices.Balanced InvoiceStands (s.invoices, s.receiptAllocations)
  openBalance : ∀ accountId account, s.customerAccounts.get? accountId = some account →
    account.openBalance = invoices.openOf s.invoices accountId

/-- Every allocation names an invoice there is: the foreign key. -/
def AllocationsReferenced (s : Books) : Prop :=
  invoices.Referenced (s.invoices, s.receiptAllocations)

/-- Receiving a payment in part or in full. -/
theorem invoiceStands_settle (invoice : Invoice) (m : Cents) (_ : InvoiceStands invoice) (_ : 0 < m)
    (hle : m ≤ invoices.outstanding invoice) :
    InvoiceStands
      (invoices.settle (invoices.outstanding invoice - m) (invoices.outstanding invoice - m ≤ 0)
        invoice) := by
  simp only [invoices] at hle ⊢
  constructor
  · simp only
    linarith
  · by_cases hzero : invoice.outstandingBalance - m ≤ 0
    · simp only [hzero, decide_true, if_true, true_iff]
      linarith
    · simp only [hzero, decide_false, Bool.false_eq_true, if_false, reduceCtorEq, false_iff]
      exact fun heq => hzero (le_of_eq heq)

theorem records_allocation (orgId receiptId : Id) :
    DocumentKind.Records invoices (allocation orgId receiptId) :=
  ⟨fun _ => rfl, fun _ => rfl⟩

theorem ReceivablesAgree.openBalance_nonneg (h : ReceivablesAgree s)
    (haccount : s.customerAccounts.get? accountId = some account) : 0 ≤ account.openBalance := by
  rw [h.openBalance accountId account haccount, DocumentKind.openOf, Table.sumWhere_eq_total]
  apply Table.total_nonneg
  intro k invoice hinvoice
  split
  · exact (h.balanced k invoice hinvoice).2.nonneg
  · exact Int.le_refl 0

-- ---
-- An invoice
-- ---

/-- The call passes its checks and its invoice is written. -/
def insertsInvoice (s : Books) (fate : InvoiceWrite → Fate) (p : CreateInvoice) : Bool :=
  (findAccount s p.ctx p.dto.customerAccountId).any (·.status == .active) && !p.dto.lines.isEmpty &&
    !invoiceNumberTaken s p.ctx.organizationId (nextInvoiceNumber s p.ctx.organizationId) &&
      (fate .create).written

/-- A call writes nothing, or an invoice of an account there is. -/
theorem createInvoice_cases (fate : InvoiceWrite → Fate) (p : CreateInvoice) (s : Books) :
    final (createInvoice fate p s) = s ∨
      insertsInvoice s fate p = true ∧ ∃ account,
        (fate .create = .applied → (fate .updateAccount).written = true →
          final (createInvoice fate p s) =
          addBalance (insertInvoice s (invoiceRow s p account)) p.dto.customerAccountId
            p.dto.totalAmount) := by
  unfold createInvoice
  rw [final_get]
  cases haccount : (findAccount s p.ctx p.dto.customerAccountId).filter (·.status == .active) with
  | none => exact .inl rfl
  | some account =>
    obtain ⟨hfound, hactive⟩ := Option.filter_eq_some_iff.mp haccount
    simp only [final_need_some, final_ensure, final_fated_modify]
    split
    · split
      · rename_i hlines htaken
        have hinserts : insertsInvoice s fate p = (fate .create).written := by
          rw [insertsInvoice, hfound, Option.any_some, hactive, hlines]
          simp only [invoiceRow] at htaken
          rw [htaken]
          rfl
        rw [hinserts]
        cases hcreate : fate .create with
        | refused message => exact .inl rfl
        | unanswered message =>
          exact .inr ⟨rfl, account, fun happlied => by cases happlied⟩
        | applied =>
          refine .inr ⟨rfl, account, fun _ hwritten => ?_⟩
          cases hupdate : fate .updateAccount with
          | refused message =>
            rw [hupdate] at hwritten
            cases hwritten
          | applied | unanswered message => rfl
      · exact .inl rfl
    · exact .inl rfl

theorem createInvoice_agrees {account : CustomerAccount} (h : ReceivablesAgree s)
    (href : AllocationsReferenced s) (hpos : 0 < persist p.dto.totalAmount) :
    ReceivablesAgree (addBalance (insertInvoice s (invoiceRow s p account))
      p.dto.customerAccountId p.dto.totalAmount) := by
  constructor
  · intro k invoice hinvoice
    simp only [addBalance, insertInvoice, Table.get?_insert] at hinvoice ⊢
    split at hinvoice
    · rename_i hk
      cases hinvoice
      have hnone : invoices.allocated s.receiptAllocations k = 0 :=
        hk ▸ DocumentKind.allocated_next href
      rw [hnone]
      refine ⟨(Int.sub_zero _).symm, Int.le_of_lt hpos, ?_⟩
      simp only [invoiceRow, reduceCtorEq, false_iff]
      exact ne_of_gt hpos
    · exact h.balanced k invoice hinvoice
  · intro accountId row hrow
    simp only [addBalance, insertInvoice, Table.get?_update] at hrow ⊢
    have hopen : invoices.openOf (s.invoices.insert (invoiceRow s p account)) accountId =
        invoices.openOf s.invoices accountId +
          if p.dto.customerAccountId = accountId then persist p.dto.totalAmount else 0 := by
      simp only [DocumentKind.openOf, Table.sumWhere_eq_total, Table.total_insert, invoices,
        invoiceRow, beq_iff_eq]
    rw [hopen]
    split at hrow
    · rename_i hid
      subst hid
      obtain ⟨old, hold, rfl⟩ := Option.map_eq_some_iff.mp hrow
      rw [if_pos rfl, ← h.openBalance _ _ hold]
      exact persist_add (h.openBalance_nonneg hold) (le_of_lt (pos_of_persist hpos))
    · rename_i hid
      rw [if_neg (Ne.symm hid), Int.add_zero]
      exact h.openBalance accountId row hrow

theorem insertInvoice_referenced (h : AllocationsReferenced s) :
    AllocationsReferenced (addBalance (insertInvoice s invoice) accountId amount) := by
  intro k a ha
  obtain ⟨d, hd⟩ := h k a ha
  exact ⟨d, Table.get?_insert_of_some hd⟩

-- ---
-- A receipt
-- ---

/-- The call passes its checks and its transaction is written. -/
def recordsReceipt (s : Books) (fate : ReceiptWrite → Fate) (p : CreateReceipt) : Bool :=
  (findAccount s p.ctx p.dto.customerAccountId).isSome && (requestError p).isNone &&
    (invoicesError (findInvoices s p) p).isNone &&
    !receiptNumberTaken s p.ctx.organizationId (nextReceiptNumber s p.ctx.organizationId) &&
      (fate .transaction).written

/-- Every invoice is named once and gets whole cents. -/
def allocatesOnce (allocations : List AllocationDto) : Prop :=
  (allocations.map (·.documentId)).Nodup ∧ ∀ alloc ∈ allocations, alloc.amount.den = 1

instance : Decidable (allocatesOnce allocations) := inferInstanceAs (Decidable (_ ∧ ∀ _ ∈ _, _ = _))

/-- What a receipt and its invoices read. -/
def receivables (s : Books) : Table Invoice × Table ReceiptAllocation × Table CustomerAccount :=
  (s.invoices, s.receiptAllocations, s.customerAccounts)

theorem ReceivablesAgree.congr (h : ReceivablesAgree s) (hsame : receivables t = receivables s) :
    ReceivablesAgree t := by
  simp only [receivables, Prod.mk.injEq] at hsame
  obtain ⟨hinvoices, hallocations, haccounts⟩ := hsame
  constructor
  · rw [hinvoices, hallocations]
    exact h.balanced
  · rw [hinvoices, haccounts]
    exact h.openBalance

theorem AllocationsReferenced.congr (h : AllocationsReferenced s)
    (hsame : receivables t = receivables s) :
    AllocationsReferenced t := by
  simp only [receivables, Prod.mk.injEq] at hsame
  rw [AllocationsReferenced, hsame.1, hsame.2.1]
  exact h

/-- Posting to the ledger touches journals and receipts alone. -/
theorem settleGL_keeps (fate : ReceiptWrite → Fate) (p : CreateReceipt) (receiptId : Id)
    (receiptNumber : String) :
    Keeps (Frame.same receivables) (settleGL fate p receiptId receiptNumber) := by
  have hjournal (dto : LedgerService.CreateJournalDto) : Keeps (Frame.same receivables)
      (LedgerService.createJournal p.ctx.organizationId (some p.ctx.branchId) p.userId dto) := by
    refine (LedgerService.createJournal_atomic _ _ _ _).keeps ?_
    intro s journalId t hok
    obtain ⟨_, _, rfl⟩ := LedgerService.createJournal_ok hok
    rfl
  refine Keeps.attempt (Keeps.bind ?_ fun journalId => (Keeps.modify fun s => rfl).fated _)
  refine Reads.get.keeps.bind fun s => ?_
  split
  · exact (Reads.pure _).keeps
  · exact ((hjournal _).fated _).map

/-- A call that is not recorded changes nothing; one that is posts its receipt, where its
transaction was answered. -/
theorem createReceipt_stages (fate : ReceiptWrite → Fate) (p : CreateReceipt) (s : Books) :
    recordsReceipt s fate p = false ∧ final (createReceipt fate p s) = s ∨
      recordsReceipt s fate p = true ∧ ∃ account receiptNumber,
        final (createReceipt fate p s) =
          if fate .transaction = .applied then
            final (settleGL fate p s.arReceipts.next receiptNumber
              (recordReceipt s p account (findInvoices s p) receiptNumber))
          else recordReceipt s p account (findInvoices s p) receiptNumber := by
  unfold createReceipt
  rw [final_get]
  cases haccount : findAccount s p.ctx p.dto.customerAccountId with
  | none => exact .inl ⟨by simp [recordsReceipt, haccount], rfl⟩
  | some account =>
    rw [final_need_some]
    cases hrequest : requestError p with
    | some e => exact .inl ⟨by simp [recordsReceipt, hrequest], rfl⟩
    | none =>
      rw [final_reject_none]
      cases hinvoices : invoicesError (findInvoices s p) p with
      | some e => exact .inl ⟨by simp [recordsReceipt, hinvoices], rfl⟩
      | none =>
        simp only [final_reject_none, final_ensure]
        split
        · rename_i htaken
          have hrecords : recordsReceipt s fate p = (fate .transaction).written := by
            rw [recordsReceipt, haccount, hrequest, hinvoices, htaken]
            rfl
          rw [final_fated_modify, hrecords]
          cases htransaction : fate .transaction with
          | refused message => exact .inl ⟨rfl, rfl⟩
          | unanswered message => exact .inr ⟨rfl, account, _, rfl⟩
          | applied =>
            refine .inr ⟨rfl, account, nextReceiptNumber s p.ctx.organizationId, ?_⟩
            rw [final_bind_pure, if_pos rfl]
        · rename_i htaken
          exact .inl ⟨by simp [recordsReceipt, haccount, hrequest, hinvoices, htaken], rfl⟩

/-- A call writes nothing but journals and receipts, or what its receipt allocates. -/
theorem createReceipt_cases (fate : ReceiptWrite → Fate) (p : CreateReceipt) (s : Books) :
    receivables (final (createReceipt fate p s)) = receivables s ∨
      recordsReceipt s fate p = true ∧ ∃ account receiptNumber,
        receivables (final (createReceipt fate p s)) =
          receivables (recordReceipt s p account (findInvoices s p) receiptNumber) := by
  rcases createReceipt_stages fate p s with ⟨-, hsame⟩ | ⟨hrecords, account, receiptNumber, hfinal⟩
  · exact .inl (congrArg receivables hsame)
  · refine .inr ⟨hrecords, account, receiptNumber, ?_⟩
    rw [hfinal]
    split
    · exact settleGL_keeps _ _ _ _ _
    · rfl

theorem recordReceipt_covered (h : recordsReceipt s fate p = true) :
    (∀ alloc ∈ p.dto.allocations,
      invoices.Covered (findInvoices s p) p.dto.customerAccountId alloc) ∧
      (p.dto.allocations.map (·.amount)).sum = p.dto.amount := by
  simp only [recordsReceipt, Bool.and_eq_true, Option.isNone_iff_eq_none] at h
  obtain ⟨⟨⟨⟨_, hrequest⟩, hinvoices⟩, _⟩, _⟩ := h
  exact ⟨DocumentKind.covered_of_errors hrequest hinvoices,
    (DocumentKind.sum_of_requestError hrequest).2⟩

theorem recordReceipt_agrees (h : ReceivablesAgree s) (hrecords : recordsReceipt s fate p = true)
    (honce : allocatesOnce p.dto.allocations) :
    ReceivablesAgree (recordReceipt s p account (findInvoices s p) receiptNumber) := by
  obtain ⟨hcovered, hsum⟩ := recordReceipt_covered hrecords
  have hfound : DocumentKind.Found s.invoices (findInvoices s p) p.dto.allocations :=
    DocumentKind.found_findDocuments
  constructor
  · exact DocumentKind.allocateAll_balanced (records_allocation _ _) invoiceStands_settle h.balanced
      (hfound.unchanged honce.2 honce.1) hcovered
  · intro accountId row hrow
    simp only [recordReceipt, addBalance, Table.get?_update] at hrow
    have hopen : invoices.openOf
        (recordReceipt s p account (findInvoices s p) receiptNumber).invoices accountId = _ :=
      DocumentKind.allocateAll_openOf honce.1 honce.2 hfound hcovered accountId
    refine Eq.trans ?_ hopen.symm
    split at hrow
    · rename_i hid
      subst hid
      obtain ⟨old, hold, rfl⟩ := Option.map_eq_some_iff.mp hrow
      have hbalance : (old.openBalance : ℚ) + -p.dto.amount =
          ((old.openBalance - DocumentKind.cents p.dto.allocations : Int) : ℚ) := by
        rw [← hsum, DocumentKind.sum_cents honce.2]
        push_cast
        ring
      rw [if_pos rfl, ← h.openBalance _ _ hold]
      simp only
      rw [hbalance, persist_intCast]
    · rename_i hid
      rw [if_neg (Ne.symm hid), Int.sub_zero]
      exact h.openBalance accountId row hrow

theorem recordReceipt_referenced (h : AllocationsReferenced s) :
    AllocationsReferenced (recordReceipt s p account (findInvoices s p) receiptNumber) :=
  DocumentKind.allocateAll_referenced (records_allocation _ _) h fun alloc halloc d hd =>
    ⟨d, DocumentKind.found_findDocuments alloc halloc d hd⟩

-- ---
-- Sequences of calls
-- ---

inductive ArCall
  | createInvoice (fate : InvoiceWrite → Fate) (p : CreateInvoice)
  | createReceipt (fate : ReceiptWrite → Fate) (p : CreateReceipt)

namespace ArCall

def perform (s : Books) : ArCall → Books
  | .createInvoice fate p => final (AccountsReceivableService.createInvoice fate p s)
  | .createReceipt fate p => final (AccountsReceivableService.createReceipt fate p s)

/-- An invoice that is written owes something and reaches the balance, and a receipt
that is written names its invoices once, in whole cents. -/
def inStep (s : Books) : ArCall → Prop
  | .createInvoice fate p => insertsInvoice s fate p = true →
    fate .create = .applied ∧ (fate .updateAccount).written = true ∧ 0 < persist p.dto.totalAmount
  | .createReceipt fate p => recordsReceipt s fate p = true → allocatesOnce p.dto.allocations

instance : (call : ArCall) → Decidable (call.inStep s)
  | .createInvoice _ _ => inferInstanceAs (Decidable (_ → _ ∧ _ ∧ _))
  | .createReceipt _ _ => inferInstanceAs (Decidable (_ → _))

theorem perform_agrees {call : ArCall} (h : ReceivablesAgree s ∧ AllocationsReferenced s)
    (hok : call.inStep s) :
    ReceivablesAgree (call.perform s) ∧ AllocationsReferenced (call.perform s) := by
  cases call with
  | createInvoice fate p =>
    simp only [perform]
    rcases createInvoice_cases fate p s with hsame | ⟨hinserts, account, hfinal⟩
    · rw [hsame]
      exact h
    · obtain ⟨happlied, hwritten, hpos⟩ := hok hinserts
      rw [hfinal happlied hwritten]
      exact ⟨createInvoice_agrees h.1 h.2 hpos, insertInvoice_referenced h.2⟩
  | createReceipt fate p =>
    simp only [perform]
    rcases createReceipt_cases fate p s with hsame | ⟨hrecords, account, receiptNumber, hfinal⟩
    · exact ⟨h.1.congr hsame, h.2.congr hsame⟩
    · exact ⟨(recordReceipt_agrees h.1 hrecords (hok hrecords)).congr hfinal,
        (recordReceipt_referenced h.2).congr hfinal⟩

end ArCall

/-- After any calls in step, invoices, allocations and accounts agree. -/
theorem run_receivablesAgree (h0 : ReceivablesAgree start) (href : AllocationsReferenced start)
    (h : Run ArCall.perform ArCall.inStep start calls s) : ReceivablesAgree s :=
  (h.invariant (I := fun s => ReceivablesAgree s ∧ AllocationsReferenced s) ⟨h0, href⟩ fun _ _ =>
    ArCall.perform_agrees).1

-- ---
-- Concrete calls
-- ---

/-- A customer who owes nothing. -/
def customer : Books where
  customerAccounts := Table.empty.insert { orgId := 0, branchId := none }

/-- An invoice over one line. -/
def invoicing (unitPrice : Amount) : CreateInvoice where
  ctx := ⟨0, 0⟩
  userId := 0
  dto := { customerAccountId := 0, lines := [⟨1, unitPrice, 0⟩] }

/-- A receipt of the amounts for the first invoice. -/
def receiving (amounts : List Amount) : CreateReceipt where
  ctx := ⟨0, 0⟩
  userId := 0
  dto :=
    { customerAccountId := 0, amount := amounts.sum
      allocations := amounts.map fun amount => ⟨0, amount⟩ }

def applied {ω : Type} : ω → Fate := fun _ => .applied

theorem customer_agrees : ReceivablesAgree customer := by
  constructor
  · intro k invoice hinvoice
    cases hinvoice
  · intro accountId account haccount
    simp only [customer, Table.get?_insert, Table.get?_empty] at haccount
    split at haccount
    · cases haccount
      rfl
    · cases haccount

theorem customer_referenced : AllocationsReferenced customer := by
  intro k allocation hallocation
  cases hallocation

/-- An invoice over 100.00, paid in two parts. -/
theorem run_receivablesAgree_twice :
    let calls := [ArCall.createInvoice applied (invoicing 10000),
      .createReceipt applied (receiving [6000]), .createReceipt applied (receiving [4000])]
    let s := calls.foldl ArCall.perform customer
    Run ArCall.perform ArCall.inStep customer calls s ∧ ReceivablesAgree s := by
  intro calls s
  have hrun : Run ArCall.perform ArCall.inStep customer calls s := Run.of_holds (by decide +kernel)
  exact ⟨hrun, run_receivablesAgree customer_agrees customer_referenced hrun⟩

/-- The invoice is created and its balance update refused. -/
def balanceRefused : InvoiceWrite → Fate
  | .create => .applied
  | .updateAccount => .refused ""

def afterCalls (calls : List ArCall) : Books := calls.foldl ArCall.perform customer

/-- A receipt that names an invoice twice, one of a fraction of a cent, an invoice
that misses the balance, and one over nothing. -/
theorem receivables_disagree :
    ¬(∀ amounts, ReceivablesAgree
      (afterCalls [.createInvoice applied (invoicing 10000),
        .createReceipt applied (receiving amounts)])) ∧
    ¬(∀ amount, ReceivablesAgree
      (afterCalls [.createInvoice applied (invoicing 10000),
        .createReceipt applied (receiving [amount])])) ∧
    ¬(∀ fate, ReceivablesAgree (afterCalls [.createInvoice fate (invoicing 10000)])) ∧
    ¬(∀ unitPrice, ReceivablesAgree
      (afterCalls [.createInvoice applied (invoicing unitPrice)])) := by
  have hopen {s : Books} (outstanding total : Cents) (h : ReceivablesAgree s)
      (hinvoice : (s.invoices.get? 0).map
        (fun invoice => (invoice.outstandingBalance, invoice.totalAmount)) =
        some (outstanding, total)) :
      outstanding = total - invoices.allocated s.receiptAllocations 0 := by
    obtain ⟨invoice, hget, heq⟩ := Option.map_eq_some_iff.mp hinvoice
    cases heq
    exact (h.balanced 0 invoice hget).1
  refine ⟨?_, ?_, ?_, ?_⟩
  · intro h
    exact absurd (hopen 4000 10000 (h [6000, 6000]) (by decide +kernel)) (by decide +kernel)
  · intro h
    exact absurd (hopen 10000 10000 (h (1 / 2)) (by decide +kernel)) (by decide +kernel)
  · intro h
    have hmissed := (h balanceRefused).openBalance 0 ⟨0, none, .active, "USD", 0⟩
        (by decide +kernel)
    exact absurd hmissed (by decide +kernel)
  · intro h
    have hgood := (h 0).balanced 0 (invoiceRow customer (invoicing 0) ⟨0, none, .active, "USD", 0⟩)
        (by decide +kernel)
    exact absurd (hgood.2.paid.mpr (by decide +kernel)) (by decide +kernel)

end NimbusPos.AccountsReceivableService
