import NimbusPos.Ledger.ClosedPeriods

/-!
# Double entry

A journal stores its totals beside its lines, and each column rounds for itself, while
the ledger compares exact amounts. A manual journal is stored balanced because the
pattern of its request leaves no fraction of a cent, a payment or a receipt because it
posts one amount twice, and a reversal because it turns a stored journal round.
-/

namespace NimbusPos

open Lib Lib.Service
open LedgerService

-- ---
-- A manual journal as it is requested
-- ---

namespace LedgerController

/-- `/^\d+(\.\d{1,2})?$/`. -/
def matchesAmount (text : List Char) : Bool :=
  !(text.takeWhile Char.isDigit).isEmpty &&
    match text.dropWhile Char.isDigit with
    | [] => true
    | '.' :: fraction =>
      fraction.all Char.isDigit && (fraction.length == 1 || fraction.length == 2)
    | _ => false

/-- `new Prisma.Decimal(_)` of digits with or without a point, in cents. -/
def decimal (text : List Char) : Amount :=
  let fraction := (text.dropWhile Char.isDigit).drop 1
  (parseDigits (text.takeWhile Char.isDigit) +
    (parseDigits fraction : ℚ) / 10 ^ fraction.length) * 100

structure CreateJournalLineDto where
  accountId : Id
  costCenterId : Option Id := none
  direction : JournalLineDirection
  amount : String
  description : Option String := none
  deriving DecidableEq, Repr

structure CreateJournalEntryDto where
  journalDate : Time
  sourceKey : Option String := none
  sourceDocumentId : Option String := none
  reference : Option String := none
  description : Option String := none
  fiscalPeriodId : Option Id := none
  lines : List CreateJournalLineDto
  deriving DecidableEq, Repr

def CreateJournalEntryDto.valid (dto : CreateJournalEntryDto) : Bool :=
  2 ≤ dto.lines.length && dto.lines.all (matchesAmount ·.amount.toList)

def CreateJournalLineDto.line (line : CreateJournalLineDto) :
    LedgerService.CreateJournalLineDto where
  accountId := line.accountId
  costCenterId := line.costCenterId
  direction := line.direction
  amount := decimal line.amount.toList
  description := line.description

def CreateJournalEntryDto.journal (dto : CreateJournalEntryDto) : CreateJournalDto where
  journalDate := dto.journalDate
  sourceKey := dto.sourceKey
  sourceDocumentId := dto.sourceDocumentId
  reference := dto.reference
  description := dto.description
  fiscalPeriodId := dto.fiscalPeriodId
  lines := dto.lines.map (·.line)

/-- The validation pipe stands before the handler. -/
def createJournal (ctx : BranchContext) (userId : Id) (dto : CreateJournalEntryDto) : Acct Id := do
  ensure dto.valid (bad "Bad Request Exception")
  LedgerService.createJournal ctx.organizationId (some ctx.branchId) userId dto.journal

/-- What the pattern lets through is a number of cents. -/
theorem decimal_whole (h : matchesAmount text = true) : ∃ m : Nat, decimal text = m := by
  simp only [matchesAmount, Bool.and_eq_true] at h
  obtain ⟨-, hrest⟩ := h
  unfold decimal
  generalize text.dropWhile Char.isDigit = rest at hrest
  generalize parseDigits (text.takeWhile Char.isDigit) = whole
  split at hrest
  · exact ⟨whole * 100, by simp [parseDigits]⟩
  · rename_i fraction
    simp only [Bool.and_eq_true, Bool.or_eq_true, beq_iff_eq] at hrest
    simp only [List.drop_one, List.tail_cons]
    rcases hrest.2 with hlength | hlength
    · refine ⟨whole * 100 + parseDigits fraction * 10, ?_⟩
      rw [hlength]
      push_cast
      ring
    · refine ⟨whole * 100 + parseDigits fraction, ?_⟩
      rw [hlength]
      push_cast
      ring
  · cases hrest

end LedgerController

-- ---
-- Balanced journals
-- ---

def JournalEntry.sum (entry : JournalEntry) (direction : JournalLineDirection) : Cents :=
  ((entry.lines.filter (·.direction == direction)).map (·.amount)).sum

/-- The stored lines sum to the stored totals, and these are equal. -/
structure JournalEntry.Balanced (entry : JournalEntry) : Prop where
  debit : entry.sum .debit = entry.totalDebit
  credit : entry.sum .credit = entry.totalCredit
  totals : entry.totalDebit = entry.totalCredit

def DoubleEntry (s : Books) : Prop :=
  ∀ k entry, s.journalEntries.get? k = some entry → entry.Balanced

variable {s t : Books}

theorem persist_sum {amounts : List Amount} (h : ∀ amount ∈ amounts, ∃ m : Nat, amount = m) :
    ∃ m : Int, amounts.sum = m ∧ (amounts.map persist).sum = m := by
  induction amounts with
  | nil => exact ⟨0, by simp⟩
  | cons amount amounts ih =>
    obtain ⟨m, hm⟩ := h amount (.head _)
    obtain ⟨n, hsum, hstored⟩ := ih fun other hmem => h other (.tail _ hmem)
    refine ⟨m + n, ?_, ?_⟩
    · rw [List.sum_cons, hm, hsum]
      push_cast
      rfl
    · have hamount : persist amount = m := by
        rw [hm]
        exact persist_intCast m
      rw [List.map_cons, List.sum_cons, hamount, hstored]

theorem entry_sum (dto : CreateJournalDto) (s : Books) (orgId : Id) (branchId : Option Id)
    (userId : Id) (direction : JournalLineDirection) :
    (dto.entry s orgId branchId userId).sum direction =
      ((dto.lines.filter (·.direction == direction)).map (persist ·.amount)).sum := by
  simp [JournalEntry.sum, CreateJournalDto.entry, List.filter_map, Function.comp_def]

/-- A journal of whole cents stores what it was checked for. -/
theorem entry_sum_whole {dto : CreateJournalDto}
    (hwhole : ∀ line ∈ dto.lines, ∃ m : Nat, line.amount = m) :
    (dto.entry s orgId branchId userId).sum direction = persist (dto.total direction) := by
  let lines := dto.lines.filter (·.direction == direction)
  have hamounts (amount : Amount) (hmem : amount ∈ lines.map (·.amount)) :
      ∃ m : Nat, amount = m := by
    obtain ⟨line, hline, rfl⟩ := List.mem_map.mp hmem
    exact hwhole line (List.mem_of_mem_filter hline)
  obtain ⟨m, hsum, hstored⟩ := persist_sum hamounts
  rw [List.map_map] at hstored
  rw [entry_sum, CreateJournalDto.total, hsum, persist_intCast]
  exact hstored

theorem createJournal_totals (h : createJournal orgId branchId userId dto s = .ok journalId t) :
    dto.total .debit = dto.total .credit := by
  simp only [createJournal, bind_ok, ensure_ok, beq_iff_eq] at h
  obtain ⟨_, _, -, _, _, ⟨htotals, -⟩, -⟩ := h
  exact htotals

theorem reversal_sum (s : Books) (orgId userId : Id) (reason : Option String) (originalId : Id)
    (original : JournalEntry) (direction : JournalLineDirection) :
    (reversal s orgId userId reason originalId original).sum direction =
      original.sum direction.opposite := by
  have hturned (line : JournalLine) :
      (line.direction.opposite == direction) = (line.direction == direction.opposite) := by
    cases line.direction <;> cases direction <;> rfl
  simp [JournalEntry.sum, reversal, reversalLine, List.filter_map, Function.comp_def, hturned]

theorem reversal_balanced (h : JournalEntry.Balanced original) :
    (reversal s orgId userId reason originalId original).Balanced where
  debit := (reversal_sum ..).trans h.credit
  credit := (reversal_sum ..).trans h.debit
  totals := h.totals.symm

theorem postingEntry_balanced (s : Books) (p : ReplayPosting) (accounts : Id × Id)
    (journalNumber : String) : (postingEntry s p accounts journalNumber).Balanced :=
  ⟨rfl, rfl, rfl⟩

-- ---
-- One call
-- ---

namespace DoubleEntry

theorem congr (h : DoubleEntry s) (hsame : t.journalEntries = s.journalEntries) :
    DoubleEntry t := by
  intro k entry hget
  exact h k entry (hsame ▸ hget)

theorem insertEntry (h : DoubleEntry s) (hentry : entry.Balanced) :
    DoubleEntry (insertEntry s entry) := by
  intro k row hget
  rw [LedgerService.insertEntry, Table.get?_insert] at hget
  split at hget
  · cases hget
    exact hentry
  · exact h k row hget

/-- The original's lines and totals stay under the mark. -/
theorem reverseEntry (h : DoubleEntry s) (hentry : entry.Balanced) :
    DoubleEntry (reverseEntry s originalId entry) := by
  intro k row hget
  simp only [LedgerService.reverseEntry, Table.get?_update] at hget
  split at hget
  · obtain ⟨original, horiginal, rfl⟩ := Option.map_eq_some_iff.mp hget
    have hbalanced := h.insertEntry hentry _ original horiginal
    exact ⟨hbalanced.debit, hbalanced.credit, hbalanced.totals⟩
  · exact h.insertEntry hentry k row hget

/-- A journal whose stored lines sum to the stored totals. -/
theorem createJournal (h : DoubleEntry s)
    (hok : LedgerService.createJournal orgId branchId userId dto s = .ok journalId t)
    (hsums : ∀ direction, (dto.entry s orgId branchId userId).sum direction =
      persist (dto.total direction)) : DoubleEntry t := by
  have htotals := createJournal_totals hok
  obtain ⟨-, -, rfl⟩ := createJournal_ok hok
  exact h.insertEntry ⟨hsums .debit, hsums .credit, congrArg persist htotals⟩

end DoubleEntry

/-- The writers of journals, and the close of a period, which posts none. -/
inductive LedgerCall
  | createJournal (ctx : BranchContext) (userId : Id) (dto : LedgerController.CreateJournalEntryDto)
  | reverseJournal (orgId journalId userId : Id) (reason : Option String)
  | replayPosting (p : ReplayPosting)
  | createApPayment (p : AccountsPayableService.CreateApPayment)
  | createReceipt (fate : AccountsReceivableService.ReceiptWrite → Fate)
      (p : AccountsReceivableService.CreateReceipt)
  | closeFiscalPeriod (userId orgId periodId : Id) (notes : Option String)

def LedgerCall.perform (s : Books) : LedgerCall → Books
  | .createJournal ctx userId dto => final (LedgerController.createJournal ctx userId dto s)
  | .reverseJournal orgId journalId userId reason =>
    final (LedgerService.reverseJournal orgId journalId userId reason s)
  | .replayPosting p => (LedgerService.replayPosting s p).1
  | .createApPayment p => final (AccountsPayableService.createApPayment p s)
  | .createReceipt fate p => final (AccountsReceivableService.createReceipt fate p s)
  | .closeFiscalPeriod userId orgId periodId notes =>
    final (BankRecService.closeFiscalPeriod userId orgId periodId notes s)

/-- A call made at a time. -/
def recordAt (s : Books) (call : Time × LedgerCall) : Books :=
  call.2.perform { s with clock := call.1 }

theorem createJournal_doubleEntry (ctx : BranchContext) (userId : Id)
    (dto : LedgerController.CreateJournalEntryDto) :
    Keeps (.preserves DoubleEntry) (LedgerController.createJournal ctx userId dto) := by
  refine ((Reads.ensure _ _).then fun _ => createJournal_atomic _ _ _ _).keeps ?_
  intro s journalId t hok h
  simp only [bind_ok, ensure_ok] at hok
  obtain ⟨_, _, ⟨hvalid, rfl⟩, hcreated⟩ := hok
  refine h.createJournal hcreated fun direction => entry_sum_whole ?_
  intro line hline
  obtain ⟨request, hrequest, rfl⟩ := List.mem_map.mp hline
  simp only [LedgerController.CreateJournalEntryDto.valid, Bool.and_eq_true, List.all_eq_true]
    at hvalid
  exact LedgerController.decimal_whole (hvalid.2 request hrequest)

theorem replayPosting_doubleEntry (h : DoubleEntry s) (p : ReplayPosting) :
    DoubleEntry (replayPosting s p).1 := by
  unfold replayPosting
  cases findSucceededRun s p with
  | some row => exact h
  | none =>
    simp only
    cases findSourceMap (createRun s p) p with
    | none => exact h.congr rfl
    | some accounts =>
      have hcreated : DoubleEntry (createRun s p) := h.congr rfl
      simp only
      split
      · exact hcreated.congr rfl
      · exact (hcreated.insertEntry (postingEntry_balanced _ p accounts _)).congr rfl

/-- A payment debits and credits the one amount. -/
theorem createApPayment_doubleEntry (p : AccountsPayableService.CreateApPayment) :
    Keeps (.preserves DoubleEntry) (AccountsPayableService.createApPayment p) := by
  refine AccountsPayableService.createApPayment_keeps p (fun _ _ _ _ h => h.congr rfl)
    (fun _ _ _ h => h.congr rfl) ?_
  intro paymentId paymentNumber accounts s journalId t _ hcreated h
  refine h.createJournal hcreated fun direction => ?_
  cases direction <;>
    simp [entry_sum, CreateJournalDto.total, AccountsPayableService.journalDto]

/-- And so does a receipt. -/
theorem createReceipt_doubleEntry (fate : AccountsReceivableService.ReceiptWrite → Fate)
    (p : AccountsReceivableService.CreateReceipt) :
    Keeps (.preserves DoubleEntry) (AccountsReceivableService.createReceipt fate p) := by
  refine AccountsReceivableService.createReceipt_keeps fate p (fun _ _ _ _ h => h.congr rfl)
    (fun _ _ _ h => h.congr rfl) ?_
  intro receiptId receiptNumber accounts s journalId t _ _ hcreated h
  refine h.createJournal hcreated fun direction => ?_
  cases direction <;>
    simp [entry_sum, CreateJournalDto.total, AccountsReceivableService.journalDto]

theorem closeFiscalPeriod_journals (userId orgId periodId : Id) (notes : Option String) :
    Keeps (.same (·.journalEntries))
      (BankRecService.closeFiscalPeriod userId orgId periodId notes) :=
  Reads.get.keeps.bind fun _ => (Reads.need _ _).keeps.bind fun _ =>
    (Reads.ensure _ _).keeps.bind fun _ => (Keeps.modify fun _ => rfl).bind fun _ =>
      (Reads.pure _).keeps

theorem perform_doubleEntry (call : LedgerCall) (h : DoubleEntry s) :
    DoubleEntry (call.perform s) := by
  cases call with
  | createJournal ctx userId dto => exact createJournal_doubleEntry ctx userId dto s h
  | reverseJournal orgId journalId userId reason =>
    refine (reverseJournal_atomic _ _ _ _).elim h ?_
    intro reversalId t hreversed
    obtain ⟨original, hget, -, -, -, rfl⟩ := reverseJournal_ok hreversed
    exact h.reverseEntry (reversal_balanced (h journalId original hget))
  | replayPosting p => exact replayPosting_doubleEntry h p
  | createApPayment p => exact createApPayment_doubleEntry p s h
  | createReceipt fate p => exact createReceipt_doubleEntry fate p s h
  | closeFiscalPeriod userId orgId periodId notes =>
    exact h.congr (closeFiscalPeriod_journals userId orgId periodId notes s)

-- ---
-- Sequences of calls
-- ---

/-- Any calls, from a ledger whose journals balance as an empty one's do, store
balanced journals only. -/
theorem run_doubleEntry (hstart : DoubleEntry start)
    (h : Run recordAt (fun _ _ => True) start calls s) : DoubleEntry s := by
  refine h.invariant hstart fun r call hr _ => ?_
  have hticked : DoubleEntry { r with clock := call.1 } := hr.congr rfl
  exact perform_doubleEntry call.2 hticked

theorem booked_doubleEntry : DoubleEntry booked := by
  intro k entry hget
  rw [booked, Table.get?_insert] at hget
  split at hget
  · cases hget
    exact ⟨rfl, rfl, rfl⟩
  · cases hget

/-- A manual journal of several lines and its reversal, a replay, a payment and a
receipt of half a cent too much, and the close of their period. -/
theorem run_doubleEntry_fractions :
    let journal : LedgerController.CreateJournalEntryDto :=
      { journalDate := midnight 20
        lines := [⟨0, none, .debit, "1.5", none⟩, ⟨0, none, .debit, "0.25", none⟩,
          ⟨0, none, .debit, "2", none⟩, ⟨1, none, .credit, "3.75", none⟩] }
    let calls := [(midnight 20, LedgerCall.createJournal ⟨0, 0⟩ 0 journal),
      (midnight 20, .reverseJournal 0 1 0 none), (midnight 20, .replayPosting posSale),
      (midnight 20, .createApPayment
        { ctx := ⟨0, 0⟩, userId := 0
          dto :=
            { supplierId := 0, amount := 67 / 2, allocations := [⟨0, 67 / 2⟩]
              apAccountId := some 0, cashAccountId := some 1 } }),
      (midnight 20, .createReceipt (fun _ => .applied)
        { ctx := ⟨0, 0⟩, userId := 0
          dto :=
            { customerAccountId := 0, amount := 67 / 2, allocations := [⟨0, 67 / 2⟩]
              debitAccountId := some 0, arAccountId := some 1 } }),
      (midnight 20, .closeFiscalPeriod 0 0 0 none)]
    let s := calls.foldl recordAt booked
    s.journalEntries.next = 6 ∧ DoubleEntry s := by
  intro journal calls s
  have hrun : Run recordAt (fun _ _ => True) booked calls s := Run.of_holds (by decide +kernel)
  exact ⟨by decide +kernel, run_doubleEntry booked_doubleEntry hrun⟩

/-- The ledger alone would let three times 0.334 against 1.002 through, and store 0.99 against
1.00. -/
example :
    let dto : CreateJournalDto :=
      { journalDate := 0
        lines := [⟨0, none, .debit, 334 / 10, none⟩, ⟨0, none, .debit, 334 / 10, none⟩,
          ⟨0, none, .debit, 334 / 10, none⟩, ⟨1, none, .credit, 1002 / 10, none⟩] }
    let entry := dto.entry booked 0 none 0
    returned (createJournal 0 none 0 dto booked) = true ∧ entry.sum .debit = 99 ∧
      entry.sum .credit = 100 := by
  decide +kernel

end NimbusPos
