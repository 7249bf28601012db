import NimbusPos.BankRec.Totals

/-!
# What a statement line is matched with

A match is the accountant's. A line that is matched is not matched again, and what it
is matched with exists in its organisation, a manual entry in the branch of its
statement. Neither the amounts nor the accounts are compared, and nothing keeps a
second line from the same match.
-/

namespace NimbusPos.BankRecService

open Lib Lib.Service

-- ---
-- Matches
-- ---

def findJournalLine (s : Books) (id : Id × Nat) : Option JournalLine :=
  (s.journalEntries.get? id.1).bind (·.lines[id.2]?)

/-- What the line names as its match is there. -/
structure Backed (s : Books) (line : BankStatementLine) : Prop where
  named : line.matchedJournalLineId.isSome ∨ line.matchedManualEntryId.isSome
  journalLine : ∀ id ∈ line.matchedJournalLineId,
    (findJournalLine s id).any (·.orgId == line.orgId) = true
  manualEntry : ∀ id ∈ line.matchedManualEntryId, ∃ entry statement,
    s.manualBankEntries.get? id = some entry ∧
    s.bankStatements.get? line.bankStatementId = some statement ∧
    entry.orgId = line.orgId ∧ entry.branchId = statement.branchId

def AllBacked (s : Books) : Prop :=
  ∀ k line, s.bankStatementLines.get? k = some line → line.status = .matched → Backed s line

/-- What a call does to the lines of all statements. -/
structure LinesStep (s t : Books) : Prop where
  journalEntries : t.journalEntries = s.journalEntries
  manualBankEntries : t.manualBankEntries = s.manualBankEntries
  bankStatements : t.bankStatements = s.bankStatements
  kept : ∀ k line, s.bankStatementLines.get? k = some line → line.status = .matched →
    t.bankStatementLines.get? k = some line
  backed : ∀ k line, t.bankStatementLines.get? k = some line → line.status = .matched →
    s.bankStatementLines.get? k = some line ∨ Backed s line

variable {s t : Books}

theorem LinesStep.refl (s : Books) : LinesStep s s where
  journalEntries := rfl
  manualBankEntries := rfl
  bankStatements := rfl
  kept := fun _ _ hget _ => hget
  backed := fun _ _ hget _ => .inl hget

/-- A line that is not matched is rewritten. -/
theorem LinesStep.updateLine (hget : s.bankStatementLines.get? lineId = some line)
    (hopen : line.status ≠ .matched) (hf : (f line).status = .matched → Backed s (f line)) :
    LinesStep s (updateLine s lineId f) where
  journalEntries := rfl
  manualBankEntries := rfl
  bankStatements := rfl
  kept := by
    intro k old hold hmatched
    have hk : k ≠ lineId := by
      rintro rfl
      obtain rfl : line = old := Option.some.inj (hget.symm.trans hold)
      exact hopen hmatched
    rwa [BankRecService.updateLine, Table.get?_update_ne _ _ hk]
  backed := by
    intro k new hnew hmatched
    simp only [BankRecService.updateLine, Table.get?_update] at hnew
    split at hnew
    · rename_i hk
      subst hk
      rw [hget] at hnew
      cases hnew
      exact .inr (hf hmatched)
    · exact .inl hnew

/-- A reconciliation is written. -/
theorem LinesStep.reconciliations (h : LinesStep s t) (reconciliations : Table BankReconciliation) :
    LinesStep s { t with bankReconciliations := reconciliations } :=
  ⟨h.journalEntries, h.manualBankEntries, h.bankStatements, h.kept, h.backed⟩

theorem Backed.step (h : LinesStep s t) (hbacked : Backed s line) : Backed t line where
  named := hbacked.named
  journalLine := by
    intro id hid
    rw [findJournalLine, h.journalEntries]
    exact hbacked.journalLine id hid
  manualEntry := by
    intro id hid
    rw [h.manualBankEntries, h.bankStatements]
    exact hbacked.manualEntry id hid

theorem AllBacked.step (hall : AllBacked s) (h : LinesStep s t) : AllBacked t := by
  intro k line hget hmatched
  rcases h.backed k line hget hmatched with hbefore | hbacked
  · exact (hall k line hbefore hmatched).step h
  · exact hbacked.step h

-- ---
-- The calls
-- ---

/-- The line `matchLine` writes, from what it checked. -/
theorem matchLine_backed (h : matchLine userId ctx reconciliationId dto s = .ok u t)
    (hline : findLine s ctx dto.bankStatementLineId = some line) :
    Backed s { line with
      status := .matched, matchedJournalLineId := dto.journalLineId,
      matchedManualEntryId := dto.manualEntryId
      matchedAt := some s.clock, matchedById := some userId } := by
  obtain ⟨hnamed, hjournalLine, hentry⟩ := matchLine_named h
  obtain ⟨-, hscope⟩ := Option.filter_eq_some_iff.mp hline
  simp only [Bool.and_eq_true, beq_iff_eq] at hscope
  obtain ⟨horg, hbranch⟩ := hscope
  constructor
  · simpa using hnamed
  · intro id hid
    have hid : dto.journalLineId = some id := hid
    simpa [MatchLineDto.journalLineMissing, hid, findJournalLine, horg] using hjournalLine
  · intro id hid
    have hid : dto.manualEntryId = some id := hid
    simp only [MatchLineDto.manualEntryMissing, hid, Option.any_some, Bool.not_eq_false',
      Option.any_eq_true, Bool.and_eq_true, beq_iff_eq] at hentry
    obtain ⟨entry, hget, hentryOrg, hentryBranch⟩ := hentry
    obtain ⟨statement, hstatement, hsame⟩ := (Option.any_eq_true _ _).mp hbranch
    refine ⟨entry, statement, hget, hstatement, hentryOrg.trans horg.symm, ?_⟩
    rw [hentryBranch, eq_of_beq hsame]

theorem linesStep_perform (s : Books) (call : BankRecCall) : LinesStep s (call.perform s) := by
  cases call with
  | createReconciliation userId ctx dto =>
    refine (createReconciliation_atomic userId ctx dto).elim (.refl s) fun _ t hcreate => ?_
    obtain ⟨_, _, rfl⟩ := createReconciliation_ok hcreate
    exact (LinesStep.refl s).reconciliations _
  | matchLine userId ctx reconciliationId dto =>
    refine (matchLine_atomic userId ctx reconciliationId dto).elim (.refl s) fun _ t hmatch => ?_
    obtain ⟨_, line, _, _, hline, hopen, rfl⟩ := matchLine_ok hmatch
    have hmarked : LinesStep s (markMatched s userId dto) :=
      LinesStep.updateLine (findLine_some hline) hopen fun _ => matchLine_backed hmatch hline
    exact hmarked.reconciliations _
  | skipLine ctx reconciliationId lineId =>
    refine (skipLine_atomic ctx reconciliationId lineId).elim (.refl s) fun _ t hskip => ?_
    obtain ⟨_, line, _, _, hline, hopen, rfl⟩ := skipLine_ok hskip
    have hskipped : LinesStep s (markSkipped s lineId) :=
      LinesStep.updateLine (findLine_some hline) hopen (by rintro ⟨⟩)
    exact hskipped.reconciliations _
  | completeReconciliation userId ctx reconciliationId =>
    refine (completeReconciliation_atomic userId ctx reconciliationId).elim (.refl s)
      fun _ t hdone => ?_
    obtain ⟨_, _, _, rfl⟩ := completeReconciliation_ok hdone
    exact (LinesStep.refl s).reconciliations _

theorem linesStep_callAt (s : Books) (call : Time × BankRecCall) : LinesStep s (callAt s call) := by
  have h := linesStep_perform { s with clock := call.1 } call.2
  refine ⟨h.journalEntries, h.manualBankEntries, h.bankStatements, h.kept, ?_⟩
  intro k line hget hmatched
  rcases h.backed k line hget hmatched with hbefore | ⟨hnamed, hjournalLine, hentry⟩
  · exact .inl hbefore
  · exact .inr ⟨hnamed, hjournalLine, hentry⟩

theorem foldl_allBacked (h : AllBacked s) (calls : List (Time × BankRecCall)) :
    AllBacked (calls.foldl callAt s) := by
  induction calls generalizing s with
  | nil => exact h
  | cons call calls ih => exact ih (h.step (linesStep_callAt s call))

theorem foldl_kept (hget : s.bankStatementLines.get? k = some line)
    (hmatched : line.status = .matched) (calls : List (Time × BankRecCall)) :
    (calls.foldl callAt s).bankStatementLines.get? k = some line := by
  induction calls generalizing s with
  | nil => exact hget
  | cons call calls ih => exact ih ((linesStep_callAt s call).kept k line hget hmatched)

/-- After any calls, what a line is matched with is there, and no later call matches the line
with anything else. -/
theorem matches_stand (h : AllBacked start) (before later : List (Time × BankRecCall)) :
    AllBacked (before.foldl callAt start) ∧
      ∀ k line, (before.foldl callAt start).bankStatementLines.get? k = some line →
        line.status = .matched →
        (later.foldl callAt (before.foldl callAt start)).bankStatementLines.get? k = some line :=
  ⟨foldl_allBacked h before, fun _ _ hget hmatched => foldl_kept hget hmatched later⟩

-- ---
-- One match for two lines
-- ---

def accountOf (s : Books) (line : BankStatementLine) : Option Id :=
  (s.bankStatements.get? line.bankStatementId).map (·.bankAccountId)

/-- Matches that would be one-to-one: nothing is the match of two lines, and a line and its match
agree in amount and are of one bank account. -/
structure OneToOne (s : Books) : Prop where
  journalLine : Table.UniqueOn (·.matchedJournalLineId) s.bankStatementLines
  manualEntry : Table.UniqueOn (·.matchedManualEntryId) s.bankStatementLines
  amount : ∀ k line, s.bankStatementLines.get? k = some line →
    (∀ id ∈ line.matchedJournalLineId,
      (findJournalLine s id).any (·.amount == line.amount) = true) ∧
    ∀ id ∈ line.matchedManualEntryId,
      (s.manualBankEntries.get? id).any (·.amount == line.amount) = true
  account : ∀ k line, s.bankStatementLines.get? k = some line →
    (∀ id ∈ line.matchedJournalLineId,
      (findJournalLine s id).map (·.accountId) =
        ((accountOf s line).bind s.bankAccounts.get?).bind (·.glAccountId)) ∧
    ∀ id ∈ line.matchedManualEntryId,
      (s.manualBankEntries.get? id).map (·.bankAccountId) = accountOf s line

/-- A journal over 25.00 on an account of neither bank account, and a charge of 30.00 to the
second one. -/
def entered : Books :=
  { banked with
    journalEntries := Table.empty.insert
      { orgId := 0, branchId := none, journalNumber := "JNL-000001", journalDate := 0,
        status := .posted, totalDebit := 2500, totalCredit := 2500, postedAt := none,
        postedById := none, createdAt := 0
        lines := [⟨0, 5, none, .debit, 2500, none⟩, ⟨0, 6, none, .credit, 2500, none⟩] }
    manualBankEntries := Table.empty.insert
      { orgId := 0, branchId := 0, bankAccountId := 1, amount := 3000, direction := .debit } }

theorem entered_backed : AllBacked entered := by
  intro k line hline hmatched
  simp only [entered, banked, Table.get?_insert, Table.get?_empty] at hline
  split at hline
  · cases hline
    cases hmatched
  · split at hline
    · cases hline
      cases hmatched
    · cases hline

def both (lineId : Id) : BankRecCall :=
  .matchLine 0 ⟨0, 0⟩ 0
    { bankStatementLineId := lineId, journalLineId := some (0, 0), manualEntryId := some 0 }

/-- The credit and the debit of the statement. -/
def matchedTwice : Books :=
  [(1, opening 0 (some 0)), (2, both 0), (3, both 1)].foldl callAt entered

theorem matches_stand_entered : AllBacked matchedTwice :=
  (matches_stand entered_backed _ []).1

/-- A credit of 100.00 and a debit of 30.00 are matched with the same journal line of 25.00 and
the same charge to another bank account. -/
theorem matched_twice :
    ¬(∀ calls : List (Time × BankRecCall), OneToOne (calls.foldl callAt entered)) ∧
    matchedTwice.bankStatementLines.rows.map (fun row => (row.2.amount,
        accountOf matchedTwice row.2, row.2.matchedJournalLineId, row.2.matchedManualEntryId)) =
      [(10000, some 0, some (0, 0), some 0), (3000, some 0, some (0, 0), some 0)] := by
  refine ⟨fun h => ?_, by decide +kernel⟩
  have hone : OneToOne matchedTwice := h _
  rcases hone.manualEntry.keys_ne (show 0 ≠ 1 by decide) with hnone | hother
  · exact absurd hnone (by decide +kernel)
  · exact absurd (by decide +kernel) hother

end NimbusPos.BankRecService
