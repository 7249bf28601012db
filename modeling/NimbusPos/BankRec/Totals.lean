import NimbusPos.BankRec.Service
import NimbusPos.Lib.Run

/-!
# The totals of a reconciliation

A call rewrites the totals of the reconciliation it names. They agree with the
statement as long as a statement is opened untouched, a line is matched or skipped
through the only reconciliation of its statement, and the reconciliation that
recomputes its totals is for the account of its statement.
-/

namespace NimbusPos.BankRecService

open Lib Lib.Service

-- ---
-- The lines of a statement
-- ---

/-- A line of the statement in the status. -/
def counts (statementId : Id) (status : BankStatementLineStatus) (line : BankStatementLine) :
    Bool :=
  line.bankStatementId == statementId && line.status == status

def statementTotals (s : Books) (statementId : Id) : Totals where
  matchedTotal := s.bankStatementLines.sumWhere (fun _ => counts statementId .matched) signed
  matchedCount := s.bankStatementLines.count fun _ => counts statementId .matched
  unmatchedCount := s.bankStatementLines.count fun _ => counts statementId .unmatched

/-- The totals a reconciliation stores. -/
def storedTotals (rec : BankReconciliation) : Totals :=
  ⟨rec.matchedTotal, rec.matchedCount, rec.unmatchedCount⟩

/-- The totals are those of the statement, and the balance too once it is completed. -/
def Agrees (s : Books) (rec : BankReconciliation) : Prop :=
  ∀ statementId, rec.bankStatementId = some statementId →
    storedTotals rec = statementTotals s statementId ∧
    (rec.status = .completed → rec.statementBalance = (statementTotals s statementId).matchedTotal)

def TotalsAgree (s : Books) : Prop :=
  ∀ k rec, s.bankReconciliations.get? k = some rec → Agrees s rec

/-- Lines, and reconciliations with a statement, are of the statement's organisation. -/
structure Scoped (s : Books) : Prop where
  lines : ∀ k line, s.bankStatementLines.get? k = some line →
    ∃ statement, s.bankStatements.get? line.bankStatementId = some statement ∧
      line.orgId = statement.orgId
  reconciliations : ∀ k rec statementId, s.bankReconciliations.get? k = some rec →
    rec.bankStatementId = some statementId →
    ∃ statement, s.bankStatements.get? statementId = some statement ∧ rec.orgId = statement.orgId

/-- The statement of the reconciliation, if it has one, belongs to its bank account. -/
def ofItsAccount (s : Books) (rec : BankReconciliation) : Prop :=
  ∀ statementId ∈ rec.bankStatementId,
    (s.bankStatements.get? statementId).any (·.bankAccountId == rec.bankAccountId) = true

variable {s : Books} {rec : BankReconciliation} {statementId : Id}

/-- The reconciliation is of the organisation of the statement. -/
def InScope (s : Books) (rec : BankReconciliation) (statementId : Id) : Prop :=
  ∃ statement, s.bankStatements.get? statementId = some statement ∧ rec.orgId = statement.orgId

theorem Scoped.orgId_eq (h : Scoped s) (hscope : InScope s rec statementId)
    (hline : s.bankStatementLines.get? k = some line) (hsame : line.bankStatementId = statementId) :
    line.orgId = rec.orgId := by
  obtain ⟨statement, hstatement, horg⟩ := hscope
  obtain ⟨_, hget, hlineOrg⟩ := h.lines k line hline
  rw [hsame, hstatement, Option.some.injEq] at hget
  rw [hlineOrg, horg, hget]

theorem Scoped.lineFilter_eq (h : Scoped s) (hscope : InScope s rec statementId)
    (hid : rec.bankStatementId = some statementId) (hown : ofItsAccount s rec)
    (hline : s.bankStatementLines.get? k = some line) :
    lineFilter s rec line = (line.bankStatementId == statementId) := by
  rw [lineFilter, hid, Option.all_some]
  by_cases hsame : line.bankStatementId = statementId
  · rw [ofBankAccount, hsame, hown statementId hid, h.orgId_eq hscope hline hsame]
    simp
  · have hne : (line.bankStatementId == statementId) = false := by simpa using hsame
    rw [hne, Bool.and_false]

/-- Recomputed totals are those of the statement. -/
theorem Scoped.recomputeTotals_eq (h : Scoped s) (hscope : InScope s rec statementId)
    (hid : rec.bankStatementId = some statementId) (hown : ofItsAccount s rec) :
    recomputeTotals s rec = statementTotals s statementId := by
  have hfind (status : BankStatementLineStatus) :
      s.bankStatementLines.findMany (fun _ line => lineFilter s rec line && line.status == status) =
        s.bankStatementLines.findMany fun _ => counts statementId status :=
    Table.findMany_congr fun k line hline => by rw [h.lineFilter_eq hscope hid hown hline, counts]
  simp only [recomputeTotals, statementTotals, Table.sumWhere, Table.count, hfind]

/-- A recount is that of the statement, whatever the account. -/
theorem Scoped.countUnmatched_eq (h : Scoped s) (hscope : InScope s rec statementId)
    (hid : rec.bankStatementId = some statementId) :
    countUnmatched s rec = (statementTotals s statementId).unmatchedCount := by
  simp only [countUnmatched, statementTotals, Table.count, hid]
  rw [Table.findMany_congr]
  intro k line hline
  by_cases hsame : line.bankStatementId = statementId
  · simp [counts, hsame, h.orgId_eq hscope hline hsame]
  · simp [counts, beq_eq_false_iff_ne.mpr hsame]

-- ---
-- One line
-- ---

def updateLine (s : Books) (lineId : Id) (f : BankStatementLine → BankStatementLine) : Books :=
  { s with bankStatementLines := s.bankStatementLines.update lineId f }

/-- A rewritten line keeps its statement, organisation and amount. -/
structure KeepsLine (f : BankStatementLine → BankStatementLine) : Prop where
  orgId : ∀ line, (f line).orgId = line.orgId
  bankStatementId : ∀ line, (f line).bankStatementId = line.bankStatementId
  signed : ∀ line, signed (f line) = signed line

theorem Scoped.updateLine (h : Scoped s) (hf : KeepsLine f) : Scoped (updateLine s lineId f) := by
  refine ⟨?_, h.reconciliations⟩
  intro k line hline
  simp only [BankRecService.updateLine, Table.get?_update] at hline
  split at hline
  · obtain ⟨old, hold, rfl⟩ := Option.map_eq_some_iff.mp hline
    rw [hf.orgId, hf.bankStatementId]
    exact h.lines k old hold
  · exact h.lines k line hline

theorem matched_updateLine (hget : s.bankStatementLines.get? lineId = some line) (hf : KeepsLine f)
    (hsame : counts statementId .matched (f line) = counts statementId .matched line) :
    (statementTotals (updateLine s lineId f) statementId).matchedTotal =
      (statementTotals s statementId).matchedTotal ∧
      (statementTotals (updateLine s lineId f) statementId).matchedCount =
        (statementTotals s statementId).matchedCount :=
  ⟨Table.sumWhere_update hget f hsame (hf.signed line), Table.count_update hget f hsame⟩

theorem unmatched_updateLine (hget : s.bankStatementLines.get? lineId = some line)
    (hsame : counts statementId .unmatched (f line) = counts statementId .unmatched line) :
    (statementTotals (updateLine s lineId f) statementId).unmatchedCount =
      (statementTotals s statementId).unmatchedCount := Table.count_update hget f hsame

/-- A line of another statement. -/
theorem statementTotals_updateLine (hget : s.bankStatementLines.get? lineId = some line)
    (hf : KeepsLine f) (hother : line.bankStatementId ≠ statementId) :
    statementTotals (updateLine s lineId f) statementId = statementTotals s statementId := by
  have hsame (status : BankStatementLineStatus) :
      counts statementId status (f line) = counts statementId status line := by
    simp [counts, hf.bankStatementId, beq_eq_false_iff_ne.mpr hother]
  obtain ⟨htotal, hcount⟩ := matched_updateLine hget hf (hsame .matched)
  have hunmatched := unmatched_updateLine hget (hsame .unmatched)
  simp only [Totals.ext_iff]
  exact ⟨htotal, hcount, hunmatched⟩

-- ---
-- One reconciliation
-- ---

def updateReconciliation (s : Books) (k : Id) (g : BankReconciliation → BankReconciliation) :
    Books :=
  { s with bankReconciliations := s.bankReconciliations.update k g }

theorem Scoped.updateReconciliation (h : Scoped s)
    (hg : ∀ row, (g row).bankStatementId = row.bankStatementId ∧ (g row).orgId = row.orgId) :
    Scoped (updateReconciliation s k g) := by
  refine ⟨h.lines, ?_⟩
  intro j row id hrow hid
  simp only [BankRecService.updateReconciliation, Table.get?_update] at hrow
  split at hrow
  · obtain ⟨old, hold, rfl⟩ := Option.map_eq_some_iff.mp hrow
    rw [(hg old).1] at hid
    rw [(hg old).2]
    exact h.reconciliations j old id hold hid
  · exact h.reconciliations j row id hrow hid

theorem Scoped.insertReconciliation (h : Scoped s)
    (hscope : ∀ id ∈ rec.bankStatementId, InScope s rec id) :
    Scoped (insertReconciliation s rec) := by
  refine ⟨h.lines, ?_⟩
  intro k row id hrow hid
  simp only [BankRecService.insertReconciliation, Table.get?_insert] at hrow
  split at hrow
  · cases hrow
    exact hscope id hid
  · exact h.reconciliations k row id hrow hid

/-- The statement of a line is that of no other reconciliation. -/
def onlyOne (s : Books) (reconciliationId statementId : Id) : Prop :=
  ∀ k rec, s.bankReconciliations.get? k = some rec → k ≠ reconciliationId →
    rec.bankStatementId ≠ some statementId

instance (s : Books) (reconciliationId statementId : Id) :
    Decidable (onlyOne s reconciliationId statementId) :=
  decidable_of_iff (s.bankReconciliations.count (fun k rec =>
      k != reconciliationId && rec.bankStatementId == some statementId) = 0) <| by
    simp [Table.count_eq_zero, onlyOne]

/-- A line is rewritten and the reconciliation that the call names comes to agree. -/
theorem TotalsAgree.update (h : TotalsAgree s) (hget : s.bankStatementLines.get? lineId = some line)
    (hf : KeepsLine f)
    (hothers : (∀ id, statementTotals (updateLine s lineId f) id = statementTotals s id) ∨
      onlyOne s reconciliationId line.bankStatementId)
    (hrec : s.bankReconciliations.get? reconciliationId = some rec)
    (hnamed : Agrees (updateLine s lineId f) (g rec)) :
    TotalsAgree (updateReconciliation (updateLine s lineId f) reconciliationId g) := by
  intro k row hrow
  simp only [updateReconciliation, updateLine, Table.get?_update] at hrow
  split at hrow
  · rename_i hk
    subst hk
    rw [hrec] at hrow
    cases hrow
    exact hnamed
  · rename_i hk
    intro id hid
    have hsame : statementTotals (updateLine s lineId f) id = statementTotals s id := by
      rcases hothers with hsame | honly
      · exact hsame id
      · exact statementTotals_updateLine hget hf fun heq => honly k row hrow hk (heq ▸ hid)
    have hagree := h k row hrow id hid
    rw [← hsame] at hagree
    exact hagree

-- ---
-- One call
-- ---

theorem findReconciliation_some (h : findReconciliation s ctx reconciliationId = some rec) :
    s.bankReconciliations.get? reconciliationId = some rec := (Option.filter_eq_some_iff.mp h).1

theorem findLine_some (h : findLine s ctx lineId = some line) :
    s.bankStatementLines.get? lineId = some line :=
  (Option.filter_eq_some_iff.mp h).1

theorem matchLine_agrees (h : TotalsAgree s) (hs : Scoped s)
    (hrec : s.bankReconciliations.get? reconciliationId = some rec)
    (hstatus : rec.status ≠ .completed)
    (hline : s.bankStatementLines.get? dto.bankStatementLineId = some line)
    (honly : onlyOne s reconciliationId line.bankStatementId) (hown : ofItsAccount s rec) :
    TotalsAgree (storeTotals (markMatched s userId dto) reconciliationId rec) ∧
      Scoped (storeTotals (markMatched s userId dto) reconciliationId rec) := by
  have hf : KeepsLine fun line : BankStatementLine =>
      { line with
        status := .matched, matchedJournalLineId := dto.journalLineId,
        matchedManualEntryId := dto.manualEntryId
        matchedAt := some s.clock, matchedById := some userId } :=
    ⟨fun _ => rfl, fun _ => rfl, fun _ => rfl⟩
  have hmarked : Scoped (markMatched s userId dto) := hs.updateLine hf
  refine ⟨h.update hline hf (.inr honly) hrec ?_, hmarked.updateReconciliation fun _ => ⟨rfl, rfl⟩⟩
  intro id hid
  refine ⟨hmarked.recomputeTotals_eq (hs.reconciliations _ _ id hrec hid) hid hown,
    fun hcompleted => ?_⟩
  simp only at hcompleted
  split at hcompleted
  · cases hcompleted
  · exact absurd hcompleted hstatus

theorem skipLine_agrees (h : TotalsAgree s) (hs : Scoped s)
    (hrec : s.bankReconciliations.get? reconciliationId = some rec)
    (hstatus : rec.status ≠ .completed)
    (hline : s.bankStatementLines.get? lineId = some line) (hmatched : line.status ≠ .matched)
    (honly : line.status = .unmatched → onlyOne s reconciliationId line.bankStatementId) :
    TotalsAgree (storeUnmatched (markSkipped s lineId) reconciliationId rec) ∧
      Scoped (storeUnmatched (markSkipped s lineId) reconciliationId rec) := by
  have hf : KeepsLine fun line : BankStatementLine => { line with status := .skipped } :=
    ⟨fun _ => rfl, fun _ => rfl, fun _ => rfl⟩
  have hskipped : Scoped (markSkipped s lineId) := hs.updateLine hf
  refine ⟨h.update hline hf ?_ hrec ?_, hskipped.updateReconciliation fun _ => ⟨rfl, rfl⟩⟩
  · cases hline' : line.status with
    | unmatched => exact .inr (honly hline')
    | matched => exact absurd hline' hmatched
    | skipped =>
      -- a skipped line is skipped again
      refine .inl fun id => ?_
      have hsame (status : BankStatementLineStatus) :
          counts id status { line with status := .skipped } = counts id status line := by
        simp [counts, hline']
      obtain ⟨htotal, hcount⟩ := matched_updateLine hline hf (hsame .matched)
      exact Totals.ext htotal hcount (unmatched_updateLine hline (hsame .unmatched))
  · intro id hid
    refine ⟨?_, fun hcompleted => absurd hcompleted hstatus⟩
    have hnone : counts id .matched { line with status := .skipped } = counts id .matched line := by
      rw [counts, counts, beq_eq_false_iff_ne.mpr hmatched]
      rfl
    obtain ⟨htotal, hcount⟩ := matched_updateLine hline hf hnone
    have hbefore := (h _ rec hrec id hid).1
    rw [Totals.ext_iff] at hbefore
    refine Totals.ext ?_ ?_ (hskipped.countUnmatched_eq (hs.reconciliations _ _ id hrec hid) hid)
    · exact hbefore.1.trans htotal.symm
    · exact hbefore.2.1.trans hcount.symm

theorem completeReconciliation_agrees (h : TotalsAgree s) (hs : Scoped s)
    (hrec : s.bankReconciliations.get? reconciliationId = some rec)
    (hbalance : rec.statementBalance = rec.matchedTotal) :
    TotalsAgree (markCompleted s userId reconciliationId) ∧
      Scoped (markCompleted s userId reconciliationId) := by
  refine ⟨?_, hs.updateReconciliation fun _ => ⟨rfl, rfl⟩⟩
  intro k row hrow
  simp only [markCompleted, Table.get?_update] at hrow
  split at hrow
  · rename_i hk
    subst hk
    rw [hrec] at hrow
    cases hrow
    intro id hid
    have hstored := (h _ rec hrec id hid).1
    refine ⟨hstored, fun _ => hbalance.trans ?_⟩
    exact congrArg Totals.matchedTotal hstored
  · exact h k row hrow

/-- A statement without a matched line. -/
theorem totals_untouched (h : (statementTotals s statementId).matchedCount = 0) :
    (statementTotals s statementId).matchedTotal = 0 := by
  have hnone := Table.count_eq_zero.mp h
  simp only [statementTotals, Table.sumWhere_eq_total]
  apply Table.total_zero
  intro k line hline
  rw [hnone k line hline]
  rfl

theorem openReconciliation_inScope {dto : CreateReconciliationDto}
    {statement : Option BankStatement}
    (hstatement : ∀ id ∈ dto.bankStatementId, findStatement s ctx id = statement ∧
      statement.isSome = true) :
    ∀ id ∈ dto.bankStatementId, InScope s (openReconciliation s userId ctx dto statement) id := by
  intro id hid
  obtain ⟨hfind, hsome⟩ := hstatement id hid
  obtain ⟨row, rfl⟩ := Option.isSome_iff_exists.mp hsome
  obtain ⟨hget, hctx⟩ := Option.filter_eq_some_iff.mp hfind
  simp only [Bool.and_eq_true, beq_iff_eq] at hctx
  exact ⟨row, hget, hctx.1.symm⟩

theorem createReconciliation_agrees {dto : CreateReconciliationDto}
    {statement : Option BankStatement} (h : TotalsAgree s) (hs : Scoped s)
    (hstatement : ∀ id ∈ dto.bankStatementId, findStatement s ctx id = statement ∧
      statement.isSome = true)
    (huntouched : ∀ id ∈ dto.bankStatementId, (statementTotals s id).matchedCount = 0) :
    TotalsAgree (insertReconciliation s (openReconciliation s userId ctx dto statement)) ∧
      Scoped (insertReconciliation s (openReconciliation s userId ctx dto statement)) := by
  have hscope : ∀ id ∈ dto.bankStatementId,
      InScope s (openReconciliation s userId ctx dto statement) id :=
    openReconciliation_inScope hstatement
  constructor
  · intro k row hrow
    simp only [insertReconciliation, Table.get?_insert] at hrow
    split at hrow
    · cases hrow
      intro id hid
      have hid : dto.bankStatementId = some id := hid
      have hnone := huntouched id hid
      refine ⟨Totals.ext (totals_untouched hnone).symm hnone.symm ?_, nofun⟩
      simp only [storedTotals, openReconciliation, hid, statementTotals, insertReconciliation,
        Table.count]
      rw [Table.findMany_congr]
      intro j line hline
      by_cases hsame : line.bankStatementId = id
      · simp [counts, hsame, hs.orgId_eq (hscope id hid) hline hsame, openReconciliation]
      · simp [counts, beq_eq_false_iff_ne.mpr hsame]
    · exact h k row hrow
  · exact hs.insertReconciliation hscope

-- ---
-- Sequences of calls
-- ---

inductive BankRecCall
  | createReconciliation (userId : Id) (ctx : BranchContext) (dto : CreateReconciliationDto)
  | matchLine (userId : Id) (ctx : BranchContext) (reconciliationId : Id) (dto : MatchLineDto)
  | skipLine (ctx : BranchContext) (reconciliationId lineId : Id)
  | completeReconciliation (userId : Id) (ctx : BranchContext) (reconciliationId : Id)
  deriving DecidableEq, Repr

namespace BankRecCall

def perform (s : Books) : BankRecCall → Books
  | .createReconciliation userId ctx dto =>
    final (BankRecService.createReconciliation userId ctx dto s)
  | .matchLine userId ctx reconciliationId dto =>
    final (BankRecService.matchLine userId ctx reconciliationId dto s)
  | .skipLine ctx reconciliationId lineId =>
    final (BankRecService.skipLine ctx reconciliationId lineId s)
  | .completeReconciliation userId ctx reconciliationId =>
    final (BankRecService.completeReconciliation userId ctx reconciliationId s)

/-- A statement is opened without a matched line. A line is matched, or skipped while
unmatched, through the only reconciliation of its statement, and matched through one
whose statement, if it has one, belongs to its account. -/
def inStep (s : Books) : BankRecCall → Prop
  | .createReconciliation _ _ dto =>
    ∀ id ∈ dto.bankStatementId, (statementTotals s id).matchedCount = 0
  | .matchLine _ ctx reconciliationId dto =>
    ∀ rec ∈ findReconciliation s ctx reconciliationId,
      ∀ line ∈ findLine s ctx dto.bankStatementLineId,
      rec.status ≠ .completed → line.status ≠ .matched →
        onlyOne s reconciliationId line.bankStatementId ∧ ofItsAccount s rec
  | .skipLine ctx reconciliationId lineId =>
    ∀ rec ∈ findReconciliation s ctx reconciliationId, ∀ line ∈ findLine s ctx lineId,
      rec.status ≠ .completed → line.status = .unmatched →
        onlyOne s reconciliationId line.bankStatementId
  | .completeReconciliation _ _ _ => True

instance : (call : BankRecCall) → Decidable (call.inStep s)
  | .createReconciliation _ _ _ => inferInstanceAs (Decidable (∀ _ ∈ _, _ = _))
  | .matchLine _ _ _ _ => inferInstanceAs (Decidable (∀ _ ∈ _, ∀ _ ∈ _, _ → _ → _ ∧ ∀ _ ∈ _, _))
  | .skipLine _ _ _ => inferInstanceAs (Decidable (∀ _ ∈ _, ∀ _ ∈ _, _ → _ → _))
  | .completeReconciliation _ _ _ => inferInstanceAs (Decidable True)

theorem perform_agrees (call : BankRecCall) (h : TotalsAgree s ∧ Scoped s) (hok : call.inStep s) :
    TotalsAgree (call.perform s) ∧ Scoped (call.perform s) := by
  obtain ⟨h, hs⟩ := h
  cases call with
  | createReconciliation userId ctx dto =>
    refine (createReconciliation_atomic userId ctx dto).elim
      (P := fun t => TotalsAgree t ∧ Scoped t) ⟨h, hs⟩ ?_
    intro _ t hcreated
    obtain ⟨statement, hstatement, rfl⟩ := createReconciliation_ok hcreated
    exact createReconciliation_agrees h hs hstatement hok
  | matchLine userId ctx reconciliationId dto =>
    refine (matchLine_atomic userId ctx reconciliationId dto).elim
      (P := fun t => TotalsAgree t ∧ Scoped t) ⟨h, hs⟩ ?_
    intro _ t hmatched
    obtain ⟨rec, line, hrec, hstatus, hline, hopen, rfl⟩ := matchLine_ok hmatched
    obtain ⟨honly, hown⟩ := hok rec hrec line hline hstatus hopen
    exact matchLine_agrees h hs (findReconciliation_some hrec) hstatus (findLine_some hline) honly
      hown
  | skipLine ctx reconciliationId lineId =>
    refine (skipLine_atomic ctx reconciliationId lineId).elim
      (P := fun t => TotalsAgree t ∧ Scoped t) ⟨h, hs⟩ ?_
    intro _ t hskipped
    obtain ⟨rec, line, hrec, hstatus, hline, hopen, rfl⟩ := skipLine_ok hskipped
    exact skipLine_agrees h hs (findReconciliation_some hrec) hstatus (findLine_some hline) hopen
      (hok rec hrec line hline hstatus)
  | completeReconciliation userId ctx reconciliationId =>
    refine (completeReconciliation_atomic userId ctx reconciliationId).elim
      (P := fun t => TotalsAgree t ∧ Scoped t)
      ⟨h, hs⟩ ?_
    intro _ t hcompleted
    obtain ⟨rec, hrec, hbalance, rfl⟩ := completeReconciliation_ok hcompleted
    exact completeReconciliation_agrees h hs hrec hbalance

end BankRecCall

/-- A call made at a time. -/
def callAt (s : Books) (call : Time × BankRecCall) : Books :=
  call.2.perform { s with clock := call.1 }

def inStepAt (s : Books) (call : Time × BankRecCall) : Prop :=
  call.2.inStep { s with clock := call.1 }

instance : Decidable (inStepAt s call) := inferInstanceAs (Decidable (call.2.inStep _))

/-- After any calls in step, every reconciliation with a statement agrees with it. -/
theorem run_totalsAgree (h0 : TotalsAgree start) (hs : Scoped start)
    (h : Run callAt inStepAt start calls s) :
    TotalsAgree s := by
  refine (h.invariant (I := fun s => TotalsAgree s ∧ Scoped s) ⟨h0, hs⟩ ?_).1
  intro r call hr hok
  have hticked : TotalsAgree { r with clock := call.1 } ∧ Scoped { r with clock := call.1 } :=
    ⟨hr.1, hr.2.lines, hr.2.reconciliations⟩
  exact call.2.perform_agrees hticked hok

-- ---
-- A concrete statement
-- ---

/-- Two bank accounts, and a statement of the first with a credit and a debit. -/
def banked : Books where
  bankAccounts := (Table.empty.insert { orgId := 0, branchId := 0 }).insert
    { orgId := 0, branchId := 0 }
  bankStatements := Table.empty.insert
    { orgId := 0, branchId := 0, bankAccountId := 0, openingBalance := 3000,
      closingBalance := 10000 }
  bankStatementLines :=
    (Table.empty.insert
      { orgId := 0, bankStatementId := 0, amount := 10000, direction := .credit }).insert
      { orgId := 0, bankStatementId := 0, amount := 3000, direction := .debit }
  manualBankEntries := Table.empty.insert
    { orgId := 0, branchId := 0, bankAccountId := 0, amount := 3000, direction := .debit }

def opening (bankAccountId : Id) (bankStatementId : Option Id) : BankRecCall :=
  .createReconciliation 0 ⟨0, 0⟩ { bankAccountId, bankStatementId }

def matching (reconciliationId lineId : Id) : BankRecCall :=
  .matchLine 0 ⟨0, 0⟩ reconciliationId { bankStatementLineId := lineId, manualEntryId := some 0 }

def skipping (reconciliationId lineId : Id) : BankRecCall :=
  .skipLine ⟨0, 0⟩ reconciliationId lineId

def completing (reconciliationId : Id) : BankRecCall :=
  .completeReconciliation 0 ⟨0, 0⟩ reconciliationId

theorem banked_agrees : TotalsAgree banked := by
  intro k rec hrec
  cases hrec

theorem banked_scoped : Scoped banked := by
  constructor
  · intro k line hline
    refine ⟨⟨0, 0, 0, 3000, 10000⟩, ?_⟩
    simp only [banked, Table.get?_insert, Table.get?_empty] at hline
    split at hline
    · cases hline
      exact ⟨rfl, rfl⟩
    · split at hline
      · cases hline
        exact ⟨rfl, rfl⟩
      · cases hline
  · intro k rec statementId hrec
    cases hrec

/-- A statement whose credit is matched and whose debit is skipped. -/
theorem run_totalsAgree_completed :
    let calls := [(1, opening 0 (some 0)), (2, matching 0 0), (3, skipping 0 1), (4, completing 0)]
    let s := calls.foldl callAt banked
    Run callAt inStepAt banked calls s ∧ TotalsAgree s := by
  intro calls s
  have hrun : Run callAt inStepAt banked calls s := Run.of_holds (by decide +kernel)
  exact ⟨hrun, run_totalsAgree banked_agrees banked_scoped hrun⟩

def afterCalls (calls : List BankRecCall) : Books := calls.foldl BankRecCall.perform banked

/-- A completed statement that is matched further through another reconciliation of
the account, a second reconciliation of a matched statement, one for the wrong
account, and a line skipped through another reconciliation. -/
theorem totals_disagree :
    ¬(∀ lineId, TotalsAgree
      (afterCalls [opening 0 (some 0), matching 0 0, completing 0, opening 0 none,
        matching 1 lineId])) ∧
    ¬(∀ dto, TotalsAgree
      (afterCalls [opening 0 (some 0), matching 0 0, completing 0,
        .createReconciliation 0 ⟨0, 0⟩ dto])) ∧
    ¬(∀ bankAccountId, TotalsAgree (afterCalls [opening bankAccountId (some 0), matching 0 0])) ∧
    ¬(∀ bankAccountId,
      TotalsAgree (afterCalls [opening 0 (some 0), opening bankAccountId none, skipping 1 0])) := by
  have hstored {s : Books} (h : TotalsAgree s) (k : Id) (totals : Totals)
      (hget : (s.bankReconciliations.get? k).map
      (fun rec => (rec.bankStatementId, storedTotals rec)) = some (some 0, totals)) :
        totals = statementTotals s 0 := by
    obtain ⟨rec, hrec, heq⟩ := Option.map_eq_some_iff.mp hget
    rw [Prod.mk.injEq] at heq
    exact heq.2 ▸ (h k rec hrec 0 heq.1).1
  refine ⟨?_, ?_, ?_, ?_⟩
  · intro h
    let s := afterCalls
      [opening 0 (some 0), matching 0 0, completing 0, opening 0 none, matching 1 1]
    have hany : (s.bankReconciliations.get? 0).any (fun rec => rec.bankStatementId == some 0 &&
        rec.status == .completed && rec.statementBalance == 10000) = true := by decide +kernel
    obtain ⟨rec, hrec, hrow⟩ := (Option.any_eq_true _ _).mp hany
    simp only [Bool.and_eq_true, beq_iff_eq] at hrow
    obtain ⟨⟨hid, hcompleted⟩, hbalance⟩ := hrow
    have hafter := (h 1 0 rec hrec 0 hid).2 hcompleted
    rw [hbalance] at hafter
    exact absurd hafter (by decide +kernel)
  · intro h
    exact absurd (hstored (h { bankAccountId := 0, bankStatementId := some 0 }) 1 ⟨0, 0, 1⟩
      (by decide +kernel))
      (by decide +kernel)
  · intro h
    exact absurd (hstored (h 1) 0 ⟨0, 0, 0⟩ (by decide +kernel)) (by decide +kernel)
  · intro h
    exact absurd (hstored (h 1) 0 ⟨0, 0, 2⟩ (by decide +kernel)) (by decide +kernel)

end NimbusPos.BankRecService
