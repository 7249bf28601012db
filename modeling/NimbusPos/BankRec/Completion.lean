import NimbusPos.BankRec.Totals

/-!
# Completing a reconciliation

A reconciliation opens with the closing balance of its statement and is completed
when that equals the total of its matched lines. The total is what moved, so the two
meet when the statement opened with nothing.
-/

namespace NimbusPos.BankRecService

open Lib Lib.Service

-- ---
-- The lines of a statement
-- ---

/-- What the lines of the statement moved. -/
def lineSum (s : Books) (statementId : Id) : Cents :=
  s.bankStatementLines.sumWhere (fun _ line => line.bankStatementId == statementId) signed

/-- A line of the statement that is not matched. -/
def unfinished (statementId : Id) (line : BankStatementLine) : Bool :=
  line.bankStatementId == statementId && line.status != .matched

def outstanding (s : Books) (statementId : Id) : Nat :=
  s.bankStatementLines.count fun _ => unfinished statementId

/-- What the matched lines of the statement come to in a reconciliation of the account. -/
def accounted (s : Books) (statement : BankStatement) (statementId bankAccountId : Id) : Cents :=
  if bankAccountId = statement.bankAccountId then (statementTotals s statementId).matchedTotal
  else 0

variable {s start : Books} {statement : BankStatement} {rec : BankReconciliation}
  {statementId reconciliationId : Id}

theorem outstanding_pos (hget : s.bankStatementLines.get? lineId = some line)
    (hline : line.bankStatementId = statementId) (hopen : line.status ≠ .matched) :
    0 < outstanding s statementId :=
  Table.count_pos.mpr ⟨lineId, line, hget, by simp [unfinished, hline, hopen]⟩

/-- Once every line is matched, the matched lines are all there are. -/
theorem matchedTotal_of_finished (h : outstanding s statementId = 0) :
    (statementTotals s statementId).matchedTotal = lineSum s statementId := by
  have hnone := Table.count_eq_zero.mp h
  simp only [statementTotals, lineSum, Table.sumWhere]
  rw [Table.findMany_congr]
  intro k line hline
  have hfinished := hnone k line hline
  simp only [unfinished, Bool.and_eq_false_iff, bne_eq_false_iff_eq] at hfinished
  rcases hfinished with hother | hmatched
  · simp [counts, hother]
  · simp [counts, hmatched]

theorem lineSum_updateLine (hget : s.bankStatementLines.get? lineId = some line)
    (hf : KeepsLine f) :
    lineSum (updateLine s lineId f) statementId = lineSum s statementId :=
  Table.sumWhere_update hget f (by rw [hf.bankStatementId]) (hf.signed line)

theorem outstanding_updateLine (hget : s.bankStatementLines.get? lineId = some line)
    (hsame : unfinished statementId (f line) = unfinished statementId line) :
    outstanding (updateLine s lineId f) statementId = outstanding s statementId :=
  Table.count_update hget f hsame

/-- Recomputed for the account of the statement, the total is that of its matched lines. For
another account no line is found. -/
theorem Scoped.recomputed (h : Scoped s) (hget : s.bankStatements.get? statementId = some statement)
    (hid : rec.bankStatementId = some statementId) (horg : rec.orgId = statement.orgId) :
    (recomputeTotals s rec).matchedTotal =
      accounted s statement statementId rec.bankAccountId := by
  by_cases hown : rec.bankAccountId = statement.bankAccountId
  · have hofIts : ofItsAccount s rec := by
      intro id hmem
      obtain rfl : statementId = id := Option.some.inj (hid.symm.trans hmem)
      simp [hget, hown]
    rw [h.recomputeTotals_eq ⟨statement, hget, horg⟩ hid hofIts, accounted, if_pos hown]
  · rw [accounted, if_neg hown, recomputeTotals]
    simp only [Table.sumWhere_eq_total]
    apply Table.total_zero
    intro k line _
    by_cases hsame : line.bankStatementId = statementId
    · simp [lineFilter, ofBankAccount, hsame, hget, Ne.symm hown]
    · simp [lineFilter, hid, hsame]

-- ---
-- The reconciliation of a statement
-- ---

/-- The reconciliation `dto` opened, while the lines of its statement are matched. -/
structure Standing (start s : Books) (ctx : BranchContext) (dto : CreateReconciliationDto)
    (statement : BankStatement) (statementId : Id) (rec : BankReconciliation) : Prop where
  bankStatementId : rec.bankStatementId = some statementId
  bankAccountId : rec.bankAccountId = dto.bankAccountId
  orgId : rec.orgId = ctx.organizationId
  branchId : rec.branchId = ctx.branchId
  statementBalance : rec.statementBalance = statement.closingBalance
  status : rec.status ≠ .completed
  /-- None of the lines has been matched. -/
  untouched : rec.status = .open → 0 < outstanding start statementId →
    0 < outstanding s statementId
  /-- One of them has, and the total was recomputed with it. -/
  begun : rec.status ≠ .open → 0 < outstanding start statementId ∧
    rec.matchedTotal = accounted s statement statementId rec.bankAccountId

/-- What stands from the opening of the reconciliation to its completion. -/
structure Reconciling (start : Books) (ctx : BranchContext) (dto : CreateReconciliationDto)
    (statement : BankStatement) (statementId reconciliationId : Id) (s : Books) : Prop where
  wellScoped : Scoped s
  stated : s.bankStatements.get? statementId = some statement
  orgId : statement.orgId = ctx.organizationId
  lineSum : lineSum s statementId = BankRecService.lineSum start statementId
  fewer : 0 < outstanding s statementId → 0 < outstanding start statementId
  standing : ∃ rec, s.bankReconciliations.get? reconciliationId = some rec ∧
    Standing start s ctx dto statement statementId rec

/-- Calls that match the lines of the statement through the reconciliation, among any others.
The reconciliation is not yet completed. -/
def through (statementId reconciliationId : Id) (s : Books) : BankRecCall → Prop
  | .matchLine _ _ named dto => ∀ line ∈ s.bankStatementLines.get? dto.bankStatementLineId,
      line.bankStatementId = statementId ↔ named = reconciliationId
  | .completeReconciliation _ _ named => named ≠ reconciliationId
  | .createReconciliation _ _ _ => True
  | .skipLine _ _ _ => True

instance : (call : BankRecCall) → Decidable (through statementId reconciliationId s call)
  | .matchLine _ _ _ _ => inferInstanceAs (Decidable (∀ _ ∈ _, _ ↔ _))
  | .completeReconciliation _ _ _ => inferInstanceAs (Decidable (_ ≠ _))
  | .createReconciliation _ _ _ => inferInstanceAs (Decidable True)
  | .skipLine _ _ _ => inferInstanceAs (Decidable True)

variable {ctx : BranchContext} {dto : CreateReconciliationDto}

theorem Standing.of_same (h : Standing start s ctx dto statement statementId rec)
    (houtstanding : outstanding t statementId = outstanding s statementId)
    (htotal : (statementTotals t statementId).matchedTotal =
      (statementTotals s statementId).matchedTotal) :
    Standing start t ctx dto statement statementId rec :=
  { h with
    untouched := fun hopen => houtstanding ▸ h.untouched hopen
    begun := fun hbegun => by
      obtain ⟨hstart, hmatched⟩ := h.begun hbegun
      exact ⟨hstart, by rw [hmatched, accounted, accounted, htotal]⟩ }

/-- A line is rewritten without being matched, or is of another statement. -/
theorem Reconciling.updateLine
    (h : Reconciling start ctx dto statement statementId reconciliationId s)
    (hget : s.bankStatementLines.get? lineId = some line) (hf : KeepsLine f)
    (hsame : line.bankStatementId = statementId →
      line.status ≠ .matched ∧ (f line).status ≠ .matched) :
    Reconciling start ctx dto statement statementId reconciliationId (updateLine s lineId f) := by
  have hboth : unfinished statementId (f line) = unfinished statementId line ∧
      counts statementId .matched (f line) = counts statementId .matched line := by
    by_cases hline : line.bankStatementId = statementId
    · obtain ⟨hbefore, hafter⟩ := hsame hline
      simp [unfinished, counts, hf.bankStatementId, hline, beq_eq_false_iff_ne.mpr hbefore,
        beq_eq_false_iff_ne.mpr hafter, bne]
    · simp [unfinished, counts, hf.bankStatementId, beq_eq_false_iff_ne.mpr hline]
  have houtstanding := outstanding_updateLine hget hboth.1
  have htotal := (matched_updateLine hget hf hboth.2).1
  obtain ⟨rec, hrec, hstanding⟩ := h.standing
  exact {
    wellScoped := h.wellScoped.updateLine hf
    stated := h.stated
    orgId := h.orgId
    lineSum := (lineSum_updateLine hget hf).trans h.lineSum
    fewer := fun hpos => h.fewer (houtstanding ▸ hpos)
    standing := ⟨rec, hrec, hstanding.of_same houtstanding htotal⟩ }

/-- A reconciliation is rewritten, and still stands if it is the statement's. -/
theorem Reconciling.updateReconciliation
    (h : Reconciling start ctx dto statement statementId reconciliationId s)
    (hg : ∀ row, (g row).bankStatementId = row.bankStatementId ∧ (g row).orgId = row.orgId)
    (hnamed : k = reconciliationId → ∀ row, s.bankReconciliations.get? k = some row →
      Standing start s ctx dto statement statementId row →
      Standing start s ctx dto statement statementId (g row)) :
    Reconciling start ctx dto statement statementId reconciliationId
      (updateReconciliation s k g) := by
  obtain ⟨rec, hrec, hstanding⟩ := h.standing
  refine { h with wellScoped := h.wellScoped.updateReconciliation hg, standing := ?_ }
  by_cases hk : k = reconciliationId
  · subst hk
    refine ⟨g rec, ?_, ?_⟩
    · simp [BankRecService.updateReconciliation, hrec]
    · exact (hnamed rfl rec hrec hstanding).of_same rfl rfl
  · refine ⟨rec, ?_, hstanding.of_same rfl rfl⟩
    simp [BankRecService.updateReconciliation, Table.get?_update, Ne.symm hk, hrec]

theorem Reconciling.createReconciliation
    (h : Reconciling start ctx dto statement statementId reconciliationId s)
    (hcreate : createReconciliation userId ctx' dto' s = .ok k t) :
    Reconciling start ctx dto statement statementId reconciliationId t := by
  obtain ⟨found, hfound, rfl⟩ := createReconciliation_ok hcreate
  obtain ⟨rec, hrec, hstanding⟩ := h.standing
  exact { h with
    wellScoped := h.wellScoped.insertReconciliation (openReconciliation_inScope hfound)
    standing := ⟨rec, Table.get?_insert_of_some hrec, hstanding.of_same rfl rfl⟩ }

theorem Reconciling.skipLine
    (h : Reconciling start ctx dto statement statementId reconciliationId s)
    (hskip : skipLine ctx' k lineId s = .ok u t) :
    Reconciling start ctx dto statement statementId reconciliationId t := by
  obtain ⟨rec, line, hrec, _, hline, hopen, rfl⟩ := skipLine_ok hskip
  have hf : KeepsLine fun line : BankStatementLine => { line with status := .skipped } :=
    ⟨fun _ => rfl, fun _ => rfl, fun _ => rfl⟩
  have hskipped := h.updateLine (findLine_some hline) hf fun _ =>
    ⟨hopen, BankStatementLineStatus.noConfusion⟩
  refine hskipped.updateReconciliation (fun _ => ⟨rfl, rfl⟩) ?_
  rintro - row - hstanding
  exact { hstanding with }

theorem Reconciling.completeReconciliation
    (h : Reconciling start ctx dto statement statementId reconciliationId s)
    (hother : k ≠ reconciliationId)
    (hcomplete : completeReconciliation userId ctx' k s = .ok u t) :
    Reconciling start ctx dto statement statementId reconciliationId t := by
  obtain ⟨rec, hrec, hbalance, rfl⟩ := completeReconciliation_ok hcomplete
  exact h.updateReconciliation (fun _ => ⟨rfl, rfl⟩) fun hk => absurd hk hother

/-- A match through the reconciliation begins it, or goes on with it. -/
theorem Reconciling.matchLine
    (h : Reconciling start ctx dto statement statementId reconciliationId s)
    (hthrough : ∀ line ∈ s.bankStatementLines.get? dto'.bankStatementLineId,
      line.bankStatementId = statementId ↔ k = reconciliationId)
    (hmatch : matchLine userId ctx' k dto' s = .ok u t) :
    Reconciling start ctx dto statement statementId reconciliationId t := by
  obtain ⟨rec, line, hfound, hstatus, hfoundLine, hopen, rfl⟩ := matchLine_ok hmatch
  have hget := findLine_some hfoundLine
  have hf : KeepsLine fun line : BankStatementLine =>
      { line with
        status := .matched, matchedJournalLineId := dto'.journalLineId,
        matchedManualEntryId := dto'.manualEntryId
        matchedAt := some s.clock, matchedById := some userId } :=
    ⟨fun _ => rfl, fun _ => rfl, fun _ => rfl⟩
  have hiff := hthrough line hget
  by_cases hk : k = reconciliationId
  · subst hk
    have hline : line.bankStatementId = statementId := hiff.mpr rfl
    obtain ⟨row, hrow, hstanding⟩ := h.standing
    obtain rfl : rec = row := Option.some.inj ((findReconciliation_some hfound).symm.trans hrow)
    have hstart := h.fewer (outstanding_pos hget hline hopen)
    have hmarked : Scoped (markMatched s userId dto') := h.wellScoped.updateLine hf
    have htotal := hmarked.recomputed h.stated hstanding.bankStatementId
      (hstanding.orgId.trans h.orgId.symm)
    have hbegun : (if rec.status = .open then .inProgress else rec.status) ≠
        BankReconciliationStatus.open := by
      split
      · decide
      · assumption
    have hcompleted : (if rec.status = .open then .inProgress else rec.status) ≠
        BankReconciliationStatus.completed := by
      split
      · decide
      · exact hstatus
    refine {
      wellScoped := hmarked.updateReconciliation fun _ => ⟨rfl, rfl⟩
      stated := h.stated
      orgId := h.orgId
      lineSum := (lineSum_updateLine hget hf).trans h.lineSum
      fewer := fun _ => hstart
      standing := ⟨_, Table.get?_update_self .. |>.trans (congrArg _ hrow), ?_⟩ }
    exact { hstanding with
      status := hcompleted
      untouched := fun hnot => absurd hnot hbegun
      begun := fun _ => ⟨hstart, htotal⟩ }
  · have hother : line.bankStatementId ≠ statementId := fun hline => hk (hiff.mp hline)
    have hmarked := h.updateLine hget hf fun hline => absurd hline hother
    exact hmarked.updateReconciliation (fun _ => ⟨rfl, rfl⟩) fun hnamed => absurd hnamed hk

theorem Reconciling.perform
    (h : Reconciling start ctx dto statement statementId reconciliationId s)
    (hthrough : through statementId reconciliationId s call) :
    Reconciling start ctx dto statement statementId reconciliationId (call.perform s) := by
  cases call with
  | createReconciliation userId ctx' dto' =>
    exact (createReconciliation_atomic userId ctx' dto').elim h fun _ _ => h.createReconciliation
  | matchLine userId ctx' k dto' =>
    exact (matchLine_atomic userId ctx' k dto').elim h fun _ _ => h.matchLine hthrough
  | skipLine ctx' k lineId =>
    exact (skipLine_atomic ctx' k lineId).elim h fun _ _ => h.skipLine
  | completeReconciliation userId ctx' k =>
    exact (completeReconciliation_atomic userId ctx' k).elim h fun _ _ =>
      h.completeReconciliation hthrough

def throughAt (statementId reconciliationId : Id) (s : Books) (call : Time × BankRecCall) : Prop :=
  through statementId reconciliationId s call.2

instance : Decidable (throughAt statementId reconciliationId s call) :=
  inferInstanceAs (Decidable (through _ _ _ _))

theorem Reconciling.run
    (h : Reconciling start ctx dto statement statementId reconciliationId opened)
    (hrun : Run callAt (throughAt statementId reconciliationId) opened calls s) :
    Reconciling start ctx dto statement statementId reconciliationId s := by
  refine hrun.invariant h ?_
  intro r call hr hthrough
  obtain ⟨rec, hrec, hstanding⟩ := hr.standing
  have hticked : Reconciling start ctx dto statement statementId reconciliationId
      { r with clock := call.1 } :=
    { hr with
      wellScoped := ⟨hr.wellScoped.lines, hr.wellScoped.reconciliations⟩
      standing := ⟨rec, hrec, hstanding.of_same rfl rfl⟩ }
  exact hticked.perform hthrough

/-- A statement is opened, whatever was matched before. -/
theorem reconciling_createReconciliation (hs : Scoped start)
    (hstatement : start.bankStatements.get? statementId = some statement)
    (hid : dto.bankStatementId = some statementId)
    (hcreate : createReconciliation userId ctx dto start = .ok reconciliationId opened) :
    Reconciling start ctx dto statement statementId reconciliationId opened := by
  obtain rfl := createReconciliation_next hcreate
  obtain ⟨found, hfound, rfl⟩ := createReconciliation_ok hcreate
  obtain ⟨hfind, hsome⟩ := hfound statementId hid
  obtain ⟨row, rfl⟩ := Option.isSome_iff_exists.mp hsome
  obtain ⟨hget, horg⟩ := Option.filter_eq_some_iff.mp hfind
  obtain rfl : statement = row := Option.some.inj (hstatement.symm.trans hget)
  simp only [Bool.and_eq_true, beq_iff_eq] at horg
  exact {
    wellScoped := hs.insertReconciliation (openReconciliation_inScope hfound)
    stated := hstatement
    orgId := horg.1
    lineSum := rfl
    fewer := id
    standing := ⟨openReconciliation start userId ctx dto (some statement),
      Table.get?_insert_self .., {
        bankStatementId := hid
        bankAccountId := rfl
        orgId := rfl
        branchId := rfl
        statementBalance := rfl
        status := by simp [openReconciliation]
        untouched := fun _ => id
        begun := fun hbegun => absurd rfl hbegun }⟩ }

-- ---
-- Completion
-- ---

def completes (s : Books) (userId : Id) (ctx : BranchContext) (reconciliationId : Id) : Prop :=
  ∃ t, completeReconciliation userId ctx reconciliationId s = .ok () t

theorem completes_iff (hrec : findReconciliation s ctx reconciliationId = some rec)
    (hstatus : rec.status ≠ .completed) :
    completes s userId ctx reconciliationId ↔
      rec.status ≠ .open ∧ rec.statementBalance = rec.matchedTotal := by
  simp only [completes, completeReconciliation, bind_ok, get_ok, need_ok, ensure_ok, modify_ok,
    bne_iff_ne, beq_iff_eq]
  constructor
  · rintro ⟨t, _, _, ⟨rfl, rfl⟩, row, _, ⟨hrow, rfl⟩, _, _, ⟨_, rfl⟩, _, _, ⟨hbegun, rfl⟩, _, _,
      ⟨hdifference, rfl⟩, rfl⟩
    obtain rfl : rec = row := Option.some.inj (hrec.symm.trans hrow)
    exact ⟨hbegun, Int.sub_eq_zero.mp hdifference⟩
  · rintro ⟨hbegun, hbalance⟩
    exact ⟨_, _, _, ⟨rfl, rfl⟩, rec, _, ⟨hrec, rfl⟩, (), _, ⟨hstatus, rfl⟩, (), _, ⟨hbegun, rfl⟩,
      (), _, ⟨Int.sub_eq_zero.mpr hbalance, rfl⟩, rfl⟩

/-- The condition that the state before the reconciliation sets. -/
def meets (start : Books) (dto : CreateReconciliationDto) (statement : BankStatement)
    (statementId : Id) : Prop :=
  0 < outstanding start statementId ∧
    (if dto.bankAccountId = statement.bankAccountId then statement.openingBalance = 0
    else statement.closingBalance = 0)

instance : Decidable (meets start dto statement statementId) := inferInstanceAs (Decidable (_ ∧ _))

/-- A statement whose balances and lines agree, every line of which was matched through its
reconciliation, is completed exactly if one was left to match and, in a reconciliation of its
account, the statement opened with nothing. -/
theorem matched_completes (hs : Scoped start)
    (hstatement : start.bankStatements.get? statementId = some statement)
    (hbalanced : statement.openingBalance + lineSum start statementId = statement.closingBalance)
    (hid : dto.bankStatementId = some statementId)
    (hcreate : createReconciliation userId ctx dto start = .ok reconciliationId opened)
    (hrun : Run callAt (throughAt statementId reconciliationId) opened calls s)
    (hmatched : outstanding s statementId = 0) :
    completes s completedById ctx reconciliationId ↔ meets start dto statement statementId := by
  have h := (reconciling_createReconciliation hs hstatement hid hcreate).run hrun
  obtain ⟨rec, hrec, hstanding⟩ := h.standing
  have hfind : findReconciliation s ctx reconciliationId = some rec := by
    simp [findReconciliation, Option.filter_eq_some_iff, hrec, hstanding.orgId, hstanding.branchId]
  have hmoved : statement.closingBalance = accounted s statement statementId rec.bankAccountId ↔
      if dto.bankAccountId = statement.bankAccountId then statement.openingBalance = 0
      else statement.closingBalance = 0 := by
    rw [accounted, hstanding.bankAccountId, matchedTotal_of_finished hmatched, h.lineSum]
    split
    · rw [← hbalanced]
      exact add_eq_right
    · exact Iff.rfl
  rw [completes_iff hfind hstanding.status, meets, ← hmoved, hstanding.statementBalance]
  constructor
  · rintro ⟨hbegun, hbalance⟩
    obtain ⟨hstart, htotal⟩ := hstanding.begun hbegun
    exact ⟨hstart, htotal ▸ hbalance⟩
  · rintro ⟨hstart, hmeets⟩
    have hbegun : rec.status ≠ .open := by
      intro hopen
      have hpos := hstanding.untouched hopen hstart
      omega
    obtain ⟨-, htotal⟩ := hstanding.begun hbegun
    exact ⟨hbegun, htotal ▸ hmeets⟩

/-- A statement of one credit, over what the account held before. -/
def credited (openingBalance : Cents) : Books where
  bankAccounts := Table.empty.insert { orgId := 0, branchId := 0 }
  bankStatements := Table.empty.insert
    { orgId := 0, branchId := 0, bankAccountId := 0, openingBalance,
      closingBalance := openingBalance + 10000 }
  bankStatementLines := Table.empty.insert
    { orgId := 0, bankStatementId := 0, amount := 10000, direction := .credit }
  manualBankEntries := Table.empty.insert
    { orgId := 0, branchId := 0, bankAccountId := 0, amount := 10000, direction := .credit }

theorem credited_scoped (openingBalance : Cents) : Scoped (credited openingBalance) := by
  constructor
  · intro k line hline
    simp only [credited, Table.get?_insert, Table.get?_empty] at hline
    split at hline
    · cases hline
      exact ⟨⟨0, 0, 0, openingBalance, openingBalance + 10000⟩, rfl, rfl⟩
    · cases hline
  · intro k rec statementId hrec
    cases hrec

def openedCredit (openingBalance : Cents) : Books :=
  (opening 0 (some 0)).perform (credited openingBalance)

def matchedCredit (openingBalance : Cents) : Books :=
  callAt (openedCredit openingBalance) (1, matching 0 0)

/-- The account held nothing before. -/
theorem matched_completes_first :
    completes (matchedCredit 0) 0 ⟨0, 0⟩ 0 := by
  have hrun : Run callAt (throughAt 0 0) (openedCredit 0) [(1, matching 0 0)] (matchedCredit 0) :=
    Run.of_holds (by decide +kernel)
  have hcreate : createReconciliation 0 ⟨0, 0⟩ { bankAccountId := 0, bankStatementId := some 0 }
      (credited 0) = .ok 0 (openedCredit 0) := rfl
  exact (matched_completes (credited_scoped 0) rfl (by decide +kernel) rfl hcreate hrun
    (by decide +kernel)).mpr (by decide +kernel)

/-- The account held 50.00 before: the balance of the statement is 150.00, its one line 100.00. -/
theorem completion_refused :
    ¬(∀ (start opened s : Books) (statement : BankStatement) (dto : CreateReconciliationDto)
      (calls : List (Time × BankRecCall)),
      Scoped start → start.bankStatements.get? 0 = some statement →
      statement.openingBalance + lineSum start 0 = statement.closingBalance →
      dto.bankStatementId = some 0 →
      createReconciliation 0 ⟨0, 0⟩ dto start = .ok 0 opened →
      Run callAt (throughAt 0 0) opened calls s → outstanding s 0 = 0 →
      completes s 0 ⟨0, 0⟩ 0) ∧
    completeReconciliation 0 ⟨0, 0⟩ 0 (matchedCredit 5000) =
      .error (bad "Cannot complete reconciliation — difference is 50.00 (must be zero)")
        (matchedCredit 5000) := by
  have hrefused : completeReconciliation 0 ⟨0, 0⟩ 0 (matchedCredit 5000) =
      .error (bad "Cannot complete reconciliation — difference is 50.00 (must be zero)")
        (matchedCredit 5000) := rfl
  refine ⟨fun h => ?_, hrefused⟩
  have hrun : Run callAt (throughAt 0 0) (openedCredit 5000) [(1, matching 0 0)]
      (matchedCredit 5000) := Run.of_holds (by decide +kernel)
  obtain ⟨t, hcompleted⟩ := h (credited 5000) (openedCredit 5000) (matchedCredit 5000)
    ⟨0, 0, 0, 5000, 15000⟩ { bankAccountId := 0, bankStatementId := some 0 } [(1, matching 0 0)]
    (credited_scoped 5000) rfl (by decide +kernel) rfl rfl hrun (by decide +kernel)
  rw [hrefused] at hcompleted
  cases hcompleted

end NimbusPos.BankRecService
