import NimbusPos.Ledger.DoubleEntry

/-!
# Reversals

A reversal names the journal it turns round, and that journal is marked in the same
transaction: so an entry is marked exactly when a reversal of it exists, there is at most
one, and the two cancel on every account.
-/

namespace NimbusPos

open Lib Lib.Service
open LedgerService

-- ---
-- A journal turned round
-- ---

/-- What the lines of one direction post to an account. -/
def JournalEntry.posts (entry : JournalEntry) (accountId : Id) (direction : JournalLineDirection) :
    Cents :=
  ((entry.lines.filter fun line => line.accountId == accountId && line.direction == direction).map
    (·.amount)).sum

/-- Debits less credits. -/
def JournalEntry.net (entry : JournalEntry) (accountId : Id) : Cents :=
  entry.posts accountId .debit - entry.posts accountId .credit

/-- The reversal of a journal has its branch and its period, and its lines turned round. -/
structure TurnsRound (turned entry : JournalEntry) : Prop where
  orgId : turned.orgId = entry.orgId
  branchId : turned.branchId = entry.branchId
  fiscalPeriodId : turned.fiscalPeriodId = entry.fiscalPeriodId
  lines : turned.lines = entry.lines.map (reversalLine entry.orgId)

@[simp] theorem opposite_beq (direction other : JournalLineDirection) :
    (direction.opposite == other) = (direction == other.opposite) := by
  cases direction <;> cases other <;> rfl

namespace TurnsRound

theorem posts (h : TurnsRound turned entry) (accountId : Id) (direction : JournalLineDirection) :
    turned.posts accountId direction = entry.posts accountId direction.opposite := by
  simp [JournalEntry.posts, h.lines, reversalLine, List.filter_map, Function.comp_def]

/-- The two cancel on every account. -/
theorem net (h : TurnsRound turned entry) (accountId : Id) :
    entry.net accountId + turned.net accountId = 0 := by
  have hdebit := h.posts accountId .debit
  have hcredit := h.posts accountId .credit
  simp only [JournalLineDirection.opposite] at hdebit hcredit
  simp only [JournalEntry.net, hdebit, hcredit]
  ring

theorem marked (h : TurnsRound turned entry) {status : JournalStatus} {reversalId : Option Id} :
    TurnsRound turned { entry with status, reversalOfId := reversalId } :=
  ⟨h.orgId, h.branchId, h.fiscalPeriodId, h.lines⟩

end TurnsRound

theorem reversal_turnsRound (s : Books) (userId : Id) (reason : Option String) (originalId : Id)
    (original : JournalEntry) :
    TurnsRound (reversal s original.orgId userId reason originalId original) original :=
  ⟨rfl, rfl, rfl, rfl⟩

-- ---
-- Journals and their reversals
-- ---

structure Reversals (t : Table JournalEntry) : Prop where
  marked : ∀ k entry, t.get? k = some entry →
    (entry.status = .reversed ↔ ∃ j turned, t.get? j = some turned ∧ turned.reversedFromId = some k)
  turns : ∀ j turned k, t.get? j = some turned → turned.reversedFromId = some k →
    ∃ entry, t.get? k = some entry ∧ TurnsRound turned entry
  unique : t.UniqueOn (·.reversedFromId)

namespace Reversals

variable {t : Table JournalEntry} {entry original : JournalEntry}

theorem empty : Reversals .empty := by
  constructor
  · intro k entry hget
    cases hget
  · intro j turned k hget
    cases hget
  · intro j k a b x hget
    cases hget

/-- No journal is the reversal of one that is not there. -/
theorem unnamed (h : Reversals t) (hfree : t.get? k = none) (hget : t.get? j = some turned) :
    turned.reversedFromId ≠ some k := by
  intro hnames
  obtain ⟨entry, hentry, -⟩ := h.turns j turned k hget hnames
  cases hfree.symm.trans hentry

/-- Some journal is the reversal of `k`. -/
def Named (t : Table JournalEntry) (k : Id) : Prop :=
  ∃ j turned, t.get? j = some turned ∧ turned.reversedFromId = some k

theorem named_insert :
    Named (t.insert entry) k ↔ Named t k ∨ entry.reversedFromId = some k := by
  constructor
  · rintro ⟨j, turned, hturned, hname⟩
    rcases Table.insert_cases hturned with ⟨-, rfl⟩ | hturned
    · exact .inr hname
    · exact .inl ⟨j, turned, hturned, hname⟩
  · rintro (⟨j, turned, hturned, hname⟩ | hname)
    · exact ⟨j, turned, Table.get?_insert_of_some hturned, hname⟩
    · exact ⟨t.next, entry, Table.get?_insert_self t entry, hname⟩

theorem not_named_next (h : Reversals t) : ¬ Named t t.next := by
  rintro ⟨j, turned, hturned, hname⟩
  exact h.unnamed Table.get?_next hturned hname

theorem posted_of_not_named (h : Reversals t) (hget : t.get? k = some entry)
    (hdraft : entry.status ≠ .draft) (hfree : ¬ Named t k) : entry.status = .posted := by
  cases hstatus : entry.status with
  | posted => rfl
  | draft => exact absurd hstatus hdraft
  | reversed => exact absurd ((h.marked k entry hget).mp hstatus) hfree

/-- A posted journal that reverses none. -/
theorem insert (h : Reversals t) (hposted : entry.status = .posted)
    (hnames : entry.reversedFromId = none) : Reversals (t.insert entry) := by
  constructor
  · intro k row hget
    change _ ↔ Named (t.insert entry) k
    rw [named_insert, hnames, or_iff_left (by simp)]
    rcases Table.insert_cases hget with ⟨rfl, rfl⟩ | hget
    · exact iff_of_false (by simp [hposted]) h.not_named_next
    · exact h.marked k row hget
  · intro j turned k hget hname
    rcases Table.insert_cases hget with ⟨-, rfl⟩ | hget
    · cases hnames.symm.trans hname
    · obtain ⟨row, hrow, hturns⟩ := h.turns j turned k hget hname
      exact ⟨row, Table.get?_insert_of_some hrow, hturns⟩
  · refine h.unique.insert ?_
    intro k row x _ hkey
    cases hnames.symm.trans hkey

section

variable {mark : JournalEntry → JournalEntry} {reversalId : Id}

theorem named_update (hmark : ∀ row, (mark row).reversedFromId = row.reversedFromId) :
    Named (t.update k mark) i ↔ Named t i := by
  constructor
  · rintro ⟨j, turned, hturned, hname⟩
    rcases Table.update_cases hturned with ⟨-, row, hrow, rfl⟩ | ⟨-, hturned⟩
    · exact ⟨j, row, hrow, (hmark row).symm.trans hname⟩
    · exact ⟨j, turned, hturned, hname⟩
  · rintro ⟨j, turned, hturned, hname⟩
    by_cases hj : j = k
    · subst hj
      exact ⟨j, mark turned, by simp [hturned], (hmark turned).trans hname⟩
    · exact ⟨j, turned, (Table.get?_update_ne _ _ hj).trans hturned, hname⟩

/-- A row that a mark leaves comes from one that reverses the same and turns the same round. -/
theorem marked_back
    (hmark : ∀ row, mark row = { row with status := .reversed, reversalOfId := some reversalId })
    (hrow : (t.update k mark).get? j = some row') :
    ∃ row, t.get? j = some row ∧ row'.reversedFromId = row.reversedFromId ∧
      ∀ other, TurnsRound row other → TurnsRound row' other := by
  rcases Table.update_cases hrow with ⟨-, row, hold, rfl⟩ | ⟨-, hrow⟩
  · refine ⟨row, hold, ?_⟩
    rw [hmark]
    exact ⟨rfl, fun other h => ⟨h.orgId, h.branchId, h.fiscalPeriodId, h.lines⟩⟩
  · exact ⟨row', hrow, rfl, fun other h => h⟩

/-- A row is still turned round once it is marked. -/
theorem marked_forth
    (hmark : ∀ row, mark row = { row with status := .reversed, reversalOfId := some reversalId })
    (hrow : t.get? j = some row) (hturns : TurnsRound turned row) :
    ∃ row', (t.update k mark).get? j = some row' ∧ TurnsRound turned row' := by
  rw [Table.get?_update, hrow]
  split
  · refine ⟨mark row, rfl, ?_⟩
    rw [hmark]
    exact hturns.marked
  · exact ⟨row, rfl, hturns⟩

end

/-- The reversal of a journal that has none, and the mark. -/
theorem reverse (h : Reversals t) (hget : t.get? k = some original)
    (hposted : original.status = .posted) (hturns : TurnsRound entry original)
    (hentry : entry.status = .posted) (hnames : entry.reversedFromId = some k)
    (hmark : ∀ row, mark row = { row with status := .reversed, reversalOfId := some t.next }) :
    Reversals ((t.insert entry).update k mark) := by
  have hunreversed : ¬ Named t k := by
    rw [Named, ← h.marked k original hget, hposted]
    exact JournalStatus.noConfusion
  have hkeeps (row : JournalEntry) : (mark row).reversedFromId = row.reversedFromId := by
    rw [hmark]
  constructor
  · intro j row hrow
    change _ ↔ Named ((t.insert entry).update k mark) j
    rw [named_update hkeeps, named_insert, hnames, Option.some.injEq]
    rcases Table.update_cases hrow with ⟨rfl, old, -, rfl⟩ | ⟨hj, hrow⟩
    · exact iff_of_true (by rw [hmark]) (.inr rfl)
    · rw [or_iff_left (Ne.symm hj)]
      rcases Table.insert_cases hrow with ⟨rfl, rfl⟩ | hrow
      · exact iff_of_false (by simp [hentry]) h.not_named_next
      · exact h.marked j row hrow
  · intro j turned' i hturned' hname
    obtain ⟨turned, hturned, hsame, hstill⟩ := marked_back hmark hturned'
    rw [hsame] at hname
    have hfound : ∃ row, t.get? i = some row ∧ TurnsRound turned row := by
      rcases Table.insert_cases hturned with ⟨-, rfl⟩ | hturned
      · obtain rfl := Option.some.inj (hname.symm.trans hnames)
        exact ⟨original, hget, hturns⟩
      · exact h.turns j turned i hturned hname
    obtain ⟨row, hrow, hround⟩ := hfound
    exact marked_forth hmark (Table.get?_insert_of_some hrow) (hstill row hround)
  · refine (h.unique.insert ?_).update ?_ k
    · intro j row x hrow hkey hsame
      obtain rfl := Option.some.inj (hkey.symm.trans hnames)
      exact hunreversed ⟨j, row, hrow, hsame⟩
    · intro row x hkey
      exact (hkeeps row).symm.trans hkey

end Reversals

-- ---
-- What the calls of the ledger write
-- ---

/-- Every new journal but a reversal. -/
structure JournalEntry.Original (entry : JournalEntry) : Prop where
  posted : entry.status = .posted
  reverses : entry.reversedFromId = none
  lines : ∀ line ∈ entry.lines, line.orgId = entry.orgId ∧ 0 ≤ line.amount

/-- What a reversal is posted as. -/
structure JournalEntry.Reverses (entry : JournalEntry) (originalId : Id) (original : JournalEntry) :
    Prop where
  turns : TurnsRound entry original
  posted : entry.status = .posted
  names : entry.reversedFromId = some originalId

def markReversed (reversalId : Id) (original : JournalEntry) : JournalEntry :=
  { original with status := .reversed, reversalOfId := some reversalId }

/-- An invariant of the journals under the two writes the calls make. -/
structure JournalInvariant (I : Table JournalEntry → Prop) : Prop where
  insert : ∀ t entry, I t → entry.Original → I (t.insert entry)
  reverse : ∀ t entry k original, I t → t.get? k = some original → original.status = .posted →
    entry.Reverses k original → I ((t.insert entry).update k (markReversed t.next))

theorem persist_nonneg {amount : Amount} (h : 0 ≤ amount) : 0 ≤ persist amount :=
  roundHalfUp_nonneg (Rat.num_nonneg.mpr h) (by exact_mod_cast amount.den_pos)

variable {s t : Books}

theorem createJournal_original (h : createJournal orgId branchId userId dto s = .ok journalId t) :
    (dto.entry s orgId branchId userId).Original := by
  refine ⟨rfl, rfl, ?_⟩
  simp only [createJournal, bind_ok, ensure_ok, List.all_eq_true, decide_eq_true_eq] at h
  obtain ⟨_, _, ⟨hpositive, -⟩, -⟩ := h
  intro line hline
  obtain ⟨request, hrequest, rfl⟩ := List.mem_map.mp hline
  exact ⟨rfl, persist_nonneg (le_of_lt (hpositive request hrequest))⟩

theorem postingEntry_original (s : Books) (p : ReplayPosting) (accounts : Id × Id)
    (journalNumber : String) : (postingEntry s p accounts journalNumber).Original := by
  refine ⟨rfl, rfl, ?_⟩
  simp [postingEntry]

namespace JournalInvariant

variable {I : Table JournalEntry → Prop}

theorem createJournal (hI : JournalInvariant I) (h : I s.journalEntries)
    (hok : LedgerService.createJournal orgId branchId userId dto s = .ok journalId t) :
    I t.journalEntries := by
  have horiginal := createJournal_original hok
  obtain ⟨-, -, rfl⟩ := createJournal_ok hok
  exact hI.insert _ _ h horiginal

theorem reverseJournal (hI : JournalInvariant I) (h : I s.journalEntries)
    (hok : LedgerService.reverseJournal orgId journalId userId reason s = .ok reversalId t) :
    I t.journalEntries := by
  obtain ⟨original, hget, rfl, hposted, -, rfl⟩ := reverseJournal_ok hok
  exact hI.reverse _ _ _ _ h hget hposted ⟨reversal_turnsRound .., rfl, rfl⟩

theorem replayPosting (hI : JournalInvariant I) (h : I s.journalEntries) (p : ReplayPosting) :
    I (LedgerService.replayPosting s p).1.journalEntries := by
  unfold LedgerService.replayPosting
  cases findSucceededRun s p with
  | some row => exact h
  | none =>
    simp only
    cases findSourceMap (createRun s p) p with
    | none => exact h
    | some accounts =>
      simp only
      split
      · exact h
      · exact hI.insert _ _ h (postingEntry_original ..)

theorem perform (hI : JournalInvariant I) (h : I s.journalEntries) (call : LedgerCall) :
    I (call.perform s).journalEntries := by
  cases call with
  | createJournal ctx userId dto =>
    refine ((Reads.ensure _ _).then fun _ => createJournal_atomic _ _ _ _).elim
      (P := fun t => I t.journalEntries) h ?_
    intro journalId t hok
    simp only [bind_ok, ensure_ok] at hok
    obtain ⟨_, _, ⟨-, rfl⟩, hcreated⟩ := hok
    exact hI.createJournal h hcreated
  | reverseJournal orgId journalId userId reason =>
    exact (reverseJournal_atomic _ _ _ _).elim (P := fun t => I t.journalEntries) h
      fun reversalId t hok => hI.reverseJournal h hok
  | replayPosting p => exact hI.replayPosting h p
  | createApPayment p =>
    refine AccountsPayableService.createApPayment_keeps (F := .preserves (I ·.journalEntries)) p
      (fun _ _ _ _ h => h) (fun _ _ _ h => h) ?_ s h
    intro paymentId paymentNumber accounts s journalId t _ hcreated h
    exact hI.createJournal h hcreated
  | createReceipt fate p =>
    refine AccountsReceivableService.createReceipt_keeps (F := .preserves (I ·.journalEntries))
      fate p (fun _ _ _ _ h => h) (fun _ _ _ h => h) ?_ s h
    intro receiptId receiptNumber accounts s journalId t _ _ hcreated h
    exact hI.createJournal h hcreated
  | closeFiscalPeriod userId orgId periodId notes =>
    have hsame : (LedgerCall.perform s
        (.closeFiscalPeriod userId orgId periodId notes)).journalEntries =
        s.journalEntries := closeFiscalPeriod_journals userId orgId periodId notes s
    exact hsame ▸ h

/-- Any calls of the ledger. -/
theorem run (hI : JournalInvariant I) (hstart : I start.journalEntries)
    (h : Run recordAt (fun _ _ => True) start calls s) : I s.journalEntries :=
  h.invariant (I := fun s => I s.journalEntries) hstart fun s call hs _ =>
    hI.perform (s := { s with clock := call.1 }) hs call.2

end JournalInvariant

theorem journalInvariant_reversals : JournalInvariant Reversals where
  insert _ _ h hentry := h.insert hentry.posted hentry.reverses
  reverse _ _ _ _ h hget hposted hentry :=
    h.reverse hget hposted hentry.turns hentry.posted hentry.names fun _ => rfl

/-- What every journal of the calls is, a reversal or not. -/
structure JournalEntry.Recorded (entry : JournalEntry) : Prop where
  status : entry.status ≠ .draft
  lines : ∀ line ∈ entry.lines, line.orgId = entry.orgId ∧ 0 ≤ line.amount

theorem JournalEntry.Original.recorded (h : JournalEntry.Original entry) : entry.Recorded where
  status := by simp [h.posted]
  lines := h.lines

theorem JournalEntry.Reverses.recorded (h : JournalEntry.Reverses entry originalId original)
    (horiginal : original.Recorded) : entry.Recorded where
  status := by simp [h.posted]
  lines := by
    intro line hline
    rw [h.turns.lines] at hline
    obtain ⟨source, hsource, rfl⟩ := List.mem_map.mp hline
    exact ⟨h.turns.orgId.symm, (horiginal.lines source hsource).2⟩

def Recorded (t : Table JournalEntry) : Prop :=
  ∀ k entry, t.get? k = some entry → entry.Recorded

theorem journalInvariant_recorded : JournalInvariant Recorded where
  insert t entry h hentry := by
    intro k row hget
    rcases Table.insert_cases hget with ⟨-, rfl⟩ | hget
    · exact hentry.recorded
    · exact h k row hget
  reverse t entry k original h horiginal _ hentry := by
    have hinserted (j : Nat) (row : JournalEntry) (hget : (t.insert entry).get? j = some row) :
        row.Recorded := by
      rcases Table.insert_cases hget with ⟨-, rfl⟩ | hget
      · exact hentry.recorded (h k original horiginal)
      · exact h j row hget
    intro j row hget
    rcases Table.update_cases hget with ⟨-, old, hold, rfl⟩ | ⟨-, hget⟩
    · exact ⟨by simp [markReversed], (hinserted j old hold).lines⟩
    · exact hinserted j row hget

end NimbusPos
