import NimbusPos.Ledger.Reversals
import NimbusPos.Lib.Program

/-!
# Reversals at once

A call reads the journal, whether it is reversed and the last journal number, and then posts
the reversal and marks the journal in one transaction, in which the unique columns refuse a
second reversal. So calls that overlap reverse a journal once, and one that fails leaves the
journals as they were.
-/

namespace NimbusPos.JournalReversals

open Lib Lib.Service Lib.Program
open LedgerService

-- ---
-- Statements
-- ---

/-- The writes of the transaction, and its end. -/
inductive ReversalWrite
  | create
  | update
  | commit
  deriving DecidableEq, Repr

structure ReverseJournal where
  orgId : Id
  journalId : Id
  userId : Id
  reason : Option String := none
  /-- What aborts the transaction there, beyond the checks of its constraints. -/
  aborts : ReversalWrite → Option String := fun _ => none

inductive Statement
  | findJournal (orgId journalId : Id)
  | findReversal (journalId : Id)
  | nextJournalNumber (orgId : Id)
  | reverse (p : ReverseJournal) (original : JournalEntry) (journalNumber : String)

abbrev Statement.Answer : Statement → Type
  | .findJournal .. => Option JournalEntry
  | .findReversal _ => Option (Id × JournalEntry)
  | .nextJournalNumber _ => String
  | .reverse .. => Id

/-- The reversal as it is created, with the number that was read before. -/
def reversalEntry (s : Books) (p : ReverseJournal) (original : JournalEntry)
    (journalNumber : String) : JournalEntry :=
  { reversal s p.orgId p.userId p.reason p.journalId original with journalNumber }

def reversalTaken (s : Books) (journalId : Id) : Bool :=
  (s.journalEntries.findFirst fun _ entry => entry.reversedFromId == some journalId).isSome

def abortAt (p : ReverseJournal) (write : ReversalWrite) : Acct Unit :=
  reject (p.aborts write) .error

def reversalTransaction (p : ReverseJournal) (original : JournalEntry) (journalNumber : String) :
    Acct Id :=
  transaction do
    let s ← get
    ensure (!numberTaken s p.orgId journalNumber) uniqueViolation
    ensure (!reversalTaken s p.journalId) uniqueViolation
    abortAt p .create
    modify (insertEntry · (reversalEntry s p original journalNumber))
    abortAt p .update
    modify fun t => { t with
      journalEntries := t.journalEntries.update p.journalId (markReversed s.journalEntries.next) }
    abortAt p .commit
    pure s.journalEntries.next

-- ---
-- Calls
-- ---

/-- The books, and which call reversed which journal. -/
structure World where
  books : Books
  made : List (Nat × Id) := []

def World.exec (call : Nat) (w : World) :
    (k : Statement) → World × Except AccountingError k.Answer
  | .findJournal orgId journalId =>
    (w, .ok ((w.books.journalEntries.get? journalId).filter (·.orgId == orgId)))
  | .findReversal journalId =>
    (w, .ok (w.books.journalEntries.findFirst fun _ entry =>
      entry.reversedFromId == some journalId))
  | .nextJournalNumber orgId => (w, .ok (LedgerService.nextJournalNumber w.books orgId))
  | .reverse p original journalNumber =>
    match reversalTransaction p original journalNumber w.books with
    | .ok id s => (⟨s, w.made ++ [(call, p.journalId)]⟩, .ok id)
    | .error e s => (⟨s, w.made⟩, .error e)

abbrev ReversalProgram := Program Statement Statement.Answer AccountingError

abbrev query (k : Statement) : ReversalProgram k.Answer := statement k

def ReverseJournal.program (p : ReverseJournal) : ReversalProgram Id := do
  let found ← query (.findJournal p.orgId p.journalId)
  let original ← need found (missing "Journal entry not found")
  ensure (original.status != .reversed) (refused "Journal is already reversed")
  ensure (original.status == .posted) (refused "Only POSTED journals can be reversed")
  let existing ← query (.findReversal p.journalId)
  ensure existing.isNone (refused "Journal already has a reversal entry")
  let journalNumber ← query (.nextJournalNumber p.orgId)
  query (.reverse p original journalNumber)

-- ---
-- The transaction
-- ---

variable {s t : Books} {p : ReverseJournal} {original : JournalEntry} {journalNumber : String}

theorem reversalTransaction_ok
    (h : reversalTransaction p original journalNumber s = .ok reversalId t) :
    reversalTaken s p.journalId = false ∧ reversalId = s.journalEntries.next ∧
      t.journalEntries =
        (s.journalEntries.insert (reversalEntry s p original journalNumber)).update p.journalId
          (markReversed s.journalEntries.next) := by
  simp only [reversalTransaction, abortAt, transaction_ok, bind_ok, get_ok, ensure_ok, reject_ok,
    modify_ok, pure_ok, Bool.not_eq_true'] at h
  obtain ⟨_, _, ⟨rfl, rfl⟩, _, _, ⟨-, rfl⟩, _, _, ⟨hfree, rfl⟩, _, _, ⟨-, rfl⟩, _, _, rfl, _, _,
    ⟨-, rfl⟩, _, _, rfl, _, _, ⟨-, rfl⟩, rfl, rfl⟩ := h
  exact ⟨hfree, rfl, rfl⟩

/-- The journal that is returned. -/
theorem reversalTransaction_stored
    (h : reversalTransaction p original journalNumber s = .ok reversalId t)
    (hget : s.journalEntries.get? p.journalId = some row) :
    t.journalEntries.get? reversalId = some (reversalEntry s p original journalNumber) := by
  obtain ⟨-, rfl, hjournals⟩ := reversalTransaction_ok h
  rw [hjournals, Table.get?_update_ne _ _ (Nat.ne_of_gt (Table.lt_next hget))]
  exact Table.get?_insert_self _ _

theorem reversalTransaction_error
    (h : reversalTransaction p original journalNumber s = .error e t) : t = s :=
  transaction_atomic _ s e t h

theorem reversalTransaction_reverseEntry (hnumber : numberTaken s p.orgId journalNumber = false)
    (hfree : reversalTaken s p.journalId = false) (haborts : ∀ write, p.aborts write = none) :
    reversalTransaction p original journalNumber s =
      .ok s.journalEntries.next
        (reverseEntry s p.journalId (reversalEntry s p original journalNumber)) := by
  simp only [reversalTransaction, abortAt, haborts, transaction_ok, bind_ok, get_ok, ensure_ok,
    reject_ok, modify_ok, pure_ok, Bool.not_eq_true']
  exact ⟨_, _, ⟨rfl, rfl⟩, (), _, ⟨hnumber, rfl⟩, (), _, ⟨hfree, rfl⟩, (), _, ⟨trivial, rfl⟩, (), _,
    rfl, (), _, ⟨trivial, rfl⟩, (), _, rfl, (), _, ⟨trivial, rfl⟩, rfl, rfl⟩

/-- A call with no other between its statements does what the ledger's call does. -/
theorem run_reverseJournal (haborts : ∀ write, p.aborts write = none)
    (h : reverseJournal p.orgId p.journalId p.userId p.reason s = .ok reversalId t) :
    p.program.run (World.exec i) ⟨s, made⟩ =
      (⟨t, made ++ [(i, p.journalId)]⟩, .ok reversalId) := by
  simp only [reverseJournal, bind_ok, ensure_ok, get_ok, need_ok, modify_ok, pure_ok, bne_iff_ne,
    beq_iff_eq, Bool.not_eq_true', Option.isNone_iff_eq_none] at h
  obtain ⟨_, _, ⟨rfl, rfl⟩, original, _, ⟨hfound, rfl⟩, _, _, ⟨-, rfl⟩, _, _, ⟨hposted, rfl⟩,
    _, _, ⟨hfree, rfl⟩, _, _, ⟨hnumber, rfl⟩, _, _, rfl, rfl, rfl⟩ := h
  have htaken : reversalTaken s p.journalId = false := by simp [reversalTaken, hfree]
  have hreversed : reversalTransaction p original (nextJournalNumber s p.orgId) s =
      .ok s.journalEntries.next (reverseEntry s p.journalId
        (reversal s p.orgId p.userId p.reason p.journalId original)) :=
    reversalTransaction_reverseEntry hnumber htaken haborts
  simp [ReverseJournal.program, query, statement, Bind.bind, Program.bind, Program.run,
    World.exec, hfound, hposted, hfree, Program.need, Program.ensure, pure, hreversed]

-- ---
-- One statement
-- ---

/-- The row is the one it was but for the mark, and a posted journal is no draft again. -/
structure SameJournal (a b : JournalEntry) : Prop where
  row : b = { a with status := b.status, reversalOfId := b.reversalOfId }
  status : a.status ≠ .draft → b.status ≠ .draft

theorem SameJournal.refl (a : JournalEntry) : SameJournal a a := ⟨rfl, id⟩

theorem SameJournal.trans (a b c : JournalEntry) (h : SameJournal a b) (h' : SameJournal b c) :
    SameJournal a c where
  row := by
    have hb := h.row
    have hc := h'.row
    rw [hb] at hc
    exact hc
  status := fun hdraft => h'.status (h.status hdraft)

theorem SameJournal.marked (a : JournalEntry) (reversalId : Id) :
    SameJournal a (markReversed reversalId a) := by
  refine ⟨rfl, fun _ => ?_⟩
  simp [markReversed]

/-- What is sent to be reversed was a journal of the organisation and is still there. -/
def ready (w : World) : Statement → Prop
  | .reverse p original _ => original.orgId = p.orgId ∧ original.status ≠ .draft ∧
    ∃ row, w.books.journalEntries.get? p.journalId = some row ∧ SameJournal original row
  | _ => True

structure Sound (w : World) : Prop where
  reversals : Reversals w.books.journalEntries
  made : ∀ call k, (call, k) ∈ w.made →
    ∃ j turned, w.books.journalEntries.get? j = some turned ∧ turned.reversedFromId = some k
  once : (w.made.map (·.2)).Nodup

/-- Journals stay but for their marks, and so do the calls that reversed one. -/
def reversalFrame : Frame World where
  rel w v := Table.Grows SameJournal w.books.journalEntries v.books.journalEntries ∧
    ∀ made ∈ w.made, made ∈ v.made
  refl _ := ⟨.refl SameJournal.refl _, fun _ h => h⟩
  trans h h' := ⟨h.1.trans SameJournal.trans h'.1, fun made hmem => h'.2 made (h.2 made hmem)⟩

variable {w v : World} {i : Nat}

theorem reversalEntry_turnsRound (hsame : SameJournal original row)
    (horg : original.orgId = p.orgId) :
    TurnsRound (reversalEntry s p original journalNumber) row := by
  rw [hsame.row]
  exact ⟨horg.symm, rfl, rfl, by rw [horg]; rfl⟩

/-- The transaction, which finds the journal unreversed, or changes nothing. -/
theorem reverse_sound (h : Sound w) (hready : ready w (.reverse p original journalNumber)) :
    Sound (w.exec i (.reverse p original journalNumber)).1 ∧
      reversalFrame.rel w (w.exec i (.reverse p original journalNumber)).1 := by
  obtain ⟨horg, hdraft, row, hget, hsame⟩ := hready
  simp only [World.exec]
  cases hresult : reversalTransaction p original journalNumber w.books with
  | error e s =>
    rw [reversalTransaction_error hresult]
    exact ⟨h, reversalFrame.refl w⟩
  | ok reversalId s =>
    have hstored := reversalTransaction_stored hresult hget
    obtain ⟨htaken, rfl, hjournals⟩ := reversalTransaction_ok hresult
    have hfree : ¬ Reversals.Named w.books.journalEntries p.journalId := by
      rintro ⟨j, turned, hturned, hnames⟩
      simp only [reversalTaken, Option.isSome_eq_false_iff, Option.isNone_iff_eq_none,
        Table.findFirst_none, beq_eq_false_iff_ne] at htaken
      exact htaken j turned hturned hnames
    have hposted := h.reversals.posted_of_not_named hget (hsame.status hdraft) hfree
    have hreversals : Reversals s.journalEntries := by
      rw [hjournals]
      exact h.reversals.reverse hget hposted (reversalEntry_turnsRound hsame horg) rfl rfl
        fun _ => rfl
    have hgrows : Table.Grows SameJournal w.books.journalEntries s.journalEntries := by
      rw [hjournals]
      exact (Table.Grows.insert SameJournal.refl _ _).trans SameJournal.trans
        (.update SameJournal.refl (fun a => .marked a _) _ _)
    have hkeeps (j : Nat) (turned : JournalEntry)
        (hturned : w.books.journalEntries.get? j = some turned) :
        ∃ turned', s.journalEntries.get? j = some turned' ∧
          turned'.reversedFromId = turned.reversedFromId := by
      obtain ⟨turned', hturned', hsame'⟩ := hgrows.forth j turned hturned
      exact ⟨turned', hturned', by rw [hsame'.row]⟩
    refine ⟨⟨hreversals, ?_, ?_⟩, hgrows, fun made hmem => List.mem_append_left _ hmem⟩
    · intro call k hmem
      rcases List.mem_append.mp hmem with hmem | hmem
      · obtain ⟨j, turned, hturned, hnames⟩ := h.made call k hmem
        obtain ⟨turned', hturned', hnames'⟩ := hkeeps j turned hturned
        exact ⟨j, turned', hturned', hnames'.trans hnames⟩
      · obtain ⟨rfl, rfl⟩ := Prod.mk.inj (List.mem_singleton.mp hmem)
        exact ⟨_, _, hstored, rfl⟩
    · rw [List.map_append, List.nodup_append]
      refine ⟨h.once, List.nodup_singleton _, ?_⟩
      rintro k hk _ hk' rfl
      obtain rfl := List.mem_singleton.mp hk'
      obtain ⟨⟨call, k⟩, hmem, rfl⟩ := List.mem_map.mp hk
      exact hfree (h.made call _ hmem)

-- ---
-- The calls
-- ---

def discipline : Discipline World.exec where
  inv := Sound
  rely _ := reversalFrame
  needs _ := ready
  allowed _ _ := True
  keeps i w k h hready _ := by
    cases k with
    | reverse p original journalNumber =>
      obtain ⟨hsound, hrel⟩ := reverse_sound h hready
      exact ⟨hsound, fun _ _ => hrel⟩
    | _ => exact ⟨h, fun _ _ => reversalFrame.refl w⟩

/-- A call that returned has reversed its journal. -/
def returns (p : ReverseJournal) (i : Nat) (result : Except AccountingError Id) (w : World) :
    Prop :=
  ∀ reversalId, result = .ok reversalId → (i, p.journalId) ∈ w.made ∧
    ∃ turned, w.books.journalEntries.get? reversalId = some turned ∧
      turned.reversedFromId = some p.journalId

theorem returns_stays (hreturns : returns p i result w) (hrel : reversalFrame.rel w v) :
    returns p i result v := by
  intro reversalId hresult
  obtain ⟨hmade, turned, hturned, hnames⟩ := hreturns reversalId hresult
  obtain ⟨turned', hturned', hsame⟩ := hrel.1.forth reversalId turned hturned
  refine ⟨hrel.2 _ hmade, turned', hturned', ?_⟩
  rw [hsame.row]
  exact hnames

theorem returns_error (p : ReverseJournal) (i : Nat) (e : AccountingError) (w : World) :
    returns p i (.error e) w := by
  intro reversalId hresult
  cases hresult

theorem program_safe (p : ReverseJournal) (w : World) :
    p.program.Safe discipline i (returns p i) w := by
  have herror (e : AccountingError) (w : World) : returns p i (.error e) w := returns_error p i e w
  refine safe_read (fun w => (w.books.journalEntries.get? p.journalId).filter (·.orgId == p.orgId))
    (fun _ => rfl) (fun _ _ _ => trivial) fun w _ _ => ?_
  refine safe_need (fun original hfound => ?_) fun _ => herror _ _
  obtain ⟨hget, horg⟩ := Option.filter_eq_some_iff.mp hfound
  refine safe_ensure (fun _ => ?_) fun _ => herror _ _
  refine safe_ensure (fun hposted => ?_) fun _ => herror _ _
  have hdraft : original.status ≠ .draft := by simp [beq_iff_eq.mp hposted]
  -- What is known of the journal while the others go on.
  let known (w : World) := ∃ row, w.books.journalEntries.get? p.journalId = some row ∧
    SameJournal original row
  have hknown : known w := ⟨original, hget, .refl original⟩
  have hstays (w v : World) (h : known w) (hrel : reversalFrame.rel w v) : known v := by
    obtain ⟨row, hrow, hsame⟩ := h
    obtain ⟨row', hrow', hsame'⟩ := hrel.1.forth _ row hrow
    exact ⟨row', hrow', hsame.trans _ _ _ hsame'⟩
  refine safe_known known hstays (fun _ h => h) (fun _ _ => trivial) herror hknown ?_
  intro w existing hknown
  refine safe_ensure (fun _ => ?_) fun _ => herror _ _
  refine safe_known known hstays (fun _ h => h) (fun _ _ => trivial) herror hknown ?_
  intro w journalNumber hknown v hrel hsound
  refine ⟨⟨beq_iff_eq.mp horg, hdraft, hstays w v hknown hrel⟩, fun _ => ?_⟩
  simp only [World.exec]
  cases hresult : reversalTransaction p original journalNumber v.books with
  | error e s => exact returns_error p i e _
  | ok reversalId s =>
    intro id hid
    obtain rfl := Except.ok.inj hid
    obtain ⟨row, hrow, -⟩ := hstays w v hknown hrel
    exact ⟨List.mem_append_right _ (.head _), _, reversalTransaction_stored hresult hrow, rfl⟩

/-- The transaction is the last statement, and takes its writes back when it fails. -/
theorem program_writesLast (p : ReverseJournal) :
    p.program.WritesLast World.exec (·.books.journalEntries) := by
  refine writesLast_read (fun _ _ => rfl) fun _ => writesLast_need fun original _ => ?_
  refine writesLast_ensure fun _ => writesLast_ensure fun _ => ?_
  refine writesLast_read (fun _ _ => rfl) fun _ => writesLast_ensure fun _ => ?_
  refine writesLast_read (fun _ _ => rfl) fun journalNumber => writesLast_statement ?_
  intro i w e hrefused
  simp only [World.exec] at hrefused ⊢
  cases hresult : reversalTransaction p original journalNumber w.books with
  | ok reversalId s =>
    rw [hresult] at hrefused
    cases hrefused
  | error e s =>
    simp only
    rw [reversalTransaction_error hresult]

-- ---
-- Every interleaving
-- ---

def World.wait (w : World) (ms : Nat) : World :=
  { w with books := { w.books with clock := w.books.clock + ms } }

abbrev ReversalPool := Pool World (ReversalProgram Id)

abbrev take : ReversalPool → Program.Turn → ReversalPool :=
  Program.Turn.take World.exec World.wait

/-- The calls, none of which has started. -/
def requested (s : Books) (calls : List ReverseJournal) : ReversalPool where
  shared := { books := s }
  threads := calls.map (·.program)

/-- A journal is marked exactly when it has a reversal, has at most one, and the two cancel
on every account. -/
structure Cancels (t : Table JournalEntry) : Prop where
  marked : ∀ k entry, t.get? k = some entry →
    (entry.status = .reversed ↔ ∃ j turned, t.get? j = some turned ∧ turned.reversedFromId = some k)
  once : t.UniqueOn (·.reversedFromId)
  zero : ∀ j turned k, t.get? j = some turned → turned.reversedFromId = some k →
    ∃ entry, t.get? k = some entry ∧
      ∀ accountId, entry.net accountId + turned.net accountId = 0

theorem cancels_of_reversals {t : Table JournalEntry} (h : Reversals t) : Cancels t where
  marked := h.marked
  once := h.unique
  zero j turned k hturned hnames := by
    obtain ⟨entry, hentry, hturns⟩ := h.turns j turned k hturned hnames
    exact ⟨entry, hentry, hturns.net⟩

/-- What a call that returned has done. -/
structure Reversed (t : Table JournalEntry) (journalId reversalId : Id) : Prop where
  reversed : ∃ entry turned, t.get? journalId = some entry ∧ t.get? reversalId = some turned ∧
    entry.status = .reversed ∧ turned.reversedFromId = some journalId ∧
    ∀ accountId, entry.net accountId + turned.net accountId = 0

/-- In any interleaving of calls, from books whose reversals are in order: they stay so; a
call that returned has reversed its journal, and no other call has reversed the same one;
and no statement of a call that fails changes a journal. -/
theorem pool_reversals (hstart : Reversals s.journalEntries) (calls : List ReverseJournal)
    (turns : List Program.Turn) :
    let q := turns.foldl take (requested s calls)
    Cancels q.shared.books.journalEntries ∧
      (∀ (i : Nat) p reversalId, calls[i]? = some p →
        q.threads[i]? = some (.done (.ok reversalId)) →
        Reversed q.shared.books.journalEntries p.journalId reversalId) ∧
      (∀ (i j : Nat) p p' reversalId reversalId', calls[i]? = some p → calls[j]? = some p' →
        q.threads[i]? = some (.done (.ok reversalId)) →
        q.threads[j]? = some (.done (.ok reversalId')) → p.journalId = p'.journalId → i = j) ∧
      ∀ before later (i : Nat) e, turns = before ++ .call i :: later →
        q.threads[i]? = some (.done (.error e)) →
        ((before ++ [Program.Turn.call i]).foldl take
          (requested s calls)).shared.books.journalEntries =
          (before.foldl take (requested s calls)).shared.books.journalEntries := by
  intro q
  have hsafe : SafePool discipline (fun i result w => ∀ p ∈ calls[i]?, returns p i result w)
      (requested s calls) := by
    refine ⟨⟨hstart, by simp [requested], List.nodup_nil⟩, fun i x hx => ?_⟩
    simp only [requested, List.getElem?_map, Option.map_eq_some_iff] at hx
    obtain ⟨p, hp, rfl⟩ := hx
    refine (program_safe p _).mono fun result w hreturns p' hp' => ?_
    obtain rfl := Option.some.inj (hp.symm.trans hp')
    exact hreturns
  have hwait (w : World) (ms : Nat) (h : Sound w) :
      Sound (w.wait ms) ∧ ∀ i, (discipline.rely i).rel w (w.wait ms) :=
    ⟨⟨h.reversals, h.made, h.once⟩, fun _ => reversalFrame.refl w⟩
  have hended : SafePool discipline (fun i result w => ∀ p ∈ calls[i]?, returns p i result w) q :=
    hsafe.run_any (fun _ _ _ _ h hrel p hp => returns_stays (h p hp) hrel) hwait
      (fun _ _ => trivial) turns
  have hreturned (i : Nat) (p : ReverseJournal) (reversalId : Id) (hp : calls[i]? = some p)
      (hdone : q.threads[i]? = some (.done (.ok reversalId))) :=
    hended.ended hdone p hp reversalId rfl
  have hcancels := cancels_of_reversals hended.inv.reversals
  refine ⟨hcancels, ?_, ?_, ?_⟩
  · intro i p reversalId hp hdone
    obtain ⟨-, turned, hturned, hnames⟩ := hreturned i p reversalId hp hdone
    obtain ⟨entry, hentry, hzero⟩ := hcancels.zero _ turned _ hturned hnames
    have hmarked := (hcancels.marked _ entry hentry).mpr ⟨_, turned, hturned, hnames⟩
    exact ⟨entry, turned, hentry, hturned, hmarked, hnames, hzero⟩
  · intro i j p p' reversalId reversalId' hp hp' hdone hdone' hsame
    obtain ⟨hmade, -⟩ := hreturned i p reversalId hp hdone
    obtain ⟨hmade', -⟩ := hreturned j p' reversalId' hp' hdone'
    rw [← hsame] at hmade'
    have hpair := List.inj_on_of_nodup_map hended.inv.once hmade hmade' rfl
    exact congrArg Prod.fst hpair
  · rintro before later i e rfl hfailed
    have hwrites : ∀ x ∈ (requested s calls).threads,
        x.WritesLast World.exec (·.books.journalEntries) := by
      intro x hx
      obtain ⟨p, -, rfl⟩ := List.mem_map.mp hx
      exact program_writesLast p
    exact failed_reads hwrites hfailed

def firstReversal : ReverseJournal where
  orgId := 0
  journalId := 0
  userId := 7

/-- Three calls for one journal: the first is overtaken, the last aborts between its writes. -/
def overtaken : List ReverseJournal :=
  [firstReversal, firstReversal,
    { firstReversal with aborts := fun write => if write = .update then some "Timed out"
                         else none }]

def overtakenTurns : List Program.Turn := times 3 0 ++ times 4 2 ++ times 4 1 ++ times 1 0

def overtakenPool : ReversalPool := overtakenTurns.foldl take (requested booked overtaken)

theorem overtaken_results :
    overtakenPool.threads.map (·.result?) =
      [some (.error uniqueViolation), some (.ok 1), some (.error (.error "Timed out"))] := by
  decide +kernel

theorem pool_reversals_overtaken :
    Cancels overtakenPool.shared.books.journalEntries ∧
      Reversed overtakenPool.shared.books.journalEntries 0 1 := by
  have hstart : Reversals booked.journalEntries := Reversals.empty.insert rfl rfl
  obtain ⟨hcancels, hreversed, -⟩ := pool_reversals hstart overtaken overtakenTurns
  have hdone : overtakenPool.threads[1]? = some (.done (.ok 1)) := by
    have hsecond := congrArg (·[1]?) overtaken_results
    simp only [List.getElem?_map, Option.map_eq_some_iff, List.getElem?_cons_succ,
      List.getElem?_cons_zero] at hsecond
    obtain ⟨x, hx, hresult⟩ := hsecond
    rw [hx, eq_done hresult]
  exact ⟨hcancels, hreversed 1 firstReversal 1 rfl hdone⟩

end NimbusPos.JournalReversals
