import NimbusPos.Ledger.Service
import NimbusPos.Lib.Run

/-!
# One posting for a source document

A replay looks for a run of its key that succeeded, posts a journal and then marks
its run. Nothing but the mark tells a later call of the journal. So one journal is
posted for a document when a call that finds no run marked has none to find: no
journal was posted yet, and no other call is on its way to post one. Run alone, the
statements of a replay do what `replayPosting` does.
-/

namespace NimbusPos.LedgerService

open Lib Lib.Service

-- ---
-- A replay, statement by statement
-- ---

inductive ReplayStage
  | findRun
  | logStarted
  | createRun
  | findSourceMap (runId : Id)
  | readNumber (runId : Id) (accounts : Id × Id)
  | createEntry (runId : Id) (accounts : Id × Id) (journalNumber : String)
  | succeedRun (runId journalId : Id)
  | logFinished (runId journalId : Id)
  | createError (runId : Id) (message : String)
  | failRun (runId : Id) (message : String)
  | logError (runId : Id) (message : String)
  | logFailed (runId : Id) (message : String)
  | threw (message : String)
  | returned (result : ReplayResult)
  deriving DecidableEq, Repr

structure ReplayThread where
  posting : ReplayPosting
  stage : ReplayStage := .findRun
  deriving DecidableEq, Repr

def uniqueMessage : String := "Unique constraint failed"

/-- `err.message || 'Unknown posting error'`. -/
def errorMessage (message : String) : String :=
  if message = "" then "Unknown posting error" else message

namespace ReplayThread

def goto (t : ReplayThread) (stage : ReplayStage) : ReplayThread := { t with stage }

/-- Go on when the statement was answered. -/
def after (t : ReplayThread) (fate : Fate) (failed : String → ReplayStage) (stage : ReplayStage) :
    ReplayThread :=
  t.goto (fate.error?.elim stage failed)

/-- The next statement of the replay, which ends as `fate` says. -/
def advance (fate : Fate) (s : Books) (t : ReplayThread) : Books × ReplayThread :=
  let p := t.posting
  match t.stage with
  | .findRun =>
    match findSucceededRun s p with
    | some (runId, _) => (s, t.after fate .threw (.returned (.alreadyPosted runId)))
    | none => (s, t.after fate .threw .logStarted)
  | .logStarted => (s, t.after fate .threw .createRun)
  | .createRun => (fate.write s (LedgerService.createRun s p),
      t.after fate .threw (.findSourceMap s.postingRuns.next))
  | .findSourceMap runId =>
    match LedgerService.findSourceMap s p with
    | some accounts => (s, t.after fate (.createError runId) (.readNumber runId accounts))
    | none => (s, t.after fate (.createError runId) (.createError runId (missingSourceMap p)))
  | .readNumber runId accounts =>
    (s, t.after fate (.createError runId)
      (.createEntry runId accounts (nextJournalNumber s p.orgId)))
  | .createEntry runId accounts journalNumber =>
    -- the unique constraint refuses a second journal of the number
    if numberTaken s p.orgId journalNumber then (s, t.goto (.createError runId uniqueMessage))
    else
      (fate.write s (insertEntry s (postingEntry s p accounts journalNumber)),
        t.after fate (.createError runId) (.succeedRun runId s.journalEntries.next))
  | .succeedRun runId journalId =>
    (fate.write s (LedgerService.succeedRun s runId journalId),
      t.after fate (.createError runId) (.logFinished runId journalId))
  -- still inside the `try`
  | .logFinished runId journalId =>
    (s, t.after fate (.createError runId) (.returned (.posted runId journalId)))
  | .createError runId message =>
    (fate.write s (LedgerService.createError s p runId (errorMessage message)),
      t.after fate .threw (.failRun runId (errorMessage message)))
  | .failRun runId message =>
    (fate.write s (LedgerService.failRun s runId), t.after fate .threw (.logError runId message))
  | .logError runId message => (s, t.after fate .threw (.logFailed runId message))
  | .logFailed runId message => (s, t.after fate .threw (.returned (.failed runId message)))
  | .threw _ | .returned _ => (s, t)

end ReplayThread

theorem errorMessage_missingSourceMap (p : ReplayPosting) :
    errorMessage (missingSourceMap p) = missingSourceMap p := by
  have hne : missingSourceMap p ≠ "" :=
    fun hempty => absurd (String.append_eq_empty_iff.mp hempty).1 (by decide)
  rw [errorMessage, if_neg hne]

/-- The catch block, run alone. -/
theorem completes_createError (s : Books) (p : ReplayPosting) (runId : Id)
    (hmessage : errorMessage message = message) :
    Completes (ReplayThread.advance .applied) (·.stage = .returned (.failed runId message)) s
      ⟨p, .createError runId message⟩ (failRun (createError s p runId message) runId) := by
  have hstep : ReplayThread.advance .applied s ⟨p, .createError runId message⟩ =
      (createError s p runId message, ⟨p, .failRun runId message⟩) := by
    simp only [ReplayThread.advance, hmessage]
    rfl
  exact .step hstep (.step rfl (.step rfl (.step rfl (.of_ended rfl))))

/-- The statements of a replay, run alone and none failing, do what `replayPosting`
does. -/
theorem completes_replayPosting (s : Books) (p : ReplayPosting) :
    Completes (ReplayThread.advance .applied) (·.stage = .returned (replayPosting s p).2) s
      { posting := p }
      (replayPosting s p).1 := by
  unfold replayPosting
  cases hrun : findSucceededRun s p with
  | some row =>
    have hread : ReplayThread.advance .applied s { posting := p } =
        (s, ⟨p, .returned (.alreadyPosted row.1)⟩) := by
      simp only [ReplayThread.advance, hrun]
      rfl
    exact .step hread (.of_ended rfl)
  | none =>
    have hread : ReplayThread.advance .applied s { posting := p } = (s, ⟨p, .logStarted⟩) := by
      simp only [ReplayThread.advance, hrun]
      rfl
    have hlog : ReplayThread.advance .applied s ⟨p, .logStarted⟩ = (s, ⟨p, .createRun⟩) := rfl
    have hcreate : ReplayThread.advance .applied s ⟨p, .createRun⟩ =
        (createRun s p, ⟨p, .findSourceMap s.postingRuns.next⟩) := rfl
    refine .step hread (.step hlog (.step hcreate ?_))
    simp only
    generalize createRun s p = r
    cases hmap : findSourceMap r p with
    | none =>
      have hmissing : ReplayThread.advance .applied r ⟨p, .findSourceMap s.postingRuns.next⟩ =
          (r, ⟨p, .createError s.postingRuns.next (missingSourceMap p)⟩) := by
        simp only [ReplayThread.advance, hmap]
        rfl
      exact .step hmissing (completes_createError r p _ (errorMessage_missingSourceMap p))
    | some accounts =>
      have hfound : ReplayThread.advance .applied r ⟨p, .findSourceMap s.postingRuns.next⟩ =
          (r, ⟨p, .readNumber s.postingRuns.next accounts⟩) := by
        simp only [ReplayThread.advance, hmap]
        rfl
      have hread : ReplayThread.advance .applied r ⟨p, .readNumber s.postingRuns.next accounts⟩ =
          (r, ⟨p, .createEntry s.postingRuns.next accounts (nextJournalNumber r p.orgId)⟩) := rfl
      refine .step hfound (.step hread ?_)
      simp only [postingEntry_journalNumber]
      by_cases htaken : numberTaken r p.orgId (nextJournalNumber r p.orgId) = true
      · have hrefused : ReplayThread.advance .applied r
            ⟨p, .createEntry s.postingRuns.next accounts (nextJournalNumber r p.orgId)⟩ =
            (r, ⟨p, .createError s.postingRuns.next uniqueMessage⟩) := by
          simp only [ReplayThread.advance, htaken, if_true]
          rfl
        simp only [htaken, if_true]
        exact .step hrefused (completes_createError r p _ (by decide))
      · have hposted : ReplayThread.advance .applied r
            ⟨p, .createEntry s.postingRuns.next accounts (nextJournalNumber r p.orgId)⟩ =
            (insertEntry r (postingEntry r p accounts (nextJournalNumber r p.orgId)),
              ⟨p, .succeedRun s.postingRuns.next r.journalEntries.next⟩) := by
          simp only [ReplayThread.advance, htaken, Bool.false_eq_true, if_false]
          rfl
        simp only [htaken, Bool.false_eq_true, if_false]
        exact .step hposted (.step rfl (.step rfl (.of_ended rfl)))

-- ---
-- The journals of a source document
-- ---

structure Source where
  orgId : Id
  sourceKey : String
  document : Option String
  deriving DecidableEq, Repr

def ReplayPosting.source (p : ReplayPosting) : Source := ⟨p.orgId, p.sourceKey, p.document⟩

def journalsOf (s : Books) (source : Source) : Nat :=
  s.journalEntries.count fun _ entry =>
    entry.orgId == source.orgId && entry.sourceKey == some source.sourceKey &&
      entry.sourceDocumentId == source.document

theorem journalsOf_insertEntry (s : Books) (p : ReplayPosting) (accounts : Id × Id)
    (journalNumber : String) (source : Source) :
    journalsOf (insertEntry s (postingEntry s p accounts journalNumber)) source =
      journalsOf s source + if p.source = source then 1 else 0 := by
  obtain ⟨orgId, sourceKey, document⟩ := source
  simp only [journalsOf, insertEntry, Table.count_insert, postingEntry, ReplayPosting.source,
    Source.mk.injEq, Bool.and_eq_true, beq_iff_eq, Option.some.injEq, and_assoc]

/-- No run of the key succeeded, and no journal is posted yet. -/
def ReplayStage.pending : ReplayStage → Bool
  | .logStarted | .createRun | .findSourceMap _ | .readNumber _ _ | .createEntry _ _ _ => true
  | _ => false

namespace ReplayThread

/-- On its way to post a journal of the source. -/
def pending (source : Source) (t : ReplayThread) : Nat :=
  if t.posting.source = source ∧ t.stage.pending = true then 1 else 0

/-- About to look for a run, and there is none that succeeded. -/
def misses (s : Books) (t : ReplayThread) : Prop :=
  t.stage = .findRun ∧ findSucceededRun s t.posting = none

instance : Decidable (misses s t) := inferInstanceAs (Decidable (_ ∧ _ = none))

theorem pending_after {t : ReplayThread} {failed : String → ReplayStage} {stage : ReplayStage}
    (fate : Fate) (source : Source) (hfailed : ∀ message, (failed message).pending = false) :
    (t.after fate failed stage).pending source ≤ (t.goto stage).pending source := by
  unfold after
  cases fate with
  | applied => exact Nat.le_refl _
  | refused message | unanswered message =>
    simp only [Fate.error?, Option.elim, pending, goto, hfailed, Bool.false_eq_true, and_false,
      if_false]
    exact Nat.zero_le _

/-- A statement that writes no journal and makes no replay pending. -/
theorem posts_none {t : ReplayThread} {failed : String → ReplayStage} {stage : ReplayStage}
    (fate : Fate) (source : Source) (hr : r.journalEntries = s.journalEntries)
    (hfailed : ∀ message, (failed message).pending = false)
    (hstage : stage.pending = true → t.stage.pending = true) :
    journalsOf r source + (t.after fate failed stage).pending source ≤
      journalsOf s source + t.pending source := by
  have hjournals : journalsOf r source = journalsOf s source := by rw [journalsOf, hr, journalsOf]
  rw [hjournals]
  refine Nat.add_le_add_left ((pending_after fate source hfailed).trans ?_) _
  by_cases hstill : (t.goto stage).posting.source = source ∧ (t.goto stage).stage.pending = true
  · exact Nat.le_of_eq (by rw [pending, pending, if_pos hstill, if_pos ⟨hstill.1, hstage hstill.2⟩])
  · rw [pending, if_neg hstill]
    exact Nat.zero_le _

theorem write_journalEntries {r : Books} (fate : Fate) (hr : r.journalEntries = s.journalEntries) :
    (fate.write s r).journalEntries = s.journalEntries := by
  cases fate <;> first | exact hr | rfl

/-- A statement that posts a journal was pending, and only one that misses becomes
pending. -/
theorem advance_posts (fate : Fate) (s : Books) (t : ReplayThread) (source : Source) :
    journalsOf (t.advance fate s).1 source + (t.advance fate s).2.pending source ≤
        journalsOf s source + t.pending source ∨
      (fate.error? = none ∧ t.misses s ∧ t.posting.source = source ∧
        journalsOf (t.advance fate s).1 source + (t.advance fate s).2.pending source =
          journalsOf s source + t.pending source + 1) := by
  obtain ⟨p, stage⟩ := t
  cases stage with
  | findRun =>
    simp only [advance]
    cases hrun : findSucceededRun s p with
    | some row => exact .inl (posts_none fate source rfl (fun _ => rfl) nofun)
    | none =>
      cases hfate : fate.error? with
      | some message =>
        refine .inl ?_
        simp [after, goto, hfate, pending, ReplayStage.pending]
      | none =>
        by_cases hsource : p.source = source
        · refine .inr ⟨rfl, ⟨rfl, hrun⟩, hsource, ?_⟩
          simp [after, goto, hfate, pending, ReplayStage.pending, hsource]
        · refine .inl ?_
          simp [after, goto, hfate, pending, hsource]
  | logStarted => exact .inl (posts_none fate source rfl (fun _ => rfl) fun _ => rfl)
  | createRun =>
    exact .inl (posts_none fate source (write_journalEntries fate rfl) (fun _ => rfl) fun _ => rfl)
  | findSourceMap runId =>
    refine .inl ?_
    simp only [advance]
    split
    · exact posts_none fate source rfl (fun _ => rfl) fun _ => rfl
    · exact posts_none fate source rfl (fun _ => rfl) nofun
  | readNumber runId accounts => exact .inl (posts_none fate source rfl (fun _ => rfl) fun _ => rfl)
  | createEntry runId accounts journalNumber =>
    refine .inl ?_
    simp only [advance]
    split
    · simp [pending, goto, ReplayStage.pending]
    · have hended : (after ⟨p, .createEntry runId accounts journalNumber⟩ fate (.createError runId)
          (.succeedRun runId s.journalEntries.next)).pending source ≤ _ := pending_after fate source
            fun _ => rfl
      have hposts : journalsOf
          (fate.write s (insertEntry s (postingEntry s p accounts journalNumber))) source ≤
          journalsOf s source + if p.source = source then 1 else 0 := by
        rcases fate.write_cases s
          (insertEntry s (postingEntry s p accounts journalNumber)) with hwrite | hwrite
        · rw [hwrite, journalsOf_insertEntry]
        · rw [hwrite]
          exact Nat.le_add_right _ _
      simp only [pending, goto, ReplayStage.pending, Bool.false_eq_true, and_false, and_true,
        if_false] at hended ⊢
      omega
  | succeedRun runId journalId =>
    exact .inl (posts_none fate source (write_journalEntries fate rfl) (fun _ => rfl) nofun)
  | logFinished runId journalId => exact .inl (posts_none fate source rfl (fun _ => rfl) nofun)
  | createError runId message | failRun runId message =>
    exact .inl (posts_none fate source (write_journalEntries fate rfl) (fun _ => rfl) nofun)
  | logError runId message | logFailed runId message =>
    exact .inl (posts_none fate source rfl (fun _ => rfl) nofun)
  | threw message | returned result => exact .inl (Nat.le_refl _)

end ReplayThread

-- ---
-- Interleavings
-- ---

/-- The replay that takes its next statement, how the statement ends, and when. -/
structure Turn where
  thread : Nat
  fate : Fate := .applied
  now : Time := 0
  deriving DecidableEq, Repr

def setClock (p : Pool Books ReplayThread) (now : Time) : Pool Books ReplayThread :=
  { p with shared := { p.shared with clock := now } }

def takeTurn (p : Pool Books ReplayThread) (turn : Turn) : Pool Books ReplayThread :=
  (setClock p turn.now).step (ReplayThread.advance turn.fate) turn.thread

def replays (s : Books) (postings : List ReplayPosting) : Pool Books ReplayThread :=
  ⟨s, postings.map fun posting => { posting }⟩

/-- A replay that finds no run that succeeded finds none because there is no journal:
none of the source was posted since `start`, and no other replay is about to post one. -/
def missesRightly (start : Books) (p : Pool Books ReplayThread) (turn : Turn) : Prop :=
  ∀ t ∈ p.threads[turn.thread]?, turn.fate.error? = none → t.misses p.shared →
    journalsOf p.shared t.posting.source = journalsOf start t.posting.source ∧
      ∀ other ∈ p.threads, other.pending t.posting.source = 0

instance : Decidable (missesRightly start p i) :=
  inferInstanceAs (Decidable (∀ t ∈ p.threads[i.thread]?, _))

theorem turn_posts {start : Books} {p : Pool Books ReplayThread} {source : Source}
    (h : journalsOf p.shared source + p.weight (·.pending source) ≤ journalsOf start source + 1)
    (hok : missesRightly start p i) :
    journalsOf (takeTurn p i).shared source + (takeTurn p i).weight (·.pending source) ≤
      journalsOf start source + 1 := by
  cases ht : p.threads[i.thread]? with
  | none =>
    have hsame : takeTurn p i = setClock p i.now := by simp [takeTurn, Pool.step, setClock, ht]
    rw [hsame]
    exact h
  | some t =>
    rcases t.advance_posts i.fate { p.shared with clock := i.now } source with hle |
      ⟨hfate, hmisses, rfl, hone⟩
    · exact (Pool.weight_step_le (p := setClock p i.now) (c := 0) (journalsOf · source)
        (·.pending source) ht hle).trans h
    · obtain ⟨hnone, hidle⟩ := hok t ht hfate hmisses
      have hstep := Pool.weight_step (p := setClock p i.now) (journalsOf · t.posting.source)
        (·.pending t.posting.source) ht hone
      have hbefore : (setClock p i.now).weight (·.pending t.posting.source) = 0 :=
        Pool.weight_eq_zero hidle
      have hjournals : journalsOf (setClock p i.now).shared t.posting.source =
          journalsOf start t.posting.source := hnone
      rw [hbefore, hjournals] at hstep
      exact Nat.le_of_eq hstep

/-- In every interleaving of replays that miss rightly, whatever statements fail, one
journal at most is posted for each source document. -/
theorem run_one_journal (h : Run takeTurn (missesRightly s) (replays s postings) turns p)
    (source : Source) :
    journalsOf p.shared source ≤ journalsOf s source + 1 := by
  refine Nat.le_of_add_right_le (h.invariant
    (I := fun p => journalsOf p.shared source + p.weight (·.pending source) ≤
      journalsOf s source + 1) ?_ fun _ _ =>
      turn_posts)
  have hidle : (replays s postings).weight (·.pending source) = 0 := by
    apply Pool.weight_eq_zero
    intro t ht
    obtain ⟨posting, _, rfl⟩ := List.mem_map.mp ht
    simp [ReplayThread.pending, ReplayStage.pending]
  rw [hidle]
  exact Nat.le_succ _

-- ---
-- Concrete replays
-- ---

/-- A ledger that knows where to post sales. -/
def mapped : Books where
  postingSourceMaps := Table.empty.insert
    { orgId := 0, sourceKey := "POS_SALE", debitAccountId := some 0, creditAccountId := some 1 }

def sale : ReplayPosting where
  orgId := 0
  userId := 0
  sourceKey := "POS_SALE"
  sourceDocumentId := some "order-1"

def afterTurns (turns : List Turn) : Books :=
  (turns.foldl takeTurn (replays mapped [sale, sale])).shared

/-- A replay whose insert is refused, its retry, and one more. -/
theorem run_one_journal_retry :
    let turns := (List.replicate 5 ⟨0, .applied, 1⟩ ++ [⟨0, .refused "", 2⟩] ++
      List.replicate 4 ⟨0, .applied, 3⟩) ++
      List.replicate 8 ⟨1, .applied, 4⟩ ++ [⟨2, .applied, 5⟩]
    let p := turns.foldl takeTurn (replays mapped [sale, sale, sale])
    Run takeTurn (missesRightly mapped) (replays mapped [sale, sale, sale]) turns p ∧
      journalsOf p.shared sale.source ≤ journalsOf mapped sale.source + 1 := by
  intro turns p
  have hrun : Run takeTurn (missesRightly mapped) (replays mapped [sale, sale, sale]) turns p :=
    Run.of_holds (by decide +kernel)
  exact ⟨hrun, run_one_journal hrun sale.source⟩

/-- A replay that is retried after its run was not marked, and two replays that both
look before either posts. -/
theorem replay_posts_twice :
    ¬(∀ first second, (∀ i ∈ first, i.thread = 0) → (∀ i ∈ second, i.thread = 1) →
      journalsOf (afterTurns (first ++ second)) sale.source ≤ journalsOf mapped sale.source + 1) ∧
    ¬(∀ turns, (∀ i ∈ turns, i.fate = .applied) →
      journalsOf (afterTurns turns) sale.source ≤ journalsOf mapped sale.source + 1) := by
  constructor
  · intro h
    have htwice := h (List.replicate 6 ⟨0, .applied, 1⟩ ++ [⟨0, .refused "", 2⟩] ++
        List.replicate 4 ⟨0, .applied, 3⟩)
      (List.replicate 8 ⟨1, .applied, 4⟩) (by decide) (by decide)
    exact absurd htwice (by decide +kernel)
  · intro h
    have htwice := h (⟨0, .applied, 1⟩ :: ⟨1, .applied, 1⟩ :: List.replicate 7 ⟨0, .applied, 2⟩ ++
      List.replicate 7 ⟨1, .applied, 3⟩) (by decide)
    exact absurd htwice (by decide +kernel)

end NimbusPos.LedgerService
