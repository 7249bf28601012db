import NimbusPos.Reliability.EffectOnce

/-!
# Intents

A dialog asks for a key when its user confirms, keeps it while the outcome is
unknown, and drops it after a success or a material change. Behind it the server
answers a key at most once. Over every run of dialogs and server, whatever answers
are lost and whatever statements fail, the handlers that ran are of as many
intents, and a success that a dialog is told of is backed by a handler.
-/

namespace NimbusPos.IdempotencyService

open Lib

-- ---
-- Dialogs
-- ---

def buildOperationalIdempotencyKey (operation : String) (orderId : Option String)
    (suffix : String) : String :=
  ":".intercalate (["ops", operation, (orderId.filter (· ≠ "")).getD "-", suffix].filter (· ≠ ""))

/-- What a dialog is of, and whether its `onError` drops the intent. -/
structure Surface where
  operation : String
  orderId : Option String := none
  scope : Option String := none
  routeMethod : String := "POST"
  routePath : String
  actorUserId : Option Id := none
  orgId : Option Id := none
  resetsOnError : Bool := false
  deriving DecidableEq, Repr

/-- The keys it has had, and what it was told, are kept. -/
structure Dialog where
  surface : Surface
  /-- Of its intent. A built key starts with `ops`, so none is empty. -/
  key : Option String := none
  keys : List String := []
  successes : Nat := 0
  errors : Nat := 0
  edits : Nat := 0
  deriving DecidableEq, Repr

def Surface.ctx {φ : Type} (surface : Surface) (key : String) (fingerprintSource : φ) :
    IdempotencyContext φ where
  key := key
  scope := surface.scope
  routeMethod := surface.routeMethod
  routePath := surface.routePath
  actorUserId := surface.actorUserId
  orgId := surface.orgId
  fingerprintSource := fingerprintSource

namespace Dialog

/-- What its requests were sent under. -/
def identities (dialog : Dialog) : List KeyIdentity :=
  dialog.keys.map fun key => (dialog.surface.ctx key ()).identity

def reset (dialog : Dialog) : Dialog := { dialog with key := none }

def onSuccess (dialog : Dialog) : Dialog :=
  { dialog.reset with successes := dialog.successes + 1 }

def onError (dialog : Dialog) : Dialog :=
  let told := { dialog with errors := dialog.errors + 1 }
  if dialog.surface.resetsOnError then told.reset else told

def onChange (dialog : Dialog) : Dialog := { dialog.reset with edits := dialog.edits + 1 }

/-- How often its intent was dropped. -/
def resets (dialog : Dialog) : Nat :=
  dialog.successes + dialog.edits + if dialog.surface.resetsOnError then dialog.errors else 0

end Dialog

-- ---
-- Dialogs and a server
-- ---

variable {φ β σ : Type}

structure Floor (φ β σ : Type) where
  server : Pool (Backend β σ) (WrapThread φ β σ)
  dialogs : List Dialog
  /-- Suffixes drawn. -/
  drawn : Nat := 0

inductive Act (φ β σ : Type)
  | confirm (dialog : Nat) (payload : φ) (handler : σ → σ × Execution β)
  | change (dialog : Nat)
  | serve (request : Nat) (fate : Fate)
  | answer (dialog request : Nat)
  /-- No answer reaches the dialog. -/
  | lose (dialog : Nat)

/-- A request that was sent. -/
def Call.request (call : Call φ β σ) : WrapThread φ β σ := { call }

namespace Floor

variable (randomSuffix : Nat → String) (fingerprint : φ → String)

def send (f : Floor φ β σ) (call : Call φ β σ) : Floor φ β σ :=
  { f with server := { f.server with threads := f.server.threads ++ [call.request] } }

def setDialog (f : Floor φ β σ) (i : Nat) (dialog : Dialog) : Floor φ β σ :=
  { f with dialogs := f.dialogs.set i dialog }

/-- `mutationFn`, which sends the request under `intent.begin()`. -/
def confirm (f : Floor φ β σ) (i : Nat) (dialog : Dialog) (payload : φ)
    (handler : σ → σ × Execution β) : Floor φ β σ :=
  match dialog.key with
  | some key => f.send ⟨dialog.surface.ctx key payload, handler⟩
  | none =>
    let key := buildOperationalIdempotencyKey dialog.surface.operation dialog.surface.orderId
      (randomSuffix f.drawn)
    { (f.send ⟨dialog.surface.ctx key payload, handler⟩).setDialog i
        { dialog with key := some key, keys := key :: dialog.keys } with drawn := f.drawn + 1 }

/-- What the dialog does with the answer of a request of its own. -/
def told (dialog : Dialog) (t : WrapThread φ β σ) : Dialog :=
  if t.call.ctx.identity ∈ dialog.identities then
    match t.stage with
    | .done (.returned _) => dialog.onSuccess
    | .done (.threw _) => dialog.onError
    | _ => dialog
  else dialog

def step (f : Floor φ β σ) : Act φ β σ → Floor φ β σ
  | .confirm i payload handler =>
    match f.dialogs[i]? with
    | some dialog => f.confirm randomSuffix i dialog payload handler
    | none => f
  | .change i =>
    match f.dialogs[i]? with
    | some dialog => f.setDialog i dialog.onChange
    | none => f
  | .serve request fate => { f with server := turn fingerprint f.server (request, fate) }
  | .answer i request =>
    match f.dialogs[i]?, f.server.threads[request]? with
    | some dialog, some t => f.setDialog i (told dialog t)
    | _, _ => f
  | .lose i =>
    match f.dialogs[i]? with
    | some dialog => f.setDialog i dialog.onError
    | none => f

/-- Before the first confirmation. -/
def opened (world : σ) (surfaces : List Surface) : Floor φ β σ where
  server := ⟨{ world }, []⟩
  dialogs := surfaces.map fun surface => { surface }

end Floor

-- ---
-- What a statement can do
-- ---

variable (fingerprint : φ → String) {s s' : Backend β σ} {t t' : WrapThread φ β σ}
  {p : Pool (Backend β σ) (WrapThread φ β σ)}

/-- A handler ran whose outcome the body can come from. -/
def WrapThread.Backs (t : WrapThread φ β σ) (body : Option β) : Prop :=
  ∃ execution, t.execution = some execution ∧
    (body = none ∨ ∃ result, execution = .ok result ∧ body = result.body.join)

inductive WrapThread.Moves (s : Backend β σ) (t : WrapThread φ β σ) :
    Backend β σ → WrapThread φ β σ → Prop
  | waits (stage : WrapStage β) (hunanswered : ∀ body, stage ≠ .done (.returned body)) :
      Moves s t s (t.goto stage)
  | told (recordId : Id) (existing : IdempotencyKey β) (requestHash : String)
      (hfind : IdempotencyService.findUnique s t.call.ctx.identity = some (recordId, existing))
      (hnew : t.hit = none) :
      Moves s t s (t.told (existingHit requestHash recordId existing))
  | claims (hfree : IdempotencyService.findUnique s t.call.ctx.identity = none)
      (hnew : t.hit = none) :
      Moves s t (IdempotencyService.create fingerprint s t.call.ctx)
        (t.told (.first s.keys.next))
  /-- The row is inserted and the caller does not hear of it. -/
  | orphans (hfree : IdempotencyService.findUnique s t.call.ctx.identity = none)
      (hnew : t.hit = none) (error : Thrown) :
      Moves s t (IdempotencyService.create fingerprint s t.call.ctx) (t.goto (.done (.threw error)))
  | runs (recordId : Id) (stage : WrapStage β) (hfirst : t.hit = some (.first recordId))
      (hidle : t.execution = none) (hunanswered : ∀ body, stage ≠ .done (.returned body)) :
      Moves s t { s with world := (t.call.handler s.world).1 }
        { t with execution := some (t.call.handler s.world).2, stage }
  | records (recordId : Id) (opts : CompleteOptions β) (stage : WrapStage β)
      (hfirst : t.hit = some (.first recordId))
      (hbody : t.Backs none ∧ (opts.body = none ∨ ∃ result, t.execution = some (.ok result) ∧
        opts.body = result.body))
      (hanswered : ∀ body, stage = .done (.returned body) → t.Backs body) :
      Moves s t (IdempotencyService.complete s recordId opts) (t.goto stage)
  | ended : Moves s t s t

theorem WrapThread.Holds.moves (h : t.Holds) (fate : Fate) (s : Backend β σ) :
    WrapThread.Moves fingerprint s t (t.advance fingerprint fate s).1
      (t.advance fingerprint fate s).2 := by
  obtain ⟨call, stage, hit, execution⟩ := t
  cases stage with
  | findUnique =>
    simp only [WrapThread.advance]
    split
    · exact .waits _ (by simp)
    · exact .told _ _ _ ‹_› h.1
    · exact .waits _ (by simp)
  | create =>
    simp only [WrapThread.advance]
    cases hfind : IdempotencyService.findUnique s call.ctx.identity with
    | some row => exact .waits _ (by simp)
    | none =>
      cases fate with
      | applied => exact .claims hfind h.1
      | refused => exact .waits _ (by simp)
      | unanswered => exact .orphans hfind h.1 _
  | handler k =>
    have hruns (stage : WrapStage β) (hunanswered : ∀ body, stage ≠ .done (.returned body)) :
        WrapThread.Moves fingerprint s ⟨call, .handler k, hit, execution⟩
          { s with world := (call.handler s.world).1 }
          { call, hit, execution := some (call.handler s.world).2, stage } :=
      .runs k stage h.1 h.2 hunanswered
    cases hrun : call.handler s.world with
    | mk world outcome =>
      simp only [WrapThread.advance, hrun] at hruns ⊢
      cases outcome with
      | ok result => exact hruns (.complete k result) (by simp)
      | error error => exact hruns (.fail k error) (by simp)
  | complete k result =>
    obtain ⟨hfirst, hran⟩ := h
    have hbacks : WrapThread.Backs ⟨call, .complete k result, hit, execution⟩ none :=
      ⟨_, hran, .inl rfl⟩
    cases fate with
    | applied =>
      refine .records k _ _ hfirst ⟨hbacks, .inr ⟨result, hran, rfl⟩⟩ ?_
      rintro _ ⟨⟩
      exact ⟨_, hran, .inr ⟨result, rfl, rfl⟩⟩
    | refused => exact .waits _ (by simp [Fate.error?])
    | unanswered =>
      exact .records k _ _ hfirst ⟨hbacks, .inr ⟨result, hran, rfl⟩⟩ (by simp [Fate.error?])
  | fail k error =>
    obtain ⟨hfirst, hran⟩ := h
    obtain ⟨outcome, hran⟩ := Option.isSome_iff_exists.mp hran
    have hbacks : WrapThread.Backs ⟨call, .fail k error, hit, execution⟩ none :=
      ⟨_, hran, .inl rfl⟩
    cases fate with
    | applied | unanswered => exact .records k _ _ hfirst ⟨hbacks, .inl rfl⟩ (by simp)
    | refused => exact .waits _ (by simp)
  | done answer => exact .ended

namespace WrapThread

variable {fingerprint : φ → String}

theorem Moves.call (h : Moves fingerprint s t s' t') : t'.call = t.call := by cases h <;> rfl

/-- What a caller was told of its claim stays. -/
theorem Moves.first (h : Moves fingerprint s t s' t') (hfirst : t.hit = some (.first k)) :
    t'.hit = some (.first k) := by
  cases h with
  | told _ _ _ _ hnew | claims _ hnew => cases hnew.symm.trans hfirst
  | _ => exact hfirst

theorem Moves.backs (h : Moves fingerprint s t s' t') {body : Option β} (hbacks : t.Backs body) :
    t'.Backs body := by
  obtain ⟨execution, hran, hbody⟩ := hbacks
  cases h with
  | runs _ _ _ hidle => cases hidle.symm.trans hran
  | _ => exact ⟨execution, hran, hbody⟩

/-- A claim that is told was made. -/
theorem Moves.first_back (h : Moves fingerprint s t s' t') (hfirst : t'.hit = some (.first k)) :
    t.hit = some (.first k) ∨ t.hit = none ∧ k = s.keys.next ∧
      IdempotencyService.findUnique s t.call.ctx.identity = none ∧
        s' = IdempotencyService.create fingerprint s t.call.ctx := by
  cases h with
  | told recordId existing requestHash =>
    exact absurd (Option.some.inj hfirst) (existingHit_ne_first _ _ _ _)
  | claims hfree hnew => cases hfirst; exact .inr ⟨hnew, rfl, hfree, rfl⟩
  | _ => exact .inl hfirst

end WrapThread

-- ---
-- Rows and the calls behind them
-- ---

/-- A row has one call that claimed it, and records what that call's handler did; whatever is
answered was recorded. -/
structure Accounted (p : Pool (Backend β σ) (WrapThread φ β σ)) : Prop where
  holds : ∀ t ∈ p.threads, t.Holds
  unique : p.shared.keys.UniqueOn fun row => some row.identity
  owned : ∀ t ∈ p.threads, ∀ k, t.hit = some (.first k) →
    ∃ row, p.shared.keys.get? k = some row ∧ row.identity = t.call.ctx.identity
  sole : ∀ (i j : Nat) (t u : WrapThread φ β σ) (k : Id), p.threads[i]? = some t →
    p.threads[j]? = some u → t.hit = some (.first k) → u.hit = some (.first k) → i = j
  blank : ∀ k row, p.shared.keys.get? k = some row → row.status = .inFlight →
    row.responseBody = none
  recorded : ∀ k row, p.shared.keys.get? k = some row → row.status ≠ .inFlight →
    ∃ t ∈ p.threads, t.hit = some (.first k) ∧ t.Backs row.responseBody
  answered : ∀ t ∈ p.threads, ∀ body, t.stage = .done (.returned body) →
    ∃ u ∈ p.threads, u.call.ctx.identity = t.call.ctx.identity ∧ u.Backs body

theorem findUnique_none :
    findUnique s identity = none ↔ ∀ k row, s.keys.get? k = some row → row.identity ≠ identity := by
  simp [findUnique, Table.findFirst_none]

theorem findUnique_some (h : findUnique s identity = some (k, row)) :
    s.keys.get? k = some row ∧ row.identity = identity := by
  obtain ⟨hget, hidentity⟩ := Table.findFirst_some h
  exact ⟨hget, by simpa using hidentity⟩

theorem existingHit_replay
    (h : existingHit requestHash recordId existing = .replay k statusCode (body : Option β)) :
    existing.status ≠ .inFlight ∧ existing.responseBody = body := by
  unfold existingHit at h
  split at h
  · cases h
  · split at h
    · cases h
    · cases h
      exact ⟨‹_›, rfl⟩

section Writes

variable {fingerprint : φ → String}

theorem create_cases (h : (create fingerprint s ctx).keys.get? k = some row) :
    k = s.keys.next ∧ row.identity = ctx.identity ∧ row.status = .inFlight ∧
        row.responseBody = none ∨
      s.keys.get? k = some row := by
  rcases Table.insert_cases h with ⟨rfl, rfl⟩ | hold
  · exact .inl ⟨rfl, rfl, rfl, rfl⟩
  · exact .inr hold

theorem complete_get {opts : CompleteOptions β} (h : s.keys.get? k = some row) :
    ∃ row', (complete s recordId opts).keys.get? k = some row' ∧ row'.identity = row.identity := by
  by_cases hk : k = recordId
  · subst hk
    exact ⟨opts.rewrite s.clock row, by simp [complete, h], rfl⟩
  · exact ⟨row, by rw [complete, Table.get?_update_ne _ _ hk, h], rfl⟩

theorem unique_create (hunique : s.keys.UniqueOn fun row => some row.identity)
    (hfree : findUnique s ctx.identity = none) :
    (create fingerprint s ctx).keys.UniqueOn fun row => some row.identity := by
  refine hunique.insert ?_
  rintro k row identity hget ⟨⟩ hsame
  exact findUnique_none.mp hfree k row hget (Option.some.inj hsame)

theorem created_owned (h : ∃ row, s.keys.get? k = some row ∧ row.identity = identity) :
    ∃ row, (create fingerprint s ctx).keys.get? k = some row ∧ row.identity = identity := by
  obtain ⟨row, hget, hidentity⟩ := h
  exact ⟨row, Table.get?_insert_of_some hget, hidentity⟩

end Writes

namespace WrapThread.Moves

variable {fingerprint : φ → String}

theorem unique (h : Moves fingerprint s t s' t')
    (hunique : s.keys.UniqueOn fun row => some row.identity) :
    s'.keys.UniqueOn fun row => some row.identity := by
  cases h with
  | claims hfree | orphans hfree => exact unique_create hunique hfree
  | records recordId opts =>
    exact hunique.update (fun _ _ hidentity => by simpa [CompleteOptions.rewrite] using hidentity) _
  | _ => exact hunique

theorem keeps_row (h : Moves fingerprint s t s' t')
    (hrow : ∃ row, s.keys.get? k = some row ∧ row.identity = identity) :
    ∃ row, s'.keys.get? k = some row ∧ row.identity = identity := by
  cases h with
  | claims | orphans => exact created_owned hrow
  | records =>
    obtain ⟨row, hget, rfl⟩ := hrow
    exact complete_get hget
  | _ => exact hrow

theorem owned (h : Moves fingerprint s t s' t') (hfirst : t'.hit = some (.first k))
    (hrow : t.hit = some (.first k) →
      ∃ row, s.keys.get? k = some row ∧ row.identity = t.call.ctx.identity) :
    ∃ row, s'.keys.get? k = some row ∧ row.identity = t'.call.ctx.identity := by
  rw [h.call]
  rcases h.first_back hfirst with hfirst | ⟨-, rfl, -, rfl⟩
  · exact h.keeps_row (hrow hfirst)
  · exact ⟨_, Table.get?_insert_self _ _, rfl⟩

theorem blank (h : Moves fingerprint s t s' t')
    (hblank : ∀ k row, s.keys.get? k = some row → row.status = .inFlight → row.responseBody = none)
    (hget : s'.keys.get? k = some row) (hopen : row.status = .inFlight) :
    row.responseBody = none := by
  cases h with
  | claims | orphans =>
    rcases create_cases hget with ⟨-, -, -, hbody⟩ | hold
    · exact hbody
    · exact hblank k row hold hopen
  | records recordId opts =>
    rcases Table.update_cases hget with ⟨-, row, -, rfl⟩ | ⟨-, hold⟩
    · simp only [CompleteOptions.rewrite] at hopen
      split at hopen <;> cases hopen
    · exact hblank k row hold hopen
  | _ => exact hblank k row hget hopen

theorem backs_getD {body : Option (Option β)} {old : Option β} (hran : body = none ∨ ∃ result,
    t.execution = some (.ok result) ∧ body = result.body) (hold : t.Backs old) :
    t.Backs (body.getD old) := by
  rcases hran with rfl | ⟨result, hran, rfl⟩
  · exact hold
  · cases hbody : result.body with
    | none => exact hold
    | some body => exact ⟨_, hran, .inr ⟨result, rfl, by simp [hbody]⟩⟩

/-- A recorded row is one that was, or one that the caller records now. -/
theorem recorded (h : Moves fingerprint s t s' t') (hget : s'.keys.get? k = some row)
    (hrecorded : row.status ≠ .inFlight) :
    s.keys.get? k = some row ∨ t.hit = some (.first k) ∧ ∃ old, s.keys.get? k = some old ∧
      (t.Backs old.responseBody → t.Backs row.responseBody) ∧ t.Backs none := by
  cases h with
  | claims | orphans =>
    rcases create_cases hget with ⟨-, -, hopen, -⟩ | hold
    · exact absurd hopen hrecorded
    · exact .inl hold
  | records recordId opts _ hfirst hbody =>
    rcases Table.update_cases hget with ⟨rfl, old, hold, rfl⟩ | ⟨-, hold⟩
    · exact .inr ⟨hfirst, old, hold, backs_getD hbody.2, hbody.1⟩
    · exact .inl hold
  | _ => exact .inl hget

/-- An answer was given before, is the record of another call, or is of the caller's own. -/
theorem answered (h : Moves fingerprint s t s' t') (hanswer : t'.stage = .done (.returned body)) :
    t.stage = .done (.returned body) ∨ t'.Backs body ∨ ∃ k row, s.keys.get? k = some row ∧
      row.identity = t.call.ctx.identity ∧ row.status ≠ .inFlight ∧ body = row.responseBody := by
  cases h with
  | waits _ hunanswered | runs _ _ _ _ hunanswered => exact absurd hanswer (hunanswered body)
  | told recordId existing requestHash hfind =>
    obtain ⟨hget, hidentity⟩ := findUnique_some hfind
    cases hhit : existingHit requestHash recordId existing with
    | replay =>
      obtain ⟨hrecorded, rfl⟩ := existingHit_replay hhit
      rw [hhit] at hanswer
      cases hanswer
      exact .inr (.inr ⟨recordId, existing, hget, hidentity, hrecorded, rfl⟩)
    | first | conflict | inFlight =>
      rw [hhit] at hanswer
      cases hanswer
  | claims | orphans => cases hanswer
  | records _ _ _ _ _ hanswered => exact .inr (.inl (hanswered body hanswer))
  | ended => exact .inl hanswer

end WrapThread.Moves

section Step

variable {fingerprint : φ → String}

/-- The threads once thread `i` has moved. -/
theorem getElem?_moved {threads : List (WrapThread φ β σ)} (ht : threads[i]? = some t)
    (hu : (threads.set i t')[j]? = some u) :
    j = i ∧ u = t' ∨ j ≠ i ∧ threads[j]? = some u := by
  rw [List.getElem?_set] at hu
  split at hu
  · rename_i hij
    obtain ⟨hlt, -⟩ := List.getElem?_eq_some_iff.mp ht
    rw [if_pos hlt] at hu
    exact .inl ⟨hij.symm, (Option.some.inj hu).symm⟩
  · exact .inr ⟨fun hji => absurd hji.symm ‹_›, hu⟩

theorem mem_moved {threads : List (WrapThread φ β σ)} (ht : threads[i]? = some t) :
    t' ∈ threads.set i t' :=
  List.mem_set (List.getElem?_eq_some_iff.mp ht).1 _

/-- What a call has, it keeps when it moves, so some call has it still. -/
theorem exists_moved {threads : List (WrapThread φ β σ)} {P : WrapThread φ β σ → Prop}
    (ht : threads[i]? = some t) (hkeeps : P t → P t') (h : ∃ u ∈ threads, P u) :
    ∃ u ∈ threads.set i t', P u := by
  obtain ⟨u, hu, hP⟩ := h
  obtain ⟨j, hj⟩ := List.mem_iff_getElem?.mp hu
  by_cases hji : j = i
  · subst hji
    cases ht.symm.trans hj
    exact ⟨t', mem_moved ht, hkeeps hP⟩
  · exact ⟨u, List.mem_iff_getElem?.mpr ⟨j, by rw [List.getElem?_set_ne (Ne.symm hji), hj]⟩, hP⟩

theorem Accounted.moved (h : Accounted p) (ht : p.threads[i]? = some t)
    (hmoves : WrapThread.Moves fingerprint p.shared t s' t') (hholds : t'.Holds) :
    Accounted ⟨s', p.threads.set i t'⟩ := by
  have hmem := List.mem_of_getElem? ht
  refine ⟨?_, hmoves.unique h.unique, ?_, ?_, fun k row => hmoves.blank h.blank, ?_, ?_⟩
  · intro u hu
    rcases List.mem_or_eq_of_mem_set hu with hold | rfl
    · exact h.holds u hold
    · exact hholds
  · intro u hu k hfirst
    rcases List.mem_or_eq_of_mem_set hu with hold | rfl
    · exact hmoves.keeps_row (h.owned u hold k hfirst)
    · exact hmoves.owned hfirst (h.owned t hmem k)
  · -- a claim takes the next row, which no call was told of
    have hfresh (k : Id) (hnext : k = p.shared.keys.next) (u : WrapThread φ β σ)
        (hu : u ∈ p.threads) :
        u.hit ≠ some (.first k) := by
      intro hfirst
      obtain ⟨row, hget, -⟩ := h.owned u hu k hfirst
      exact absurd (Table.lt_next hget) (hnext ▸ Nat.lt_irrefl _)
    have hcross (j : Nat) (u : WrapThread φ β σ) (k : Id) (hne : j ≠ i)
        (hu : p.threads[j]? = some u) (hfirst : u.hit = some (.first k))
        (hfirst' : t'.hit = some (.first k)) : False := by
      rcases hmoves.first_back hfirst' with hold | ⟨-, hnext, -⟩
      · exact hne (h.sole j i u t k hu ht hfirst hold)
      · exact hfresh k hnext u (List.mem_of_getElem? hu) hfirst
    intro j l u v k hu hv hfirst hfirst'
    rcases getElem?_moved ht hu with ⟨rfl, rfl⟩ | ⟨hj, hold⟩ <;>
      rcases getElem?_moved ht hv with ⟨rfl, rfl⟩ | ⟨hl, hold'⟩
    · rfl
    · exact (hcross l _ k hl hold' hfirst' hfirst).elim
    · exact (hcross j _ k hj hold hfirst hfirst').elim
    · exact h.sole j l u v k hold hold' hfirst hfirst'
  · intro k row hget hrecorded
    have hkeeps {body : Option β} (hold : ∃ u ∈ p.threads, u.hit = some (.first k) ∧ u.Backs body) :
        ∃ u ∈ p.threads.set i t', u.hit = some (.first k) ∧ u.Backs body :=
      exists_moved ht (fun hu => ⟨hmoves.first hu.1, hmoves.backs hu.2⟩) hold
    rcases hmoves.recorded hget hrecorded with hold | ⟨hfirst, old, hold, hbody, hran⟩
    · exact hkeeps (h.recorded k row hold hrecorded)
    · refine hkeeps ⟨t, hmem, hfirst, hbody ?_⟩
      by_cases hopen : old.status = .inFlight
      · rwa [h.blank k old hold hopen]
      · obtain ⟨u, hu, hfirst', hbacks⟩ := h.recorded k old hold hopen
        obtain ⟨j, hj⟩ := List.mem_iff_getElem?.mp hu
        obtain rfl := h.sole i j t u k ht hj hfirst hfirst'
        cases ht.symm.trans hj
        exact hbacks
  · have hkeeps {identity : KeyIdentity} {body : Option β}
        (hold : ∃ u ∈ p.threads, u.call.ctx.identity = identity ∧ u.Backs body) :
        ∃ u ∈ p.threads.set i t', u.call.ctx.identity = identity ∧ u.Backs body :=
      exists_moved ht (fun hu => ⟨hmoves.call ▸ hu.1, hmoves.backs hu.2⟩) hold
    intro u hu body hanswer
    rcases List.mem_or_eq_of_mem_set hu with hold | rfl
    · exact hkeeps (h.answered u hold body hanswer)
    · rw [hmoves.call]
      rcases hmoves.answered hanswer with hold | hbacks | ⟨k, row, hget, hrow, hrecorded, rfl⟩
      · exact hkeeps (h.answered t hmem body hold)
      · exact ⟨u, mem_moved ht, by rw [hmoves.call], hbacks⟩
      · obtain ⟨v, hv, hfirst, hbacks⟩ := h.recorded k row hget hrecorded
        obtain ⟨_, hget', hidentity⟩ := h.owned v hv k hfirst
        cases hget.symm.trans hget'
        exact hkeeps ⟨v, hv, hidentity.symm.trans hrow, hbacks⟩

theorem turn_cases (p : Pool (Backend β σ) (WrapThread φ β σ)) (i : Nat × Fate) :
    turn fingerprint p i = p ∨ ∃ t, p.threads[i.1]? = some t ∧ turn fingerprint p i =
      ⟨(t.advance fingerprint i.2 p.shared).1,
        p.threads.set i.1 (t.advance fingerprint i.2 p.shared).2⟩ := by
  cases ht : p.threads[i.1]? with
  | none => exact .inl (by simp [turn, Pool.step, ht])
  | some t => exact .inr ⟨t, rfl, by simp [turn, Pool.step, ht]⟩

theorem Accounted.start (world : σ) :
    Accounted (⟨{ world }, []⟩ : Pool (Backend β σ) (WrapThread φ β σ)) where
  holds t ht := by cases ht
  unique _ _ _ _ _ hget := by cases hget
  owned t ht := by cases ht
  sole i j t u k ht := by cases ht
  blank k row hget := by cases hget
  recorded k row hget := by cases hget
  answered t ht := by cases ht

theorem Accounted.turn (h : Accounted p) (i : Nat × Fate) :
    Accounted (IdempotencyService.turn fingerprint p i) := by
  rcases turn_cases p i with hsame | ⟨t, ht, hmoved⟩
  · rwa [hsame]
  · have hholds := h.holds t (List.mem_of_getElem? ht)
    rw [hmoved]
    exact h.moved ht (hholds.moves fingerprint i.2 p.shared)
      (hholds.advance fingerprint i.2 p.shared)

theorem Accounted.send (h : Accounted p) (call : Call φ β σ) :
    Accounted ⟨p.shared, p.threads ++ [call.request]⟩ := by
  have hnew (u : WrapThread φ β σ) (hu : u ∈ p.threads ++ [call.request]) :
      u ∈ p.threads ∨ u = call.request := by simpa using hu
  have hold (u : WrapThread φ β σ) (hu : u ∈ p.threads) : u ∈ p.threads ++ [call.request] :=
    List.mem_append_left _ hu
  refine ⟨?_, h.unique, ?_, ?_, h.blank, ?_, ?_⟩
  · intro u hu
    rcases hnew u hu with hu | rfl
    · exact h.holds u hu
    · exact ⟨rfl, rfl⟩
  · intro u hu k hfirst
    rcases hnew u hu with hu | rfl
    · exact h.owned u hu k hfirst
    · cases hfirst
  · intro i j u v k hu hv hfirst hfirst'
    have hbefore (i : Nat) (u : WrapThread φ β σ) (hu : (p.threads ++ [call.request])[i]? = some u)
        (hfirst : u.hit = some (.first k)) : p.threads[i]? = some u := by
      rw [List.getElem?_append] at hu
      split at hu
      · exact hu
      · obtain rfl := List.mem_singleton.mp (List.mem_of_getElem? hu)
        cases hfirst
    exact h.sole i j u v k (hbefore i u hu hfirst) (hbefore j v hv hfirst') hfirst hfirst'
  · intro k row hget hrecorded
    obtain ⟨u, hu, hbacks⟩ := h.recorded k row hget hrecorded
    exact ⟨u, hold u hu, hbacks⟩
  · intro u hu body hanswer
    rcases hnew u hu with hu | rfl
    · obtain ⟨v, hv, hbacks⟩ := h.answered u hu body hanswer
      exact ⟨v, hold v hv, hbacks⟩
    · cases hanswer

end Step

-- ---
-- The handlers that ran
-- ---

/-- The calls whose handlers ran, in order: of each key one. -/
structure Ran (world : σ) (ran : List (Call φ β σ)) (p : Pool (Backend β σ) (WrapThread φ β σ)) :
    Prop where
  calls : ∀ call, call ∈ ran ↔ ∃ t ∈ p.threads, t.call = call ∧ t.execution.isSome
  keys : (ran.map (·.ctx.identity)).Nodup
  world : p.shared.world = ran.foldl (fun world call => (call.handler world).1) world

theorem WrapThread.Holds.ran_first (h : t.Holds) (hran : t.execution.isSome) :
    ∃ k, t.hit = some (.first k) := by
  have hle := h.executions_le
  simp only [executions, if_pos hran, toldFirst] at hle
  split at hle
  · exact ⟨_, ‹_›⟩
  · cases hle

section Ran

variable {fingerprint : φ → String} {ran : List (Call φ β σ)} {world : σ}

theorem WrapThread.Moves.effect (h : Moves fingerprint s t s' t') :
    s'.world = s.world ∧ t'.execution = t.execution ∨
      (∃ k, t.hit = some (.first k)) ∧ t.execution = none ∧ t'.execution.isSome ∧
        s'.world = (t.call.handler s.world).1 := by
  cases h with
  | runs k _ hfirst hidle => exact .inr ⟨⟨k, hfirst⟩, hidle, rfl, rfl⟩
  | _ => exact .inl ⟨rfl, rfl⟩

/-- A key is claimed by one call. -/
theorem Accounted.one (h : Accounted p) (ht : t ∈ p.threads) (hu : u ∈ p.threads)
    (hfirst : t.hit = some (.first k)) (hfirst' : u.hit = some (.first j))
    (hsame : u.call.ctx.identity = t.call.ctx.identity) : t = u := by
  obtain ⟨row, hget, hrow⟩ := h.owned t ht k hfirst
  obtain ⟨row', hget', hrow'⟩ := h.owned u hu j hfirst'
  obtain rfl := h.unique j k row' row _ hget' hget rfl
    (congrArg some (hrow.trans (hsame.symm.trans hrow'.symm)))
  obtain ⟨i, hi⟩ := List.mem_iff_getElem?.mp ht
  obtain ⟨l, hl⟩ := List.mem_iff_getElem?.mp hu
  obtain rfl := h.sole i l t u j hi hl hfirst hfirst'
  exact Option.some.inj (hi.symm.trans hl)

/-- No other call ran under the key of a call that is about to. -/
theorem Ran.idle (h : Ran world ran p) (haccounted : Accounted p) (ht : t ∈ p.threads)
    (hfirst : t.hit = some (.first k)) (hidle : t.execution = none) :
    t.call.ctx.identity ∉ ran.map (·.ctx.identity) := by
  intro hmem
  obtain ⟨call, hcall, hsame⟩ := List.mem_map.mp hmem
  obtain ⟨u, hu, rfl, hran⟩ := (h.calls call).mp hcall
  obtain ⟨j, hfirst'⟩ := (haccounted.holds u hu).ran_first hran
  obtain rfl := haccounted.one ht hu hfirst hfirst' hsame
  simp [hidle] at hran

theorem Ran.start (world : σ) :
    Ran world [] (⟨{ world }, []⟩ : Pool (Backend β σ) (WrapThread φ β σ)) where
  calls call := by simp
  keys := .nil
  world := rfl

theorem Ran.moved (h : Ran world ran p) (haccounted : Accounted p) (ht : p.threads[i]? = some t)
    (hmoves : WrapThread.Moves fingerprint p.shared t s' t') :
    ∃ ran' : List (Call φ β σ), Ran world ran' ⟨s', p.threads.set i t'⟩ := by
  have hmem := List.mem_of_getElem? ht
  have hcalls (call : Call φ β σ) :
      (∃ u ∈ p.threads.set i t', u.call = call ∧ u.execution.isSome) ↔
        (∃ u ∈ p.threads, u.call = call ∧ u.execution.isSome) ∨
          t.call = call ∧ t'.execution.isSome := by
    constructor
    · rintro ⟨u, hu, hcall, hran⟩
      rcases List.mem_or_eq_of_mem_set hu with hold | rfl
      · exact .inl ⟨u, hold, hcall, hran⟩
      · exact .inr ⟨hmoves.call ▸ hcall, hran⟩
    · rintro (hold | ⟨hcall, hran⟩)
      · refine exists_moved ht (fun hu => ⟨hmoves.call ▸ hu.1, ?_⟩) hold
        rcases hmoves.effect with ⟨-, hsame⟩ | ⟨-, -, hran, -⟩
        · rw [hsame]
          exact hu.2
        · exact hran
      · exact ⟨t', mem_moved ht, hmoves.call ▸ hcall, hran⟩
  rcases hmoves.effect with ⟨hworld, hsame⟩ | ⟨⟨k, hfirst⟩, hidle, hran, hworld⟩
  · refine ⟨ran, fun call => ?_, h.keys, hworld.trans h.world⟩
    rw [hcalls, ← h.calls, hsame]
    refine (or_iff_left_of_imp ?_).symm
    rintro ⟨hcall, hran⟩
    exact (h.calls call).mpr ⟨t, hmem, hcall, hran⟩
  · refine ⟨ran ++ [t.call], fun call => ?_, ?_, ?_⟩
    · rw [hcalls, ← h.calls, List.mem_append, List.mem_singleton, and_iff_left hran, eq_comm]
    · rw [List.map_append, List.map_singleton]
      refine List.nodup_append.mpr ⟨h.keys, List.nodup_singleton _, ?_⟩
      rintro _ hold _ hnew rfl
      obtain rfl := List.mem_singleton.mp hnew
      exact h.idle haccounted hmem hfirst hidle hold
    · rw [List.foldl_append, ← h.world]
      exact hworld

theorem Ran.turn (h : ∃ ran : List (Call φ β σ), Ran world ran p) (haccounted : Accounted p)
    (i : Nat × Fate) :
    ∃ ran : List (Call φ β σ), Ran world ran (IdempotencyService.turn fingerprint p i) := by
  obtain ⟨ran, h⟩ := h
  rcases turn_cases p i with hsame | ⟨t, ht, hmoved⟩
  · rw [hsame]
    exact ⟨ran, h⟩
  · rw [hmoved]
    exact h.moved haccounted ht
      ((haccounted.holds t (List.mem_of_getElem? ht)).moves fingerprint i.2 p.shared)

theorem Ran.send (h : Ran world ran p) (call : Call φ β σ) :
    Ran world ran ⟨p.shared, p.threads ++ [call.request]⟩ := by
  refine ⟨fun call' => ?_, h.keys, h.world⟩
  rw [h.calls]
  simp [Call.request]

end Ran

-- ---
-- Every run of dialogs and server
-- ---

namespace Dialog

theorem resets_onSuccess (dialog : Dialog) : dialog.onSuccess.resets = dialog.resets + 1 := by
  cases hresets : dialog.surface.resetsOnError <;> simp [resets, onSuccess, reset, hresets] <;>
    omega

theorem resets_onChange (dialog : Dialog) : dialog.onChange.resets = dialog.resets + 1 := by
  cases hresets : dialog.surface.resetsOnError <;> simp [resets, onChange, reset, hresets] <;> omega

theorem identities_onError (dialog : Dialog) : dialog.onError.identities = dialog.identities := by
  unfold onError
  split <;> rfl

end Dialog

/-- Another key is built only after the intent was dropped. -/
structure Dialog.Counted (dialog : Dialog) : Prop where
  keys : dialog.keys.length ≤ dialog.resets + if dialog.key.isSome then 1 else 0
  current : ∀ key, dialog.key = some key → key ∈ dialog.keys

namespace Dialog.Counted

variable {dialog : Dialog}

theorem dropped (h : dialog.Counted) : dialog.keys.length ≤ dialog.resets + 1 := by
  refine h.keys.trans ?_
  split <;> omega

theorem onSuccess (h : dialog.Counted) : dialog.onSuccess.Counted :=
  ⟨h.dropped.trans_eq (resets_onSuccess dialog).symm, nofun⟩

theorem onChange (h : dialog.Counted) : dialog.onChange.Counted :=
  ⟨h.dropped.trans_eq (resets_onChange dialog).symm, nofun⟩

theorem onError (h : dialog.Counted) : dialog.onError.Counted := by
  have hkeys := h.keys
  have hdropped := h.dropped
  unfold Dialog.onError
  split <;> rename_i hresets <;> simp only [Dialog.reset, resets, hresets] at hkeys hdropped ⊢
  · refine ⟨?_, nofun⟩
    simp [resets, hresets] at hdropped ⊢
    omega
  · exact ⟨by simpa [resets, hresets] using hkeys, h.current⟩

theorem began (h : dialog.Counted) (hkey : dialog.key = none) (key : String) :
    Dialog.Counted { dialog with key := some key, keys := key :: dialog.keys } := by
  refine ⟨?_, ?_⟩
  · have hkeys := h.keys
    simpa [hkey, resets] using hkeys
  · rintro _ ⟨⟩
    exact List.mem_cons_self

end Dialog.Counted

namespace Floor

variable {fingerprint : φ → String} {randomSuffix : Nat → String} {f : Floor φ β σ} {world : σ}

structure Sound (world : σ) (f : Floor φ β σ) : Prop where
  accounted : Accounted f.server
  ran : ∃ ran : List (Call φ β σ), Ran world ran f.server
  counted : ∀ dialog ∈ f.dialogs, dialog.Counted
  sent : ∀ t ∈ f.server.threads, ∃ dialog ∈ f.dialogs, t.call.ctx.identity ∈ dialog.identities

/-- Rewriting a dialog loses no key of its requests. -/
theorem Sound.setDialog (h : Sound world f) (hget : f.dialogs[i]? = some dialog)
    (hcounted : Dialog.Counted dialog') (hkeys : dialog.identities ⊆ dialog'.identities) :
    Sound world (f.setDialog i dialog') := by
  refine ⟨h.accounted, h.ran, fun d hd => ?_, fun t ht => ?_⟩
  · rcases List.mem_or_eq_of_mem_set hd with hold | rfl
    · exact h.counted d hold
    · exact hcounted
  · obtain ⟨d, hd, hsent⟩ := h.sent t ht
    obtain ⟨j, hj⟩ := List.mem_iff_getElem?.mp hd
    by_cases hji : j = i
    · subst hji
      cases hget.symm.trans hj
      exact ⟨dialog', List.mem_set (List.getElem?_eq_some_iff.mp hget).1 _, hkeys hsent⟩
    · refine ⟨d, List.mem_iff_getElem?.mpr ⟨j, ?_⟩, hsent⟩
      exact (List.getElem?_set_ne (Ne.symm hji)).trans hj

theorem Sound.send (h : Sound world f) (call : Call φ β σ)
    (hsent : ∃ dialog ∈ f.dialogs, call.ctx.identity ∈ dialog.identities) :
    Sound world (f.send call) := by
  obtain ⟨ran, hran⟩ := h.ran
  refine ⟨h.accounted.send call, ⟨ran, hran.send call⟩, h.counted, fun t ht => ?_⟩
  rcases List.mem_append.mp ht with hold | hnew
  · exact h.sent t hold
  · obtain rfl := List.mem_singleton.mp hnew
    exact hsent

theorem told_cases (dialog : Dialog) (t : WrapThread φ β σ) :
    told dialog t = dialog ∨ told dialog t = dialog.onSuccess ∨ told dialog t = dialog.onError := by
  unfold told
  split
  · split
    · exact .inr (.inl rfl)
    · exact .inr (.inr rfl)
    · exact .inl rfl
  · exact .inl rfl

theorem Sound.failed (h : Sound world f) (hget : f.dialogs[i]? = some dialog) :
    Sound world (f.setDialog i dialog.onError) :=
  h.setDialog hget (h.counted dialog (List.mem_of_getElem? hget)).onError
    fun _ hsent => dialog.identities_onError ▸ hsent

theorem Sound.confirm (h : Sound world f) (hget : f.dialogs[i]? = some dialog) (payload : φ)
    (handler : σ → σ × Execution β) :
    Sound world (f.confirm randomSuffix i dialog payload handler) := by
  have hmem := List.mem_of_getElem? hget
  have hcounted := h.counted dialog hmem
  unfold Floor.confirm
  split
  · rename_i key hkey
    exact h.send _ ⟨dialog, hmem, List.mem_map.mpr ⟨key, hcounted.current key hkey, rfl⟩⟩
  · rename_i hkey
    have hset := h.setDialog hget (hcounted.began hkey
      (buildOperationalIdempotencyKey dialog.surface.operation dialog.surface.orderId
        (randomSuffix f.drawn))) (List.subset_cons_self _ _)
    have hsent := hset.send ⟨dialog.surface.ctx _ payload, handler⟩
      ⟨_, List.mem_set (List.getElem?_eq_some_iff.mp hget).1 _, List.mem_cons_self⟩
    exact ⟨hsent.accounted, hsent.ran, hsent.counted, hsent.sent⟩

theorem Sound.step (h : Sound world f) (act : Act φ β σ) :
    Sound world (f.step randomSuffix fingerprint act) := by
  have hcounted {i : Nat} {dialog : Dialog} (hget : f.dialogs[i]? = some dialog) :=
    h.counted dialog (List.mem_of_getElem? hget)
  cases act with
  | confirm i payload handler =>
    simp only [Floor.step]
    split
    · exact h.confirm ‹_› payload handler
    · exact h
  | change i =>
    simp only [Floor.step]
    split
    · rename_i dialog hget
      exact h.setDialog hget (hcounted hget).onChange (List.Subset.refl _)
    · exact h
  | serve request fate =>
    refine ⟨h.accounted.turn _, Ran.turn h.ran h.accounted _, h.counted, ?_⟩
    refine Pool.step_assertions
      (A := fun _ (t : WrapThread φ β σ) => ∃ d ∈ f.dialogs, t.call.ctx.identity ∈ d.identities)
      h.sent (fun t _ ht => ?_) fun _ _ _ _ hu => hu
    rwa [WrapThread.advance_call]
  | answer i request =>
    simp only [Floor.step]
    split
    · rename_i dialog t hget _
      rcases told_cases dialog t with htold | htold | htold <;> rw [htold]
      · exact h.setDialog hget (hcounted hget) (List.Subset.refl _)
      · exact h.setDialog hget (hcounted hget).onSuccess (List.Subset.refl _)
      · exact h.failed hget
    · exact h
  | lose i =>
    simp only [Floor.step]
    split
    · rename_i dialog hget
      exact h.failed hget
    · exact h

theorem opened_sound (world : σ) (surfaces : List Surface) :
    Sound world (opened world surfaces : Floor φ β σ) := by
  refine ⟨.start world, ⟨[], .start world⟩, ?_, fun t ht => ?_⟩
  · intro dialog hdialog
    obtain ⟨surface, -, rfl⟩ := List.mem_map.mp hdialog
    exact ⟨Nat.zero_le _, nofun⟩
  · cases ht

theorem run_sound (randomSuffix : Nat → String) (fingerprint : φ → String) (world : σ)
    (surfaces : List Surface) (acts : List (Act φ β σ)) :
    Sound world (acts.foldl (step randomSuffix fingerprint) (opened world surfaces)) :=
  (Run.foldl _ _ acts).invariant (opened_sound world surfaces) fun _ act hf _ => hf.step act

end Floor

/-- A confirmation whose answer is lost, and another one. -/
def retried (resetsOnError : Bool) : Floor String String Nat :=
  let confirm := Act.confirm 0 "transfer" fun runs =>
    (runs + 1, .ok { body := some (some "moved") })
  let served (i : Nat) := List.replicate 4 (Act.serve i .applied)
  (confirm :: served 0 ++ .lose 0 :: confirm :: served 1).foldl
    (Floor.step (fun n => String.ofList (List.replicate (n + 1) '0')) id)
    (Floor.opened 0 [{ operation := "supervisor:transfer", routePath := "/orders", resetsOnError }])

-- The bound is met where an error drops the intent: a second key, a second effect.
example : (retried true).server.shared.world = 2 ∧ (retried false).server.shared.world = 1 := by
  decide

/-- In every run a body that was answered, to whichever request of a key, is what the one
handler of the key returned, or empty though a handler of the key ran. -/
theorem answers_backed (randomSuffix : Nat → String) (fingerprint : φ → String) (world : σ)
    (surfaces : List Surface) (acts : List (Act φ β σ)) :
    let f := acts.foldl (Floor.step randomSuffix fingerprint) (Floor.opened world surfaces)
    ∀ t ∈ f.server.threads, ∀ body, t.stage = .done (.returned body) →
      ∃ u ∈ f.server.threads, u.call.ctx.identity = t.call.ctx.identity ∧ u.Backs body ∧
        ∀ v ∈ f.server.threads, v.call.ctx.identity = t.call.ctx.identity → v.execution.isSome →
          v = u := by
  intro f t ht body hanswer
  have hf : Floor.Sound world f := Floor.run_sound randomSuffix fingerprint world surfaces acts
  obtain ⟨u, hu, hsame, hbacks⟩ := hf.accounted.answered t ht body hanswer
  refine ⟨u, hu, hsame, hbacks, fun v hv hsame' hran => ?_⟩
  obtain ⟨execution, hran', -⟩ := hbacks
  obtain ⟨k, hfirst⟩ := (hf.accounted.holds v hv).ran_first hran
  obtain ⟨j, hfirst'⟩ := (hf.accounted.holds u hu).ran_first (hran' ▸ rfl)
  exact hf.accounted.one hv hu hfirst hfirst' (hsame.trans hsame'.symm)

end NimbusPos.IdempotencyService
