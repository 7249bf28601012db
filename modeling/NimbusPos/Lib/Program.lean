import NimbusPos.Lib.Run
import NimbusPos.Lib.Service

/-!
# Calls as programs of statements

A call sends statements to the database one at a time and goes on with what each
answers; a transaction is one statement. Calls that run together interleave their
statements. A `Discipline` says what a statement needs in order to keep an
invariant, and `Safe` that a call finds it, whatever the others did in between.
-/

namespace NimbusPos.Lib

open Service

inductive Program (κ : Type) (answer : κ → Type) (ε α : Type)
  | done (result : Except ε α)
  | send (statement : κ) (next : Except ε (answer statement) → Program κ answer ε α)

namespace Program

variable {κ ε α β γ σ : Type} {answer : κ → Type}

def bind (x : Program κ answer ε α) (f : α → Program κ answer ε β) : Program κ answer ε β :=
  match x with
  | .done (.ok a) => f a
  | .done (.error e) => .done (.error e)
  | .send k next => .send k fun reply => (next reply).bind f

/-- A failure is handled, and the writes before it stay. -/
def handle (x : Program κ answer ε α) (f : ε → Program κ answer ε α) : Program κ answer ε α :=
  match x with
  | .done (.ok a) => .done (.ok a)
  | .done (.error e) => f e
  | .send k next => .send k fun reply => (next reply).handle f

instance : Monad (Program κ answer ε) where
  pure a := .done (.ok a)
  bind := bind

instance : MonadExcept ε (Program κ answer ε) where
  throw e := .done (.error e)
  tryCatch := handle

/-- One statement; its caller fails if it is refused. -/
def statement (k : κ) : Program κ answer ε (answer k) := .send k .done

def ensure (b : Bool) (e : ε) : Program κ answer ε Unit :=
  if b then pure () else throw e

def need (o : Option α) (e : ε) : Program κ answer ε α :=
  match o with
  | some a => pure a
  | none => throw e

section

variable (exec : σ → (k : κ) → σ × Except ε (answer k))

/-- The next statement of a call. -/
def advance (s : σ) (x : Program κ answer ε α) : σ × Program κ answer ε α :=
  match x with
  | .done result => (s, .done result)
  | .send k next => ((exec s k).1, next (exec s k).2)

/-- The call with no other between its statements. -/
def run (x : Program κ answer ε α) (s : σ) : σ × Except ε α :=
  match x with
  | .done result => (s, result)
  | .send k next => (next (exec s k).2).run (exec s k).1

variable {exec} {s t : σ}

/-- A call alone goes on from where its first part ended. -/
theorem run_bind_ok {x : Program κ answer ε α} {f : α → Program κ answer ε β}
    (h : x.run exec s = (t, .ok a)) : (x >>= f).run exec s = (f a).run exec t := by
  induction x generalizing s with
  | done result =>
    obtain ⟨rfl, rfl⟩ := Prod.mk.inj h
    rfl
  | send k next ih => exact ih _ h

theorem run_bind_error {x : Program κ answer ε α} {f : α → Program κ answer ε β}
    (h : x.run exec s = (t, .error e)) : (x >>= f).run exec s = (t, .error e) := by
  induction x generalizing s with
  | done result =>
    obtain ⟨rfl, rfl⟩ := Prod.mk.inj h
    rfl
  | send k next ih => exact ih _ h

theorem run_need_some {e : ε} :
    (need (some a) e : Program κ answer ε α).run exec s = (s, .ok a) := rfl

theorem run_ensure_ok {b : Bool} {e : ε} (h : b = true) :
    (ensure b e : Program κ answer ε Unit).run exec s = (s, .ok ()) := by
  rw [h]
  rfl

theorem run_ensure_error {b : Bool} {e : ε} (h : b = false) :
    (ensure b e : Program κ answer ε Unit).run exec s = (s, .error e) := by
  rw [h]
  rfl

end

-- ---
-- How a call alone fails
-- ---

section

variable {exec : σ → (k : κ) → σ × Except ε (answer k)} {P : ε → Prop} {s : σ}

/-- Run alone from a state, the call fails in such a way only. -/
def FailsWith (exec : σ → (k : κ) → σ × Except ε (answer k)) (P : ε → Prop) (s : σ)
    (x : Program κ answer ε α) : Prop :=
  ∀ e, (x.run exec s).2 = .error e → P e

/-- Run alone from any state, the call leaves it, and fails in such a way only. -/
def Checks (exec : σ → (k : κ) → σ × Except ε (answer k)) (P : ε → Prop)
    (x : Program κ answer ε α) : Prop :=
  ∀ s, (x.run exec s).1 = s ∧ x.FailsWith exec P s

theorem checks_pure (a : α) : Checks exec P (pure a : Program κ answer ε α) :=
  fun _ => ⟨rfl, fun _ h => by cases h⟩

theorem checks_throw {e : ε} (he : P e) : Checks exec P (throw e : Program κ answer ε α) := by
  refine fun _ => ⟨rfl, fun _ h => ?_⟩
  cases h
  exact he

theorem checks_ensure {b : Bool} {e : ε} (he : P e) :
    Checks exec P (ensure b e : Program κ answer ε Unit) := by
  cases b with
  | true => exact checks_pure ()
  | false => exact checks_throw he

theorem checks_need {o : Option α} {e : ε} (he : P e) :
    Checks exec P (need o e : Program κ answer ε α) := by
  cases o with
  | some a => exact checks_pure a
  | none => exact checks_throw he

/-- A statement that changes nothing. -/
theorem checks_statement {k : κ} (hsame : ∀ s, (exec s k).1 = s)
    (herror : ∀ s e, (exec s k).2 = .error e → P e) :
    Checks exec P (statement k : Program κ answer ε (answer k)) :=
  fun s => ⟨hsame s, herror s⟩

theorem failsWith_pure (a : α) : (pure a : Program κ answer ε α).FailsWith exec P s :=
  fun _ h => by cases h

theorem failsWith_ok {x : Program κ answer ε α} {f : α → Program κ answer ε β} {t : σ}
    (hrun : x.run exec s = (t, .ok a)) (hf : (f a).FailsWith exec P t) :
    (x >>= f).FailsWith exec P s :=
  fun e he => hf e (run_bind_ok hrun ▸ he)

/-- A part of a call that only checks, and the rest from the same state. -/
theorem failsWith_then {x : Program κ answer ε α} {f : α → Program κ answer ε β}
    (hx : Checks exec P x) (hf : ∀ a, (f a).FailsWith exec P s) : (x >>= f).FailsWith exec P s := by
  intro e he
  obtain ⟨hsame, hfails⟩ := hx s
  generalize hrun : x.run exec s = end_ at hsame
  obtain ⟨t, result⟩ := end_
  obtain rfl : t = s := hsame
  cases result with
  | ok a => exact hf a e (run_bind_ok hrun ▸ he)
  | error e' =>
    rw [run_bind_error hrun] at he
    cases he
    exact hfails e (by rw [hrun])

theorem checks_bind {x : Program κ answer ε α} {f : α → Program κ answer ε β}
    (hx : Checks exec P x) (hf : ∀ a, Checks exec P (f a)) : Checks exec P (x >>= f) := by
  refine fun s => ⟨?_, failsWith_then hx fun a => (hf a s).2⟩
  generalize hrun : x.run exec s = end_
  obtain ⟨t, result⟩ := end_
  obtain rfl : t = s := by rw [← (hx s).1, hrun]
  cases result with
  | ok a => rw [run_bind_ok hrun, (hf a t).1]
  | error e => rw [run_bind_error hrun]

theorem failsWith_statement {k : κ} {f : answer k → Program κ answer ε α}
    (herror : ∀ e, (exec s k).2 = .error e → P e)
    (hok : ∀ a, (f a).FailsWith exec P (exec s k).1) :
    (statement k >>= f).FailsWith exec P s := by
  intro e he
  have hrun : (statement k : Program κ answer ε (answer k)).run exec s = exec s k := rfl
  generalize hreply : exec s k = end_ at herror hok hrun
  obtain ⟨t, reply⟩ := end_
  cases reply with
  | ok a => exact hok a e (run_bind_ok hrun ▸ he)
  | error e' =>
    rw [run_bind_error hrun] at he
    cases he
    exact herror e rfl

end

/-- What a call that has ended answers. -/
def result? (x : Program κ answer ε α) : Option (Except ε α) :=
  match x with
  | .done result => some result
  | .send .. => none

theorem eq_done {x : Program κ answer ε α} (h : x.result? = some result) : x = .done result := by
  cases x with
  | done other => rw [Option.some.inj h]
  | send k next => cases h

/-- What is asked of the statement that comes next. -/
def asks (allowed : σ → κ → Prop) (s : σ) (x : Program κ answer ε α) : Prop :=
  match x with
  | .done _ => True
  | .send k _ => allowed s k

instance [∀ s k, Decidable (allowed s k)] (s : σ) (x : Program κ answer ε α) :
    Decidable (x.asks allowed s) := by
  unfold asks
  split <;> infer_instance

-- ---
-- Safe calls
-- ---

/-- An invariant, what a call may rely on while others take statements, what its own
statements need and which are allowed, such that these keep the invariant and what
the others rely on. Calls are numbered. -/
structure Discipline (exec : Nat → σ → (k : κ) → σ × Except ε (answer k)) where
  inv : σ → Prop
  rely : Nat → Frame σ
  needs : Nat → σ → κ → Prop
  allowed : σ → κ → Prop
  keeps : ∀ i s k, inv s → needs i s k → allowed s k →
    inv (exec i s k).1 ∧ ∀ j, j ≠ i → (rely j).rel s (exec i s k).1

variable {exec : Nat → σ → (k : κ) → σ × Except ε (answer k)} {D : Discipline exec} {i : Nat}

/-- Each statement of the call finds what it needs, and the call ends as `post` says. -/
def Safe (D : Discipline exec) (i : Nat) (post : Except ε α → σ → Prop) (s : σ)
    (x : Program κ answer ε α) : Prop :=
  match x with
  | .done result => post result s
  | .send k next => ∀ t, (D.rely i).rel s t → D.inv t → D.needs i t k ∧
      (D.allowed t k → (next (exec i t k).2).Safe D i post (exec i t k).1)

variable {post : Except ε α → σ → Prop} {s t : σ}

/-- The rest of a call, after its first part ended. -/
def continued (D : Discipline exec) (i : Nat) (post : Except ε β → σ → Prop)
    (f : α → Program κ answer ε β) (result : Except ε α) (s : σ) : Prop :=
  match result with
  | .ok a => (f a).Safe D i post s
  | .error e => post (.error e) s

theorem safe_bind {x : Program κ answer ε α} {f : α → Program κ answer ε β}
    {post : Except ε β → σ → Prop} (h : x.Safe D i (continued D i post f) s) :
    (x >>= f).Safe D i post s := by
  induction x generalizing s with
  | done result => cases result <;> exact h
  | send k next ih =>
    intro t hrely hinv
    obtain ⟨hneeds, hnext⟩ := h t hrely hinv
    exact ⟨hneeds, fun hallowed => ih _ (hnext hallowed)⟩

theorem Safe.mono {x : Program κ answer ε α} {post' : Except ε α → σ → Prop}
    (h : x.Safe D i post s) (hpost : ∀ result t, post result t → post' result t) :
    x.Safe D i post' s := by
  induction x generalizing s with
  | done result => exact hpost result s h
  | send k next ih =>
    intro t hrely hinv
    obtain ⟨hneeds, hnext⟩ := h t hrely hinv
    exact ⟨hneeds, fun hallowed => ih _ (hnext hallowed)⟩

/-- What others do between two statements leaves a call safe. -/
theorem Safe.rely {x : Program κ answer ε α} (h : x.Safe D i post s)
    (hpost : ∀ result s t, post result s → (D.rely i).rel s t → post result t)
    (hrely : (D.rely i).rel s t) : x.Safe D i post t := by
  cases x with
  | done result => exact hpost result s t h hrely
  | send k next => exact fun u hu => h u ((D.rely i).trans hrely hu)

/-- A statement, and the rest of the call from what it answers. -/
theorem safe_statement {k : κ} {f : answer k → Program κ answer ε α}
    (hneeds : ∀ t, (D.rely i).rel s t → D.inv t → D.needs i t k)
    (hnext : ∀ t, (D.rely i).rel s t → D.inv t → D.allowed t k →
      continued D i post f (exec i t k).2 (exec i t k).1) :
    (statement k >>= f).Safe D i post s := by
  intro t hrely hinv
  refine ⟨hneeds t hrely hinv, fun hallowed => ?_⟩
  have hrest := hnext t hrely hinv hallowed
  show ((Program.done (exec i t k).2).bind f).Safe D i post (exec i t k).1
  cases hreply : (exec i t k).2 <;> rw [hreply] at hrest <;> exact hrest

/-- What a call knows, through one of its statements. -/
theorem safe_known {k : κ} {f : answer k → Program κ answer ε α} (known : σ → Prop)
    (hrely : ∀ s t, known s → (D.rely i).rel s t → known t)
    (hexec : ∀ s, known s → known (exec i s k).1) (hneeds : ∀ s, known s → D.needs i s k)
    (herror : ∀ e t, post (.error e) t) (h : known s)
    (hnext : ∀ t a, known t → (f a).Safe D i post t) :
    (statement k >>= f).Safe D i post s := by
  refine safe_statement (fun t hst _ => hneeds t (hrely s t h hst)) fun t hst _ _ => ?_
  have hknown := hexec t (hrely s t h hst)
  cases (exec i t k).2 with
  | ok a => exact hnext _ a hknown
  | error e => exact herror e _

/-- A statement whose answer says nothing. -/
theorem safe_any {k : κ} {f : answer k → Program κ answer ε α}
    (hneeds : ∀ t, (D.rely i).rel s t → D.inv t → D.needs i t k)
    (herror : ∀ e t, post (.error e) t) (hnext : ∀ t a, (f a).Safe D i post t) :
    (statement k >>= f).Safe D i post s := by
  refine safe_statement hneeds fun t _ _ _ => ?_
  cases (exec i t k).2 with
  | ok a => exact hnext _ a
  | error e => exact herror e _

/-- A statement that reads. -/
theorem safe_read {k : κ} {f : answer k → Program κ answer ε α} (read : σ → answer k)
    (hread : ∀ t, exec i t k = (t, .ok (read t)))
    (hneeds : ∀ t, (D.rely i).rel s t → D.inv t → D.needs i t k)
    (hnext : ∀ t, (D.rely i).rel s t → D.inv t → (f (read t)).Safe D i post t) :
    (statement k >>= f).Safe D i post s := by
  refine safe_statement hneeds fun t hrely hinv _ => ?_
  rw [hread t]
  exact hnext t hrely hinv

theorem safe_ensure {b : Bool} {e : ε} {f : Unit → Program κ answer ε α}
    (hok : b = true → (f ()).Safe D i post s) (herror : b = false → post (.error e) s) :
    (ensure b e >>= f).Safe D i post s := by
  cases b with
  | true => exact hok rfl
  | false => exact herror rfl

theorem safe_need {o : Option β} {e : ε} {f : β → Program κ answer ε α}
    (hok : ∀ b, o = some b → (f b).Safe D i post s) (herror : o = none → post (.error e) s) :
    (need o e >>= f).Safe D i post s := by
  cases o with
  | some b => exact hok b rfl
  | none => exact herror rfl

-- ---
-- Calls that are safe wherever they start
-- ---

/-- From any state the call finds what its statements need. -/
def Always (D : Discipline exec) (i : Nat) (x : Program κ answer ε α) : Prop :=
  ∀ s, x.Safe D i (fun _ _ => True) s

theorem always_pure (a : α) : Always D i (pure a : Program κ answer ε α) := fun _ => trivial

theorem always_throw (e : ε) : Always D i (throw e : Program κ answer ε α) := fun _ => trivial

theorem always_statement {k : κ} (hneeds : ∀ s, D.inv s → D.needs i s k) :
    Always D i (statement k : Program κ answer ε (answer k)) :=
  fun _ t _ hinv => ⟨hneeds t hinv, fun _ => trivial⟩

theorem always_bind {x : Program κ answer ε α} {f : α → Program κ answer ε β}
    (hx : Always D i x) (hf : ∀ a, Always D i (f a)) : Always D i (x >>= f) := by
  intro s
  refine safe_bind ((hx s).mono fun result t _ => ?_)
  cases result with
  | ok a => exact hf a t
  | error e => trivial

/-- Where statements need nothing, any call will do. -/
theorem always_any (hneeds : ∀ s k, D.inv s → D.needs i s k) (x : Program κ answer ε α) :
    Always D i x := by
  induction x with
  | done result => exact fun _ => trivial
  | send k next ih => exact fun _ t _ hinv => ⟨hneeds t k hinv, fun _ => ih _ _⟩

theorem always_checks (b : Bool) (e : ε) : Always D i (ensure b e : Program κ answer ε Unit) := by
  intro s
  cases b <;> trivial

theorem always_needs (o : Option α) (e : ε) : Always D i (need o e : Program κ answer ε α) := by
  intro s
  cases o <;> trivial

theorem always_ensure {b : Bool} {e : ε} {f : Unit → Program κ answer ε α}
    (hf : b = true → Always D i (f ())) : Always D i (ensure b e >>= f) :=
  fun s => safe_ensure (fun hb => hf hb s) fun _ => trivial

theorem always_need {o : Option β} {e : ε} {f : β → Program κ answer ε α}
    (hf : ∀ b, o = some b → Always D i (f b)) : Always D i (need o e >>= f) :=
  fun s => safe_need (fun b hb => hf b hb s) fun _ => trivial

theorem safe_handle {x : Program κ answer ε α} {f : ε → Program κ answer ε α}
    (h : x.Safe D i (fun _ _ => True) s) (hf : ∀ e, Always D i (f e)) :
    (x.handle f).Safe D i (fun _ _ => True) s := by
  induction x generalizing s with
  | done result =>
    cases result with
    | ok a => trivial
    | error e => exact hf e s
  | send k next ih =>
    intro t hrely hinv
    obtain ⟨hneeds, hnext⟩ := h t hrely hinv
    exact ⟨hneeds, fun hallowed => ih _ (hnext hallowed)⟩

theorem always_handle {x : Program κ answer ε α} {f : ε → Program κ answer ε α}
    (hx : Always D i x) (hf : ∀ e, Always D i (f e)) : Always D i (x.handle f) :=
  fun s => safe_handle (hx s) hf

-- ---
-- Calls that run alone
-- ---

/-- What a call with no other between its statements leaves when it is cut off after some. -/
def upTo (exec : σ → (k : κ) → σ × Except ε (answer k)) (x : Program κ answer ε α) (s : σ) :
    Nat → σ
  | 0 => s
  | n + 1 => match x with
    | .done _ => s
    | .send k next => (next (exec s k).2).upTo exec (exec s k).1 n

/-- The discipline of call `0` alone: nothing is done in between, and each of its statements is to
keep the invariant. -/
def alone (exec : σ → (k : κ) → σ × Except ε (answer k)) (inv : σ → Prop) :
    Discipline fun _ : Nat => exec where
  inv := inv
  rely
    | 0 => .same id
    | _ + 1 => ⟨fun _ _ => True, fun _ => trivial, fun _ _ => trivial⟩
  needs i s k := i = 0 ∧ inv (exec s k).1
  allowed _ _ := True
  keeps := by
    rintro _ s k - ⟨rfl, hinv⟩ -
    refine ⟨hinv, fun j hj => ?_⟩
    cases j with
    | zero => exact absurd rfl hj
    | succ j => trivial

section

variable {exec : σ → (k : κ) → σ × Except ε (answer k)} {inv : σ → Prop}

/-- Wherever a safe call is cut off, it has kept the invariant. -/
theorem Safe.upTo {x : Program κ answer ε α} (h : x.Safe (alone exec inv) 0 post s) (h0 : inv s)
    (n : Nat) : inv (x.upTo exec s n) := by
  induction n generalizing x s with
  | zero => simpa only [Program.upTo] using h0
  | succ n ih =>
    cases x with
    | done result => exact h0
    | send k next =>
      obtain ⟨⟨-, hinv⟩, hnext⟩ := h s rfl h0
      exact ih (hnext trivial) hinv

/-- What a safe call alone leaves when it has ended. -/
theorem Safe.run_alone {x : Program κ answer ε α} (h : x.Safe (alone exec inv) 0 post s)
    (h0 : inv s) : inv (x.run exec s).1 := by
  induction x generalizing s with
  | done result => exact h0
  | send k next ih =>
    obtain ⟨⟨-, hinv⟩, hnext⟩ := h s rfl h0
    exact ih _ (hnext trivial) hinv

/-- A statement of a call alone, and the rest of the call from what it answers. -/
theorem alone_statement {k : κ} {f : answer k → Program κ answer ε α}
    (hinv : inv s → inv (exec s k).1)
    (hnext : inv (exec s k).1 → continued (alone exec inv) 0 post f (exec s k).2 (exec s k).1) :
    (statement k >>= f).Safe (alone exec inv) 0 post s := by
  refine safe_statement (fun t hrely h => ?_) fun t hrely h _ => ?_
  · obtain rfl : t = s := hrely
    exact ⟨rfl, hinv h⟩
  · obtain rfl : t = s := hrely
    exact hnext (hinv h)

theorem alone_last {k : κ} (hinv : inv s → inv (exec s k).1) :
    (statement k).Safe (alone exec inv) 0 (fun _ _ => True) s := by
  rintro t hrely h
  obtain rfl : t = s := hrely
  exact ⟨⟨rfl, hinv h⟩, fun _ => trivial⟩

/-- A read of a call alone. -/
theorem alone_read {k : κ} {a : answer k} {f : answer k → Program κ answer ε α}
    (hread : exec s k = (s, .ok a))
    (hnext : inv s → (f a).Safe (alone exec inv) 0 post s) :
    (statement k >>= f).Safe (alone exec inv) 0 post s := by
  refine alone_statement (by rw [hread]; exact id) fun h => ?_
  rw [hread] at h ⊢
  exact hnext h

end

-- ---
-- Calls that run together
-- ---

/-- Call `i` takes its next statement. -/
def turn (exec : Nat → σ → (k : κ) → σ × Except ε (answer k))
    (p : Pool σ (Program κ answer ε α)) (i : Nat) : Pool σ (Program κ answer ε α) :=
  p.step (advance (exec i)) i

/-- What an interleaving of safe calls keeps. -/
structure SafePool (D : Discipline exec) (post : Nat → Except ε α → σ → Prop)
    (p : Pool σ (Program κ answer ε α)) : Prop where
  inv : D.inv p.shared
  calls : ∀ (i : Nat) x, p.threads[i]? = some x → x.Safe D i (post i) p.shared

variable {post : Nat → Except ε α → σ → Prop} {p : Pool σ (Program κ answer ε α)}

/-- A statement that is allowed, of one of the calls. -/
theorem SafePool.turn (h : SafePool D post p)
    (hpost : ∀ i result s t, post i result s → (D.rely i).rel s t → post i result t) (i : Nat)
    (hasks : ∀ x ∈ p.threads[i]?, x.asks D.allowed p.shared) :
    SafePool D post (turn exec p i) := by
  unfold Program.turn Pool.step
  cases hx : p.threads[i]? with
  | none => exact h
  | some x =>
    have hlt : i < p.threads.length := (List.getElem?_eq_some_iff.mp hx).1
    have hmoves : D.inv (advance (exec i) p.shared x).1 ∧
        (∀ j, j ≠ i → (D.rely j).rel p.shared (advance (exec i) p.shared x).1) ∧
        (advance (exec i) p.shared x).2.Safe D i (post i) (advance (exec i) p.shared x).1 := by
      have hsafe := h.calls i x hx
      cases x with
      | done result => exact ⟨h.inv, fun j _ => (D.rely j).refl _, hsafe⟩
      | send k next =>
        have hallowed : D.allowed p.shared k := hasks _ hx
        obtain ⟨hneeds, hnext⟩ := hsafe p.shared ((D.rely i).refl _) h.inv
        obtain ⟨hinv, hrely⟩ := D.keeps i p.shared k h.inv hneeds hallowed
        exact ⟨hinv, hrely, hnext hallowed⟩
    refine ⟨hmoves.1, fun j y hy => ?_⟩
    rw [List.getElem?_set] at hy
    by_cases hj : i = j
    · subst hj
      rw [if_pos rfl, if_pos hlt] at hy
      obtain rfl := Option.some.inj hy
      exact hmoves.2.2
    · rw [if_neg hj] at hy
      exact (h.calls j y hy).rely (hpost j) (hmoves.2.1 j (Ne.symm hj))

/-- The shared state moves on for another reason. -/
theorem SafePool.moves (h : SafePool D post p)
    (hpost : ∀ i result s t, post i result s → (D.rely i).rel s t → post i result t)
    (hinv : D.inv t) (hrely : ∀ i, (D.rely i).rel p.shared t) : SafePool D post ⟨t, p.threads⟩ :=
  ⟨hinv, fun i x hx => (h.calls i x hx).rely (hpost i) (hrely i)⟩

/-- One call is looked at from here on. -/
theorem SafePool.focus (h : SafePool D post p) {post' : Except ε α → σ → Prop}
    (hj : ∀ x, p.threads[j]? = some x → x.Safe D j post' p.shared) :
    SafePool D (fun i result s => i = j → post' result s) p := by
  refine ⟨h.inv, fun i x hx => ?_⟩
  by_cases hi : i = j
  · subst hi
    exact (hj x hx).mono fun result t hpost _ => hpost
  · exact (h.calls i x hx).mono fun result t _ heq => absurd heq hi

theorem SafePool.ended (h : SafePool D post p) (hdone : p.threads[i]? = some (.done result)) :
    post i result p.shared :=
  h.calls i _ hdone

/-- A statement of one of the calls, or time passing. -/
inductive Turn
  | call (i : Nat)
  | wait (ms : Nat)
  deriving DecidableEq, Repr

/-- Some statements of one call on end. -/
def times (n i : Nat) : List Turn := List.replicate n (.call i)

variable {wait : σ → Nat → σ}

def Turn.take (exec : Nat → σ → (k : κ) → σ × Except ε (answer k)) (wait : σ → Nat → σ)
    (p : Pool σ (Program κ answer ε α)) : Turn → Pool σ (Program κ answer ε α)
  | .call i => Program.turn exec p i
  | .wait ms => { p with shared := wait p.shared ms }

def Turn.asks (allowed : σ → κ → Prop) (p : Pool σ (Program κ answer ε α)) : Turn → Prop
  | .call i => ∀ x ∈ p.threads[i]?, x.asks allowed p.shared
  | .wait _ => True

instance [∀ s k, Decidable (allowed s k)] (p : Pool σ (Program κ answer ε α)) :
    (t : Turn) → Decidable (t.asks allowed p)
  | .call i => inferInstanceAs (Decidable (∀ x ∈ p.threads[i]?, x.asks allowed p.shared))
  | .wait _ => .isTrue trivial

theorem Turn.take_length (p : Pool σ (Program κ answer ε α)) (t : Turn) :
    (t.take exec wait p).threads.length = p.threads.length := by
  cases t with
  | call i => exact Pool.step_length _ p i
  | wait ms => rfl

theorem Turn.foldl_length (p : Pool σ (Program κ answer ε α)) (turns : List Turn) :
    (turns.foldl (Turn.take exec wait) p).threads.length = p.threads.length := by
  induction turns generalizing p with
  | nil => rfl
  | cons t turns ih => exact (ih _).trans (Turn.take_length p t)

theorem Turn.asks_any (hallowed : ∀ s k, allowed s k) (p : Pool σ (Program κ answer ε α))
    (t : Turn) : t.asks allowed p := by
  cases t with
  | wait ms => trivial
  | call i =>
    intro x _
    cases x with
    | done result => trivial
    | send k next => exact hallowed p.shared k

/-- A turn meets two conditions at once. -/
theorem Turn.asks_and {A B : σ → κ → Prop} (p : Pool σ (Program κ answer ε α)) (t : Turn) :
    t.asks (fun s k => A s k ∧ B s k) p ↔ t.asks A p ∧ t.asks B p := by
  cases t with
  | wait ms => exact (and_self_iff (a := True)).symm
  | call i =>
    simp only [Turn.asks, ← forall_and]
    refine forall_congr' fun x => forall_congr' fun _ => ?_
    cases x with
    | done result => exact (and_self_iff (a := True)).symm
    | send k next => exact Iff.rfl

/-- Every interleaving whose statements are allowed. -/
theorem SafePool.run (h : SafePool D post p)
    (hpost : ∀ i result s t, post i result s → (D.rely i).rel s t → post i result t)
    (hwait : ∀ s ms, D.inv s → D.inv (wait s ms) ∧ ∀ i, (D.rely i).rel s (wait s ms))
    (hrun : Run (Turn.take exec wait) (fun p t => t.asks D.allowed p) p turns q) :
    SafePool D post q := by
  refine hrun.invariant h fun p t h hasks => ?_
  cases t with
  | call i => exact h.turn hpost i hasks
  | wait ms =>
    obtain ⟨hinv, hrely⟩ := hwait p.shared ms h.inv
    exact h.moves hpost hinv hrely

/-- Every interleaving, where all statements are allowed. -/
theorem SafePool.run_any (h : SafePool D post p)
    (hpost : ∀ i result s t, post i result s → (D.rely i).rel s t → post i result t)
    (hwait : ∀ s ms, D.inv s → D.inv (wait s ms) ∧ ∀ i, (D.rely i).rel s (wait s ms))
    (hallowed : ∀ s k, D.allowed s k) (turns : List Turn) :
    SafePool D post (turns.foldl (Turn.take exec wait) p) := by
  exact h.run hpost hwait ((Run.foldl _ _ turns).mono fun q t _ => Turn.asks_any hallowed q t)

/-- What the next statement of a call leaves true exactly where it is good, a turn does. -/
theorem Turn.take_next_iff {P : σ → Prop} {good : σ → κ → Prop}
    {p : Pool σ (Program κ answer ε α)} (hsame : P p.shared)
    (hgood : ∀ (i : Nat) k next, p.threads[i]? = some (.send k next) →
      (P (exec i p.shared k).1 ↔ good p.shared k))
    (hwait : ∀ ms, P (wait p.shared ms)) (t : Turn) :
    P (t.take exec wait p).shared ↔ t.asks good p := by
  cases t with
  | wait ms => exact iff_of_true (hwait ms) trivial
  | call i =>
    simp only [Turn.take, Turn.asks, Program.turn, Pool.step]
    cases hx : p.threads[i]? with
    | none => simpa using hsame
    | some x =>
      simp only [Option.mem_some_iff, forall_eq']
      cases x with
      | done result => exact iff_of_true hsame trivial
      | send k next => exact hgood i k next hx

theorem Turn.take_iff {P : σ → Prop} {good : σ → κ → Prop} {p : Pool σ (Program κ answer ε α)}
    (hsame : P p.shared) (hgood : ∀ i k, P (exec i p.shared k).1 ↔ good p.shared k)
    (hwait : ∀ ms, P (wait p.shared ms)) (t : Turn) :
    P (t.take exec wait p).shared ↔ t.asks good p :=
  Turn.take_next_iff hsame (fun i k _ _ => hgood i k) hwait t

theorem SafePool.take_iff {P : σ → Prop} {good : σ → κ → Prop} (h : SafePool D post p)
    (hsame : P p.shared)
    (hgood : ∀ i k, D.needs i p.shared k → (P (exec i p.shared k).1 ↔ good p.shared k))
    (hwait : ∀ ms, P (wait p.shared ms)) (t : Turn) :
    P (t.take exec wait p).shared ↔ t.asks good p := by
  refine Turn.take_next_iff hsame (fun i k next hx => hgood i k ?_) hwait t
  exact (h.calls i _ hx p.shared ((D.rely i).refl _) h.inv).1

/-- What a statement of safe calls keeps exactly where it is good, and what it leaves as it was,
holds between any two states of the interleavings whose statements are good, and of no others. -/
theorem SafePool.kept_iff {I : σ → Prop} {R : σ → σ → Prop} {good : σ → κ → Prop}
    (h : SafePool D post p)
    (hpost : ∀ i result s t, post i result s → (D.rely i).rel s t → post i result t)
    (hwait : ∀ s ms, D.inv s → D.inv (wait s ms) ∧ ∀ i, (D.rely i).rel s (wait s ms))
    (hallowed : ∀ s k, D.allowed s k) (hrefl : ∀ s, R s s)
    (htrans : ∀ {s t u}, R s t → R t u → R s u) (h0 : I p.shared)
    (hgood : ∀ i s k, D.inv s → D.needs i s k → I s →
      (I (exec i s k).1 ∧ R s (exec i s k).1 ↔ good s k))
    (hIwait : ∀ s ms, I s → I (wait s ms) ∧ R s (wait s ms)) (turns : List Turn) :
    (∀ before between later, turns = before ++ between ++ later →
        I ((before ++ between).foldl (Turn.take exec wait) p).shared ∧
          R (before.foldl (Turn.take exec wait) p).shared
            ((before ++ between).foldl (Turn.take exec wait) p).shared) ↔
      Run (Turn.take exec wait) (fun p t => t.asks good p) p turns
        (turns.foldl (Turn.take exec wait) p) := by
  have hstep (q : Pool σ (Program κ answer ε α)) (t : Turn) (hq : SafePool D post q ∧ I q.shared) :
      ((SafePool D post (t.take exec wait q) ∧ I (t.take exec wait q).shared) ∧
        R q.shared (t.take exec wait q).shared) ↔ t.asks good q := by
    have hnext : SafePool D post (t.take exec wait q) := hq.1.run_any hpost hwait hallowed [t]
    rw [and_iff_right hnext]
    exact hq.1.take_iff (P := fun s => I s ∧ R q.shared s) ⟨hq.2, hrefl _⟩
      (fun i k hneeds => hgood i _ k hq.1.inv hneeds hq.2) (fun ms => hIwait _ ms hq.2) t
  rw [← Run.kept_iff (I := fun q => SafePool D post q ∧ I q.shared)
    (R := fun q r => R q.shared r.shared) (fun q => hrefl q.shared) htrans ⟨h, h0⟩ hstep]
  refine forall_congr' fun before => forall_congr' fun between => forall_congr' fun later =>
    forall_congr' fun _ => and_congr_left' (and_iff_right ?_).symm
  exact h.run_any hpost hwait hallowed (before ++ between)

/-- The same of what a statement keeps, with nothing asked of earlier states. -/
theorem SafePool.all_iff {I : σ → Prop} {good : σ → κ → Prop} (h : SafePool D post p)
    (hpost : ∀ i result s t, post i result s → (D.rely i).rel s t → post i result t)
    (hwait : ∀ s ms, D.inv s → D.inv (wait s ms) ∧ ∀ i, (D.rely i).rel s (wait s ms))
    (hallowed : ∀ s k, D.allowed s k) (h0 : I p.shared)
    (hgood : ∀ i s k, D.inv s → D.needs i s k → I s → (I (exec i s k).1 ↔ good s k))
    (hIwait : ∀ s ms, I s → I (wait s ms)) (turns : List Turn) :
    (∀ before later, turns = before ++ later →
        I (before.foldl (Turn.take exec wait) p).shared) ↔
      Run (Turn.take exec wait) (fun p t => t.asks good p) p turns
        (turns.foldl (Turn.take exec wait) p) := by
  rw [← h.kept_iff (I := I) (R := fun _ _ => True) hpost hwait hallowed (fun _ => trivial)
    (fun _ _ => trivial) h0 (by simpa only [and_true] using hgood)
    (fun s ms hs => ⟨hIwait s ms hs, trivial⟩) turns]
  simp only [and_true]
  exact ⟨fun hall before between later hturns => hall _ later hturns,
    fun hall before later hturns => by simpa using hall before [] later (by simpa using hturns)⟩

/-- An invariant that good statements keep. -/
theorem Turn.keeps {I : σ → Prop} {good : σ → κ → Prop}
    (hgood : ∀ i s k, I s → good s k → I (exec i s k).1) (hwait : ∀ s ms, I s → I (wait s ms))
    (h : I p.shared) (t : Turn) (hasks : t.asks good p) : I (t.take exec wait p).shared := by
  cases t with
  | wait ms => exact hwait p.shared ms h
  | call i =>
    simp only [Turn.take, Turn.asks, Program.turn, Pool.step] at hasks ⊢
    cases hx : p.threads[i]? with
    | none => exact h
    | some x =>
      rw [hx] at hasks
      cases x with
      | done result => exact h
      | send k next => exact hgood i p.shared k h (hasks _ rfl)

/-- An invariant of all statements. -/
theorem Turn.foldl_keeps {I : σ → Prop} (hexec : ∀ i s k, I s → I (exec i s k).1)
    (hwait : ∀ s ms, I s → I (wait s ms)) (h : I p.shared) (turns : List Turn) :
    I (turns.foldl (Turn.take exec wait) p).shared := by
  induction turns generalizing p with
  | nil => exact h
  | cons t turns ih =>
    exact ih (Turn.keeps (fun i s k hs _ => hexec i s k hs) hwait h t
      (Turn.asks_any (fun _ _ => trivial) p t))

/-- What every call may rely on holds between any two states of a run. -/
theorem SafePool.frame (h : SafePool D post p)
    (hpost : ∀ i result s t, post i result s → (D.rely i).rel s t → post i result t)
    (hwait : ∀ s ms, D.inv s → D.inv (wait s ms) ∧ ∀ i, (D.rely i).rel s (wait s ms))
    {F : Frame σ} (hframe : ∀ i s t, (D.rely i).rel s t → F.rel s t)
    (hrun : Run (Turn.take exec wait) (fun p t => t.asks D.allowed p) p turns q) :
    F.rel p.shared q.shared := by
  have hboth : SafePool D post q ∧ F.rel p.shared q.shared := by
    refine hrun.invariant (I := fun r => SafePool D post r ∧ F.rel p.shared r.shared)
      ⟨h, F.refl _⟩ fun r t hr hasks => ?_
    have hstep : SafePool D post (t.take exec wait r) := hr.1.run hpost hwait (.snoc .nil hasks)
    refine ⟨hstep, F.trans hr.2 ?_⟩
    cases t with
    | wait ms => exact hframe 0 _ _ ((hwait r.shared ms hr.1.inv).2 0)
    | call i =>
      simp only [Turn.take, Program.turn, Pool.step]
      cases hx : r.threads[i]? with
      | none => exact F.refl _
      | some x =>
        cases x with
        | done result => exact F.refl _
        | send k next =>
          -- A call with another number may rely on what call `i` does.
          have hneeds := (hr.1.calls i _ hx r.shared ((D.rely i).refl _) hr.1.inv).1
          have hkeeps := D.keeps i r.shared k hr.1.inv hneeds (hasks _ hx)
          exact hframe (i + 1) _ _ (hkeeps.2 (i + 1) (Nat.succ_ne_self i))
  exact hboth.2

-- ---
-- One turn
-- ---

theorem turn_self (h : p.threads[i]? = some x) :
    (turn exec p i).shared = (advance (exec i) p.shared x).1 ∧
      (turn exec p i).threads[i]? = some (advance (exec i) p.shared x).2 := by
  obtain ⟨hlt, rfl⟩ := List.getElem?_eq_some_iff.mp h
  simp [turn, Pool.step, hlt]

theorem turn_ne (h : j ≠ i) : (turn exec p i).threads[j]? = p.threads[j]? := by
  simp only [turn, Pool.step]
  split
  · rfl
  · exact List.getElem?_set_ne h.symm

-- ---
-- One call along a history
-- ---

/-- A call after a turn: the turn was another's, or took its next statement. -/
theorem take_cases {exec : Nat → σ → (k : κ) → σ × Except ε (answer k)} {t : Turn}
    (h : (t.take exec wait p).threads[i]? = some x) :
    (t ≠ .call i ∧ p.threads[i]? = some x) ∨
      t = .call i ∧ ∃ y, p.threads[i]? = some y ∧
        (t.take exec wait p).shared = (advance (exec i) p.shared y).1 ∧
        x = (advance (exec i) p.shared y).2 := by
  cases t with
  | wait ms => exact .inl ⟨Turn.noConfusion, h⟩
  | call j =>
    by_cases hj : i = j
    · subst hj
      cases hy : p.threads[i]? with
      | none =>
        simp only [Turn.take, turn, Pool.step, hy] at h
        cases h
      | some y =>
        have hself : (turn exec p i).shared = (advance (exec i) p.shared y).1 ∧
            (turn exec p i).threads[i]? = some (advance (exec i) p.shared y).2 := turn_self hy
        exact .inr ⟨rfl, y, rfl, hself.1, Option.some.inj (h.symm.trans hself.2)⟩
    · refine .inl ⟨fun heq => hj (Turn.call.inj heq).symm, ?_⟩
      exact (turn_ne hj).symm.trans h

/-- What the statements of one call keep of it. -/
theorem thread_along {J : Program κ answer ε α → Prop} (h0 : ∀ x, p.threads[i]? = some x → J x)
    (hnext : ∀ s k next, J (.send k next) → J (next (exec i s k).2)) (turns : List Turn) :
    ∀ x, (turns.foldl (Turn.take exec wait) p).threads[i]? = some x → J x := by
  induction turns generalizing p with
  | nil => exact h0
  | cons t turns ih =>
    refine ih fun x hx => ?_
    rcases take_cases hx with ⟨-, hsame⟩ | ⟨-, y, hy, -, rfl⟩
    · exact h0 x hsame
    · cases y with
      | done result => exact h0 _ hy
      | send k next => exact hnext _ k next (h0 _ hy)

/-- What a turn does to the shared state, whoever takes it. -/
theorem Turn.take_rel {F : Frame σ} (hexec : ∀ j s k, F.rel s (exec j s k).1)
    (hwait : ∀ s ms, F.rel s (wait s ms)) (p : Pool σ (Program κ answer ε α)) (t : Turn) :
    F.rel p.shared (t.take exec wait p).shared :=
  Turn.keeps (I := F.rel p.shared) (fun j s k hs _ => F.trans hs (hexec j s k))
    (fun s ms hs => F.trans hs (hwait s ms)) (F.refl _) t (Turn.asks_any (fun _ _ => trivial) p t)

/-- A safe call stays safe up to a statement of its own that is not allowed. -/
theorem Safe.along {post : Except ε α → σ → Prop}
    (hpost : ∀ result s t, post result s → (D.rely i).rel s t → post result t)
    (hinv : ∀ s, D.inv s) (hexec : ∀ j s k, (D.rely i).rel s (exec j s k).1)
    (hwait : ∀ s ms, (D.rely i).rel s (wait s ms))
    (h : ∀ x, p.threads[i]? = some x → x.Safe D i post p.shared) (turns : List Turn) :
    ∀ x, (turns.foldl (Turn.take exec wait) p).threads[i]? = some x →
      x.Safe D i post (turns.foldl (Turn.take exec wait) p).shared ∨
      ∃ before later k next, turns = before ++ Turn.call i :: later ∧
        (before.foldl (Turn.take exec wait) p).threads[i]? = some (.send k next) ∧
        ¬D.allowed (before.foldl (Turn.take exec wait) p).shared k := by
  induction turns using List.reverseRecOn with
  | nil => exact fun x hx => .inl (h x hx)
  | append_singleton turns t ih =>
    intro x hx
    rw [List.foldl_append, List.foldl_cons, List.foldl_nil] at hx ⊢
    generalize hq : turns.foldl (Turn.take exec wait) p = q at ih hx ⊢
    have hearlier (y) (hy : q.threads[i]? = some y) : y.Safe D i post q.shared ∨
        ∃ before later k next, turns ++ [t] = before ++ Turn.call i :: later ∧
          (before.foldl (Turn.take exec wait) p).threads[i]? = some (.send k next) ∧
          ¬D.allowed (before.foldl (Turn.take exec wait) p).shared k := by
      refine (ih y hy).imp_right ?_
      rintro ⟨before, later, k, next, rfl, hrest⟩
      exact ⟨before, later ++ [t], k, next, by simp, hrest⟩
    have hmoves := Turn.take_rel (F := D.rely i) hexec hwait q t
    rcases take_cases hx with ⟨-, hsame⟩ | ⟨rfl, y, hy, hshared, rfl⟩
    · exact (hearlier x hsame).imp_left fun hsafe => hsafe.rely hpost hmoves
    · rcases hearlier y hy with hsafe | hbefore
      · cases y with
        | done result => exact .inl (hsafe.rely hpost hmoves)
        | send k next =>
          by_cases hallowed : D.allowed q.shared k
          · rw [hshared]
            exact .inl ((hsafe q.shared ((D.rely i).refl _) (hinv _)).2 hallowed)
          · exact .inr ⟨turns, [], k, next, rfl, hq ▸ hy, hq ▸ hallowed⟩
      · exact .inr hbefore

-- ---
-- Statements that fail
-- ---

/-- The call, whose statements end as `fates` says from the `n`-th on. -/
def fated (fates : Nat → Fate) (x : Program κ answer ε α) (n : Nat) :
    Program (κ × Fate) (fun k => answer k.1) ε α :=
  match x with
  | .done result => .done result
  | .send k next => .send (k, fates n) fun reply => (next reply).fated fates (n + 1)

def execFated (thrown : String → ε) (exec : σ → (k : κ) → σ × Except ε (answer k)) (s : σ)
    (k : κ × Fate) : σ × Except ε (answer k.1) :=
  match k.2 with
  | .applied => exec s k.1
  | .refused message => (s, .error (thrown message))
  | .unanswered message => ((exec s k.1).1, .error (thrown message))

theorem execFated_fst (thrown : String → ε) (exec : σ → (k : κ) → σ × Except ε (answer k)) (s : σ)
    (k : κ × Fate) : (execFated thrown exec s k).1 = k.2.write s (exec s k.1).1 := by
  obtain ⟨k, fate⟩ := k
  cases fate <;> rfl

-- ---
-- Calls that leave nothing when they fail
-- ---

/-- What changes the reading is the last statement of a call that succeeds. -/
def WritesLast (exec : Nat → σ → (k : κ) → σ × Except ε (answer k)) (read : σ → β)
    (x : Program κ answer ε α) : Prop :=
  match x with
  | .done _ => True
  | .send k next =>
    (∀ i s, read (exec i s k).1 = read s ∨ ∃ a, next (exec i s k).2 = .done (.ok a)) ∧
      ∀ reply, (next reply).WritesLast exec read

section

variable {exec : Nat → σ → (k : κ) → σ × Except ε (answer k)} {read : σ → β}

theorem writesLast_read {k : κ} {f : answer k → Program κ answer ε α}
    (hread : ∀ i s, read (exec i s k).1 = read s) (hf : ∀ a, (f a).WritesLast exec read) :
    (statement k >>= f).WritesLast exec read := by
  refine ⟨fun i s => .inl (hread i s), fun reply => ?_⟩
  cases reply with
  | ok a => exact hf a
  | error e => trivial

/-- A statement that changes nothing when it is refused. -/
theorem writesLast_statement {k : κ}
    (hrefused : ∀ i s e, (exec i s k).2 = .error e → read (exec i s k).1 = read s) :
    (statement k : Program κ answer ε (answer k)).WritesLast exec read := by
  refine ⟨fun i s => ?_, fun _ => trivial⟩
  cases hreply : (exec i s k).2 with
  | ok a => exact .inr ⟨a, rfl⟩
  | error e => exact .inl (hrefused i s e hreply)

theorem writesLast_need {o : Option γ} {e : ε} {f : γ → Program κ answer ε α}
    (hf : ∀ b, o = some b → (f b).WritesLast exec read) :
    (need o e >>= f).WritesLast exec read := by
  cases o with
  | some b => exact hf b rfl
  | none => trivial

theorem writesLast_ensure {b : Bool} {e : ε} {f : Unit → Program κ answer ε α}
    (hf : b = true → (f ()).WritesLast exec read) :
    (ensure b e >>= f).WritesLast exec read := by
  cases b with
  | true => exact hf rfl
  | false => trivial

variable {wait : σ → Nat → σ} {p : Pool σ (Program κ answer ε α)} {i : Nat}

theorem Turn.take_writesLast (h : ∀ x ∈ p.threads, x.WritesLast exec read) (t : Turn) :
    ∀ x ∈ (t.take exec wait p).threads, x.WritesLast exec read := by
  cases t with
  | wait ms => exact h
  | call i =>
    refine Pool.step_assertions
      (A := fun _ (x : Program κ answer ε α) => x.WritesLast exec read) h ?_ ?_
    · intro x _ hx
      cases x with
      | done result => trivial
      | send k next => exact hx.2 _
    · exact fun _ _ _ _ hy => hy

/-- A call that has ended stays so. -/
theorem Turn.take_done {result : Except ε α} (h : p.threads[i]? = some (.done result)) (t : Turn) :
    (t.take exec wait p).threads[i]? = some (.done result) := by
  cases t with
  | wait ms => exact h
  | call j =>
    simp only [Turn.take, Program.turn, Pool.step]
    cases hx : p.threads[j]? with
    | none => exact h
    | some x =>
      simp only [List.getElem?_set]
      split
      · rename_i hj
        subst hj
        obtain rfl := Option.some.inj (hx.symm.trans h)
        simp [(List.getElem?_eq_some_iff.mp h).1, advance]
      · exact h

theorem done_foldl {result : Except ε α} (h : p.threads[i]? = some (.done result))
    (turns : List Turn) :
    (turns.foldl (Turn.take exec wait) p).threads[i]? = some (.done result) := by
  induction turns generalizing p with
  | nil => exact h
  | cons t turns ih => exact ih (Turn.take_done h t)

/-- No statement of a call that fails in the end changes the reading. -/
theorem failed_reads (h : ∀ x ∈ p.threads, x.WritesLast exec read) {before later : List Turn}
    {e : ε}
    (hfailed : ((before ++ Turn.call i :: later).foldl (Turn.take exec wait) p).threads[i]? =
      some (.done (.error e))) :
    read ((before ++ [Turn.call i]).foldl (Turn.take exec wait) p).shared =
      read (before.foldl (Turn.take exec wait) p).shared := by
  have hall : ∀ x ∈ (before.foldl (Turn.take exec wait) p).threads, x.WritesLast exec read := by
    clear hfailed
    induction before generalizing p with
    | nil => exact h
    | cons t before ih => exact ih (Turn.take_writesLast h t)
  rw [List.foldl_append, List.foldl_cons] at hfailed
  rw [List.foldl_append, List.foldl_cons, List.foldl_nil]
  generalize before.foldl (Turn.take exec wait) p = q at hall hfailed
  cases hx : q.threads[i]? with
  | none => simp [Turn.take, Program.turn, Pool.step, hx]
  | some x =>
    cases x with
    | done result => simp [Turn.take, Program.turn, Pool.step, hx, advance]
    | send k next =>
      have hlt : i < q.threads.length := (List.getElem?_eq_some_iff.mp hx).1
      rcases (hall _ (List.mem_of_getElem? hx)).1 i q.shared with hread | ⟨a, hdone⟩
      · simpa [Turn.take, Program.turn, Pool.step, hx, advance] using hread
      · have hended : (Turn.take exec wait q (.call i)).threads[i]? = some (.done (.ok a)) := by
          simp only [Turn.take, Program.turn, Pool.step, hx, advance, hdone,
            List.getElem?_set_self hlt]
        have hlast : (later.foldl (Turn.take exec wait)
            (Turn.take exec wait q (Turn.call i))).threads[i]? = some (.done (.ok a)) :=
          done_foldl hended later
        cases hlast.symm.trans hfailed

end

end Program

end NimbusPos.Lib
