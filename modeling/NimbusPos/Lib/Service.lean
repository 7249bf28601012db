/-!
# Service calls

A service call reads and writes one store and may fail. A failure keeps the
writes made before it: only a database transaction takes them back. Each
primitive has one law for the outcome `.ok`, and `Reads` says that a call writes
nothing; a call that checks first and writes last is `Atomic`. A statement may fail,
and a failed statement may still have been written: that is its `Fate`.
-/

namespace NimbusPos.Lib

/-- How a database statement ends: written and answered, refused, or written with
an error for an answer. -/
inductive Fate
  | applied
  | refused (message : String)
  | unanswered (message : String)
  deriving DecidableEq, Repr

namespace Fate

/-- The state the statement leaves, which writes `t` over `s`. -/
def write {σ : Type} (s t : σ) : Fate → σ
  | .applied | .unanswered _ => t
  | .refused _ => s

/-- The statement is written. -/
def written : Fate → Bool
  | .applied | .unanswered _ => true
  | .refused _ => false

theorem write_eq {σ : Type} (s t : σ) (fate : Fate) :
    fate.write s t = if fate.written then t else s := by
  cases fate <;> rfl

/-- The error its caller gets. -/
def error? : Fate → Option String
  | .applied => none
  | .refused message | .unanswered message => some message

theorem write_cases {σ : Type} (s t : σ) (fate : Fate) :
    fate.write s t = t ∨ fate.write s t = s := by
  cases fate with
  | applied | unanswered _ => exact .inl rfl
  | refused _ => exact .inr rfl

end Fate

abbrev Service (ε σ α : Type) := EStateM ε σ α

namespace Service

variable {ε σ α β : Type}

def ensure (b : Bool) (e : ε) : Service ε σ Unit :=
  if b then pure () else throw e

def need (o : Option α) (e : ε) : Service ε σ α :=
  match o with
  | some a => pure a
  | none => throw e

/-- Refuse a counterexample to a check. -/
def reject (o : Option α) (e : α → ε) : Service ε σ Unit :=
  match o with
  | none => pure ()
  | some a => throw (e a)

/-- The store a call leaves behind, whether it returned or failed. -/
def final : EStateM.Result ε σ α → σ
  | .ok _ s => s
  | .error _ s => s

/-- What a successful call returned. -/
def value? : EStateM.Result ε σ α → Option α
  | .ok a _ => some a
  | .error _ _ => none

/-- The call succeeded. -/
def returned (r : EStateM.Result ε σ α) : Bool := (value? r).isSome

/-- A database transaction: a failure takes every write back. -/
def transaction (x : Service ε σ α) : Service ε σ α := fun s =>
  match x s with
  | .ok a t => .ok a t
  | .error e _ => .error e s

/-- A statement that ends as `fate` says. -/
def fated (thrown : String → ε) (fate : Fate) (x : Service ε σ α) : Service ε σ α :=
  match fate with
  | .applied => x
  | .refused message => throw (thrown message)
  | .unanswered message => do
    let _ ← x
    throw (thrown message)

/-- A failure is logged and its writes stay. -/
def attempt (x : Service ε σ Unit) : Service ε σ Unit := fun s => .ok () (final (x s))

-- ---
-- What a successful call did
-- ---

@[simp] theorem bind_ok {x : Service ε σ α} {f : α → Service ε σ β} :
    (x >>= f) s = .ok b t ↔ ∃ a r, x s = .ok a r ∧ f a r = .ok b t := by
  simp only [bind, EStateM.bind]
  cases x s with
  | ok a r =>
    constructor
    · exact fun h => ⟨a, r, rfl, h⟩
    · rintro ⟨_, _, hx, h⟩
      cases hx
      exact h
  | error e r => simp

@[simp] theorem pure_ok : (pure a : Service ε σ α) s = .ok b t ↔ a = b ∧ s = t := by
  simp [pure, EStateM.pure]

@[simp] theorem throw_ok {e : ε} : (throw e : Service ε σ α) s = .ok b t ↔ False := by
  constructor
  · intro h
    cases h
  · exact False.elim

@[simp] theorem get_ok : (get : Service ε σ σ) s = .ok a t ↔ s = a ∧ s = t := by
  constructor
  · intro h
    cases h
    exact ⟨rfl, rfl⟩
  · rintro ⟨rfl, rfl⟩
    rfl

@[simp] theorem modify_ok {f : σ → σ} : (modify f : Service ε σ PUnit) s = .ok u t ↔ f s = t := by
  constructor
  · intro h
    cases h
    rfl
  · rintro rfl
    rfl

@[simp] theorem ensure_ok {e : ε} {s : σ} : ensure b e s = .ok u t ↔ b = true ∧ s = t := by
  cases b
  · simp [ensure, throw_ok]
  · simp [ensure, pure_ok]

@[simp] theorem need_ok {e : ε} {s : σ} {o : Option α} :
    need o e s = .ok a t ↔ o = some a ∧ s = t := by
  cases o
  · simp [need, throw_ok]
  · simp [need, pure_ok]

@[simp] theorem reject_ok {e : α → ε} {s : σ} {o : Option α} :
    reject o e s = .ok u t ↔ o = none ∧ s = t := by
  cases o
  · simp [reject, pure_ok]
  · simp [reject, throw_ok]

@[simp] theorem map_ok {x : Service ε σ α} {f : α → β} :
    (f <$> x) s = .ok b t ↔ ∃ a, x s = .ok a t ∧ f a = b := by
  simp only [Functor.map, EStateM.map]
  cases x s with
  | ok a r =>
    constructor
    · rintro ⟨⟩
      exact ⟨a, rfl, rfl⟩
    · rintro ⟨_, ⟨⟩, rfl⟩
      rfl
  | error e r => simp

@[simp] theorem ite_ok {x y : Service ε σ α} [Decidable c] :
    (if c then x else y) s = .ok a t ↔ (c ∧ x s = .ok a t) ∨ (¬c ∧ y s = .ok a t) := by
  split <;> simp_all

@[simp] theorem transaction_ok {x : Service ε σ α} : transaction x s = .ok a t ↔ x s = .ok a t := by
  simp only [transaction]
  cases x s with
  | ok b r => simp
  | error e r => simp

@[simp] theorem attempt_ok {x : Service ε σ Unit} : attempt x s = .ok u t ↔ final (x s) = t := by
  simp [attempt]

@[simp] theorem fated_modify_ok {f : σ → σ} {thrown : String → ε} {fate : Fate} :
    fated thrown fate (modify f : Service ε σ PUnit) s = .ok u t ↔ fate = .applied ∧ f s = t := by
  cases fate <;> simp [fated]

theorem ok_of_returned {r : EStateM.Result ε σ α} (h : returned r = true) :
    ∃ a, r = .ok a (final r) := by
  cases r with
  | ok a t => exact ⟨a, rfl⟩
  | error e t => cases h

-- ---
-- A call, primitive by primitive
-- ---

theorem run_bind (x : Service ε σ α) (f : α → Service ε σ β) (s : σ) :
    (x >>= f) s = match x s with
      | .ok a r => f a r
      | .error e r => .error e r := rfl

theorem run_pure (a : α) (s : σ) : (pure a : Service ε σ α) s = .ok a s := rfl

theorem run_get (s : σ) : (get : Service ε σ σ) s = .ok s s := rfl

theorem run_need_some (a : α) (e : ε) (s : σ) : need (some a) e s = .ok a s := rfl

theorem run_need_none (e : ε) (s : σ) : (need none e : Service ε σ α) s = .error e s := rfl

theorem run_ensure (b : Bool) (e : ε) (s : σ) :
    ensure b e s = if b then .ok () s else .error e s := by
  cases b <;> rfl

-- ---
-- The store a call leaves, check by check
-- ---

theorem final_get {f : σ → Service ε σ α} : final ((get >>= f) s) = final (f s s) := rfl

theorem final_need_none {f : α → Service ε σ β} {e : ε} : final ((need none e >>= f) s) = s := rfl

theorem final_need_some {f : α → Service ε σ β} {e : ε} :
    final ((need (some a) e >>= f) s) = final (f a s) := rfl

theorem final_ensure {f : Unit → Service ε σ α} {e : ε} :
    final ((ensure b e >>= f) s) = if b then final (f () s) else s := by
  cases b <;> rfl

theorem final_reject_none {f : Unit → Service ε σ β} {e : α → ε} :
    final ((reject none e >>= f) s) = final (f () s) := rfl

theorem final_reject_some {f : Unit → Service ε σ β} {e : α → ε} :
    final ((reject (some a) e >>= f) s) = s := rfl

theorem final_bind_modify {f : σ → σ} {g : PUnit → Service ε σ α} :
    final (((modify f : Service ε σ PUnit) >>= g) s) = final (g ⟨⟩ (f s)) := rfl

theorem final_fated_modify {f : σ → σ} {g : PUnit → Service ε σ α} {thrown : String → ε}
    (fate : Fate) :
    final ((fated thrown fate (modify f : Service ε σ PUnit) >>= g) s) =
      match fate with
      | .applied => final (g ⟨⟩ (f s))
      | .refused _ => s
      | .unanswered _ => f s := by
  cases fate <;> rfl

theorem final_fated {x : Service ε σ α} {thrown : String → ε} (fate : Fate) :
    final (fated thrown fate x s) = fate.write s (final (x s)) := by
  cases fate with
  | applied | refused message => rfl
  | unanswered message =>
    simp only [fated, Fate.write, Bind.bind, EStateM.bind]
    cases x s <;> rfl

theorem final_map {x : Service ε σ α} {f : α → β} : final ((f <$> x) s) = final (x s) := by
  simp only [Functor.map, EStateM.map]
  cases x s <;> rfl

theorem final_bind_pure {x : Service ε σ α} {b : β} :
    final ((x >>= fun _ => pure b) s) = final (x s) := by
  simp only [Bind.bind, EStateM.bind]
  cases x s <;> rfl

theorem final_modify {f : σ → σ} : final ((modify f : Service ε σ PUnit) s) = f s := rfl

-- ---
-- Where a call failed
-- ---

theorem bind_error {x : Service ε σ α} {f : α → Service ε σ β} :
    (x >>= f) s = .error e t ↔ x s = .error e t ∨ ∃ a r, x s = .ok a r ∧ f a r = .error e t := by
  simp only [bind, EStateM.bind]
  cases x s with
  | ok a r =>
    constructor
    · exact fun h => .inr ⟨a, r, rfl, h⟩
    · rintro (h | ⟨_, _, hx, h⟩)
      · cases h
      · cases hx
        exact h
  | error e' r => simp

theorem ensure_error {e' : ε} {s : σ} :
    ensure b e' s = .error e t ↔ b = false ∧ e' = e ∧ s = t := by
  cases b with
  | true => simp [ensure, pure, EStateM.pure]
  | false =>
    constructor
    · intro h
      cases h
      exact ⟨rfl, rfl, rfl⟩
    · rintro ⟨_, rfl, rfl⟩
      rfl

-- ---
-- What a failed call left
-- ---

/-- The call writes nothing. -/
def Reads (x : Service ε σ α) : Prop := ∀ s, final (x s) = s

/-- A failed call leaves the store as it found it. -/
def Atomic (x : Service ε σ α) : Prop := ∀ s e t, x s = .error e t → t = s

/-- The call never fails. -/
def Total (x : Service ε σ α) : Prop := ∀ s e t, x s ≠ .error e t

theorem Reads.ok {x : Service ε σ α} (hx : Reads x) (h : x s = .ok a t) : t = s := by
  simpa [h, final] using hx s

/-- The call succeeds with `a`, from a store it only reads. -/
def Returns (x : Service ε σ α) (s : σ) (a : α) : Prop := x s = .ok a s

theorem Returns.value? {x : Service ε σ α} (h : Returns x s a) : value? (x s) = some a := by
  rw [Returns] at h
  rw [h]
  rfl

theorem Reads.returns {x : Service ε σ α} (hx : Reads x) :
    x s = .ok a t ↔ Returns x s a ∧ s = t := by
  constructor
  · intro h
    have ht := hx.ok h
    subst ht
    exact ⟨h, rfl⟩
  · rintro ⟨h, rfl⟩
    exact h

theorem Reads.atomic {x : Service ε σ α} (hx : Reads x) : Atomic x := by
  intro s e t h
  simpa [h, final] using hx s

theorem Total.atomic {x : Service ε σ α} (hx : Total x) : Atomic x :=
  fun s e t h => absurd h (hx s e t)

theorem Reads.pure (a : α) : Reads (pure a : Service ε σ α) := fun _ => rfl

theorem Reads.throw (e : ε) : Reads (throw e : Service ε σ α) := fun _ => rfl

theorem Reads.get : Reads (get : Service ε σ σ) := fun _ => rfl

theorem Reads.ensure (b : Bool) (e : ε) : Reads (ensure b e : Service ε σ Unit) := by
  cases b <;> exact fun _ => rfl

theorem Reads.need (o : Option α) (e : ε) : Reads (need o e : Service ε σ α) := by
  cases o <;> exact fun _ => rfl

theorem Reads.reject (o : Option α) (e : α → ε) : Reads (reject o e : Service ε σ Unit) := by
  cases o <;> exact fun _ => rfl

theorem Reads.bind {x : Service ε σ α} {f : α → Service ε σ β} (hx : Reads x)
    (hf : ∀ a, Reads (f a)) : Reads (x >>= f) := by
  intro s
  have h := hx s
  simp only [Bind.bind, EStateM.bind]
  cases hxs : x s with
  | ok a r =>
    simp only [hxs, final] at h
    exact h ▸ hf a r
  | error e r => simpa only [hxs, final] using h

/-- Checks before, writes after. -/
theorem Reads.then {x : Service ε σ α} {f : α → Service ε σ β} (hx : Reads x)
    (hf : ∀ a, Atomic (f a)) : Atomic (x >>= f) := by
  intro s e t h
  simp only [Bind.bind, EStateM.bind] at h
  cases hxs : x s with
  | ok a r =>
    rw [hxs] at h
    exact (hf a r e t h).trans (hx.ok hxs)
  | error e' r =>
    rw [hxs] at h
    cases h
    exact hx.atomic s e t hxs

theorem Total.pure (a : α) : Total (pure a : Service ε σ α) := fun _ _ _ h => nomatch h

theorem Total.modify (f : σ → σ) : Total (modify f : Service ε σ PUnit) := fun _ _ _ h => nomatch h

theorem Total.bind {x : Service ε σ α} {f : α → Service ε σ β} (hx : Total x)
    (hf : ∀ a, Total (f a)) : Total (x >>= f) := by
  intro s e t h
  simp only [Bind.bind, EStateM.bind] at h
  cases hxs : x s with
  | ok a r => exact hf a r e t (by simpa [hxs] using h)
  | error e' r => exact hx s e' r hxs

theorem transaction_atomic (x : Service ε σ α) : Atomic (transaction x) := by
  intro s e t h
  simp only [transaction] at h
  cases hx : x s with
  | ok a r => simp [hx] at h
  | error e' r =>
    simp only [hx, EStateM.Result.error.injEq] at h
    exact h.2.symm

theorem Total.attempt (x : Service ε σ Unit) : Total (attempt x) := fun _ _ _ h => nomatch h

theorem Atomic.ite {x y : Service ε σ α} [Decidable c] (hx : Atomic x) (hy : Atomic y) :
    Atomic (if c then x else y) := by
  split <;> assumption

/-- What follows an atomic call cannot fail. -/
theorem Atomic.bind_total {x : Service ε σ α} {f : α → Service ε σ β} (hx : Atomic x)
    (hf : ∀ a, Total (f a)) : Atomic (x >>= f) := by
  intro s e t h
  simp only [Bind.bind, EStateM.bind] at h
  cases hs : x s with
  | ok a r => exact absurd (by simpa [hs] using h) (hf a r e t)
  | error e' r =>
    simp only [hs, EStateM.Result.error.injEq] at h
    obtain ⟨rfl, rfl⟩ := h
    exact hx s e' r hs

/-- A property of the store an atomic call leaves: the call did nothing, or it
succeeded. -/
theorem Atomic.elim {x : Service ε σ α} {P : σ → Prop} (hx : Atomic x) (h : P s)
    (hok : ∀ a t, x s = .ok a t → P t) : P (final (x s)) := by
  cases hs : x s with
  | ok a t => exact hok a t hs
  | error e t => exact (hx s e t hs) ▸ h

-- ---
-- Frames
-- ---

/-- What a call may change: a relation between the stores before and after. -/
structure Frame (σ : Type) where
  rel : σ → σ → Prop
  refl : ∀ s, rel s s
  trans : ∀ {s t u}, rel s t → rel t u → rel s u

/-- One reading of the store is left as it was. -/
def Frame.same (read : σ → β) : Frame σ where
  rel s t := read t = read s
  refl _ := rfl
  trans h h' := h'.trans h

/-- An invariant is kept. -/
def Frame.preserves (invariant : σ → Prop) : Frame σ where
  rel s t := invariant s → invariant t
  refl _ h := h
  trans h h' hs := h' (h hs)

/-- While the guard is met an invariant is kept, and the guard does not change. -/
def Frame.guarded (guard invariant : σ → Prop) : Frame σ where
  rel s t := (guard t ↔ guard s) ∧ (guard s → invariant s → invariant t)
  refl _ := ⟨Iff.rfl, fun _ h => h⟩
  trans h h' := ⟨h'.1.trans h.1, fun hguard hs => h'.2 (h.1.mpr hguard) (h.2 hguard hs)⟩

/-- The call stays in the frame, whether it succeeds or fails. -/
def Keeps (F : Frame σ) (x : Service ε σ α) : Prop := ∀ s, F.rel s (final (x s))

variable {F : Frame σ}

theorem Reads.keeps {x : Service ε σ α} (hx : Reads x) : Keeps F x := by
  intro s
  rw [hx s]
  exact F.refl s

theorem Keeps.modify {f : σ → σ} (h : ∀ s, F.rel s (f s)) :
    Keeps F (modify f : Service ε σ PUnit) := h

theorem Keeps.bind {x : Service ε σ α} {f : α → Service ε σ β} (hx : Keeps F x)
    (hf : ∀ a, Keeps F (f a)) : Keeps F (x >>= f) := by
  intro s
  have h := hx s
  simp only [Bind.bind, EStateM.bind]
  cases hxs : x s with
  | ok a r =>
    simp only [hxs, final] at h
    exact F.trans h (hf a r)
  | error e r => simpa only [hxs, final] using h

theorem Keeps.fated {x : Service ε σ α} {thrown : String → ε} (hx : Keeps F x) (fate : Fate) :
    Keeps F (fated thrown fate x) := by
  cases fate with
  | applied => exact hx
  | refused message => exact (Reads.throw _).keeps
  | unanswered message => exact hx.bind fun _ => (Reads.throw _).keeps

theorem Keeps.map {x : Service ε σ α} {f : α → β} (hx : Keeps F x) : Keeps F (f <$> x) := by
  intro s
  rw [final_map]
  exact hx s

theorem Keeps.attempt {x : Service ε σ Unit} (hx : Keeps F x) : Keeps F (attempt x) := hx

theorem Keeps.ite {x y : Service ε σ α} [Decidable c] (hx : Keeps F x) (hy : Keeps F y) :
    Keeps F (if c then x else y) := by
  split <;> assumption

theorem Atomic.keeps {x : Service ε σ α} (hx : Atomic x)
    (hok : ∀ s a t, x s = .ok a t → F.rel s t) : Keeps F x :=
  fun s => hx.elim (F.refl s) (hok s)

end Service

end NimbusPos.Lib
