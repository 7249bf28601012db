import NimbusPos.Lib.Program

/-!
# Calls that take something away

A statement may break what its call should keep if it fails, and statements after it carry the
count of what it broke. Calls that `Counts` describes end with the first statement that fails, so
a failed call broke nothing exactly when no statement fails that carries a count or breaks
something itself.
-/

namespace NimbusPos.Lib.Program

variable {κ ε α β σ : Type} {answer : κ → Type}

/-- The count that a statement carries, and what it adds to the count where it succeeds. -/
structure Losses (κ : Type) (answer : κ → Type) where
  carries : κ → Nat
  adds : (k : κ) → answer k → Nat

/-- The losses of statements that end as their fates say. -/
def Losses.fated (L : Losses κ answer) : Losses (κ × Fate) (fun k => answer k.1) where
  carries k := L.carries k.1
  adds k a := L.adds k.1 a

variable {L : Losses κ answer}

/-- From a count on, each statement of the call carries the count and ends the call where it
fails; the call fails for another reason only at zero, and succeeds as `post` says. -/
def Counts (L : Losses κ answer) (post : α → Nat → Prop) (x : Program κ answer ε α) (n : Nat) :
    Prop :=
  match x with
  | .done (.ok a) => post a n
  | .done (.error _) => n = 0
  | .send k next => L.carries k = n ∧ (∀ e, next (.error e) = .done (.error e)) ∧
      ∀ a, (next (.ok a)).Counts L post (n + L.adds k a)

section

variable {post : α → Nat → Prop} {n : Nat}

theorem counts_bind {x : Program κ answer ε α} {f : α → Program κ answer ε β}
    {post : β → Nat → Prop} (h : x.Counts L (fun a m => (f a).Counts L post m) n) :
    (x >>= f).Counts L post n := by
  induction x generalizing n with
  | done result => cases result <;> exact h
  | send k next ih =>
    obtain ⟨hcarries, hends, hnext⟩ := h
    refine ⟨hcarries, fun e => ?_, fun a => ih _ (hnext a)⟩
    simp only [hends e, bind]

theorem Counts.mono {x : Program κ answer ε α} {post' : α → Nat → Prop} (h : x.Counts L post n)
    (hpost : ∀ a m, post a m → post' a m) : x.Counts L post' n := by
  induction x generalizing n with
  | done result =>
    cases result with
    | ok a => exact hpost a n h
    | error e => exact h
  | send k next ih => exact ⟨h.1, h.2.1, fun a => ih _ (h.2.2 a)⟩

theorem counts_statement {k : κ} (hcarries : L.carries k = n) :
    (statement k : Program κ answer ε (answer k)).Counts L (fun a m => m = n + L.adds k a) n :=
  ⟨hcarries, fun _ => rfl, fun _ => rfl⟩

/-- A statement, and the rest of the call from what it answers. -/
theorem counts_then {k : κ} {f : answer k → Program κ answer ε α} (hcarries : L.carries k = n)
    (hf : ∀ a, (f a).Counts L post (n + L.adds k a)) : (statement k >>= f).Counts L post n := by
  refine counts_bind ((counts_statement hcarries).mono ?_)
  rintro a _ rfl
  exact hf a

/-- The fates of its statements leave the counts. -/
theorem Counts.fated {x : Program κ answer ε α} (h : x.Counts L post n) (fates : Nat → Fate)
    (m : Nat) : (x.fated fates m).Counts L.fated post n := by
  induction x generalizing n m with
  | done result => cases result <;> exact h
  | send k next ih =>
    obtain ⟨hcarries, hends, hnext⟩ := h
    refine ⟨hcarries, fun e => ?_, fun a => ih _ (hnext a) (m + 1)⟩
    simp only [hends e, Program.fated]

end

-- ---
-- Calls that take nothing away
-- ---

/-- The call counts nothing. -/
def Plain (L : Losses κ answer) (x : Program κ answer ε α) : Prop := x.Counts L (fun _ m => m = 0) 0

theorem plain_pure (a : α) : (pure a : Program κ answer ε α).Plain L := rfl

theorem plain_throw (e : ε) : (throw e : Program κ answer ε α).Plain L := rfl

theorem plain_ensure (b : Bool) (e : ε) : (ensure b e : Program κ answer ε Unit).Plain L := by
  cases b <;> rfl

theorem plain_need (o : Option α) (e : ε) : (need o e : Program κ answer ε α).Plain L := by
  cases o <;> rfl

theorem plain_statement {k : κ} (hcarries : L.carries k = 0) (hadds : ∀ a, L.adds k a = 0) :
    (statement k : Program κ answer ε (answer k)).Plain L := by
  refine (counts_statement hcarries).mono ?_
  rintro a _ rfl
  exact (Nat.zero_add _).trans (hadds a)

/-- A first part that takes nothing away. -/
theorem Plain.then {x : Program κ answer ε α} {f : α → Program κ answer ε β}
    {post : β → Nat → Prop} (hx : x.Plain L) (hf : ∀ a, (f a).Counts L post 0) :
    (x >>= f).Counts L post 0 := by
  refine counts_bind (Counts.mono hx ?_)
  rintro a _ rfl
  exact hf a

theorem plain_bind {x : Program κ answer ε α} {f : α → Program κ answer ε β} (hx : x.Plain L)
    (hf : ∀ a, (f a).Plain L) : (x >>= f).Plain L :=
  hx.then hf

-- ---
-- Failed calls
-- ---

section

variable {exec : σ → (k : κ) → σ × Except ε (answer k)} {wait : σ → Nat → σ}
  {keeps : σ → σ → Prop} {p : Pool σ (Program κ answer ε α)} {x : Program κ answer ε α} {i : Nat}
  {t : Turn} {turns : List Turn} {post : α → Nat → Prop}

/-- A statement of the call did not keep what it found. -/
def Broke (exec : σ → (k : κ) → σ × Except ε (answer k)) (wait : σ → Nat → σ)
    (keeps : σ → σ → Prop) (p : Pool σ (Program κ answer ε α)) (i : Nat) (turns : List Turn) :
    Prop :=
  ∃ before later, turns = before ++ .call i :: later ∧
    ¬keeps (before.foldl (Turn.take (fun _ => exec) wait) p).shared
      ((before ++ [.call i]).foldl (Turn.take (fun _ => exec) wait) p).shared

/-- No call that has failed by now broke anything. -/
def FailuresKeep (exec : σ → (k : κ) → σ × Except ε (answer k)) (wait : σ → Nat → σ)
    (keeps : σ → σ → Prop) (p : Pool σ (Program κ answer ε α)) (turns : List Turn) : Prop :=
  ∀ i e, (turns.foldl (Turn.take (fun _ => exec) wait) p).threads[i]? = some (.done (.error e)) →
    ¬Broke exec wait keeps p i turns

theorem broke_nil : ¬Broke exec wait keeps p i [] := by
  rintro ⟨before, later, h, _⟩
  simp at h

theorem broke_snoc : Broke exec wait keeps p i (turns ++ [t]) ↔
    Broke exec wait keeps p i turns ∨ t = .call i ∧
      ¬keeps (turns.foldl (Turn.take (fun _ => exec) wait) p).shared
        (t.take (fun _ => exec) wait (turns.foldl (Turn.take (fun _ => exec) wait) p)).shared := by
  constructor
  · rintro ⟨before, later, hturns, hbroke⟩
    rcases List.eq_nil_or_concat later with rfl | ⟨later, last, rfl⟩
    · obtain ⟨rfl, hlast⟩ := List.append_inj' hturns rfl
      cases hlast
      exact .inr ⟨rfl, by simpa using hbroke⟩
    · rw [List.concat_eq_append, ← List.cons_append, ← List.append_assoc] at hturns
      obtain ⟨rfl, -⟩ := List.append_inj' hturns rfl
      exact .inl ⟨before, later, rfl, hbroke⟩
  · rintro (⟨before, later, rfl, hbroke⟩ | ⟨rfl, hbroke⟩)
    · exact ⟨before, later ++ [t], by simp, hbroke⟩
    · exact ⟨turns, [], rfl, by simpa using hbroke⟩

/-- What the count of a running call says: it broke something exactly when it is not zero. -/
theorem counted (hrefl : ∀ s, keeps s s)
    (hadds : ∀ s k a, (exec s k).2 = .ok a → (keeps s (exec s k).1 ↔ L.adds k a = 0))
    (hstart : ∀ x ∈ p.threads, x.Counts L post 0) (turns : List Turn) :
    ∀ x, (turns.foldl (Turn.take (fun _ => exec) wait) p).threads[i]? = some x →
      (∃ n, x.Counts L post n ∧ (n ≠ 0 ↔ Broke exec wait keeps p i turns)) ∨
        ∃ e, x = .done (.error e) := by
  induction turns using List.reverseRecOn with
  | nil =>
    intro x hx
    exact .inl ⟨0, hstart x (List.mem_of_getElem? hx), iff_of_false (by simp) broke_nil⟩
  | append_singleton turns t ih =>
    intro x hx
    rw [List.foldl_append, List.foldl_cons, List.foldl_nil] at hx
    simp only [broke_snoc]
    generalize turns.foldl (Turn.take (fun _ => exec) wait) p = q at ih hx ⊢
    rcases take_cases hx with ⟨hother, hsame⟩ | ⟨rfl, y, hy, hshared, rfl⟩
    · simpa only [hother, false_and, or_false] using ih x hsame
    · rw [hshared]
      rcases ih y hy with ⟨n, hcounts, hn⟩ | ⟨e, rfl⟩
      · cases y with
        | done result => exact .inl ⟨n, hcounts, by simpa [advance, hrefl] using hn⟩
        | send k next =>
          obtain ⟨-, hends, hnext⟩ := hcounts
          simp only [advance]
          cases hreply : (exec q.shared k).2 with
          | error e => exact .inr ⟨e, hends e⟩
          | ok a =>
            refine .inl ⟨_, hnext a, ?_⟩
            simp only [hadds q.shared k a hreply, ← hn, true_and]
            omega
      · exact .inr ⟨e, rfl⟩

/-- A statement fails only if it carries no count and breaks nothing. -/
def MayFail (L : Losses κ answer) (exec : σ → (k : κ) → σ × Except ε (answer k))
    (keeps : σ → σ → Prop) (s : σ) (k : κ) : Prop :=
  ∀ e, (exec s k).2 = .error e → L.carries k = 0 ∧ keeps s (exec s k).1

theorem mayFail_of_failuresKeep (hrefl : ∀ s, keeps s s)
    (hadds : ∀ s k a, (exec s k).2 = .ok a → (keeps s (exec s k).1 ↔ L.adds k a = 0))
    (hstart : ∀ x ∈ p.threads, x.Counts L post 0)
    (hnext : FailuresKeep exec wait keeps p (turns ++ [t])) :
    t.asks (MayFail L exec keeps) (turns.foldl (Turn.take (fun _ => exec) wait) p) := by
  have hcounted (i : Nat) : ∀ x,
      (turns.foldl (Turn.take (fun _ => exec) wait) p).threads[i]? = some x →
        (∃ n, x.Counts L post n ∧ (n ≠ 0 ↔ Broke exec wait keeps p i turns)) ∨
          ∃ e, x = .done (.error e) :=
    counted hrefl hadds hstart turns
  simp only [FailuresKeep, broke_snoc, List.foldl_append, List.foldl_cons, List.foldl_nil] at hnext
  generalize turns.foldl (Turn.take (fun _ => exec) wait) p = q at hnext hcounted ⊢
  cases t with
  | wait ms => trivial
  | call i =>
    intro x hx
    cases x with
    | done result => trivial
    | send k next =>
      intro e he
      have hself : (turn (fun _ => exec) q i).shared = (exec q.shared k).1 ∧
          (turn (fun _ => exec) q i).threads[i]? = some (next (exec q.shared k).2) :=
        turn_self hx
      obtain ⟨hshared, hthread⟩ := hself
      obtain ⟨n, ⟨hcarries, hends, -⟩, hn⟩ | ⟨e', hdone⟩ := hcounted i _ hx
      · rw [he, hends e] at hthread
        have hkept := hnext i e hthread
        simp only [not_or, ← hn, true_and, not_not] at hkept
        refine ⟨hcarries.trans hkept.1, ?_⟩
        rw [← hshared]
        exact hkept.2
      · cases hdone

theorem FailuresKeep.snoc (hrefl : ∀ s, keeps s s)
    (hadds : ∀ s k a, (exec s k).2 = .ok a → (keeps s (exec s k).1 ↔ L.adds k a = 0))
    (hstart : ∀ x ∈ p.threads, x.Counts L post 0) (h : FailuresKeep exec wait keeps p turns)
    (hasks : t.asks (MayFail L exec keeps) (turns.foldl (Turn.take (fun _ => exec) wait) p)) :
    FailuresKeep exec wait keeps p (turns ++ [t]) := by
  have hcounted (i : Nat) : ∀ x,
      (turns.foldl (Turn.take (fun _ => exec) wait) p).threads[i]? = some x →
        (∃ n, x.Counts L post n ∧ (n ≠ 0 ↔ Broke exec wait keeps p i turns)) ∨
          ∃ e, x = .done (.error e) :=
    counted hrefl hadds hstart turns
  simp only [FailuresKeep, broke_snoc, List.foldl_append, List.foldl_cons, List.foldl_nil] at h ⊢
  generalize turns.foldl (Turn.take (fun _ => exec) wait) p = q at h hcounted hasks ⊢
  intro i e hx
  rcases take_cases hx with ⟨hother, hsame⟩ | ⟨rfl, y, hy, hshared, hended⟩
  · rintro (hbroke | ⟨rfl, -⟩)
    · exact h i e hsame hbroke
    · exact hother rfl
  · rw [hshared]
    simp only [true_and, not_or, not_not]
    cases y with
    | done result =>
      obtain rfl : .error e = result := Program.done.inj hended
      exact ⟨h i e hy, hrefl _⟩
    | send k next =>
      obtain ⟨n, ⟨hcarries, -, hnext⟩, hn⟩ | ⟨e', hdone⟩ := hcounted i _ hy
      · have hkept : n = 0 ∧ keeps q.shared (exec q.shared k).1 := by
          simp only [advance] at hended
          cases hreply : (exec q.shared k).2 with
          | error e' =>
            obtain ⟨hzero, hkeeps⟩ := hasks _ hy e' hreply
            exact ⟨hcarries.symm.trans hzero, hkeeps⟩
          | ok a =>
            -- A call that fails of its own has counted nothing.
            have hcount := hnext a
            rw [← hreply, ← hended] at hcount
            obtain ⟨hzero, hnone⟩ := Nat.add_eq_zero_iff.mp hcount
            exact ⟨hzero, (hadds _ _ _ hreply).mpr hnone⟩
        exact ⟨fun hbroke => hn.mpr hbroke hkept.1, hkept.2⟩
      · cases hdone

/-- Failed calls go on to have broken nothing exactly along such statements. -/
theorem failuresKeep_snoc (hrefl : ∀ s, keeps s s)
    (hadds : ∀ s k a, (exec s k).2 = .ok a → (keeps s (exec s k).1 ↔ L.adds k a = 0))
    (hstart : ∀ x ∈ p.threads, x.Counts L post 0) (h : FailuresKeep exec wait keeps p turns) :
    FailuresKeep exec wait keeps p (turns ++ [t]) ↔
      t.asks (MayFail L exec keeps) (turns.foldl (Turn.take (fun _ => exec) wait) p) :=
  ⟨mayFail_of_failuresKeep hrefl hadds hstart, h.snoc hrefl hadds hstart⟩

end

end NimbusPos.Lib.Program
