import Mathlib.Algebra.GroupWithZero.Nat
import Mathlib.Algebra.Order.BigOperators.Group.List
import Mathlib.Algebra.Order.Group.Nat
import Mathlib.Data.List.Induction
import Mathlib.Logic.Relation

/-!
# Runs and interleavings

`Run next ok start` is every sequence of events from `start` whose steps meet
`ok`, with the state it leads to. One rule serves invariants over histories of
calls and over interleavings: what each step preserves holds at the end.

A `Pool` is a set of threads over one shared state. A step advances one of
them by one atomic statement, so a run over thread numbers is an interleaving.
A thread `Completes` when it takes its statements with none of another between.
-/

namespace NimbusPos.Lib

inductive Run {σ κ : Type} (next : σ → κ → σ) (ok : σ → κ → Prop) (start : σ) : List κ → σ → Prop
  | nil : Run next ok start [] start
  | snoc : Run next ok start ks s → ok s k → Run next ok start (ks ++ [k]) (next s k)

namespace Run

variable {σ κ : Type} {next : σ → κ → σ} {ok : σ → κ → Prop} {start : σ}

theorem invariant {I : σ → Prop} (h : Run next ok start ks s) (h0 : I start)
    (step : ∀ s k, I s → ok s k → I (next s k)) : I s := by
  induction h with
  | nil => exact h0
  | snoc _ hk ih => exact step _ _ ih hk

theorem mono {ok' : σ → κ → Prop} (h : Run next ok start ks s) (hok : ∀ s k, ok s k → ok' s k) :
    Run next ok' start ks s := by
  induction h with
  | nil => exact .nil
  | snoc _ hk ih => exact .snoc ih (hok _ _ hk)

/-- What holds of the events themselves is a condition on their steps. -/
theorem restrict {P : κ → Prop} (h : Run next ok start ks s) (hall : ∀ k ∈ ks, P k) :
    Run next (fun s k => ok s k ∧ P k) start ks s := by
  induction h with
  | nil => exact .nil
  | snoc _ hk ih =>
    exact .snoc (ih fun k hmem => hall k (List.mem_append_left _ hmem))
      ⟨hk, hall _ (List.mem_append_right _ (.head _))⟩

theorem append (h : Run next ok start ks s) (h' : Run next ok s ks' t) :
    Run next ok start (ks ++ ks') t := by
  induction h' with
  | nil => simpa using h
  | snoc _ hk ih => simpa [← List.append_assoc] using ih.snoc hk

theorem eq_foldl (h : Run next ok start ks s) : s = ks.foldl next start := by
  induction h with
  | nil => rfl
  | snoc _ _ ih => simp [ih]

/-- A step of a run, and the run that leads to it. -/
theorem split (h : Run next ok start (before ++ k :: later) s) :
    Run next ok start before (before.foldl next start) ∧ ok (before.foldl next start) k := by
  induction later using List.reverseRecOn generalizing s with
  | nil =>
    generalize hks : before ++ [k] = ks at h
    cases h with
    | nil => simp at hks
    | snoc hrun hk =>
      obtain ⟨rfl, hkk⟩ := List.append_inj' hks rfl
      cases hkk
      exact hrun.eq_foldl ▸ ⟨hrun, hk⟩
  | append_singleton later k' ih =>
    generalize hks : before ++ k :: (later ++ [k']) = ks at h
    cases h with
    | nil => simp at hks
    | snoc hrun hk =>
      rw [← List.cons_append, ← List.append_assoc] at hks
      obtain ⟨rfl, _⟩ := List.append_inj' hks rfl
      exact ih hrun

/-- The first events of a run are a run. -/
theorem take (h : Run next ok start (before ++ later) s) :
    Run next ok start before (before.foldl next start) := by
  cases later with
  | nil =>
    rw [List.append_nil] at h
    exact h.eq_foldl ▸ h
  | cons k later => exact h.split.1

/-- What is left of a run after its first events is a run. -/
theorem drop (h : Run next ok start (before ++ later) s) :
    Run next ok (before.foldl next start) later s := by
  induction later using List.reverseRecOn generalizing s with
  | nil =>
    rw [List.append_nil] at h
    exact h.eq_foldl ▸ .nil
  | append_singleton later k ih =>
    generalize hks : before ++ (later ++ [k]) = ks at h
    rw [← List.append_assoc] at hks
    cases h with
    | nil => simp at hks
    | snoc hrun hk =>
      obtain ⟨rfl, hkk⟩ := List.append_inj' hks rfl
      cases hkk
      exact (ih hrun).snoc hk

/-- Without a condition on the steps every sequence of events is a run. -/
theorem foldl (next : σ → κ → σ) (start : σ) (ks : List κ) :
    Run next (fun _ _ => True) start ks (ks.foldl next start) := by
  induction ks using List.reverseRecOn with
  | nil => exact .nil
  | append_singleton ks k ih => simpa using ih.snoc trivial

/-- An invariant of the state and of the events that led to it. -/
theorem history {I : List κ → σ → Prop} (h : Run next ok start ks s) (h0 : I [] start)
    (step : ∀ ks s k, Run next ok start ks s → I ks s → ok s k → I (ks ++ [k]) (next s k)) :
    I ks s := by
  induction h with
  | nil => exact h0
  | snoc hrun hk ih => exact step _ _ _ hrun ih hk

/-- A run whose steps all meet a checkable condition, from its events. -/
theorem of_all (hall : ∀ pre k post, ks = pre ++ k :: post → ok (pre.foldl next start) k) :
    Run next ok start ks (ks.foldl next start) := by
  induction ks using List.reverseRecOn with
  | nil => exact .nil
  | append_singleton ks k ih =>
    have hrun := ih fun pre k' post h => hall pre k' (post ++ [k]) (by simp [h])
    simpa using hrun.snoc (hall ks k [] rfl)

/-- What an event keeps exactly where its step meets the condition holds all along the events that
are a run, and along no others. -/
theorem history_iff {I : List κ → Prop} (h0 : I [])
    (step : ∀ ks k, I ks → (I (ks ++ [k]) ↔ ok (ks.foldl next start) k)) :
    (∀ pre post, ks = pre ++ post → I pre) ↔ Run next ok start ks (ks.foldl next start) := by
  constructor
  · intro h
    refine of_all fun pre k post hks => (step pre k (h pre _ hks)).mp ?_
    exact h (pre ++ [k]) post (by rw [hks, List.append_assoc]; rfl)
  · rintro hrun pre post rfl
    refine hrun.take.history (I := fun ks _ => I ks) h0 fun ks s k hrun hks hk => ?_
    exact (step ks k hks).mpr (hrun.eq_foldl ▸ hk)

/-- The same of what holds of the states. -/
theorem all_iff {I : σ → Prop} (h0 : I start) (step : ∀ s k, I s → (I (next s k) ↔ ok s k)) :
    (∀ pre post, ks = pre ++ post → I (pre.foldl next start)) ↔
      Run next ok start ks (ks.foldl next start) := by
  refine history_iff (I := fun ks => I (ks.foldl next start)) h0 fun ks k hks => ?_
  simpa using step _ k hks

/-- An invariant and a relation that steps keep exactly where they meet the condition: they hold in
every state, and between any two, of a run, and of no other events. -/
theorem kept_iff {I : σ → Prop} {R : σ → σ → Prop} (hrefl : ∀ s, R s s)
    (htrans : ∀ {s t u}, R s t → R t u → R s u) (h0 : I start)
    (step : ∀ s k, I s → (I (next s k) ∧ R s (next s k) ↔ ok s k)) :
    (∀ before between later, ks = before ++ between ++ later →
        I ((before ++ between).foldl next start) ∧
          R (before.foldl next start) ((before ++ between).foldl next start)) ↔
      Run next ok start ks (ks.foldl next start) := by
  constructor
  · intro h
    refine of_all fun pre k post hks => (step _ k ?_).mp ?_
    · simpa using (h pre [] (k :: post) (by simpa using hks)).1
    · simpa using h pre [k] post (by simpa using hks)
  · rintro hrun before between later rfl
    have hbefore : I (before.foldl next start) :=
      hrun.take.take.invariant h0 fun s k hs hk => ((step s k hs).mpr hk).1
    refine hrun.take.drop.invariant (I := fun s => I s ∧ R (before.foldl next start) s)
      ⟨hbefore, hrefl _⟩ fun s k hs hk => ?_
    obtain ⟨hnext, hsame⟩ := (step s k hs.1).mpr hk
    exact ⟨hnext, htrans hs.2 hsame⟩

/-- What a step leaves related exactly where it meets the condition is related, between any two
states that the events led to, exactly along a run. -/
theorem rel_iff {R : σ → σ → Prop} (hrefl : ∀ s, R s s) (htrans : ∀ {s t u}, R s t → R t u → R s u)
    (step : ∀ s k, R s (next s k) ↔ ok s k) :
    (∀ before between later, ks = before ++ between ++ later →
        R (before.foldl next start) (between.foldl next (before.foldl next start))) ↔
      Run next ok start ks (ks.foldl next start) := by
  refine .trans ?_ (kept_iff (I := fun _ => True) hrefl htrans trivial fun s k _ =>
    (and_iff_right trivial).trans (step s k))
  simp only [true_and, List.foldl_append]

/-- When a step keeps a value where it meets the condition, and no later steps give it back
where it does not, the events that keep the value are those of a run. -/
theorem keeps_iff {γ : Type} (value : σ → γ) {same : γ → γ → Prop} (hsame : Equivalence same)
    (hsafe : ∀ s k, ok s k → same (value s) (value (next s k)))
    (hlost : ∀ s k (later : List κ), ¬ok s k →
      ¬same (value s) (value (later.foldl next (next s k)))) :
    same (value start) (value (ks.foldl next start)) ↔
      Run next ok start ks (ks.foldl next start) := by
  constructor
  · intro h
    induction ks generalizing start with
    | nil => exact .nil
    | cons k ks ih =>
      have hk : ok start k := by
        by_contra hnot
        exact hlost start k ks hnot h
      have hfirst : Run next ok start ([] ++ [k]) (next start k) := .snoc .nil hk
      exact hfirst.append (ih (hsame.trans (hsame.symm (hsafe start k hk)) h))
  · intro h
    exact h.invariant (I := fun s => same (value start) (value s)) (hsame.refl _)
      fun s k hs hk => hsame.trans hs (hsafe s k hk)

/-- The condition checked along a sequence of events. -/
def holds (next : σ → κ → σ) (ok : σ → κ → Prop) [∀ s k, Decidable (ok s k)] : σ → List κ → Bool
  | _, [] => true
  | s, k :: ks => decide (ok s k) && holds next ok (next s k) ks

theorem of_holds [∀ s k, Decidable (ok s k)] (h : holds next ok start ks = true) :
    Run next ok start ks (ks.foldl next start) := by
  induction ks generalizing start with
  | nil => exact .nil
  | cons k ks ih =>
    simp only [holds, Bool.and_eq_true, decide_eq_true_eq] at h
    have hfirst : Run next ok start ([] ++ [k]) (next start k) := .snoc .nil h.1
    exact hfirst.append (ih h.2)

end Run

/-- Some state that the events led to met the condition. -/
def Once {σ κ : Type} (next : σ → κ → σ) (start : σ) (ks : List κ) (P : σ → Prop) : Prop :=
  ∃ before later, ks = before ++ later ∧ P (before.foldl next start)

namespace Once

variable {σ κ : Type} {next : σ → κ → σ} {ok : σ → κ → Prop} {start s : σ} {P Q : σ → Prop}

theorem snoc (h : Once next start ks P) (k : κ) : Once next start (ks ++ [k]) P := by
  obtain ⟨before, later, rfl, hP⟩ := h
  exact ⟨before, later ++ [k], by rw [List.append_assoc], hP⟩

theorem now (hrun : Run next ok start ks s) (h : P s) : Once next start ks P :=
  ⟨ks, [], (List.append_nil ks).symm, hrun.eq_foldl ▸ h⟩

theorem mono (h : Once next start ks P) (hPQ : ∀ s, P s → Q s) : Once next start ks Q := by
  obtain ⟨before, later, hks, hP⟩ := h
  exact ⟨before, later, hks, hPQ _ hP⟩

end Once

structure Pool (σ τ : Type) where
  shared : σ
  threads : List τ
  deriving Repr, DecidableEq

namespace Pool

variable {σ τ : Type}

/-- Thread `i` takes its next statement. -/
def step (advance : σ → τ → σ × τ) (p : Pool σ τ) (i : Nat) : Pool σ τ :=
  match p.threads[i]? with
  | none => p
  | some t =>
    let (s, t') := advance p.shared t
    ⟨s, p.threads.set i t'⟩

/-- A step changes one thread and keeps its place among the others. -/
theorem step_cases (advance : σ → τ → σ × τ) (p : Pool σ τ) (i : Nat) :
    (p.threads[i]? = none ∧ p.step advance i = p) ∨
      ∃ before t after, p.threads = before ++ t :: after ∧ before.length = i ∧
        p.threads[i]? = some t ∧ p.step advance i =
          ⟨(advance p.shared t).1, before ++ (advance p.shared t).2 :: after⟩ := by
  cases ht : p.threads[i]? with
  | none => exact .inl ⟨rfl, by simp [step, ht]⟩
  | some t =>
    obtain ⟨hi, rfl⟩ := List.getElem?_eq_some_iff.mp ht
    refine .inr ⟨p.threads.take i, p.threads[i], p.threads.drop (i + 1), ?_, ?_, rfl, ?_⟩
    · simp
    · simp [Nat.le_of_lt hi]
    · simp [step, List.set_eq_take_append_cons_drop, hi]

theorem step_length (advance : σ → τ → σ × τ) (p : Pool σ τ) (i : Nat) :
    (p.step advance i).threads.length = p.threads.length := by
  rcases step_cases advance p i with ⟨_, hs⟩ | ⟨before, t, after, hp, _, _, hs⟩
  · rw [hs]
  · simp [hs, hp]

/-- Local assertions survive a step when the thread that moves re-establishes
its own and leaves the others' true. -/
theorem step_assertions {advance : σ → τ → σ × τ} {p : Pool σ τ} {A : σ → τ → Prop}
    (h : ∀ t ∈ p.threads, A p.shared t) (hown : ∀ t, p.threads[i]? = some t → A p.shared t →
      A (advance p.shared t).1 (advance p.shared t).2)
    (hothers : ∀ t u, p.threads[i]? = some t → A p.shared t → A p.shared u →
      A (advance p.shared t).1 u) :
    ∀ t ∈ (p.step advance i).threads, A (p.step advance i).shared t := by
  rcases step_cases advance p i with ⟨-, hs⟩ | ⟨before, t, after, hp, -, ht, hs⟩
  · rw [hs]
    exact h
  · rw [hs]
    have hat := h t (by simp [hp])
    intro u hu
    simp only [List.mem_append, List.mem_cons] at hu
    rcases hu with hu | rfl | hu
    · exact hothers t u ht hat (h u (by simp [hp, hu]))
    · exact hown t ht hat
    · exact hothers t u ht hat (h u (by simp [hp, hu]))

/-- A number of each thread, summed up. -/
def weight (w : τ → Nat) (p : Pool σ τ) : Nat := (p.threads.map w).sum

/-- A number of the shared state and one of each thread change together by what
the thread that moves changes. -/
theorem weight_step {advance : σ → τ → σ × τ} {p : Pool σ τ} (m : σ → Nat) (w : τ → Nat)
    (ht : p.threads[i]? = some t)
    (h : m (advance p.shared t).1 + w (advance p.shared t).2 = m p.shared + w t + c) :
    m (p.step advance i).shared + (p.step advance i).weight w = m p.shared + p.weight w + c := by
  rcases step_cases advance p i with ⟨hnone, _⟩ | ⟨before, u, after, hp, _, hu, hs⟩
  · cases hnone.symm.trans ht
  · cases hu.symm.trans ht
    simp only [hs, weight, hp, List.map_append, List.map_cons, List.sum_append, List.sum_cons]
    omega

/-- The same when the thread that moves gives some of the two up. -/
theorem weight_step_le {advance : σ → τ → σ × τ} {p : Pool σ τ} (m : σ → Nat) (w : τ → Nat)
    (ht : p.threads[i]? = some t)
    (h : m (advance p.shared t).1 + w (advance p.shared t).2 + c ≤ m p.shared + w t) :
    m (p.step advance i).shared + (p.step advance i).weight w + c ≤ m p.shared + p.weight w := by
  rcases step_cases advance p i with ⟨hnone, _⟩ | ⟨before, u, after, hp, _, hu, hs⟩
  · cases hnone.symm.trans ht
  · cases hu.symm.trans ht
    simp only [hs, weight, hp, List.map_append, List.map_cons, List.sum_append, List.sum_cons]
    omega

theorem le_weight {p : Pool σ τ} (w : τ → Nat) (ht : t ∈ p.threads) : w t ≤ p.weight w :=
  List.single_le_sum (fun _ _ => Nat.zero_le _) _ (List.mem_map_of_mem ht)

theorem weight_mono {p : Pool σ τ} {w v : τ → Nat} (h : ∀ t ∈ p.threads, w t ≤ v t) :
    p.weight w ≤ p.weight v :=
  List.sum_le_sum h

theorem weight_eq_zero {p : Pool σ τ} {w : τ → Nat} (h : ∀ t ∈ p.threads, w t = 0) :
    p.weight w = 0 := by
  unfold weight
  generalize p.threads = threads at h
  induction threads with
  | nil => rfl
  | cons t threads ih =>
    rw [List.map_cons, List.sum_cons, h t (.head _), ih fun u hu => h u (.tail _ hu)]

end Pool

/-- Alone, the thread ends and leaves state `r`. -/
def Completes {σ τ : Type} (advance : σ → τ → σ × τ) (ended : τ → Prop) (s : σ) (t : τ) (r : σ) :
    Prop :=
  ∃ t', Relation.ReflTransGen (fun a b => advance a.1 a.2 = b) (s, t) (r, t') ∧ ended t'

section

variable {σ τ : Type} {advance : σ → τ → σ × τ} {ended : τ → Prop} {s s' r : σ} {t t' : τ}

theorem Completes.of_ended (h : ended t) : Completes advance ended s t s := ⟨t, .refl, h⟩

theorem Completes.step (hadvance : advance s t = (s', t')) (h : Completes advance ended s' t' r) :
    Completes advance ended s t r := by
  obtain ⟨last, hsolo, hended⟩ := h
  exact ⟨last, .head hadvance hsolo, hended⟩

theorem ended_stays (hended : ∀ s t, ended t → advance s t = (s, t)) (h : ended t)
    (hreach : Relation.ReflTransGen (fun a b => advance a.1 a.2 = b) (s, t) p) : p = (s, t) := by
  induction hreach with
  | refl => rfl
  | tail _ hstep ih =>
    subst ih
    exact hstep.symm.trans (hended s t h)

/-- A thread that stays ended completes from wherever its statements have led. -/
theorem Completes.resume (h : Completes advance ended s t r)
    (hended : ∀ s t, ended t → advance s t = (s, t))
    (hreach : Relation.ReflTransGen (fun a b => advance a.1 a.2 = b) (s, t) (s', t')) :
    Completes advance ended s' t' r := by
  obtain ⟨last, hlast, hdone⟩ := h
  have hunique : Relator.RightUnique fun a b : σ × τ => advance a.1 a.2 = b :=
    fun a b c hb hc => hb.symm.trans hc
  obtain hback | hon := Relation.ReflTransGen.total_of_right_unique hunique hlast hreach
  · cases ended_stays hended hdone hback
    exact .of_ended hdone
  · exact ⟨last, hon, hdone⟩

theorem Completes.eq_of_ended (h : Completes advance ended s t r)
    (hended : ∀ s t, ended t → advance s t = (s, t)) (ht : ended t) : r = s := by
  obtain ⟨last, hlast, _⟩ := h
  exact congrArg Prod.fst (ended_stays hended ht hlast)

end

end NimbusPos.Lib
