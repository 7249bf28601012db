import NimbusPos.Lib.Table

/-!
# Consecutive windows

A span is cut into windows that share their ends, and a window is met by every period that has a
time of it. A period that does not end before it begins is met once in the windows, and once more
for every cut it contains; one that does is met by the window that holds it, if no cut is inside.
-/

namespace NimbusPos.Lib

variable {τ : Type} [LinearOrder τ]

/-- From the start through the cuts to the finish. -/
def windows (start : τ) : List τ → τ → List (τ × τ)
  | [], finish => [(start, finish)]
  | cut :: cuts, finish => (start, cut) :: windows cut cuts finish

def Ordered (start : τ) : List τ → τ → Prop
  | [], finish => start ≤ finish
  | cut :: cuts, finish => start ≤ cut ∧ Ordered cut cuts finish

instance Ordered.decidable :
    (start : τ) → (cuts : List τ) → (finish : τ) → Decidable (Ordered start cuts finish)
  | start, [], finish => inferInstanceAs (Decidable (start ≤ finish))
  | start, cut :: cuts, finish =>
    have := Ordered.decidable cut cuts finish
    inferInstanceAs (Decidable (start ≤ cut ∧ Ordered cut cuts finish))

/-- The period from `first` through `last` begins before the window ends, and ends after it
begins. -/
def meets (first last : τ) (window : τ × τ) : Bool :=
  decide (first ≤ window.2) && decide (window.1 ≤ last)

/-- The whole span is met, and no window of it. -/
def slips (start : τ) (cuts : List τ) (finish first last : τ) : Bool :=
  meets first last (start, finish) && !(windows start cuts finish).any (meets first last)

variable {start finish first last : τ} {cuts : List τ} {window : τ × τ}

theorem meets_true (hfirst : first ≤ window.2) (hlast : window.1 ≤ last) :
    meets first last window = true := by
  simp [meets, hfirst, hlast]

theorem meets_false_of_first (h : window.2 < first) : meets first last window = false := by
  simp [meets, h]

theorem meets_false_of_last (h : last < window.1) : meets first last window = false := by
  simp [meets, h]

theorem Ordered.le (h : Ordered start cuts finish) : start ≤ finish := by
  induction cuts generalizing start with
  | nil => exact h
  | cons cut cuts ih => exact h.1.trans (ih h.2)

/-- A period with the start in it meets a window. -/
theorem Ordered.any_meets (h : Ordered start cuts finish) (hfirst : first ≤ start)
    (hlast : start ≤ last) : (windows start cuts finish).any (meets first last) = true := by
  cases cuts with
  | nil => simp [windows, meets, hfirst.trans h.le, hlast]
  | cons cut cuts => simp [windows, meets, hfirst.trans h.1, hlast]

/-- A period that ended before meets none. -/
theorem Ordered.not_meets (h : Ordered start cuts finish) (hlast : last < start) :
    ∀ window ∈ windows start cuts finish, meets first last window = false := by
  induction cuts generalizing start with
  | nil =>
    rintro window hwindow
    cases List.mem_singleton.mp hwindow
    exact meets_false_of_last hlast
  | cons cut cuts ih =>
    rintro window (_ | ⟨_, hwindow⟩)
    · exact meets_false_of_last hlast
    · exact ih h.2 (hlast.trans_le h.1) window hwindow

theorem slips_false_of_any (h : (windows start cuts finish).any (meets first last) = true) :
    slips start cuts finish first last = false := by
  simp [slips, h]

/-- A period that does not end before it begins does not slip through. -/
theorem slips_of_le (h : Ordered start cuts finish) (hle : first ≤ last) :
    slips start cuts finish first last = false := by
  induction cuts generalizing start with
  | nil => simp [slips, windows]
  | cons cut cuts ih =>
    rcases lt_or_ge last start with hbefore | hstart
    · have hmissed : meets first last (start, finish) = false := meets_false_of_last hbefore
      simp [slips, hmissed]
    rcases le_or_gt first cut with hfirst | hfirst
    · have hmet : meets first last (start, cut) = true := meets_true hfirst hstart
      exact slips_false_of_any (by simp [windows, hmet])
    · have hrest := ih h.2
      have hwhole : meets first last (start, finish) = meets first last (cut, finish) := by
        simp [meets, hstart, hfirst.le.trans hle]
      have hmissed : meets first last (start, cut) = false := meets_false_of_first hfirst
      simpa [slips, windows, hwhole, hmissed] using hrest

/-- A period that ends before a cut has only the windows before it. -/
theorem sum_not_meets (h : Ordered start cuts finish) (hlast : last < start) (x : Int) :
    ((windows start cuts finish).map fun window =>
      if meets first last window then x else 0).sum = 0 := by
  refine List.sum_eq_zero fun y hy => ?_
  obtain ⟨window, hwindow, rfl⟩ := List.mem_map.mp hy
  rw [h.not_meets hlast window hwindow]
  rfl

/-- How often a period is met: in each window, and in the span and at every cut. -/
theorem sum_meets (h : Ordered start cuts finish) (x : Int) :
    ((windows start cuts finish).map fun window => if meets first last window then x else 0).sum +
        (if slips start cuts finish first last then x else 0) =
      (if meets first last (start, finish) then x else 0) +
        (cuts.map fun cut => if meets first last (cut, cut) then x else 0).sum := by
  induction cuts generalizing start with
  | nil => simp [windows, slips]
  | cons cut cuts ih =>
    have hrest := ih h.2
    have hover (hbefore : last < cut) :
        (cuts.map fun cut => if meets first last (cut, cut) then x else 0).sum = 0 := by
      have hspan : meets first last (cut, finish) = false := meets_false_of_last hbefore
      rw [sum_not_meets h.2 hbefore] at hrest
      simpa [slips, hspan] using hrest.symm
    simp only [windows, List.map_cons, List.sum_cons]
    rcases lt_or_ge last start with hbefore | hstart
    · -- the period is over before the span
      have hspan : meets first last (start, finish) = false := meets_false_of_last hbefore
      have hwindow : meets first last (start, cut) = false := meets_false_of_last hbefore
      have hcut : meets first last (cut, cut) = false :=
        meets_false_of_last (hbefore.trans_le h.1)
      simp [slips, hspan, hwindow, hcut, sum_not_meets h.2 (hbefore.trans_le h.1),
        hover (hbefore.trans_le h.1)]
    rcases le_or_gt first cut with hfirst | hfirst
    · -- it meets the first window
      have hspan : meets first last (start, finish) = true :=
        meets_true (hfirst.trans h.2.le) hstart
      have hwindow : meets first last (start, cut) = true := meets_true hfirst hstart
      have hslips : slips start (cut :: cuts) finish first last = false :=
        slips_false_of_any (by simp [windows, hwindow])
      rcases lt_or_ge last cut with hbefore | hlast
      · have hcut : meets first last (cut, cut) = false := meets_false_of_last hbefore
        simp [hspan, hwindow, hslips, hcut, sum_not_meets h.2 hbefore, hover hbefore]
      · have hcut : meets first last (cut, cut) = true := meets_true hfirst hlast
        have hrestSpan : meets first last (cut, finish) = true :=
          meets_true (hfirst.trans h.2.le) hlast
        have hrestSlips : slips cut cuts finish first last = false :=
          slips_false_of_any (h.2.any_meets hfirst hlast)
        simp only [hrestSpan, hrestSlips, if_true, Bool.false_eq_true, if_false, add_zero] at hrest
        simp only [hspan, hwindow, hslips, hcut, if_true, Bool.false_eq_true, if_false, add_zero,
          hrest]
    · -- it begins behind the first window
      have hwindow : meets first last (start, cut) = false := meets_false_of_first hfirst
      have hcut : meets first last (cut, cut) = false := meets_false_of_first hfirst
      rcases lt_or_ge last cut with hbefore | hlast
      · have hnone : (windows cut cuts finish).any (meets first last) = false := by
          simpa using h.2.not_meets hbefore
        simp [slips, windows, hwindow, hcut, hnone, sum_not_meets h.2 hbefore, hover hbefore]
      · have hspan : meets first last (start, finish) = meets first last (cut, finish) := by
          simp [meets, hstart, hlast]
        have hslips : slips start (cut :: cuts) finish first last =
            slips cut cuts finish first last := by
          simp [slips, windows, hwindow, hspan]
        simpa [hwindow, hcut, hspan, hslips] using hrest

-- ---
-- Columns over windows
-- ---

namespace Table

variable {α : Type u} {β : Type v}

/-- Sum of a column over the rows whose parent is of a kind and has a period that `met` holds of. -/
def sumOver (t : Table α) (parent : α → Option β) (p : β → Bool) (first last : β → τ)
    (column : α → Int) (met : τ → τ → Bool) : Int :=
  t.sumWhere (fun _ a => (parent a).any fun b => p b && met (first b) (last b)) column

/-- The sums over consecutive windows, and what slips through between them, are the sum over the
span and those at the cuts. -/
theorem sumOver_windows (t : Table α) (parent : α → Option β) (p : β → Bool) (first last : β → τ)
    (column : α → Int) (h : Ordered start cuts finish) :
    ((windows start cuts finish).map fun window =>
          t.sumOver parent p first last column fun a b => meets a b window).sum +
        t.sumOver parent p first last column (slips start cuts finish) =
      (t.sumOver parent p first last column fun a b => meets a b (start, finish)) +
        (cuts.map fun cut =>
          t.sumOver parent p first last column fun a b => meets a b (cut, cut)).sum := by
  simp only [sumOver, sumWhere_eq_total, sum_map_total, ← total_add]
  refine total_congr fun _ a _ => ?_
  cases parent a with
  | none => simp
  | some b =>
    simp only [Option.any_some]
    by_cases hkind : p b = true
    · simpa only [hkind, Bool.true_and] using sum_meets h (column a)
    · simp [hkind]

theorem sumOver_slips_zero {t : Table α} {parent : α → Option β} {p : β → Bool}
    {first last : β → τ} {column : α → Int} (h : Ordered start cuts finish)
    (hle : ∀ k a b, t.get? k = some a → parent a = some b → first b ≤ last b) :
    t.sumOver parent p first last column (slips start cuts finish) = 0 := by
  rw [sumOver, sumWhere_eq_total]
  refine total_zero fun k a hget => ?_
  cases hparent : parent a with
  | none => rfl
  | some b => simp [slips_of_le h (hle k a b hget hparent)]

end Table

end NimbusPos.Lib
