import Mathlib.Algebra.BigOperators.Group.List.Basic
import Mathlib.Algebra.Order.BigOperators.Group.List
import Mathlib.Data.List.Induction
import Mathlib.Data.List.Nodup
import Mathlib.Data.List.Sort
import Mathlib.Data.Int.Basic
import Mathlib.Tactic.Ring

/-!
# Tables with generated keys

A table is the list of its rows in insertion order, each under a key that the
table generated. Keys grow with every insertion and no operation rewrites one,
so a key names at most one row and a fresh key names none: both facts are
fields of the structure, and no later proof has to carry them.

`total` adds up a contribution of every row. Each operation has one law for
`get?` and one for `total`; conservation arguments are made of these.
-/

namespace NimbusPos.Lib

structure Table (α : Type u) where
  rows : List (Nat × α)
  next : Nat
  sorted : (rows.map Prod.fst).Pairwise (· < ·)
  below : ∀ row ∈ rows, row.1 < next

namespace Table

variable {α : Type u}

def empty : Table α := ⟨[], 0, .nil, by simp⟩

def get? (t : Table α) (k : Nat) : Option α := t.rows.lookup k

/-- The rows satisfying a condition, oldest first. -/
def findMany (t : Table α) (p : Nat → α → Bool) : List (Nat × α) :=
  t.rows.filter fun row => p row.1 row.2

def findFirst (t : Table α) (p : Nat → α → Bool) : Option (Nat × α) :=
  t.rows.find? fun row => p row.1 row.2

/-- The later of two rows; the second when they are of one time. -/
def later (time : α → Nat) (best : Option (Nat × α)) (row : Nat × α) : Option (Nat × α) :=
  match best with
  | none => some row
  | some b => if time b.2 ≤ time row.2 then some row else some b

/-- The newest of the rows satisfying a condition, `orderBy: { time: 'desc' }`. -/
def findLatest (t : Table α) (p : Nat → α → Bool) (time : α → Nat) : Option (Nat × α) :=
  (t.findMany p).foldl (later time) none

def count (t : Table α) (p : Nat → α → Bool) : Nat := (t.findMany p).length

/-- Sum of one column over the rows satisfying a condition. -/
def sumWhere (t : Table α) (p : Nat → α → Bool) (column : α → Int) : Int :=
  ((t.findMany p).map fun row => column row.2).sum

/-- Sum of a contribution of every row. -/
def total (t : Table α) (c : Nat → α → Int) : Int := (t.rows.map fun row => c row.1 row.2).sum

def insert (t : Table α) (a : α) : Table α where
  rows := t.rows ++ [(t.next, a)]
  next := t.next + 1
  sorted := by
    simp only [List.map_append, List.map_cons, List.map_nil, List.pairwise_append]
    refine ⟨t.sorted, by simp, ?_⟩
    intro x hx y hy
    obtain ⟨row, hrow, rfl⟩ := List.mem_map.mp hx
    simp only [List.mem_singleton] at hy
    exact hy ▸ t.below row hrow
  below := by
    intro row hrow
    rcases List.mem_append.mp hrow with h | h
    · exact Nat.lt_succ_of_lt (t.below row h)
    · simp only [List.mem_singleton] at h
      simp [h]

/-- Rewrite the rows satisfying a condition; keys stay. -/
def updateWhere (t : Table α) (p : Nat → α → Bool) (f : α → α) : Table α where
  rows := t.rows.map fun row => (row.1, if p row.1 row.2 then f row.2 else row.2)
  next := t.next
  sorted := by simpa [List.map_map, Function.comp_def] using t.sorted
  below := by
    intro row hrow
    obtain ⟨old, hold, rfl⟩ := List.mem_map.mp hrow
    exact t.below old hold

def update (t : Table α) (k : Nat) (f : α → α) : Table α := t.updateWhere (fun j _ => j == k) f

def erase (t : Table α) (k : Nat) : Table α where
  rows := t.rows.filter fun row => row.1 != k
  next := t.next
  sorted := List.Pairwise.sublist (List.Sublist.map _ List.filter_sublist) t.sorted
  below := fun row hrow => t.below row (List.mem_of_mem_filter hrow)

-- ---
-- Looking a row up
-- ---

theorem lookup_iff {rows : List (Nat × α)} (h : (rows.map Prod.fst).Pairwise (· < ·)) :
    rows.lookup k = some a ↔ (k, a) ∈ rows := by
  induction rows with
  | nil => simp
  | cons row rows ih =>
    obtain ⟨j, b⟩ := row
    simp only [List.map_cons, List.pairwise_cons] at h
    by_cases hk : k = j
    · subst hk
      have hfresh : ∀ c, (k, c) ∉ rows := fun c hc =>
        absurd (h.1 k (List.mem_map.mpr ⟨_, hc, rfl⟩)) (Nat.lt_irrefl k)
      simp [hfresh, eq_comm]
    · have hj : (k == j) = false := by simpa using hk
      simp [List.lookup_cons, hj, ih h.2, hk]

theorem get?_iff {t : Table α} : t.get? k = some a ↔ (k, a) ∈ t.rows := lookup_iff t.sorted

theorem get?_none_iff {t : Table α} : t.get? k = none ↔ ∀ a, (k, a) ∉ t.rows := by
  rw [Option.eq_none_iff_forall_ne_some]
  simp only [ne_eq, get?_iff]

theorem lt_next {t : Table α} (h : t.get? k = some a) : k < t.next := t.below _ (get?_iff.mp h)

theorem get?_next {t : Table α} : t.get? t.next = none :=
  get?_none_iff.mpr fun _ h => absurd (t.below _ h) (Nat.lt_irrefl _)

@[simp] theorem get?_empty : (empty : Table α).get? k = none := rfl

@[simp] theorem insert_next (t : Table α) (a : α) : (t.insert a).next = t.next + 1 := rfl

@[simp] theorem updateWhere_next (t : Table α) (p) (f : α → α) :
    (t.updateWhere p f).next = t.next := rfl

@[simp] theorem update_next (t : Table α) (f : α → α) : (t.update k f).next = t.next := rfl

theorem get?_insert (t : Table α) (a : α) :
    (t.insert a).get? k = if k = t.next then some a else t.get? k := by
  apply Option.ext
  intro b
  rw [get?_iff]
  simp only [insert, List.mem_append, List.mem_singleton, Prod.mk.injEq]
  split
  · rename_i h
    subst h
    have hfresh : (t.next, b) ∉ t.rows := get?_none_iff.mp get?_next b
    simp [hfresh, eq_comm]
  · rename_i h
    simp [h, get?_iff]

@[simp] theorem get?_insert_self (t : Table α) (a : α) : (t.insert a).get? t.next = some a := by
  simp [get?_insert]

theorem get?_insert_of_some {t : Table α} (h : t.get? k = some b) :
    (t.insert a).get? k = some b := by
  rw [get?_insert, if_neg (Nat.ne_of_lt (lt_next h)), h]

/-- A row after an insert is the new one, or was there. -/
theorem insert_cases {t : Table α} (h : (t.insert a).get? k = some b) :
    (k = t.next ∧ a = b) ∨ t.get? k = some b := by
  rw [get?_insert] at h
  split at h
  · rename_i hk
    exact .inl ⟨hk, Option.some.inj h⟩
  · exact .inr h

theorem get?_foldl_insert {t : Table α} {new : List α} (h : (new.foldl insert t).get? k = some a) :
    t.get? k = some a ∨ a ∈ new := by
  induction new generalizing t with
  | nil => exact .inl h
  | cons b new ih =>
    rcases ih h with h | h
    · rw [get?_insert] at h
      split at h
      · cases h
        exact .inr (.head _)
      · exact .inl h
    · exact .inr (.tail _ h)

theorem get?_foldl_insert_of_some {t : Table α} {new : List α} (h : t.get? k = some a) :
    (new.foldl insert t).get? k = some a := by
  induction new generalizing t with
  | nil => exact h
  | cons b new ih => exact ih (get?_insert_of_some h)

theorem exists_foldl_insert {t : Table α} {new : List α} (h : a ∈ new) :
    ∃ k, (new.foldl insert t).get? k = some a := by
  induction new generalizing t with
  | nil => cases h
  | cons b new ih =>
    rcases List.mem_cons.mp h with rfl | h
    · exact ⟨t.next, get?_foldl_insert_of_some (t := t.insert a) (get?_insert_self t a)⟩
    · exact ih h

theorem next_le_foldl_insert (t : Table α) (new : List α) : t.next ≤ (new.foldl insert t).next := by
  induction new generalizing t with
  | nil => exact Nat.le_refl _
  | cons b new ih => exact Nat.le_of_succ_le (ih (t.insert b))

theorem get?_updateWhere (t : Table α) (p) (f : α → α) :
    (t.updateWhere p f).get? k = (t.get? k).map fun a => if p k a then f a else a := by
  apply Option.ext
  intro b
  rw [get?_iff]
  simp only [updateWhere, List.mem_map, Prod.mk.injEq, Option.map_eq_some_iff, get?_iff]
  constructor
  · rintro ⟨⟨j, a⟩, hrow, rfl, rfl⟩
    exact ⟨a, hrow, rfl⟩
  · rintro ⟨a, hrow, rfl⟩
    exact ⟨(k, a), hrow, rfl, rfl⟩

theorem get?_update (t : Table α) (f : α → α) :
    (t.update j f).get? k = if k = j then (t.get? k).map f else t.get? k := by
  rw [update, get?_updateWhere]
  by_cases h : k = j
  · simp [h]
  · simp [h]

@[simp] theorem get?_update_self (t : Table α) (f : α → α) :
    (t.update k f).get? k = (t.get? k).map f := by
  simp [get?_update]

theorem exists_update {t : Table α} {f : α → α} (h : ∃ a, t.get? k = some a) :
    ∃ a, (t.update j f).get? k = some a := by
  obtain ⟨a, ha⟩ := h
  rw [get?_update, ha]
  split
  · exact ⟨f a, rfl⟩
  · exact ⟨a, rfl⟩

theorem isSome_update {t : Table α} {f : α → α} (h : (t.get? k).isSome = true) :
    ((t.update j f).get? k).isSome = true := by
  rw [Option.isSome_iff_exists] at h ⊢
  exact exists_update h

/-- A row after an update is the changed one, or was there. -/
theorem update_cases {t : Table α} {f : α → α} (h : (t.update j f).get? k = some b) :
    (k = j ∧ ∃ a, t.get? k = some a ∧ f a = b) ∨ (k ≠ j ∧ t.get? k = some b) := by
  rw [get?_update] at h
  split at h
  · rename_i hk
    exact .inl ⟨hk, Option.map_eq_some_iff.mp h⟩
  · rename_i hk
    exact .inr ⟨hk, h⟩

theorem get?_update_ne (t : Table α) (f : α → α) (h : k ≠ j) :
    (t.update j f).get? k = t.get? k := by
  simp [get?_update, h]

theorem forall_insert {t : Table α} {P : α → Prop} :
    (∀ k b, (t.insert a).get? k = some b → P b) ↔ P a ∧ ∀ k b, t.get? k = some b → P b := by
  constructor
  · exact fun h => ⟨h _ a (get?_insert_self t a), fun k b hget => h k b (get?_insert_of_some hget)⟩
  · rintro ⟨ha, hall⟩ k b hget
    rcases insert_cases hget with ⟨-, rfl⟩ | hget
    · exact ha
    · exact hall k b hget

theorem forall_update {t : Table α} {f : α → α} {P : α → Prop} (hget : t.get? j = some a)
    (hall : ∀ k b, t.get? k = some b → P b) :
    (∀ k b, (t.update j f).get? k = some b → P b) ↔ P (f a) := by
  constructor
  · exact fun h => h j (f a) (by simp [hget])
  · rintro ha k b hb
    rcases update_cases hb with ⟨rfl, c, hc, rfl⟩ | ⟨-, hb⟩
    · cases hget.symm.trans hc
      exact ha
    · exact hall k b hb

theorem get?_erase (t : Table α) : (t.erase j).get? k = if k = j then none else t.get? k := by
  apply Option.ext
  intro b
  rw [get?_iff]
  simp only [erase, List.mem_filter, bne_iff_ne, ne_eq]
  split
  · rename_i h
    simp [h]
  · rename_i h
    simp [h, get?_iff]

-- ---
-- Conditions
-- ---

theorem mem_findMany {t : Table α} : (k, a) ∈ t.findMany p ↔ t.get? k = some a ∧ p k a = true := by
  rw [findMany, List.mem_filter, get?_iff]

theorem findMany_keys (t : Table α) (p : Nat → α → Bool) : ((t.findMany p).map Prod.fst).Nodup :=
  (t.sorted.sublist (List.filter_sublist.map _)).imp Nat.ne_of_lt

theorem lookup_findMany {t : Table α} :
    (t.findMany p).lookup k = some a ↔ t.get? k = some a ∧ p k a = true := by
  have hsorted : ((t.findMany p).map Prod.fst).Pairwise (· < ·) :=
    List.Pairwise.sublist (List.Sublist.map _ List.filter_sublist) t.sorted
  rw [lookup_iff hsorted, mem_findMany]

theorem findMany_congr {t : Table α} (h : ∀ k a, t.get? k = some a → p k a = q k a) :
    t.findMany p = t.findMany q :=
  List.filter_congr fun row hrow => h row.1 row.2 (get?_iff.mpr hrow)

theorem findMany_of_imp {t : Table α} {p q : Nat → α → Bool}
    (h : ∀ k a, p k a = true → q k a = true) :
    t.findMany p = (t.findMany q).filter fun row => p row.1 row.2 := by
  rw [findMany, findMany, List.filter_filter]
  refine List.filter_congr fun row _ => ?_
  cases hp : p row.1 row.2 with
  | true => rw [h row.1 row.2 hp]; rfl
  | false => rfl

theorem findMany_insert (t : Table α) (a : α) (p) :
    (t.insert a).findMany p = t.findMany p ++ if p t.next a then [(t.next, a)] else [] := by
  simp only [findMany, insert, List.filter_append, List.filter_cons, List.filter_nil]

/-- The rows of a kind are the same in both tables. -/
def AgreeOn (kind : Nat → α → Prop) (t u : Table α) : Prop :=
  ∀ k a, kind k a → (t.get? k = some a ↔ u.get? k = some a)

theorem AgreeOn.mono {kind kind' : Nat → α → Prop} {t u : Table α} (h : AgreeOn kind t u)
    (hkind : ∀ k a, kind' k a → kind k a) : AgreeOn kind' t u :=
  fun k a ha => h k a (hkind k a ha)

theorem AgreeOn.findMany {kind : Nat → α → Prop} {t u : Table α} (h : AgreeOn kind t u)
    (hp : ∀ k a, p k a = true → kind k a) : t.findMany p = u.findMany p := by
  have hsorted : ∀ v : Table α, (v.findMany p).Pairwise fun row row' => row.1 < row'.1 :=
    fun v => (List.pairwise_map.mp v.sorted).sublist List.filter_sublist
  have : Std.Irrefl fun row row' : Nat × α => row.1 < row'.1 := ⟨fun row => Nat.lt_irrefl row.1⟩
  refine (hsorted t).eq_of_mem_iff (hsorted u) fun row => ?_
  rw [mem_findMany, mem_findMany]
  exact and_congr_left fun hrow => h row.1 row.2 (hp row.1 row.2 hrow)

/-- A new row of another kind. -/
theorem AgreeOn.insert {kind : Nat → α → Prop} (t : Table α) (h : ¬kind t.next b) :
    AgreeOn kind t (t.insert b) := by
  intro k a ha
  rw [get?_insert]
  split
  · rename_i hk
    subst hk
    simp only [get?_next, reduceCtorEq, Option.some.injEq, false_iff]
    rintro rfl
    exact h ha
  · rfl

/-- Rewritten rows that were of another kind, and are. -/
theorem AgreeOn.updateWhere {kind : Nat → α → Prop} {t : Table α} {p : Nat → α → Bool} {f : α → α}
    (h : ∀ k a, t.get? k = some a → p k a = true → ¬kind k a ∧ ¬kind k (f a)) :
    AgreeOn kind t (t.updateWhere p f) := by
  intro k a ha
  rw [get?_updateWhere, Option.map_eq_some_iff]
  constructor
  · intro hget
    refine ⟨a, hget, if_neg fun hp => ?_⟩
    exact (h k a hget hp).1 ha
  · rintro ⟨old, hget, hrow⟩
    split at hrow
    · rename_i hp
      subst hrow
      exact absurd ha (h k old hget hp).2
    · rwa [← hrow]

theorem AgreeOn.refl {kind : Nat → α → Prop} (t : Table α) : AgreeOn kind t t :=
  fun _ _ _ => Iff.rfl

theorem AgreeOn.trans {kind : Nat → α → Prop} {t u v : Table α} (h : AgreeOn kind t u)
    (h' : AgreeOn kind u v) : AgreeOn kind t v :=
  fun k a ha => (h k a ha).trans (h' k a ha)

theorem AgreeOn.update {kind : Nat → α → Prop} {t : Table α} {f : α → α}
    (h : ∀ a, t.get? j = some a → ¬kind j a ∧ ¬kind j (f a)) : AgreeOn kind t (t.update j f) := by
  refine .updateWhere fun k a hget hk => ?_
  obtain rfl := beq_iff_eq.mp hk
  exact h a hget

theorem AgreeOn.erase {kind : Nat → α → Prop} {t : Table α}
    (h : ∀ a, t.get? j = some a → ¬kind j a) : AgreeOn kind t (t.erase j) := by
  intro k a ha
  rw [get?_erase]
  split
  · rename_i hk
    subst hk
    simp only [reduceCtorEq, iff_false]
    exact fun hget => h a hget ha
  · rfl

theorem AgreeOn.foldl_insert {kind : Nat → α → Prop} (t : Table α) {new : List α}
    (h : ∀ a ∈ new, ∀ k, ¬kind k a) : AgreeOn kind t (new.foldl Table.insert t) := by
  induction new generalizing t with
  | nil => exact .refl t
  | cons a new ih =>
    exact (AgreeOn.insert t (h a (.head _) _)).trans (ih _ fun b hb => h b (.tail _ hb))

theorem findFirst_some {t : Table α} (h : t.findFirst p = some (k, a)) :
    t.get? k = some a ∧ p k a = true := by
  rw [get?_iff]
  exact ⟨List.mem_of_find?_eq_some h, by simpa using List.find?_some h⟩

theorem findFirst_none {t : Table α} :
    t.findFirst p = none ↔ ∀ k a, t.get? k = some a → p k a = false := by
  simp only [findFirst, List.find?_eq_none, Bool.not_eq_true, Prod.forall, get?_iff]

theorem findFirst_insert (t : Table α) (a : α) (p) :
    (t.insert a).findFirst p =
      (t.findFirst p).or (if p t.next a then some (t.next, a) else none) := by
  simp only [findFirst, insert, List.find?_append, List.find?_cons, List.find?_nil]
  cases p t.next a <;> rfl

/-- The row that is found may have been written. -/
theorem findFirst_updateWhere (t : Table α) (q) {f : α → α} {p} (hp : ∀ k a, p k (f a) = p k a) :
    (t.updateWhere q f).findFirst p =
      (t.findFirst p).map fun row => (row.1, if q row.1 row.2 then f row.2 else row.2) := by
  simp only [findFirst, updateWhere, List.find?_map]
  have hsame : ((fun row : Nat × α => p row.1 row.2) ∘ fun row : Nat × α =>
      (row.1, if q row.1 row.2 then f row.2 else row.2)) = fun row => p row.1 row.2 := by
    funext row
    simp only [Function.comp_apply]
    split
    · exact hp row.1 row.2
    · rfl
  rw [hsame]

theorem findFirst_update (t : Table α) (j : Nat) {f : α → α} {p} (hp : ∀ k a, p k (f a) = p k a) :
    (t.update j f).findFirst p =
      (t.findFirst p).map fun row => (row.1, if row.1 = j then f row.2 else row.2) := by
  simp only [update, findFirst_updateWhere t _ hp, beq_iff_eq]

theorem findFirst_of_only {t : Table α} (hget : t.get? k = some a) (hp : p k a = true)
    (honly : ∀ j b, t.get? j = some b → p j b = true → j = k) : t.findFirst p = some (k, a) := by
  cases hfirst : t.findFirst p with
  | none =>
    rw [findFirst_none.mp hfirst k a hget] at hp
    cases hp
  | some row =>
    obtain ⟨hrow, hfound⟩ := findFirst_some hfirst
    cases honly row.1 row.2 hrow hfound
    cases hget.symm.trans hrow
    rfl

/-- The row that is found is found after it is written, if it still meets the condition. -/
theorem findFirst_update_found {t : Table α} {f : α → α} (h : t.findFirst p = some (k, a))
    (hp : p k (f a) = true) : (t.update k f).findFirst p = some (k, f a) := by
  obtain ⟨_, before, after, hrows, hbefore⟩ := List.find?_eq_some_iff_append.mp h
  have hsorted : (∀ row ∈ before, row.1 < k) := by
    intro row hrow
    have hpairs := t.sorted
    rw [hrows, List.map_append, List.pairwise_append] at hpairs
    exact hpairs.2.2 row.1 (List.mem_map_of_mem hrow) k (by simp)
  refine List.find?_eq_some_iff_append.mpr ⟨hp,
    before.map fun row => (row.1, if row.1 == k then f row.2 else row.2),
    after.map fun row => (row.1, if row.1 == k then f row.2 else row.2), ?_, ?_⟩
  · simp [update, updateWhere, hrows]
  · intro row hrow
    obtain ⟨old, hold, rfl⟩ := List.mem_map.mp hrow
    simpa [Nat.ne_of_lt (hsorted old hold)] using hbefore old hold

theorem later_some (time : α → Nat) (best : Option (Nat × α)) (row : Nat × α) :
    ∃ new, later time best row = some new ∧ time row.2 ≤ time new.2 ∧
      (∀ b, best = some b → time b.2 ≤ time new.2) ∧ (new = row ∨ best = some new) := by
  cases best with
  | none => exact ⟨row, rfl, Nat.le_refl _, by simp, .inl rfl⟩
  | some b =>
    by_cases h : time b.2 ≤ time row.2
    · exact ⟨row, by simp [later, h], Nat.le_refl _, by simpa using h, .inl rfl⟩
    · exact ⟨b, by simp [later, h], Nat.le_of_not_le h, by simp, .inr rfl⟩

/-- What the search keeps is one of the rows, and no row is later. -/
theorem foldl_later (time : α → Nat) (rows : List (Nat × α)) :
    (rows = [] ∧ rows.foldl (later time) none = none) ∨
      ∃ row ∈ rows, rows.foldl (later time) none = some row ∧ ∀ r ∈ rows,
        time r.2 ≤ time row.2 := by
  induction rows using List.reverseRecOn with
  | nil => exact .inl ⟨rfl, rfl⟩
  | append_singleton rows last ih =>
    obtain ⟨new, hnew, hlast, hbest, hsource⟩ := later_some time (rows.foldl (later time) none) last
    refine .inr ⟨new, ?_, by simpa using hnew, ?_⟩
    · rcases hsource with rfl | hsource
      · simp
      · rcases ih with ⟨_, hnone⟩ | ⟨row, hrow, hsome, _⟩
        · simp [hnone] at hsource
        · rw [hsome, Option.some.injEq] at hsource
          exact hsource ▸ List.mem_append_left _ hrow
    · intro r hr
      rcases List.mem_append.mp hr with hr | hr
      · rcases ih with ⟨rfl, _⟩ | ⟨row, _, hsome, hmax⟩
        · cases hr
        · exact (hmax r hr).trans (hbest row hsome)
      · cases List.mem_singleton.mp hr
        exact hlast

theorem findLatest_some {t : Table α} (h : t.findLatest p time = some (k, a)) :
    t.get? k = some a ∧ p k a = true ∧
      ∀ j b, t.get? j = some b → p j b = true → time b ≤ time a := by
  rcases foldl_later time (t.findMany p) with ⟨_, hnone⟩ | ⟨row, hrow, hsome, hmax⟩
  · rw [findLatest, hnone] at h
    cases h
  · rw [findLatest, hsome, Option.some.injEq] at h
    subst h
    obtain ⟨hget, hp⟩ := mem_findMany.mp hrow
    exact ⟨hget, hp, fun j b hj hpj => hmax (j, b) (mem_findMany.mpr ⟨hj, hpj⟩)⟩

theorem findLatest_none {t : Table α} (h : t.findLatest p time = none) (hget : t.get? k = some a) :
    p k a = false := by
  rcases foldl_later time (t.findMany p) with ⟨hnil, _⟩ | ⟨row, _, hsome, _⟩
  · rw [Bool.eq_false_iff]
    intro hp
    have hmem := mem_findMany.mpr ⟨hget, hp⟩
    rw [hnil] at hmem
    cases hmem
  · rw [findLatest, hsome] at h
    cases h

/-- A new row that is no older than the others is the newest. -/
theorem findLatest_insert {t : Table α} (hp : p t.next a = true)
    (h : ∀ k b, t.get? k = some b → p k b = true → time b ≤ time a) :
    (t.insert a).findLatest p time = some (t.next, a) := by
  rw [findLatest, findMany_insert, if_pos hp, List.foldl_append]
  show later time (t.findLatest p time) (t.next, a) = some (t.next, a)
  cases hlatest : t.findLatest p time with
  | none => rfl
  | some row =>
    obtain ⟨hget, hrow, -⟩ := findLatest_some hlatest
    exact if_pos (h row.1 row.2 hget hrow)

theorem count_eq_zero {t : Table α} : t.count p = 0 ↔ ∀ k a, t.get? k = some a → p k a = false := by
  simp only [count, findMany, List.length_eq_zero_iff, List.filter_eq_nil_iff, Bool.not_eq_true,
    Prod.forall, get?_iff]

theorem count_pos {t : Table α} : 0 < t.count p ↔ ∃ k a, t.get? k = some a ∧ p k a = true := by
  rw [Nat.pos_iff_ne_zero, Ne, count_eq_zero]
  simp

/-- Where no more than one row meets a condition, two that do are one. -/
theorem count_le_one {t : Table α} (h : t.count p ≤ 1) (hj : t.get? j = some a)
    (hk : t.get? k = some b) (ha : p j a = true) (hb : p k b = true) : j = k := by
  have hkeys := findMany_keys t p
  have hmem : (j, a) ∈ t.findMany p := mem_findMany.mpr ⟨hj, ha⟩
  have hmem' : (k, b) ∈ t.findMany p := mem_findMany.mpr ⟨hk, hb⟩
  rw [count] at h
  cases hrows : t.findMany p with
  | nil =>
    rw [hrows] at hmem
    cases hmem
  | cons row rows =>
    rw [hrows] at h hmem hmem'
    obtain rfl : rows = [] := List.eq_nil_of_length_eq_zero (by simpa using h)
    cases List.mem_singleton.mp hmem
    cases List.mem_singleton.mp hmem'
    rfl

theorem count_insert (t : Table α) (a : α) (p) :
    (t.insert a).count p = t.count p + if p t.next a then 1 else 0 := by
  simp only [count, findMany, insert, List.filter_append, List.length_append, List.filter_cons,
    List.filter_nil]
  split <;> rfl

theorem count_foldl_insert {t : Table α} {new : List α} {p : α → Bool} :
    (new.foldl insert t).count (fun _ => p) = t.count (fun _ => p) + new.countP p := by
  induction new generalizing t with
  | nil => rfl
  | cons a new ih =>
    rw [List.foldl_cons, ih, count_insert, List.countP_cons, Nat.add_assoc, Nat.add_comm (ite _ _ _)]

theorem count_congr {t : Table α} (h : ∀ k a, t.get? k = some a → p k a = q k a) :
    t.count p = t.count q := by
  rw [count, count, findMany_congr h]

/-- The rows of a kind are those with a property and those without it. -/
theorem count_split (t : Table α) (p q : Nat → α → Bool) :
    t.count p = t.count (fun k a => p k a && q k a) + t.count fun k a => p k a && !q k a := by
  simp only [count, findMany]
  induction t.rows with
  | nil => rfl
  | cons row rows ih =>
    simp only [List.filter_cons]
    cases p row.1 row.2 <;> cases q row.1 row.2 <;> simp [ih] <;> omega

theorem updateWhere_congr {t : Table α} (h : ∀ k a, t.get? k = some a → p k a = q k a) (f : α → α) :
    t.updateWhere p f = t.updateWhere q f := by
  simp only [updateWhere, Table.mk.injEq, and_true]
  apply List.map_congr_left
  intro row hrow
  rw [h row.1 row.2 (get?_iff.mpr hrow)]

theorem updateWhere_false {t : Table α} {f : α → α} : t.updateWhere (fun _ _ => false) f = t := by
  simp [updateWhere]

/-- An update reads the row it rewrites. -/
theorem update_congr {t : Table α} (h : ∀ a, t.get? k = some a → f a = g a) :
    t.update k f = t.update k g := by
  simp only [update, updateWhere, Table.mk.injEq, and_true]
  apply List.map_congr_left
  intro row hrow
  by_cases hk : row.1 = k
  · simp [hk, h row.2 (get?_iff.mpr (hk ▸ hrow))]
  · simp [hk]

theorem update_none {t : Table α} (h : t.get? k = none) (f : α → α) : t.update k f = t := by
  rw [update, updateWhere_congr (q := fun _ _ => false), updateWhere_false]
  intro j a hj
  rw [beq_eq_false_iff_ne]
  rintro rfl
  cases h.symm.trans hj

theorem update_self {t : Table α} {f : α → α} (h : ∀ a, t.get? k = some a → f a = a) :
    t.update k f = t := by
  rw [update_congr (g := fun a => a) h]
  simp [update, updateWhere]

/-- A row that is rewritten right after it was inserted. -/
theorem update_insert (t : Table α) (a : α) (f : α → α) :
    (t.insert a).update t.next f = t.insert (f a) := by
  simp only [update, updateWhere, insert, Table.mk.injEq, List.map_append, List.map_cons,
    List.map_nil, beq_self_eq_true, if_true, and_true]
  congr 1
  conv_rhs => rw [← List.map_id t.rows]
  apply List.map_congr_left
  intro row hrow
  simp [Nat.ne_of_lt (t.below row hrow)]

/-- Two rewrites by one idempotent function are one. -/
theorem updateWhere_or {t : Table α} {f : α → α} (hf : ∀ a, f (f a) = f a) (p : Nat → Bool) :
    (t.update k f).updateWhere (fun j _ => p j) f = t.updateWhere (fun j _ => j == k || p j) f := by
  simp only [update, updateWhere, List.map_map, Table.mk.injEq, and_true]
  apply List.map_congr_left
  intro row _
  by_cases hk : row.1 = k <;> by_cases hp : p row.1 = true <;> simp_all

-- ---
-- Tables that agree on some columns
-- ---

/-- The same keys, with rows that `f` does not tell apart. -/
def SameRows (f : α → β) (t u : Table α) : Prop :=
  u.rows.map (fun row => (row.1, f row.2)) = t.rows.map (fun row => (row.1, f row.2)) ∧
    u.next = t.next

section SameRows

variable {β : Type v} {f : α → β} {t u v : Table α}

theorem SameRows.refl (t : Table α) : SameRows f t t := ⟨rfl, rfl⟩

theorem SameRows.symm (h : SameRows f t u) : SameRows f u t := ⟨h.1.symm, h.2.symm⟩

theorem SameRows.trans (h : SameRows f t u) (h' : SameRows f u v) : SameRows f t v :=
  ⟨h'.1.trans h.1, h'.2.trans h.2⟩

theorem SameRows.updateWhere {g : α → α} (hg : ∀ a, f (g a) = f a) :
    SameRows f t (t.updateWhere p g) := by
  refine ⟨?_, rfl⟩
  simp only [Table.updateWhere, List.map_map]
  apply List.map_congr_left
  intro row _
  simp only [Function.comp_apply]
  split <;> simp [hg]

theorem SameRows.update {g : α → α} (hg : ∀ a, f (g a) = f a) : SameRows f t (t.update k g) :=
  .updateWhere hg

theorem SameRows.insert (h : SameRows f t u) (hf : f a = f b) :
    SameRows f (t.insert a) (u.insert b) := by
  refine ⟨?_, congrArg (· + 1) h.2⟩
  simp only [Table.insert, List.map_append, List.map_cons, List.map_nil, h.1, h.2, hf]

/-- Two rewrites of a row that `f` does not tell apart. -/
theorem SameRows.rewritten {g g' : α → α} (hg : ∀ a, f (g a) = f (g' a)) :
    SameRows f (t.update k g) (t.update k g') := by
  refine ⟨?_, rfl⟩
  simp only [Table.update, Table.updateWhere, List.map_map]
  apply List.map_congr_left
  intro row _
  simp only [Function.comp_apply]
  split <;> simp [hg]

theorem lookup_map (rows : List (Nat × α)) :
    (rows.map fun row => (row.1, f row.2)).lookup k = (rows.lookup k).map f := by
  induction rows with
  | nil => rfl
  | cons row rows ih =>
    obtain ⟨j, a⟩ := row
    cases hk : k == j <;> simp [List.lookup_cons, hk, ih]

theorem SameRows.get? (h : SameRows f t u) : (u.get? k).map f = (t.get? k).map f := by
  rw [Table.get?, Table.get?, ← lookup_map, ← lookup_map, h.1]

theorem SameRows.back (h : SameRows f t u) (hu : u.get? k = some b) :
    ∃ a, t.get? k = some a ∧ f b = f a := by
  have hget := h.get? (k := k)
  rw [hu, Option.map_some, eq_comm, Option.map_eq_some_iff] at hget
  obtain ⟨a, ha, hf⟩ := hget
  exact ⟨a, ha, hf.symm⟩

theorem SameRows.findMany (h : SameRows f t u) (p : Nat → β → Bool) :
    (u.findMany fun k a => p k (f a)).map (fun row => (row.1, f row.2)) =
      (t.findMany fun k a => p k (f a)).map fun row => (row.1, f row.2) := by
  have hfilter : ∀ v : Table α,
      (v.findMany fun k a => p k (f a)).map (fun row => (row.1, f row.2)) =
        (v.rows.map fun row => (row.1, f row.2)).filter fun row => p row.1 row.2 := by
    intro v
    rw [List.filter_map]
    rfl
  rw [hfilter u, hfilter t, h.1]

theorem SameRows.forth (h : SameRows f t u) (ht : t.get? k = some a) :
    ∃ b, u.get? k = some b ∧ f b = f a := by
  have hget := h.get? (k := k)
  rw [ht, Option.map_some, Option.map_eq_some_iff] at hget
  exact hget

end SameRows

/-- Rows stay and change along `R`, and new ones get new keys. -/
structure Grows (R : α → α → Prop) (t u : Table α) : Prop where
  next : t.next ≤ u.next
  forth : ∀ k a, t.get? k = some a → ∃ b, u.get? k = some b ∧ R a b
  back : ∀ k b, u.get? k = some b → k < t.next → ∃ a, t.get? k = some a ∧ R a b

namespace Grows

variable {R : α → α → Prop} {t u v : Table α}

theorem refl (hR : ∀ a, R a a) (t : Table α) : Grows R t t where
  next := Nat.le_refl _
  forth _ a hget := ⟨a, hget, hR a⟩
  back _ a hget _ := ⟨a, hget, hR a⟩

theorem trans (hR : ∀ a b c, R a b → R b c → R a c) (h : Grows R t u) (h' : Grows R u v) :
    Grows R t v where
  next := h.next.trans h'.next
  forth k a hget := by
    obtain ⟨b, hb, hab⟩ := h.forth k a hget
    obtain ⟨c, hc, hbc⟩ := h'.forth k b hb
    exact ⟨c, hc, hR a b c hab hbc⟩
  back k c hget hk := by
    obtain ⟨b, hb, hbc⟩ := h'.back k c hget (Nat.lt_of_lt_of_le hk h.next)
    obtain ⟨a, ha, hab⟩ := h.back k b hb hk
    exact ⟨a, ha, hR a b c hab hbc⟩

theorem insert (hR : ∀ a, R a a) (t : Table α) (a : α) : Grows R t (t.insert a) where
  next := Nat.le_succ _
  forth _ b hget := ⟨b, get?_insert_of_some hget, hR b⟩
  back k b hget hk := by
    rw [get?_insert, if_neg (Nat.ne_of_lt hk)] at hget
    exact ⟨b, hget, hR b⟩

/-- Rows that are rewritten along `R`, each where it meets the condition. -/
theorem rewritten (hR : ∀ a, R a a) {f : α → α} {t : Table α} {p : Nat → α → Bool}
    (hf : ∀ k a, t.get? k = some a → p k a = true → R a (f a)) :
    Grows R t (t.updateWhere p f) where
  next := Nat.le_refl _
  forth k a hget := by
    refine ⟨if p k a then f a else a, by rw [get?_updateWhere, hget]; rfl, ?_⟩
    split
    · rename_i hp
      exact hf k a hget hp
    · exact hR a
  back k b hget _ := by
    rw [get?_updateWhere] at hget
    obtain ⟨a, ha, rfl⟩ := Option.map_eq_some_iff.mp hget
    refine ⟨a, ha, ?_⟩
    split
    · rename_i hp
      exact hf k a ha hp
    · exact hR a

theorem updateWhere (hR : ∀ a, R a a) {f : α → α} (hf : ∀ a, R a (f a)) (t : Table α) (p) :
    Grows R t (t.updateWhere p f) :=
  .rewritten hR fun _ a _ _ => hf a

theorem update (hR : ∀ a, R a a) {f : α → α} (hf : ∀ a, R a (f a)) (t : Table α) (k : Nat) :
    Grows R t (t.update k f) :=
  .updateWhere hR hf t _

/-- One row, rewritten as it was found. -/
theorem updated (hR : ∀ a, R a a) {f : α → α} {t : Table α}
    (hf : ∀ a, t.get? k = some a → R a (f a)) : Grows R t (t.update k f) := by
  refine .rewritten hR fun j a hget hj => ?_
  obtain rfl := beq_iff_eq.mp hj
  exact hf a hget

theorem foldl_insert (hR : ∀ a, R a a) (hRtrans : ∀ a b c, R a b → R b c → R a c) (t : Table α)
    (new : List α) : Grows R t (new.foldl Table.insert t) := by
  induction new generalizing t with
  | nil => exact .refl hR t
  | cons a new ih => exact (Grows.insert hR t a).trans hRtrans (ih _)

/-- A table, cut at a key. -/
theorem filter_lt_append {rows : List (Nat × α)} (h : (rows.map Prod.fst).Pairwise (· < ·))
    (n : Nat) : (rows.filter fun row => decide (row.1 < n)) ++
      (rows.filter fun row => !decide (row.1 < n)) = rows := by
  induction rows with
  | nil => rfl
  | cons row rows ih =>
    simp only [List.map_cons, List.pairwise_cons] at h
    by_cases hn : row.1 < n
    · simp [hn, ih h.2]
    · have habove : ∀ other ∈ rows, ¬other.1 < n := fun other hother hlt =>
        hn ((h.1 other.1 (List.mem_map_of_mem hother)).trans hlt)
      have hnone : (rows.filter fun row => decide (row.1 < n)) = [] := by
        simpa using fun k a => habove (k, a)
      have hall : (rows.filter fun row => !decide (row.1 < n)) = rows := by
        simpa using fun k a => habove (k, a)
      simp [hn, hnone, hall]

/-- The rows that meet a condition come first in the later table too, and then the new ones. -/
theorem findMany (h : Grows R t u) {p : Nat → α → Bool}
    (hp : ∀ k a b, R a b → p k a = p k b) :
    ∃ kept new, u.findMany p = kept ++ new ∧
      List.Forall₂ (fun x y => x.1 = y.1 ∧ R x.2 y.2) (t.findMany p) kept := by
  have hsorted (v : Table α) : ((v.findMany p).map Prod.fst).Pairwise (· < ·) :=
    v.sorted.sublist (List.filter_sublist.map _)
  let kept := (u.findMany p).filter fun row => decide (row.1 < t.next)
  have hkeys : (t.findMany p).map Prod.fst = kept.map Prod.fst := by
    refine (hsorted t).eq_of_mem_iff ((hsorted u).sublist (List.filter_sublist.map _)) fun k => ?_
    simp only [kept, List.mem_map, List.mem_filter, Prod.exists, mem_findMany, decide_eq_true_eq]
    constructor
    · rintro ⟨_, a, ⟨hget, ha⟩, rfl⟩
      obtain ⟨b, hb, hab⟩ := h.forth _ a hget
      exact ⟨_, b, ⟨⟨hb, hp _ a b hab ▸ ha⟩, lt_next hget⟩, rfl⟩
    · rintro ⟨_, b, ⟨⟨hget, hb⟩, hk⟩, rfl⟩
      obtain ⟨a, ha, hab⟩ := h.back _ b hget hk
      exact ⟨_, a, ⟨ha, hp _ a b hab ▸ hb⟩, rfl⟩
  refine ⟨kept, (u.findMany p).filter fun row => !decide (row.1 < t.next),
    (filter_lt_append (hsorted u) _).symm, ?_⟩
  refine List.forall₂_iff_zip.mpr ⟨by simpa using congrArg List.length hkeys, fun {x y} hxy => ?_⟩
  have hkey : x.1 = y.1 := by
    have hmem : (x.1, y.1) ∈ ((t.findMany p).map Prod.fst).zip (kept.map Prod.fst) := by
      rw [List.zip_map]
      exact List.mem_map.mpr ⟨(x, y), hxy, rfl⟩
    obtain ⟨i, hi⟩ := List.mem_iff_getElem?.mp hmem
    rw [← hkeys, List.getElem?_zip_eq_some] at hi
    exact Option.some.inj (hi.1.symm.trans hi.2)
  obtain ⟨hx, hy⟩ := List.of_mem_zip hxy
  obtain ⟨b, hb, hab⟩ := h.forth x.1 x.2 (mem_findMany.mp hx).1
  have hget := (mem_findMany.mp (List.mem_of_mem_filter hy)).1
  rw [← hkey, hb] at hget
  cases hget
  exact ⟨hkey, hab⟩

end Grows

/-- No two rows have the same key, as under a unique index. A row may have none. -/
def UniqueOn {β : Type v} (key : α → Option β) (t : Table α) : Prop :=
  ∀ j k a b x, t.get? j = some a → t.get? k = some b → key a = some x → key b = some x → j = k

namespace UniqueOn

variable {β : Type v} {key : α → Option β} {t : Table α}

theorem insert (h : UniqueOn key t) {a : α}
    (hfree : ∀ k b x, t.get? k = some b → key a = some x → key b ≠ some x) :
    UniqueOn key (t.insert a) := by
  intro j k b c x hj hk hb hc
  rw [get?_insert] at hj hk
  split at hj <;> split at hk
  · rename_i hj' hk'
    exact hj'.trans hk'.symm
  · cases hj
    exact absurd hc (hfree k c x hk hb)
  · cases hk
    exact absurd hb (hfree j b x hj hc)
  · exact h j k b c x hj hk hb hc

theorem insert_iff (h : UniqueOn key t) {a : α} :
    UniqueOn key (t.insert a) ↔
      ∀ k b x, t.get? k = some b → key a = some x → key b ≠ some x := by
  refine ⟨fun hnext k b x hget ha hb => ?_, h.insert⟩
  have hsame := hnext k t.next b a x (get?_insert_of_some hget) (get?_insert_self t a) hb ha
  exact absurd hsame (lt_next hget).ne

theorem insert_key_iff (h : UniqueOn key t) (ha : key a = some x) :
    UniqueOn key (t.insert a) ↔ ∀ k b, t.get? k = some b → key b ≠ some x := by
  rw [insert_iff h]
  constructor
  · intro hfree k b hget
    exact hfree k b x hget ha
  · intro hfree k b y hget hy
    obtain rfl := Option.some.inj (ha.symm.trans hy)
    exact hfree k b hget

/-- For a row that has a key only under a condition. -/
theorem insert_if_iff {p : Prop} [Decidable p] (h : UniqueOn key t)
    (ha : key a = if p then some x else none) :
    UniqueOn key (t.insert a) ↔ (p → ∀ k b, t.get? k = some b → key b ≠ some x) := by
  by_cases hp : p
  · rw [insert_key_iff h (ha.trans (if_pos hp)), imp_iff_right hp]
  · refine iff_of_true (h.insert fun k b y _ hy => ?_) fun htrue => absurd htrue hp
    cases (ha.trans (if_neg hp)).symm.trans hy

theorem update_iff (h : UniqueOn key t) {f : α → α} (hget : t.get? j = some a) :
    UniqueOn key (t.update j f) ↔
      ∀ k b x, k ≠ j → t.get? k = some b → key (f a) = some x → key b ≠ some x := by
  have hself : (t.update j f).get? j = some (f a) := by simp [hget]
  constructor
  · intro hnext k b x hne hb hx hkey
    exact hne (hnext k j b (f a) x ((get?_update_ne t f hne).trans hb) hself hkey hx)
  · intro hfree k i b c x hb hc hx hx'
    rcases update_cases hb with ⟨rfl, b', hb', rfl⟩ | ⟨hk, hb'⟩ <;>
      rcases update_cases hc with ⟨rfl, c', hc', rfl⟩ | ⟨hi, hc'⟩
    · rfl
    · cases hget.symm.trans hb'
      exact absurd hx' (hfree i c x hi hc' hx)
    · cases hget.symm.trans hc'
      exact absurd hx (hfree k b x hk hb' hx')
    · exact h k i b c x hb' hc' hx hx'

/-- An update gives no row another key. -/
theorem updateWhere (h : UniqueOn key t) {f : α → α} {p : Nat → α → Bool}
    (hf : ∀ k a x, p k a = true → key (f a) = some x → key a = some x) :
    UniqueOn key (t.updateWhere p f) := by
  have hback (k : Nat) (b : α) (x : β) (hget : (t.updateWhere p f).get? k = some b)
      (hb : key b = some x) : ∃ a, t.get? k = some a ∧ key a = some x := by
    rw [get?_updateWhere] at hget
    obtain ⟨a, ha, rfl⟩ := Option.map_eq_some_iff.mp hget
    refine ⟨a, ha, ?_⟩
    split at hb
    · rename_i hp
      exact hf k a x hp hb
    · exact hb
  intro j k b c x hj hk hb hc
  obtain ⟨b', hb', hx⟩ := hback j b x hj hb
  obtain ⟨c', hc', hx'⟩ := hback k c x hk hc
  exact h j k b' c' x hb' hc' hx hx'

theorem update (h : UniqueOn key t) {f : α → α} (hf : ∀ a x, key (f a) = some x → key a = some x)
    (k : Nat) : UniqueOn key (t.update k f) :=
  h.updateWhere fun _ a x _ => hf a x

/-- Two rows with keys have different ones. -/
theorem keys_ne (h : UniqueOn key t) (hjk : j ≠ k) :
    (t.get? j).bind key = none ∨ (t.get? j).bind key ≠ (t.get? k).bind key := by
  refine or_iff_not_imp_left.mpr fun hsome heq => hjk ?_
  obtain ⟨x, hx⟩ := Option.ne_none_iff_exists'.mp hsome
  obtain ⟨a, ha, hkey⟩ := Option.bind_eq_some_iff.mp hx
  obtain ⟨b, hb, hkey'⟩ := Option.bind_eq_some_iff.mp (heq.symm.trans hx)
  exact h j k a b x ha hb hkey hkey'

end UniqueOn

-- ---
-- Sums
-- ---

theorem sumWhere_eq_total (t : Table α) (p) (column : α → Int) :
    t.sumWhere p column = t.total fun k a => if p k a then column a else 0 := by
  simp only [sumWhere, findMany, total]
  induction t.rows with
  | nil => rfl
  | cons row rows ih =>
    by_cases h : p row.1 row.2 <;> simp [h, ih]

theorem total_insert (t : Table α) (a : α) (c) : (t.insert a).total c = t.total c + c t.next a := by
  simp [total, insert]

/-- What a list of new rows adds, when it does not depend on their keys. -/
theorem total_foldl_insert {t : Table α} {new : List α} {c : Nat → α → Int}
    (h : ∀ k, t.next ≤ k → ∀ a ∈ new, c k a = d a) :
    (new.foldl insert t).total c = t.total c + (new.map d).sum := by
  induction new generalizing t with
  | nil => simp
  | cons b new ih =>
    rw [List.foldl_cons, ih fun k hk a ha =>
      h k (Nat.le_of_succ_le hk) a (.tail _ ha), total_insert, h t.next (Nat.le_refl _) b (.head _),
      List.map_cons, List.sum_cons]
    ring

theorem total_updateWhere (t : Table α) (p) (f : α → α) (c) :
    (t.updateWhere p f).total c = t.total fun k a => if p k a then c k (f a) else c k a := by
  simp only [total, updateWhere, List.map_map, Function.comp_def]
  congr 1
  apply List.map_congr_left
  intro row _
  split <;> rfl

theorem total_congr {t : Table α} (h : ∀ k a, t.get? k = some a → c k a = d k a) :
    t.total c = t.total d := by
  simp only [total]
  congr 1
  exact List.map_congr_left fun row hrow => h row.1 row.2 (get?_iff.mpr hrow)

theorem total_le {t : Table α} (h : ∀ k a, t.get? k = some a → c k a ≤ d k a) :
    t.total c ≤ t.total d := by
  simp only [total]
  exact List.sum_le_sum fun row hrow => h row.1 row.2 (get?_iff.mpr hrow)

theorem total_nonneg {t : Table α} (h : ∀ k a, t.get? k = some a → 0 ≤ c k a) : 0 ≤ t.total c := by
  simp only [total]
  apply List.sum_nonneg
  intro x hx
  obtain ⟨row, hrow, rfl⟩ := List.mem_map.mp hx
  exact h row.1 row.2 (get?_iff.mpr hrow)

theorem total_zero {t : Table α} (h : ∀ k a, t.get? k = some a → c k a = 0) : t.total c = 0 := by
  rw [total_congr h]
  simp [total]

theorem total_add (t : Table α) (c d : Nat → α → Int) :
    t.total (fun k a => c k a + d k a) = t.total c + t.total d := by
  simp only [total]
  induction t.rows with
  | nil => rfl
  | cons row rows ih =>
    simp only [List.map_cons, List.sum_cons, ih]
    ring

/-- Sums of contributions, one for each entry of a list, are one sum over the rows. -/
theorem sum_map_total {γ : Type} (t : Table α) (l : List γ) (c : γ → Nat → α → Int) :
    (l.map fun x => t.total (c x)).sum = t.total fun k a => (l.map fun x => c x k a).sum := by
  induction l with
  | nil => exact (total_zero fun _ _ _ => rfl).symm
  | cons x l ih =>
    simp only [List.map_cons, List.sum_cons, ih]
    exact (total_add t (c x) _).symm

theorem total_sub (t : Table α) (c d : Nat → α → Int) :
    t.total (fun k a => c k a - d k a) = t.total c - t.total d := by
  simp only [total]
  induction t.rows with
  | nil => rfl
  | cons row rows ih =>
    simp only [List.map_cons, List.sum_cons, ih]
    ring

theorem total_mul (t : Table α) (c : Nat → α → Int) (x : Int) :
    t.total (fun k a => x * c k a) = x * t.total c := by
  simp only [total]
  induction t.rows with
  | nil => simp
  | cons row rows ih =>
    simp only [List.map_cons, List.sum_cons, ih]
    ring

/-- Sums over two tables, in either order. -/
theorem total_comm {β : Type v} (t : Table α) (u : Table β) (c : Nat → α → Nat → β → Int) :
    t.total (fun i a => u.total (c i a)) = u.total fun j b => t.total fun i a => c i a j b := by
  simp only [total]
  induction t.rows with
  | nil => simp
  | cons row rows ih =>
    simp only [List.map_cons, List.sum_cons, ih]
    exact (total_add u (c row.1 row.2) fun j b => (rows.map fun row => c row.1 row.2 j b).sum).symm

theorem count_eq_total (t : Table α) (p : Nat → α → Bool) :
    (t.count p : Int) = t.total fun k a => if p k a then 1 else 0 := by
  simp only [count, findMany, total]
  induction t.rows with
  | nil => rfl
  | cons row rows ih =>
    by_cases h : p row.1 row.2
    · simp [h, ih, Int.add_comm]
    · simp [h, ih]

/-- The contribution of one row, read off the sum. -/
theorem total_single {t : Table α} (h : t.get? k = some a) (x : Int) :
    (t.total fun j _ => if j = k then x else 0) = x := by
  have hmem := get?_iff.mp h
  have hsorted := t.sorted
  simp only [total]
  generalize t.rows = rows at hmem hsorted
  induction rows with
  | nil => simp at hmem
  | cons row rows ih =>
    simp only [List.map_cons, List.pairwise_cons] at hsorted
    rcases List.mem_cons.mp hmem with rfl | hmem
    · have hrest : (rows.map fun row => if row.1 = k then x else 0) = rows.map fun _ => 0 := by
        apply List.map_congr_left
        intro row hrow
        have := hsorted.1 row.1 (List.mem_map.mpr ⟨row, hrow, rfl⟩)
        exact if_neg (by simp only at this; omega)
      simp [hrest]
    · have hne : row.1 ≠ k := by
        have := hsorted.1 k (List.mem_map.mpr ⟨_, hmem, rfl⟩)
        omega
      simp [hne, ih hmem hsorted.2]

/-- Two contributions that differ at one row. -/
theorem total_at {t : Table α} (h : t.get? k = some a)
    (hne : ∀ j b, t.get? j = some b → j ≠ k → d j b = c j b) :
    t.total d = t.total c + (d k a - c k a) := by
  rw [← total_single h (d k a - c k a), ← total_add]
  apply total_congr
  intro j b hb
  by_cases hj : j = k
  · subst hj
    rw [h] at hb
    cases hb
    simp
  · simp [hj, hne j b hb hj]

/-- A contribution of one row alone. -/
theorem total_only {t : Table α} {c : Nat → α → Int} (h : t.get? k = some a)
    (hne : ∀ j b, t.get? j = some b → j ≠ k → c j b = 0) : t.total c = c k a := by
  rw [total_at (c := fun _ _ => 0) h hne, total_zero fun _ _ _ => rfl]
  simp

/-- Rows that name others, no two the same: a sum over the rows that name is one over the
rows that are named. -/
theorem total_linked {t : Table α} {link : α → Option Nat} (hunique : t.UniqueOn link)
    {c d : Nat → α → Int}
    (hlinked : ∀ j a k, t.get? j = some a → link a = some k →
      ∃ b, t.get? k = some b ∧ d k b = c j a)
    (hc : ∀ j a, t.get? j = some a → link a = none → c j a = 0)
    (hd : ∀ k b, t.get? k = some b → (∀ j a, t.get? j = some a → link a ≠ some k) → d k b = 0) :
    t.total c = t.total d := by
  have hspread : t.total c =
      t.total fun j a => t.total fun k _ => if link a = some k then c j a else 0 := by
    refine total_congr fun j a ha => ?_
    cases hlink : link a with
    | none => simp [hc j a ha hlink, total]
    | some k =>
      obtain ⟨b, hb, -⟩ := hlinked j a k ha hlink
      rw [total_only hb]
      · simp
      · intro i _ _ hi
        exact if_neg fun heq => hi (Option.some.inj heq).symm
  rw [hspread, total_comm]
  refine total_congr fun k b hb => ?_
  by_cases hnamed : ∃ j a, t.get? j = some a ∧ link a = some k
  · obtain ⟨j, a, ha, hlink⟩ := hnamed
    obtain ⟨b', hb', hd'⟩ := hlinked j a k ha hlink
    obtain rfl := Option.some.inj (hb'.symm.trans hb)
    rw [total_only ha, if_pos hlink, hd']
    intro i a' ha' hi
    exact if_neg fun hlink' => hi (hunique i j a' a k ha' ha hlink' hlink)
  · push Not at hnamed
    rw [hd k b hb hnamed]
    exact total_zero fun j a ha => if_neg (hnamed j a ha)

/-- An update exchanges one contribution. -/
theorem total_update {t : Table α} (h : t.get? k = some a) (f : α → α) (c) :
    (t.update k f).total c = t.total c + (c k (f a) - c k a) := by
  rw [update, total_updateWhere, total_at (c := c) h]
  · simp
  · intro j b _ hj
    simp [hj]

/-- An update that changes neither whether a row counts nor what it adds. -/
theorem sumWhere_update {t : Table α} {column : α → Int} (h : t.get? k = some a) (f : α → α)
    (hp : p k (f a) = p k a) (hcolumn : column (f a) = column a) :
    (t.update k f).sumWhere p column = t.sumWhere p column := by
  rw [sumWhere_eq_total, sumWhere_eq_total, total_update h, hp, hcolumn]
  omega

theorem count_update {t : Table α} (h : t.get? k = some a) (f : α → α) (hp : p k (f a) = p k a) :
    (t.update k f).count p = t.count p := by
  have hcount : ((t.update k f).count p : Int) = t.count p := by
    rw [count_eq_total, count_eq_total, total_update h, hp]
    omega
  exact_mod_cast hcount

/-- An update exchanges whether one row counts. -/
theorem count_update_add {t : Table α} (h : t.get? k = some a) (f : α → α) (p : Nat → α → Bool) :
    (t.update k f).count p + (if p k a then 1 else 0) =
      t.count p + if p k (f a) then 1 else 0 := by
  have hcount : ((t.update k f).count p : Int) =
      t.count p + ((if p k (f a) then 1 else 0) - if p k a then 1 else 0) := by
    rw [count_eq_total, count_eq_total, total_update h]
  by_cases hf : p k (f a) = true <;> by_cases ha : p k a = true <;>
    simp only [hf, ha, if_true, if_false, Bool.false_eq_true] at hcount ⊢ <;> omega

theorem count_mono {t : Table α} (h : ∀ k a, p k a = true → q k a = true) :
    t.count p ≤ t.count q := by
  simp only [count, findMany, ← List.countP_eq_length_filter]
  exact List.countP_mono_left fun row _ hp => h row.1 row.2 hp

/-- Of two conditions the narrower one is met as often only where both are met by the same
rows. -/
theorem count_eq_iff {t : Table α} (h : ∀ k a, p k a = true → q k a = true) :
    t.count p = t.count q ↔ ∀ k a, t.get? k = some a → q k a = true → p k a = true := by
  rw [count, count, findMany_of_imp h, List.length_filter_eq_length_iff]
  simp only [Prod.forall, mem_findMany, and_imp]

theorem count_updateWhere_le {t : Table α} {f : α → α} {q : Nat → α → Bool}
    (h : ∀ k a, q k (f a) = true → q k a = true) : (t.updateWhere p f).count q ≤ t.count q := by
  have hcount : ((t.updateWhere p f).count q : Int) ≤ t.count q := by
    rw [count_eq_total, count_eq_total, total_updateWhere]
    refine total_le fun k a _ => ?_
    by_cases hq : q k (f a) = true
    · simp [hq, h k a hq]
    · split <;> split <;> simp_all
  exact_mod_cast hcount

theorem count_updateWhere {t : Table α} {f : α → α} {q : Nat → α → Bool}
    (h : ∀ k a, p k a = true → q k (f a) = q k a) : (t.updateWhere p f).count q = t.count q := by
  have hcount : ((t.updateWhere p f).count q : Int) = t.count q := by
    rw [count_eq_total, count_eq_total, total_updateWhere]
    refine total_congr fun k a _ => ?_
    by_cases hp : p k a = true
    · simp [hp, h k a hp]
    · simp [hp]
  exact_mod_cast hcount

theorem update_of_none {t : Table α} (h : t.get? k = none) (f : α → α) (c) :
    (t.update k f).total c = t.total c := by
  rw [update, total_updateWhere]
  apply total_congr
  intro j b hb
  have hj : j ≠ k := by
    rintro rfl
    rw [h] at hb
    cases hb
  simp [hj]

theorem total_erase {t : Table α} (h : t.get? k = some a) (c) :
    (t.erase k).total c = t.total c - c k a := by
  have hk : (t.erase k).total c = t.total fun j b => if j = k then 0 else c j b := by
    simp only [total, erase]
    induction t.rows with
    | nil => rfl
    | cons row rows ih => by_cases hr : row.1 = k <;> simp [hr, ih]
  rw [hk, ← total_single h (c k a), ← total_sub]
  apply total_congr
  intro j b hb
  by_cases hj : j = k
  · subst hj
    rw [h] at hb
    cases hb
    simp
  · simp [hj]

/-- One contribution is at most the sum when none is negative. -/
theorem le_total {t : Table α} (h : t.get? k = some a) (hc : ∀ k a, t.get? k = some a → 0 ≤ c k a) :
    c k a ≤ t.total c := by
  rw [← total_single h (c k a)]
  apply total_le
  intro j b hb
  by_cases hj : j = k
  · subst hj
    rw [h] at hb
    cases hb
    simp
  · simpa [hj] using hc j b hb

/-- A sum of contributions none of which is negative. -/
theorem total_eq_zero_iff {t : Table α} (hc : ∀ k a, t.get? k = some a → 0 ≤ c k a) :
    t.total c = 0 ↔ ∀ k a, t.get? k = some a → c k a = 0 := by
  constructor
  · intro h k a hget
    exact le_antisymm (h ▸ le_total hget hc) (hc k a hget)
  · exact total_zero

end Table

end NimbusPos.Lib
