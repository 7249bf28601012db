import Mathlib.Algebra.BigOperators.Group.Finset.Basic
import Mathlib.Data.List.Sort
import Mathlib.Logic.Equiv.Basic

/-!
# Pages of a list whose order is not fixed

Rows are read a page at a time, sorted by a key, and each read is free to order the rows of one
key as it likes. All pages together add up to all rows, whatever the orders and the size of a
page, exactly if rows of one key weigh the same.
-/

namespace NimbusPos.Lib

variable {α κ M : Type}

/-- What the keys determine is the same for lists of the same keys. -/
theorem map_eq_of_map_eq {key : α → κ} {xs ys : List α} {weight : α → M}
    (hkeys : xs.map key = ys.map key)
    (h : ∀ a ∈ xs, ∀ b ∈ ys, key a = key b → weight a = weight b) :
    xs.map weight = ys.map weight := by
  induction xs generalizing ys with
  | nil =>
    rw [List.map_nil, eq_comm, List.map_eq_nil_iff] at hkeys
    rw [hkeys]
  | cons a xs ih =>
    cases ys with
    | nil => cases hkeys
    | cons b ys =>
      obtain ⟨hkey, hkeys⟩ := List.cons_eq_cons.mp hkeys
      rw [List.map_cons, List.map_cons, h a (.head _) b (.head _) hkey,
        ih hkeys fun a ha b hb => h a (.tail _ ha) b (.tail _ hb)]

/-- The rows in some order by their key. -/
structure Arranged [LE κ] (key : α → κ) (rows : List α) where
  list : List α
  perm : list.Perm rows
  sorted : list.Pairwise fun a b => key a ≤ key b

namespace Arranged

variable [LinearOrder κ] {key : α → κ} {rows : List α}

def page (order : Arranged key rows) (skip take : Nat) : List α := (order.list.drop skip).take take

/-- The keys come in one order. -/
theorem keys_eq (order other : Arranged key rows) : order.list.map key = other.list.map key := by
  have hperm := (order.perm.trans other.perm.symm).map key
  exact hperm.eq_of_pairwise (fun _ _ _ _ => le_antisymm)
    (List.pairwise_map.mpr order.sorted) (List.pairwise_map.mpr other.sorted)

/-- Where rows of one key weigh the same, so do the weights. -/
theorem weights_eq {weight : α → M}
    (h : ∀ a ∈ rows, ∀ b ∈ rows, key a = key b → weight a = weight b)
    (order other : Arranged key rows) : order.list.map weight = other.list.map weight := by
  refine map_eq_of_map_eq (order.keys_eq other) fun a ha b hb => ?_
  exact h a (order.perm.mem_iff.mp ha) b (other.perm.mem_iff.mp hb)

variable (rows) in
/-- Rows of one key keep their order. -/
def stable (key : α → κ) : Arranged key rows where
  list := rows.insertionSort fun a b => key a ≤ key b
  perm := List.perm_insertionSort _ _
  sorted := by
    have htotal : Std.Total fun a b : α => key a ≤ key b := ⟨fun a b => le_total (key a) (key b)⟩
    have htrans : IsTrans α fun a b => key a ≤ key b := ⟨fun a b c hab hbc => le_trans hab hbc⟩
    exact List.pairwise_insertionSort _ _

theorem nodup (order : Arranged key rows) (hrows : rows.Nodup) : order.list.Nodup :=
  order.perm.nodup_iff.mpr hrows

/-- A row can be read before any other whose key is not before its own. -/
theorem exists_before [DecidableEq α] (ha : a ∈ rows) (hb : b ∈ rows) (hne : a ≠ b)
    (hkey : key a ≤ key b) : ∃ order : Arranged key rows, [a, b].Sublist order.list := by
  have hperm : (a :: rows.erase a).Perm rows := (List.perm_cons_erase ha).symm
  have hpair : [a, b].Sublist (a :: rows.erase a) :=
    List.Sublist.cons_cons a (List.singleton_sublist.mpr ((List.mem_erase_of_ne hne.symm).mpr hb))
  let order := stable (a :: rows.erase a) key
  exact ⟨⟨order.list, order.perm.trans hperm, order.sorted⟩,
    List.pair_sublist_insertionSort hkey hpair⟩

/-- Two rows of one key change places. -/
def swapped [DecidableEq α] (order : Arranged key rows) (hrows : rows.Nodup) (ha : a ∈ rows)
    (hb : b ∈ rows) (hkey : key a = key b) : Arranged key rows where
  list := order.list.map (Equiv.swap a b)
  perm := by
    have hnodup := order.perm.nodup_iff.mpr hrows
    rw [List.perm_ext_iff_of_nodup (hnodup.map (Equiv.injective _)) hrows]
    intro x
    rw [List.mem_map_of_involutive (fun y => Equiv.swap_apply_self a b y), order.perm.mem_iff]
    by_cases hxa : x = a
    · rw [hxa, Equiv.swap_apply_left]
      exact iff_of_true hb ha
    · by_cases hxb : x = b
      · rw [hxb, Equiv.swap_apply_right]
        exact iff_of_true ha hb
      · rw [Equiv.swap_apply_of_ne_of_ne hxa hxb]
  sorted := by
    have hsame (x : α) : key (Equiv.swap a b x) = key x := by
      rw [Equiv.swap_apply_def]
      split <;> [rename_i h; split]
      · rw [h, hkey]
      · rename_i h
        rw [h, hkey]
      · rfl
    rw [List.pairwise_map]
    exact order.sorted.imp fun h => by rwa [hsame, hsame]

-- ---
-- All pages
-- ---

section

variable [AddCommMonoid M]

/-- What the rows of the first `n` pages weigh, each read in its own order. -/
def pagesWeigh (weight : α → M) (size : Nat) (orders : Nat → Arranged key rows) (n : Nat) : M :=
  ∑ i ∈ Finset.range n, (((orders i).page (i * size) size).map weight).sum

theorem pagesWeigh_eq {weight : α → M}
    (h : ∀ a ∈ rows, ∀ b ∈ rows, key a = key b → weight a = weight b)
    (orders : Nat → Arranged key rows) (hn : rows.length ≤ n * size) :
    pagesWeigh weight size orders n = (rows.map weight).sum := by
  have hfront (k : Nat) : pagesWeigh weight size orders k =
      (((stable rows key).list.map weight).take (k * size)).sum := by
    induction k with
    | zero => simp [pagesWeigh]
    | succ k ih =>
      have hpage : ((orders k).page (k * size) size).map weight =
          (((stable rows key).list.map weight).drop (k * size)).take size := by
        rw [page, List.map_take, List.map_drop, weights_eq h (orders k) (stable rows key)]
      rw [pagesWeigh, Finset.sum_range_succ, ← pagesWeigh, ih, hpage, Nat.succ_mul, List.take_add,
        List.sum_append]
  have hlength : ((stable rows key).list.map weight).length ≤ n * size := by
    rwa [List.length_map, (stable rows key).perm.length_eq]
  rw [hfront, List.take_of_length_le hlength]
  exact ((stable rows key).perm.map weight).sum_eq

end

/-- Pages of one row tell two rows of one key apart. -/
theorem weights_of_pagesWeigh [DecidableEq α] [AddCancelCommMonoid M] {weight : α → M}
    (hrows : rows.Nodup)
    (h : ∀ orders : Nat → Arranged key rows,
      pagesWeigh weight 1 orders rows.length = (rows.map weight).sum)
    (ha : a ∈ rows) (hb : b ∈ rows) (hkey : key a = key b) : weight a = weight b := by
  let base := stable rows key
  have hbase : b ∈ base.list := base.perm.mem_iff.mpr hb
  obtain ⟨k, hk, hget⟩ := List.mem_iff_getElem.mp hbase
  -- The page of `b` is read in an order in which `a` is in its place.
  let orders (i : Nat) := if i = k then base.swapped hrows ha hb hkey else base
  have hsums := (h fun _ => base).trans (h orders).symm
  have hmem : k ∈ Finset.range rows.length := by
    rw [Finset.mem_range, ← base.perm.length_eq]
    exact hk
  rw [pagesWeigh, pagesWeigh, ← Finset.add_sum_erase _ _ hmem,
    ← Finset.add_sum_erase (Finset.range rows.length) _ hmem] at hsums
  have hothers : ∀ i ∈ (Finset.range rows.length).erase k,
      ((base.page (i * 1) 1).map weight).sum = (((orders i).page (i * 1) 1).map weight).sum := by
    intro i hi
    rw [show orders i = base from if_neg (Finset.ne_of_mem_erase hi)]
  rw [Finset.sum_congr rfl hothers] at hsums
  have hpages := add_right_cancel hsums
  rw [show orders k = base.swapped hrows ha hb hkey from if_pos rfl] at hpages
  have hthat : base.page (k * 1) 1 = [b] := by
    rw [page, Nat.mul_one, List.take_one, List.head?_drop, List.getElem?_eq_some_iff.mpr ⟨hk, hget⟩]
    rfl
  have hthis : (base.swapped hrows ha hb hkey).page (k * 1) 1 = [a] := by
    have hswapped : (base.list.map (Equiv.swap a b))[k]? = some a := by
      rw [List.getElem?_map, List.getElem?_eq_some_iff.mpr ⟨hk, hget⟩, Option.map_some,
        Equiv.swap_apply_right]
    rw [page, Nat.mul_one, List.take_one, List.head?_drop]
    exact congrArg Option.toList hswapped
  rw [hthat, hthis] at hpages
  simpa using hpages.symm

end Arranged

end NimbusPos.Lib

/-!
# Pages

A list in pages, which are walked until one is empty; and the first of a list by some order.
-/

namespace NimbusPos.Lib

variable {α : Type u}

-- ---
-- Page after page
-- ---

/-- Pages are counted from one. -/
def pageOf (size : Nat) (xs : List α) (page : Nat) : List α :=
  (xs.drop ((page - 1) * size)).take size

/-- The pages from one on, until one is empty. -/
def walk (fetch : Nat → List α) : Nat → Nat → List α
  | 0, _ => []
  | fuel + 1, page =>
    if (fetch page).isEmpty then [] else fetch page ++ walk fetch fuel (page + 1)

theorem walk_drop {size fuel : Nat} {xs : List α} (hsize : 0 < size) (p : Nat)
    (hfuel : xs.length < p * size + fuel) :
    walk (pageOf size xs) fuel (p + 1) = xs.drop (p * size) := by
  induction fuel generalizing p with
  | zero => exact (List.drop_eq_nil_of_le (Nat.le_of_lt hfuel)).symm
  | succ fuel ih =>
    have hpage : pageOf size xs (p + 1) = (xs.drop (p * size)).take size := by simp [pageOf]
    have hrest : walk (pageOf size xs) fuel (p + 1 + 1) = (xs.drop (p * size)).drop size := by
      rw [ih (p + 1) (by rw [Nat.succ_mul]; omega), List.drop_drop, Nat.succ_mul]
    rw [walk, hpage, hrest, List.take_append_drop]
    split
    · rename_i hempty
      rw [List.isEmpty_iff, List.take_eq_nil_iff] at hempty
      rcases hempty with hzero | hnil
      · exact absurd hzero (Nat.ne_of_gt hsize)
      · exact hnil.symm
    · rfl

/-- The pages of a list are the list. -/
theorem walk_pageOf {size fuel : Nat} {xs : List α} (hsize : 0 < size) (hfuel : xs.length < fuel) :
    walk (pageOf size xs) fuel 1 = xs := by
  have hwalk : walk (pageOf size xs) fuel (0 + 1) = xs.drop (0 * size) :=
    walk_drop hsize 0 (by rwa [Nat.zero_mul, Nat.zero_add])
  rwa [Nat.zero_mul, List.drop_zero] at hwalk

theorem walk_map {β : Type v} (f : α → β) (fetch : Nat → List α) (fuel page : Nat) :
    walk (fun page => (fetch page).map f) fuel page = (walk fetch fuel page).map f := by
  induction fuel generalizing page with
  | zero => rfl
  | succ fuel ih =>
    simp only [walk, List.isEmpty_map, ih]
    split
    · rfl
    · exact List.map_append.symm

/-- Rows that change places within their pages. -/
theorem walk_perm {fetch fetch' : Nat → List α} (h : ∀ page, (fetch page).Perm (fetch' page))
    (fuel page : Nat) : (walk fetch fuel page).Perm (walk fetch' fuel page) := by
  induction fuel generalizing page with
  | zero => exact .refl _
  | succ fuel ih =>
    have hempty : (fetch page).isEmpty = (fetch' page).isEmpty := by
      rw [Bool.eq_iff_iff, List.isEmpty_iff, List.isEmpty_iff]
      constructor
      · exact fun hnil => (hnil ▸ h page).nil_eq.symm
      · exact fun hnil => (hnil ▸ h page).eq_nil
    rw [walk, walk, hempty]
    split
    · exact .refl _
    · exact (h page).append (ih (page + 1))

theorem pageOf_sublist (size : Nat) (xs : List α) (page : Nat) : (pageOf size xs page).Sublist xs :=
  (List.take_sublist _ _).trans (List.drop_sublist _ _)

/-- Pages that are sorted on their own, one after another: all of them are in order, whatever the
size of a page and wherever rows of one key are read, exactly if the order follows the key. -/
theorem sorted_pages_iff {α κ : Type} [LinearOrder κ] [DecidableEq α] {key : α → κ} {rows : List α}
    {r : α → α → Prop} [DecidableRel r] (hnodup : rows.Nodup) :
    (∀ (size : Nat) (order : Arranged key rows),
        (walk (fun page => (pageOf (size + 1) order.list page).insertionSort r)
          (rows.length + 1) 1).Pairwise r) ↔
      ∀ a ∈ rows, ∀ b ∈ rows, a ≠ b → key a ≤ key b → r a b := by
  have hplain (size : Nat) (order : Arranged key rows)
      (hpages : ∀ page, (pageOf (size + 1) order.list page).Pairwise r) :
      walk (fun page => (pageOf (size + 1) order.list page).insertionSort r) (rows.length + 1) 1 =
        order.list := by
    have hsame : (fun page => (pageOf (size + 1) order.list page).insertionSort r) =
        pageOf (size + 1) order.list := funext fun page => (hpages page).insertionSort_eq
    rw [hsame]
    exact walk_pageOf (Nat.succ_pos _) (by rw [order.perm.length_eq]; exact Nat.lt_succ_self _)
  constructor
  · intro h a ha b hb hne hkey
    obtain ⟨order, hbefore⟩ := Arranged.exists_before ha hb hne hkey
    have hsingle (page : Nat) : (pageOf 1 order.list page).Pairwise r := by
      have hlength : (pageOf 1 order.list page).length ≤ 1 := List.length_take_le _ _
      match pageOf 1 order.list page, hlength with
      | [], _ => exact .nil
      | [x], _ => exact List.pairwise_singleton r x
    have hsorted := h 0 order
    rw [hplain 0 order hsingle] at hsorted
    exact hsorted.forall_sublist hbefore
  · intro h size order
    have hsorted : order.list.Pairwise r := by
      refine (order.sorted.and (order.nodup hnodup)).imp_of_mem fun ha hb hab => ?_
      exact h _ (order.perm.mem_iff.mp ha) _ (order.perm.mem_iff.mp hb) hab.2 hab.1
    rw [hplain size order fun page => hsorted.sublist (pageOf_sublist _ _ page)]
    exact hsorted

-- ---
-- The first by an order
-- ---

section

variable (r : α → α → Prop) [DecidableRel r] {xs : List α} {n : Nat}

/-- The first `n` when the list is sorted. -/
def firsts (n : Nat) (xs : List α) : List α := (xs.insertionSort r).take n

theorem mem_of_firsts (h : x ∈ firsts r n xs) : x ∈ xs :=
  (List.mem_insertionSort r).mp (List.mem_of_mem_take h)

theorem nodup_firsts {f : α → β} (h : (xs.map f).Nodup) : ((firsts r n xs).map f).Nodup :=
  (((List.perm_insertionSort r xs).map f).nodup_iff.mpr h).sublist ((List.take_sublist _ _).map f)

theorem length_firsts (n : Nat) (xs : List α) : (firsts r n xs).length = min n xs.length := by
  rw [firsts, List.length_take, List.length_insertionSort]

theorem mem_firsts_of_le (hle : xs.length ≤ n) : x ∈ firsts r n xs ↔ x ∈ xs := by
  rw [firsts, List.take_of_length_le (by rwa [List.length_insertionSort]), List.mem_insertionSort]

/-- What is not among the first comes after them. -/
theorem firsts_before [Std.Total r] [IsTrans α r] (hx : x ∈ firsts r n xs) (hy : y ∈ xs)
    (hnot : y ∉ firsts r n xs) : r x y := by
  have hsorted := List.pairwise_insertionSort r xs
  rw [← List.take_append_drop n (xs.insertionSort r), List.pairwise_append] at hsorted
  refine hsorted.2.2 x hx y ?_
  have hmem := (List.mem_insertionSort r).mpr hy
  rw [← List.take_append_drop n (xs.insertionSort r), List.mem_append] at hmem
  exact hmem.resolve_left hnot

end

/-- The first `n` of `xs`, in whatever order. -/
structure AreFirsts (r : α → α → Prop) (n : Nat) (xs ys : List α) : Prop where
  among : ys ⊆ xs
  counted : ys.length = min n xs.length
  before : ∀ x ∈ ys, ∀ y ∈ xs, y ∉ ys → r x y

theorem firsts_areFirsts (r : α → α → Prop) [DecidableRel r] [Std.Total r] [IsTrans α r] (n : Nat)
    (xs : List α) : AreFirsts r n xs (firsts r n xs) where
  among _ hmem := mem_of_firsts r hmem
  counted := length_firsts r n xs
  before _ hx _ hy hnot := firsts_before r hx hy hnot

namespace AreFirsts

variable {r : α → α → Prop} {n : Nat} {xs ys zs : List α}

theorem perm (h : AreFirsts r n xs ys) (hperm : ys.Perm zs) : AreFirsts r n xs zs where
  among := List.Subset.trans hperm.symm.subset h.among
  counted := hperm.length_eq.symm.trans h.counted
  before x hx y hy hnot :=
    h.before x (hperm.mem_iff.mpr hx) y hy fun hmem => hnot (hperm.mem_iff.mp hmem)

theorem map {s : β → β → Prop} (h : AreFirsts r n xs ys) (f : α → β)
    (hf : ∀ x y, r x y → s (f x) (f y)) : AreFirsts s n (xs.map f) (ys.map f) where
  among := List.map_subset f h.among
  counted := by rw [List.length_map, List.length_map, h.counted]
  before := by
    simp only [List.mem_map]
    rintro - ⟨x, hx, rfl⟩ - ⟨y, hy, rfl⟩ hnot
    exact hf x y (h.before x hx y hy fun hmem => hnot ⟨y, hmem, rfl⟩)

/-- All of them where there are no more than `n`. -/
theorem mem_iff (h : AreFirsts r n xs ys) (hnodup : ys.Nodup) (hle : xs.length ≤ n) :
    x ∈ ys ↔ x ∈ xs := by
  have hlength : xs.length ≤ ys.length := by rw [h.counted, Nat.min_eq_right hle]
  exact ((List.subperm_of_subset hnodup h.among).perm_of_length_le hlength).mem_iff

end AreFirsts

end NimbusPos.Lib
