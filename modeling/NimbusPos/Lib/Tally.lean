import Mathlib.Algebra.BigOperators.Group.List.Basic
import Mathlib.Data.List.Induction
import Mathlib.Data.List.Nodup

/-!
# Lists under keys

Rows collected by key, the keys in the order in which they first come up: what a loop
does that pushes each row onto the list of its key.
-/

namespace NimbusPos.Lib

abbrev Groups (κ β : Type) := List (κ × List β)

namespace Groups

variable {κ β : Type}

def Holds (groups : Groups κ β) (key : κ) (b : β) : Prop := ∃ bs, (key, bs) ∈ groups ∧ b ∈ bs

theorem holds_cons {groups : Groups κ β} :
    Holds ((key', bs) :: groups) key b ↔ (key = key' ∧ b ∈ bs) ∨ groups.Holds key b := by
  simp only [Holds, List.mem_cons, Prod.mk.injEq]
  constructor
  · rintro ⟨bs', ⟨rfl, rfl⟩ | hmem, hb⟩
    · exact .inl ⟨rfl, hb⟩
    · exact .inr ⟨bs', hmem, hb⟩
  · rintro (⟨rfl, hb⟩ | ⟨bs', hmem, hb⟩)
    · exact ⟨bs, .inl ⟨rfl, rfl⟩, hb⟩
    · exact ⟨bs', .inr hmem, hb⟩

variable [DecidableEq κ]

def push (key : κ) (b : β) : Groups κ β → Groups κ β
  | [] => [(key, [b])]
  | (key', bs) :: rest =>
    if key' = key then (key', bs ++ [b]) :: rest else (key', bs) :: push key b rest

def collect (rows : List (κ × β)) : Groups κ β :=
  rows.foldl (fun groups row => groups.push row.1 row.2) []

theorem holds_push {groups : Groups κ β} :
    (groups.push key b).Holds key' b' ↔ (key' = key ∧ b' = b) ∨ groups.Holds key' b' := by
  induction groups with
  | nil => simp [push, Holds, and_comm]
  | cons group rest ih =>
    obtain ⟨k, bs⟩ := group
    simp only [push]
    split
    · rename_i h
      subst h
      simp only [holds_cons, List.mem_append, List.mem_singleton]
      tauto
    · simp only [holds_cons, ih]
      tauto

theorem holds_collect {rows : List (κ × β)} : (collect rows).Holds key b ↔ (key, b) ∈ rows := by
  induction rows using List.reverseRecOn with
  | nil => simp [collect, Holds]
  | append_singleton rows row ih =>
    have hstep : collect (rows ++ [row]) = (collect rows).push row.1 row.2 := by simp [collect]
    rw [hstep, holds_push, ih, List.mem_append, List.mem_singleton, Prod.ext_iff, or_comm]

theorem mem_keys_push {groups : Groups κ β} :
    key' ∈ (groups.push key b).map Prod.fst ↔ key' = key ∨ key' ∈ groups.map Prod.fst := by
  induction groups with
  | nil => simp [push]
  | cons group rest ih =>
    simp only [push]
    split
    · rename_i h
      simp [h]
    · simp only [List.map_cons, List.mem_cons, ih]
      tauto

theorem nodup_push {groups : Groups κ β} (h : (groups.map Prod.fst).Nodup) :
    ((groups.push key b).map Prod.fst).Nodup := by
  induction groups with
  | nil => simp [push]
  | cons group rest ih =>
    obtain ⟨hnew, hrest⟩ := List.nodup_cons.mp h
    simp only [push]
    split
    · exact h
    · rename_i hne
      refine List.nodup_cons.mpr ⟨fun hmem => ?_, ih hrest⟩
      rcases mem_keys_push.mp hmem with heq | hmem
      · exact hne heq
      · exact hnew hmem

theorem nodup_collect (rows : List (κ × β)) : ((collect rows).map Prod.fst).Nodup := by
  induction rows using List.reverseRecOn with
  | nil => simp [collect]
  | append_singleton rows row ih =>
    have hstep : collect (rows ++ [row]) = (collect rows).push row.1 row.2 := by simp [collect]
    rw [hstep]
    exact nodup_push ih

end Groups

end NimbusPos.Lib

/-!
# Running totals under keys

An entry is made for a key when it first comes up, and each row is added to the entry of its key.
What an entry measures, if a row adds its weight to it, is the sum of the rows of its key, and all
entries together measure the sum of all rows.
-/

namespace NimbusPos.Lib

abbrev Tally (κ β : Type) := List (κ × β)

namespace Tally

variable {κ α β M : Type} [DecidableEq κ]

/-- The entry of the key is changed, a new one if there is none. -/
def upsert (key : κ) (new : β) (f : β → β) : Tally κ β → Tally κ β
  | [] => [(key, f new)]
  | (key', b) :: rest =>
    if key' = key then (key', f b) :: rest else (key', b) :: upsert key new f rest

variable (key : α → κ) (new : α → β) (add : α → β → β)

def collect (rows : List α) : Tally κ β :=
  rows.foldl (fun t row => t.upsert (key row) (new row) (add row)) []

theorem collect_append (rows : List α) (row : α) :
    collect key new add (rows ++ [row]) =
      (collect key new add rows).upsert (key row) (new row) (add row) := by
  simp [collect]

theorem mem_keys_upsert {t : Tally κ β} {f : β → β} :
    k ∈ (t.upsert key' b f).map Prod.fst ↔ k = key' ∨ k ∈ t.map Prod.fst := by
  induction t with
  | nil => simp [upsert]
  | cons entry rest ih =>
    simp only [upsert]
    split
    · rename_i h
      simp [h]
    · simp only [List.map_cons, List.mem_cons, ih]
      tauto

theorem mem_keys_collect {rows : List α} :
    k ∈ (collect key new add rows).map Prod.fst ↔ ∃ row ∈ rows, key row = k := by
  induction rows using List.reverseRecOn with
  | nil => simp [collect]
  | append_singleton rows row ih =>
    rw [collect_append, mem_keys_upsert, ih]
    simp only [List.mem_append, List.mem_singleton, or_and_right, exists_or, exists_eq_left]
    rw [or_comm, eq_comm]

variable [AddCommMonoid M] {m : β → M} {w : α → M}

theorem upsert_sum {t : Tally κ β} {f : β → β} {m : κ → β → M} {v : M} (hnew : m key' b = 0)
    (hf : ∀ b, m key' (f b) = m key' b + v) :
    ((t.upsert key' b f).map fun entry => m entry.1 entry.2).sum =
      (t.map fun entry => m entry.1 entry.2).sum + v := by
  induction t with
  | nil => simp [upsert, hf, hnew]
  | cons entry rest ih =>
    simp only [upsert]
    split
    · rename_i hkey
      subst hkey
      simp only [List.map_cons, List.sum_cons, hf]
      rw [add_right_comm]
    · simp only [List.map_cons, List.sum_cons, ih, add_assoc]

/-- Rows that are added to entries add what they weigh, under a measure that may depend on the
key. -/
theorem foldl_upsert_sum {m : κ → β → M} (hnew : ∀ row, m (key row) (new row) = 0)
    (hadd : ∀ row b, m (key row) (add row b) = m (key row) b + w row) (start : Tally κ β)
    (rows : List α) :
    ((rows.foldl (fun t row => t.upsert (key row) (new row) (add row)) start).map
        fun entry => m entry.1 entry.2).sum =
      (start.map fun entry => m entry.1 entry.2).sum + (rows.map w).sum := by
  induction rows generalizing start with
  | nil => simp
  | cons row rows ih =>
    rw [List.foldl_cons, ih, upsert_sum (hnew row) (hadd row), List.map_cons, List.sum_cons,
      add_assoc]

/-- All entries together measure the sum of all rows. -/
theorem collect_sum (hnew : ∀ row, m (new row) = 0)
    (hadd : ∀ row b, m (add row b) = m b + w row) (rows : List α) :
    ((collect key new add rows).map fun entry => m entry.2).sum = (rows.map w).sum := by
  have hsum := foldl_upsert_sum key new add (m := fun _ b => m b) hnew hadd [] rows
  rwa [List.map_nil, List.sum_nil, zero_add] at hsum

/-- An entry of another key stays, and that of the key is new or changed. -/
theorem mem_upsert {t : Tally κ β} {f : β → β} (hkeys : (t.map Prod.fst).Nodup)
    (h : (k, b) ∈ t.upsert key' b' f) :
    (k ≠ key' ∧ (k, b) ∈ t) ∨ (k = key' ∧ ∃ old, (key', old) ∈ t ∧ f old = b) ∨
      (k = key' ∧ key' ∉ t.map Prod.fst ∧ f b' = b) := by
  induction t with
  | nil =>
    obtain ⟨rfl, rfl⟩ := Prod.mk.inj (List.mem_singleton.mp h)
    exact .inr (.inr ⟨rfl, List.not_mem_nil, rfl⟩)
  | cons entry rest ih =>
    obtain ⟨hfresh, hrest⟩ := List.nodup_cons.mp hkeys
    simp only [upsert] at h
    split at h
    · rename_i hkey
      subst hkey
      rcases List.mem_cons.mp h with heq | hmem
      · obtain ⟨rfl, rfl⟩ := Prod.mk.inj heq
        exact .inr (.inl ⟨rfl, _, .head _, rfl⟩)
      · refine .inl ⟨?_, .tail _ hmem⟩
        rintro rfl
        exact hfresh (List.mem_map.mpr ⟨_, hmem, rfl⟩)
    · rename_i hkey
      rcases List.mem_cons.mp h with heq | hmem
      · obtain ⟨rfl, rfl⟩ := Prod.mk.inj heq
        exact .inl ⟨hkey, .head _⟩
      · rcases ih hrest hmem with ⟨hne, hold⟩ | ⟨rfl, old, hold, hb⟩ | ⟨rfl, hnone, hb⟩
        · exact .inl ⟨hne, .tail _ hold⟩
        · exact .inr (.inl ⟨rfl, old, .tail _ hold, hb⟩)
        · refine .inr (.inr ⟨rfl, fun hmem => ?_, hb⟩)
          rcases List.mem_cons.mp hmem with heq | hmem
          · exact hkey heq.symm
          · exact hnone hmem

theorem nodup_upsert {t : Tally κ β} {f : β → β} (h : (t.map Prod.fst).Nodup) :
    ((t.upsert key' b f).map Prod.fst).Nodup := by
  induction t with
  | nil => simp [upsert]
  | cons entry rest ih =>
    obtain ⟨hfresh, hrest⟩ := List.nodup_cons.mp h
    simp only [upsert]
    split
    · exact h
    · rename_i hne
      refine List.nodup_cons.mpr ⟨fun hmem => ?_, ih hrest⟩
      rcases mem_keys_upsert.mp hmem with heq | hmem
      · exact hne heq
      · exact hfresh hmem

theorem nodup_collect (rows : List α) : ((collect key new add rows).map Prod.fst).Nodup := by
  induction rows using List.reverseRecOn with
  | nil => exact .nil
  | append_singleton rows row ih =>
    rw [collect_append]
    exact nodup_upsert ih

/-- An entry measures the sum of the rows of its key. -/
theorem collect_entry (hnew : ∀ row, m (new row) = 0)
    (hadd : ∀ row b, m (add row b) = m b + w row) {rows : List α}
    (h : (k, b) ∈ collect key new add rows) :
    m b = ((rows.filter fun row => key row = k).map w).sum := by
  induction rows using List.reverseRecOn generalizing k b with
  | nil => cases h
  | append_singleton rows row ih =>
    rw [collect_append] at h
    rw [List.filter_append, List.map_append, List.sum_append, List.filter_singleton]
    rcases mem_upsert (nodup_collect key new add rows) h with
      ⟨hne, hold⟩ | ⟨rfl, old, hold, rfl⟩ | ⟨rfl, hnone, rfl⟩
    · simp [ih hold, hne.symm]
    · simp [hadd, ih hold]
    · have hempty : rows.filter (fun other => key other = key row) = [] := by
        rw [List.filter_eq_nil_iff]
        intro other hother
        simp only [decide_eq_true_eq]
        exact fun hkey => hnone ((mem_keys_collect key new add).mpr ⟨other, hother, hkey⟩)
      simp [hadd, hnew, hempty]

theorem mem_of_lookup {t : Tally κ β} (h : t.lookup k = some b) : (k, b) ∈ t := by
  obtain ⟨front, back, rfl, -⟩ := List.lookup_eq_some_iff.mp h
  simp

/-- What is read under a key, nothing when no row has it. -/
theorem collect_lookup (hnew : ∀ row, m (new row) = 0)
    (hadd : ∀ row b, m (add row b) = m b + w row) (rows : List α) (k : κ) :
    (((collect key new add rows).lookup k).map m).getD 0 =
      ((rows.filter fun row => key row = k).map w).sum := by
  cases h : (collect key new add rows).lookup k with
  | some b => exact collect_entry key new add hnew hadd (mem_of_lookup h)
  | none =>
    have hempty : rows.filter (fun row => key row = k) = [] := by
      rw [List.filter_eq_nil_iff]
      intro row hrow
      simp only [decide_eq_true_eq]
      intro hkey
      obtain ⟨entry, hentry, hsame⟩ :=
        List.mem_map.mp ((mem_keys_collect key new add).mpr ⟨row, hrow, hkey⟩)
      simpa [hsame] using List.lookup_eq_none_iff.mp h entry hentry
    simp [hempty]

end Tally

end NimbusPos.Lib
