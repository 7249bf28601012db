import Mathlib.Tactic.Ring
import NimbusPos.Accounting.Schema
import NimbusPos.Lib.Paging
import NimbusPos.Lib.Tally

/-!
# Aging buckets

Open documents are sorted into five buckets by the days since they fell due. The buckets of
several documents add up bucket by bucket.
-/

namespace NimbusPos

open Lib

inductive AgingBucket
  | current
  | days1to30
  | days31to60
  | days61to90
  | days90plus
  deriving DecidableEq, Repr

/-- `Math.floor` of the days from a due date to a time in milliseconds. -/
def daysFrom (dueDate referenceDate : Int) : Int := (referenceDate - dueDate * 86400000) / 86400000

/-- Five totals, and one of them all that is kept on its own. -/
@[ext] structure Buckets where
  current : Cents := 0
  days1to30 : Cents := 0
  days31to60 : Cents := 0
  days61to90 : Cents := 0
  days90plus : Cents := 0
  total : Cents := 0
  deriving DecidableEq, Repr

namespace Buckets

def get (b : Buckets) : AgingBucket → Cents
  | .current => b.current
  | .days1to30 => b.days1to30
  | .days31to60 => b.days31to60
  | .days61to90 => b.days61to90
  | .days90plus => b.days90plus

/-- An amount is put into a bucket, and to the total. -/
def put (b : Buckets) (bucket : AgingBucket) (amount : Cents) : Buckets :=
  let b := { b with total := b.total + amount }
  match bucket with
  | .current => { b with current := b.current + amount }
  | .days1to30 => { b with days1to30 := b.days1to30 + amount }
  | .days31to60 => { b with days31to60 := b.days31to60 + amount }
  | .days61to90 => { b with days61to90 := b.days61to90 + amount }
  | .days90plus => { b with days90plus := b.days90plus + amount }

instance : Zero Buckets := ⟨{}⟩

instance : Add Buckets where
  add a b :=
    { current := a.current + b.current
      days1to30 := a.days1to30 + b.days1to30
      days31to60 := a.days31to60 + b.days31to60
      days61to90 := a.days61to90 + b.days61to90
      days90plus := a.days90plus + b.days90plus
      total := a.total + b.total }

theorem add_def (a b : Buckets) : a + b =
    { current := a.current + b.current
      days1to30 := a.days1to30 + b.days1to30
      days31to60 := a.days31to60 + b.days31to60
      days61to90 := a.days61to90 + b.days61to90
      days90plus := a.days90plus + b.days90plus
      total := a.total + b.total } := rfl

theorem zero_def : (0 : Buckets) = {} := rfl

instance : AddCancelCommMonoid Buckets where
  add_assoc a b c := by simp [add_def, Int.add_assoc]
  zero_add a := by simp [add_def, zero_def]
  add_zero a := by simp [add_def, zero_def]
  add_comm a b := by simp [add_def, Int.add_comm]
  add_left_cancel a b c h := by
    simp only [add_def, Buckets.mk.injEq, add_right_inj] at h
    exact Buckets.ext h.1 h.2.1 h.2.2.1 h.2.2.2.1 h.2.2.2.2.1 h.2.2.2.2.2
  nsmul := nsmulRec

@[simp] theorem get_zero (bucket : AgingBucket) : (0 : Buckets).get bucket = 0 := by
  cases bucket <;> rfl

@[simp] theorem get_add (a b : Buckets) (bucket : AgingBucket) :
    (a + b).get bucket = a.get bucket + b.get bucket := by
  cases bucket <;> rfl

@[simp] theorem total_zero : (0 : Buckets).total = 0 := rfl

@[simp] theorem total_add (a b : Buckets) : (a + b).total = a.total + b.total := rfl

/-- The buckets of one document. -/
def single (bucket : AgingBucket) (amount : Cents) : Buckets := put {} bucket amount

theorem put_eq (b : Buckets) (bucket : AgingBucket) (amount : Cents) :
    b.put bucket amount = b + single bucket amount := by
  cases bucket <;> simp [put, single, add_def]

@[simp] theorem get_single (bucket other : AgingBucket) (amount : Cents) :
    (single bucket amount).get other = if bucket = other then amount else 0 := by
  cases bucket <;> cases other <;> simp [single, put, get]

@[simp] theorem total_single (bucket : AgingBucket) (amount : Cents) :
    (single bucket amount).total = amount := by
  cases bucket <;> simp [single, put]

variable {α : Type} {bucketOf : α → AgingBucket} {owed : α → Cents}

/-- The buckets of all documents. -/
def ofDocs (bucketOf : α → AgingBucket) (owed : α → Cents) (docs : List α) : Buckets :=
  (docs.map fun doc => single (bucketOf doc) (owed doc)).sum

theorem foldl_put (docs : List α) :
    docs.foldl (fun b doc => b.put (bucketOf doc) (owed doc)) {} = ofDocs bucketOf owed docs := by
  induction docs using List.reverseRecOn with
  | nil => rfl
  | append_singleton docs doc ih =>
    rw [List.foldl_append, ih]
    simp [put_eq, ofDocs]

theorem ofDocs_cons (doc : α) (docs : List α) : ofDocs bucketOf owed (doc :: docs) =
    single (bucketOf doc) (owed doc) + ofDocs bucketOf owed docs := rfl

theorem get_ofDocs (docs : List α) (bucket : AgingBucket) :
    (ofDocs bucketOf owed docs).get bucket =
      ((docs.filter fun doc => bucketOf doc = bucket).map owed).sum := by
  induction docs with
  | nil => exact get_zero bucket
  | cons doc docs ih =>
    simp only [ofDocs_cons, get_add, get_single, ih, List.filter_cons, decide_eq_true_eq]
    split <;> simp

theorem total_ofDocs (docs : List α) :
    (ofDocs bucketOf owed docs).total = (docs.map owed).sum := by
  induction docs with
  | nil => rfl
  | cons doc docs ih => simp [ofDocs_cons, ih]

/-- The total is that of the buckets. -/
def Whole (b : Buckets) : Prop :=
  b.total = b.current + b.days1to30 + b.days31to60 + b.days61to90 + b.days90plus

theorem Whole.add (h : Whole a) (h' : Whole b) : Whole (a + b) := by
  simp only [Whole, add_def] at h h' ⊢
  rw [h, h']
  ring

theorem whole_single (bucket : AgingBucket) (amount : Cents) : Whole (single bucket amount) := by
  cases bucket <;> simp [Whole, single, put]

theorem whole_ofDocs (docs : List α) : Whole (ofDocs bucketOf owed docs) := by
  induction docs with
  | nil => rfl
  | cons doc docs ih => exact (whole_single _ _).add ih

/-- Every document is in one of the buckets, which add up to the total. -/
structure Partition (b : Buckets) (docs : List α) (bucketOf : α → AgingBucket)
    (owed : α → Cents) : Prop where
  buckets : ∀ bucket, b.get bucket =
    ((docs.filter fun doc => bucketOf doc = bucket).map owed).sum
  outstanding : b.total = (docs.map owed).sum
  total : b.Whole

theorem partition_ofDocs (docs : List α) :
    Partition (ofDocs bucketOf owed docs) docs bucketOf owed :=
  ⟨get_ofDocs docs, total_ofDocs docs, whole_ofDocs docs⟩

end Buckets

end NimbusPos
