import Mathlib.Tactic.Linarith
import NimbusPos.Accounting.Schema

/-!
# Allocations

A payment to a supplier is allocated to bills and a receipt from a customer to
invoices, by the same checks and the same loop. Both read the documents first and
compute what stays open from the rows as they were read. A kind of document is the
columns and texts that the two services differ in.
-/

namespace NimbusPos

open Lib Lib.Service

structure AllocationDto where
  documentId : Id
  amount : Amount
  deriving DecidableEq, Repr

/-- The documents of type `D` that rows of type `A` allocate money to. -/
structure DocumentKind (D A : Type) where
  orgId : D → Id
  branchId : D → Option Id
  counterpartyId : D → Id
  payable : D → Bool
  statusText : D → String
  totalAmount : D → Cents
  outstanding : D → Cents
  /-- The row with what stays open, and whether that is nothing. -/
  settle : Cents → Bool → D → D
  settle_outstanding : ∀ o b d, outstanding (settle o b d) = o
  settle_totalAmount : ∀ o b d, totalAmount (settle o b d) = totalAmount d
  settle_counterpartyId : ∀ o b d, counterpartyId (settle o b d) = counterpartyId d
  allocatedTo : A → Id
  allocatedAmount : A → Cents
  payment : String
  paymentTitle : String
  document : String
  documentTitle : String
  documentMissing : String
  foreign : String
  unpayable : String

variable {D A : Type} (kind : DocumentKind D A)

-- ---
-- The checks
-- ---

namespace DocumentKind

/-- The checks that read the request alone. -/
def requestError (amount : Amount) (allocations : List AllocationDto) : Option AccountingError :=
  let allocTotal := (allocations.map (·.amount)).sum
  if allocations.isEmpty then
    some (bad (kind.paymentTitle ++ " must allocate to at least one " ++ kind.document))
  else if amount ≤ 0 then some (bad (kind.paymentTitle ++ " amount must be positive"))
  else match allocations.find? fun alloc => alloc.amount ≤ 0 with
    | some alloc =>
      some (bad ("Allocation amount for " ++ kind.document ++ " " ++ toString alloc.documentId ++
        " must be positive"))
    | none =>
      if allocTotal ≠ amount then
        some (bad ("Allocation total (" ++ amountText allocTotal ++ ") must equal " ++
          kind.payment ++ " amount (" ++
          amountText amount ++ ")"))
      else none

def findDocuments (documents : Table D) (ctx : BranchContext) (allocations : List AllocationDto) :
    List (Id × D) :=
  documents.findMany fun documentId d =>
    (allocations.map (·.documentId)).contains documentId && kind.orgId d == ctx.organizationId &&
      branchOrOrgScope ctx.branchId (kind.branchId d)

def allocationError (found : List (Id × D)) (counterpartyId : Id) (alloc : AllocationDto) :
    Option AccountingError :=
  let documentId := toString alloc.documentId
  match found.lookup alloc.documentId with
  | none => some (missing (kind.documentMissing ++ " " ++ documentId ++ " not found"))
  | some d =>
    if kind.counterpartyId d ≠ counterpartyId then
      some (bad (kind.documentTitle ++ " " ++ documentId ++ " does not belong to " ++ kind.foreign))
    else if !kind.payable d then
      some (bad (kind.documentTitle ++ " " ++ documentId ++ " is in status \"" ++
        kind.statusText d ++ "\" — only " ++
        kind.unpayable))
    else if alloc.amount > kind.outstanding d then
      some (bad ("Allocation of " ++ amountText alloc.amount ++
        " exceeds outstanding balance of " ++
        amountText (kind.outstanding d) ++ " for " ++ kind.document ++ " " ++ documentId))
    else none

def documentsError (found : List (Id × D)) (counterpartyId : Id)
    (allocations : List AllocationDto) : Option AccountingError :=
  allocations.findSome? (kind.allocationError found counterpartyId)

-- ---
-- The loop
-- ---

/-- What stays open of a document, cut at zero. -/
def outstandingAfter (outstanding : Cents) (amount : Amount) : Cents :=
  if outstanding - amount ≤ 0 then 0 else persist (outstanding - amount)

/-- One turn; `d` is the row as it was read. -/
def allocate (d : D) (amount : Amount) (row : D) : D :=
  kind.settle (outstandingAfter (kind.outstanding d) amount) (kind.outstanding d - amount ≤ 0) row

/-- The documents and the allocations after the loop. -/
def allocateAll (entry : AllocationDto → A) (found : List (Id × D))
    (allocations : List AllocationDto) (tables : Table D × Table A) : Table D × Table A :=
  allocations.foldl (fun (documents, recorded) alloc =>
    match found.lookup alloc.documentId with
    | some d => (documents.update alloc.documentId (kind.allocate d alloc.amount),
        recorded.insert (entry alloc))
    | none => (documents, recorded)) tables

-- ---
-- What the checks guarantee
-- ---

/-- An allocation that the checks let through. -/
structure Covered (found : List (Id × D)) (counterpartyId : Id) (alloc : AllocationDto) : Prop where
  positive : 0 < alloc.amount
  within : ∃ d, found.lookup alloc.documentId = some d ∧ kind.counterpartyId d = counterpartyId ∧
    alloc.amount ≤ kind.outstanding d

variable {kind}

theorem sum_of_requestError (h : kind.requestError amount allocations = none) :
    (∀ alloc ∈ allocations, 0 < alloc.amount) ∧ (allocations.map (·.amount)).sum = amount := by
  unfold requestError at h
  simp only at h
  split at h
  · cases h
  · split at h
    · cases h
    · split at h
      · cases h
      · rename_i hpositive
        split at h
        · cases h
        · rename_i hsum
          refine ⟨?_, Decidable.not_not.mp hsum⟩
          intro alloc halloc
          simpa using List.find?_eq_none.mp hpositive alloc halloc

theorem covered_of_errors {party : Id} (hrequest : kind.requestError amount allocations = none)
    (hfound : kind.documentsError found party allocations = none) :
    ∀ alloc ∈ allocations, kind.Covered found party alloc := by
  intro alloc halloc
  refine ⟨(sum_of_requestError hrequest).1 alloc halloc, ?_⟩
  have hnone := List.findSome?_eq_none_iff.mp hfound alloc halloc
  unfold allocationError at hnone
  simp only at hnone
  split at hnone
  · cases hnone
  · rename_i d hd
    refine ⟨d, hd, ?_⟩
    split at hnone
    · cases hnone
    · rename_i hparty
      split at hnone
      · cases hnone
      · split at hnone
        · cases hnone
        · rename_i hle
          exact ⟨Decidable.not_not.mp hparty, not_lt.mp hle⟩

/-- An allocation of whole cents within what is open. -/
theorem outstandingAfter_cents {outstanding m : Cents} (h : m ≤ outstanding) :
    outstandingAfter outstanding m = outstanding - m := by
  unfold outstandingAfter
  split
  · rename_i hle
    have hle : outstanding - m ≤ 0 := by exact_mod_cast hle
    exact (Int.le_antisymm hle (Int.sub_nonneg_of_le h)).symm
  · rw [← Int.cast_sub, persist_intCast]

-- ---
-- Documents that agree with their allocations
-- ---

variable (kind) in
/-- The sum of the amounts allocated to a document. -/
def allocated (recorded : Table A) (documentId : Id) : Cents :=
  recorded.sumWhere (fun _ a => kind.allocatedTo a == documentId) kind.allocatedAmount

variable (kind) in
/-- What a counterparty's documents leave open. -/
def openOf (documents : Table D) (counterpartyId : Id) : Cents :=
  documents.sumWhere (fun _ d => kind.counterpartyId d == counterpartyId) kind.outstanding

variable (kind) in
/-- Every document leaves open what is not allocated to it, and its status is right. -/
def Balanced (Good : D → Prop) (tables : Table D × Table A) : Prop :=
  ∀ k d, tables.1.get? k = some d →
    kind.outstanding d = kind.totalAmount d - kind.allocated tables.2 k ∧ Good d

variable (kind) in
/-- The document of an allocation has what it had open when it was read. -/
def Unchanged (documents : Table D) (found : List (Id × D)) (alloc : AllocationDto) : Prop :=
  ∀ d ∈ found.lookup alloc.documentId, ∀ row ∈ documents.get? alloc.documentId,
    kind.outstanding row = kind.outstanding d

instance : Decidable (kind.Unchanged documents found alloc) :=
  inferInstanceAs (Decidable (∀ _ ∈ _, ∀ _ ∈ _, _ = _))

variable (kind) in
/-- Whole cents, each document named once, and none changed since it was read. -/
def AsRead (documents : Table D) (found : List (Id × D)) (allocations : List AllocationDto) :
    Prop :=
  (allocations.map (·.documentId)).Nodup ∧
    ∀ alloc ∈ allocations, alloc.amount.den = 1 ∧ kind.Unchanged documents found alloc

instance : Decidable (kind.AsRead documents found allocations) :=
  inferInstanceAs (Decidable (_ ∧ ∀ _ ∈ _, _ ∧ _))

theorem allocate_cents {d row : D} {m : Cents} (hsame : kind.outstanding row = kind.outstanding d)
    (hle : m ≤ kind.outstanding row) :
    kind.allocate d m row =
      kind.settle (kind.outstanding row - m) (kind.outstanding row - m ≤ 0) row := by
  have hstatus : ((kind.outstanding row : ℚ) - m ≤ 0) = (kind.outstanding row - m ≤ 0) := by
    rw [← Int.cast_sub, Int.cast_nonpos]
  unfold allocate
  rw [← hsame, outstandingAfter_cents hle]
  simp only [hstatus]

theorem amount_cents {alloc : AllocationDto} (h : alloc.amount.den = 1) :
    alloc.amount = (alloc.amount.num : ℚ) :=
  ((Rat.den_eq_one_iff _).mp h).symm

variable {Good : D → Prop} {entry : AllocationDto → A}

/-- The rows of an allocation list name the documents and keep the amounts. -/
structure Records (kind : DocumentKind D A) (entry : AllocationDto → A) : Prop where
  allocatedTo : ∀ alloc, kind.allocatedTo (entry alloc) = alloc.documentId
  allocatedAmount : ∀ alloc, kind.allocatedAmount (entry alloc) = persist alloc.amount

theorem allocated_insert (hentry : Records kind entry) (recorded : Table A) (alloc : AllocationDto)
    (k : Id) :
    kind.allocated (recorded.insert (entry alloc)) k =
      kind.allocated recorded k + if alloc.documentId = k then persist alloc.amount else 0 := by
  simp only [allocated, Table.sumWhere_eq_total, Table.total_insert, hentry.allocatedTo,
    hentry.allocatedAmount, beq_iff_eq]

theorem allocateAll_cons (hd : found.lookup alloc.documentId = some d) :
    kind.allocateAll entry found (alloc :: allocations) tables =
      kind.allocateAll entry found allocations
        (tables.1.update alloc.documentId (kind.allocate d alloc.amount),
          tables.2.insert (entry alloc)) := by
  simp only [allocateAll, List.foldl_cons, hd]

/-- One turn of the loop. -/
theorem balanced_turn {tables : Table D × Table A} {alloc : AllocationDto} {d : D}
    (hentry : Records kind entry) (hgood : ∀ d m, Good d → 0 < m → m ≤ kind.outstanding d →
      Good (kind.settle (kind.outstanding d - m) (kind.outstanding d - m ≤ 0) d))
    (h : kind.Balanced Good tables) (hpos : 0 < alloc.amount)
    (hle : alloc.amount ≤ kind.outstanding d) (hcents : alloc.amount.den = 1)
    (hsame : ∀ row, tables.1.get? alloc.documentId = some row →
      kind.outstanding row = kind.outstanding d) :
    kind.Balanced Good
      (tables.1.update alloc.documentId (kind.allocate d alloc.amount),
        tables.2.insert (entry alloc)) := by
  intro k row hrow
  simp only [Table.get?_update] at hrow
  simp only [allocated_insert hentry]
  by_cases hk : k = alloc.documentId
  · subst hk
    rw [if_pos rfl] at hrow ⊢
    obtain ⟨old, hold, rfl⟩ := Option.map_eq_some_iff.mp hrow
    obtain ⟨hopen, hstatus⟩ := h _ old hold
    have hsame := hsame old hold
    have hwithin : alloc.amount.num ≤ kind.outstanding old := by
      rw [amount_cents hcents, ← hsame] at hle
      exact_mod_cast hle
    have hpersist : persist alloc.amount = alloc.amount.num := by
      rw [amount_cents hcents, persist_intCast]
      rfl
    have hsettle := allocate_cents hsame hwithin
    rw [← amount_cents hcents] at hsettle
    rw [hsettle, hpersist, settle_outstanding, settle_totalAmount]
    refine ⟨by linarith, hgood old _ hstatus (Rat.num_pos.mpr hpos) hwithin⟩
  · rw [if_neg hk] at hrow
    rw [if_neg (Ne.symm hk), Int.add_zero]
    exact h k row hrow

/-- Allocations of whole cents to distinct documents that are as they were read. -/
theorem allocateAll_balanced {party : Id} {tables : Table D × Table A} (hentry : Records kind entry)
    (hgood : ∀ d m, Good d → 0 < m → m ≤ kind.outstanding d →
      Good (kind.settle (kind.outstanding d - m) (kind.outstanding d - m ≤ 0) d))
    (h : kind.Balanced Good tables) (hread : kind.AsRead tables.1 found allocations)
    (hcovered : ∀ alloc ∈ allocations, kind.Covered found party alloc) :
    kind.Balanced Good (kind.allocateAll entry found allocations tables) := by
  induction allocations generalizing tables with
  | nil => exact h
  | cons alloc allocations ih =>
    obtain ⟨hnodup, hall⟩ := hread
    rw [List.map_cons, List.nodup_cons] at hnodup
    obtain ⟨hpos, d, hd, _, hle⟩ := hcovered alloc (.head _)
    obtain ⟨hcents, hsame⟩ := hall alloc (.head _)
    rw [allocateAll_cons hd]
    refine ih (balanced_turn hentry hgood h hpos hle hcents (hsame d hd)) ⟨hnodup.2, ?_⟩
      fun other hother => hcovered other (.tail _ hother)
    intro other hother
    obtain ⟨hotherCents, hotherSame⟩ := hall other (.tail _ hother)
    refine ⟨hotherCents, ?_⟩
    intro d' hd' row hrow
    have hne : other.documentId ≠ alloc.documentId :=
      fun heq => hnodup.1 (heq ▸ List.mem_map_of_mem hother)
    rw [Option.mem_def, Table.get?_update_ne _ _ hne] at hrow
    exact hotherSame d' hd' row hrow

/-- The whole cents of an allocation list. -/
def cents (allocations : List AllocationDto) : Cents := (allocations.map (·.amount.num)).sum

theorem cents_cons (alloc : AllocationDto) (allocations : List AllocationDto) :
    cents (alloc :: allocations) = alloc.amount.num + cents allocations := by
  simp [cents]

theorem sum_cents (h : ∀ alloc ∈ allocations, alloc.amount.den = 1) :
    (allocations.map (·.amount)).sum = (cents allocations : ℚ) := by
  induction allocations with
  | nil => rfl
  | cons alloc allocations ih =>
    rw [List.map_cons, List.sum_cons, ih fun other hother =>
      h other (.tail _ hother), cents_cons, Int.cast_add, ← amount_cents (h alloc (.head _))]

/-- The documents found are the rows of the table. -/
def Found (documents : Table D) (found : List (Id × D)) (allocations : List AllocationDto) : Prop :=
  ∀ alloc ∈ allocations, ∀ d, found.lookup alloc.documentId = some d →
    documents.get? alloc.documentId = some d

/-- An allocation list takes its sum off what its counterparty has open. -/
theorem allocateAll_openOf {party : Id} {tables : Table D × Table A}
    (hnodup : (allocations.map (·.documentId)).Nodup)
    (hcents : ∀ alloc ∈ allocations, alloc.amount.den = 1)
    (hfound : Found tables.1 found allocations)
    (hcovered : ∀ alloc ∈ allocations, kind.Covered found party alloc)
    (other : Id) : kind.openOf (kind.allocateAll entry found allocations tables).1 other =
      kind.openOf tables.1 other - if party = other then cents allocations else 0 := by
  induction allocations generalizing tables with
  | nil => simp [allocateAll, cents]
  | cons alloc allocations ih =>
    rw [List.map_cons, List.nodup_cons] at hnodup
    obtain ⟨_, d, hd, hparty, hle⟩ := hcovered alloc (.head _)
    have hrow := hfound alloc (.head _) d hd
    have hamount := amount_cents (hcents alloc (.head _))
    have hwithin : alloc.amount.num ≤ kind.outstanding d := by
      rw [hamount] at hle
      exact_mod_cast hle
    have hsettle : kind.allocate d alloc.amount.num d = _ := allocate_cents rfl hwithin
    rw [← hamount] at hsettle
    have hturn : kind.openOf (tables.1.update alloc.documentId (kind.allocate d alloc.amount))
        other =
        kind.openOf tables.1 other - if party = other then alloc.amount.num else 0 := by
      simp only [openOf, Table.sumWhere_eq_total, Table.total_update hrow, hsettle,
        settle_counterpartyId, settle_outstanding, beq_iff_eq, hparty]
      split
      · ring
      · ring
    rw [allocateAll_cons hd, ih hnodup.2 (fun x hx => hcents x (.tail _ hx)) _ fun x hx =>
      hcovered x (.tail _ hx), hturn]
    · rw [cents_cons]
      split
      · ring
      · ring
    · intro x hx e he
      have hne : x.documentId ≠ alloc.documentId :=
        fun heq => hnodup.1 (heq ▸ List.mem_map_of_mem hx)
      rw [Table.get?_update_ne _ _ hne]
      exact hfound x (.tail _ hx) e he

theorem found_findDocuments :
    Found documents (kind.findDocuments documents ctx allocations) allocations :=
  fun _ _ _ hd => (Table.lookup_findMany.mp hd).1

theorem Found.unchanged (h : Found documents found allocations)
    (hcents : ∀ alloc ∈ allocations, alloc.amount.den = 1)
    (hnodup : (allocations.map (·.documentId)).Nodup) :
    kind.AsRead documents found allocations := by
  refine ⟨hnodup, fun alloc halloc => ⟨hcents alloc halloc, ?_⟩⟩
  intro d hd row hrow
  rw [Option.mem_def.mp hrow |>.symm.trans (h alloc halloc d hd) |> Option.some.inj]

variable (kind) in
/-- Every allocation names a document there is: the foreign key. -/
def Referenced (tables : Table D × Table A) : Prop :=
  ∀ k a, tables.2.get? k = some a → ∃ d, tables.1.get? (kind.allocatedTo a) = some d

theorem allocateAll_referenced {tables : Table D × Table A} (hentry : Records kind entry)
    (h : kind.Referenced tables)
    (hfound : ∀ alloc ∈ allocations, ∀ d, found.lookup alloc.documentId = some d →
      ∃ row, tables.1.get? alloc.documentId = some row) :
    kind.Referenced (kind.allocateAll entry found allocations tables) := by
  induction allocations generalizing tables with
  | nil => exact h
  | cons alloc allocations ih =>
    cases hd : found.lookup alloc.documentId with
    | none =>
      simp only [allocateAll, List.foldl_cons, hd]
      exact ih h fun other hother => hfound other (.tail _ hother)
    | some d =>
      rw [allocateAll_cons hd]
      refine ih ?_ fun other hother d hd => Table.exists_update (hfound other (.tail _ hother) d hd)
      intro k a ha
      refine Table.exists_update ?_
      rcases Table.insert_cases ha with ⟨-, rfl⟩ | ha
      · rw [hentry.allocatedTo]
        exact hfound alloc (.head _) d hd
      · exact h k a ha

/-- A new document has nothing allocated to it. -/
theorem allocated_next {tables : Table D × Table A} (h : kind.Referenced tables) :
    kind.allocated tables.2 tables.1.next = 0 := by
  rw [allocated, Table.sumWhere_eq_total]
  apply Table.total_zero
  intro k a ha
  obtain ⟨d, hd⟩ := h k a ha
  have hne : (kind.allocatedTo a == tables.1.next) = false := by
    simpa using Nat.ne_of_lt (Table.lt_next hd)
  rw [hne]
  rfl

end DocumentKind

end NimbusPos
