import NimbusPos.AccountsPayable.ServicePeriods

/-!
# One bill for each due date

Calls that follow one another bill a cycle once, whatever is edited between them. The check that
the cycle is not billed and the transaction that bills it are apart, and no unique index joins
them: of calls that overlap, two may find the cycle free.
-/

namespace NimbusPos.AccountsPayableService

open Lib Lib.Program

inductive RecurringRequest
  | generate (ctx : BranchContext) (profileId : Id)
  | update (ctx : BranchContext) (profileId : Id) (dto : UpdateRecurringProfileDto)
  deriving DecidableEq, Repr

def RecurringRequest.program : RecurringRequest → RecurringProgram Id
  | .generate ctx profileId => generateBillFromRecurring ctx profileId
  | .update ctx profileId dto => updateRecurringProfile ctx profileId dto

/-- The cycle that a bill is for. -/
def VendorBillRecord.cycle (bill : VendorBillRecord) : Option (Id × Int) :=
  bill.recurringProfileId.map fun profileId => (profileId, bill.dueDate)

namespace RecurringStore

def wait (s : RecurringStore) (ms : Nat) : RecurringStore := { s with clock := s.clock + ms }

/-- No cycle of a profile has two bills. -/
def OneBill (s : RecurringStore) : Prop := s.bills.UniqueOn VendorBillRecord.cycle

/-- The bills of a profile are of its organisation. -/
def Owned (s : RecurringStore) : Prop :=
  ∀ billId bill profileId, s.bills.get? billId = some bill →
    bill.recurringProfileId = some profileId →
      ∃ profile, s.profiles.get? profileId = some profile ∧ profile.orgId = bill.orgId

/-- A cycle that is billed has no bill, unless the number of the bill is taken. -/
def stillDue (s : RecurringStore) : RecurringStatement → Prop
  | .generate profileId row _ =>
    s.numberTaken row = true ∨ s.findCycle row.orgId profileId row.dueDate = none
  | _ => True

instance (s : RecurringStore) : (k : RecurringStatement) → Decidable (s.stillDue k)
  | .generate .. => inferInstanceAs (Decidable (_ ∨ _))
  | .now | .findProfile .. | .findCycle .. | .lastBill _ | .updateProfile .. => .isTrue trivial

/-- A bill is written for a profile that was found. -/
def ready (s : RecurringStore) : RecurringStatement → Prop
  | .generate profileId row _ => row.recurringProfileId = some profileId ∧
    ∃ profile, s.profiles.get? profileId = some profile ∧ profile.orgId = row.orgId
  | _ => True

def SameOrg (profile new : RecurringBillProfile) : Prop := new.orgId = profile.orgId

theorem SameOrg.refl (profile : RecurringBillProfile) : SameOrg profile profile := rfl

theorem SameOrg.trans (a b c : RecurringBillProfile) (h : SameOrg a b) (h' : SameOrg b c) :
    SameOrg a c := Eq.trans h' h

/-- Profiles stay, and stay with their organisations. -/
def profilesStay : Service.Frame RecurringStore where
  rel s t := Table.Grows SameOrg s.profiles t.profiles
  refl _ := .refl SameOrg.refl _
  trans h h' := Table.Grows.trans SameOrg.trans h h'

variable {s t : RecurringStore} {k : RecurringStatement}

theorem profile_stays (hstay : profilesStay.rel s t)
    (hget : s.profiles.get? profileId = some profile) :
    ∃ new, t.profiles.get? profileId = some new ∧ new.orgId = profile.orgId :=
  Table.Grows.forth hstay profileId profile hget

-- ---
-- One statement
-- ---

theorem generated_profilesStay (s : RecurringStore) (profileId : Id) (row : VendorBillRecord)
    (next : NextCycle) : profilesStay.rel s (s.generated profileId row next) := by
  refine Table.Grows.update SameOrg.refl ?_ _ _
  exact fun _ => rfl

theorem exec_profilesStay (s : RecurringStore) (k : RecurringStatement) :
    profilesStay.rel s (s.exec k).1 := by
  cases k with
  | updateProfile profileId dto =>
    refine Table.Grows.update SameOrg.refl ?_ _ _
    exact fun _ => rfl
  | generate profileId row next =>
    simp only [exec]
    rcases unlessTaken_cases (s.numberTaken row) "(`org_id`,`bill_number`)" s
      (s.generated profileId row next) s.bills.next with ⟨-, hrow⟩ | ⟨-, hrow⟩
    · rw [hrow]
      exact profilesStay.refl s
    · rw [hrow]
      exact generated_profilesStay s profileId row next
  | _ => exact profilesStay.refl s

/-- What the profiles lose nothing of keeps the bills owned. -/
theorem Owned.stay (h : Owned s) (hstay : profilesStay.rel s t) (hbills : t.bills = s.bills) :
    Owned t := by
  intro billId bill profileId hget hprofile
  obtain ⟨profile, hfound, horg⟩ := h billId bill profileId (hbills ▸ hget) hprofile
  obtain ⟨new, hnew, hsame⟩ := profile_stays hstay hfound
  exact ⟨new, hnew, hsame.trans horg⟩

theorem Owned.generated (h : Owned s) (hready : s.ready (.generate profileId row next)) :
    Owned (s.generated profileId row next) := by
  have hstay := generated_profilesStay s profileId row next
  intro billId bill billed hget hprofile
  rcases Table.insert_cases hget with ⟨-, rfl⟩ | hget
  · obtain ⟨hrow, profile, hfound, horg⟩ := hready
    obtain rfl : profileId = billed := Option.some.inj (hrow.symm.trans hprofile)
    obtain ⟨new, hnew, hsame⟩ := profile_stays hstay hfound
    exact ⟨new, hnew, hsame.trans horg⟩
  · obtain ⟨profile, hfound, horg⟩ := h billId bill billed hget hprofile
    obtain ⟨new, hnew, hsame⟩ := profile_stays hstay hfound
    exact ⟨new, hnew, hsame.trans horg⟩

theorem Owned.exec (h : Owned s) (hready : s.ready k) : Owned (s.exec k).1 := by
  cases k with
  | updateProfile profileId dto =>
    exact h.stay (exec_profilesStay s (.updateProfile profileId dto)) rfl
  | generate profileId row next =>
    simp only [RecurringStore.exec]
    rcases unlessTaken_cases (s.numberTaken row) "(`org_id`,`bill_number`)" s
      (s.generated profileId row next) s.bills.next with ⟨-, hrow⟩ | ⟨-, hrow⟩
    · rwa [hrow]
    · rw [hrow]
      exact h.generated hready
  | _ => exact h

/-- A bill more is one for its cycle, exactly if the cycle has none. -/
theorem generated_oneBill (howned : Owned s) (hready : s.ready (.generate profileId row next))
    (h : OneBill s) :
    OneBill (s.generated profileId row next) ↔
      s.findCycle row.orgId profileId row.dueDate = none := by
  obtain ⟨hrow, profile, hfound, horg⟩ := hready
  have hcycle : { row with createdAt := s.clock }.cycle = some (profileId, row.dueDate) := by
    simp [VendorBillRecord.cycle, hrow]
  rw [findCycle, Table.findFirst_none]
  refine (Table.UniqueOn.insert_key_iff h hcycle).trans ?_
  constructor
  · intro hfree billId bill hget
    by_contra hbill
    simp only [Bool.not_eq_false, Bool.and_eq_true, beq_iff_eq] at hbill
    exact hfree billId bill hget (by simp [VendorBillRecord.cycle, hbill.1.2, hbill.2])
  · intro hfree billId bill hget hold
    simp only [VendorBillRecord.cycle, Option.map_eq_some_iff, Prod.mk.injEq] at hold
    obtain ⟨billed, hbilled, rfl, hdue⟩ := hold
    obtain ⟨owner, howner, hbillOrg⟩ := howned billId bill billed hget hbilled
    obtain rfl : profile = owner := Option.some.inj (hfound.symm.trans howner)
    have hmiss := hfree billId bill hget
    simp [hbilled, hdue, ← hbillOrg, horg] at hmiss

theorem exec_oneBill (howned : Owned s) (hready : s.ready k) (h : OneBill s) :
    OneBill (s.exec k).1 ↔ s.stillDue k := by
  cases k with
  | generate profileId row next =>
    simp only [exec, stillDue]
    rcases unlessTaken_cases (s.numberTaken row) "(`org_id`,`bill_number`)" s
      (s.generated profileId row next) s.bills.next with ⟨htaken, hrow⟩ | ⟨htaken, hrow⟩
    · rw [hrow]
      exact iff_of_true h (.inl htaken)
    · rw [hrow, htaken]
      simpa using generated_oneBill howned hready h
  | _ => exact iff_of_true h trivial

end RecurringStore

open RecurringStore

-- ---
-- Calls
-- ---

def recurringDiscipline : Discipline (fun _ => RecurringStore.exec) where
  inv := Owned
  rely _ := profilesStay
  needs _ := ready
  allowed _ _ := True
  keeps _ s k h hready _ := ⟨h.exec hready, fun _ _ => exec_profilesStay s k⟩

/-- The profile is there, in the organisation of the call. -/
def Known (ctx : BranchContext) (profileId : Id) (s : RecurringStore) : Prop :=
  ∃ profile, s.profiles.get? profileId = some profile ∧ profile.orgId = ctx.organizationId

theorem Known.rely (h : Known ctx profileId s) (hstay : profilesStay.rel s t) :
    Known ctx profileId t := by
  obtain ⟨profile, hget, horg⟩ := h
  obtain ⟨new, hnew, hsame⟩ := profile_stays hstay hget
  exact ⟨new, hnew, hsame.trans horg⟩

theorem known_of_findProfile (h : s.findProfile ctx profileId activeOnly = some profile) :
    Known ctx profileId s := by
  obtain ⟨hget, hfound⟩ := Option.filter_eq_some_iff.mp h
  simp only [Bool.and_eq_true, beq_iff_eq] at hfound
  exact ⟨profile, hget, hfound.1.1⟩

theorem cycleDue_safe (h : Known ctx profileId s) (profile : RecurringBillProfile) (now : Time) :
    (cycleDue ctx profileId profile now).Safe recurringDiscipline i
      (fun _ => Known ctx profileId) s := by
  refine safe_read (fun t => t.findCycle ctx.organizationId profileId profile.nextDueDate)
    (fun _ => rfl) (fun _ _ _ => trivial) fun t hst _ => ?_
  have hknown := h.rely hst
  cases t.findCycle ctx.organizationId profileId profile.nextDueDate with
  | some bill => exact hknown
  | none =>
    dsimp only
    cases cadenceElapsed profile now <;> exact hknown

theorem generateBillFromRecurring_always (ctx : BranchContext) (profileId : Id) :
    Always recurringDiscipline i (generateBillFromRecurring ctx profileId) := by
  intro s
  refine safe_read (fun t => t.findProfile ctx profileId true) (fun _ => rfl)
    (fun _ _ _ => trivial) fun t _ _ => ?_
  refine safe_need (fun profile hfound => ?_) fun _ => trivial
  refine safe_read (·.clock) (fun _ => rfl) (fun _ _ _ => trivial) fun u htu _ => ?_
  have hknown := (known_of_findProfile hfound).rely htu
  refine safe_bind ((cycleDue_safe hknown profile u.clock).mono fun result v hknown => ?_)
  cases result with
  | error e => trivial
  | ok _ =>
    refine safe_read (·.lastBill ctx.organizationId) (fun _ => rfl) (fun _ _ _ => trivial)
      fun w hvw _ => ?_
    exact fun x hwx _ => ⟨⟨rfl, (hknown.rely hvw).rely hwx⟩, fun _ => trivial⟩

theorem program_always (request : RecurringRequest) :
    Always recurringDiscipline i request.program := by
  cases request with
  | generate ctx profileId => exact generateBillFromRecurring_always ctx profileId
  | update ctx profileId dto =>
    refine always_bind (always_statement fun _ _ => trivial) fun _ => always_need fun _ _ => ?_
    exact always_bind (always_statement fun _ _ => trivial) fun _ => always_pure _

-- ---
-- One call after the other, and every interleaving
-- ---

/-- A call that comes some time after the one before ended. -/
def takeAlone (s : RecurringStore) (request : Nat × RecurringRequest) : RecurringStore :=
  (request.2.program.run RecurringStore.exec (s.wait request.1)).1

theorem takeAlone_oneBill (howned : Owned s) (h : OneBill s) (request : Nat × RecurringRequest) :
    Owned (takeAlone s request) ∧ OneBill (takeAlone s request) := by
  obtain ⟨ms, ⟨ctx, profileId⟩ | ⟨ctx, profileId, dto⟩⟩ := request
  · rcases generateBillFromRecurring_alone (s.wait ms) ctx profileId with
      hsame | ⟨profile, billNumber, hfound, hcycle, hnew⟩
    · simp only [takeAlone, RecurringRequest.program, hsame]
      exact ⟨howned, h⟩
    · have hready : (s.wait ms).ready (.generate profileId
          (cycleBill ctx profileId profile (s.wait ms).clock billNumber)
          (nextCycle profile (s.wait ms).clock)) := ⟨rfl, known_of_findProfile hfound⟩
      simp only [takeAlone, RecurringRequest.program, hnew]
      exact ⟨Owned.generated howned hready,
        (generated_oneBill (s := s.wait ms) howned hready h).mpr hcycle⟩
  · simp only [takeAlone, RecurringRequest.program, updateRecurringProfile]
    rw [run_bind_ok (run_ask rfl)]
    cases (s.wait ms).findProfile ctx profileId false with
    | none => exact ⟨howned, h⟩
    | some profile =>
      have hupdated := Owned.exec (s := s.wait ms) (k := .updateProfile profileId dto) howned
          trivial
      exact ⟨hupdated, h⟩

abbrev RecurringPool := Pool RecurringStore (RecurringProgram Id)

abbrev takeTurn : RecurringPool → Turn → RecurringPool :=
  Turn.take (fun _ => RecurringStore.exec) RecurringStore.wait

/-- The calls, none of which has started. -/
def requestedBills (s : RecurringStore) (requests : List RecurringRequest) : RecurringPool where
  shared := s
  threads := requests.map (·.program)

/-- Calls that follow each other bill a cycle at most once. Of calls that overlap this holds all
along exactly those runs in which the check of a bill, made again as it is written, still finds
no other of its cycle. -/
theorem one_bill (howned : Owned s) (hstart : OneBill s) :
    (∀ requests : List (Nat × RecurringRequest), OneBill (requests.foldl takeAlone s)) ∧
      ∀ (requests : List RecurringRequest) (turns : List Turn),
        (∀ before later, turns = before ++ later →
          OneBill (before.foldl takeTurn (requestedBills s requests)).shared) ↔
        Run takeTurn (fun p t => t.asks stillDue p) (requestedBills s requests) turns
          (turns.foldl takeTurn (requestedBills s requests)) := by
  refine ⟨fun requests => ?_, fun requests turns => ?_⟩
  · induction requests generalizing s with
    | nil => exact hstart
    | cons request requests ih =>
      obtain ⟨howned, hone⟩ := takeAlone_oneBill howned hstart request
      exact ih howned hone
  · have hsafe : SafePool recurringDiscipline (fun _ _ _ => True) (requestedBills s requests) := by
      refine ⟨howned, fun i x hx => ?_⟩
      simp only [requestedBills, List.getElem?_map, Option.map_eq_some_iff] at hx
      obtain ⟨request, -, rfl⟩ := hx
      exact program_always request _
    have hwait (t : RecurringStore) (ms : Nat) (h : Owned t) :
        Owned (t.wait ms) ∧ ∀ i, (recurringDiscipline.rely i).rel t (t.wait ms) :=
      ⟨h, fun _ => profilesStay.refl t⟩
    exact hsafe.all_iff (fun _ _ _ _ _ _ => trivial) hwait (fun _ _ => trivial) hstart
      (fun _ _ _ howned hready h => exec_oneBill howned hready h) (fun _ _ h => h) turns

/-- The due date of a rent that is billed is set back, and a second call finds the bill. -/
theorem one_bill_rent :
    let requests := [.generate ⟨0, 0⟩ 0, .update ⟨0, 0⟩ 0 { nextDueDate := some 19753 },
      .generate ⟨0, 0⟩ 0]
    let turns := times 5 0 ++ times 2 1 ++ [.wait 604800000] ++ times 5 2
    OneBill (turns.foldl takeTurn (requestedBills rent requests)).shared := by
  intro requests turns
  have howned : Owned rent := fun billId bill _ hget => by simp [rent] at hget
  have hstart : OneBill rent := fun j k a b x hj => by simp [rent] at hj
  have hrun : Run takeTurn (fun p t => t.asks stillDue p) (requestedBills rent requests) turns
      (turns.foldl takeTurn (requestedBills rent requests)) := Run.of_holds (by decide +kernel)
  exact ((one_bill howned hstart).2 requests turns).mpr hrun turns [] (List.append_nil _).symm

/-- Two calls find the cycle free before either has billed it; the second takes the number after
the first one's bill. -/
theorem two_bills :
    ¬(∀ (s : RecurringStore) (requests : List RecurringRequest) (turns : List Turn), Owned s →
      OneBill s → OneBill (turns.foldl takeTurn (requestedBills s requests)).shared) ∧
    let p := (times 3 0 ++ times 3 1 ++ times 2 0 ++ times 2 1).foldl takeTurn
      (requestedBills rent [.generate ⟨0, 0⟩ 0, .generate ⟨0, 0⟩ 0])
    p.threads.map result? = [some (.ok 0), some (.ok 1)] ∧
      p.shared.bills.rows.map (fun row => (row.2.billNumber, row.2.cycle)) =
        [("BILL-000001", some (0, 19753)), ("BILL-000002", some (0, 19753))] := by
  have howned : Owned rent := fun billId bill _ hget => by simp [rent] at hget
  have hstart : OneBill rent := fun j k a b x hj => by simp [rent] at hj
  refine ⟨fun h => ?_, by decide +kernel, by decide +kernel⟩
  let p := (times 3 0 ++ times 3 1 ++ times 2 0 ++ times 2 1).foldl takeTurn
    (requestedBills rent [.generate ⟨0, 0⟩ 0, .generate ⟨0, 0⟩ 0])
  have hone : OneBill p.shared := h rent _ _ howned hstart
  have hfirst : (p.shared.bills.get? 0).bind (·.cycle) = some (0, 19753) := by decide +kernel
  have hsecond : (p.shared.bills.get? 1).bind (·.cycle) = some (0, 19753) := by decide +kernel
  obtain ⟨bill, hget, hcycle⟩ := Option.bind_eq_some_iff.mp hfirst
  obtain ⟨other, hother, hsame⟩ := Option.bind_eq_some_iff.mp hsecond
  exact absurd (hone 0 1 bill other _ hget hother hcycle hsame) (by decide)

end NimbusPos.AccountsPayableService
