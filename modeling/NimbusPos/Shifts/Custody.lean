import NimbusPos.Shifts.Service

/-!
# Shifts and their tills

A user has one open shift in a branch, a till code one open session, and a closed shift
none; a session is reconciled once. Each rule is checked by a read before the write that
could break it, and holds in a run while each write still finds what was checked.
-/

namespace NimbusPos.CashControl

open Lib Lib.Program

/-- The tills that were reconciled, one entry each time. -/
structure World where
  store : Store
  reconciliations : List Id := []

namespace World

def exec (w : World) (k : Statement) : World × Except HttpError k.Answer :=
  let r := CashControl.exec w.store k
  ({ store := r.1
     reconciliations := match k with
      | .updateReconciled tillId _ =>
        if (w.store.tillSessions.get? tillId).isSome then tillId :: w.reconciliations
        else w.reconciliations
      | _ => w.reconciliations }, r.2)

def wait (w : World) (ms : Nat) : World :=
  { w with store := { w.store with clock := w.store.clock + ms } }

/-- A write finds what its call had checked. -/
def stillGood (w : World) : Statement → Prop
  | .createShift row => numberTaken w.store row = true ∨
      w.store.shifts.findFirst (isOpenShift row.branchId row.openedById) = none
  | .updateClosed shiftId _ => w.store.tillSessions.count (isOpenTillOf shiftId) = 0
  | .createTill row => (∀ shift ∈ w.store.shifts.get? row.shiftId, shift.status = .open) ∧
      w.store.tillSessions.findFirst (isOpenTill row.branchId row.tillCode) = none
  | .updateReconciled tillId _ =>
    ∀ till ∈ w.store.tillSessions.get? tillId, till.status = .open
  | _ => True

instance (w : World) : (k : Statement) → Decidable (w.stillGood k)
  | .createShift _ => inferInstanceAs (Decidable (_ ∨ _))
  | .updateClosed .. => inferInstanceAs (Decidable (_ = _))
  | .createTill row => inferInstanceAs (Decidable
      ((∀ shift ∈ w.store.shifts.get? row.shiftId, shift.status = .open) ∧ _))
  | .updateReconciled tillId _ => inferInstanceAs (Decidable
      (∀ till ∈ w.store.tillSessions.get? tillId, till.status = .open))
  | .now | .findOpenShift .. | .lastShiftNumber _ | .findShift .. | .countOpenTills _
  | .summarise .. | .createSummary _ | .findOpenTill .. | .createMovement _ | .findTill ..
  | .computeExpectedCash .. => .isTrue trivial

end World

-- ---
-- The rules
-- ---

/-- The branch and the user of an open shift. -/
def openShiftOf (shift : Shift) : Option (Id × Id) :=
  if shift.status = .open then some (shift.branchId, shift.openedById) else none

/-- The branch and the code of an open till. -/
def openTillOf (till : TillSession) : Option (Id × String) :=
  if till.status = .open then some (till.branchId, till.tillCode) else none

structure Rules (w : World) : Prop where
  oneShift : w.store.shifts.UniqueOn openShiftOf
  oneSession : w.store.tillSessions.UniqueOn openTillOf
  closed : ∀ tillId till shift, w.store.tillSessions.get? tillId = some till →
    till.status = .open → w.store.shifts.get? till.shiftId = some shift → shift.status ≠ .closed
  once : w.reconciliations.Nodup

structure Sound (w : World) : Prop extends Rules w where
  finished : ∀ tillId ∈ w.reconciliations,
    ∃ till, w.store.tillSessions.get? tillId = some till ∧ till.status ≠ .open

/-- A shift is created open. -/
def World.opens : Statement → Prop
  | .createShift row => row.status = .open
  | _ => True

variable {w : World} {k : Statement}

theorem isOpenShift_iff {shift : Shift} :
    isOpenShift branchId userId shiftId shift = true ↔
      openShiftOf shift = some (branchId, userId) := by
  simp [isOpenShift, openShiftOf, and_comm, and_assoc]

theorem isOpenTill_iff {till : TillSession} :
    isOpenTill branchId tillCode tillId till = true ↔
      openTillOf till = some (branchId, tillCode) := by
  simp [isOpenTill, openTillOf, and_comm, and_assoc]

theorem openShiftOf_some {shift : Shift} (h : openShiftOf shift = some x) :
    shift.status = .open ∧ (shift.branchId, shift.openedById) = x := by
  simpa only [openShiftOf, Option.ite_none_right_eq_some, Option.some.injEq] using h

theorem openTillOf_some {till : TillSession} (h : openTillOf till = some x) :
    till.status = .open ∧ (till.branchId, till.tillCode) = x := by
  simpa only [openTillOf, Option.ite_none_right_eq_some, Option.some.injEq] using h

section

variable (h : Sound w)
include h

theorem Sound.createShift (hopen : row.status = .open) (hgood : w.stillGood (.createShift row)) :
    Sound (w.exec (.createShift row)).1 := by
  simp only [World.exec, CashControl.exec]
  split
  · exact h
  · rename_i htaken
    have hnone := Table.findFirst_none.mp (hgood.resolve_left htaken)
    refine ⟨⟨h.oneShift.insert ?_, h.oneSession, ?_, h.once⟩, h.finished⟩
    · intro shiftId other x hget hkey hother
      obtain ⟨-, rfl⟩ := openShiftOf_some hkey
      exact Bool.eq_false_iff.mp (hnone shiftId other hget) (isOpenShift_iff.mpr hother)
    · intro tillId till shift htill hstatus hshift
      rcases Table.insert_cases hshift with ⟨-, rfl⟩ | hshift
      · simp [hopen]
      · exact h.closed tillId till shift htill hstatus hshift

/-- A shift that closes has no open till. -/
theorem Sound.updateClosed (hgood : w.stillGood (.updateClosed shiftId closedAt)) :
    Sound (w.exec (.updateClosed shiftId closedAt)).1 := by
  refine ⟨⟨h.oneShift.update ?_ shiftId, h.oneSession, ?_, h.once⟩, h.finished⟩
  · intro shift x hkey
    obtain ⟨hopen, -⟩ := openShiftOf_some hkey
    cases hopen
  · intro tillId till shift htill hstatus hshift
    have hshift' : (w.store.shifts.update shiftId fun shift =>
        { shift with status := .closed, closedAt := some closedAt }).get? till.shiftId =
          some shift := hshift
    rcases Table.update_cases hshift' with ⟨hmine, -⟩ | ⟨-, hshift'⟩
    · have hnot := Table.count_eq_zero.mp hgood tillId till htill
      simp [isOpenTillOf, hmine, hstatus] at hnot
    · exact h.closed tillId till shift htill hstatus hshift'

/-- A till that opens is of an open shift, and the only one of its code. -/
theorem Sound.createTill (hgood : w.stillGood (.createTill row)) :
    Sound (w.exec (.createTill row)).1 := by
  obtain ⟨hshifts, hcodes⟩ := hgood
  have hnone := Table.findFirst_none.mp hcodes
  refine ⟨⟨h.oneShift, h.oneSession.insert ?_, ?_, h.once⟩, fun tillId hmem => ?_⟩
  · intro tillId other x hget hkey hother
    obtain ⟨-, rfl⟩ := openTillOf_some hkey
    exact Bool.eq_false_iff.mp (hnone tillId other hget) (isOpenTill_iff.mpr hother)
  · intro tillId till shift htill hstatus hshift
    have htill' : (w.store.tillSessions.insert { row with openedAt := w.store.clock }).get? tillId =
        some till := htill
    rcases Table.insert_cases htill' with ⟨-, rfl⟩ | htill'
    · simp [hshifts shift hshift]
    · exact h.closed tillId till shift htill' hstatus hshift
  · obtain ⟨till, hget, hstatus⟩ := h.finished tillId hmem
    exact ⟨till, Table.get?_insert_of_some hget, hstatus⟩

/-- A till that is reconciled was open, so it had not been reconciled. -/
theorem Sound.updateReconciled (hgood : w.stillGood (.updateReconciled tillId data)) :
    Sound (w.exec (.updateReconciled tillId data)).1 := by
  have hback (id : Id) (till : TillSession)
      (hget : (w.store.tillSessions.update tillId (reconciled data)).get? id = some till)
      (hopen : till.status = .open) : w.store.tillSessions.get? id = some till := by
    rcases Table.update_cases hget with ⟨-, _, -, rfl⟩ | ⟨-, hget⟩
    · cases hopen
    · exact hget
  have hsessions : (w.store.tillSessions.update tillId (reconciled data)).UniqueOn openTillOf := by
    refine h.oneSession.update (fun till x hkey => ?_) tillId
    obtain ⟨hopen, -⟩ := openTillOf_some hkey
    cases hopen
  have hclosed (id : Id) (till : TillSession) (shift : Shift)
      (htill : (w.store.tillSessions.update tillId (reconciled data)).get? id = some till)
      (hopen : till.status = .open) (hshift : w.store.shifts.get? till.shiftId = some shift) :
      shift.status ≠ .closed :=
    h.closed id till shift (hback id till htill hopen) hopen hshift
  have hfinished (id : Id) (hid : id ∈ w.reconciliations) : ∃ till,
      (w.store.tillSessions.update tillId (reconciled data)).get? id = some till ∧
        till.status ≠ .open := by
    obtain ⟨till, hget, hstatus⟩ := h.finished id hid
    rw [Table.get?_update, hget]
    split
    · exact ⟨reconciled data till, rfl, by rintro ⟨⟩⟩
    · exact ⟨till, rfl, hstatus⟩
  simp only [World.exec, CashControl.exec]
  split
  · rename_i hsome
    obtain ⟨till, hget⟩ := Option.isSome_iff_exists.mp hsome
    refine ⟨⟨h.oneShift, hsessions, hclosed, List.nodup_cons.mpr ⟨fun hmem => ?_, h.once⟩⟩, ?_⟩
    · obtain ⟨other, hother, hstatus⟩ := h.finished tillId hmem
      exact hstatus (hgood other hother)
    · intro id hmem
      rcases List.mem_cons.mp hmem with rfl | hmem
      · exact ⟨reconciled data till, by rw [Table.get?_update_self, hget]; rfl, by rintro ⟨⟩⟩
      · exact hfinished id hmem
  · exact ⟨⟨h.oneShift, hsessions, hclosed, h.once⟩, hfinished⟩

theorem Sound.exec (hopens : World.opens k) (hgood : w.stillGood k) : Sound (w.exec k).1 := by
  cases k with
  | createShift row => exact h.createShift hopens hgood
  | updateClosed shiftId closedAt => exact h.updateClosed hgood
  | createTill row => exact h.createTill hgood
  | updateReconciled tillId data => exact h.updateReconciled hgood
  | _ => exact ⟨⟨h.oneShift, h.oneSession, h.closed, h.once⟩, h.finished⟩

end

-- ---
-- Calls
-- ---

def custodyDiscipline : Discipline fun _ => World.exec where
  inv := Sound
  rely _ := .same fun _ => ()
  needs _ _ := World.opens
  allowed := World.stillGood
  keeps _ _ _ h hopens hgood := ⟨h.exec hopens hgood, fun _ _ => rfl⟩

/-- Shifts and tills are created open. -/
def World.createsOpen : Statement → Prop
  | .createShift row => row.status = .open
  | .createTill row => row.status = .open
  | _ => True

theorem always_program {D : Discipline fun _ => World.exec}
    (hneeds : ∀ i w k, World.createsOpen k → D.needs i w k) (call : DrawerCall) :
    Always D i call.program := by
  cases call with
  | openShift userId ctx =>
    refine always_bind (always_statement fun _ _ => hneeds _ _ _ trivial) fun _ => ?_
    refine always_ensure fun _ => ?_
    refine always_bind (always_statement fun _ _ => hneeds _ _ _ trivial) fun _ => ?_
    exact always_bind (always_statement fun _ _ => hneeds _ _ _ rfl) fun _ => always_pure _
  | closeShift shiftId ctx =>
    refine always_bind (always_statement fun _ _ => hneeds _ _ _ trivial) fun _ => ?_
    refine always_need fun _ _ => always_ensure fun _ => ?_
    refine always_bind (always_statement fun _ _ => hneeds _ _ _ trivial) fun _ => ?_
    refine always_ensure fun _ => ?_
    refine always_bind (always_statement fun _ _ => hneeds _ _ _ trivial) fun _ => ?_
    refine always_bind (always_statement fun _ _ => hneeds _ _ _ trivial) fun _ => ?_
    refine always_bind (always_statement fun _ _ => hneeds _ _ _ trivial) fun _ => ?_
    exact always_bind (always_statement fun _ _ => hneeds _ _ _ trivial) fun _ => always_pure _
  | openTill userId ctx dto =>
    refine always_bind (always_statement fun _ _ => hneeds _ _ _ trivial) fun _ => ?_
    refine always_need fun _ _ => ?_
    refine always_bind (always_statement fun _ _ => hneeds _ _ _ trivial) fun _ => ?_
    refine always_ensure fun _ => ?_
    refine always_bind (always_statement fun _ _ => hneeds _ _ _ rfl) fun _ => ?_
    exact always_bind (always_statement fun _ _ => hneeds _ _ _ trivial) fun _ => always_pure _
  | reconcileTill tillId ctx dto =>
    refine always_bind (always_statement fun _ _ => hneeds _ _ _ trivial) fun _ => ?_
    refine always_need fun _ _ => always_ensure fun _ => ?_
    refine always_bind (always_statement fun _ _ => hneeds _ _ _ trivial) fun _ => ?_
    refine always_ensure fun _ => ?_
    refine always_bind (always_statement fun _ _ => hneeds _ _ _ trivial) fun _ => ?_
    exact always_bind (always_statement fun _ _ => hneeds _ _ _ trivial) fun _ => always_pure _

theorem program_always (call : DrawerCall) : Always custodyDiscipline i call.program := by
  refine always_program (fun _ _ k hopen => ?_) call
  cases k with
  | createShift row => exact hopen
  | _ => trivial

-- ---
-- Every interleaving
-- ---

abbrev DrawerPool := Pool World (DrawerProgram Reply)

abbrev take : DrawerPool → Turn → DrawerPool := Turn.take (fun _ => World.exec) World.wait

/-- The calls, none of which has started. -/
def requested (s : Store) (calls : List DrawerCall) : DrawerPool where
  shared := { store := s }
  threads := calls.map (·.program)

def branch : BranchContext := ⟨0, 0⟩

theorem float_nonneg : (0 : Cents) ≤ 5000 := by decide

def till (tillCode : String) : TillsService.OpenTillDto where
  tillCode := tillCode
  openingFloat := 5000
  openingFloat_nonneg := float_nonneg

def counts (countedCash : Cents) (h : 0 ≤ countedCash) : TillsService.ReconcileTillDto where
  countedCash := countedCash
  countedCash_nonneg := h

theorem empty_rules : Rules { store := {} } := by
  refine ⟨?_, ?_, ?_, .nil⟩
  · rintro j k a b x ⟨⟩
  · rintro j k a b x ⟨⟩
  · rintro tillId till shift ⟨⟩

/-- A user opens two shifts at once; two users open a till of one code; a shift closes while
a till opens for it; a till is reconciled twice at once. -/
def broken : List (List DrawerCall × List Turn) :=
  [([.openShift 1 branch, .openShift 1 branch],
      times 1 0 ++ times 1 1 ++ times 3 0 ++ times 3 1),
    ([.openShift 1 branch, .openTill 1 branch (till "A"), .openTill 1 branch (till "A")],
      times 3 0 ++ times 2 1 ++ times 2 2 ++ times 2 1 ++ times 2 2),
    ([.openShift 1 branch, .openTill 1 branch (till "A"), .closeShift 0 branch],
      times 3 0 ++ times 2 1 ++ times 6 2 ++ times 2 1),
    ([.openShift 1 branch, .openTill 1 branch (till "A"),
        .reconcileTill 0 branch (counts 5000 float_nonneg),
        .reconcileTill 0 branch (counts 5000 float_nonneg)],
      times 3 0 ++ times 4 1 ++ times 3 2 ++ times 3 3 ++ times 1 2 ++ times 1 3)]

end NimbusPos.CashControl
