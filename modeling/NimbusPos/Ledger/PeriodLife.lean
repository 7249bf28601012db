import Mathlib.Data.Set.Lattice
import Mathlib.Order.CompletePartialOrder
import Mathlib.Order.Interval.Set.Basic
import NimbusPos.Ledger.FiscalPeriods

/-!
# The life of a fiscal period

The periods of an organisation are disjoint, each goes through its statuses in order and is
closed once, by one run. Each rule is checked by a read before the write that could break it,
and holds in a run while each write still finds what was checked.
-/

namespace NimbusPos.FiscalPeriods

open Lib Lib.Program

-- ---
-- The rules
-- ---

/-- A status that a statement writes, over the one it finds; a period begins as a draft. -/
structure Move where
  periodId : Id
  old : Option FiscalPeriodStatus
  new : FiscalPeriodStatus
  deriving DecidableEq, Repr

/-- One step along the statuses, or none. -/
def Move.inOrder (m : Move) : Bool :=
  m.old == some m.new || [(none, .draft), (some .draft, .open), (some .open, .closed),
    (some .closed, .locked)].contains (m.old, m.new)

/-- The status moves that were written, the last one first. -/
structure World where
  store : Books
  moves : List Move := []

namespace World

def status? (w : World) (periodId : Id) : Option FiscalPeriodStatus :=
  (w.store.fiscalPeriods.get? periodId).map (·.status)

/-- What a statement writes, where it finds a row. -/
def moved (w : World) : Statement → Option Move
  | .createPeriod row => some ⟨w.store.fiscalPeriods.next, none, row.status⟩
  | .updateOpened periodId => (w.status? periodId).map fun old => ⟨periodId, some old, .open⟩
  | .recordClose _ periodId _ => (w.status? periodId).map fun old => ⟨periodId, some old, .closed⟩
  | .updateLocked periodId => (w.status? periodId).map fun old => ⟨periodId, some old, .locked⟩
  | _ => none

def exec (w : World) (k : Statement) : World × Except HttpError k.Answer :=
  let r := FiscalPeriods.exec w.store k
  ({ store := r.1, moves := (w.moved k).toList ++ w.moves }, r.2)

def wait (w : World) (ms : Nat) : World :=
  { w with store := { w.store with clock := w.store.clock + ms } }

/-- The periods that were closed, one entry each time. -/
def closings (w : World) : List Id := (w.moves.filter (·.new == .closed)).map (·.periodId)

/-- A write finds what its call had checked, or has nothing to change. -/
def stillGood (w : World) : Statement → Prop
  | .createPeriod row => w.store.fiscalPeriods.findFirst
      (overlaps row.orgId row.startsAt row.endsAt) = none
  | .updateOpened periodId => ∀ status ∈ w.status? periodId, status = .draft ∨ status = .open
  | .recordClose _ periodId _ => ∀ status ∈ w.status? periodId, status = .open
  | .updateLocked periodId => ∀ status ∈ w.status? periodId, status = .closed ∨ status = .locked
  | _ => True

instance (w : World) : (k : Statement) → Decidable (w.stillGood k)
  | .createPeriod _ => inferInstanceAs (Decidable (_ = _))
  | .updateOpened periodId => inferInstanceAs (Decidable
      (∀ status ∈ w.status? periodId, status = .draft ∨ status = .open))
  | .recordClose _ periodId _ => inferInstanceAs (Decidable
      (∀ status ∈ w.status? periodId, status = .open))
  | .updateLocked periodId => inferInstanceAs (Decidable
      (∀ status ∈ w.status? periodId, status = .closed ∨ status = .locked))
  | .now | .findOverlapping .. | .findPeriod .. | .aggregate .. => .isTrue trivial

end World

/-- The times of a period, both ends among them. -/
def span (period : FiscalPeriod) : Set Time := Set.Icc period.startsAt period.endsAt

/-- The period is past its close. -/
def World.finished (w : World) (periodId : Id) : Prop :=
  w.status? periodId = some .closed ∨ w.status? periodId = some .locked

structure Rules (w : World) : Prop where
  disjoint : ∀ j k a b, w.store.fiscalPeriods.get? j = some a →
    w.store.fiscalPeriods.get? k = some b → j ≠ k → a.orgId = b.orgId →
    Disjoint (span a) (span b)
  inOrder : ∀ m ∈ w.moves, m.inOrder = true
  once : w.closings.Nodup
  oneRun : w.store.periodCloseRuns.UniqueOn fun run => some run.fiscalPeriodId
  runs : ∀ runId run, w.store.periodCloseRuns.get? runId = some run → w.finished run.fiscalPeriodId

structure Sound (w : World) : Prop extends Rules w where
  closed : ∀ periodId ∈ w.closings, w.finished periodId

/-- A period is created as a draft, and a run is that of the period it closes. -/
def World.ready : Statement → Prop
  | .createPeriod row => row.status = .draft
  | .recordClose _ periodId run => run.fiscalPeriodId = periodId
  | _ => True

variable {w : World} {k : Statement}

theorem not_overlaps {period : FiscalPeriod} (h : overlaps orgId startsAt endsAt j period = false)
    (horg : period.orgId = orgId) : Disjoint (span period) (Set.Icc startsAt endsAt) := by
  rw [Set.disjoint_left]
  rintro time ⟨hstarts, hends⟩ ⟨hstarts', hends'⟩
  have hmeets : overlaps orgId startsAt endsAt j period = true := by
    simp only [overlaps, horg, beq_self_eq_true, Bool.true_and, Bool.and_eq_true,
      decide_eq_true_eq]
    exact ⟨hstarts.trans hends', hstarts'.trans hends⟩
  exact Bool.eq_false_iff.mp h hmeets

theorem closings_cons (s : Books) (m : Move) (moves : List Move) :
    ({ store := s, moves := m :: moves } : World).closings =
      if m.new = .closed then m.periodId :: ({ store := s, moves } : World).closings
      else ({ store := s, moves } : World).closings := by
  simp only [World.closings, List.filter_cons, beq_iff_eq]
  split <;> rfl

section

variable (h : Sound w)
include h

theorem Sound.createPeriod (hdraft : row.status = .draft)
    (hgood : w.stillGood (.createPeriod row)) : Sound (w.exec (.createPeriod row)).1 := by
  have hnone := Table.findFirst_none.mp hgood
  have hfinished (id : Id) (hid : w.finished id) : (w.exec (.createPeriod row)).1.finished id := by
    have hkept (status : FiscalPeriodStatus) (hstatus : w.status? id = some status) :
        (w.exec (.createPeriod row)).1.status? id = some status := by
      obtain ⟨period, hget, hs⟩ := Option.map_eq_some_iff.mp hstatus
      exact Option.map_eq_some_iff.mpr ⟨period, Table.get?_insert_of_some hget, hs⟩
    exact hid.imp (hkept _) (hkept _)
  have hclosings : (w.exec (.createPeriod row)).1.closings = w.closings := by
    simp [World.exec, World.closings, World.moved, hdraft]
  refine ⟨⟨?_, ?_, hclosings ▸ h.once, h.oneRun, fun runId run hrun => ?_⟩, fun id hid => ?_⟩
  · intro j k a b hj hk hjk horg
    replace hj : (w.store.fiscalPeriods.insert row).get? j = some a := hj
    replace hk : (w.store.fiscalPeriods.insert row).get? k = some b := hk
    rcases Table.insert_cases hj with ⟨hj', rfl⟩ | hj <;>
      rcases Table.insert_cases hk with ⟨hk', rfl⟩ | hk
    · exact absurd (hj'.trans hk'.symm) hjk
    · exact (not_overlaps (hnone k b hk) horg.symm).symm
    · exact not_overlaps (hnone j a hj) horg
    · exact h.disjoint j k a b hj hk hjk horg
  · rintro m (_ | ⟨_, hm⟩)
    · rw [hdraft]
      rfl
    · exact h.inOrder m hm
  · exact hfinished _ (h.runs runId run hrun)
  · exact hfinished id (h.closed id (hclosings ▸ hid))

/-- A status that is written over one it may follow. -/
theorem Sound.written {data : FiscalPeriod → FiscalPeriod} {runs : Table PeriodCloseRun}
    (hget : w.store.fiscalPeriods.get? periodId = some period)
    (hdata : ∀ p, (data p).orgId = p.orgId ∧ span (data p) = span p ∧ (data p).status = new)
    (horder : Move.inOrder ⟨periodId, some period.status, new⟩ = true)
    (hstays : period.status = .closed ∨ period.status = .locked → new = .closed ∨ new = .locked)
    (hclosed : new = .closed → periodId ∉ w.closings)
    (hone : runs.UniqueOn fun run => some run.fiscalPeriodId)
    (hruns : ∀ runId run, runs.get? runId = some run →
      w.store.periodCloseRuns.get? runId = some run ∨
        run.fiscalPeriodId = periodId ∧ new = .closed) :
    Sound
      { store := { w.store with
          fiscalPeriods := w.store.fiscalPeriods.update periodId data, periodCloseRuns := runs }
        moves := ⟨periodId, some period.status, new⟩ :: w.moves } := by
  have hspans : Table.SameRows (fun p => (p.orgId, span p)) w.store.fiscalPeriods
      (w.store.fiscalPeriods.update periodId data) :=
    .update fun p => by rw [(hdata p).1, (hdata p).2.1]
  have hmine : (w.store.fiscalPeriods.update periodId data).get? periodId = some (data period) := by
    simp [hget]
  have hfinished (id : Id) (hid : w.finished id) :
      ((w.store.fiscalPeriods.update periodId data).get? id).map (·.status) = some .closed ∨
        ((w.store.fiscalPeriods.update periodId data).get? id).map (·.status) = some .locked := by
    by_cases hid' : id = periodId
    · subst hid'
      rw [hmine, Option.map_some, (hdata period).2.2]
      refine (hstays ?_).imp (congrArg some) (congrArg some)
      simpa [World.finished, World.status?, hget] using hid
    · rwa [Table.get?_update_ne _ _ hid']
  have hcloses (hnew : new = .closed) :
      ((w.store.fiscalPeriods.update periodId data).get? periodId).map (·.status) =
        some .closed := by
    rw [hmine, Option.map_some, (hdata period).2.2, hnew]
  refine ⟨⟨?_, ?_, ?_, hone, ?_⟩, ?_⟩
  · intro j k a b hj hk hjk horg
    obtain ⟨a', hj', ha⟩ := hspans.back hj
    obtain ⟨b', hk', hb⟩ := hspans.back hk
    simp only [Prod.mk.injEq] at ha hb
    rw [ha.2, hb.2]
    exact h.disjoint j k a' b' hj' hk' hjk (ha.1.symm.trans (horg.trans hb.1))
  · rintro m (_ | ⟨_, hm⟩)
    · exact horder
    · exact h.inOrder m hm
  · rw [closings_cons]
    split
    · rename_i hnew
      exact List.nodup_cons.mpr ⟨hclosed hnew, h.once⟩
    · exact h.once
  · intro runId run hrun
    rcases hruns runId run hrun with hrun | ⟨hid, hnew⟩
    · exact hfinished _ (h.runs runId run hrun)
    · rw [hid]
      exact .inl (hcloses hnew)
  · intro id hid
    rw [closings_cons] at hid
    split at hid
    · rename_i hnew
      rcases List.mem_cons.mp hid with rfl | hid
      · exact .inl (hcloses hnew)
      · exact hfinished id (h.closed id hid)
    · exact hfinished id (h.closed id hid)

theorem Sound.setStatus {new : FiscalPeriodStatus}
    (hget : w.store.fiscalPeriods.get? periodId = some period)
    (horder : Move.inOrder ⟨periodId, some period.status, new⟩ = true)
    (hstays : period.status = .closed ∨ period.status = .locked → new = .closed ∨ new = .locked)
    (hnew : new ≠ .closed) :
    Sound
      { store := FiscalPeriods.setStatus w.store periodId new
        moves := ⟨periodId, some period.status, new⟩ :: w.moves } :=
  h.written hget (fun _ => ⟨rfl, rfl, rfl⟩) horder hstays (fun hclosed => absurd hclosed hnew)
    h.oneRun fun _ _ hrun => .inl hrun

theorem Sound.updateOpened (hgood : w.stillGood (.updateOpened periodId)) :
    Sound (w.exec (.updateOpened periodId)).1 := by
  simp only [World.exec, FiscalPeriods.exec, updated, World.moved, World.status?]
  cases hget : w.store.fiscalPeriods.get? periodId with
  | none => exact h
  | some period =>
    have hstatus : period.status = .draft ∨ period.status = .open :=
      hgood period.status (by simp [World.status?, hget])
    refine h.setStatus hget ?_ ?_ (by decide)
    · rcases hstatus with hs | hs <;> simp [hs, Move.inOrder]
    · rcases hstatus with hs | hs <;> simp [hs]

theorem Sound.updateLocked (hgood : w.stillGood (.updateLocked periodId)) :
    Sound (w.exec (.updateLocked periodId)).1 := by
  simp only [World.exec, FiscalPeriods.exec, updated, World.moved, World.status?]
  cases hget : w.store.fiscalPeriods.get? periodId with
  | none => exact h
  | some period =>
    have hstatus : period.status = .closed ∨ period.status = .locked :=
      hgood period.status (by simp [World.status?, hget])
    refine h.setStatus hget ?_ (fun _ => .inr rfl) (by decide)
    rcases hstatus with hs | hs <;> simp [hs, Move.inOrder]

/-- A period that closes was open, so it was not closed before and has no run. -/
theorem Sound.recordClose (hready : row.fiscalPeriodId = periodId)
    (hgood : w.stillGood (.recordClose userId periodId row)) :
    Sound (w.exec (.recordClose userId periodId row)).1 := by
  simp only [World.exec, FiscalPeriods.exec, updated, World.moved, World.status?]
  cases hget : w.store.fiscalPeriods.get? periodId with
  | none => exact h
  | some period =>
    have hopen : period.status = .open := hgood period.status (by simp [World.status?, hget])
    have hunfinished : ¬w.finished periodId := by
      simp [World.finished, World.status?, hget, hopen]
    refine h.written hget (fun _ => ⟨rfl, rfl, rfl⟩) ?_ (fun _ => .inl rfl) ?_ ?_ ?_
    · simp [hopen, Move.inOrder]
    · exact fun _ hid => hunfinished (h.closed periodId hid)
    · refine h.oneRun.insert ?_
      rintro runId other x hother ⟨rfl⟩ hkey
      refine hunfinished ?_
      rw [← hready, ← Option.some.inj hkey]
      exact h.runs runId other hother
    · intro runId other hother
      rcases Table.insert_cases hother with ⟨-, rfl⟩ | hother
      · exact .inr ⟨hready, rfl⟩
      · exact .inl hother

theorem Sound.exec (hready : World.ready k) (hgood : w.stillGood k) : Sound (w.exec k).1 := by
  cases k with
  | createPeriod row => exact h.createPeriod hready hgood
  | updateOpened periodId => exact h.updateOpened hgood
  | recordClose userId periodId run => exact h.recordClose hready hgood
  | updateLocked periodId => exact h.updateLocked hgood
  | _ => exact h

end

-- ---
-- Every interleaving
-- ---

def periodDiscipline : Discipline fun _ => World.exec where
  inv := Sound
  rely _ := .same fun _ => ()
  needs _ _ := World.ready
  allowed := World.stillGood
  keeps _ _ _ h hready hgood := ⟨h.exec hready hgood, fun _ _ => rfl⟩

theorem checkPeriod_always (orgId periodId : Id) (verb : String) (status : FiscalPeriodStatus) :
    Always periodDiscipline i (checkPeriod orgId periodId verb status) := by
  refine always_bind (always_statement fun _ _ => trivial) fun _ => always_need fun _ _ => ?_
  exact always_ensure fun _ => always_pure _

theorem program_always (call : PeriodCall) : Always periodDiscipline i call.program := by
  cases call with
  | createFiscalPeriod orgId dto =>
    refine always_ensure fun _ => always_bind (always_statement fun _ _ => trivial) fun found => ?_
    cases found with
    | some row => exact always_throw _
    | none => exact always_bind (always_statement fun _ _ => rfl) fun _ => always_pure _
  | openFiscalPeriod orgId periodId =>
    refine always_bind (checkPeriod_always _ _ _ _) fun _ => ?_
    exact always_bind (always_statement fun _ _ => trivial) fun _ => always_pure _
  | closeFiscalPeriod userId orgId periodId notes =>
    refine always_bind (checkPeriod_always _ _ _ _) fun _ => ?_
    refine always_bind (always_statement fun _ _ => trivial) fun _ => ?_
    refine always_bind (always_statement fun _ _ => trivial) fun _ => ?_
    exact always_bind (always_statement fun _ _ => rfl) fun _ => always_pure _
  | lockFiscalPeriod orgId periodId =>
    refine always_bind (checkPeriod_always _ _ _ _) fun _ => ?_
    exact always_bind (always_statement fun _ _ => trivial) fun _ => always_pure _

abbrev PeriodPool := Pool World (PeriodProgram Reply)

abbrev take : PeriodPool → Turn → PeriodPool := Turn.take (fun _ => World.exec) World.wait

/-- The calls, none of which has started. -/
def requested (s : Books) (calls : List PeriodCall) : PeriodPool where
  shared := { store := s }
  threads := calls.map (·.program)

/-- In any interleaving whose writes still find what was checked, the rules hold. -/
theorem pool_periods (hrules : Rules { store := s })
    (hrun : Run take (fun p t => t.asks World.stillGood p) (requested s calls) turns p) :
    Rules p.shared := by
  have hsafe : SafePool periodDiscipline (fun _ _ _ => True) (requested s calls) := by
    refine ⟨⟨hrules, fun _ hmem => absurd hmem List.not_mem_nil⟩, fun i x hx => ?_⟩
    simp only [requested, List.getElem?_map, Option.map_eq_some_iff] at hx
    obtain ⟨call, -, rfl⟩ := hx
    exact program_always call _
  have hwait (w : World) (ms : Nat) (h : Sound w) :
      Sound (w.wait ms) ∧ ∀ i, (periodDiscipline.rely i).rel w (w.wait ms) :=
    ⟨⟨⟨h.disjoint, h.inOrder, h.once, h.oneRun, h.runs⟩, h.closed⟩, fun _ => rfl⟩
  exact (hsafe.run (fun _ _ _ _ _ _ => trivial) hwait hrun).inv.toRules

theorem empty_rules : Rules { store := {} } := by
  refine ⟨?_, fun m hm => absurd hm List.not_mem_nil, .nil, ?_, ?_⟩
  · rintro j k a b ⟨⟩
  · rintro j k a b x ⟨⟩
  · rintro runId run ⟨⟩

def period (name : String) (startsAt endsAt : Day) : PeriodCall :=
  .createFiscalPeriod 0 { name, startsAt := midnight startsAt, endsAt := midnight endsAt }

/-- A period goes through its life, and the next one follows it; what overlaps is refused. -/
theorem pool_periods_quarters :
    let calls := [period "Q1" 0 89, period "Q2" 90 180, period "March" 60 90,
      .openFiscalPeriod 0 0, .closeFiscalPeriod 7 0 0 none, .lockFiscalPeriod 0 0,
      .openFiscalPeriod 0 1]
    let turns := times 2 0 ++ times 2 1 ++ times 2 2 ++ times 2 3 ++ [.wait 60000] ++
      times 4 4 ++ times 2 5 ++ times 2 6
    let p := turns.foldl take (requested {} calls)
    p.shared.status? 0 = some .locked ∧ p.shared.status? 1 = some .open ∧
      p.shared.status? 2 = none ∧ p.shared.closings = [0] ∧ Rules p.shared := by
  intro calls turns p
  have hrun : Run take (fun p t => t.asks World.stillGood p) (requested {} calls) turns p :=
    Run.of_holds (by decide +kernel)
  exact ⟨by decide +kernel, by decide +kernel, by decide +kernel, by decide +kernel,
    pool_periods empty_rules hrun⟩

/-- Two periods are created over one another; a late open reopens a closed period; two calls
close a period; a late close takes the lock off. -/
def broken : List (List PeriodCall × List Turn) :=
  [([period "Q1" 0 89, period "March" 60 90], times 1 0 ++ times 1 1 ++ times 1 0 ++ times 1 1),
    ([period "Q1" 0 89, .openFiscalPeriod 0 0, .openFiscalPeriod 0 0,
        .closeFiscalPeriod 7 0 0 none],
      times 2 0 ++ times 1 1 ++ times 1 2 ++ times 1 1 ++ times 4 3 ++ times 1 2),
    ([period "Q1" 0 89, .openFiscalPeriod 0 0, .closeFiscalPeriod 7 0 0 none,
        .closeFiscalPeriod 8 0 0 none],
      times 2 0 ++ times 2 1 ++ times 3 2 ++ times 3 3 ++ times 1 2 ++ times 1 3),
    ([period "Q1" 0 89, .openFiscalPeriod 0 0, .closeFiscalPeriod 7 0 0 none,
        .closeFiscalPeriod 8 0 0 none, .lockFiscalPeriod 0 0],
      times 2 0 ++ times 2 1 ++ times 3 2 ++ times 3 3 ++ times 1 2 ++ times 2 4 ++ times 1 3)]

theorem Rules.apart (h : Rules w) (hne : periodId ≠ otherId) (time : Time) :
    ∀ a ∈ w.store.fiscalPeriods.get? periodId, ∀ b ∈ w.store.fiscalPeriods.get? otherId,
      a.orgId = b.orgId →
      ¬((a.startsAt ≤ time ∧ time ≤ a.endsAt) ∧ b.startsAt ≤ time ∧ time ≤ b.endsAt) := by
  rintro a ha b hb horg ⟨hmem, hmem'⟩
  exact Set.disjoint_left.mp (h.disjoint periodId otherId a b ha hb hne horg) hmem hmem'

theorem pool_periods_broken :
    ¬(∀ (s : Books) (calls : List PeriodCall) (turns : List Turn) (p : PeriodPool),
      Rules { store := s } → Run take (fun _ _ => True) (requested s calls) turns p →
      Rules p.shared) ∧
    ∀ run ∈ broken, ¬Rules (run.2.foldl take (requested {} run.1)).shared := by
  have hruns : ∀ run ∈ broken, ¬Rules (run.2.foldl take (requested {} run.1)).shared := by
    intro run hrun h
    simp only [broken, List.mem_cons, List.not_mem_nil, or_false] at hrun
    rcases hrun with rfl | rfl | rfl | rfl
    · exact absurd (h.apart Nat.zero_ne_one (midnight 70)) (by decide +kernel)
    · exact absurd h.inOrder (by decide +kernel)
    · exact absurd h.once (by decide +kernel)
    · exact absurd h.inOrder (by decide +kernel)
  refine ⟨fun h => ?_, hruns⟩
  exact hruns _ (.head _) (h {} _ _ _ empty_rules (Run.foldl _ _ _))

end NimbusPos.FiscalPeriods
