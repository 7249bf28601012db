import NimbusPos.Reliability.Sync

/-!
# The life of a sync job

The dispatcher must not be called for a job that was cancelled or has succeeded, nor
more often than the job's attempts allow; the attempts are numbered without gaps; and
a job that succeeded has no open conflict. An execution writes what it decides from a
row read long before: this holds while the row still is as the execution assumes.
-/

namespace NimbusPos.SyncService

open Lib Lib.Program

/-- The job and whether it had been cancelled or had succeeded by then. -/
structure DispatcherCall where
  jobId : Id
  settled : Bool
  deriving DecidableEq, Repr

/-- The store, the calls the dispatcher got, the jobs that were cancelled or have
succeeded, and two places of the executions: the number counted for a job but not
recorded yet, and the attempt recorded but not replayed yet. -/
structure World where
  store : Store
  log : List DispatcherCall := []
  settled : List Id := []
  counted : List (Nat × Id × Nat) := []
  recorded : List (Nat × Id) := []

namespace World

def exec (dispatcher : Store.Dispatcher) (i : Nat) (w : World) (k : Statement) :
    World × Except HttpError k.Answer :=
  let r := w.store.exec dispatcher w.log.length k
  let w := { w with store := r.1 }
  (match k with
    | .markInProgress jobId attemptNo => { w with counted := (i, jobId, attemptNo) :: w.counted }
    | .createAttempt jobId attemptNo =>
      { w with
        counted := w.counted.erase (i, jobId, attemptNo), recorded := (i, jobId) :: w.recorded }
    | .replay jobId _ _ =>
      { w with
        log := w.log ++ [⟨jobId, w.settled.contains jobId⟩],
          recorded := w.recorded.erase (i, jobId) }
    | .succeed jobId _ => { w with settled := jobId :: w.settled }
    | _ => w, r.2)

/-- The numbers recorded for a job. -/
def attemptNos (w : World) (jobId : Id) : List Nat :=
  (w.store.attempts.findMany fun _ attempt => attempt.jobId == jobId).map (·.2.attemptNo)

/-- The numbers that executions have counted for a job and are about to record. -/
def countedNos (w : World) (jobId : Id) : List Nat :=
  (w.counted.filter (·.2.1 == jobId)).map (·.2.2)

/-- How often the dispatcher was called for a job. -/
def calls (w : World) (jobId : Id) : Nat := w.log.countP (·.jobId == jobId)

def hasJob (w : World) (jobId : Id) : Bool := (w.store.jobs.get? jobId).isSome

end World

def SyncJobStatus.ended (status : SyncJobStatus) : Bool :=
  status == .cancelled || status == .succeeded

/-- What holds of every job. -/
structure Lawful (w : World) : Prop where
  unsettled : ∀ call ∈ w.log, call.settled = false
  bounded : ∀ j job, w.store.jobs.get? j = some job → w.calls j ≤ job.maxAttempts
  numbered : ∀ j job, w.store.jobs.get? j = some job →
    (w.attemptNos j ++ w.countedNos j).Perm (List.range' 1 job.attemptCount)
  recorded : ∀ j job, w.store.jobs.get? j = some job → w.countedNos j = [] →
    (w.attemptNos j).Perm (List.range' 1 job.attemptCount)
  quiet : ∀ j job, w.store.jobs.get? j = some job → job.status = .succeeded →
    ∀ c row, w.store.conflicts.get? c = some row → row.jobId = j → row.status ≠ .open

/-- One job, its attempts and its conflicts. -/
structure JobTracked (w : World) (j : Id) (job : SyncJob) : Prop where
  bounded : job.attemptCount ≤ job.maxAttempts
  numbered : (w.attemptNos j ++ w.countedNos j).Perm (List.range' 1 job.attemptCount)
  settled : j ∈ w.settled ↔ job.status.ended = true
  quiet : job.status = .succeeded →
    ∀ c row, w.store.conflicts.get? c = some row → row.jobId = j → row.status ≠ .open

/-- The jobs that rows name are there. -/
structure Known (w : World) : Prop where
  attempts : ∀ a row, w.store.attempts.get? a = some row → w.hasJob row.jobId = true
  conflicts : ∀ c row, w.store.conflicts.get? c = some row → w.hasJob row.jobId = true
  settled : ∀ j ∈ w.settled, w.hasJob j = true
  counted : ∀ entry ∈ w.counted, w.hasJob entry.2.1 = true

structure Tracked (w : World) : Prop where
  jobs : ∀ j job, w.store.jobs.get? j = some job → JobTracked w j job
  unsettled : ∀ call ∈ w.log, call.settled = false
  called : ∀ j, w.calls j + w.recorded.countP (·.2 == j) ≤ (w.attemptNos j).length
  known : Known w

theorem Tracked.lawful (h : Tracked w) : Lawful w where
  unsettled := h.unsettled
  bounded j job hget := by
    have hnumbered := (h.jobs j job hget).numbered.length_eq
    rw [List.length_append, List.length_range'] at hnumbered
    have hcalled := h.called j
    have hbounded := (h.jobs j job hget).bounded
    omega
  numbered j job hget := (h.jobs j job hget).numbered
  recorded j job hget hnone := by
    have hnumbered := (h.jobs j job hget).numbered
    rwa [hnone, List.append_nil] at hnumbered
  quiet j job hget := (h.jobs j job hget).quiet

-- ---
-- The statements
-- ---

/-- What an execution knows of its job. -/
def needs (i : Nat) (w : World) : Statement → Prop
  | .createJob row => row.status = .queued ∧ row.attemptCount = 0
  | .markInProgress jobId _ | .succeed jobId _ | .createConflict _ jobId _ _ =>
    w.hasJob jobId = true
  | .createAttempt jobId attemptNo => (i, jobId, attemptNo) ∈ w.counted
  | .replay jobId _ _ => (i, jobId) ∈ w.recorded
  | .stop _ status _ _ => status.ended = false
  | _ => True

/-- The job is as the execution assumes: it has not ended, it counts what was read and
has an attempt left, and a job that succeeds has no open conflict. -/
def asAssumed (w : World) : Statement → Prop
  | .markInProgress jobId attemptNo => ∀ job ∈ w.store.jobs.get? jobId,
      job.status.ended = false ∧ attemptNo = job.attemptCount + 1 ∧
        job.attemptCount < job.maxAttempts
  | .replay jobId _ _ | .stop jobId _ _ _ | .requeue jobId | .createConflict _ jobId _ _ =>
    ∀ job ∈ w.store.jobs.get? jobId, job.status.ended = false
  | .succeed jobId _ => w.store.conflicts.count (fun _ row =>
      row.jobId == jobId && row.status == .open) = 0
  | _ => True

instance (w : World) : (k : Statement) → Decidable (asAssumed w k)
  | .markInProgress jobId attemptNo => inferInstanceAs (Decidable
      (∀ job ∈ w.store.jobs.get? jobId, job.status.ended = false ∧
        attemptNo = job.attemptCount + 1 ∧ job.attemptCount < job.maxAttempts))
  | .replay jobId _ _ | .stop jobId _ _ _ | .requeue jobId | .createConflict _ jobId _ _ =>
    inferInstanceAs (Decidable (∀ job ∈ w.store.jobs.get? jobId, job.status.ended = false))
  | .succeed jobId _ => inferInstanceAs (Decidable (w.store.conflicts.count (fun _ row =>
      row.jobId == jobId && row.status == .open) = 0))
  | .findJobByKey .. | .findBranch .. | .createJob _ | .findJob _ | .findOpenConflict _
  | .createAttempt .. | .finishAttempt .. | .findConflict .. | .resolve .. => .isTrue trivial

/-- Jobs stay, and so do the places that belong to an execution. -/
def keepsPlaces (i : Nat) : Service.Frame World where
  rel w v := (∀ j, w.hasJob j = true → v.hasJob j = true) ∧
    (∀ entry, (i, entry) ∈ w.counted → (i, entry) ∈ v.counted) ∧
    ∀ j, (i, j) ∈ w.recorded → (i, j) ∈ v.recorded
  refl _ := ⟨fun _ h => h, fun _ h => h, fun _ h => h⟩
  trans h h' := ⟨fun j hj => h'.1 j (h.1 j hj), fun e he => h'.2.1 e (h.2.1 e he),
    fun j hj => h'.2.2 j (h.2.2 j hj)⟩

variable {w v : World}

theorem hasJob_update {f : SyncJob → SyncJob} (h : w.hasJob k = true) :
    { w with store := { w.store with jobs := w.store.jobs.update j f } }.hasJob k = true := by
  obtain ⟨job, hget⟩ := Option.isSome_iff_exists.mp h
  obtain ⟨job', hget'⟩ := Table.exists_update (j := j) (f := f) ⟨job, hget⟩
  exact Option.isSome_iff_exists.mpr ⟨job', hget'⟩

/-- Each job's part of the state may be looked at by itself. -/
theorem JobTracked.congr (h : JobTracked w j job) (hattempts : v.attemptNos j = w.attemptNos j)
    (hcounted : v.countedNos j = w.countedNos j) (hsettled : v.settled = w.settled)
    (hconflicts : v.store.conflicts = w.store.conflicts) : JobTracked v j job := by
  refine ⟨h.bounded, ?_, hsettled ▸ h.settled, hconflicts ▸ h.quiet⟩
  rw [hattempts, hcounted]
  exact h.numbered

-- ---
-- What each write keeps
-- ---

/-- A status that does not end the job, for one that has not ended. -/
theorem Tracked.restatus (h : Tracked w) {f : SyncJob → SyncJob}
    (hbefore : ∀ job ∈ w.store.jobs.get? j, job.status.ended = false)
    (hafter : ∀ job, (f job).status.ended = false ∧ (f job).attemptCount = job.attemptCount ∧
      (f job).maxAttempts = job.maxAttempts) :
    Tracked { w with store := { w.store with jobs := w.store.jobs.update j f } } where
  jobs k job' hget := by
    by_cases hk : k = j
    · subst hk
      rw [Table.get?_update_self] at hget
      obtain ⟨job, hjob, rfl⟩ := Option.map_eq_some_iff.mp hget
      obtain ⟨hended, hcount, hmax⟩ := hafter job
      have htracked := h.jobs k job hjob
      refine ⟨by rw [hcount, hmax]; exact htracked.bounded, ?_, ?_, fun hsucceeded => ?_⟩
      · rw [hcount]
        exact htracked.numbered
      · rw [hended, ← hbefore job hjob]
        exact htracked.settled
      · rw [SyncJobStatus.ended, hsucceeded] at hended
        cases hended
    · rw [Table.get?_update_ne _ _ hk] at hget
      exact (h.jobs k job' hget).congr rfl rfl rfl rfl
  unsettled := h.unsettled
  called := h.called
  known :=
    { attempts := fun a row hget => hasJob_update (h.known.attempts a row hget)
      conflicts := fun c row hget => hasJob_update (h.known.conflicts c row hget)
      settled := fun k hk => hasJob_update (h.known.settled k hk)
      counted := fun entry he => hasJob_update (h.known.counted entry he) }

theorem countedNos_cons (w : World) (i j no k : Nat) :
    { w with counted := (i, j, no) :: w.counted }.countedNos k =
      (if j = k then [no] else []) ++ w.countedNos k := by
  unfold World.countedNos
  rw [List.filter_cons]
  by_cases hk : j = k
  · simp [hk]
  · simp [hk]

/-- The number counted is the next one. -/
theorem Tracked.mark (h : Tracked w) (i : Nat) (hjob : w.hasJob j = true)
    (hassumed : asAssumed w (.markInProgress j attemptNo)) :
    Tracked { w with
      store := { w.store with
        jobs := w.store.jobs.update j fun job =>
          { job with status := .inProgress, attemptCount := job.attemptCount + 1 } }
      counted := (i, j, attemptNo) :: w.counted } where
  jobs k job' hget := by
    by_cases hk : k = j
    · subst hk
      rw [Table.get?_update_self] at hget
      obtain ⟨job, hjob, rfl⟩ := Option.map_eq_some_iff.mp hget
      obtain ⟨hended, hnext, hroom⟩ := hassumed job hjob
      have htracked := h.jobs k job hjob
      refine ⟨hroom, ?_, ?_, fun hsucceeded => by cases hsucceeded⟩
      · show (w.attemptNos k ++ World.countedNos { w with
          counted := (i, k, attemptNo) :: w.counted } k).Perm _
        rw [countedNos_cons, if_pos rfl, List.range'_1_concat, Nat.add_comm 1, ← hnext]
        refine (List.perm_middle (a := attemptNo)).trans ?_
        exact (htracked.numbered.cons attemptNo).trans (List.perm_append_singleton _ _).symm
      · show k ∈ w.settled ↔ false = true
        rw [← hended]
        exact htracked.settled
    · rw [Table.get?_update_ne _ _ hk] at hget
      refine (h.jobs k job' hget).congr rfl ?_ rfl rfl
      show World.countedNos { w with counted := (i, j, attemptNo) :: w.counted } k = _
      rw [countedNos_cons, if_neg (Ne.symm hk)]
      rfl
  unsettled := h.unsettled
  called := h.called
  known :=
    { attempts := fun a row hget => hasJob_update (h.known.attempts a row hget)
      conflicts := fun c row hget => hasJob_update (h.known.conflicts c row hget)
      settled := fun k hk => hasJob_update (h.known.settled k hk)
      counted := fun entry he => by
        rcases List.mem_cons.mp he with rfl | he
        · exact hasJob_update hjob
        · exact hasJob_update (h.known.counted entry he) }

theorem attemptNos_insert (w : World) (j no k : Nat) :
    World.attemptNos { w with
      store := { w.store with
        attempts := w.store.attempts.insert { jobId := j, attemptNo := no } } } k =
      w.attemptNos k ++ if j = k then [no] else [] := by
  unfold World.attemptNos Table.findMany
  simp only [Table.insert, List.filter_append, List.map_append]
  by_cases hk : j = k
  · simp [hk]
  · simp [hk]

/-- A number that an execution has counted is not recorded yet. -/
theorem Tracked.free (h : Tracked w) (hcounted : (i, j, attemptNo) ∈ w.counted) :
    w.store.attemptTaken j attemptNo = false := by
  obtain ⟨job, hget⟩ := Option.isSome_iff_exists.mp (h.known.counted _ hcounted)
  have hnodup : (w.attemptNos j ++ w.countedNos j).Nodup :=
    (h.jobs j job hget).numbered.nodup_iff.mpr List.nodup_range'
  have hmem : attemptNo ∈ w.countedNos j :=
    List.mem_map.mpr ⟨_, List.mem_filter.mpr ⟨hcounted, beq_self_eq_true j⟩, rfl⟩
  have hnot : attemptNo ∉ w.attemptNos j := fun hrecorded =>
    (List.disjoint_of_nodup_append hnodup) hrecorded hmem
  have hnone : w.store.attempts.count (fun _ attempt =>
      attempt.jobId == j && attempt.attemptNo == attemptNo) = 0 := by
    refine Table.count_eq_zero.mpr fun a row hrow => ?_
    rw [Bool.eq_false_iff]
    intro hp
    obtain ⟨hjob, hno⟩ := Bool.and_eq_true_iff.mp hp
    exact hnot (List.mem_map.mpr ⟨(a, row), Table.mem_findMany.mpr ⟨hrow, hjob⟩, eq_of_beq hno⟩)
  rw [Store.attemptTaken, hnone]
  rfl

/-- The number counted is recorded. -/
theorem Tracked.record (h : Tracked w) (hcounted : (i, j, attemptNo) ∈ w.counted) :
    Tracked { w with
      store := { w.store with
        attempts := w.store.attempts.insert { jobId := j, attemptNo } }
      counted := w.counted.erase (i, j, attemptNo), recorded := (i, j) :: w.recorded } where
  jobs k job hget := by
    have htracked := h.jobs k job hget
    refine ⟨htracked.bounded, ?_, htracked.settled, htracked.quiet⟩
    have hperm := ((List.perm_cons_erase hcounted).filter (·.2.1 == k)).map (·.2.2)
    have hcons := countedNos_cons { w with counted := w.counted.erase (i, j, attemptNo) } i j
      attemptNo k
    show (World.attemptNos _ k ++ World.countedNos
      { w with counted := w.counted.erase (i, j, attemptNo) } k).Perm _
    have hinsert := attemptNos_insert w j attemptNo k
    refine (List.Perm.of_eq (congrArg (· ++ _) hinsert)).trans ?_
    rw [List.append_assoc, ← hcons]
    exact (List.Perm.append_left _ hperm.symm).trans htracked.numbered
  unsettled := h.unsettled
  called k := by
    have hinsert := attemptNos_insert w j attemptNo k
    have hcalled := h.called k
    show w.calls k + ((i, j) :: w.recorded).countP (·.2 == k) ≤ (World.attemptNos _ k).length
    refine Nat.le_trans ?_ (Nat.le_of_eq (congrArg List.length hinsert).symm)
    rw [List.countP_cons, List.length_append]
    by_cases hk : j = k
    · simp only [hk, beq_self_eq_true, if_true, List.length_singleton]
      omega
    · simp only [hk, beq_iff_eq, if_false, List.length_nil]
      omega
  known :=
    { h.known with
      attempts := fun a row hget => by
        rcases Table.insert_cases hget with ⟨-, rfl⟩ | hget
        · exact h.known.counted _ hcounted
        · exact h.known.attempts a row hget
      counted := fun entry he => h.known.counted entry (List.mem_of_mem_erase he) }

/-- The dispatcher is called for a job that has not ended. -/
theorem Tracked.replay (h : Tracked w) (hrecorded : (i, j) ∈ w.recorded)
    (hassumed : ∀ job ∈ w.store.jobs.get? j, job.status.ended = false) :
    Tracked { w with
      log := w.log ++ [⟨j, w.settled.contains j⟩], recorded := w.recorded.erase (i, j) } where
  jobs k job hget := (h.jobs k job hget).congr rfl rfl rfl rfl
  unsettled call hcall := by
    rcases List.mem_append.mp hcall with hcall | hcall
    · exact h.unsettled call hcall
    · rw [List.mem_singleton.mp hcall]
      show w.settled.contains j = false
      rw [Bool.eq_false_iff, ne_eq, List.contains_iff_mem]
      intro hsettled
      obtain ⟨job, hget⟩ := Option.isSome_iff_exists.mp (h.known.settled j hsettled)
      have hended := (h.jobs j job hget).settled.mp hsettled
      rw [hassumed job hget] at hended
      cases hended
  called k := by
    have hcalled := h.called k
    rw [(List.perm_cons_erase hrecorded).countP_eq, List.countP_cons] at hcalled
    show (w.log ++ [_]).countP _ + _ ≤ (w.attemptNos k).length
    rw [List.countP_append, List.countP_singleton]
    unfold World.calls at hcalled
    simp only at hcalled ⊢
    omega
  known := ⟨h.known.attempts, h.known.conflicts, h.known.settled, h.known.counted⟩

/-- A job without open conflicts succeeds. -/
theorem Tracked.succeed (h : Tracked w) (hjob : w.hasJob j = true)
    (hquiet : asAssumed w (.succeed j resultRef)) :
    Tracked { w with
      store := { w.store with
        jobs := w.store.jobs.update j fun job =>
          { job with status := .succeeded, resultRef, lastError := none, failureReason := none } }
      settled := j :: w.settled } where
  jobs k job' hget := by
    by_cases hk : k = j
    · subst hk
      rw [Table.get?_update_self] at hget
      obtain ⟨job, hjob, rfl⟩ := Option.map_eq_some_iff.mp hget
      have htracked := h.jobs k job hjob
      refine ⟨htracked.bounded, htracked.numbered, ?_, fun _ c row hrow hrowJob hopen => ?_⟩
      · exact ⟨fun _ => rfl, fun _ => List.mem_cons_self⟩
      · have hnone := Table.count_eq_zero.mp hquiet c row hrow
        rw [hrowJob, hopen] at hnone
        simp at hnone
    · rw [Table.get?_update_ne _ _ hk] at hget
      have htracked := h.jobs k job' hget
      refine ⟨htracked.bounded, htracked.numbered, ?_, htracked.quiet⟩
      rw [← htracked.settled, List.mem_cons]
      exact or_iff_right hk
  unsettled := h.unsettled
  called := h.called
  known :=
    { attempts := fun a row hget => hasJob_update (h.known.attempts a row hget)
      conflicts := fun c row hget => hasJob_update (h.known.conflicts c row hget)
      settled := fun k hk => by
        rcases List.mem_cons.mp hk with rfl | hk
        · exact hasJob_update hjob
        · exact hasJob_update (h.known.settled k hk)
      counted := fun entry he => hasJob_update (h.known.counted entry he) }

/-- A conflict is opened for a job that has not ended. -/
theorem Tracked.dispute (h : Tracked w) (row : SyncConflict) (hjob : w.hasJob row.jobId = true)
    (hassumed : ∀ job ∈ w.store.jobs.get? row.jobId, job.status.ended = false) :
    Tracked { w with store := { w.store with conflicts := w.store.conflicts.insert row } } where
  jobs k job hget := by
    have htracked := h.jobs k job hget
    refine ⟨htracked.bounded, htracked.numbered, htracked.settled, fun hsucceeded c row' hrow hk =>
      ?_⟩
    rcases Table.insert_cases hrow with ⟨-, rfl⟩ | hrow
    · have hended := hassumed job (hk ▸ hget)
      rw [SyncJobStatus.ended, hsucceeded] at hended
      cases hended
    · exact htracked.quiet hsucceeded c row' hrow hk
  unsettled := h.unsettled
  called := h.called
  known :=
    { h.known with
      conflicts := fun c row' hget => by
        rcases Table.insert_cases hget with ⟨-, rfl⟩ | hget
        · exact hjob
        · exact h.known.conflicts c row' hget }

/-- A conflict is closed. -/
theorem Tracked.resolve (h : Tracked w) {f : SyncConflict → SyncConflict}
    (hf : ∀ row, (f row).jobId = row.jobId ∧ (f row).status ≠ .open) :
    Tracked { w with
      store := { w.store with conflicts := w.store.conflicts.update c f } } where
  jobs k job hget := by
    have htracked := h.jobs k job hget
    refine ⟨htracked.bounded, htracked.numbered, htracked.settled, fun hsucceeded b row' hrow hk =>
      ?_⟩
    by_cases hb : b = c
    · subst hb
      rw [Table.get?_update_self] at hrow
      obtain ⟨row, _, rfl⟩ := Option.map_eq_some_iff.mp hrow
      exact (hf row).2
    · rw [Table.get?_update_ne _ _ hb] at hrow
      exact htracked.quiet hsucceeded b row' hrow hk
  unsettled := h.unsettled
  called := h.called
  known :=
    { h.known with
      conflicts := fun b row' hget => by
        by_cases hb : b = c
        · subst hb
          rw [Table.get?_update_self] at hget
          obtain ⟨row, hrow, rfl⟩ := Option.map_eq_some_iff.mp hget
          rw [(hf row).1]
          exact h.known.conflicts b row hrow
        · rw [Table.get?_update_ne _ _ hb] at hget
          exact h.known.conflicts b row' hget }

theorem attemptNos_update (w : World) (a : Id) {f : SyncJobAttempt → SyncJobAttempt}
    (hf : ∀ row, (f row).jobId = row.jobId ∧ (f row).attemptNo = row.attemptNo) (k : Id) :
    World.attemptNos { w with
      store := { w.store with attempts := w.store.attempts.update a f } } k = w.attemptNos k := by
  unfold World.attemptNos Table.findMany
  simp only [Table.update, Table.updateWhere, List.filter_map, List.map_map, Function.comp_def,
    apply_ite SyncJobAttempt.jobId, apply_ite SyncJobAttempt.attemptNo, hf, ite_self]

/-- The rest of an attempt is written. -/
theorem Tracked.finishAttempt (h : Tracked w) {f : SyncJobAttempt → SyncJobAttempt}
    (hf : ∀ row, (f row).jobId = row.jobId ∧ (f row).attemptNo = row.attemptNo) :
    Tracked { w with
      store := { w.store with attempts := w.store.attempts.update a f } } where
  jobs k job hget := (h.jobs k job hget).congr (attemptNos_update w a hf k) rfl rfl rfl
  unsettled := h.unsettled
  called k := by
    rw [attemptNos_update w a hf k]
    exact h.called k
  known :=
    { h.known with
      attempts := fun b row' hget => by
        by_cases hb : b = a
        · subst hb
          rw [Table.get?_update_self] at hget
          obtain ⟨row, hrow, rfl⟩ := Option.map_eq_some_iff.mp hget
          rw [(hf row).1]
          exact h.known.attempts b row hrow
        · rw [Table.get?_update_ne _ _ hb] at hget
          exact h.known.attempts b row' hget }

theorem hasJob_insert (row : SyncJob) (h : w.hasJob k = true) :
    { w with store := { w.store with jobs := w.store.jobs.insert row } }.hasJob k = true := by
  obtain ⟨job, hget⟩ := Option.isSome_iff_exists.mp h
  exact Option.isSome_iff_exists.mpr ⟨job, Table.get?_insert_of_some hget⟩

/-- A job is queued. -/
theorem Tracked.queue (h : Tracked w) (row : SyncJob) (hrow : row.status = .queued)
    (hcount : row.attemptCount = 0) :
    Tracked { w with store := { w.store with jobs := w.store.jobs.insert row } } where
  jobs k job hget := by
    rcases Table.insert_cases hget with ⟨hk, rfl⟩ | hget
    · have hnew (j : Id) (hj : w.hasJob j = true) : j ≠ k := by
        obtain ⟨job, hjob⟩ := Option.isSome_iff_exists.mp hj
        exact hk ▸ Nat.ne_of_lt (Table.lt_next hjob)
      have hattempts : w.attemptNos k = [] := by
        rw [World.attemptNos, List.map_eq_nil_iff, List.eq_nil_iff_forall_not_mem]
        intro entry hentry
        obtain ⟨hget, hjob⟩ := Table.mem_findMany.mp (show (entry.1, entry.2) ∈ _ from hentry)
        exact hnew _ (h.known.attempts _ _ hget) (eq_of_beq hjob)
      have hcounted : w.countedNos k = [] := by
        rw [World.countedNos, List.map_eq_nil_iff, List.filter_eq_nil_iff]
        intro entry hentry hjob
        exact hnew _ (h.known.counted entry hentry) (eq_of_beq hjob)
      refine ⟨by rw [hcount]; exact Nat.zero_le _, ?_, ?_, fun hsucceeded => ?_⟩
      · show (w.attemptNos k ++ w.countedNos k).Perm _
        rw [hattempts, hcounted, hcount]
        exact .nil
      · rw [hrow]
        exact ⟨fun hk => absurd rfl (hnew k (h.known.settled k hk)), fun hended => by cases hended⟩
      · rw [hrow] at hsucceeded
        cases hsucceeded
    · exact (h.jobs k job hget).congr rfl rfl rfl rfl
  unsettled := h.unsettled
  called := h.called
  known :=
    { attempts := fun a attempt hget => hasJob_insert row (h.known.attempts a attempt hget)
      conflicts := fun c conflict hget => hasJob_insert row (h.known.conflicts c conflict hget)
      settled := fun k hk => hasJob_insert row (h.known.settled k hk)
      counted := fun entry he => hasJob_insert row (h.known.counted entry he) }

-- ---
-- Every statement
-- ---

theorem keeps_tracked (dispatcher : Store.Dispatcher) (i : Nat) (w : World) (k : Statement)
    (h : Tracked w) (hneeds : needs i w k) (hassumed : asAssumed w k) :
    Tracked (w.exec dispatcher i k).1 := by
  cases k with
  | findJobByKey | findBranch | findJob | findOpenConflict | findConflict => exact h
  | createJob row =>
    rcases unlessTaken_cases (w.store.jobKeyTaken row) "(orgId, clientMutationId)" w.store _
      (w.store.jobs.next, row) with ⟨-, hexec⟩ | ⟨-, hexec⟩
    all_goals
      unfold World.exec Store.exec
      simp only
      rw [hexec]
    · exact h
    · exact h.queue row hneeds.1 hneeds.2
  | markInProgress jobId attemptNo => exact h.mark i hneeds hassumed
  | createAttempt jobId attemptNo =>
    unfold World.exec Store.exec
    simp only
    rw [h.free hneeds]
    exact h.record hneeds
  | replay jobId job actorUserId => exact h.replay hneeds hassumed
  | finishAttempt attemptId disposition error => exact h.finishAttempt fun _ => ⟨rfl, rfl⟩
  | succeed jobId resultRef => exact h.succeed hneeds hassumed
  | createConflict orgId jobId diffSummary reason =>
    exact h.dispute { orgId, jobId, diffSummary, reason, createdAt := w.store.clock } hneeds
      hassumed
  | stop jobId status lastError failureReason =>
    exact h.restatus hassumed fun _ => ⟨hneeds, rfl, rfl⟩
  | requeue jobId => exact h.restatus hassumed fun _ => ⟨rfl, rfl, rfl⟩
  | resolve conflictId resolution =>
    refine h.resolve fun row => ⟨rfl, ?_⟩
    show (if resolution = .discarded then SyncConflictStatus.dismissed else .resolved) ≠ .open
    split <;> decide

theorem hasJob_exec (dispatcher : Store.Dispatcher) (i : Nat) (k : Statement)
    (h : w.hasJob j = true) : (w.exec dispatcher i k).1.hasJob j = true := by
  cases k with
  | createJob row =>
    rcases unlessTaken_cases (w.store.jobKeyTaken row) "(orgId, clientMutationId)" w.store _
      (w.store.jobs.next, row) with ⟨-, hexec⟩ | ⟨-, hexec⟩
    all_goals
      unfold World.exec Store.exec
      simp only
      rw [hexec]
    · exact h
    · exact hasJob_insert row h
  | markInProgress | succeed | stop | requeue => exact hasJob_update h
  | createAttempt jobId attemptNo =>
    rcases unlessTaken_cases (w.store.attemptTaken jobId attemptNo) "(jobId, attemptNo)" w.store _
      w.store.attempts.next with ⟨-, hexec⟩ | ⟨-, hexec⟩
    all_goals
      unfold World.exec Store.exec
      simp only
      rw [hexec]
      exact h
  | findJobByKey | findBranch | findJob | findOpenConflict | replay | finishAttempt
  | createConflict | findConflict | resolve => exact h

/-- A statement of one execution leaves the places of another alone. -/
theorem keepsPlaces_exec (dispatcher : Store.Dispatcher) (w : World) (k : Statement)
    (hij : j ≠ i) : (keepsPlaces j).rel w (w.exec dispatcher i k).1 := by
  refine ⟨fun jobId h => hasJob_exec dispatcher i k h, fun entry he => ?_, fun jobId he => ?_⟩
  · cases k with
    | markInProgress => exact List.mem_cons_of_mem _ he
    | createAttempt jobId attemptNo =>
      refine (List.mem_erase_of_ne fun heq => hij ?_).mpr he
      exact congrArg Prod.fst heq
    | _ => exact he
  · cases k with
    | createAttempt => exact List.mem_cons_of_mem _ he
    | replay =>
      refine (List.mem_erase_of_ne fun heq => hij ?_).mpr he
      exact congrArg Prod.fst heq
    | _ => exact he

def jobDiscipline (dispatcher : Store.Dispatcher) : Discipline (World.exec dispatcher) where
  inv := Tracked
  rely := keepsPlaces
  needs := needs
  allowed := asAssumed
  keeps i w k h hneeds hassumed :=
    ⟨keeps_tracked dispatcher i w k h hneeds hassumed,
      fun _ hj => keepsPlaces_exec dispatcher w k hj⟩

-- ---
-- Every call
-- ---

section

variable {dispatcher : Store.Dispatcher} {i : Nat} {α : Type}
  {post : Except HttpError α → World → Prop}

/-- A statement, with what its call goes on knowing. -/
theorem safe_query {k : Statement} {f : k.Answer → SyncProgram α}
    (hneeds : ∀ t, (keepsPlaces i).rel w t → needs i t k)
    (hnext : ∀ t a, (keepsPlaces i).rel w t → (t.exec dispatcher i k).2 = .ok a →
      (f a).Safe (jobDiscipline dispatcher) i post (t.exec dispatcher i k).1)
    (hpost : ∀ result t, post result t) :
    (query k >>= f).Safe (jobDiscipline dispatcher) i post w := by
  refine safe_statement (fun t hrely _ => hneeds t hrely) fun t hrely _ _ => ?_
  cases hanswer : (t.exec dispatcher i k).2 with
  | ok a => exact hnext t a hrely hanswer
  | error e => exact hpost _ _

/-- What an execution does after the dispatcher answered. -/
theorem safe_finish (job : SyncJob) (attemptId : Id) (outcome : ReplayOutcome)
    {post : Except HttpError JobResult → World → Prop} (hjob : w.hasJob jobId = true)
    (hpost : ∀ result t, post result t) :
    (finish jobId job attemptId outcome).Safe (jobDiscipline dispatcher) i post w := by
  unfold finish
  split
  · refine safe_query (fun _ _ => trivial) (fun t _ ht _ => ?_) hpost
    refine safe_query (fun u hu => ?_) (fun _ _ _ _ => hpost _ _) hpost
    exact hu.1 jobId (hasJob_exec dispatcher i _ (ht.1 jobId hjob))
  · split
    · refine safe_query (fun t ht => ht.1 jobId hjob) (fun t _ ht _ => ?_) hpost
      refine safe_query (fun _ _ => trivial) (fun u _ _ _ => ?_) hpost
      exact safe_query (fun _ _ => rfl) (fun _ _ _ _ => hpost _ _) hpost
    · refine safe_query (fun _ _ => trivial) (fun t _ _ _ => ?_) hpost
      refine safe_query (fun _ _ => ?_) (fun _ _ _ _ => hpost _ _) hpost
      show SyncJobStatus.ended (if _ then _ else _) = false
      split <;> rfl

theorem safe_executeJob (actorUserId jobId : Id) (w : World)
    {post : Except HttpError JobResult → World → Prop} (hpost : ∀ result t, post result t) :
    (executeJob actorUserId jobId).Safe (jobDiscipline dispatcher) i post w := by
  refine safe_query (fun _ _ => trivial) (fun t found _ hfound => ?_) hpost
  refine safe_need (fun job hget => ?_) fun _ => hpost _ _
  have hjob : t.hasJob jobId = true := by
    obtain rfl : t.store.jobs.get? jobId = found := Except.ok.inj hfound
    rw [World.hasJob, hget]
    rfl
  cases job.status with
  | succeeded => exact hpost _ _
  | conflict => exact safe_query (fun _ _ => trivial) (fun _ _ _ _ => hpost _ _) hpost
  | queued | inProgress | failed | retryable | cancelled =>
    refine safe_query (fun u hu => hu.1 jobId hjob) (fun u _ hu _ => ?_) hpost
    have hmarked := hasJob_exec dispatcher i (.markInProgress jobId (job.attemptCount + 1))
      (hu.1 jobId hjob)
    refine safe_query (fun v hv => hv.2.1 _ List.mem_cons_self) (fun v attemptId hv _ => ?_) hpost
    have hattempted := hasJob_exec dispatcher i (.createAttempt jobId (job.attemptCount + 1))
      (hv.1 jobId hmarked)
    refine safe_query (fun x hx => hx.2.2 _ List.mem_cons_self) (fun x answer hx _ => ?_) hpost
    have hreplayed := hasJob_exec dispatcher i (.replay jobId job actorUserId)
      (hx.1 jobId hattempted)
    cases answer with
    | ok outcome => exact safe_finish job attemptId outcome hreplayed hpost
    | error message => exact safe_finish job attemptId (uncaught message) hreplayed hpost

theorem safe_checkBranch (orgId : Id) (branchId : Option Id) (w : World)
    {post : Except HttpError Unit → World → Prop} (hpost : ∀ result t, post result t) :
    (checkBranch orgId branchId).Safe (jobDiscipline dispatcher) i post w := by
  cases branchId with
  | none => exact hpost _ _
  | some branchId =>
    refine safe_query (fun _ _ => trivial) (fun u branch _ _ => ?_) hpost
    cases branch <;> exact hpost _ _

theorem safe_upsertJob (orgId : Id) (dto : ReplayJobItemDto) (w : World)
    {post : Except HttpError (Id × SyncJob) → World → Prop} (hpost : ∀ result t, post result t) :
    (upsertJob orgId dto).Safe (jobDiscipline dispatcher) i post w := by
  refine safe_query (fun _ _ => trivial) (fun t existing _ _ => ?_) hpost
  cases existing with
  | some job => exact hpost _ _
  | none =>
    refine safe_bind (safe_checkBranch orgId dto.branchId _ fun result u => ?_)
    cases result with
    | error e => exact hpost _ _
    | ok _ => exact fun _ _ _ => ⟨⟨rfl, rfl⟩, fun _ => hpost _ _⟩

theorem safe_submitJob (userId : Id) (executeNow : Bool) (job : Id × SyncJob) (w : World)
    {post : Except HttpError JobResult → World → Prop} (hpost : ∀ result t, post result t) :
    (submitJob userId executeNow job).Safe (jobDiscipline dispatcher) i post w := by
  cases executeNow with
  | true => exact safe_executeJob userId job.1 w hpost
  | false => exact hpost _ _

theorem safe_replayBatch (userId orgId : Id) (executeNow : Bool) (jobs : List ReplayJobItemDto)
    (w : World) {post : Except HttpError (List ReplayResult) → World → Prop}
    (hpost : ∀ result t, post result t) :
    (replayBatch userId orgId executeNow jobs).Safe (jobDiscipline dispatcher) i post w := by
  induction jobs generalizing w post with
  | nil => exact hpost _ _
  | cons dto jobs ih =>
    refine safe_bind (safe_upsertJob orgId dto w fun result t => ?_)
    cases result with
    | error e => exact hpost _ _
    | ok job =>
      refine safe_bind (safe_submitJob userId executeNow job t fun result u => ?_)
      cases result with
      | error e => exact hpost _ _
      | ok result =>
        refine safe_bind (ih u fun results v => ?_)
        cases results <;> exact hpost _ _

theorem safe_program (i : Nat) (call : SyncCall) (w : World) :
    call.program.Safe (jobDiscipline dispatcher) i (fun _ _ => True) w := by
  have hpost : ∀ (result : Except HttpError Unit) (t : World), True := fun _ _ => trivial
  cases call with
  | replayBatch userId orgId executeNow jobs =>
    refine safe_bind (safe_replayBatch userId orgId executeNow jobs w fun result t => ?_)
    cases result <;> trivial
  | retryJob actorUserId orgId jobId =>
    refine safe_bind (safe_query (fun _ _ => trivial) (fun t found _ _ => ?_) fun result t => ?_)
    · refine safe_need (fun job _ => ?_) fun _ => trivial
      refine safe_ensure (fun _ => safe_ensure (fun _ => ?_) fun _ => trivial) fun _ => trivial
      refine safe_query (fun _ _ => trivial) (fun u _ _ _ => ?_) fun result u => ?_
      · refine safe_executeJob actorUserId jobId _ fun result v => ?_
        cases result <;> trivial
      · cases result <;> trivial
    · cases result <;> trivial
  | resolveConflict orgId conflictId resolution =>
    refine safe_query (fun _ _ => trivial) (fun t found _ _ => ?_) hpost
    refine safe_need (fun row _ => safe_ensure (fun _ => ?_) fun _ => trivial) fun _ => trivial
    exact fun _ _ _ => ⟨trivial, fun _ => trivial⟩

end

-- ---
-- Every interleaving
-- ---

/-- A statement of one of the calls, or time passing. -/
inductive Turn
  | call (i : Nat)
  | wait (ms : Nat)

def World.tick (w : World) (ms : Nat) : World :=
  { w with store := { w.store with clock := w.store.clock + ms } }

def turn (dispatcher : Store.Dispatcher) (p : Pool World (SyncProgram Unit)) :
    Turn → Pool World (SyncProgram Unit)
  | .call i => Program.turn (World.exec dispatcher) p i
  | .wait ms => { p with shared := p.shared.tick ms }

def goesAsAssumed (p : Pool World (SyncProgram Unit)) : Turn → Prop
  | .call i => ∀ x ∈ p.threads[i]?, x.asks asAssumed p.shared
  | .wait _ => True

instance (p : Pool World (SyncProgram Unit)) : (t : Turn) → Decidable (goesAsAssumed p t)
  | .call i => inferInstanceAs (Decidable (∀ x ∈ p.threads[i]?, x.asks asAssumed p.shared))
  | .wait _ => .isTrue trivial

def submitted (w : World) (calls : List SyncCall) : Pool World (SyncProgram Unit) where
  shared := w
  threads := calls.map (·.program)

theorem Tracked.tick (h : Tracked w) (ms : Nat) : Tracked (w.tick ms) where
  jobs k job hget := (h.jobs k job hget).congr rfl rfl rfl rfl
  unsettled := h.unsettled
  called := h.called
  known := ⟨h.known.attempts, h.known.conflicts, h.known.settled, h.known.counted⟩

theorem tracked_empty : Tracked { store := {} } where
  jobs j job hget := by cases hget
  unsettled call hcall := by cases hcall
  called j := Nat.le_refl 0
  known :=
    { attempts := fun a row hget => by cases hget
      conflicts := fun c row hget => by cases hget
      settled := fun j hj => by cases hj
      counted := fun entry he => by cases he }

def captured : SyncCall :=
  .replayBatch 0 0 true [{ clientMutationId := "m1", type := .genericReplay }]

/-- The turns of one call. -/
def turnsOf (i n : Nat) : List Turn := List.replicate n (.call i)

def succeeds : Store.Dispatcher := fun _ => .ok { ok := true }

/-- The first replay meets a conflict, later ones succeed. -/
def conflictsOnce : Store.Dispatcher := fun calls =>
  if calls = 0 then .ok { ok := false, disposition := .conflict } else .ok { ok := true }

def cancelledRow : SyncJob :=
  { orgId := 0, type := .genericReplay, status := .cancelled, clientMutationId := "m1" }

def cancelledJob : World where
  store := { jobs := Table.empty.insert cancelledRow }
  settled := [0]

theorem tracked_cancelledJob : Tracked cancelledJob where
  jobs j job hget := by
    rw [cancelledJob, Table.get?_insert] at hget
    split at hget
    · rename_i hj
      obtain rfl := Option.some.inj hget
      subst hj
      exact ⟨Nat.zero_le _, .nil, by decide, fun hsucceeded => by cases hsucceeded⟩
    · cases hget
  unsettled call hcall := by cases hcall
  called j := Nat.le_refl 0
  known :=
    { attempts := fun a row hget => by cases hget
      conflicts := fun c row hget => by cases hget
      settled := fun j hj => by
        obtain rfl := List.mem_singleton.mp hj
        rfl
      counted := fun entry he => by cases he }

/-- The batch of a cancelled job is submitted again. -/
def resubmitted : Pool World (SyncProgram Unit) :=
  (turnsOf 0 8).foldl (turn succeeds) (submitted cancelledJob [captured])

/-- A job that met a conflict is retried. -/
def retried : Pool World (SyncProgram Unit) :=
  (turnsOf 0 9 ++ turnsOf 1 8).foldl (turn conflictsOnce)
    (submitted { store := {} } [captured, .retryJob 0 0 0])

end NimbusPos.SyncService
