import NimbusPos.Feedback.Service

/-!
# One answer

A submitted or cancelled request stays as it is and gets no further answer, as long as each write
finds the request in a status that its check would have let pass. Calls that follow one another
do; a call whose write comes after that of another may not.
-/

namespace NimbusPos.FeedbackService

open Lib Lib.Program

/-- Submitted or cancelled. -/
def FeedbackRequestStatus.decided (status : FeedbackRequestStatus) : Bool :=
  status == .submitted || status == .cancelled

namespace FeedbackStore

/-- The answers to a request. -/
def answers (s : FeedbackStore) (requestId : Id) : Nat :=
  s.feedbacks.count fun _ row => row.feedbackRequestId == some requestId

/-- A decided request has kept its status, and has got no further answer. -/
def settled : Service.Frame FeedbackStore where
  rel s t := ∀ requestId request, s.requests.get? requestId = some request →
    request.status.decided = true →
      (t.requests.get? requestId).map (·.status) = some request.status ∧
        t.answers requestId = s.answers requestId
  refl s requestId request hget _ := ⟨by rw [hget]; rfl, rfl⟩
  trans h h' requestId request hget hdecided := by
    obtain ⟨hstatus, hanswers⟩ := h requestId request hget hdecided
    obtain ⟨next, hnext, hsame⟩ := Option.map_eq_some_iff.mp hstatus
    obtain ⟨hstatus', hanswers'⟩ := h' requestId next hnext (hsame ▸ hdecided)
    exact ⟨hsame ▸ hstatus', hanswers'.trans hanswers⟩

/-- No request has two answers, and one that has an answer is submitted. -/
def Answered (s : FeedbackStore) : Prop :=
  ∀ requestId, s.answers requestId ≤ 1 ∧ (0 < s.answers requestId →
    (s.requests.get? requestId).map (·.status) = some .submitted)

/-- What a write finds is what its check asked for. -/
def stillOpen (s : FeedbackStore) : FeedbackStatement → Prop
  | .markOpened token _ => (s.findByToken token).all (!·.2.status.decided) = true
  | .submit _ requestId _ _ => (s.requests.get? requestId).all (!·.status.decided) = true
  | .cancel requestId => (s.requests.get? requestId).all (·.status != .submitted) = true
  | _ => True

instance (s : FeedbackStore) : (k : FeedbackStatement) → Decidable (s.stillOpen k)
  | .markOpened .. | .submit .. | .cancel _ => inferInstanceAs (Decidable (_ = true))
  | .now | .findByToken _ | .branchName _ | .findRequest .. => .isTrue trivial

variable {s t : FeedbackStore} {k : FeedbackStatement}

-- ---
-- One statement
-- ---

/-- A request that is written settles nothing new exactly if it was not decided, or stays so. -/
theorem settled_update_iff {data : FeedbackRequest → FeedbackRequest} {status}
    (hget : s.requests.get? requestId = some request)
    (hdata : (data request).status = status) :
    settled.rel s { s with requests := s.requests.update requestId data } ↔
      (request.status.decided = true → status = request.status) := by
  constructor
  · intro h hdecided
    obtain ⟨hstatus, _⟩ := h requestId request hget hdecided
    simpa [hget, hdata] using hstatus
  · rintro h other row hother hdecided
    refine ⟨?_, rfl⟩
    show ((s.requests.update requestId data).get? other).map (·.status) = some row.status
    rw [Table.get?_update]
    split
    · rename_i hsame
      subst hsame
      obtain rfl := Option.some.inj (hget.symm.trans hother)
      simp [hother, hdata, h hdecided]
    · rw [hother]
      rfl

theorem write_settled_iff {data : FeedbackRequest → FeedbackRequest}
    (status : FeedbackRequestStatus) (hdata : ∀ request, (data request).status = status) :
    settled.rel s (s.write requestId data).1 ↔
      ∀ request, s.requests.get? requestId = some request → request.status.decided = true →
        status = request.status := by
  unfold write
  cases hget : s.requests.get? requestId with
  | none => simpa using settled.refl s
  | some request => simpa using settled_update_iff hget (hdata request)

theorem write_feedbacks (s : FeedbackStore) (requestId : Id)
    (data : FeedbackRequest → FeedbackRequest) :
    (s.write requestId data).1.feedbacks = s.feedbacks := by
  unfold write
  split <;> rfl

theorem submitted_answers (s : FeedbackStore) (dto : SubmitPublicFeedbackDto) (requestId : Id)
    (request : FeedbackRequest) (now : Time) (other : Id) :
    (s.submitted dto requestId request now).answers other =
      s.answers other + if some requestId == some other then 1 else 0 :=
  Table.count_insert _ _ _

theorem submitted_settled_iff (dto : SubmitPublicFeedbackDto) (read : FeedbackRequest) (now : Time)
    (hget : s.requests.get? requestId = some request) :
    settled.rel s (s.submitted dto requestId read now) ↔ request.status.decided = false := by
  constructor
  · intro h
    rw [← Bool.not_eq_true]
    intro hdecided
    obtain ⟨_, hanswers⟩ := h requestId request hget hdecided
    simp [submitted_answers] at hanswers
  · rintro h other old hother hdecided
    have hne : other ≠ requestId := by
      rintro rfl
      obtain rfl := Option.some.inj (hget.symm.trans hother)
      rw [h] at hdecided
      cases hdecided
    refine ⟨?_, ?_⟩
    · show ((s.requests.update requestId _).get? other).map (·.status) = some old.status
      rw [Table.get?_update_ne _ _ hne, hother]
      rfl
    · simp [submitted_answers, Ne.symm hne]

theorem findByToken_some (h : s.findByToken token = some (requestId, request)) :
    s.requests.get? requestId = some request :=
  (Table.findFirst_some h).1

theorem decided_cases {status : FeedbackRequestStatus} (h : status.decided = true) :
    status = .submitted ∨ status = .cancelled := by
  cases status with
  | submitted => exact .inl rfl
  | cancelled => exact .inr rfl
  | pending | opened | expired => cases h

/-- A statement leaves what is decided as it is exactly if its write finds what it asked for. -/
theorem exec_settled_iff (s : FeedbackStore) (k : FeedbackStatement) :
    settled.rel s (s.exec k).1 ↔ s.stillOpen k := by
  cases k with
  | markOpened token openedAt =>
    simp only [exec, stillOpen]
    cases hfound : s.findByToken token with
    | none => simpa using settled.refl s
    | some found =>
      obtain ⟨requestId, request⟩ := found
      have hget := findByToken_some hfound
      simp only [Option.all_some, Bool.not_eq_eq_eq_not, Bool.not_true]
      rw [write_settled_iff .opened fun _ => rfl]
      constructor
      · intro h
        rw [← Bool.not_eq_true]
        intro hdecided
        rcases decided_cases hdecided with hstatus | hstatus
        · cases (h request hget hdecided).trans hstatus
        · cases (h request hget hdecided).trans hstatus
      · rintro h other hother hdecided
        obtain rfl := Option.some.inj (hget.symm.trans hother)
        cases h.symm.trans hdecided
  | submit dto requestId read now =>
    simp only [exec, stillOpen]
    cases hget : s.requests.get? requestId with
    | none => simpa using settled.refl s
    | some request => simpa using submitted_settled_iff dto read now hget
  | cancel requestId =>
    simp only [exec, stillOpen]
    rw [write_settled_iff .cancelled fun _ => rfl, Option.all_eq_true]
    simp only [bne_iff_ne, ne_eq]
    constructor
    · rintro h request hget hsubmitted
      cases (h request hget (by rw [hsubmitted]; rfl)).trans hsubmitted
    · rintro h request hget hdecided
      rcases decided_cases hdecided with hstatus | hstatus
      · exact absurd hstatus (h request hget)
      · exact hstatus.symm
  | now | findByToken _ | branchName _ | findRequest _ _ =>
    exact iff_of_true (settled.refl s) trivial

/-- A write that finds what it asked for leaves each request with one answer at most. -/
theorem Answered.exec (h : Answered s) (hopen : s.stillOpen k) : Answered (s.exec k).1 := by
  have hsettled := (exec_settled_iff s k).mpr hopen
  have hkept {t : FeedbackStore} (hrel : settled.rel s t) (hsame : t.feedbacks = s.feedbacks) :
      Answered t := by
    intro requestId
    have hanswers : t.answers requestId = s.answers requestId := by rw [answers, hsame, answers]
    rw [hanswers]
    refine ⟨(h requestId).1, fun hpos => ?_⟩
    obtain ⟨request, hget, hstatus⟩ := Option.map_eq_some_iff.mp ((h requestId).2 hpos)
    exact hstatus ▸ (hrel requestId request hget (by rw [hstatus]; rfl)).1
  cases k with
  | submit dto requestId read now =>
    simp only [FeedbackStore.exec, stillOpen] at hopen ⊢
    cases hget : s.requests.get? requestId with
    | none => exact h
    | some request =>
      simp only [hget, Option.all_some, Bool.not_eq_eq_eq_not, Bool.not_true] at hopen
      have hnone : s.answers requestId = 0 := by
        by_contra hne
        have hstatus := (h requestId).2 (Nat.pos_of_ne_zero hne)
        rw [hget, Option.map_some, Option.some.injEq] at hstatus
        rw [hstatus] at hopen
        cases hopen
      intro other
      show (s.submitted dto requestId read now).answers other ≤ 1 ∧
        (0 < (s.submitted dto requestId read now).answers other → _)
      rw [submitted_answers]
      by_cases hother : requestId = other
      · subst hother
        rw [hnone]
        refine ⟨by simp, fun _ => ?_⟩
        simp [submitted, hget]
      · have hsame : (some requestId == some other) = false := by simp [hother]
        rw [hsame]
        refine ⟨(h other).1, fun hpos => ?_⟩
        show ((s.requests.update requestId _).get? other).map (·.status) = _
        rw [Table.get?_update_ne _ _ (Ne.symm hother)]
        exact (h other).2 hpos
  | markOpened token openedAt =>
    refine hkept hsettled ?_
    simp only [FeedbackStore.exec]
    cases s.findByToken token with
    | none => rfl
    | some found => exact write_feedbacks _ _ _
  | cancel requestId => exact hkept hsettled (write_feedbacks _ _ _)
  | now | findByToken _ | branchName _ | findRequest _ _ => exact h

end FeedbackStore

open FeedbackStore

-- ---
-- One call after the other
-- ---

inductive FeedbackCall
  | lookupToken (token : String)
  | submitPublicFeedback (dto : SubmitPublicFeedbackDto)
  | cancelFeedbackRequest (requestId : Id) (ctx : BranchContext)
  deriving DecidableEq, Repr

/-- What a call returns is not looked at. -/
def FeedbackCall.program : FeedbackCall → FeedbackProgram Unit
  | .lookupToken token => do
    let _ ← FeedbackService.lookupToken token
    return ()
  | .submitPublicFeedback dto => do
    let _ ← FeedbackService.submitPublicFeedback dto
    return ()
  | .cancelFeedbackRequest requestId ctx => FeedbackService.cancelFeedbackRequest requestId ctx

/-- What holds since an earlier state. -/
def SettledSince (start s : FeedbackStore) : Prop := settled.rel start s ∧ Answered s

variable {start s : FeedbackStore} {k : FeedbackStatement}

theorem SettledSince.exec (h : SettledSince start s) (hopen : s.stillOpen k) :
    SettledSince start (s.exec k).1 :=
  ⟨settled.trans h.1 ((exec_settled_iff s k).mpr hopen), h.2.exec hopen⟩

/-- A call that no other interrupts writes to the request that it read. -/
theorem program_alone (call : FeedbackCall) (s : FeedbackStore) :
    call.program.Safe (alone FeedbackStore.exec (SettledSince start)) 0 (fun _ _ => True) s := by
  cases call with
  | lookupToken token =>
    refine safe_bind ?_
    refine alone_read rfl fun _ => ?_
    refine safe_need (fun found hfound => ?_) fun _ => trivial
    obtain ⟨requestId, request⟩ := found
    refine alone_read rfl fun _ => alone_read rfl fun _ => ?_
    refine safe_ensure (fun _ => ?_) fun _ => trivial
    refine safe_ensure (fun hsubmitted => ?_) fun _ => trivial
    refine safe_ensure (fun hcancelled => ?_) fun _ => trivial
    dsimp only
    split
    · rename_i hpending
      refine alone_read rfl fun _ => ?_
      refine alone_statement (fun h => h.exec ?_) fun _ => ?_
      · simp [stillOpen, hfound, hpending, FeedbackRequestStatus.decided]
      · cases (FeedbackStore.exec s (.markOpened token s.clock)).2 <;> trivial
    · trivial
  | submitPublicFeedback dto =>
    refine safe_bind ?_
    refine alone_read rfl fun _ => ?_
    refine safe_need (fun found hfound => ?_) fun _ => trivial
    obtain ⟨requestId, request⟩ := found
    refine safe_ensure (fun hsubmitted => ?_) fun _ => trivial
    refine alone_read rfl fun _ => ?_
    refine safe_ensure (fun _ => ?_) fun _ => trivial
    refine safe_ensure (fun hcancelled => ?_) fun _ => trivial
    refine alone_read rfl fun _ => ?_
    have hopen : s.stillOpen (.submit dto requestId request s.clock) := by
      simp only [bne_iff_ne, ne_eq] at hsubmitted hcancelled
      simp [stillOpen, findByToken_some hfound, FeedbackRequestStatus.decided, hsubmitted,
        hcancelled]
    refine (alone_last fun h => h.exec hopen).mono fun result _ _ => ?_
    cases result <;> trivial
  | cancelFeedbackRequest requestId ctx =>
    refine alone_read rfl fun _ => ?_
    refine safe_need (fun request hfound => ?_) fun _ => trivial
    refine safe_ensure (fun hsubmitted => ?_) fun _ => trivial
    refine safe_ensure (fun _ => ?_) fun _ => trivial
    refine alone_last fun h => h.exec ?_
    obtain ⟨hget, _⟩ := Option.filter_eq_some_iff.mp hfound
    simpa [stillOpen, hget] using hsubmitted

/-- A call that comes some time after the one before ended. -/
def takeAlone (s : FeedbackStore) (call : Nat × FeedbackCall) : FeedbackStore :=
  (call.2.program.run FeedbackStore.exec (s.wait call.1)).1

theorem takeAlone_settled (h : SettledSince start s) (call : Nat × FeedbackCall) :
    SettledSince start (takeAlone s call) :=
  (program_alone call.2 (s.wait call.1)).run_alone h

-- ---
-- Every interleaving
-- ---

abbrev FeedbackPool := Pool FeedbackStore (FeedbackProgram Unit)

abbrev takeTurn : FeedbackPool → Turn → FeedbackPool :=
  Turn.take (fun _ => FeedbackStore.exec) FeedbackStore.wait

/-- The calls, none of which has started. -/
def requested (s : FeedbackStore) (calls : List FeedbackCall) : FeedbackPool where
  shared := s
  threads := calls.map (·.program)

/-- In every state a request has one answer at most, and from any state to any later one a
submitted or cancelled request keeps its status and gets no answer. -/
def OneAnswer (p : FeedbackPool) (turns : List Turn) : Prop :=
  (∀ before later, turns = before ++ later → ∀ requestId,
      (before.foldl takeTurn p).shared.answers requestId ≤ 1) ∧
    ∀ before between later, turns = before ++ between ++ later →
      settled.rel (before.foldl takeTurn p).shared
        (between.foldl takeTurn (before.foldl takeTurn p)).shared

/-- Calls that follow one another keep each decided request as it is, with one answer at most. Of
calls that overlap, those and only those interleavings do in which each write finds a request that
its check would let pass. -/
theorem one_answer (s : FeedbackStore) (hstart : Answered s) :
    (∀ calls : List (Nat × FeedbackCall), settled.rel s (calls.foldl takeAlone s) ∧
      ∀ requestId, (calls.foldl takeAlone s).answers requestId ≤ 1) ∧
    ∀ (calls : List FeedbackCall) (turns : List Turn),
      OneAnswer (requested s calls) turns ↔
        Run takeTurn (fun p t => t.asks stillOpen p) (requested s calls) turns
          (turns.foldl takeTurn (requested s calls)) := by
  refine ⟨fun calls => ?_, fun calls turns => ?_⟩
  · have hsince : SettledSince s (calls.foldl takeAlone s) := by
      induction calls using List.reverseRecOn with
      | nil => exact ⟨settled.refl s, hstart⟩
      | append_singleton calls call ih =>
        rw [List.foldl_append]
        exact takeAlone_settled ih call
    exact ⟨hsince.1, fun requestId => (hsince.2 requestId).1⟩
  · have hwait (t : FeedbackStore) (ms : Nat) : settled.rel t (t.wait ms) := settled.refl t
    have hstep (p : FeedbackPool) (t : Turn) :
        settled.rel p.shared (takeTurn p t).shared ↔ t.asks stillOpen p :=
      Turn.take_iff (settled.refl p.shared) (fun _ => exec_settled_iff p.shared) (hwait p.shared) t
    rw [OneAnswer, Run.rel_iff (R := fun p q : FeedbackPool => settled.rel p.shared q.shared)
      (fun p => settled.refl p.shared) settled.trans hstep]
    refine and_iff_right_of_imp fun hrun => ?_
    rintro before later rfl requestId
    have hlater (t : FeedbackStore) (ms : Nat) (h : Answered t) : Answered (t.wait ms) := h
    have hanswered : Answered (before.foldl takeTurn (requested s calls)).shared :=
      hrun.take.invariant (I := fun p => Answered p.shared) hstart fun p t h hasks =>
        Turn.keeps (fun _ _ _ h hopen => h.exec hopen) hlater h t hasks
    exact (hanswered requestId).1

/-- A request that has been sent. -/
def sentRequest : FeedbackStore where
  branches := Table.empty.insert "Main"
  requests := Table.empty.insert { orgId := 0, branchId := 0, token := "token" }

theorem sentRequest_answered : Answered sentRequest :=
  fun _ => ⟨Nat.zero_le 1, fun h => absurd h (Nat.lt_irrefl 0)⟩

/-- The guest opens the request while it is being cancelled, and cannot answer it any more. -/
theorem one_answer_cancelled :
    let calls := [.cancelFeedbackRequest 0 ⟨0, 0⟩, .lookupToken "token",
      .submitPublicFeedback { token := "token" }]
    let turns := times 1 0 ++ times 5 1 ++ times 1 0 ++ times 2 2
    let p := turns.foldl takeTurn (requested sentRequest calls)
    p.threads.map result? = [some (.ok ()), some (.ok ()),
        some (.error (badRequest "Feedback request has been cancelled"))] ∧
      OneAnswer (requested sentRequest calls) turns := by
  intro calls turns p
  have hrun : Run takeTurn (fun p t => t.asks stillOpen p) (requested sentRequest calls) turns p :=
    Run.of_holds (by decide +kernel)
  exact ⟨by decide +kernel,
    ((one_answer sentRequest sentRequest_answered).2 calls turns).mpr hrun⟩

/-- Two submissions that both find the request open; one that finds it open before it is
cancelled; and a look-up that opens it again after the answer. -/
theorem two_answers :
    let submits := FeedbackCall.submitPublicFeedback { token := "token" }
    let cancels := FeedbackCall.cancelFeedbackRequest 0 ⟨0, 0⟩
    let after (calls : List FeedbackCall) (turns : List Turn) :=
      (turns.foldl takeTurn (requested sentRequest calls)).shared
    ¬(∀ (s : FeedbackStore) (calls : List FeedbackCall) (turns : List Turn), Answered s →
      OneAnswer (requested s calls) turns) ∧
    (after [submits, submits] (times 3 0 ++ times 4 1 ++ times 1 0)).answers 0 = 2 ∧
    (((after [submits, cancels] (times 3 0 ++ times 2 1)).requests.get? 0).map (·.status) =
        some .cancelled ∧
      ((after [submits, cancels] (times 3 0 ++ times 2 1 ++ times 1 0)).requests.get? 0).map
        (·.status) = some .submitted) ∧
    ((after [.lookupToken "token", submits] (times 4 0 ++ times 4 1 ++ times 1 0)).requests.get?
      0).map (·.status) = some .opened := by
  intro submits cancels after
  refine ⟨fun h => ?_, by decide +kernel, by decide +kernel, by decide +kernel⟩
  have hone := (h sentRequest [submits, submits] (times 3 0 ++ times 4 1 ++ times 1 0)
    sentRequest_answered).1 _ [] (List.append_nil _).symm 0
  exact absurd hone (by decide +kernel)

end NimbusPos.FeedbackService
