import NimbusPos.Common
import NimbusPos.Lib.Program

/-!
# Feedback

A guest answers a feedback request through its token. Each call reads the request, decides from
the status that it read, and writes in a later statement; the submission writes the answer and
the status in one transaction.
-/

namespace NimbusPos.FeedbackService

open Lib Lib.Program

-- ---
-- Rows
-- ---

inductive FeedbackRequestStatus
  | pending
  | opened
  | submitted
  | expired
  | cancelled
  deriving DecidableEq, Repr

inductive FeedbackSource
  | qr
  | orderLink
  | reservationLink
  | eventLink
  | manual
  | other
  deriving DecidableEq, Repr

inductive FeedbackSentiment
  | positive
  | neutral
  | negative
  | critical
  deriving DecidableEq, Repr

inductive NpsBucket
  | detractor
  | passive
  | promoter
  deriving DecidableEq, Repr

structure FeedbackRequest where
  orgId : Id
  branchId : Id
  orderId : Option Id := none
  reservationId : Option Id := none
  eventId : Option Id := none
  token : String
  source : FeedbackSource := .manual
  status : FeedbackRequestStatus := .pending
  customerName : Option String := none
  customerPhone : Option String := none
  customerEmail : Option String := none
  openedAt : Option Time := none
  submittedAt : Option Time := none
  expiresAt : Option Time := none
  deriving DecidableEq, Repr

structure Feedback where
  orgId : Id
  branchId : Id
  orderId : Option Id
  reservationId : Option Id
  eventId : Option Id
  feedbackRequestId : Option Id
  customerName : Option String
  customerPhone : Option String
  customerEmail : Option String
  source : FeedbackSource
  rating : Option Nat
  npsScore : Option Nat
  npsBucket : Option NpsBucket
  sentiment : FeedbackSentiment
  comment : Option String
  submittedAt : Time
  deriving DecidableEq, Repr

structure FeedbackStore where
  /-- The names of the branches. -/
  branches : Table String := .empty
  requests : Table FeedbackRequest := .empty
  feedbacks : Table Feedback := .empty
  clock : Time := 0

/-- `request.status === EXPIRED`, or its time is over. -/
def FeedbackRequest.isExpired (request : FeedbackRequest) (now : Time) : Bool :=
  request.status == .expired || request.expiresAt.any (decide <| · < now)

def computeNpsBucket (npsScore : Nat) : NpsBucket :=
  if npsScore ≤ 6 then .detractor else if npsScore ≤ 8 then .passive else .promoter

/-- The NPS score goes before the star rating. -/
def inferSentiment (rating npsScore : Option Nat) : FeedbackSentiment :=
  match npsScore, rating with
  | some score, _ =>
    if score ≤ 3 then .critical
    else if score ≤ 6 then .negative
    else if score ≤ 8 then .neutral
    else .positive
  | none, some stars =>
    if stars ≤ 1 then .critical
    else if stars ≤ 2 then .negative
    else if stars ≤ 3 then .neutral
    else .positive
  | none, none => .neutral

structure SubmitPublicFeedbackDto where
  token : String
  customerName : Option String := none
  customerPhone : Option String := none
  customerEmail : Option String := none
  rating : Option Nat := none
  npsScore : Option Nat := none
  comment : Option String := none
  rating_bounds : ∀ stars ∈ rating, 1 ≤ stars ∧ stars ≤ 5 := by simp
  npsScore_le : ∀ score ∈ npsScore, score ≤ 10 := by simp
  deriving DecidableEq, Repr

/-- `a || b || null`. -/
def firstText (a b : Option String) : Option String :=
  (a.filter (· != "")).or (b.filter (· != ""))

def feedbackRow (dto : SubmitPublicFeedbackDto) (requestId : Id) (request : FeedbackRequest)
    (now : Time) : Feedback :=
  { orgId := request.orgId, branchId := request.branchId, orderId := request.orderId
    reservationId := request.reservationId, eventId := request.eventId
    feedbackRequestId := some requestId
    customerName := firstText dto.customerName request.customerName
    customerPhone := firstText dto.customerPhone request.customerPhone
    customerEmail := firstText dto.customerEmail request.customerEmail
    source := request.source, rating := dto.rating, npsScore := dto.npsScore
    npsBucket := dto.npsScore.map computeNpsBucket
    sentiment := inferSentiment dto.rating dto.npsScore
    comment := firstText dto.comment none, submittedAt := now }

-- ---
-- Statements
-- ---

/-- `submit` is the transaction of a submission; when it has no request to mark, it is undone. -/
inductive FeedbackStatement
  | now
  | findByToken (token : String)
  | branchName (branchId : Id)
  | findRequest (ctx : BranchContext) (requestId : Id)
  | markOpened (token : String) (openedAt : Time)
  | submit (dto : SubmitPublicFeedbackDto) (requestId : Id) (request : FeedbackRequest)
      (now : Time)
  | cancel (requestId : Id)
  deriving DecidableEq, Repr

abbrev FeedbackStatement.Answer : FeedbackStatement → Type
  | .now => Time
  | .findByToken _ => Option (Id × FeedbackRequest)
  | .branchName _ => Option String
  | .findRequest .. => Option FeedbackRequest
  | .submit .. => Id
  | .markOpened .. | .cancel _ => Unit

/-- `update` of a row that there is not. -/
def recordNotFound : HttpError :=
  { kind := .internalServerError, message := "Internal server error" }

namespace FeedbackStore

/-- `findUnique({ where: { token } })`. -/
def findByToken (s : FeedbackStore) (token : String) : Option (Id × FeedbackRequest) :=
  s.requests.findFirst fun _ request => request.token == token

def findRequest (s : FeedbackStore) (ctx : BranchContext) (requestId : Id) :
    Option FeedbackRequest :=
  (s.requests.get? requestId).filter fun request =>
    request.orgId == ctx.organizationId && request.branchId == ctx.branchId

/-- `update` of one request. -/
def write (s : FeedbackStore) (requestId : Id) (data : FeedbackRequest → FeedbackRequest) :
    FeedbackStore × Except HttpError Unit :=
  if (s.requests.get? requestId).isSome then
    ({ s with requests := s.requests.update requestId data }, .ok ())
  else (s, .error recordNotFound)

/-- The answer, and the request that it is the answer to. -/
def submitted (s : FeedbackStore) (dto : SubmitPublicFeedbackDto) (requestId : Id)
    (request : FeedbackRequest) (now : Time) : FeedbackStore :=
  { s with
    feedbacks := s.feedbacks.insert (feedbackRow dto requestId request now)
    requests := s.requests.update requestId fun row =>
      { row with status := .submitted, submittedAt := some now } }

def exec (s : FeedbackStore) :
    (k : FeedbackStatement) → FeedbackStore × Except HttpError k.Answer
  | .now => (s, .ok s.clock)
  | .findByToken token => (s, .ok (s.findByToken token))
  | .branchName branchId => (s, .ok (s.branches.get? branchId))
  | .findRequest ctx requestId => (s, .ok (s.findRequest ctx requestId))
  | .markOpened token openedAt =>
    match s.findByToken token with
    | some (requestId, _) =>
      s.write requestId fun request => { request with status := .opened, openedAt := openedAt }
    | none => (s, .error recordNotFound)
  | .submit dto requestId request now =>
    if (s.requests.get? requestId).isSome then
      (s.submitted dto requestId request now, .ok s.feedbacks.next)
    else (s, .error recordNotFound)
  | .cancel requestId => s.write requestId fun request => { request with status := .cancelled }

def wait (s : FeedbackStore) (ms : Nat) : FeedbackStore := { s with clock := s.clock + ms }

end FeedbackStore

-- ---
-- Calls
-- ---

abbrev FeedbackProgram (α : Type) := Program FeedbackStatement FeedbackStatement.Answer HttpError α

def ask (k : FeedbackStatement) : FeedbackProgram k.Answer := statement k

structure FeedbackLookup where
  id : Id
  source : FeedbackSource
  customerName : Option String
  branchName : Option String
  hasOrder : Bool
  hasReservation : Bool
  hasEvent : Bool
  deriving DecidableEq, Repr

def lookupToken (token : String) : FeedbackProgram FeedbackLookup := do
  let found ← ask (.findByToken token)
  let (requestId, request) ← need found (notFound "Invalid feedback token")
  let branchName ← ask (.branchName request.branchId)
  let now ← ask .now
  ensure (!request.isExpired now) (badRequest "Feedback request has expired")
  ensure (request.status != .submitted)
    (conflict "Feedback has already been submitted for this request")
  ensure (request.status != .cancelled) (badRequest "Feedback request has been cancelled")
  if request.status = .pending then
    let openedAt ← ask .now
    ask (.markOpened token openedAt)
  return {
    id := requestId, source := request.source, customerName := request.customerName, branchName
    hasOrder := request.orderId.isSome, hasReservation := request.reservationId.isSome
    hasEvent := request.eventId.isSome }

def submitPublicFeedback (dto : SubmitPublicFeedbackDto) : FeedbackProgram Id := do
  let found ← ask (.findByToken dto.token)
  let (requestId, request) ← need found (notFound "Invalid feedback token")
  ensure (request.status != .submitted)
    (conflict "Feedback has already been submitted for this request")
  let now ← ask .now
  ensure (!request.isExpired now) (badRequest "Feedback request has expired")
  ensure (request.status != .cancelled) (badRequest "Feedback request has been cancelled")
  let submittedAt ← ask .now
  ask (.submit dto requestId request submittedAt)

def cancelFeedbackRequest (requestId : Id) (ctx : BranchContext) : FeedbackProgram Unit := do
  let found ← ask (.findRequest ctx requestId)
  let request ← need found (notFound "Feedback request not found")
  ensure (request.status != .submitted) (conflict "Cannot cancel — feedback already submitted")
  ensure (request.status != .cancelled) (conflict "Feedback request is already cancelled")
  ask (.cancel requestId)

end NimbusPos.FeedbackService
