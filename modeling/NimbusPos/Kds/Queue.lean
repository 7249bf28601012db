import NimbusPos.Kds.Service
import NimbusPos.Lib.Paging
import NimbusPos.Lib.Program

/-!
# The kitchen queue

The queue is read a page at a time, oldest ticket first, and each page is sorted again by
urgency. Calls that write tickets and thresholds interleave their statements. In every store
they reach, the pages of one station are in order of urgency from the first to the last; pages
of several stations are in order exactly if no older ticket is less urgent than a newer one.
-/

namespace NimbusPos

open Lib Lib.Program

-- ---
-- Rows
-- ---

/-- The row of a ticket with its times. -/
structure QueueTicket extends KdsTicket where
  startedAt : Time
  readyAt : Option Time := none
  recalledAt : Option Time := none
  createdAt : Time
  deriving DecidableEq, Repr

structure Sla where
  greenSeconds : Int
  amberSeconds : Int
  redSeconds : Int
  deriving DecidableEq, Repr

structure Sla.Valid (sla : Sla) : Prop where
  green_min : 1 ≤ sla.greenSeconds
  green_le_amber : sla.greenSeconds ≤ sla.amberSeconds
  amber_le_red : sla.amberSeconds ≤ sla.redSeconds

structure KdsSlaConfig extends Sla where
  orgId : Id
  branchId : Id
  station : PrepStation
  deriving DecidableEq, Repr

/-- What the validators of the request have checked. -/
structure UpdateKdsSlaDto extends Sla where
  greenSeconds_min : 1 ≤ greenSeconds := by decide
  green_le_amber : greenSeconds ≤ amberSeconds := by decide
  amber_le_red : amberSeconds ≤ redSeconds := by decide
  deriving DecidableEq, Repr

theorem UpdateKdsSlaDto.valid (dto : UpdateKdsSlaDto) : dto.Valid :=
  ⟨dto.greenSeconds_min, dto.green_le_amber, dto.amber_le_red⟩

inductive UrgencyState
  | red
  | amber
  | green
  deriving DecidableEq, Repr

inductive KdsEventType
  | newTicket
  | ticketChanged
  | ticketReady
  | ticketRecalled
  deriving DecidableEq, Repr

structure KdsEvent where
  eventType : KdsEventType
  ticketId : Id
  orderId : Id
  station : PrepStation
  status : KdsTicketStatus
  urgencyState : UrgencyState
  elapsedSeconds : Int
  at_ : Time
  branchId : Id
  deriving DecidableEq, Repr

structure KdsBoard where
  clock : Time := 0
  tickets : Table QueueTicket := .empty
  slaConfigs : Table KdsSlaConfig := .empty
  events : List KdsEvent := []

namespace KdsBoard

def DEFAULT_SLA : Sla := ⟨300, 600, 900⟩

/-- `Math.floor((now - startedAt) / 1000)`. -/
def elapsedSeconds (now startedAt : Time) : Int := ((now : Int) - startedAt) / 1000

def computeUrgency (elapsedSeconds : Int) (sla : Sla) : UrgencyState :=
  if sla.redSeconds ≤ elapsedSeconds then .red
  else if sla.amberSeconds ≤ elapsedSeconds then .amber
  else .green

-- ---
-- The queue
-- ---

structure ListKdsQueueQueryDto where
  station : Option PrepStation := none
  status : Option KdsTicketStatus := none
  page : Option Nat := none
  pageSize : Option Nat := none
  deriving DecidableEq, Repr

structure QueueEntry where
  id : Id
  orderId : Id
  station : PrepStation
  status : KdsTicketStatus
  createdAt : Time
  startedAt : Time
  readyAt : Option Time
  recalledAt : Option Time
  elapsedSeconds : Int
  amberAtSeconds : Int
  redAtSeconds : Int
  remainingSecondsToAmber : Int
  remainingSecondsToRed : Int
  urgencyState : UrgencyState
  isNew : Bool
  isRecalled : Bool
  items : List Id
  deriving DecidableEq, Repr

def urgencyOrder : UrgencyState → Nat
  | .red => 0
  | .amber => 1
  | .green => 2

/-- The comparison of the sort. -/
def QueueEntry.before (a b : QueueEntry) : Prop :=
  urgencyOrder a.urgencyState < urgencyOrder b.urgencyState ∨
    a.urgencyState = b.urgencyState ∧ a.createdAt ≤ b.createdAt

instance : DecidableRel QueueEntry.before := fun a b => inferInstanceAs (Decidable
  (urgencyOrder a.urgencyState < urgencyOrder b.urgencyState ∨
    a.urgencyState = b.urgencyState ∧ a.createdAt ≤ b.createdAt))

variable (s : KdsBoard) (ctx : BranchContext)

/-- `findUnique({ where: { branchId_station } })`. -/
def findSla (branchId : Id) (station : PrepStation) : Option (Id × KdsSlaConfig) :=
  s.slaConfigs.findFirst fun _ row => row.branchId == branchId && row.station == station

def getSlaForStation (branchId : Id) (station : PrepStation) : Sla :=
  ((s.findSla branchId station).map fun row => row.2.toSla).getD DEFAULT_SLA

def queueMatches (query : ListKdsQueueQueryDto) (ticket : QueueTicket) : Bool :=
  ticket.branchId == ctx.branchId && ticket.orgId == ctx.organizationId &&
    query.station.all (· == ticket.station) && query.status.all (· == ticket.status)

def matching (query : ListKdsQueueQueryDto) : List (Id × QueueTicket) :=
  s.tickets.findMany fun _ ticket => queueMatches ctx query ticket

def entryOf (row : Id × QueueTicket) : QueueEntry :=
  let (id, ticket) := row
  let sla := s.getSlaForStation ctx.branchId ticket.station
  let elapsed := elapsedSeconds s.clock ticket.startedAt
  { id, orderId := ticket.orderId, station := ticket.station, status := ticket.status
    createdAt := ticket.createdAt, startedAt := ticket.startedAt, readyAt := ticket.readyAt
    recalledAt := ticket.recalledAt, elapsedSeconds := elapsed
    amberAtSeconds := sla.amberSeconds, redAtSeconds := sla.redSeconds
    remainingSecondsToAmber := max 0 (sla.amberSeconds - elapsed)
    remainingSecondsToRed := max 0 (sla.redSeconds - elapsed)
    urgencyState := computeUrgency elapsed sla
    isNew := decide (elapsed < 10), isRecalled := ticket.status == .recalled
    items := ticket.items }

structure QueuePage where
  data : List QueueEntry
  total : Nat
  page : Nat
  pageSize : Nat

/-- `order` is the order in which the database reads the tickets. -/
def getQueue (query : ListKdsQueueQueryDto)
    (order : Arranged (fun row : Id × QueueTicket => row.2.createdAt) (s.matching ctx query)) :
    QueuePage :=
  let page := query.page.getD 1
  let pageSize := query.pageSize.getD 50
  { data := ((order.page ((page - 1) * pageSize) pageSize).map (s.entryOf ctx)).insertionSort
      QueueEntry.before
    total := (s.matching ctx query).length, page, pageSize }

-- ---
-- Statements
-- ---

inductive BoardStatement
  | now
  | findTicket (ctx : BranchContext) (ticketId : Id)
  | createTicket (ctx : BranchContext) (orderId : Id) (group : PrepStation × List Id)
  | setReady (ticketId : Id) (readyAt : Time)
  | setRecalled (ticketId : Id) (recalledAt : Time)
  | findSla (branchId : Id) (station : PrepStation)
  | upsertSla (ctx : BranchContext) (station : PrepStation) (dto : UpdateKdsSlaDto)
  | emit (event : KdsEvent)

abbrev BoardStatement.Answer : BoardStatement → Type
  | .now => Time
  | .findTicket .. => Option QueueTicket
  | .findSla .. => Sla
  | .createTicket .. => Id
  | .setReady .. | .setRecalled .. | .upsertSla .. | .emit _ => Unit

/-- `update` of a row that there is not. -/
def recordNotFound : HttpError :=
  { kind := .internalServerError, message := "Internal server error" }

def writeTicket (ticketId : Id) (data : QueueTicket → QueueTicket) :
    KdsBoard × Except HttpError Unit :=
  if (s.tickets.get? ticketId).isSome then
    ({ s with tickets := s.tickets.update ticketId data }, .ok ())
  else (s, .error recordNotFound)

/-- `create` with the times that the columns default to. -/
def newTicket (orderId : Id) (group : PrepStation × List Id) : QueueTicket :=
  { toKdsTicket := KdsService.ticketFor ctx orderId group
    startedAt := s.clock, createdAt := s.clock }

def upsertSla (station : PrepStation) (dto : UpdateKdsSlaDto) : KdsBoard :=
  match s.findSla ctx.branchId station with
  | some (configId, _) =>
    { s with slaConfigs := s.slaConfigs.update configId fun row => { row with toSla := dto.toSla } }
  | none =>
    let row : KdsSlaConfig :=
      { toSla := dto.toSla, orgId := ctx.organizationId, branchId := ctx.branchId, station }
    { s with slaConfigs := s.slaConfigs.insert row }

def exec (s : KdsBoard) : (k : BoardStatement) → KdsBoard × Except HttpError k.Answer
  | .now => (s, .ok s.clock)
  | .findTicket ctx ticketId =>
    (s, .ok ((s.tickets.get? ticketId).filter fun ticket =>
      ticket.branchId == ctx.branchId && ticket.orgId == ctx.organizationId))
  | .createTicket ctx orderId group =>
    ({ s with tickets := s.tickets.insert (s.newTicket ctx orderId group) }, .ok s.tickets.next)
  | .setReady ticketId readyAt =>
    s.writeTicket ticketId fun ticket => { ticket with status := .ready, readyAt := some readyAt }
  | .setRecalled ticketId recalledAt =>
    s.writeTicket ticketId fun ticket =>
      { ticket with status := .recalled, recalledAt := some recalledAt, readyAt := none }
  | .findSla branchId station => (s, .ok (s.getSlaForStation branchId station))
  | .upsertSla ctx station dto => (s.upsertSla ctx station dto, .ok ())
  | .emit event => ({ s with events := s.events ++ [event] }, .ok ())

def wait (s : KdsBoard) (ms : Nat) : KdsBoard := { s with clock := s.clock + ms }

-- ---
-- Calls
-- ---

abbrev BoardProgram (α : Type) := Program BoardStatement BoardStatement.Answer HttpError α

def ask (k : BoardStatement) : BoardProgram k.Answer := statement k

/-- What `createTicketsForOrder` does for one station. -/
def createTicketFor (ctx : BranchContext) (orderId : Id) (group : PrepStation × List Id) :
    BoardProgram Unit := do
  let ticketId ← ask (.createTicket ctx orderId group)
  let now ← ask .now
  ask (.emit ⟨.newTicket, ticketId, orderId, group.1, .queued, .green, 0, now, ctx.branchId⟩)

/-- The event of a ticket that was written. -/
def announce (ctx : BranchContext) (ticketId : Id) (ticket : QueueTicket)
    (eventType : KdsEventType) (status : KdsTicketStatus) : BoardProgram Unit := do
  let sla ← ask (.findSla ctx.branchId ticket.station)
  let now ← ask .now
  let elapsed := elapsedSeconds now ticket.startedAt
  let sentAt ← ask .now
  ask (.emit ⟨eventType, ticketId, ticket.orderId, ticket.station, status,
    computeUrgency elapsed sla, elapsed, sentAt, ctx.branchId⟩)

def markReady (ctx : BranchContext) (ticketId : Id) : BoardProgram Unit := do
  let found ← ask (.findTicket ctx ticketId)
  let ticket ← need found (notFound "KDS ticket not found")
  ensure (ticket.status != .ready) (conflict "Ticket is already READY")
  let readyAt ← ask .now
  ask (.setReady ticketId readyAt)
  announce ctx ticketId ticket .ticketReady .ready

def recallTicket (ctx : BranchContext) (ticketId : Id) : BoardProgram Unit := do
  let found ← ask (.findTicket ctx ticketId)
  let ticket ← need found (notFound "KDS ticket not found")
  ensure (ticket.status == .ready) (conflict "Only READY tickets can be recalled")
  let recalledAt ← ask .now
  ask (.setRecalled ticketId recalledAt)
  announce ctx ticketId ticket .ticketRecalled .recalled

def updateSlaConfig (ctx : BranchContext) (station : PrepStation) (dto : UpdateKdsSlaDto) :
    BoardProgram Unit := do
  ensure (!(decide (dto.greenSeconds > dto.amberSeconds) ||
      decide (dto.amberSeconds > dto.redSeconds)))
    (badRequest "SLA thresholds must satisfy greenSeconds <= amberSeconds <= redSeconds")
  ask (.upsertSla ctx station dto)

inductive BoardCall
  | createTicketFor (ctx : BranchContext) (orderId : Id) (group : PrepStation × List Id)
  | markReady (ctx : BranchContext) (ticketId : Id)
  | recallTicket (ctx : BranchContext) (ticketId : Id)
  | updateSlaConfig (ctx : BranchContext) (station : PrepStation) (dto : UpdateKdsSlaDto)

def BoardCall.program : BoardCall → BoardProgram Unit
  | .createTicketFor ctx orderId group => KdsBoard.createTicketFor ctx orderId group
  | .markReady ctx ticketId => KdsBoard.markReady ctx ticketId
  | .recallTicket ctx ticketId => KdsBoard.recallTicket ctx ticketId
  | .updateSlaConfig ctx station dto => KdsBoard.updateSlaConfig ctx station dto

/-- Calls over an empty board, and the statements that they have taken. -/
def boardAfter (calls : List BoardCall) (turns : List Turn) : KdsBoard :=
  (turns.foldl (Turn.take (fun _ => exec) wait)
    (⟨{}, calls.map BoardCall.program⟩ : Pool KdsBoard (BoardProgram Unit))).shared

-- ---
-- Every store that is reached
-- ---

/-- A ticket that is ready has its time, and a recalled one had it taken away. -/
structure TicketSound (clock : Time) (ticket : QueueTicket) : Prop where
  started : ticket.startedAt = ticket.createdAt
  created : ticket.createdAt ≤ clock
  ready : ticket.status = .ready ↔ ticket.readyAt.isSome
  recalled : ticket.status = .recalled → ticket.recalledAt.isSome

structure Sound (s : KdsBoard) : Prop where
  tickets : ∀ k ticket, s.tickets.get? k = some ticket → TicketSound s.clock ticket
  slas : ∀ k row, s.slaConfigs.get? k = some row → row.Valid
  unique : s.slaConfigs.UniqueOn fun row => some (row.branchId, row.station)

section

variable {s : KdsBoard}

theorem Sound.writeTicket (h : s.Sound) {data : QueueTicket → QueueTicket}
    (hdata : ∀ ticket, TicketSound s.clock ticket → TicketSound s.clock (data ticket))
    (ticketId : Id) : (s.writeTicket ticketId data).1.Sound := by
  unfold KdsBoard.writeTicket
  split
  · refine ⟨fun k ticket hget => ?_, h.slas, h.unique⟩
    rcases Table.update_cases hget with ⟨-, old, hold, rfl⟩ | ⟨-, hold⟩
    · exact hdata old (h.tickets _ old hold)
    · exact h.tickets k ticket hold
  · exact h

theorem findSla_none (hnone : s.findSla branchId station = none)
    (hget : s.slaConfigs.get? k = some row) :
    (row.branchId, row.station) ≠ (branchId, station) := by
  have hother := Table.findFirst_none.mp hnone k row hget
  rintro hsame
  obtain ⟨hbranch, hstation⟩ := Prod.mk.inj hsame
  simp [hbranch, hstation] at hother

theorem Sound.upsertSla (h : s.Sound) (ctx : BranchContext) (station : PrepStation)
    (dto : UpdateKdsSlaDto) : (s.upsertSla ctx station dto).Sound := by
  unfold KdsBoard.upsertSla
  split
  · refine ⟨h.tickets, fun k row hget => ?_, h.unique.update ?_ _⟩
    · rcases Table.update_cases hget with ⟨-, old, -, rfl⟩ | ⟨-, hold⟩
      · exact dto.valid
      · exact h.slas k row hold
    · exact fun _ _ hkey => hkey
  · rename_i hnone
    refine ⟨h.tickets, fun k row hget => ?_, h.unique.insert ?_⟩
    · rcases Table.insert_cases hget with ⟨-, rfl⟩ | hold
      · exact dto.valid
      · exact h.slas k row hold
    · rintro k row _ hget ⟨⟩ hsame
      exact findSla_none hnone hget (Option.some.inj hsame)

theorem Sound.exec (h : s.Sound) (k : BoardStatement) : (s.exec k).1.Sound := by
  cases k with
  | createTicket ctx orderId group =>
    refine ⟨fun k ticket hget => ?_, h.slas, h.unique⟩
    rcases Table.insert_cases hget with ⟨-, rfl⟩ | hold
    · exact ⟨rfl, Nat.le_refl _, by simp [newTicket, KdsService.ticketFor],
        by simp [newTicket, KdsService.ticketFor]⟩
    · exact h.tickets k ticket hold
  | setReady ticketId readyAt =>
    refine h.writeTicket (fun ticket ht => ?_) ticketId
    exact ⟨ht.started, ht.created, by simp, by simp⟩
  | setRecalled ticketId recalledAt =>
    refine h.writeTicket (fun ticket ht => ?_) ticketId
    exact ⟨ht.started, ht.created, by simp, by simp⟩
  | upsertSla ctx station dto => exact h.upsertSla ctx station dto
  | now | findTicket | findSla | emit => exact ⟨h.tickets, h.slas, h.unique⟩

theorem Sound.wait (h : s.Sound) (ms : Nat) : (s.wait ms).Sound where
  tickets k ticket hget :=
    have ht := h.tickets k ticket hget
    ⟨ht.started, ht.created.trans (Nat.le_add_right _ _), ht.ready, ht.recalled⟩
  slas := h.slas
  unique := h.unique

theorem boardAfter_sound (calls : List BoardCall) (turns : List Turn) :
    (boardAfter calls turns).Sound := by
  have hempty : Sound {} :=
    ⟨fun _ _ hget => (by cases hget), fun _ _ hget => (by cases hget),
      fun _ _ _ _ _ hget => (by cases hget)⟩
  exact Turn.foldl_keeps (I := Sound) (fun _ s k hs => hs.exec k) (fun s ms hs => hs.wait ms) hempty
    turns

end

-- ---
-- All pages of a queue
-- ---

def fetchQueue (s : KdsBoard) (ctx : BranchContext) (query : ListKdsQueueQueryDto) (size : Nat)
    (order : Arranged (fun row : Id × QueueTicket => row.2.createdAt) (s.matching ctx query))
    (page : Nat) : List QueueEntry :=
  (s.getQueue ctx { query with page := some page, pageSize := some (size + 1) } order).data

/-- All pages of `size + 1` tickets, with no write in between. -/
def queuePages (s : KdsBoard) (ctx : BranchContext) (query : ListKdsQueueQueryDto) (size : Nat)
    (order : Arranged (fun row : Id × QueueTicket => row.2.createdAt) (s.matching ctx query)) :
    List QueueEntry :=
  walk (s.fetchQueue ctx query size order) ((s.matching ctx query).length + 1) 1

section

variable {s : KdsBoard} {ctx : BranchContext} {query : ListKdsQueueQueryDto}
  {order : Arranged (fun row : Id × QueueTicket => row.2.createdAt) (s.matching ctx query)}

theorem urgencyOrder_injective : Function.Injective urgencyOrder := by
  intro a b h
  cases a <;> cases b <;> first | rfl | cases h

theorem before_iff {a b : QueueEntry} (hcreated : a.createdAt ≤ b.createdAt) :
    a.before b ↔ urgencyOrder a.urgencyState ≤ urgencyOrder b.urgencyState := by
  rw [QueueEntry.before, and_iff_left hcreated, ← urgencyOrder_injective.eq_iff]
  exact le_iff_lt_or_eq.symm

theorem elapsedSeconds_anti (now : Time) (h : started ≤ started') :
    elapsedSeconds now started' ≤ elapsedSeconds now started :=
  Int.ediv_le_ediv (by decide) (Int.sub_le_sub_left (Int.ofNat_le.mpr h) _)

/-- The longer it takes, the more urgent it is. -/
theorem urgency_anti (sla : Sla) (h : elapsed ≤ elapsed') :
    urgencyOrder (computeUrgency elapsed' sla) ≤ urgencyOrder (computeUrgency elapsed sla) := by
  simp only [computeUrgency]
  split_ifs <;> first | omega | decide

theorem matching_nodup : (s.matching ctx query).Nodup :=
  .of_map _ (Table.findMany_keys _ _)

theorem queuePages_eq (size : Nat) : s.queuePages ctx query size order =
    (walk (fun page => (pageOf (size + 1) order.list page).insertionSort
      fun a b => (s.entryOf ctx a).before (s.entryOf ctx b))
      ((s.matching ctx query).length + 1) 1).map (s.entryOf ctx) := by
  rw [← walk_map, queuePages]
  congr 1
  funext page
  exact (List.map_insertionSort (fun a b => (s.entryOf ctx a).before (s.entryOf ctx b))
    QueueEntry.before (s.entryOf ctx) _ fun _ _ _ _ => Iff.rfl).symm

/-- Every ticket of the queue is on one page. -/
theorem queuePages_perm (size : Nat) :
    (s.queuePages ctx query size order).Perm ((s.matching ctx query).map (s.entryOf ctx)) := by
  have hlength : order.list.length < (s.matching ctx query).length + 1 := by
    rw [order.perm.length_eq]
    exact Nat.lt_succ_self _
  have hpages := walk_perm (fun page => List.perm_insertionSort
    (fun a b => (s.entryOf ctx a).before (s.entryOf ctx b)) (pageOf (size + 1) order.list page))
    ((s.matching ctx query).length + 1) 1
  rw [walk_pageOf (Nat.succ_pos _) hlength] at hpages
  rw [queuePages_eq]
  exact (hpages.trans order.perm).map _

theorem mem_station
    (h : (k, ticket) ∈ s.matching ctx { station := some station, status := status }) :
    s.tickets.get? k = some ticket ∧ ticket.station = station := by
  obtain ⟨hget, hmatches⟩ := Table.mem_findMany.mp h
  simp only [queueMatches, Option.all_some, Bool.and_eq_true, beq_iff_eq] at hmatches
  exact ⟨hget, hmatches.1.2.symm⟩

theorem Sound.getSlaForStation (h : s.Sound) (branchId : Id) (station : PrepStation) :
    (s.getSlaForStation branchId station).Valid := by
  unfold KdsBoard.getSlaForStation
  cases hfind : s.findSla branchId station with
  | none => exact ⟨by decide, by decide, by decide⟩
  | some row => exact h.slas row.1 row.2 (Table.findFirst_some hfind).1

/-- What is left of a ticket's time says its colour. -/
theorem colour_iff {sla : Sla} (hvalid : sla.Valid) (elapsed : Int) :
    (computeUrgency elapsed sla = .red ↔ max 0 (sla.redSeconds - elapsed) = 0) ∧
      (computeUrgency elapsed sla = .green ↔ max 0 (sla.amberSeconds - elapsed) ≠ 0) := by
  have hle := hvalid.amber_le_red
  unfold computeUrgency
  split_ifs <;> simp <;> omega

/-- Whatever the size of a page, the pages are in order of urgency one after another, exactly if
of two tickets the newer is not the more urgent. -/
theorem queue_in_order_iff (s : KdsBoard) (ctx : BranchContext) (query : ListKdsQueueQueryDto) :
    (∀ size order, (s.queuePages ctx query size order).Pairwise QueueEntry.before) ↔
      ∀ a ∈ s.matching ctx query, ∀ b ∈ s.matching ctx query, a ≠ b →
        a.2.createdAt ≤ b.2.createdAt →
        urgencyOrder (s.entryOf ctx a).urgencyState ≤
          urgencyOrder (s.entryOf ctx b).urgencyState := by
  simp only [queuePages_eq, List.pairwise_map]
  rw [sorted_pages_iff matching_nodup]
  refine forall_congr' fun a => forall_congr' fun _ => forall_congr' fun b =>
    forall_congr' fun _ => forall_congr' fun _ => forall_congr' fun hcreated => ?_
  exact before_iff hcreated

end

end KdsBoard

end NimbusPos
