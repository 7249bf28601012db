import NimbusPos.Lib.Run
import NimbusPos.Lib.Tally
import NimbusPos.Orders.Service

/-!
# Kitchen tickets

`createTicketsForOrder` writes one ticket a station, each by a statement of its own,
and `sendOrder` starts it without waiting for it: the calls that are under way are
the threads of a pool over the kitchen's store. A call may be left by its database
before any statement.
-/

namespace NimbusPos

open Lib Lib.Service

inductive PrepStation
  | kitchen
  | bar
  | coldKitchen
  | dessert
  | none
  deriving DecidableEq, Repr

inductive KdsTicketStatus
  | queued
  | ready
  | recalled
  deriving DecidableEq, Repr

/-- `items` are the `orderItemId`s of the rows created with the ticket. -/
structure KdsTicket where
  orgId : Id
  branchId : Id
  orderId : Id
  station : PrepStation
  status : KdsTicketStatus := .queued
  items : List Id
  deriving DecidableEq, Repr

/-- The orders with what the tickets add to them; `station` is the column of a menu
item. -/
structure Kitchen where
  pos : Store
  station : Id → PrepStation
  tickets : Table KdsTicket := .empty

namespace Kitchen

/-- `order.items`, each with the station of its menu item. -/
def orderedItems (s : Kitchen) (orderId : Id) : List (Id × PrepStation) :=
  (s.pos.itemsOf orderId).map fun row => (row.1, s.station row.2.menuItemId)

def ticketsOf (s : Kitchen) (orderId : Id) : List (Id × KdsTicket) :=
  s.tickets.findMany fun _ ticket => ticket.orderId == orderId

end Kitchen

namespace KdsService

/-- Items by station, those of `NONE` left out. -/
def stationGroups (items : List (Id × PrepStation)) : Groups PrepStation Id :=
  .collect ((items.filter fun item => item.2 != .none).map fun item => (item.2, item.1))

/-- Where a call of `createTicketsForOrder` stands: which statement it takes next and
what it has read. -/
inductive Stage
  | started
  | orderRead (items : List (Id × PrepStation))
  | creating (groups : Groups PrepStation Id) (created : List Id)
  | returned (tickets : List Id)
  | failed (error : HttpError)
  deriving DecidableEq, Repr

structure TicketCall where
  ctx : BranchContext
  orderId : Id
  stage : Stage := .started
  deriving DecidableEq, Repr

/-- `order.findFirst` and the check of its status. -/
def readOrder (s : Kitchen) (ctx : BranchContext) (orderId : Id) : Stage :=
  match s.pos.findOrder ctx orderId with
  | none => .failed (notFound "Order not found")
  | some order =>
    if order.status = .sent then .orderRead (s.orderedItems orderId)
    else .failed (conflict "Order must be in SENT status to create KDS tickets")

/-- `kdsTicket.findMany({ where: { orderId, branchId } })`. -/
def existingTickets (s : Kitchen) (ctx : BranchContext) (orderId : Id) : List (Id × KdsTicket) :=
  s.tickets.findMany fun _ ticket => ticket.orderId == orderId && ticket.branchId == ctx.branchId

def ticketFor (ctx : BranchContext) (orderId : Id) (group : PrepStation × List Id) : KdsTicket :=
  { orgId := ctx.organizationId, branchId := ctx.branchId, orderId
    station := group.1, items := group.2 }

/-- The next statement of `createTicketsForOrder`. -/
def TicketCall.advance (s : Kitchen) (call : TicketCall) : Kitchen × TicketCall :=
  match call.stage with
  | .started => (s, { call with stage := readOrder s call.ctx call.orderId })
  | .orderRead items =>
    let existing := existingTickets s call.ctx call.orderId
    (s, { call with
      stage := if existing.isEmpty then .creating (stationGroups items) []
        else .returned (existing.map (·.1)) })
  | .creating [] created => (s, { call with stage := .returned created })
  | .creating (group :: groups) created =>
    ({ s with tickets := s.tickets.insert (ticketFor call.ctx call.orderId group) },
      { call with stage := .creating groups (created ++ [s.tickets.next]) })
  | .returned _ | .failed _ => (s, call)

/-- What the call has still to write. -/
def TicketCall.left (call : TicketCall) : Groups PrepStation Id :=
  match call.stage with
  | .creating groups _ => groups
  | _ => []

/-- The call found no tickets, or it ended with those it found or wrote. -/
def TicketCall.looked (call : TicketCall) : Bool :=
  match call.stage with
  | .creating _ _ | .returned _ => true
  | _ => false

/-- The call has read nothing that a later one does not read again. -/
def TicketCall.idle (call : TicketCall) : Bool :=
  match call.stage with
  | .started | .failed _ => true
  | _ => false

def TicketCall.returned (call : TicketCall) : Bool :=
  match call.stage with
  | .returned _ => true
  | _ => false

def TicketCall.ended (call : TicketCall) : Bool :=
  match call.stage with
  | .returned _ | .failed _ => true
  | _ => false

def findTicket (s : Kitchen) (ctx : BranchContext) (ticketId : Id) : Option KdsTicket :=
  (s.tickets.get? ticketId).filter fun ticket =>
    ticket.branchId == ctx.branchId && ticket.orgId == ctx.organizationId

def markReady (ctx : BranchContext) (ticketId : Id) : Service HttpError Kitchen Unit := do
  let s ← get
  let ticket ← need (findTicket s ctx ticketId) (notFound "KDS ticket not found")
  ensure (ticket.status != .ready) (conflict "Ticket is already READY")
  modify fun s =>
    { s with tickets := s.tickets.update ticketId fun ticket => { ticket with status := .ready } }

def recallTicket (ctx : BranchContext) (ticketId : Id) : Service HttpError Kitchen Unit := do
  let s ← get
  let ticket ← need (findTicket s ctx ticketId) (notFound "KDS ticket not found")
  ensure (ticket.status == .ready) (conflict "Only READY tickets can be recalled")
  modify fun s =>
    { s with
      tickets := s.tickets.update ticketId fun ticket => { ticket with status := .recalled } }

-- ---
-- Histories
-- ---

inductive Event
  | addOrderItem (ctx : BranchContext) (orderId : Id) (dto : OrdersService.AddOrderItemDto)
      (request : RequestMeta)
  | updateOrderItem (ctx : BranchContext) (orderId itemId : Id)
      (dto : OrdersService.UpdateOrderItemDto) (request : RequestMeta)
  | sendOrder (ctx : BranchContext) (orderId : Id) (request : RequestMeta)
  | createTicketsForOrder (ctx : BranchContext) (orderId : Id)
  /-- Call `i` takes its next statement. -/
  | turn (i : Nat)
  /-- The next statement of call `i` fails. -/
  | fails (i : Nat) (error : HttpError)

abbrev State := Pool Kitchen TicketCall

/-- A call of the order service. -/
def onOrders (x : Db Unit) (p : State) : State :=
  { p with shared := { p.shared with pos := final (x p.shared.pos) } }

/-- A call of `createTicketsForOrder` begins. -/
def begin (ctx : BranchContext) (orderId : Id) (p : State) : State :=
  { p with threads := p.threads ++ [{ ctx, orderId }] }

/-- A failed statement ends its call and writes nothing. -/
def TicketCall.fail (error : HttpError) (s : Kitchen) (call : TicketCall) : Kitchen × TicketCall :=
  (s, if call.ended then call else { call with stage := .failed error })

def Event.take (p : State) : Event → State
  | .addOrderItem ctx orderId dto request =>
    onOrders (OrdersService.addOrderItem ctx orderId dto request) p
  | .updateOrderItem ctx orderId itemId dto request =>
    onOrders (OrdersService.updateOrderItem ctx orderId itemId dto request) p
  | .sendOrder ctx orderId request =>
    let sent := onOrders (OrdersService.sendOrder ctx orderId request) p
    if returned (OrdersService.sendOrder ctx orderId request p.shared.pos) then
      begin ctx orderId sent
    else sent
  | .createTicketsForOrder ctx orderId => begin ctx orderId p
  | .turn i => p.step TicketCall.advance i
  | .fails i error => p.step (TicketCall.fail error) i

end KdsService
end NimbusPos
