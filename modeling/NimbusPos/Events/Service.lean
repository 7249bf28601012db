import NimbusPos.Common
import NimbusPos.Lib.Program
import NimbusPos.Numbering

/-!
# The events service

Events, their ticket classes, bookings, tickets and check-ins. Each call is the
program of the statements it sends; the transactions of bookings and check-ins
are one statement each.
-/

namespace NimbusPos.EventsService

open Lib Lib.Program

inductive EventStatus
  | draft
  | published
  | open
  | closed
  | cancelled
  | completed
  deriving DecidableEq, Repr

def EventStatus.toString : EventStatus → String
  | .draft => "DRAFT"
  | .published => "PUBLISHED"
  | .open => "OPEN"
  | .closed => "CLOSED"
  | .cancelled => "CANCELLED"
  | .completed => "COMPLETED"

instance : ToString EventStatus := ⟨EventStatus.toString⟩

/-- `EVENT_TRANSITIONS`. -/
def EventStatus.transitions : EventStatus → List EventStatus
  | .draft => [.published, .cancelled]
  | .published => [.open, .cancelled]
  | .open => [.closed, .cancelled]
  | .closed => [.completed]
  | .completed | .cancelled => []

inductive EventBookingStatus
  | pending
  | confirmed
  | cancelled
  | checkedIn
  | noShow
  deriving DecidableEq, Repr

inductive TicketStatus
  | issued
  | cancelled
  | checkedIn
  | voided
  deriving DecidableEq, Repr

def TicketStatus.toString : TicketStatus → String
  | .issued => "ISSUED"
  | .cancelled => "CANCELLED"
  | .checkedIn => "CHECKED_IN"
  | .voided => "VOIDED"

instance : ToString TicketStatus := ⟨TicketStatus.toString⟩

inductive CheckInStatus
  | success
  | duplicate
  | denied
  deriving DecidableEq, Repr

-- ---
-- Rows
-- ---

structure Event where
  orgId : Id
  branchId : Id
  eventNumber : String
  bookingOpensAt : Option Time
  bookingClosesAt : Option Time
  status : EventStatus := .draft
  capacity : Nat
  soldCount : Int := 0
  checkedInCount : Nat := 0
  venueTableId : Option Id
  portalKey : Option String := none
  createdAt : Time
  deriving DecidableEq, Repr

structure EventTicketClass where
  branchId : Id
  eventId : Id
  name : String
  price : Cents
  capacity : Nat
  soldCount : Int := 0
  active : Bool := true
  deriving DecidableEq, Repr

structure EventBooking where
  orgId : Id
  branchId : Id
  eventId : Id
  ticketClassId : Id
  bookingNumber : String
  customerName : String
  quantity : Nat
  subtotal : Cents
  status : EventBookingStatus := .confirmed
  createdAt : Time
  deriving DecidableEq, Repr

structure EventTicket where
  orgId : Id
  branchId : Id
  eventId : Id
  bookingId : Id
  ticketClassId : Id
  ticketNumber : String
  holderName : String
  status : TicketStatus := .issued
  qrToken : String
  createdAt : Time
  deriving DecidableEq, Repr

structure EventCheckIn where
  eventId : Id
  bookingId : Id
  ticketId : Id
  status : CheckInStatus
  message : Option String
  deriving DecidableEq, Repr

structure Store where
  clock : Time := 0
  tables : Table DiningTable := .empty
  events : Table Event := .empty
  ticketClasses : Table EventTicketClass := .empty
  bookings : Table EventBooking := .empty
  tickets : Table EventTicket := .empty
  checkIns : Table EventCheckIn := .empty

structure CreateEventDto where
  bookingOpensAt : Option Time := none
  bookingClosesAt : Option Time := none
  capacity : Nat
  venueTableId : Option Id := none
  deriving DecidableEq, Repr

/-- A field that is absent leaves its column as it is. -/
structure UpdateEventDto where
  bookingOpensAt : Option Time := none
  bookingClosesAt : Option Time := none
  capacity : Option Nat := none
  venueTableId : Option Id := none
  deriving DecidableEq, Repr

structure CreateTicketClassDto where
  name : String
  price : Cents
  capacity : Nat
  deriving DecidableEq, Repr

structure CreateBookingDto where
  ticketClassId : Id
  customerName : String
  quantity : Nat
  deriving DecidableEq, Repr

-- ---
-- Statements
-- ---

inductive Statement
  | now
  | findTable (id : Id) (ctx : BranchContext)
  | lastEventNumber (branchId : Id)
  | createEvent (ctx : BranchContext) (eventNumber : String) (dto : CreateEventDto)
  | findEvent (id : Id) (ctx : BranchContext)
  | updateEvent (id : Id) (dto : UpdateEventDto)
  | publish (id : Id) (portalKey : String)
  | setStatus (id : Id) (status : EventStatus)
  | sumCapacity (eventId : Id)
  | createTicketClass (row : EventTicketClass)
  | findTicketClass (id eventId branchId : Id)
  | lastBookingNumber (branchId : Id)
  | book (row : EventBooking)
  | findBooking (id : Id) (ctx : BranchContext)
  | cancel (bookingId : Id) (booking : EventBooking)
  | countTickets (bookingId : Id)
  | lastTicketNumber (branchId : Id)
  | createTicket (row : EventTicket)
  | findTicket (id : Id) (ctx : BranchContext)
  | createCheckIn (row : EventCheckIn)
  | checkIn (ticketId : Id) (ticket : EventTicket)
  deriving DecidableEq, Repr

abbrev Statement.Answer : Statement → Type
  | .now => Time
  | .findTable .. => Option DiningTable
  | .lastEventNumber _ | .lastBookingNumber _ | .lastTicketNumber _ => Option String
  | .findEvent .. => Option Event
  | .sumCapacity _ | .countTickets _ => Nat
  | .findTicketClass .. => Option EventTicketClass
  | .findBooking .. => Option EventBooking
  | .findTicket .. => Option EventTicket
  | .createEvent .. | .createTicketClass _ | .book _ | .createTicket _ => Id
  | _ => Unit

namespace Store

/-- The classes of an event. -/
def classCapacity (s : Store) (eventId : Id) : Int :=
  s.ticketClasses.sumWhere (fun _ cls => cls.eventId == eventId) fun cls => cls.capacity

def eventNumberTaken (s : Store) (branchId : Id) (eventNumber : String) : Bool :=
  s.events.count (fun _ event =>
    event.branchId == branchId && event.eventNumber == eventNumber) != 0

def portalKeyTaken (s : Store) (id : Id) (portalKey : String) : Bool :=
  s.events.count (fun j event => j != id && event.portalKey == some portalKey) != 0

def ticketTaken (s : Store) (row : EventTicket) : Bool :=
  s.tickets.count (fun _ ticket =>
    (ticket.branchId == row.branchId && ticket.ticketNumber == row.ticketNumber) ||
      ticket.qrToken == row.qrToken) != 0

def classNameTaken (s : Store) (row : EventTicketClass) : Bool :=
  s.ticketClasses.count (fun _ cls => cls.eventId == row.eventId && cls.name == row.name) != 0

def bookingNumberTaken (s : Store) (row : EventBooking) : Bool :=
  s.bookings.count (fun _ booking =>
    booking.branchId == row.branchId && booking.bookingNumber == row.bookingNumber) != 0

/-- `soldCount: { increment }` on a class and on its event. -/
def addSold (s : Store) (ticketClassId eventId : Id) (quantity : Int) : Store :=
  { s with
    ticketClasses := s.ticketClasses.update ticketClassId fun cls =>
      { cls with soldCount := cls.soldCount + quantity }
    events := s.events.update eventId fun event =>
      { event with soldCount := event.soldCount + quantity } }

/-- The transaction of `createBooking`. -/
def book (s : Store) (row : EventBooking) : Store :=
  { s with bookings := s.bookings.insert row }.addSold row.ticketClassId row.eventId row.quantity

/-- The transaction of `cancelBooking`, with the booking as it was read. -/
def cancel (s : Store) (bookingId : Id) (booking : EventBooking) : Store :=
  { s with
    bookings := s.bookings.update bookingId fun row => { row with status := .cancelled }
    tickets := s.tickets.updateWhere
      (fun _ ticket => ticket.bookingId == bookingId && ticket.status == TicketStatus.issued)
        fun ticket =>
        { ticket with status := .cancelled } }.addSold booking.ticketClassId booking.eventId
      (-booking.quantity)

/-- The tickets and the counter after a ticket is checked in. -/
def letIn (s : Store) (ticketId eventId : Id) : Store :=
  { s with
    tickets := s.tickets.update ticketId fun ticket => { ticket with status := .checkedIn }
    events := s.events.update eventId fun event =>
      { event with checkedInCount := event.checkedInCount + 1 } }

/-- Every ticket of the booking is checked in. -/
def allCheckedIn (s : Store) (bookingId : Id) : Bool :=
  (s.tickets.findMany fun _ ticket => ticket.bookingId == bookingId).all fun row =>
    row.2.status == .checkedIn

/-- The transaction of `checkInTicket`, with the ticket as it was read. -/
def checkIn (s : Store) (ticketId : Id) (ticket : EventTicket) : Store :=
  let s := s.letIn ticketId ticket.eventId
  if s.allCheckedIn ticket.bookingId then
    { s with
      bookings := s.bookings.update ticket.bookingId fun booking =>
        { booking with status := .checkedIn } }
  else s

def updatedEvent (dto : UpdateEventDto) (event : Event) : Event :=
  { event with
    bookingOpensAt := dto.bookingOpensAt <|> event.bookingOpensAt
    bookingClosesAt := dto.bookingClosesAt <|> event.bookingClosesAt
    capacity := dto.capacity.getD event.capacity
    venueTableId := dto.venueTableId <|> event.venueTableId }

def exec (s : Store) : (k : Statement) → Store × Except HttpError k.Answer
  | .now => (s, .ok s.clock)
  | .findTable id ctx =>
    (s, .ok ((s.tables.get? id).filter fun table =>
      table.branchId == ctx.branchId && table.orgId == ctx.organizationId))
  | .lastEventNumber branchId =>
    let last := s.events.findLatest (fun _ event => event.branchId == branchId) (·.createdAt)
    (s, .ok (last.map (·.2.eventNumber)))
  | .createEvent ctx eventNumber dto =>
    unlessTaken (s.eventNumberTaken ctx.branchId eventNumber) "(branchId, eventNumber)" s
      { s with
        events := s.events.insert
          { orgId := ctx.organizationId, branchId := ctx.branchId, eventNumber
            bookingOpensAt := dto.bookingOpensAt, bookingClosesAt := dto.bookingClosesAt
            capacity := dto.capacity, venueTableId := dto.venueTableId, createdAt := s.clock } }
      s.events.next
  | .findEvent id ctx =>
    (s, .ok ((s.events.get? id).filter fun event =>
      event.branchId == ctx.branchId && event.orgId == ctx.organizationId))
  | .updateEvent id dto => ({ s with events := s.events.update id (updatedEvent dto) }, .ok ())
  | .publish id portalKey =>
    unlessTaken (s.portalKeyTaken id portalKey) "(portalKey)" s
      { s with
        events := s.events.update id fun event =>
          { event with status := .published, portalKey := some portalKey } } ()
  | .setStatus id status =>
    ({ s with events := s.events.update id fun event => { event with status } }, .ok ())
  | .sumCapacity eventId => (s, .ok (s.classCapacity eventId).toNat)
  | .createTicketClass row =>
    unlessTaken (s.classNameTaken row) "(eventId, name)" s
      { s with ticketClasses := s.ticketClasses.insert row } s.ticketClasses.next
  | .findTicketClass id eventId branchId =>
    (s, .ok ((s.ticketClasses.get? id).filter fun cls =>
      cls.eventId == eventId && cls.branchId == branchId && cls.active))
  | .lastBookingNumber branchId =>
    let last := s.bookings.findLatest (fun _ row => row.branchId == branchId) (·.createdAt)
    (s, .ok (last.map (·.2.bookingNumber)))
  | .book row =>
    unlessTaken (s.bookingNumberTaken row) "(branchId, bookingNumber)" s
      (s.book { row with createdAt := s.clock }) s.bookings.next
  | .findBooking id ctx =>
    (s, .ok ((s.bookings.get? id).filter fun booking =>
      booking.branchId == ctx.branchId && booking.orgId == ctx.organizationId))
  | .cancel bookingId booking => (s.cancel bookingId booking, .ok ())
  | .countTickets bookingId =>
    (s, .ok (s.tickets.count fun _ ticket =>
      ticket.bookingId == bookingId && ticket.status != .cancelled))
  | .lastTicketNumber branchId =>
    let last := s.tickets.findLatest (fun _ row => row.branchId == branchId) (·.createdAt)
    (s, .ok (last.map (·.2.ticketNumber)))
  | .createTicket row =>
    unlessTaken (s.ticketTaken row) "(branchId, ticketNumber)" s
      { s with tickets := s.tickets.insert { row with createdAt := s.clock } } s.tickets.next
  | .findTicket id ctx =>
    (s, .ok ((s.tickets.get? id).filter fun ticket =>
      ticket.branchId == ctx.branchId && ticket.orgId == ctx.organizationId))
  | .createCheckIn row => ({ s with checkIns := s.checkIns.insert row }, .ok ())
  | .checkIn ticketId ticket => (s.checkIn ticketId ticket, .ok ())

end Store

-- ---
-- Calls
-- ---

abbrev EventsProgram := Program Statement Statement.Answer HttpError

abbrev query (k : Statement) : EventsProgram k.Answer := statement k

def eventLabel : List Char := "EVT-".toList

def bookingLabel : List Char := "BKG-".toList

def ticketLabel : List Char := "TKT-".toList

def findEventOrFail (id : Id) (ctx : BranchContext) : EventsProgram Event := do
  let event ← query (.findEvent id ctx)
  need event (notFound "Event not found")

def findBookingOrFail (id : Id) (ctx : BranchContext) : EventsProgram EventBooking := do
  let booking ← query (.findBooking id ctx)
  need booking (notFound "Booking not found")

def assertEventTransition (current target : EventStatus) : EventsProgram Unit :=
  ensure (current.transitions.contains target)
    (conflict ("Cannot transition event from " ++ toString current ++ " to " ++ toString target))

def checkVenueTable (venueTableId : Option Id) (ctx : BranchContext) : EventsProgram Unit :=
  match venueTableId with
  | none => pure ()
  | some id => do
    let table ← query (.findTable id ctx)
    ensure table.isSome (notFound "Table not found in this branch")

def createEvent (ctx : BranchContext) (dto : CreateEventDto) : EventsProgram Unit := do
  checkVenueTable dto.venueTableId ctx
  let last ← query (.lastEventNumber ctx.branchId)
  let _ ← query (.createEvent ctx (nextNumber eventLabel last) dto)
  return ()

def updateEvent (id : Id) (ctx : BranchContext) (dto : UpdateEventDto) : EventsProgram Unit := do
  let event ← findEventOrFail id ctx
  ensure (event.status == .draft) (badRequest "Only DRAFT events can be edited")
  checkVenueTable dto.venueTableId ctx
  query (.updateEvent id dto)

/-- `portalKey` is the key that was drawn. -/
def publishEvent (id : Id) (ctx : BranchContext) (portalKey : String) : EventsProgram Unit := do
  let event ← findEventOrFail id ctx
  assertEventTransition event.status .published
  query (.publish id portalKey)

def openEvent (id : Id) (ctx : BranchContext) : EventsProgram Unit := do
  let event ← findEventOrFail id ctx
  assertEventTransition event.status .open
  query (.setStatus id .open)

def closeEvent (id : Id) (ctx : BranchContext) : EventsProgram Unit := do
  let event ← findEventOrFail id ctx
  assertEventTransition event.status .closed
  query (.setStatus id .closed)

def createTicketClass (eventId : Id) (ctx : BranchContext) (dto : CreateTicketClassDto) :
    EventsProgram Unit := do
  let event ← findEventOrFail eventId ctx
  let existingCapacity ← query (.sumCapacity eventId)
  let totalAfter := existingCapacity + dto.capacity
  ensure (decide (totalAfter ≤ event.capacity))
    (badRequest ("Ticket class capacity would exceed event capacity (" ++ toString totalAfter ++
      " > " ++ toString event.capacity ++ ")"))
  let _ ← query (.createTicketClass
    { branchId := ctx.branchId, eventId, name := dto.name, price := dto.price
      capacity := dto.capacity })
  return ()

def createBooking (eventId : Id) (ctx : BranchContext) (dto : CreateBookingDto) :
    EventsProgram Unit := do
  let event ← findEventOrFail eventId ctx
  ensure (event.status == .published || event.status == .open)
    (badRequest "Event is not open for bookings")
  let now ← query .now
  ensure (event.bookingOpensAt.all fun opens => decide (opens ≤ now))
    (badRequest "Booking window has not opened yet")
  ensure (event.bookingClosesAt.all fun closes => decide (now ≤ closes))
    (badRequest "Booking window has closed")
  let found ← query (.findTicketClass dto.ticketClassId eventId ctx.branchId)
  let ticketClass ← need found (notFound "Ticket class not found or inactive")
  ensure (decide (ticketClass.soldCount + dto.quantity ≤ ticketClass.capacity))
    (conflict ("Not enough tickets available (remaining: " ++
      toString (ticketClass.capacity - ticketClass.soldCount) ++ ")"))
  ensure (decide (event.soldCount + dto.quantity ≤ event.capacity))
    (conflict ("Event capacity exceeded (remaining: " ++
      toString (event.capacity - event.soldCount) ++ ")"))
  let last ← query (.lastBookingNumber ctx.branchId)
  let _ ← query (.book
    { orgId := ctx.organizationId, branchId := ctx.branchId, eventId
      ticketClassId := dto.ticketClassId, bookingNumber := nextNumber bookingLabel last
      customerName := dto.customerName, quantity := dto.quantity
      subtotal := ticketClass.price * dto.quantity, createdAt := now })
  return ()

def cancelBooking (bookingId : Id) (ctx : BranchContext) : EventsProgram Unit := do
  let booking ← findBookingOrFail bookingId ctx
  ensure (booking.status != .cancelled) (conflict "Booking is already cancelled")
  ensure (booking.status != .checkedIn) (badRequest "Cannot cancel a checked-in booking")
  query (.cancel bookingId booking)
  let _ ← findBookingOrFail bookingId ctx
  return ()

/-- The tickets still to issue, with the tokens drawn for them. -/
def issueRemaining (bookingId : Id) (booking : EventBooking) (ctx : BranchContext)
    (holderName : Option String) : List String → EventsProgram Unit
  | [] => pure ()
  | qrToken :: tokens => do
    let last ← query (.lastTicketNumber ctx.branchId)
    let _ ← query (.createTicket
      { orgId := ctx.organizationId, branchId := ctx.branchId, eventId := booking.eventId
        bookingId, ticketClassId := booking.ticketClassId
        ticketNumber := nextNumber ticketLabel last
        holderName := (holderName.filter (· != "")).getD booking.customerName, qrToken
        createdAt := 0 })
    issueRemaining bookingId booking ctx holderName tokens

/-- `tokens` draws the token of the ticket of each number. -/
def issueTickets (bookingId : Id) (ctx : BranchContext) (holderName : Option String)
    (tokens : Nat → String) : EventsProgram Unit := do
  let booking ← findBookingOrFail bookingId ctx
  ensure (booking.status == .confirmed)
    (badRequest "Tickets can only be issued for confirmed bookings")
  let existingCount ← query (.countTickets bookingId)
  ensure (decide (existingCount < booking.quantity))
    (conflict "All tickets have already been issued for this booking")
  let remaining := booking.quantity - existingCount
  issueRemaining bookingId booking ctx holderName ((List.range remaining).map tokens)

/-- The log row of a check-in. -/
def checkInRow (ticketId : Id) (ticket : EventTicket) (status : CheckInStatus)
    (message : Option String) : EventCheckIn :=
  { eventId := ticket.eventId, bookingId := ticket.bookingId, ticketId, status, message }

def checkInTicket (ticketId : Id) (ctx : BranchContext) (message : Option String) :
    EventsProgram Unit := do
  let found ← query (.findTicket ticketId ctx)
  let ticket ← need found (notFound "Ticket not found")
  match ticket.status with
  | .checkedIn =>
    query (.createCheckIn (checkInRow ticketId ticket .duplicate "Ticket already checked in"))
    throw (conflict "Ticket has already been checked in")
  | .cancelled | .voided =>
    query (.createCheckIn
      (checkInRow ticketId ticket .denied ("Ticket is " ++ toString ticket.status)))
    throw (badRequest ("Cannot check in a " ++ toString ticket.status ++ " ticket"))
  | .issued =>
    query (.checkIn ticketId ticket)
    query (.createCheckIn (checkInRow ticketId ticket .success message))

inductive EventsCall
  | createEvent (ctx : BranchContext) (dto : CreateEventDto)
  | updateEvent (id : Id) (ctx : BranchContext) (dto : UpdateEventDto)
  | publishEvent (id : Id) (ctx : BranchContext) (portalKey : String)
  | openEvent (id : Id) (ctx : BranchContext)
  | closeEvent (id : Id) (ctx : BranchContext)
  | createTicketClass (eventId : Id) (ctx : BranchContext) (dto : CreateTicketClassDto)
  | createBooking (eventId : Id) (ctx : BranchContext) (dto : CreateBookingDto)
  | cancelBooking (bookingId : Id) (ctx : BranchContext)
  | issueTickets (bookingId : Id) (ctx : BranchContext) (holderName : Option String)
      (tokens : Nat → String)
  | checkInTicket (ticketId : Id) (ctx : BranchContext) (message : Option String)

def EventsCall.program : EventsCall → EventsProgram Unit
  | .createEvent ctx dto => EventsService.createEvent ctx dto
  | .updateEvent id ctx dto => EventsService.updateEvent id ctx dto
  | .publishEvent id ctx portalKey => EventsService.publishEvent id ctx portalKey
  | .openEvent id ctx => EventsService.openEvent id ctx
  | .closeEvent id ctx => EventsService.closeEvent id ctx
  | .createTicketClass eventId ctx dto => EventsService.createTicketClass eventId ctx dto
  | .createBooking eventId ctx dto => EventsService.createBooking eventId ctx dto
  | .cancelBooking bookingId ctx => EventsService.cancelBooking bookingId ctx
  | .issueTickets bookingId ctx holderName tokens =>
    EventsService.issueTickets bookingId ctx holderName tokens
  | .checkInTicket ticketId ctx message => EventsService.checkInTicket ticketId ctx message

end NimbusPos.EventsService
