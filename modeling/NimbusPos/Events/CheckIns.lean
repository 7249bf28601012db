import NimbusPos.Events.Service

/-!
# Tickets and check-ins

Each call runs alone and may be cut off after any of its statements. An event has checked in as
many tickets as its counter says, a booking never has more tickets than places. But a booking of
which some guests are already there can still be cancelled, and then the event has sold fewer
places than it has checked in; and of a booking whose tickets were issued in part, the last one
issued checks in the whole booking. `visits_accounted`: without these the accounts are right
after any calls.
-/

namespace NimbusPos.EventsService

open Lib Lib.Program

namespace Store

/-- The tickets of an event that are checked in. -/
def checkedIn (s : Store) (eventId : Id) : Nat :=
  s.tickets.count fun _ ticket => ticket.eventId == eventId && ticket.status == .checkedIn

/-- The tickets of a booking that are checked in. -/
def arrived (s : Store) (bookingId : Id) : Nat :=
  s.tickets.count fun _ ticket => ticket.bookingId == bookingId && ticket.status == .checkedIn

/-- The tickets of a booking that are not cancelled. -/
def live (s : Store) (bookingId : Id) : Nat :=
  s.tickets.count fun _ ticket => ticket.bookingId == bookingId && ticket.status != .cancelled

end Store

/-- The places a booking takes at an event. -/
def places (eventId : Id) (booking : EventBooking) : Int :=
  if booking.eventId = eventId ∧ booking.status ≠ .cancelled then booking.quantity else 0

def Store.booked (s : Store) (eventId : Id) : Int := s.bookings.total fun _ => places eventId

structure TicketsAccounted (s : Store) : Prop where
  checked_in : ∀ e event, s.events.get? e = some event → event.checkedInCount = s.checkedIn e
  within_sold : ∀ e event, s.events.get? e = some event → event.checkedInCount ≤ event.soldCount
  within_quantity : ∀ b booking, s.bookings.get? b = some booking → s.live b ≤ booking.quantity
  complete : ∀ b booking, s.bookings.get? b = some booking → booking.status = .checkedIn →
    s.arrived b = booking.quantity

/-- What orderly calls keep. -/
structure Admitted (s : Store) : Prop where
  checked_in : ∀ e event, s.events.get? e = some event → event.checkedInCount = s.checkedIn e
  sold : ∀ e event, s.events.get? e = some event → event.soldCount = s.booked e
  within_quantity : ∀ b booking, s.bookings.get? b = some booking → s.live b ≤ booking.quantity
  complete : ∀ b booking, s.bookings.get? b = some booking → booking.status = .checkedIn →
    s.arrived b = booking.quantity
  cancelled : ∀ t ticket booking, s.tickets.get? t = some ticket →
    s.bookings.get? ticket.bookingId = some booking → booking.status = .cancelled →
      ticket.status ≠ .issued ∧ ticket.status ≠ .checkedIn
  ticket_booking : ∀ t ticket, s.tickets.get? t = some ticket →
    ∃ booking, s.bookings.get? ticket.bookingId = some booking ∧
      booking.eventId = ticket.eventId
  booking_event : ∀ b booking, s.bookings.get? b = some booking →
    (s.events.get? booking.eventId).isSome = true

/-- Events with their classes, of which nothing is sold yet. -/
structure Unsold (s : Store) : Prop where
  bookings : s.bookings = .empty
  tickets : s.tickets = .empty
  events : ∀ e event, s.events.get? e = some event →
    event.soldCount = 0 ∧ event.checkedInCount = 0

variable {s : Store}

theorem Unsold.admitted (h : Unsold s) : Admitted s where
  checked_in e event hget := by
    simp [Store.checkedIn, h.tickets, (h.events e event hget).2, Table.count, Table.findMany,
      Table.empty]
  sold e event hget := by
    simp [Store.booked, h.bookings, (h.events e event hget).1, Table.total, Table.empty]
  within_quantity b booking hget := by
    rw [h.bookings] at hget
    cases hget
  complete b booking hget := by
    rw [h.bookings] at hget
    cases hget
  cancelled t ticket booking hget := by
    rw [h.tickets] at hget
    cases hget
  ticket_booking t ticket hget := by
    rw [h.tickets] at hget
    cases hget
  booking_event b booking hget := by
    rw [h.bookings] at hget
    cases hget

-- ---
-- What is sold covers what is checked in
-- ---

theorem arrived_le_live (s : Store) (b : Id) : s.arrived b ≤ s.live b := by
  refine Table.count_mono fun _ ticket h => ?_
  simp only [Bool.and_eq_true, beq_iff_eq] at h
  simp [h]

/-- A ticket that is still to be checked in. -/
theorem arrived_lt_live (hget : s.tickets.get? t = some ticket)
    (hissued : ticket.status = .issued) :
    s.arrived ticket.bookingId < s.live ticket.bookingId := by
  refine lt_of_le_of_ne (arrived_le_live s _) fun heq => ?_
  have hall := (Table.count_eq_iff fun _ other hother => ?_).mp heq t ticket hget
    (by simp [hissued])
  · simp [hissued] at hall
  · simp only [Bool.and_eq_true, beq_iff_eq] at hother
    simp [hother]

/-- The tickets of an event are those of its bookings. -/
theorem Admitted.checkedIn_eq (h : Admitted s) (e : Id) :
    (s.checkedIn e : Int) =
      s.bookings.total fun b booking => if booking.eventId = e then (s.arrived b : Int) else 0 := by
  have hspread : (s.checkedIn e : Int) = s.tickets.total fun _ ticket =>
      s.bookings.total fun b booking => if booking.eventId = e then
        (if ticket.bookingId = b ∧ ticket.status = .checkedIn then 1 else 0) else 0 := by
    rw [Store.checkedIn, Table.count_eq_total]
    refine Table.total_congr fun t ticket hget => ?_
    obtain ⟨booking, hbooking, hevent⟩ := h.ticket_booking t ticket hget
    rw [Table.total_only hbooking]
    · simp [hevent, ← ite_and]
    · intro b _ _ hne
      simp [Ne.symm hne]
  rw [hspread, Table.total_comm]
  refine Table.total_congr fun b booking _ => ?_
  split
  · simp [Store.arrived, Table.count_eq_total]
  · exact Table.total_zero fun _ _ _ => rfl

theorem Admitted.arrived_le_places (h : Admitted s) (hget : s.bookings.get? b = some booking) :
    (if booking.eventId = e then (s.arrived b : Int) else 0) ≤ places e booking := by
  have hle := (arrived_le_live s b).trans (h.within_quantity b booking hget)
  by_cases hevent : booking.eventId = e
  · by_cases hcancelled : booking.status = .cancelled
    · have hnone : s.arrived b = 0 := by
        rw [Store.arrived, Table.count_eq_zero]
        intro t ticket hticket
        by_cases hof : ticket.bookingId = b
        · subst hof
          simp [(h.cancelled t ticket booking hticket hget hcancelled).2]
        · simp [hof]
      simp [places, hevent, hcancelled, hnone]
    · simp only [places, hevent, hcancelled, if_true, ne_eq, not_false_eq_true, and_self]
      exact_mod_cast hle
  · simp [places, hevent]

theorem Admitted.accounted (h : Admitted s) : TicketsAccounted s where
  checked_in := h.checked_in
  within_sold e event hget := by
    rw [h.checked_in e event hget, h.sold e event hget, h.checkedIn_eq, Store.booked]
    exact Table.total_le fun b booking hbooking => h.arrived_le_places hbooking
  within_quantity := h.within_quantity
  complete := h.complete

-- ---
-- The statements
-- ---

/-- The accounts do not depend on the other tables. -/
theorem Admitted.of_rows (h : Admitted s) (hevents : r.events = s.events)
    (hbookings : r.bookings = s.bookings) (htickets : r.tickets = s.tickets) : Admitted r := by
  obtain ⟨_, _, events, _, bookings, tickets, _⟩ := r
  subst hevents hbookings htickets
  exact ⟨h.checked_in, h.sold, h.within_quantity, h.complete, h.cancelled, h.ticket_booking,
    h.booking_event⟩

/-- An event is changed, but not its counts. -/
theorem Admitted.events (h : Admitted s) {f : Event → Event}
    (hsold : ∀ event, (f event).soldCount = event.soldCount)
    (hchecked : ∀ event, (f event).checkedInCount = event.checkedInCount) (j : Id) :
    Admitted { s with events := s.events.update j f } where
  checked_in e event hget := by
    rcases Table.update_cases hget with ⟨-, old, hold, rfl⟩ | ⟨-, hold⟩
    · rw [hchecked]
      exact h.checked_in e old hold
    · exact h.checked_in e event hold
  sold e event hget := by
    rcases Table.update_cases hget with ⟨-, old, hold, rfl⟩ | ⟨-, hold⟩
    · rw [hsold]
      exact h.sold e old hold
    · exact h.sold e event hold
  within_quantity := h.within_quantity
  complete := h.complete
  cancelled := h.cancelled
  ticket_booking := h.ticket_booking
  booking_event b booking hget := Table.isSome_update (h.booking_event b booking hget)

/-- The rows of a fresh event: no booking names it yet. -/
theorem Admitted.createEvent (h : Admitted s) (event : Event) (hsold : event.soldCount = 0)
    (hchecked : event.checkedInCount = 0) :
    Admitted { s with events := s.events.insert event } where
  checked_in e event' hget := by
    rcases Table.insert_cases hget with ⟨rfl, rfl⟩ | hold
    · rw [hchecked, eq_comm, Store.checkedIn, Table.count_eq_zero]
      intro t ticket hticket
      obtain ⟨booking, hbooking, hevent⟩ := h.ticket_booking t ticket hticket
      obtain ⟨old, hold⟩ := Option.isSome_iff_exists.mp (h.booking_event _ booking hbooking)
      have hne : ticket.eventId ≠ s.events.next := by
        rw [← hevent]
        exact (Table.lt_next hold).ne
      simp [hne]
    · exact h.checked_in e event' hold
  sold e event' hget := by
    rcases Table.insert_cases hget with ⟨rfl, rfl⟩ | hold
    · rw [hsold, eq_comm]
      refine Table.total_zero fun b booking hbooking => ?_
      obtain ⟨old, hold⟩ := Option.isSome_iff_exists.mp (h.booking_event b booking hbooking)
      simp [places, (Table.lt_next hold).ne]
    · exact h.sold e event' hold
  within_quantity := h.within_quantity
  complete := h.complete
  cancelled := h.cancelled
  ticket_booking := h.ticket_booking
  booking_event b booking hget := by
    obtain ⟨old, hold⟩ := Option.isSome_iff_exists.mp (h.booking_event b booking hget)
    exact Option.isSome_iff_exists.mpr ⟨old, Table.get?_insert_of_some hold⟩

theorem Admitted.book (h : Admitted s) (row : EventBooking) (hstatus : row.status = .confirmed)
    (hevent : (s.events.get? row.eventId).isSome = true) : Admitted (s.book row) where
  checked_in e event hget := by
    rcases Table.update_cases hget with ⟨-, old, hold, rfl⟩ | ⟨-, hold⟩
    · exact h.checked_in e old hold
    · exact h.checked_in e event hold
  sold e event hget := by
    have hbooked : (s.book row).booked e = s.booked e + places e row := Table.total_insert _ _ _
    rw [hbooked]
    rcases Table.update_cases hget with ⟨rfl, old, hold, rfl⟩ | ⟨hne, hold⟩
    · simp [places, hstatus, h.sold _ old hold]
    · simp [places, Ne.symm hne, h.sold e event hold]
  within_quantity b booking hget := by
    rcases Table.insert_cases hget with ⟨rfl, rfl⟩ | hold
    · have hnone : s.live s.bookings.next = 0 := by
        rw [Store.live, Table.count_eq_zero]
        intro t ticket hticket
        obtain ⟨old, hold, -⟩ := h.ticket_booking t ticket hticket
        simp [(Table.lt_next hold).ne]
      exact hnone.trans_le (Nat.zero_le _)
    · exact h.within_quantity b booking hold
  complete b booking hget hchecked := by
    rcases Table.insert_cases hget with ⟨-, rfl⟩ | hold
    · rw [hstatus] at hchecked
      cases hchecked
    · exact h.complete b booking hold hchecked
  cancelled t ticket booking hticket hget hcancelled := by
    rcases Table.insert_cases hget with ⟨-, rfl⟩ | hold
    · rw [hstatus] at hcancelled
      cases hcancelled
    · exact h.cancelled t ticket booking hticket hold hcancelled
  ticket_booking t ticket hticket := by
    obtain ⟨booking, hget, hlink⟩ := h.ticket_booking t ticket hticket
    exact ⟨booking, Table.get?_insert_of_some hget, hlink⟩
  booking_event b booking hget := by
    refine Table.isSome_update ?_
    rcases Table.insert_cases hget with ⟨-, rfl⟩ | hold
    · exact hevent
    · exact h.booking_event b booking hold

theorem Admitted.createTicket (h : Admitted s) (row : EventTicket)
    (hget : s.bookings.get? row.bookingId = some booking) (hlink : booking.eventId = row.eventId)
    (hconfirmed : booking.status = .confirmed) (hissued : row.status = .issued)
    (hroom : s.live row.bookingId < booking.quantity) :
    Admitted { s with tickets := s.tickets.insert row } where
  checked_in e event hevent := by
    simpa [Store.checkedIn, Table.count_insert, hissued] using h.checked_in e event hevent
  sold := h.sold
  within_quantity b booking' hget' := by
    have hold := h.within_quantity b booking' hget'
    simp only [Store.live, Table.count_insert] at hold hroom ⊢
    by_cases hof : row.bookingId = b
    · subst hof
      obtain rfl := Option.some.inj (hget.symm.trans hget')
      simp [hissued]
      omega
    · simp [hof]
      exact hold
  complete b booking' hget' hchecked := by
    simpa [Store.arrived, Table.count_insert, hissued] using h.complete b booking' hget' hchecked
  cancelled t ticket booking' hticket hget' hcancelled := by
    rcases Table.insert_cases hticket with ⟨-, rfl⟩ | hold
    · obtain rfl := Option.some.inj (hget.symm.trans hget')
      rw [hconfirmed] at hcancelled
      cases hcancelled
    · exact h.cancelled t ticket booking' hold hget' hcancelled
  ticket_booking t ticket hticket := by
    rcases Table.insert_cases hticket with ⟨-, rfl⟩ | hold
    · exact ⟨booking, hget, hlink⟩
    · exact h.ticket_booking t ticket hold
  booking_event := h.booking_event

-- ---
-- Cancelling a booking
-- ---

theorem checkedIn_cancel : (s.cancel b booking).checkedIn e = s.checkedIn e := by
  simp only [Store.checkedIn, Store.cancel, Store.addSold]
  refine Table.count_updateWhere fun _ ticket hof => ?_
  simp only [Bool.and_eq_true, beq_iff_eq] at hof
  rw [hof.2]
  rfl

theorem arrived_cancel : (s.cancel b booking).arrived c = s.arrived c := by
  simp only [Store.arrived, Store.cancel, Store.addSold]
  refine Table.count_updateWhere fun _ ticket hof => ?_
  simp only [Bool.and_eq_true, beq_iff_eq] at hof
  rw [hof.2]
  rfl

theorem live_cancel_le : (s.cancel b booking).live c ≤ s.live c := by
  simp only [Store.live, Store.cancel, Store.addSold]
  exact Table.count_updateWhere_le fun _ ticket hof => by simp at hof

theorem booked_cancel (hget : s.bookings.get? b = some booking) :
    (s.cancel b booking).booked e = s.booked e - places e booking := by
  simp only [Store.booked, Store.cancel, Store.addSold, Table.total_update hget]
  simp [places, sub_eq_add_neg]

/-- A ticket afterwards is one from before, cancelled if it was issued for the booking. -/
theorem cancel_ticket (h : (s.cancel b booking).tickets.get? t = some ticket) :
    ∃ old, s.tickets.get? t = some old ∧ old.bookingId = ticket.bookingId ∧
      old.eventId = ticket.eventId ∧
        (ticket.status = .cancelled ∨
          old.status = ticket.status ∧ ¬(ticket.bookingId = b ∧ ticket.status = .issued)) := by
  simp only [Store.cancel, Store.addSold, Table.get?_updateWhere, Option.map_eq_some_iff] at h
  obtain ⟨old, hold, rfl⟩ := h
  refine ⟨old, hold, ?_⟩
  split
  · exact ⟨rfl, rfl, .inl rfl⟩
  · rename_i hother
    exact ⟨rfl, rfl, .inr ⟨rfl, by simpa using hother⟩⟩

theorem cancel_booking (h : (s.cancel b booking).bookings.get? c = some row) :
    ∃ old, s.bookings.get? c = some old ∧ row.quantity = old.quantity ∧
      row.eventId = old.eventId ∧ (c = b ∧ row.status = .cancelled ∨ c ≠ b ∧ row = old) := by
  rcases Table.update_cases h with ⟨rfl, old, hold, rfl⟩ | ⟨hne, hold⟩
  · exact ⟨old, hold, rfl, rfl, .inl ⟨rfl, rfl⟩⟩
  · exact ⟨row, hold, rfl, rfl, .inr ⟨hne, rfl⟩⟩

/-- A booking is cancelled of which no guest is there yet. -/
theorem Admitted.cancel (h : Admitted s) (hget : s.bookings.get? b = some booking)
    (hstatus : booking.status ≠ .cancelled) (hnone : s.arrived b = 0) :
    Admitted (s.cancel b booking) where
  checked_in e event hevent := by
    rw [checkedIn_cancel]
    rcases Table.update_cases hevent with ⟨-, old, hold, rfl⟩ | ⟨-, hold⟩
    · exact h.checked_in e old hold
    · exact h.checked_in e event hold
  sold e event hevent := by
    rw [booked_cancel hget]
    rcases Table.update_cases hevent with ⟨rfl, old, hold, rfl⟩ | ⟨hne, hold⟩
    · simp [places, hstatus, h.sold _ old hold, sub_eq_add_neg]
    · simp [places, Ne.symm hne, h.sold e event hold]
  within_quantity c row hrow := by
    obtain ⟨old, hold, hquantity, -⟩ := cancel_booking hrow
    rw [hquantity]
    exact live_cancel_le.trans (h.within_quantity c old hold)
  complete c row hrow hchecked := by
    obtain ⟨old, hold, -, -, ⟨-, hcancelled⟩ | ⟨-, rfl⟩⟩ := cancel_booking hrow
    · rw [hcancelled] at hchecked
      cases hchecked
    · rw [arrived_cancel]
      exact h.complete c row hold hchecked
  cancelled t ticket row hticket hrow hcancelled := by
    obtain ⟨old, hold, hof, -, hstatus' | ⟨hsame, hother⟩⟩ := cancel_ticket hticket
    · simp [hstatus']
    · obtain ⟨before, hbefore, -, -, ⟨hthis, -⟩ | ⟨-, rfl⟩⟩ := cancel_booking hrow
      · have hcount := Table.count_eq_zero.mp hnone t old hold
        simp only [hof, hthis, beq_self_eq_true, Bool.true_and, beq_eq_false_iff_ne] at hcount
        rw [hsame] at hcount
        exact ⟨fun hissued => hother ⟨hthis, hissued⟩, hcount⟩
      · rw [← hsame]
        exact h.cancelled t old row hold (hof ▸ hbefore) hcancelled
  ticket_booking t ticket hticket := by
    obtain ⟨old, hold, hof, hlink, -⟩ := cancel_ticket hticket
    obtain ⟨row, hrow, hevent⟩ := h.ticket_booking t old hold
    obtain ⟨row', hrow'⟩ : ∃ row', (s.cancel b booking).bookings.get? old.bookingId = some row' :=
      Table.exists_update ⟨row, hrow⟩
    obtain ⟨before, hbefore, -, hevent', -⟩ := cancel_booking hrow'
    obtain rfl := Option.some.inj (hrow.symm.trans hbefore)
    exact ⟨row', hof ▸ hrow', hevent'.trans (hevent.trans hlink)⟩
  booking_event c row hrow := by
    obtain ⟨old, hold, -, hevent, -⟩ := cancel_booking hrow
    rw [hevent]
    exact Table.isSome_update (h.booking_event c old hold)

-- ---
-- Letting a ticket in
-- ---

theorem checkedIn_letIn (hget : s.tickets.get? k = some ticket)
    (hissued : ticket.status = .issued) :
    (s.letIn k eventId).checkedIn e = s.checkedIn e + if ticket.eventId = e then 1 else 0 := by
  have hcount := Table.count_update_add hget
    (fun ticket : EventTicket => { ticket with status := .checkedIn })
    fun _ ticket => ticket.eventId == e && ticket.status == .checkedIn
  simpa [Store.checkedIn, Store.letIn, hissued] using hcount

theorem live_letIn (hget : s.tickets.get? k = some ticket) (hissued : ticket.status = .issued) :
    (s.letIn k eventId).live b = s.live b := by
  simp only [Store.live, Store.letIn]
  refine Table.count_update hget _ ?_
  rw [hissued]
  rfl

theorem arrived_letIn (hget : s.tickets.get? k = some ticket) (hne : b ≠ ticket.bookingId) :
    (s.letIn k eventId).arrived b = s.arrived b := by
  simp only [Store.arrived, Store.letIn]
  exact Table.count_update hget _ (by simp [Ne.symm hne])

theorem letIn_ticket (h : (s.letIn k eventId).tickets.get? t = some after) :
    ∃ old, s.tickets.get? t = some old ∧ old.bookingId = after.bookingId ∧
      old.eventId = after.eventId ∧ (t = k ∨ old = after) := by
  rcases Table.update_cases h with ⟨rfl, old, hold, rfl⟩ | ⟨-, hold⟩
  · exact ⟨old, hold, rfl, rfl, .inl rfl⟩
  · exact ⟨after, hold, rfl, rfl, .inr rfl⟩

theorem Admitted.letIn (h : Admitted s) (hget : s.tickets.get? k = some ticket)
    (hissued : ticket.status = .issued) : Admitted (s.letIn k ticket.eventId) where
  checked_in e event hevent := by
    rw [checkedIn_letIn hget hissued]
    rcases Table.update_cases hevent with ⟨rfl, old, hold, rfl⟩ | ⟨hne, hold⟩
    · simp [h.checked_in _ old hold]
    · simp [Ne.symm hne, h.checked_in e event hold]
  sold e event hevent := by
    rcases Table.update_cases hevent with ⟨-, old, hold, rfl⟩ | ⟨-, hold⟩
    · exact h.sold e old hold
    · exact h.sold e event hold
  within_quantity b booking hb := by
    rw [live_letIn hget hissued]
    exact h.within_quantity b booking hb
  complete b booking hb hchecked := by
    have hne : b ≠ ticket.bookingId := by
      rintro rfl
      have hlt := arrived_lt_live hget hissued
      have hall := h.complete _ booking hb hchecked
      have hle := h.within_quantity _ booking hb
      omega
    rw [arrived_letIn hget hne]
    exact h.complete b booking hb hchecked
  cancelled t after booking hafter hb hcancelled := by
    obtain ⟨old, hold, hof, -, rfl | rfl⟩ := letIn_ticket hafter
    · obtain rfl := Option.some.inj (hget.symm.trans hold)
      exact absurd hissued (h.cancelled t ticket booking hget (hof ▸ hb) hcancelled).1
    · exact h.cancelled t old booking hold hb hcancelled
  ticket_booking t after hafter := by
    obtain ⟨old, hold, hof, hlink, -⟩ := letIn_ticket hafter
    obtain ⟨booking, hb, hevent⟩ := h.ticket_booking t old hold
    exact ⟨booking, hof ▸ hb, hevent.trans hlink⟩
  booking_event b booking hb := Table.isSome_update (h.booking_event b booking hb)

/-- The last of a booking's tickets is let in. -/
theorem Admitted.completed (h : Admitted s) (hget : s.bookings.get? b = some booking)
    (hstatus : booking.status ≠ .cancelled) (hall : s.allCheckedIn b = true)
    (hfull : s.live b = booking.quantity) :
    Admitted { s with bookings := s.bookings.update b fun row => { row with status := .checkedIn } }
    where
  checked_in := h.checked_in
  sold e event hevent := by
    rw [h.sold e event hevent, Store.booked, Store.booked, Table.total_update hget]
    simp [places, hstatus]
  within_quantity c row hrow := by
    rcases Table.update_cases hrow with ⟨-, old, hold, rfl⟩ | ⟨-, hold⟩
    · exact h.within_quantity c old hold
    · exact h.within_quantity c row hold
  complete c row hrow hchecked := by
    rcases Table.update_cases hrow with ⟨rfl, old, hold, rfl⟩ | ⟨-, hold⟩
    · obtain rfl := Option.some.inj (hget.symm.trans hold)
      have hsame : s.arrived c = s.live c := by
        refine (Table.count_eq_iff fun _ ticket hof => ?_).mpr fun t ticket hticket hof => ?_
        · simp only [Bool.and_eq_true, beq_iff_eq] at hof
          simp [hof]
        · simp only [Bool.and_eq_true, beq_iff_eq] at hof
          have hchecked' := List.all_eq_true.mp hall (t, ticket)
            (Table.mem_findMany.mpr ⟨hticket, by simp [hof.1]⟩)
          simpa [hof.1] using hchecked'
      exact hsame.trans hfull
    · exact h.complete c row hold hchecked
  cancelled t ticket row hticket hrow hcancelled := by
    rcases Table.update_cases hrow with ⟨-, old, hold, rfl⟩ | ⟨-, hold⟩
    · cases hcancelled
    · exact h.cancelled t ticket row hticket hold hcancelled
  ticket_booking t ticket hticket := by
    obtain ⟨row, hrow, hlink⟩ := h.ticket_booking t ticket hticket
    by_cases hb : ticket.bookingId = b
    · subst hb
      exact ⟨{ row with status := .checkedIn }, by simp [hrow], hlink⟩
    · exact ⟨row, by rw [Table.get?_update_ne _ _ hb, hrow], hlink⟩
  booking_event c row hrow := by
    rcases Table.update_cases hrow with ⟨-, old, hold, rfl⟩ | ⟨-, hold⟩
    · exact h.booking_event c old hold
    · exact h.booking_event c row hold

/-- The tickets of a booking, this one apart, are all checked in. -/
def lastToArrive (s : Store) (ticketId bookingId : Id) : Bool :=
  s.tickets.count (fun k ticket =>
    ticket.bookingId == bookingId && ticket.status != .checkedIn && k != ticketId) == 0

/-- As many tickets are issued as the booking has places. -/
def allIssued (s : Store) (bookingId : Id) : Prop :=
  ∀ booking ∈ s.bookings.get? bookingId, s.live bookingId = booking.quantity

instance (s : Store) (bookingId : Id) : Decidable (allIssued s bookingId) :=
  inferInstanceAs (Decidable (∀ booking ∈ s.bookings.get? bookingId, _))

theorem lastToArrive_of_all (hall : (s.letIn k eventId).allCheckedIn b = true) :
    lastToArrive s k b = true := by
  rw [lastToArrive, beq_iff_eq, Table.count_eq_zero]
  intro t ticket hticket
  by_contra hleft
  simp only [Bool.not_eq_false, Bool.and_eq_true, beq_iff_eq, bne_iff_ne] at hleft
  obtain ⟨⟨hof, hstatus⟩, hne⟩ := hleft
  have hafter : (s.letIn k eventId).tickets.get? t = some ticket := by
    rw [Store.letIn, Table.get?_update_ne _ _ hne, hticket]
  have hchecked := List.all_eq_true.mp hall (t, ticket)
    (Table.mem_findMany.mpr ⟨hafter, by simp [hof]⟩)
  exact hstatus (by simpa using hchecked)

theorem Admitted.checkIn (h : Admitted s) (hget : s.tickets.get? k = some ticket)
    (hissued : ticket.status = .issued)
    (hlast : lastToArrive s k ticket.bookingId = true → allIssued s ticket.bookingId) :
    Admitted (s.checkIn k ticket) := by
  have hin := h.letIn hget hissued
  unfold Store.checkIn
  simp only
  split
  · rename_i hall
    obtain ⟨booking, hbooking, -⟩ := h.ticket_booking k ticket hget
    refine hin.completed hbooking (fun hcancelled => ?_) hall ?_
    · exact (h.cancelled k ticket booking hget hbooking hcancelled).1 hissued
    · rw [live_letIn hget hissued]
      exact hlast (lastToArrive_of_all hall) booking hbooking
  · exact hin

-- ---
-- The calls
-- ---

abbrev Keeps (s : Store) (x : EventsProgram Unit) : Prop :=
  x.Safe (alone Store.exec Admitted) 0 (fun _ _ => True) s

theorem keeps_findEvent {f : Event → EventsProgram Unit}
    (hnext : ∀ event, s.events.get? eventId = some event → Keeps s (f event)) :
    Keeps s (findEventOrFail eventId ctx >>= f) := by
  refine safe_bind (alone_read rfl fun _ => ?_)
  cases hfind : (s.events.get? eventId).filter fun event =>
      event.branchId == ctx.branchId && event.orgId == ctx.organizationId with
  | none => trivial
  | some event => exact hnext event (Option.filter_eq_some_iff.mp hfind).1

theorem keeps_findBooking {f : EventBooking → EventsProgram Unit}
    (hnext : ∀ booking, s.bookings.get? bookingId = some booking → Keeps s (f booking)) :
    Keeps s (findBookingOrFail bookingId ctx >>= f) := by
  refine safe_bind (alone_read rfl fun _ => ?_)
  cases hfind : (s.bookings.get? bookingId).filter fun booking =>
      booking.branchId == ctx.branchId && booking.orgId == ctx.organizationId with
  | none => trivial
  | some booking => exact hnext booking (Option.filter_eq_some_iff.mp hfind).1

theorem keeps_ensure {f : Unit → EventsProgram Unit} (hnext : b = true → Keeps s (f ())) :
    Keeps s (ensure b e >>= f) :=
  safe_ensure hnext fun _ => trivial

theorem keeps_venue {f : Unit → EventsProgram Unit} (hnext : Keeps s (f ())) :
    Keeps s (checkVenueTable venueTableId ctx >>= f) := by
  cases venueTableId with
  | none => exact hnext
  | some tableId =>
    refine safe_bind (alone_read rfl fun _ => ?_)
    cases (s.tables.get? tableId).filter fun table =>
        table.branchId == ctx.branchId && table.orgId == ctx.organizationId with
    | none => trivial
    | some table => exact hnext

/-- A last write, which may be refused. -/
theorem keeps_unlessTaken {k : Statement} {r : Store} {a : k.Answer}
    (hexec : s.exec k = unlessTaken taken columns s r a)
    (hwrite : Admitted s → taken = false → Admitted r) {f : k.Answer → EventsProgram Unit}
    (hnext : Admitted r → Keeps r (f a)) : Keeps s (query k >>= f) := by
  rcases unlessTaken_cases taken columns s r a with ⟨htaken, heq⟩ | ⟨hfree, heq⟩
  all_goals rw [heq] at hexec
  · refine alone_statement (by rw [hexec]; exact id) fun _ => ?_
    rw [hexec]
    trivial
  · refine alone_statement (fun h => ?_) fun h => ?_
    · rw [hexec]
      exact hwrite h hfree
    · rw [hexec] at h ⊢
      exact hnext h

theorem keeps_issueRemaining (hget : s.bookings.get? bookingId = some booking)
    (hconfirmed : booking.status = .confirmed)
    (hroom : s.live bookingId + tokens.length ≤ booking.quantity) :
    Keeps s (issueRemaining bookingId booking ctx holderName tokens) := by
  induction tokens generalizing s with
  | nil => trivial
  | cons qrToken tokens ih =>
    rw [List.length_cons] at hroom
    refine alone_read rfl fun _ => keeps_unlessTaken rfl (fun h _ => ?_) fun _ => ?_
    · exact h.createTicket _ hget rfl hconfirmed rfl (by simp only; omega)
    · refine ih hget ?_
      simp only [Store.live, Table.count_insert] at hroom ⊢
      simp
      omega

theorem keeps_createBooking : Keeps s (createBooking eventId ctx dto) := by
  refine keeps_findEvent fun event hevent => keeps_ensure fun _ => alone_read rfl fun _ => ?_
  refine keeps_ensure fun _ => keeps_ensure fun _ => alone_read rfl fun _ => ?_
  refine safe_need (fun ticketClass _ => ?_) fun _ => trivial
  refine keeps_ensure fun _ => keeps_ensure fun _ => alone_read rfl fun _ => ?_
  refine keeps_unlessTaken rfl (fun h _ => ?_) fun _ => trivial
  exact h.book _ rfl (by rw [hevent]; rfl)

/-- No booking is cancelled of which a guest is there already, and no ticket is the last of its
booking to be checked in before all of the booking's tickets are issued. -/
def orderly (s : Store) : EventsCall → Prop
  | .cancelBooking bookingId _ => s.arrived bookingId = 0
  | .checkInTicket ticketId _ _ => ∀ ticket ∈ s.tickets.get? ticketId,
      lastToArrive s ticketId ticket.bookingId = true → allIssued s ticket.bookingId
  | _ => True

instance (s : Store) : (call : EventsCall) → Decidable (orderly s call)
  | .cancelBooking bookingId _ => inferInstanceAs (Decidable (s.arrived bookingId = 0))
  | .checkInTicket ticketId _ _ => inferInstanceAs (Decidable (∀ ticket ∈ s.tickets.get? ticketId,
      lastToArrive s ticketId ticket.bookingId = true → allIssued s ticket.bookingId))
  | .createEvent .. | .updateEvent .. | .publishEvent .. | .openEvent .. | .closeEvent ..
  | .createTicketClass .. | .createBooking .. | .issueTickets .. => .isTrue trivial

theorem keeps_program (call : EventsCall) (horderly : orderly s call) : Keeps s call.program := by
  cases call with
  | createEvent ctx dto =>
    refine keeps_venue (alone_read rfl fun _ => keeps_unlessTaken rfl (fun h _ => ?_) fun _ => ?_)
    · exact h.createEvent _ rfl rfl
    · trivial
  | updateEvent eventId ctx dto =>
    refine keeps_findEvent fun event _ => keeps_ensure fun _ => keeps_venue (alone_last fun h => ?_)
    refine h.events (fun _ => ?_) (fun _ => ?_) eventId <;> rfl
  | publishEvent eventId ctx portalKey =>
    refine keeps_findEvent fun event _ => keeps_ensure fun _ => alone_last fun h => ?_
    rcases unlessTaken_cases (s.portalKeyTaken eventId portalKey) _ s _ _ with
      ⟨-, hexec⟩ | ⟨-, hexec⟩
    all_goals rw [Store.exec, hexec]
    · exact h
    · refine h.events (fun _ => ?_) (fun _ => ?_) eventId <;> rfl
  | openEvent eventId ctx | closeEvent eventId ctx =>
    refine keeps_findEvent fun event _ => keeps_ensure fun _ => alone_last fun h => ?_
    refine h.events (fun _ => ?_) (fun _ => ?_) eventId <;> rfl
  | createTicketClass eventId ctx dto =>
    refine keeps_findEvent fun event _ => alone_read rfl fun _ => keeps_ensure fun _ => ?_
    refine keeps_unlessTaken rfl (fun h _ => ?_) fun _ => trivial
    exact h.of_rows rfl rfl rfl
  | createBooking eventId ctx dto => exact keeps_createBooking
  | cancelBooking bookingId ctx =>
    refine keeps_findBooking fun booking hget => keeps_ensure fun hlive => keeps_ensure fun _ => ?_
    refine alone_statement (fun h => h.cancel hget (by simpa using hlive) horderly) fun _ => ?_
    exact keeps_findBooking fun _ _ => trivial
  | issueTickets bookingId ctx holderName tokens =>
    refine keeps_findBooking fun booking hget => keeps_ensure fun hconfirmed => ?_
    refine alone_read rfl fun _ => keeps_ensure fun hroom => ?_
    refine keeps_issueRemaining hget (by simpa using hconfirmed) ?_
    rw [decide_eq_true_eq] at hroom
    simp only [List.length_map, List.length_range]
    exact (Nat.add_sub_of_le hroom.le).le
  | checkInTicket ticketId ctx message =>
    refine alone_read rfl fun _ => safe_need (fun ticket hfind => ?_) fun _ => trivial
    obtain ⟨hget, -⟩ := Option.filter_eq_some_iff.mp hfind
    cases hstatus : ticket.status with
    | checkedIn | cancelled | voided =>
      simp only
      exact alone_statement (fun h => h.of_rows rfl rfl rfl) fun _ => trivial
    | issued =>
      simp only
      refine alone_statement (fun h => h.checkIn hget hstatus (horderly ticket hget)) fun _ => ?_
      exact alone_last fun h => h.of_rows rfl rfl rfl

-- ---
-- One call after another
-- ---

/-- A call made some time after the one before, and cut off after some of its statements, if it
has as many. -/
structure Visit where
  waited : Nat
  call : EventsCall
  statements : Nat

def Store.visit (s : Store) (v : Visit) : Store :=
  v.call.program.upTo Store.exec { s with clock := s.clock + v.waited } v.statements

/-- After any orderly calls the tickets are accounted for. -/
theorem visits_accounted (hunsold : Unsold s)
    (hrun : Run Store.visit (fun s v => orderly s v.call) s visits t) : TicketsAccounted t := by
  have hadmitted : Admitted t := by
    refine hrun.invariant hunsold.admitted fun u v h horderly => ?_
    have hclock : Admitted { u with clock := u.clock + v.waited } := h.of_rows rfl rfl rfl
    have hcall : orderly { u with clock := u.clock + v.waited } v.call := by
      cases hc : v.call <;> rw [hc] at horderly <;> exact horderly
    exact (keeps_program v.call hcall).upTo hclock v.statements
  exact hadmitted.accounted

theorem unsold_empty : Unsold {} where
  bookings := rfl
  tickets := rfl
  events _ _ hget := by cases hget

/-- Two places are booked at an event. -/
def twoPlaces : List Visit :=
  [⟨0, .createEvent ⟨0, 0⟩ { capacity := 4 }, 2⟩,
    ⟨1, .createTicketClass 0 ⟨0, 0⟩ { name := "Main", price := 1000, capacity := 4 }, 3⟩,
    ⟨1, .publishEvent 0 ⟨0, 0⟩ "key", 2⟩,
    ⟨1, .createBooking 0 ⟨0, 0⟩ { ticketClassId := 0, customerName := "Guest", quantity := 2 }, 5⟩]

/-- Tickets are issued with tokens of one colour. -/
def issue (colour : String) (statements : Nat) : Visit :=
  ⟨1, .issueTickets 0 ⟨0, 0⟩ none fun i => if i = 0 then colour else colour ++ "2", statements⟩

def letInTicket (ticketId : Id) : Visit := ⟨1, .checkInTicket ticketId ⟨0, 0⟩ none, 3⟩

/-- One of the two guests is there when the booking is cancelled. -/
def halfCancelled : Store :=
  (twoPlaces ++ [issue "red" 6, letInTicket 0, ⟨1, .cancelBooking 0 ⟨0, 0⟩, 3⟩]).foldl
    Store.visit {}

/-- The second ticket is not issued, and the first one is checked in. -/
def halfIssued : Store := (twoPlaces ++ [issue "red" 4, letInTicket 0]).foldl Store.visit {}

/-- More guests are checked in than places sold; and a booking is, with one guest of two. -/
theorem half_bookings : ¬TicketsAccounted halfCancelled ∧ ¬TicketsAccounted halfIssued := by
  have hcancelled : (halfCancelled.events.get? 0).map (fun event =>
      (event.checkedInCount, event.soldCount)) = some (1, 0) := by decide
  have hissued : (halfIssued.bookings.get? 0).map (fun booking =>
      (booking.status, booking.quantity)) = some (.checkedIn, 2) := by decide
  have harrived : halfIssued.arrived 0 = 1 := by decide
  constructor
  · intro h
    obtain ⟨event, hget, hcounts⟩ := Option.map_eq_some_iff.mp hcancelled
    obtain ⟨hchecked, hsold⟩ := Prod.mk.inj hcounts
    have hwithin := h.within_sold 0 event hget
    rw [hchecked, hsold] at hwithin
    exact absurd hwithin (by decide)
  · intro h
    obtain ⟨booking, hget, hcolumns⟩ := Option.map_eq_some_iff.mp hissued
    obtain ⟨hstatus, hquantity⟩ := Prod.mk.inj hcolumns
    have hcomplete := h.complete 0 booking hget hstatus
    rw [harrived, hquantity] at hcomplete
    exact absurd hcomplete (by decide)

/-- Issuing is cut short and taken up again, and then both guests come. -/
theorem visits_accounted_both :
    TicketsAccounted ((twoPlaces ++
      [issue "red" 4, issue "blue" 6, letInTicket 0, letInTicket 1]).foldl Store.visit {}) :=
  visits_accounted unsold_empty (.of_holds (by decide))

end NimbusPos.EventsService
