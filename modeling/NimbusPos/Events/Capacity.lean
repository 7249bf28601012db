import NimbusPos.Events.Service

/-!
# Event capacity

A class has sold what its bookings take, an event what its classes have sold, and
the classes of an event fit into it. The calls check this some statements before
they write, and `updateEvent` does not check it: it is kept while each write still
finds what was checked.
-/

namespace NimbusPos.EventsService

open Lib Lib.Program

namespace Store

/-- What the bookings of a class take. -/
def bookedQuantity (s : Store) (ticketClassId : Id) : Int :=
  s.bookings.sumWhere
    (fun _ booking => booking.ticketClassId == ticketClassId && booking.status != .cancelled)
    fun booking => booking.quantity

/-- What the classes of an event have sold. -/
def classSold (s : Store) (eventId : Id) : Int :=
  s.ticketClasses.sumWhere (fun _ cls => cls.eventId == eventId) (·.soldCount)

end Store

structure Accounted (s : Store) : Prop where
  class_sold : ∀ c cls, s.ticketClasses.get? c = some cls → cls.soldCount = s.bookedQuantity c
  class_fits : ∀ c cls, s.ticketClasses.get? c = some cls → cls.soldCount ≤ cls.capacity
  event_sold : ∀ e event, s.events.get? e = some event → event.soldCount = s.classSold e
  event_fits : ∀ e event, s.events.get? e = some event → event.soldCount ≤ event.capacity
  classes_fit : ∀ e event, s.events.get? e = some event → s.classCapacity e ≤ event.capacity

/-- The rows that classes and bookings name are there. -/
structure Linked (s : Store) : Prop where
  class_event : ∀ c cls, s.ticketClasses.get? c = some cls →
    (s.events.get? cls.eventId).isSome = true
  booking_class : ∀ b booking, s.bookings.get? b = some booking →
    ∃ cls, s.ticketClasses.get? booking.ticketClassId = some cls ∧ cls.eventId = booking.eventId

structure Sound (s : Store) : Prop where
  accounted : Accounted s
  linked : Linked s

-- ---
-- The statements
-- ---

/-- What a call knows of the rows it writes. -/
def needs (s : Store) : Statement → Prop
  | .createTicketClass row => row.soldCount = 0 ∧ (s.events.get? row.eventId).isSome = true
  | .book row => row.status = .confirmed ∧
      ∃ cls, s.ticketClasses.get? row.ticketClassId = some cls ∧ cls.eventId = row.eventId
  | .cancel bookingId booking => ∃ row, s.bookings.get? bookingId = some row ∧
      row.ticketClassId = booking.ticketClassId ∧ row.eventId = booking.eventId ∧
        row.quantity = booking.quantity
  | _ => True

/-- A write finds what its call had checked: room for the class and for the
booking, and a booking that is not cancelled. An event's capacity stays above that
of its classes. -/
def stillFits (s : Store) : Statement → Prop
  | .updateEvent id dto => ∀ capacity ∈ dto.capacity, (s.events.get? id).isSome = true →
      s.classCapacity id ≤ capacity
  | .createTicketClass row => s.classNameTaken row = false →
      ∀ event ∈ s.events.get? row.eventId,
        s.classCapacity row.eventId + row.capacity ≤ event.capacity
  | .book row => s.bookingNumberTaken row = false →
      ∀ cls ∈ s.ticketClasses.get? row.ticketClassId, cls.soldCount + row.quantity ≤ cls.capacity
  | .cancel bookingId _ => ∀ row ∈ s.bookings.get? bookingId, row.status ≠ .cancelled
  | .checkIn ticketId ticket =>
      (s.letIn ticketId ticket.eventId).allCheckedIn ticket.bookingId = true →
        ∀ row ∈ s.bookings.get? ticket.bookingId, row.status ≠ .cancelled
  | _ => True

instance (s : Store) : (k : Statement) → Decidable (stillFits s k)
  | .updateEvent id dto => inferInstanceAs (Decidable (∀ capacity ∈ dto.capacity,
      (s.events.get? id).isSome = true → s.classCapacity id ≤ capacity))
  | .createTicketClass row => inferInstanceAs (Decidable (s.classNameTaken row = false →
      ∀ event ∈ s.events.get? row.eventId,
        s.classCapacity row.eventId + row.capacity ≤ event.capacity))
  | .book row => inferInstanceAs (Decidable (s.bookingNumberTaken row = false →
      ∀ cls ∈ s.ticketClasses.get? row.ticketClassId, cls.soldCount + row.quantity ≤ cls.capacity))
  | .cancel bookingId _ => inferInstanceAs (Decidable
      (∀ row ∈ s.bookings.get? bookingId, row.status ≠ .cancelled))
  | .checkIn ticketId ticket => inferInstanceAs (Decidable
      ((s.letIn ticketId ticket.eventId).allCheckedIn ticket.bookingId = true →
        ∀ row ∈ s.bookings.get? ticket.bookingId, row.status ≠ .cancelled))
  | .now | .findTable .. | .lastEventNumber _ | .createEvent .. | .findEvent .. | .publish ..
  | .setStatus .. | .sumCapacity _ | .findTicketClass .. | .lastBookingNumber _ | .findBooking ..
  | .countTickets _ | .lastTicketNumber _ | .createTicket _ | .findTicket .. | .createCheckIn _ =>
    .isTrue trivial

/-- Rows stay, with the columns that link them. -/
def kept : Service.Frame Store where
  rel s t :=
    (∀ e, (s.events.get? e).isSome = true → (t.events.get? e).isSome = true) ∧
    (∀ c cls, s.ticketClasses.get? c = some cls →
      ∃ cls', t.ticketClasses.get? c = some cls' ∧ cls'.eventId = cls.eventId) ∧
    ∀ b row, s.bookings.get? b = some row → ∃ row', t.bookings.get? b = some row' ∧
      row'.ticketClassId = row.ticketClassId ∧ row'.eventId = row.eventId ∧
        row'.quantity = row.quantity
  refl s := ⟨fun _ h => h, fun _ cls h => ⟨cls, h, rfl⟩, fun _ row h => ⟨row, h, rfl, rfl, rfl⟩⟩
  trans := by
    rintro s t u ⟨hevents, hclasses, hbookings⟩ ⟨hevents', hclasses', hbookings'⟩
    refine ⟨fun e h => hevents' e (hevents e h), fun c cls h => ?_, fun b row h => ?_⟩
    · obtain ⟨cls', h', heq⟩ := hclasses c cls h
      obtain ⟨cls'', h'', heq'⟩ := hclasses' c cls' h'
      exact ⟨cls'', h'', heq'.trans heq⟩
    · obtain ⟨row', h', hclass, hevent, hquantity⟩ := hbookings b row h
      obtain ⟨row'', h'', hclass', hevent', hquantity'⟩ := hbookings' b row' h'
      exact ⟨row'', h'', hclass'.trans hclass, hevent'.trans hevent, hquantity'.trans hquantity⟩

variable {s t : Store}

theorem kept_of_rows (hevents :
    ∀ e, (s.events.get? e).isSome = true → (t.events.get? e).isSome = true)
    (hclasses : ∀ c cls, s.ticketClasses.get? c = some cls →
      ∃ cls', t.ticketClasses.get? c = some cls' ∧ cls'.eventId = cls.eventId)
    (hbookings : t.bookings = s.bookings) : kept.rel s t :=
  ⟨hevents, hclasses, fun _ row h => ⟨row, hbookings ▸ h, rfl, rfl, rfl⟩⟩

theorem kept_events (j : Id) (f : Event → Event) :
    kept.rel s { s with events := s.events.update j f } :=
  kept_of_rows (fun _ h => Table.isSome_update h) (fun _ cls h => ⟨cls, h, rfl⟩) rfl

theorem class_addSold (h : s.ticketClasses.get? c = some cls) (ticketClassId eventId : Id)
    (quantity : Int) : ∃ cls', (s.addSold ticketClassId eventId quantity).ticketClasses.get? c =
      some cls' ∧ cls'.eventId = cls.eventId := by
  by_cases hc : c = ticketClassId
  · subst hc
    refine ⟨{ cls with soldCount := cls.soldCount + quantity }, ?_, rfl⟩
    rw [Store.addSold, Table.get?_update_self, h]
    rfl
  · exact ⟨cls, by rw [Store.addSold, Table.get?_update_ne _ _ hc, h], rfl⟩

theorem kept_addSold (ticketClassId eventId : Id) (quantity : Int) :
    kept.rel s (s.addSold ticketClassId eventId quantity) :=
  kept_of_rows (fun _ h => Table.isSome_update h) (fun _ _ h => class_addSold h _ _ _) rfl

theorem kept_bookings {f : EventBooking → EventBooking}
    (hf : ∀ row, (f row).ticketClassId = row.ticketClassId ∧ (f row).eventId = row.eventId ∧
      (f row).quantity = row.quantity) :
    kept.rel s { s with bookings := s.bookings.update j f } := by
  refine ⟨fun _ h => h, fun _ cls h => ⟨cls, h, rfl⟩, fun b row h => ?_⟩
  by_cases hb : b = j
  · subst hb
    exact ⟨f row, by rw [Table.get?_update_self, h]; rfl, hf row⟩
  · exact ⟨row, by rw [Table.get?_update_ne _ _ hb, h], rfl, rfl, rfl⟩

-- ---
-- What each write does to the counts
-- ---

theorem classSold_addSold (h : s.ticketClasses.get? c = some cls) (e j : Id) (quantity : Int) :
    (s.addSold c e quantity).classSold j =
      s.classSold j + if cls.eventId = j then quantity else 0 := by
  simp only [Store.classSold, Store.addSold, Table.sumWhere_eq_total, Table.total_update h,
    beq_iff_eq]
  split <;> omega

theorem classCapacity_addSold (h : s.ticketClasses.get? c = some cls) (e j : Id) (quantity : Int) :
    (s.addSold c e quantity).classCapacity j = s.classCapacity j := by
  simp only [Store.classCapacity, Store.addSold, Table.sumWhere_eq_total, Table.total_update h,
    Int.sub_self, Int.add_zero]

/-- What a booking takes of a class. -/
def takes (ticketClassId : Id) (booking : EventBooking) : Int :=
  if booking.ticketClassId == ticketClassId && booking.status != .cancelled then booking.quantity
  else 0

theorem bookedQuantity_eq (s : Store) (ticketClassId : Id) :
    s.bookedQuantity ticketClassId = s.bookings.total fun _ => takes ticketClassId := by
  rw [Store.bookedQuantity, Table.sumWhere_eq_total]
  rfl

theorem bookedQuantity_insert (row : EventBooking) (ticketClassId : Id) :
    { s with bookings := s.bookings.insert row }.bookedQuantity ticketClassId =
      s.bookedQuantity ticketClassId + takes ticketClassId row := by
  rw [bookedQuantity_eq, bookedQuantity_eq, Table.total_insert]

theorem bookedQuantity_update (h : s.bookings.get? b = some row) (f : EventBooking → EventBooking)
    (ticketClassId : Id) :
    { s with bookings := s.bookings.update b f }.bookedQuantity ticketClassId =
      s.bookedQuantity ticketClassId + (takes ticketClassId (f row) - takes ticketClassId row) := by
  rw [bookedQuantity_eq, bookedQuantity_eq, Table.total_update h]

-- ---
-- What each write keeps
-- ---

/-- An event has sold no more than its classes have room for. -/
theorem classSold_le (h : ∀ c cls, s.ticketClasses.get? c = some cls → cls.soldCount ≤ cls.capacity)
    (e : Id) : s.classSold e ≤ s.classCapacity e := by
  simp only [Store.classSold, Store.classCapacity, Table.sumWhere_eq_total]
  refine Table.total_le fun c cls hget => ?_
  split
  · exact h c cls hget
  · exact Int.le_refl 0

theorem Accounted.of_counts
    (hclass : ∀ c cls, s.ticketClasses.get? c = some cls →
      cls.soldCount = s.bookedQuantity c ∧ cls.soldCount ≤ cls.capacity)
    (hevent : ∀ e event, s.events.get? e = some event →
      event.soldCount = s.classSold e ∧ s.classCapacity e ≤ event.capacity) : Accounted s where
  class_sold c cls h := (hclass c cls h).1
  class_fits c cls h := (hclass c cls h).2
  event_sold e event h := (hevent e event h).1
  classes_fit e event h := (hevent e event h).2
  event_fits e event h := by
    obtain ⟨hsold, hfit⟩ := hevent e event h
    rw [hsold]
    exact Int.le_trans (classSold_le (fun c cls hget => (hclass c cls hget).2) e) hfit

/-- A change of one event's other columns, or of its capacity while its classes fit. -/
theorem Sound.events (h : Sound s) {f : Event → Event}
    (hsold : ∀ event, (f event).soldCount = event.soldCount)
    (hfits : ∀ event, s.events.get? j = some event → s.classCapacity j ≤ (f event).capacity) :
    Sound { s with events := s.events.update j f } := by
  refine ⟨.of_counts (fun c cls hget => ⟨h.accounted.class_sold c cls hget,
    h.accounted.class_fits c cls hget⟩) fun e event' hget => ?_, fun c cls hget =>
      Table.isSome_update (h.linked.class_event c cls hget), h.linked.booking_class⟩
  by_cases he : e = j
  · subst he
    rw [Table.get?_update_self] at hget
    obtain ⟨event, hevent, rfl⟩ := Option.map_eq_some_iff.mp hget
    exact ⟨(hsold event).trans (h.accounted.event_sold e event hevent), hfits event hevent⟩
  · rw [Table.get?_update_ne _ _ he] at hget
    exact ⟨h.accounted.event_sold e event' hget, h.accounted.classes_fit e event' hget⟩

/-- The bookings of one class take more or less, and the class and its event count it. -/
theorem Sound.sell (h : Sound s) {r : Store} (hevents : r.events = s.events)
    (hclasses : r.ticketClasses = s.ticketClasses) (hget : s.ticketClasses.get? c = some cls)
    (hfits : cls.soldCount + quantity ≤ cls.capacity)
    (hbooked : ∀ j, r.bookedQuantity j = s.bookedQuantity j + if c = j then quantity else 0)
    (hlinked : ∀ b booking, r.bookings.get? b = some booking → ∃ cls,
      s.ticketClasses.get? booking.ticketClassId = some cls ∧ cls.eventId = booking.eventId) :
    Sound (r.addSold c cls.eventId quantity) := by
  have hgetr : r.ticketClasses.get? c = some cls := hclasses ▸ hget
  refine ⟨.of_counts (fun j cls' hj => ?_) fun e event' he => ?_, fun j cls' hj => ?_,
    fun b booking hb => ?_⟩
  · show _ = r.bookedQuantity j ∧ _
    rw [Store.addSold, hclasses] at hj
    by_cases hc : j = c
    · subst hc
      rw [Table.get?_update_self, hget] at hj
      obtain rfl := Option.some.inj hj
      refine ⟨?_, hfits⟩
      rw [hbooked, if_pos rfl, ← h.accounted.class_sold j cls hget]
    · rw [Table.get?_update_ne _ _ hc] at hj
      refine ⟨?_, h.accounted.class_fits j cls' hj⟩
      rw [hbooked, if_neg (Ne.symm hc), Int.add_zero]
      exact h.accounted.class_sold j cls' hj
  · have hsold : r.classSold e = s.classSold e := by rw [Store.classSold, hclasses]; rfl
    have hcapacity : r.classCapacity e = s.classCapacity e := by
      rw [Store.classCapacity, hclasses]
      rfl
    rw [classSold_addSold hgetr, classCapacity_addSold hgetr, hsold, hcapacity]
    rw [Store.addSold, hevents] at he
    by_cases hj : e = cls.eventId
    · subst hj
      rw [Table.get?_update_self] at he
      obtain ⟨event, hevent, rfl⟩ := Option.map_eq_some_iff.mp he
      refine ⟨?_, h.accounted.classes_fit _ event hevent⟩
      rw [if_pos rfl, ← h.accounted.event_sold _ event hevent]
    · rw [Table.get?_update_ne _ _ hj] at he
      refine ⟨?_, h.accounted.classes_fit e event' he⟩
      rw [if_neg (Ne.symm hj), Int.add_zero]
      exact h.accounted.event_sold e event' he
  · rw [Store.addSold, hevents]
    rw [Store.addSold, hclasses] at hj
    refine Table.isSome_update ?_
    by_cases hc : j = c
    · subst hc
      rw [Table.get?_update_self, hget] at hj
      obtain rfl := Option.some.inj hj
      exact h.linked.class_event j cls hget
    · rw [Table.get?_update_ne _ _ hc] at hj
      exact h.linked.class_event j cls' hj
  · obtain ⟨cls', hcls', hevent⟩ := hlinked b booking hb
    obtain ⟨cls'', hcls'', hevent'⟩ := class_addSold (hclasses ▸ hcls') c cls.eventId quantity
    exact ⟨cls'', hcls'', hevent'.trans hevent⟩

/-- The transaction of a booking. -/
theorem Sound.book (h : Sound s) (row : EventBooking)
    (hneeds : needs s (.book row)) (hroom : ∀ cls ∈ s.ticketClasses.get? row.ticketClassId,
      cls.soldCount + row.quantity ≤ cls.capacity) : Sound (s.book row) := by
  obtain ⟨hconfirmed, cls, hget, hevent⟩ := hneeds
  rw [Store.book, ← hevent]
  refine h.sell (r := { s with bookings := s.bookings.insert row }) rfl rfl hget
    (hroom cls hget) (fun j => ?_) fun b booking hb => ?_
  · rw [bookedQuantity_insert, takes, hconfirmed]
    simp
  · rcases Table.insert_cases hb with ⟨-, rfl⟩ | hb
    · exact ⟨cls, hget, hevent⟩
    · exact h.linked.booking_class b booking hb

/-- The transaction of a cancellation. -/
theorem Sound.cancel (h : Sound s) (bookingId : Id) (booking : EventBooking)
    (hneeds : needs s (.cancel bookingId booking))
    (hactive : ∀ row ∈ s.bookings.get? bookingId, row.status ≠ .cancelled) :
    Sound (s.cancel bookingId booking) := by
  obtain ⟨row, hget, hclass, hevent, hquantity⟩ := hneeds
  obtain ⟨cls, hcls, hlink⟩ := h.linked.booking_class bookingId row hget
  have hnot : row.status ≠ .cancelled := hactive row hget
  have hfits := h.accounted.class_fits _ cls hcls
  rw [Store.cancel, ← hclass, ← hevent, ← hlink, ← hquantity]
  refine h.sell rfl rfl hcls (by omega) (fun j => ?_) fun b booking' hb => ?_
  · refine (bookedQuantity_update hget _ j).trans ?_
    simp only [takes, bne_self_eq_false, Bool.and_false, Bool.false_eq_true, if_false,
      bne_iff_ne, beq_iff_eq, Bool.and_eq_true, hnot, ne_eq, not_false_eq_true, and_true]
    split <;> omega
  · by_cases hj : b = bookingId
    · subst hj
      rw [Table.get?_update_self, hget] at hb
      obtain rfl := Option.some.inj hb
      exact ⟨cls, hcls, hlink⟩
    · rw [Table.get?_update_ne _ _ hj] at hb
      exact h.linked.booking_class b booking' hb

theorem Sound.tickets (h : Sound s) (tickets : Table EventTicket) : Sound { s with tickets } :=
  ⟨⟨h.accounted.class_sold, h.accounted.class_fits, h.accounted.event_sold,
    h.accounted.event_fits, h.accounted.classes_fit⟩, ⟨h.linked.class_event,
      h.linked.booking_class⟩⟩

theorem Sound.checkIns (h : Sound s) (checkIns : Table EventCheckIn) : Sound { s with checkIns } :=
  ⟨⟨h.accounted.class_sold, h.accounted.class_fits, h.accounted.event_sold,
    h.accounted.event_fits, h.accounted.classes_fit⟩, ⟨h.linked.class_event,
      h.linked.booking_class⟩⟩

theorem Sound.letIn (h : Sound s) (ticketId eventId : Id) : Sound (s.letIn ticketId eventId) :=
  (h.tickets (s.tickets.update ticketId fun ticket => { ticket with status := .checkedIn })).events
    (fun _ => rfl) fun event hget => h.accounted.classes_fit eventId event hget

/-- A booking that is not cancelled is marked checked in. -/
theorem Sound.checkedIn (h : Sound s) (bookingId : Id)
    (hactive : ∀ row ∈ s.bookings.get? bookingId, row.status ≠ .cancelled) :
    Sound { s with
      bookings := s.bookings.update bookingId fun booking =>
        { booking with status := .checkedIn } } := by
  have hbooked (j : Id) : { s with
      bookings := s.bookings.update bookingId fun booking =>
        { booking with status := .checkedIn } }.bookedQuantity j = s.bookedQuantity j := by
    cases hget : s.bookings.get? bookingId with
    | none => rw [Table.update_none hget]
    | some row =>
      rw [bookedQuantity_update hget]
      have hnot : (row.status != .cancelled) = true := by simpa using hactive row hget
      simp [takes, hnot]
  refine ⟨.of_counts (fun c cls hget => ?_) fun e event hget => ?_, h.linked.class_event,
    fun b booking hb => ?_⟩
  · rw [hbooked]
    exact ⟨h.accounted.class_sold c cls hget, h.accounted.class_fits c cls hget⟩
  · exact ⟨h.accounted.event_sold e event hget, h.accounted.classes_fit e event hget⟩
  · by_cases hj : b = bookingId
    · subst hj
      rw [Table.get?_update_self] at hb
      obtain ⟨row, hrow, rfl⟩ := Option.map_eq_some_iff.mp hb
      exact h.linked.booking_class b row hrow
    · rw [Table.get?_update_ne _ _ hj] at hb
      exact h.linked.booking_class b booking hb

/-- The transaction of a check-in. -/
theorem Sound.checkIn (h : Sound s) (ticketId : Id) (ticket : EventTicket)
    (hactive : stillFits s (.checkIn ticketId ticket)) : Sound (s.checkIn ticketId ticket) := by
  have hletIn := h.letIn ticketId ticket.eventId
  unfold Store.checkIn
  simp only
  split
  · rename_i hall
    exact hletIn.checkedIn ticket.bookingId (hactive hall)
  · exact hletIn

theorem Sound.createTicketClass (h : Sound s) (row : EventTicketClass)
    (hneeds : needs s (.createTicketClass row)) (hroom : ∀ event ∈ s.events.get? row.eventId,
      s.classCapacity row.eventId + row.capacity ≤ event.capacity) :
    Sound { s with ticketClasses := s.ticketClasses.insert row } := by
  obtain ⟨hsold, hevent⟩ := hneeds
  have hnone : s.bookedQuantity s.ticketClasses.next = 0 := by
    rw [bookedQuantity_eq]
    refine Table.total_zero fun b booking hb => ?_
    obtain ⟨cls, hcls, -⟩ := h.linked.booking_class b booking hb
    have hne : booking.ticketClassId ≠ s.ticketClasses.next :=
      Nat.ne_of_lt (Table.lt_next hcls)
    simp [takes, hne]
  have hclassSold (e : Id) : { s with ticketClasses := s.ticketClasses.insert row }.classSold e =
      s.classSold e := by
    simp [Store.classSold, Table.sumWhere_eq_total, Table.total_insert, hsold]
  have hclassCapacity (e : Id) :
      { s with ticketClasses := s.ticketClasses.insert row }.classCapacity e =
        s.classCapacity e + if row.eventId = e then (row.capacity : Int) else 0 := by
    simp [Store.classCapacity, Table.sumWhere_eq_total, Table.total_insert]
  refine ⟨.of_counts (fun c cls hget => ?_) fun e event hget => ?_, fun c cls hget => ?_,
    fun b booking hb => ?_⟩
  · rcases Table.insert_cases hget with ⟨hc, rfl⟩ | hget
    · rw [hc, hsold]
      exact ⟨hnone.symm, Int.natCast_nonneg _⟩
    · exact ⟨h.accounted.class_sold c cls hget, h.accounted.class_fits c cls hget⟩
  · rw [hclassSold, hclassCapacity]
    refine ⟨h.accounted.event_sold e event hget, ?_⟩
    split
    · rename_i he
      subst he
      exact hroom event hget
    · rw [Int.add_zero]
      exact h.accounted.classes_fit e event hget
  · rcases Table.insert_cases hget with ⟨-, rfl⟩ | hget
    · exact hevent
    · exact h.linked.class_event c cls hget
  · obtain ⟨cls, hcls, hlink⟩ := h.linked.booking_class b booking hb
    exact ⟨cls, Table.get?_insert_of_some hcls, hlink⟩

theorem Sound.createEvent (h : Sound s) (event : Event) (hsold : event.soldCount = 0) :
    Sound { s with events := s.events.insert event } := by
  have hnone (c : Id) (cls : EventTicketClass) (hget : s.ticketClasses.get? c = some cls) :
      cls.eventId ≠ s.events.next := by
    obtain ⟨event', hevent⟩ := Option.isSome_iff_exists.mp (h.linked.class_event c cls hget)
    exact Nat.ne_of_lt (Table.lt_next hevent)
  have hclassSold : s.classSold s.events.next = 0 := by
    rw [Store.classSold, Table.sumWhere_eq_total]
    exact Table.total_zero fun c cls hget => by simp [hnone c cls hget]
  have hclassCapacity : s.classCapacity s.events.next = 0 := by
    rw [Store.classCapacity, Table.sumWhere_eq_total]
    exact Table.total_zero fun c cls hget => by simp [hnone c cls hget]
  refine ⟨.of_counts (fun c cls hget => ⟨h.accounted.class_sold c cls hget,
    h.accounted.class_fits c cls hget⟩) fun e event' hget => ?_, fun c cls hget => ?_,
      h.linked.booking_class⟩
  · rcases Table.insert_cases hget with ⟨he, rfl⟩ | hget
    · rw [he]
      refine ⟨hsold.trans hclassSold.symm, ?_⟩
      show s.classCapacity s.events.next ≤ _
      rw [hclassCapacity]
      exact Int.natCast_nonneg _
    · exact ⟨h.accounted.event_sold e event' hget, h.accounted.classes_fit e event' hget⟩
  · obtain ⟨event', hevent⟩ := Option.isSome_iff_exists.mp (h.linked.class_event c cls hget)
    exact Option.isSome_iff_exists.mpr ⟨event', Table.get?_insert_of_some hevent⟩

-- ---
-- Every statement
-- ---

theorem keeps_exec (s : Store) (k : Statement) (h : Sound s) (hneeds : needs s k)
    (hfits : stillFits s k) : Sound (s.exec k).1 ∧ kept.rel s (s.exec k).1 := by
  cases k with
  | now | findTable | lastEventNumber | findEvent | sumCapacity | findTicketClass
  | lastBookingNumber | findBooking | countTickets | lastTicketNumber | findTicket =>
    exact ⟨h, kept.refl s⟩
  | createEvent ctx eventNumber dto =>
    rcases unlessTaken_cases (s.eventNumberTaken ctx.branchId eventNumber) _ s _ _ with
      ⟨-, hexec⟩ | ⟨-, hexec⟩
    all_goals rw [Store.exec, hexec]
    · exact ⟨h, kept.refl s⟩
    · refine ⟨h.createEvent _ rfl,
        kept_of_rows (fun e he => ?_) (fun _ cls hc => ⟨cls, hc, rfl⟩) rfl⟩
      obtain ⟨event, hevent⟩ := Option.isSome_iff_exists.mp he
      exact Option.isSome_iff_exists.mpr ⟨event, Table.get?_insert_of_some hevent⟩
  | updateEvent id dto =>
    refine ⟨h.events (fun _ => rfl) fun event hget => ?_, kept_events id _⟩
    cases hcapacity : dto.capacity with
    | none =>
      simp only [Store.updatedEvent, hcapacity, Option.getD_none]
      exact h.accounted.classes_fit id event hget
    | some capacity =>
      simp only [Store.updatedEvent, hcapacity, Option.getD_some]
      exact hfits capacity hcapacity (by rw [hget]; rfl)
  | publish id portalKey =>
    rcases unlessTaken_cases (s.portalKeyTaken id portalKey) _ s _ _ with ⟨-, hexec⟩ | ⟨-, hexec⟩
    all_goals rw [Store.exec, hexec]
    · exact ⟨h, kept.refl s⟩
    · exact ⟨h.events (fun _ => rfl) fun event hget => h.accounted.classes_fit id event hget,
        kept_events id _⟩
  | setStatus id status =>
    exact ⟨h.events (fun _ => rfl) fun event hget => h.accounted.classes_fit id event hget,
      kept_events id _⟩
  | createTicketClass row =>
    rcases unlessTaken_cases (s.classNameTaken row) _ s _ _ with ⟨-, hexec⟩ | ⟨hfree, hexec⟩
    all_goals rw [Store.exec, hexec]
    · exact ⟨h, kept.refl s⟩
    · refine ⟨h.createTicketClass row hneeds (hfits hfree),
        kept_of_rows (fun _ he => he) (fun _ cls hc => ?_) rfl⟩
      exact ⟨cls, Table.get?_insert_of_some hc, rfl⟩
  | book row =>
    rcases unlessTaken_cases (s.bookingNumberTaken row) _ s _ _ with ⟨-, hexec⟩ | ⟨hfree, hexec⟩
    all_goals rw [Store.exec, hexec]
    · exact ⟨h, kept.refl s⟩
    · refine ⟨h.book _ hneeds (hfits hfree), kept.trans ?_ (kept_addSold _ _ _)⟩
      exact ⟨fun _ he => he, fun _ cls hc => ⟨cls, hc, rfl⟩,
        fun _ booking hb => ⟨booking, Table.get?_insert_of_some hb, rfl, rfl, rfl⟩⟩
  | cancel bookingId booking =>
    refine ⟨h.cancel bookingId booking hneeds hfits, kept.trans ?_ (kept_addSold _ _ _)⟩
    exact kept_bookings fun _ => ⟨rfl, rfl, rfl⟩
  | createTicket row =>
    rcases unlessTaken_cases (s.ticketTaken row) _ s _ _ with ⟨-, hexec⟩ | ⟨-, hexec⟩
    all_goals rw [Store.exec, hexec]
    · exact ⟨h, kept.refl s⟩
    · exact ⟨h.tickets _, kept.refl s⟩
  | createCheckIn row => exact ⟨h.checkIns _, kept.refl s⟩
  | checkIn ticketId ticket =>
    refine ⟨h.checkIn ticketId ticket hfits, ?_⟩
    have hletIn : kept.rel s (s.letIn ticketId ticket.eventId) := kept_events ticket.eventId _
    show kept.rel s (s.checkIn ticketId ticket)
    unfold Store.checkIn
    simp only
    split
    · exact kept.trans hletIn (kept_bookings fun _ => ⟨rfl, rfl, rfl⟩)
    · exact hletIn

def capacityDiscipline : Discipline fun _ => Store.exec where
  inv := Sound
  rely _ := kept
  needs _ := needs
  allowed := stillFits
  keeps _ s k h hneeds hfits :=
    ⟨(keeps_exec s k h hneeds hfits).1, fun _ _ => (keeps_exec s k h hneeds hfits).2⟩

-- ---
-- Every call
-- ---

/-- The call finds what its writes need. -/
abbrev Fits (i : Nat) (s : Store) (x : EventsProgram Unit) : Prop :=
  x.Safe capacityDiscipline i (fun _ _ => True) s

theorem fits_statement {k : Statement} {f : k.Answer → EventsProgram Unit}
    (hneeds : ∀ t, kept.rel s t → needs t k) (hnext : ∀ t a, kept.rel s t → Fits i t (f a)) :
    Fits i s (query k >>= f) := by
  refine safe_statement (fun t hrely _ => hneeds t hrely) fun t hrely hinv hallowed => ?_
  have hkept : kept.rel s (t.exec k).1 :=
    kept.trans hrely (keeps_exec t k hinv (hneeds t hrely) hallowed).2
  cases (Store.exec t k).2 with
  | ok a => exact hnext _ a hkept
  | error e => trivial

/-- A last statement. -/
theorem fits_last {k : Statement} (hneeds : ∀ t, kept.rel s t → needs t k) :
    (query k).Safe capacityDiscipline i (fun _ _ => True) s :=
  fun t hrely _ => ⟨hneeds t hrely, fun _ => trivial⟩

theorem fits_ensure {f : Unit → EventsProgram Unit} (hnext : Fits i s (f ())) :
    Fits i s (ensure b e >>= f) :=
  safe_ensure (fun _ => hnext) fun _ => trivial

theorem fits_findEvent {f : Event → EventsProgram Unit}
    (hnext : ∀ t event, (t.events.get? eventId).isSome = true → Fits i t (f event)) :
    Fits i s (findEventOrFail eventId ctx >>= f) := by
  refine safe_bind (safe_read (fun t => (t.events.get? eventId).filter fun event =>
    event.branchId == ctx.branchId && event.orgId == ctx.organizationId) (fun _ => rfl)
      (fun _ _ _ => trivial) fun t _ _ => ?_)
  cases hfind : (t.events.get? eventId).filter fun event =>
      event.branchId == ctx.branchId && event.orgId == ctx.organizationId with
  | none => trivial
  | some event =>
    refine hnext t event ?_
    rw [(Option.filter_eq_some_iff.mp hfind).1]
    rfl

theorem fits_findBooking {f : EventBooking → EventsProgram Unit}
    (hnext : ∀ t booking, t.bookings.get? bookingId = some booking → Fits i t (f booking)) :
    Fits i s (findBookingOrFail bookingId ctx >>= f) := by
  refine safe_bind (safe_read (fun t => (t.bookings.get? bookingId).filter fun booking =>
    booking.branchId == ctx.branchId && booking.orgId == ctx.organizationId) (fun _ => rfl)
      (fun _ _ _ => trivial) fun t _ _ => ?_)
  cases hfind : (t.bookings.get? bookingId).filter fun booking =>
      booking.branchId == ctx.branchId && booking.orgId == ctx.organizationId with
  | none => trivial
  | some booking => exact hnext t booking (Option.filter_eq_some_iff.mp hfind).1

theorem fits_venue {f : Unit → EventsProgram Unit} (hnext : ∀ t, kept.rel s t → Fits i t (f ())) :
    Fits i s (checkVenueTable venueTableId ctx >>= f) := by
  cases venueTableId with
  | none => exact hnext s (kept.refl s)
  | some tableId =>
    refine safe_bind (safe_read (fun t => (t.tables.get? tableId).filter fun table =>
      table.branchId == ctx.branchId && table.orgId == ctx.organizationId) (fun _ => rfl)
        (fun _ _ _ => trivial) fun t hrely _ => ?_)
    cases (t.tables.get? tableId).filter fun table =>
        table.branchId == ctx.branchId && table.orgId == ctx.organizationId with
    | none => trivial
    | some table => exact hnext t hrely

theorem fits_issueRemaining (bookingId : Id) (booking : EventBooking) (ctx : BranchContext)
    (holderName : Option String) (tokens : List String) (s : Store) :
    Fits i s (issueRemaining bookingId booking ctx holderName tokens) := by
  induction tokens generalizing s with
  | nil => trivial
  | cons qrToken tokens ih =>
    refine fits_statement (fun _ _ => trivial) fun t last _ => ?_
    exact fits_statement (fun _ _ => trivial) fun t _ _ => ih t

theorem fits_createBooking (eventId : Id) (ctx : BranchContext) (dto : CreateBookingDto)
    (s : Store) : Fits i s (createBooking eventId ctx dto) := by
  refine fits_findEvent fun t event _ => fits_ensure ?_
  refine fits_statement (fun _ _ => trivial) fun t now _ => fits_ensure (fits_ensure ?_)
  refine safe_read (fun t => (t.ticketClasses.get? dto.ticketClassId).filter fun cls =>
    cls.eventId == eventId && cls.branchId == ctx.branchId && cls.active) (fun _ => rfl)
      (fun _ _ _ => trivial) fun t _ _ => safe_need (fun cls hfind => ?_) fun _ => trivial
  obtain ⟨hget, hfilter⟩ := Option.filter_eq_some_iff.mp hfind
  have hevent : cls.eventId = eventId := by
    simp only [Bool.and_eq_true, beq_iff_eq] at hfilter
    exact hfilter.1.1
  refine fits_ensure (fits_ensure (fits_statement (fun _ _ => trivial) fun u last htu => ?_))
  refine fits_statement (fun v huv => ⟨rfl, ?_⟩) fun _ _ _ => trivial
  obtain ⟨cls', hget', hlink⟩ := (kept.trans htu huv).2.1 _ cls hget
  exact ⟨cls', hget', hlink.trans hevent⟩

theorem fits_program (i : Nat) (call : EventsCall) (s : Store) : Fits i s call.program := by
  cases call with
  | createEvent ctx dto =>
    exact fits_venue fun t _ => fits_statement (fun _ _ => trivial) fun t last _ =>
      fits_statement (fun _ _ => trivial) fun _ _ _ => trivial
  | updateEvent eventId ctx dto =>
    refine fits_findEvent fun t event _ => fits_ensure (fits_venue fun t _ => ?_)
    exact fits_last fun _ _ => trivial
  | publishEvent eventId ctx portalKey =>
    exact fits_findEvent fun t event _ => fits_ensure (fits_last fun _ _ => trivial)
  | openEvent eventId ctx =>
    exact fits_findEvent fun t event _ => fits_ensure (fits_last fun _ _ => trivial)
  | closeEvent eventId ctx =>
    exact fits_findEvent fun t event _ => fits_ensure (fits_last fun _ _ => trivial)
  | createTicketClass eventId ctx dto =>
    refine fits_findEvent fun t event hevent => ?_
    refine fits_statement (fun _ _ => trivial) fun u capacity htu => fits_ensure ?_
    refine fits_statement (fun v huv => ⟨rfl, ?_⟩) fun _ _ _ => trivial
    exact (kept.trans htu huv).1 eventId hevent
  | createBooking eventId ctx dto => exact fits_createBooking eventId ctx dto s
  | cancelBooking bookingId ctx =>
    refine fits_findBooking fun t booking hget => fits_ensure (fits_ensure ?_)
    refine fits_statement (fun u htu => ?_) fun u _ _ => fits_findBooking fun _ _ _ => trivial
    exact htu.2.2 bookingId booking hget
  | issueTickets bookingId ctx holderName tokens =>
    refine fits_findBooking fun t booking _ => fits_ensure ?_
    refine fits_statement (fun _ _ => trivial) fun u existingCount _ => fits_ensure ?_
    exact fits_issueRemaining bookingId booking ctx holderName _ u
  | checkInTicket ticketId ctx message =>
    refine fits_statement (fun _ _ => trivial) fun t found _ =>
      safe_need (fun ticket _ => ?_) fun _ => trivial
    cases ticket.status with
    | checkedIn | cancelled | voided =>
      exact fits_statement (fun _ _ => trivial) fun _ _ _ => trivial
    | issued =>
      exact fits_statement (fun _ _ => trivial) fun _ _ _ => fits_last fun _ _ => trivial

-- ---
-- Every interleaving
-- ---

/-- A statement of one of the calls, or time passing. -/
inductive Turn
  | call (i : Nat)
  | wait (ms : Nat)

def turn (p : Pool Store (EventsProgram Unit)) : Turn → Pool Store (EventsProgram Unit)
  | .call i => Program.turn (fun _ => Store.exec) p i
  | .wait ms => { p with shared := { p.shared with clock := p.shared.clock + ms } }

def fits (p : Pool Store (EventsProgram Unit)) : Turn → Prop
  | .call i => ∀ x ∈ p.threads[i]?, x.asks stillFits p.shared
  | .wait _ => True

instance (p : Pool Store (EventsProgram Unit)) : (t : Turn) → Decidable (fits p t)
  | .call i => inferInstanceAs (Decidable (∀ x ∈ p.threads[i]?, x.asks stillFits p.shared))
  | .wait _ => .isTrue trivial

def requested (s : Store) (calls : List EventsCall) : Pool Store (EventsProgram Unit) where
  shared := s
  threads := calls.map (·.program)

/-- While every write finds what its call checked, and no event is made smaller than
its classes, the counts of classes and events add up and fit. -/
theorem run_accounted (calls : List EventsCall) (hsound : Sound s)
    (hrun : Run turn fits (requested s calls) turns p) : Accounted p.shared := by
  have hsafe : SafePool capacityDiscipline (fun _ _ _ => True) p := by
    refine hrun.invariant ⟨hsound, fun i x hx => ?_⟩ fun q t h ht => ?_
    · obtain ⟨call, _, rfl⟩ := List.mem_map.mp (List.mem_of_getElem? hx)
      exact fits_program i call s
    · cases t with
      | call i => exact h.turn (fun _ _ _ _ _ _ => trivial) i ht
      | wait ms =>
        exact h.moves (fun _ _ _ _ _ _ => trivial)
          ⟨⟨h.inv.accounted.class_sold, h.inv.accounted.class_fits, h.inv.accounted.event_sold,
            h.inv.accounted.event_fits, h.inv.accounted.classes_fit⟩,
            ⟨h.inv.linked.class_event, h.inv.linked.booking_class⟩⟩
          fun _ => kept_of_rows (fun _ h => h) (fun _ cls hc => ⟨cls, hc, rfl⟩) rfl
  exact hsafe.inv.accounted

theorem sound_empty : Sound {} where
  accounted := by
    refine .of_counts (fun c cls hget => ?_) fun e event hget => ?_
    · cases hget
    · cases hget
  linked := by
    refine ⟨fun c cls hget => ?_, fun b booking hget => ?_⟩
    · cases hget
    · cases hget

/-- An event with one class, and what its office then does. -/
def office (classCapacity : Nat) (calls : List EventsCall) : Pool Store (EventsProgram Unit) :=
  requested {} ([.createEvent ⟨0, 0⟩ { capacity := 2 },
    .createTicketClass 0 ⟨0, 0⟩ { name := "Main", price := 1000, capacity := classCapacity }]
      ++ calls)

/-- The event and its class are there before the rest. -/
def afterwards (turns : List Turn) : List Turn :=
  [.call 0, .call 0, .call 1, .call 1, .call 1] ++ turns

/-- The class takes the event's two places, and the event is then made smaller. -/
def lowered : Pool Store (EventsProgram Unit) :=
  (afterwards [.call 2, .call 2]).foldl turn
    (office 2 [.updateEvent 0 ⟨0, 0⟩ { capacity := some 1 }])

def oneTicket : EventsCall :=
  .createBooking 0 ⟨0, 0⟩ { ticketClassId := 0, customerName := "Guest", quantity := 1 }

/-- Two guests are told that the last ticket is free before the first takes it. -/
def oversold : Pool Store (EventsProgram Unit) :=
  (afterwards [.call 2, .call 2, .call 3, .call 3, .call 3, .call 4, .call 4, .call 4,
    .call 3, .call 3, .wait 1, .call 4, .call 4]).foldl turn
      (office 1 [.publishEvent 0 ⟨0, 0⟩ "key", oneTicket, oneTicket])

/-- An event smaller than its class, and a class sold twice. -/
theorem event_exceeded : ¬Accounted lowered.shared ∧ ¬Accounted oversold.shared := by
  have hlowered : (lowered.shared.events.get? 0).map (·.capacity) = some 1 ∧
      lowered.shared.classCapacity 0 = 2 := by decide
  have hoversold : (oversold.shared.ticketClasses.get? 0).map (fun cls =>
      (cls.soldCount, cls.capacity)) = some (2, 1) := by decide
  constructor
  · intro h
    obtain ⟨event, hget, hcapacity⟩ := Option.map_eq_some_iff.mp hlowered.1
    have hfit := h.classes_fit 0 event hget
    rw [hlowered.2, hcapacity] at hfit
    exact absurd hfit (by decide)
  · intro h
    obtain ⟨cls, hget, hcls⟩ := Option.map_eq_some_iff.mp hoversold
    obtain ⟨hsold, hcapacity⟩ := Prod.mk.inj hcls
    have hfit := h.class_fits 0 cls hget
    rw [hsold, hcapacity] at hfit
    exact absurd hfit (by decide)

/-- The last ticket is sold, cancelled, and sold again. -/
def resold : Pool Store (EventsProgram Unit) :=
  office 1 [.publishEvent 0 ⟨0, 0⟩ "key", oneTicket, .cancelBooking 0 ⟨0, 0⟩, oneTicket]

def resale : List Turn :=
  afterwards [.call 2, .call 2, .call 3, .call 3, .call 3, .call 3, .call 3, .wait 1,
    .call 4, .call 4, .call 4, .call 5, .call 5, .call 5, .call 5, .call 5]

theorem run_accounted_resale : Accounted (resale.foldl turn resold).shared :=
  run_accounted _ sound_empty (.of_holds (by decide))

end NimbusPos.EventsService
