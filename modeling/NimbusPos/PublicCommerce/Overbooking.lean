import NimbusPos.Common
import NimbusPos.Lib.Program

/-!
# Bookings of public events

A guest holds tickets of a published event for a quarter of an hour and confirms them
within it; the merchant sets the event's capacity, where none is zero. Each call is the
program of its statements; the transaction of a confirmation is one of them.
-/

namespace NimbusPos.PublicCommerceService

open Lib Lib.Program

inductive PublicEventStatus
  | draft
  | published
  | cancelled
  | completed
  deriving DecidableEq, Repr

inductive EventBookingHoldStatus
  | held
  | confirmed
  | expired
  | cancelled
  deriving DecidableEq, Repr

def EventBookingHoldStatus.toString : EventBookingHoldStatus → String
  | .held => "HELD"
  | .confirmed => "CONFIRMED"
  | .expired => "EXPIRED"
  | .cancelled => "CANCELLED"

instance : ToString EventBookingHoldStatus := ⟨EventBookingHoldStatus.toString⟩

structure PublicEvent where
  orgId : Id
  branchId : Id
  slug : String
  capacity : Nat := 0
  bookedCount : Nat := 0
  isFree : Bool := true
  status : PublicEventStatus := .draft
  deriving DecidableEq, Repr

structure EventBookingHold where
  orgId : Id
  branchId : Id
  publicEventId : Id
  guestName : String
  guestEmail : Option String := none
  guestPhone : Option String := none
  ticketCount : Nat := 1
  notes : Option String := none
  status : EventBookingHoldStatus := .held
  expiresAt : Time
  confirmedAt : Option Time := none
  deriving DecidableEq, Repr

structure Store where
  clock : Time := 0
  events : Table PublicEvent := .empty
  holds : Table EventBookingHold := .empty

-- ---
-- Statements
-- ---

/-- A hold is found with its event. -/
inductive Statement
  | now
  | findEventBySlug (slug : String)
  | createHold (row : EventBookingHold)
  | findHold (holdId : Id)
  | expireHold (holdId : Id)
  | confirmHold (holdId publicEventId : Id) (ticketCount : Nat)
  | findEvent (orgId eventId : Id)
  | setCapacity (eventId : Id) (capacity : Nat)
  deriving DecidableEq, Repr

abbrev Statement.Answer : Statement → Type
  | .now | .confirmHold .. => Time
  | .findEventBySlug _ => Option (Id × PublicEvent)
  | .createHold _ => Id
  | .findHold _ => Option (EventBookingHold × PublicEvent)
  | .findEvent .. => Option PublicEvent
  | _ => Unit

namespace Store

def findHold (s : Store) (holdId : Id) : Option (EventBookingHold × PublicEvent) := do
  let hold ← s.holds.get? holdId
  let event ← s.events.get? hold.publicEventId
  return (hold, event)

/-- The transaction of a confirmation. -/
def confirmHold (s : Store) (holdId publicEventId : Id) (ticketCount : Nat) : Store :=
  { s with
    holds := s.holds.update holdId fun hold =>
      { hold with status := .confirmed, confirmedAt := some s.clock }
    events := s.events.update publicEventId fun event =>
      { event with bookedCount := event.bookedCount + ticketCount } }

def exec (s : Store) : (k : Statement) → Store × Except HttpError k.Answer
  | .now => (s, .ok s.clock)
  | .findEventBySlug slug => (s, .ok (s.events.findFirst fun _ event => event.slug == slug))
  | .createHold row => ({ s with holds := s.holds.insert row }, .ok s.holds.next)
  | .findHold holdId => (s, .ok (s.findHold holdId))
  | .expireHold holdId =>
    ({ s with holds := s.holds.update holdId fun hold => { hold with status := .expired } }, .ok ())
  | .confirmHold holdId publicEventId ticketCount =>
    (s.confirmHold holdId publicEventId ticketCount, .ok s.clock)
  | .findEvent orgId eventId => (s, .ok ((s.events.get? eventId).filter (·.orgId == orgId)))
  | .setCapacity eventId capacity =>
    ({ s with events := s.events.update eventId fun event => { event with capacity } }, .ok ())

end Store

-- ---
-- Calls
-- ---

abbrev BookingProgram := Program Statement Statement.Answer HttpError

abbrev query (k : Statement) : BookingProgram k.Answer := statement k

structure HoldEventBookingDto where
  eventSlug : String
  guestName : String
  guestEmail : Option String := none
  guestPhone : Option String := none
  ticketCount : Option Nat := none
  notes : Option String := none
  deriving DecidableEq, Repr

inductive Reply
  | held (holdId : Id) (status : EventBookingHoldStatus) (expiresAt : Time) (eventSlug : String)
      (ticketCount : Nat)
  | confirmed (holdId : Id) (confirmedAt : Time)
  | updated (eventId : Id) (capacity : Nat)
  deriving DecidableEq, Repr

def holdMs : Nat := 15 * 60 * 1000

/-- `dto.ticketCount || 1`. -/
def HoldEventBookingDto.tickets (dto : HoldEventBookingDto) : Nat :=
  (dto.ticketCount.filter (· != 0)).getD 1

/-- The event has no room for the tickets. -/
def PublicEvent.full (event : PublicEvent) (ticketCount : Nat) : Bool :=
  decide (event.capacity < event.bookedCount + ticketCount) && decide (0 < event.capacity)

def holdEventBooking (dto : HoldEventBookingDto) : BookingProgram Reply := do
  let found ← query (.findEventBySlug dto.eventSlug)
  let (publicEventId, event) ← need (found.filter (·.2.status == .published))
    (notFound "Event not found")
  let ticketCount := dto.tickets
  ensure (!event.full ticketCount) (conflict "Not enough capacity for this event")
  let now ← query .now
  let expiresAt := now + holdMs
  let holdId ← query (.createHold
    { orgId := event.orgId, branchId := event.branchId, publicEventId, guestName := dto.guestName
      guestEmail := dto.guestEmail, guestPhone := dto.guestPhone, ticketCount, notes := dto.notes
      expiresAt })
  return .held holdId .held expiresAt dto.eventSlug ticketCount

def confirmEventBooking (holdId : Id) : BookingProgram Reply := do
  let found ← query (.findHold holdId)
  let (hold, event) ← need found (notFound "Event booking hold not found")
  ensure (hold.status == .held)
    (conflict ("Cannot confirm booking in status " ++ toString hold.status))
  let now ← query .now
  if hold.expiresAt < now then do
    query (.expireHold holdId)
    throw (conflict "Event booking hold has expired")
  else do
    ensure event.isFree (conflict
      ("Paid event bookings require payment. " ++
        "Public commerce payments are pending implementation."))
    let confirmedAt ← query (.confirmHold holdId hold.publicEventId hold.ticketCount)
    return .confirmed holdId confirmedAt

def updateEventCapacity (orgId eventId : Id) (capacity : Nat) : BookingProgram Reply := do
  let found ← query (.findEvent orgId eventId)
  let event ← need found (notFound "Public event not found")
  ensure (!(decide (0 < capacity) && decide (capacity < event.bookedCount)))
    (conflict ("Cannot set capacity (" ++ toString capacity ++ ") below current bookedCount (" ++
      toString event.bookedCount ++ ")"))
  query (.setCapacity eventId capacity)
  return .updated eventId capacity

inductive BookingCall
  | holdEventBooking (dto : HoldEventBookingDto)
  | confirmEventBooking (holdId : Id)
  | updateEventCapacity (orgId eventId : Id) (capacity : Nat)
  deriving DecidableEq, Repr

def BookingCall.program : BookingCall → BookingProgram Reply
  | .holdEventBooking dto => PublicCommerceService.holdEventBooking dto
  | .confirmEventBooking holdId => PublicCommerceService.confirmEventBooking holdId
  | .updateEventCapacity orgId eventId capacity =>
    PublicCommerceService.updateEventCapacity orgId eventId capacity

end NimbusPos.PublicCommerceService

/-!
# Booked tickets

A hold takes no tickets until it is confirmed, and a confirmation looks neither at the
capacity nor again at its hold. The tickets that are booked are those of the confirmed
holds and fit into the event while each write still finds what its call had checked.
-/

namespace NimbusPos.PublicCommerceService

open Lib Lib.Program

/-- What a confirmation found its hold to be. -/
structure Confirmation where
  holdId : Id
  status : EventBookingHoldStatus
  late : Bool
  deriving DecidableEq, Repr

structure World where
  store : Store
  confirmations : List Confirmation := []

namespace World

def exec (w : World) (k : Statement) : World × Except HttpError k.Answer :=
  let r := w.store.exec k
  ({ store := r.1
     confirmations := match k with
      | .confirmHold holdId _ _ =>
        match w.store.holds.get? holdId with
        | some hold =>
          ⟨holdId, hold.status, decide (hold.expiresAt < w.store.clock)⟩ :: w.confirmations
        | none => w.confirmations
      | _ => w.confirmations }, r.2)

def wait (w : World) (ms : Nat) : World :=
  { w with store := { w.store with clock := w.store.clock + ms } }

/-- A confirmation finds a hold that is held, not late and within the capacity, a hold
that expires is not confirmed, and a capacity is set that the booked tickets fit. -/
def stillGood (w : World) : Statement → Prop
  | .confirmHold holdId publicEventId ticketCount =>
    (∀ hold ∈ w.store.holds.get? holdId, hold.status = .held ∧ w.store.clock ≤ hold.expiresAt) ∧
      ∀ event ∈ w.store.events.get? publicEventId, event.full ticketCount = false
  | .expireHold holdId => ∀ hold ∈ w.store.holds.get? holdId, hold.status ≠ .confirmed
  | .setCapacity eventId capacity => 0 < capacity →
      ∀ event ∈ w.store.events.get? eventId, event.bookedCount ≤ capacity
  | _ => True

instance (w : World) : (k : Statement) → Decidable (w.stillGood k)
  | .confirmHold .. => inferInstanceAs (Decidable (_ ∧ _))
  | .expireHold holdId => inferInstanceAs (Decidable
      (∀ hold ∈ w.store.holds.get? holdId, hold.status ≠ .confirmed))
  | .setCapacity .. => inferInstanceAs (Decidable (_ → _))
  | .now | .findEventBySlug _ | .createHold _ | .findHold _ | .findEvent .. => .isTrue trivial

end World

/-- The tickets of an event's confirmed holds. -/
def Store.confirmedTickets (s : Store) (eventId : Id) : Int :=
  s.holds.sumWhere (fun _ hold => hold.publicEventId == eventId && hold.status == .confirmed)
    fun hold => hold.ticketCount

structure Booked (w : World) : Prop where
  counted : ∀ eventId event, w.store.events.get? eventId = some event →
    (event.bookedCount : Int) = w.store.confirmedTickets eventId
  fits : ∀ eventId event, w.store.events.get? eventId = some event → 0 < event.capacity →
    event.bookedCount ≤ event.capacity
  onTime : ∀ confirmation ∈ w.confirmations,
    confirmation.status ≠ .expired ∧ confirmation.late = false
  once : (w.confirmations.map (·.holdId)).Nodup

structure Sound (w : World) : Prop extends Booked w where
  confirmed : ∀ confirmation ∈ w.confirmations, ∃ hold,
    w.store.holds.get? confirmation.holdId = some hold ∧ hold.status = .confirmed

/-- What a write needs of the hold that its call has read. -/
def World.known (w : World) : Statement → Prop
  | .createHold row => row.status = .held
  | .confirmHold holdId publicEventId ticketCount =>
    ∃ hold, w.store.holds.get? holdId = some hold ∧ hold.publicEventId = publicEventId ∧
      hold.ticketCount = ticketCount
  | _ => True

def EventBookingHold.Kept (hold new : EventBookingHold) : Prop :=
  new.publicEventId = hold.publicEventId ∧ new.ticketCount = hold.ticketCount

theorem EventBookingHold.Kept.refl (hold : EventBookingHold) : hold.Kept hold := ⟨rfl, rfl⟩

theorem EventBookingHold.Kept.trans (a b c : EventBookingHold) (h : a.Kept b) (h' : b.Kept c) :
    a.Kept c :=
  ⟨h'.1.trans h.1, h'.2.trans h.2⟩

/-- Holds stay, with their event and their tickets. -/
def kept : Service.Frame World where
  rel w v := Table.Grows EventBookingHold.Kept w.store.holds v.store.holds
  refl _ := .refl .refl _
  trans h h' := h.trans EventBookingHold.Kept.trans h'

variable {w v : World} {k : Statement}

-- ---
-- One statement
-- ---

/-- What a hold adds to the tickets of an event. -/
def takes (eventId : Id) (hold : EventBookingHold) : Int :=
  if hold.publicEventId == eventId && hold.status == .confirmed then hold.ticketCount else 0

theorem confirmedTickets_eq (s : Store) (eventId : Id) :
    s.confirmedTickets eventId = s.holds.total fun _ => takes eventId :=
  Table.sumWhere_eq_total _ _ _

theorem confirmedTickets_insert (s : Store) (h : row.status = .held) (eventId : Id) :
    { s with holds := s.holds.insert row }.confirmedTickets eventId =
      s.confirmedTickets eventId := by
  simp [confirmedTickets_eq, Table.total_insert, takes, h]

theorem confirmedTickets_update {s : Store} (hget : s.holds.get? holdId = some hold)
    (f : EventBookingHold → EventBookingHold) (eventId : Id) :
    { s with holds := s.holds.update holdId f }.confirmedTickets eventId =
      s.confirmedTickets eventId + (takes eventId (f hold) - takes eventId hold) := by
  rw [confirmedTickets_eq, confirmedTickets_eq]
  exact Table.total_update hget f _

theorem kept_update {f : EventBookingHold → EventBookingHold}
    (hf : ∀ hold : EventBookingHold, hold.Kept (f hold)) : kept.rel w
      { store := { w.store with holds := w.store.holds.update holdId f, events }, confirmations } :=
  .update EventBookingHold.Kept.refl hf _ _

theorem kept_exec (w : World) (k : Statement) : kept.rel w (w.exec k).1 := by
  cases k with
  | createHold row => exact .insert .refl _ _
  | expireHold _ | confirmHold _ _ _ =>
    refine kept_update ?_
    exact fun _ => ⟨rfl, rfl⟩
  | _ => exact kept.refl w

theorem known_kept (h : w.known k) (hkept : kept.rel w v) : v.known k := by
  cases k with
  | createHold row => exact h
  | confirmHold holdId publicEventId ticketCount =>
    obtain ⟨hold, hget, hevent, htickets⟩ := h
    obtain ⟨new, hnew, hevent', htickets'⟩ := Table.Grows.forth hkept holdId hold hget
    exact ⟨new, hnew, hevent'.trans hevent, htickets'.trans htickets⟩
  | _ => trivial

section

variable (h : Sound w)
include h

theorem Sound.createHold (hheld : row.status = .held) : Sound (w.exec (.createHold row)).1 where
  counted eventId event hget :=
    (h.counted eventId event hget).trans (confirmedTickets_insert w.store hheld eventId).symm
  fits := h.fits
  onTime := h.onTime
  once := h.once
  confirmed confirmation hmem := by
    obtain ⟨hold, hget, hstatus⟩ := h.confirmed confirmation hmem
    exact ⟨hold, Table.get?_insert_of_some hget, hstatus⟩

/-- A hold that was not confirmed took no tickets. -/
theorem Sound.expireHold (hgood : w.stillGood (.expireHold holdId)) :
    Sound (w.exec (.expireHold holdId)).1 := by
  refine ⟨⟨fun eventId event hget => ?_, h.fits, h.onTime, h.once⟩, fun confirmation hmem => ?_⟩
  · refine (h.counted eventId event hget).trans ?_
    show w.store.confirmedTickets eventId = Store.confirmedTickets
      { w.store with holds := w.store.holds.update holdId fun hold =>
          { hold with status := .expired } } eventId
    cases hhold : w.store.holds.get? holdId with
    | none => rw [Table.update_none hhold]
    | some hold =>
      rw [confirmedTickets_update hhold]
      simp [takes, hgood hold hhold]
  · obtain ⟨hold, hget, hstatus⟩ := h.confirmed confirmation hmem
    refine ⟨hold, ?_, hstatus⟩
    have hne : confirmation.holdId ≠ holdId := by
      rintro rfl
      exact hgood hold hget hstatus
    exact (Table.get?_update_ne _ _ hne).trans hget

theorem Sound.setCapacity (hgood : w.stillGood (.setCapacity eventId capacity)) :
    Sound (w.exec (.setCapacity eventId capacity)).1 := by
  have hevents (e : Id) (event : PublicEvent)
      (hget : (w.store.events.update eventId fun event =>
        { event with capacity }).get? e = some event) :
      ∃ before, w.store.events.get? e = some before ∧ event.bookedCount = before.bookedCount ∧
        (0 < event.capacity → event.bookedCount ≤ event.capacity) := by
    rcases Table.update_cases hget with ⟨rfl, before, hbefore, rfl⟩ | ⟨-, hget⟩
    · exact ⟨before, hbefore, rfl, fun hpos => hgood hpos before hbefore⟩
    · exact ⟨event, hget, rfl, h.fits e event hget⟩
  refine ⟨⟨fun e event hget => ?_, fun e event hget => ?_, h.onTime, h.once⟩, h.confirmed⟩
  · obtain ⟨before, hbefore, hbooked, -⟩ := hevents e event hget
    rw [hbooked]
    exact h.counted e before hbefore
  · obtain ⟨before, -, -, hfits⟩ := hevents e event hget
    exact hfits

/-- The tickets of the hold are counted where they are added. -/
theorem Sound.confirmHold (hknown : w.known (.confirmHold holdId publicEventId ticketCount))
    (hgood : w.stillGood (.confirmHold holdId publicEventId ticketCount)) :
    Sound (w.exec (.confirmHold holdId publicEventId ticketCount)).1 := by
  obtain ⟨hold, hhold, rfl, rfl⟩ := hknown
  obtain ⟨hheld, hroom⟩ := hgood
  obtain ⟨hstatus, hontime⟩ := hheld hold hhold
  have hlate : decide (hold.expiresAt < w.store.clock) = false :=
    decide_eq_false (Nat.not_lt_of_le hontime)
  have hconfirmations :
      (w.exec (.confirmHold holdId hold.publicEventId hold.ticketCount)).1.confirmations =
        ⟨holdId, .held, false⟩ :: w.confirmations := by
    simp only [World.exec, hhold, hstatus, hlate]
  have hfresh : ∀ confirmation ∈ w.confirmations, confirmation.holdId ≠ holdId := by
    rintro confirmation hmem rfl
    obtain ⟨other, hget, hconfirmed⟩ := h.confirmed confirmation hmem
    obtain rfl := Option.some.inj (hget.symm.trans hhold)
    rw [hstatus] at hconfirmed
    cases hconfirmed
  have hevents (e : Id) (event : PublicEvent)
      (hget : (w.exec (.confirmHold holdId hold.publicEventId hold.ticketCount)).1.store.events.get?
        e = some event) : ∃ before, w.store.events.get? e = some before ∧
        event.capacity = before.capacity ∧ event.bookedCount =
          before.bookedCount + if e = hold.publicEventId then hold.ticketCount else 0 := by
    have hget' : (w.store.events.update hold.publicEventId fun event =>
        { event with bookedCount := event.bookedCount + hold.ticketCount }).get? e =
          some event := hget
    rcases Table.update_cases hget' with ⟨he, before, hbefore, rfl⟩ | ⟨he, hget'⟩
    · exact ⟨before, hbefore, rfl, by rw [if_pos he]⟩
    · exact ⟨event, hget', rfl, by rw [if_neg he]; rfl⟩
  constructor
  · refine ⟨fun e event hget => ?_, fun e event hget hpos => ?_, ?_, ?_⟩
    · obtain ⟨before, hbefore, -, hbooked⟩ := hevents e event hget
      have hcounted := h.counted e before hbefore
      show (event.bookedCount : Int) = Store.confirmedTickets
        { w.store with holds := w.store.holds.update holdId fun hold =>
            { hold with status := .confirmed, confirmedAt := some w.store.clock } } e
      rw [confirmedTickets_update hhold, hbooked, ← hcounted]
      by_cases he : e = hold.publicEventId
      · simp [takes, hstatus, he]
      · simp [takes, hstatus, he, Ne.symm he]
    · obtain ⟨before, hbefore, hcapacity, hbooked⟩ := hevents e event hget
      rw [hcapacity] at hpos ⊢
      rw [hbooked]
      split
      · rename_i he
        have hfull := hroom before (he ▸ hbefore)
        simp only [PublicEvent.full, Bool.and_eq_false_iff, decide_eq_false_iff_not] at hfull
        omega
      · exact h.fits e before hbefore hpos
    · rw [hconfirmations]
      intro confirmation hmem
      rcases List.mem_cons.mp hmem with rfl | hmem
      · exact ⟨by simp, rfl⟩
      · exact h.onTime confirmation hmem
    · rw [hconfirmations, List.map_cons, List.nodup_cons]
      refine ⟨fun hmem => ?_, h.once⟩
      obtain ⟨confirmation, hmem, hid⟩ := List.mem_map.mp hmem
      exact hfresh confirmation hmem hid
  · rw [hconfirmations]
    intro confirmation hmem
    rcases List.mem_cons.mp hmem with rfl | hmem
    · refine ⟨{ hold with status := .confirmed, confirmedAt := some w.store.clock }, ?_, rfl⟩
      show (w.store.holds.update holdId _).get? holdId = _
      rw [Table.get?_update_self, hhold]
      rfl
    · obtain ⟨other, hget, hconfirmed⟩ := h.confirmed confirmation hmem
      exact ⟨other, (Table.get?_update_ne _ _ (hfresh confirmation hmem)).trans hget, hconfirmed⟩

theorem Sound.exec (hknown : w.known k) (hgood : w.stillGood k) : Sound (w.exec k).1 := by
  cases k with
  | createHold row => exact h.createHold hknown
  | expireHold holdId => exact h.expireHold hgood
  | confirmHold holdId publicEventId ticketCount => exact h.confirmHold hknown hgood
  | setCapacity eventId capacity => exact h.setCapacity hgood
  | _ => exact h

end

-- ---
-- Calls
-- ---

def bookingDiscipline : Discipline fun _ => World.exec where
  inv := Sound
  rely _ := kept
  needs _ := World.known
  allowed := World.stillGood
  keeps _ w k h hknown hgood := ⟨h.exec hknown hgood, fun _ _ => kept_exec w k⟩

/-- The hold is of the event, for so many tickets. -/
theorem confirm_safe (holdId publicEventId : Id) (ticketCount : Nat)
    {f : Time → BookingProgram Reply} (h : w.known (.confirmHold holdId publicEventId ticketCount))
    (hf : ∀ confirmedAt, Always bookingDiscipline i (f confirmedAt)) :
    (query (.confirmHold holdId publicEventId ticketCount) >>= f).Safe bookingDiscipline i
      (fun _ _ => True) w :=
  safe_any (fun _ hrely _ => known_kept h hrely) (fun _ _ => trivial) fun v confirmedAt =>
    hf confirmedAt v

theorem confirmEventBooking_always (holdId : Id) :
    Always bookingDiscipline i (confirmEventBooking holdId) := by
  intro w
  refine safe_read (fun v => v.store.findHold holdId) (fun _ => rfl) (fun _ _ _ => trivial) ?_
  refine fun v _ _ => safe_need ?_ fun _ => trivial
  rintro ⟨hold, event⟩ hfound
  have hknown : v.known (.confirmHold holdId hold.publicEventId hold.ticketCount) := by
    simp only [Store.findHold, Option.bind_eq_bind, Option.bind_eq_some_iff] at hfound
    obtain ⟨_, hget, _, _, heq⟩ := hfound
    cases heq
    exact ⟨hold, hget, rfl, rfl⟩
  refine safe_ensure (fun _ => ?_) fun _ => trivial
  refine safe_known (fun v => v.known (.confirmHold holdId hold.publicEventId hold.ticketCount))
    (fun _ _ => known_kept) (fun u hu => known_kept hu (kept_exec u _)) (fun _ _ => trivial)
    (fun _ _ => trivial) hknown fun u now hknown => ?_
  split
  · exact safe_any (fun _ _ _ => trivial) (fun _ _ => trivial) fun _ _ => trivial
  · refine safe_ensure (fun _ => ?_) fun _ => trivial
    exact confirm_safe holdId _ _ hknown fun _ => always_pure _

theorem program_always (call : BookingCall) : Always bookingDiscipline i call.program := by
  cases call with
  | holdEventBooking dto =>
    refine always_bind (always_statement fun _ _ => trivial) fun found => always_need ?_
    rintro ⟨publicEventId, event⟩ -
    refine always_ensure fun _ => always_bind (always_statement fun _ _ => trivial) fun now => ?_
    exact always_bind (always_statement fun _ _ => rfl) fun _ => always_pure _
  | confirmEventBooking holdId => exact confirmEventBooking_always holdId
  | updateEventCapacity orgId eventId capacity =>
    refine always_bind (always_statement fun _ _ => trivial) fun found =>
      always_need fun event _ => ?_
    refine always_ensure fun _ => ?_
    exact always_bind (always_statement fun _ _ => trivial) fun _ => always_pure _

-- ---
-- Every interleaving
-- ---

abbrev BookingPool := Pool World (BookingProgram Reply)

abbrev take : BookingPool → Turn → BookingPool := Turn.take (fun _ => World.exec) World.wait

/-- The calls, none of which has started. -/
def requested (s : Store) (calls : List BookingCall) : BookingPool where
  shared := { store := s }
  threads := calls.map (·.program)

/-- In any interleaving, the tickets booked are those of the confirmed holds, and fit. -/
theorem pool_booked (s : Store) (hbooked : Booked { store := s })
    (hrun : Run take (fun p t => t.asks World.stillGood p) (requested s calls) turns p) :
    Booked p.shared := by
  have hsafe : SafePool bookingDiscipline (fun _ _ _ => True) (requested s calls) := by
    refine ⟨⟨hbooked, fun _ hmem => by cases hmem⟩, fun i x hx => ?_⟩
    simp only [requested, List.getElem?_map, Option.map_eq_some_iff] at hx
    obtain ⟨call, -, rfl⟩ := hx
    exact program_always call _
  have hwait (w : World) (ms : Nat) (h : Sound w) :
      Sound (w.wait ms) ∧ ∀ _ : Nat, kept.rel w (w.wait ms) :=
    ⟨⟨⟨h.counted, h.fits, h.onTime, h.once⟩, h.confirmed⟩, fun _ => kept.refl w⟩
  exact (hsafe.run (fun _ _ _ _ _ _ => trivial) hwait hrun).inv.toBooked

/-- A published event of two places, without bookings. -/
def smallEvent : Store where
  events := Table.empty.insert
    { orgId := 0, branchId := 0, slug := "jazz-night", capacity := 2, status := .published }

theorem smallEvent_booked : Booked { store := smallEvent } where
  counted eventId event hget := by
    simp only [smallEvent, Table.get?_insert, Table.get?_empty] at hget
    split at hget <;> cases hget
    rfl
  fits eventId event hget _ := by
    simp only [smallEvent, Table.get?_insert, Table.get?_empty] at hget
    split at hget <;> cases hget
    exact Nat.zero_le _
  onTime _ hmem := by cases hmem
  once := .nil

def holds (ticketCount : Nat) : BookingCall :=
  .holdEventBooking { eventSlug := "jazz-night", guestName := "Ada", ticketCount }

/-- One hold is confirmed and another expires. -/
theorem pool_booked_expired :
    let calls := [holds 2, holds 1, .confirmEventBooking 0, .updateEventCapacity 0 0 3,
      .confirmEventBooking 1]
    let turns := times 3 0 ++ times 3 1 ++ times 3 2 ++ times 2 3 ++ [.wait 900001] ++ times 3 4
    let p := turns.foldl take (requested smallEvent calls)
    (p.shared.store.events.get? 0).map (·.bookedCount) = some 2 ∧ Booked p.shared := by
  intro calls turns p
  have hrun : Run take (fun p t => t.asks World.stillGood p) (requested smallEvent calls) turns p :=
    Run.of_holds (by decide +kernel)
  exact ⟨by decide +kernel, pool_booked smallEvent smallEvent_booked hrun⟩

/-- Two holds that each fit are both confirmed; a hold is confirmed twice at once; a
confirmation comes after its hold has expired; a late check expires a confirmed hold. -/
def overbooked : List (List BookingCall × List Turn) :=
  [([holds 2, holds 2, .confirmEventBooking 0, .confirmEventBooking 1],
      times 3 0 ++ times 3 1 ++ times 3 2 ++ times 3 3),
    ([holds 1, .confirmEventBooking 0, .confirmEventBooking 0],
      times 3 0 ++ times 2 1 ++ times 3 2 ++ times 1 1),
    ([holds 1, .confirmEventBooking 0], times 3 0 ++ times 2 1 ++ [.wait 900001] ++ times 1 1),
    ([holds 1, .confirmEventBooking 0, .confirmEventBooking 0],
      times 3 0 ++ times 1 1 ++ times 3 2 ++ [.wait 900001] ++ times 2 1)]

/-- What `Booked` says of one event, and of the confirmations, to be evaluated. -/
def World.booked (w : World) (eventId : Id) : Bool :=
  (w.store.events.get? eventId).all (fun event =>
    decide ((event.bookedCount : Int) = w.store.confirmedTickets eventId) &&
      (event.capacity == 0 || decide (event.bookedCount ≤ event.capacity))) &&
    w.confirmations.all
      (fun confirmation => confirmation.status != .expired && !confirmation.late) &&
    decide (w.confirmations.map (·.holdId)).Nodup

theorem Booked.check (h : Booked w) (eventId : Id) : w.booked eventId = true := by
  simp only [World.booked, Bool.and_eq_true, decide_eq_true_eq, List.all_eq_true]
  refine ⟨⟨?_, fun confirmation hmem => ?_⟩, h.once⟩
  · cases hget : w.store.events.get? eventId with
    | none => rfl
    | some event =>
      have hfits := h.fits eventId event hget
      simp only [Option.all_some, Bool.and_eq_true, decide_eq_true_eq, Bool.or_eq_true, beq_iff_eq]
      refine ⟨h.counted eventId event hget, ?_⟩
      omega
  · obtain ⟨hstatus, hlate⟩ := h.onTime confirmation hmem
    simp [hstatus, hlate]

theorem pool_overbooked :
    ¬(∀ (s : Store) (calls : List BookingCall) (turns : List Turn) (p : BookingPool),
      Booked { store := s } → Run take (fun _ _ => True) (requested s calls) turns p →
      Booked p.shared) ∧
    ∀ run ∈ overbooked, ¬Booked (run.2.foldl take (requested smallEvent run.1)).shared := by
  have hruns : ∀ run ∈ overbooked,
      ¬Booked (run.2.foldl take (requested smallEvent run.1)).shared := by
    intro run hrun hbooked
    have hcheck := hbooked.check 0
    simp only [overbooked, List.mem_cons, List.not_mem_nil, or_false] at hrun
    rcases hrun with rfl | rfl | rfl | rfl
    all_goals exact absurd hcheck (by decide +kernel)
  refine ⟨fun h => ?_, hruns⟩
  exact hruns _ (.head _) (h smallEvent _ _ _ smallEvent_booked (Run.foldl _ _ _))

end NimbusPos.PublicCommerceService
