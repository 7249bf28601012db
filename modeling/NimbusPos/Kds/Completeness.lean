import NimbusPos.Kds.Service

/-!
# Kitchen completeness

Each order goes through three phases: no ticket is written, one call is writing them,
or they are all written. What a call has read stays what the order wants, and so the
tickets end up being the order's stations with their items.
-/

namespace NimbusPos

open Lib Lib.Service

namespace Kitchen

/-- What the tickets of an order hold, by station. -/
def ticketed (s : Kitchen) (orderId : Id) : Groups PrepStation Id :=
  (s.ticketsOf orderId).map fun row => (row.2.station, row.2.items)

/-- What they are to hold. -/
def wanted (s : Kitchen) (orderId : Id) : Groups PrepStation Id :=
  KdsService.stationGroups (s.orderedItems orderId)

/-- The item appears on one ticket, which is its order's and its station's. -/
def OnOneTicket (s : Kitchen) (itemId orderId : Id) (station : PrepStation) : Prop :=
  ∃ t ticket, s.tickets.get? t = some ticket ∧ itemId ∈ ticket.items ∧
    ticket.orderId = orderId ∧ ticket.station = station ∧
      ∀ t' ticket', s.tickets.get? t' = some ticket' → itemId ∈ ticket'.items → t' = t

def Complete (s : Kitchen) (orderId : Id) : Prop :=
  ∀ k item, s.pos.orderItems.get? k = some item → item.orderId = orderId →
    s.station item.menuItemId ≠ .none → s.OnOneTicket k orderId (s.station item.menuItemId)

/-- The tickets of an order carry its branch. -/
def Filed (s : Kitchen) : Prop :=
  ∀ t ticket, s.tickets.get? t = some ticket →
    ∃ order, s.pos.orders.get? ticket.orderId = some order ∧ order.branchId = ticket.branchId

theorem holds_wanted {s : Kitchen} :
    (s.wanted orderId).Holds group k ↔ group ≠ .none ∧
      ∃ item, s.pos.orderItems.get? k = some item ∧ item.orderId = orderId ∧
        s.station item.menuItemId = group := by
  simp only [wanted, KdsService.stationGroups, Groups.holds_collect, orderedItems, Store.itemsOf,
    List.mem_map, List.mem_filter, bne_iff_ne, Prod.exists, Prod.mk.injEq, Table.mem_findMany,
    beq_iff_eq]
  constructor
  · rintro ⟨_, _, ⟨⟨_, item, ⟨hget, horder⟩, rfl, rfl⟩, hne⟩, rfl, rfl⟩
    exact ⟨hne, item, hget, horder, rfl⟩
  · rintro ⟨hne, item, hget, horder, rfl⟩
    exact ⟨k, _, ⟨⟨k, item, ⟨hget, horder⟩, rfl, rfl⟩, hne⟩, rfl, rfl⟩

end Kitchen

namespace KdsService

-- ---
-- What the kitchen knows
-- ---

def callsOn (p : State) (orderId : Id) : List TicketCall :=
  p.threads.filter (·.orderId == orderId)

/-- The calls on the order have ended, and the last of them returned. -/
def Settled (p : State) (orderId : Id) : Prop :=
  (∀ call ∈ callsOn p orderId, call.ended = true) ∧
    (callsOn p orderId).getLast?.any (·.returned) = true

instance : Decidable (Settled p orderId) := inferInstanceAs (Decidable (_ ∧ _))

/-- Nothing was read or written for the order's tickets. -/
def Untouched (p : State) (orderId : Id) : Prop :=
  p.shared.ticketed orderId = [] ∧ ∀ call ∈ p.threads, call.orderId = orderId → call.idle = true

instance : Decidable (Untouched p orderId) := inferInstanceAs (Decidable (_ ∧ _))

/-- What the call has still to write for an order. -/
def TicketCall.leftOn (call : TicketCall) (orderId : Id) : Groups PrepStation Id :=
  if call.orderId = orderId then call.left else []

/-- The call is about to find no ticket and to begin with its own. -/
def TicketCall.begins (s : Kitchen) (call : TicketCall) : Bool :=
  match call.stage with
  | .orderRead items =>
    (existingTickets s call.ctx call.orderId).isEmpty && !(stationGroups items).isEmpty
  | _ => false

/-- An item for a station comes before a call read the order, a call begins to write
while no other does, and it does not fail between two tickets. -/
def undisturbed (p : State) : Event → Prop
  | .addOrderItem _ orderId dto _ =>
    p.shared.station dto.menuItemId = .none ∨ Untouched p orderId
  | .turn i => ∀ call ∈ p.threads[i]?, call.begins p.shared = true →
      ∀ other ∈ p.threads, other.leftOn call.orderId = []
  | .fails i _ => ∀ call ∈ p.threads[i]?, call.left = [] ∨ p.shared.ticketed call.orderId = []
  | _ => True

instance (p : State) : (e : Event) → Decidable (undisturbed p e)
  | .addOrderItem _ orderId dto _ => inferInstanceAs
      (Decidable (p.shared.station dto.menuItemId = .none ∨ Untouched p orderId))
  | .turn i => inferInstanceAs (Decidable (∀ call ∈ p.threads[i]?,
      call.begins p.shared = true → ∀ other ∈ p.threads, other.leftOn call.orderId = []))
  | .fails i _ => inferInstanceAs (Decidable (∀ call ∈ p.threads[i]?,
      call.left = [] ∨ p.shared.ticketed call.orderId = []))
  | .updateOrderItem .. | .sendOrder .. | .createTicketsForOrder .. => .isTrue trivial

-- ---
-- The phases of an order
-- ---

inductive Phase (p : State) (orderId : Id) : Prop
  | waiting (hnone : p.shared.ticketed orderId = [])
      (hidle : ∀ call ∈ p.threads, call.leftOn orderId = [])
  | writing (i : Nat) (call : TicketCall) (hcall : p.threads[i]? = some call)
      (hleft : call.leftOn orderId ≠ [])
      (hrest : p.shared.ticketed orderId ++ call.leftOn orderId = p.shared.wanted orderId)
      (hothers : ∀ j other, j ≠ i → p.threads[j]? = some other → other.leftOn orderId = [])
  | written (hall : p.shared.ticketed orderId = p.shared.wanted orderId)
      (hidle : ∀ call ∈ p.threads, call.leftOn orderId = [])

theorem Phase.starts (h : Phase p orderId) :
    ∃ rest, p.shared.ticketed orderId ++ rest = p.shared.wanted orderId := by
  cases h with
  | waiting hnone _ => exact ⟨_, by rw [hnone, List.nil_append]⟩
  | writing i call _ _ hrest _ => exact ⟨_, hrest⟩
  | written hall _ => exact ⟨[], by rw [hall, List.append_nil]⟩

/-- What a call knows of its order. -/
structure Knows (s : Kitchen) (call : TicketCall) : Prop where
  fresh : ∀ items, call.stage = .orderRead items → stationGroups items = s.wanted call.orderId
  found : call.looked = true → s.ticketed call.orderId = [] → call.left = s.wanted call.orderId
  placed : call.idle = false →
    ∃ order, s.pos.orders.get? call.orderId = some order ∧ order.branchId = call.ctx.branchId

structure Inv (p : State) : Prop where
  phase : ∀ orderId, Phase p orderId
  knows : ∀ call ∈ p.threads, Knows p.shared call
  filed : p.shared.Filed

/-- The tickets of a settled order are the ones wanted. -/
theorem Inv.ticketed (h : Inv p) (hsettled : Settled p orderId) :
    p.shared.ticketed orderId = p.shared.wanted orderId := by
  obtain ⟨hended, hlast⟩ := hsettled
  obtain ⟨call, hlast, hreturned⟩ := (Option.any_eq_true _ _).mp hlast
  have hon := List.mem_of_getLast? hlast
  obtain ⟨hmem, horder⟩ := List.mem_filter.mp hon
  cases h.phase orderId with
  | waiting hnone hidle =>
    obtain rfl := beq_iff_eq.mp horder
    have hlooked : call.looked = true := by
      revert hreturned
      unfold TicketCall.returned TicketCall.looked
      cases call.stage <;> simp
    have hleft := hidle call hmem
    rw [TicketCall.leftOn, if_pos rfl] at hleft
    rw [hnone, ← (h.knows call hmem).found hlooked hnone, hleft]
  | writing i writer hwriter hleft _ _ =>
    have hwrites : writer.orderId = orderId := by
      by_contra hne
      exact hleft (if_neg hne)
    have hwriterEnded := hended writer
      (List.mem_filter.mpr ⟨List.mem_of_getElem? hwriter, beq_iff_eq.mpr hwrites⟩)
    refine absurd ?_ hleft
    rw [TicketCall.leftOn, if_pos hwrites]
    revert hwriterEnded
    unfold TicketCall.ended TicketCall.left
    cases writer.stage <;> simp
  | written hall _ => exact hall

theorem mem_ticketed {s : Kitchen} : (s.ticketed orderId).Holds group k ↔
    ∃ t ticket, s.tickets.get? t = some ticket ∧ ticket.orderId = orderId ∧
      ticket.station = group ∧ k ∈ ticket.items := by
  simp only [Kitchen.ticketed, Kitchen.ticketsOf, Groups.Holds, List.mem_map, Prod.exists,
    Prod.mk.injEq, Table.mem_findMany, beq_iff_eq]
  constructor
  · rintro ⟨_, ⟨t, ticket, ⟨hget, horder⟩, hstation, rfl⟩, hk⟩
    exact ⟨t, ticket, hget, horder, hstation, hk⟩
  · rintro ⟨t, ticket, hget, horder, hstation, hk⟩
    exact ⟨_, ⟨t, ticket, ⟨hget, horder⟩, hstation, rfl⟩, hk⟩

/-- An order has one ticket a station. -/
theorem Inv.one_a_station (h : Inv p) (hget : p.shared.tickets.get? t = some ticket)
    (hget' : p.shared.tickets.get? t' = some ticket') (horder : ticket.orderId = ticket'.orderId)
    (hstation : ticket.station = ticket'.station) : t = t' := by
  obtain ⟨rest, hrest⟩ := (h.phase ticket'.orderId).starts
  have hkeys : ((p.shared.ticketed ticket'.orderId).map Prod.fst).Nodup := by
    have hnodup := Groups.nodup_collect
      (((p.shared.orderedItems ticket'.orderId).filter fun item => item.2 != .none).map
        fun item => (item.2, item.1))
    have hwanted : ((p.shared.wanted ticket'.orderId).map Prod.fst).Nodup := hnodup
    rw [← hrest, List.map_append] at hwanted
    exact (List.nodup_append.mp hwanted).1
  have hstations : ((p.shared.ticketsOf ticket'.orderId).map fun row => row.2.station).Nodup := by
    simpa [Kitchen.ticketed, Function.comp_def] using hkeys
  have hrow : (t, ticket) ∈ p.shared.ticketsOf ticket'.orderId :=
    Table.mem_findMany.mpr ⟨hget, beq_iff_eq.mpr horder⟩
  have hrow' : (t', ticket') ∈ p.shared.ticketsOf ticket'.orderId :=
    Table.mem_findMany.mpr ⟨hget', beq_iff_eq.mpr rfl⟩
  exact congrArg Prod.fst (List.inj_on_of_nodup_map hstations hrow hrow' hstation)

/-- A ticket holds items of its order that are for its station. -/
theorem Inv.holds_own (h : Inv p) (hget : p.shared.tickets.get? t = some ticket)
    (hk : k ∈ ticket.items) : ∃ item, p.shared.pos.orderItems.get? k = some item ∧
      item.orderId = ticket.orderId ∧ p.shared.station item.menuItemId = ticket.station := by
  obtain ⟨rest, hrest⟩ := (h.phase ticket.orderId).starts
  obtain ⟨ids, hmem, hids⟩ := mem_ticketed.mpr ⟨t, ticket, hget, rfl, rfl, hk⟩
  have hwanted : (p.shared.wanted ticket.orderId).Holds ticket.station k :=
    ⟨ids, hrest ▸ List.mem_append_left rest hmem, hids⟩
  exact (Kitchen.holds_wanted.mp hwanted).2

theorem Inv.complete (h : Inv p) (hsettled : Settled p orderId) : p.shared.Complete orderId := by
  intro k item hitem horder hstation
  have hholds : (p.shared.wanted orderId).Holds (p.shared.station item.menuItemId) k :=
    Kitchen.holds_wanted.mpr ⟨hstation, item, hitem, horder, rfl⟩
  rw [← h.ticketed hsettled] at hholds
  obtain ⟨t, ticket, hget, htorder, htstation, hk⟩ := mem_ticketed.mp hholds
  refine ⟨t, ticket, hget, hk, htorder, htstation, fun t' ticket' hget' hk' => ?_⟩
  obtain ⟨item', hitem', horder', hstation'⟩ := h.holds_own hget' hk'
  cases hitem.symm.trans hitem'
  exact h.one_a_station hget' hget (by rw [← horder', horder, htorder])
    (by rw [← hstation', htstation])

-- ---
-- A call's next statement
-- ---

theorem getElem?_set_cases {l : List α} (h : (l.set i a)[j]? = some x) :
    (j = i ∧ x = a) ∨ (j ≠ i ∧ l[j]? = some x) := by
  rw [List.getElem?_set] at h
  split at h
  · rename_i hij
    split at h
    · exact .inl ⟨hij.symm, (Option.some.inj h).symm⟩
    · cases h
  · rename_i hij
    exact .inr ⟨Ne.symm hij, h⟩

theorem getElem?_set_some {l : List α} (h : l[i]? = some b) : (l.set i a)[i]? = some a :=
  List.getElem?_set_self (List.getElem?_eq_some_iff.mp h).1

theorem set_same {l : List α} (h : l[i]? = some a) : l.set i a = l := by
  obtain ⟨hlt, rfl⟩ := List.getElem?_eq_some_iff.mp h
  exact List.set_getElem_self hlt

/-- Calls that have nothing left for an order, after one of them moved. -/
theorem idle_set {threads : List TicketCall} {i : Nat} {call' : TicketCall}
    (hothers : ∀ j other, j ≠ i → threads[j]? = some other → other.leftOn orderId = [])
    (hleft : call'.leftOn orderId = []) :
    ∀ call ∈ threads.set i call', call.leftOn orderId = [] := by
  intro call hmem
  obtain ⟨j, hj⟩ := List.mem_iff_getElem?.mp hmem
  obtain ⟨-, rfl⟩ | ⟨hne, hj⟩ := getElem?_set_cases hj
  · exact hleft
  · exact hothers j call hne hj

/-- A step that writes nothing for the order and leaves what is to be written. -/
theorem Phase.set (h : Phase p orderId) (hi : p.threads[i]? = some call)
    (hleft : call'.leftOn orderId = call.leftOn orderId)
    (hticketed : s.ticketed orderId = p.shared.ticketed orderId)
    (hwanted : s.wanted orderId = p.shared.wanted orderId) :
    Phase ⟨s, p.threads.set i call'⟩ orderId := by
  have hmem := List.mem_of_getElem? hi
  cases h with
  | waiting hnone hidle =>
    exact .waiting (hticketed.trans hnone)
      (idle_set (fun _ other _ hj => hidle other (List.mem_of_getElem? hj))
        (hleft.trans (hidle call hmem)))
  | written hall hidle =>
    exact .written (hticketed.trans (hall.trans hwanted.symm))
      (idle_set (fun _ other _ hj => hidle other (List.mem_of_getElem? hj))
        (hleft.trans (hidle call hmem)))
  | writing w writer hw hwleft hrest hothers =>
    by_cases hwi : w = i
    · subst hwi
      cases hi.symm.trans hw
      refine .writing w call' (getElem?_set_some hi) (hleft ▸ hwleft) ?_ fun j other hne hj => ?_
      · rw [hticketed, hwanted, hleft, hrest]
      · obtain ⟨rfl, -⟩ | ⟨-, hj⟩ := getElem?_set_cases hj
        · exact absurd rfl hne
        · exact hothers j other hne hj
    · refine .writing w writer ?_ hwleft (by rw [hticketed, hwanted, hrest]) fun j other hne
        hj => ?_
      · rw [List.getElem?_set_ne (Ne.symm hwi), hw]
      · obtain ⟨rfl, rfl⟩ | ⟨-, hj⟩ := getElem?_set_cases hj
        · exact hleft.trans (hothers j call (Ne.symm hwi) hi)
        · exact hothers j other hne hj

theorem leftOn_ne (h : call.orderId ≠ orderId) : TicketCall.leftOn call orderId = [] := if_neg h

theorem leftOn_self (call : TicketCall) : call.leftOn call.orderId = call.left := if_pos rfl

/-- The store with a new ticket. -/
def withTicket (s : Kitchen) (ctx : BranchContext) (orderId : Id) (group : PrepStation × List Id) :
    Kitchen :=
  { s with tickets := s.tickets.insert (ticketFor ctx orderId group) }

theorem ticketed_withTicket (s : Kitchen) : (withTicket s ctx k group).ticketed orderId =
    s.ticketed orderId ++ if k = orderId then [group] else [] := by
  simp only [Kitchen.ticketed, Kitchen.ticketsOf, withTicket, Table.findMany_insert, ticketFor,
    List.map_append, beq_iff_eq]
  split <;> rfl

theorem Knows.withTicket (h : Knows s call) : Knows (withTicket s ctx k group) call := by
  refine ⟨h.fresh, fun hlooked hnone => ?_, h.placed⟩
  rw [ticketed_withTicket, List.append_eq_nil_iff] at hnone
  exact h.found hlooked hnone.1

theorem filed_withTicket {s : Kitchen} (h : s.Filed) (hget : s.pos.orders.get? k = some order)
    (hbranch : order.branchId = ctx.branchId) : (withTicket s ctx k group).Filed := by
  intro t ticket ht
  simp only [KdsService.withTicket, Table.get?_insert] at ht
  split at ht
  · obtain rfl := Option.some.inj ht
    exact ⟨order, hget, hbranch⟩
  · exact h t ticket ht

/-- The tickets that a call finds in its branch are the order's. -/
theorem existing_isEmpty {s : Kitchen} (hfiled : s.Filed) (hget : s.pos.orders.get? k = some order)
    (hbranch : order.branchId = ctx.branchId) :
    (existingTickets s ctx k).isEmpty = true ↔ s.ticketed k = [] := by
  have hsame : existingTickets s ctx k = s.ticketsOf k := by
    refine Table.findMany_congr fun t ticket ht => ?_
    by_cases hk : ticket.orderId = k
    · subst hk
      obtain ⟨order', hget', hbranch'⟩ := hfiled t ticket ht
      cases hget.symm.trans hget'
      simp [← hbranch', hbranch]
    · simp [hk]
  rw [hsame, Kitchen.ticketed, List.map_eq_nil_iff, List.isEmpty_iff]

theorem readOrder_cases (s : Kitchen) (ctx : BranchContext) (orderId : Id) :
    (∃ e, readOrder s ctx orderId = .failed e) ∨
      readOrder s ctx orderId = .orderRead (s.orderedItems orderId) ∧
        ∃ order, s.pos.orders.get? orderId = some order ∧ order.branchId = ctx.branchId := by
  unfold readOrder
  cases hfind : s.pos.findOrder ctx orderId with
  | none => exact .inl ⟨_, rfl⟩
  | some order =>
    dsimp only
    split
    · obtain ⟨hget, hbranch, -⟩ := findOrder_get hfind
      exact .inr ⟨rfl, order, hget, hbranch⟩
    · exact .inl ⟨_, rfl⟩

/-- A call that moves without writing. -/
theorem Inv.moves (h : Inv p) (hi : p.threads[i]? = some call) {stage : Stage}
    (hphase : Phase ⟨p.shared, p.threads.set i { call with stage }⟩ call.orderId)
    (hknows : Knows p.shared { call with stage }) :
    Inv ⟨p.shared, p.threads.set i { call with stage }⟩ where
  phase orderId := by
    by_cases ho : call.orderId = orderId
    · exact ho ▸ hphase
    · refine (h.phase orderId).set hi ?_ rfl rfl
      have hleft : TicketCall.leftOn { call with stage } orderId = [] := leftOn_ne ho
      rw [leftOn_ne ho, hleft]
  knows call' hmem := by
    obtain ⟨j, hj⟩ := List.mem_iff_getElem?.mp hmem
    obtain ⟨-, rfl⟩ | ⟨-, hj⟩ := getElem?_set_cases hj
    · exact hknows
    · exact h.knows call' (List.mem_of_getElem? hj)
  filed := h.filed

/-- The same when what it has left to write stays. -/
theorem Inv.keepsLeft (h : Inv p) (hi : p.threads[i]? = some call) {stage : Stage}
    (hleft : ({ call with stage } : TicketCall).left = call.left)
    (hknows : Knows p.shared { call with stage }) :
    Inv ⟨p.shared, p.threads.set i { call with stage }⟩ := by
  refine h.moves hi ((h.phase call.orderId).set hi ?_ rfl rfl) hknows
  calc ({ call with stage } : TicketCall).leftOn call.orderId
    _ = ({ call with stage } : TicketCall).left := leftOn_self { call with stage }
    _ = call.left := hleft
    _ = call.leftOn call.orderId := (leftOn_self call).symm

/-- A call that fails. -/
theorem Knows.failed (s : Kitchen) (call : TicketCall) (e : HttpError) :
    Knows s { call with stage := .failed e } where
  fresh _ hstage := by cases hstage
  found hlooked := by cases hlooked
  placed hidle := by cases hidle

/-- The writer of an order writes its next ticket. -/
theorem Inv.creates (h : Inv p) (hi : p.threads[i]? = some call)
    (hstage : call.stage = .creating (group :: groups) created) :
    Inv ⟨withTicket p.shared call.ctx call.orderId group,
      p.threads.set i { call with stage := .creating groups (created ++ [p.shared.tickets.next])
                                  }⟩ := by
  have hmem := List.mem_of_getElem? hi
  have hleft : call.left = group :: groups := by rw [TicketCall.left, hstage]
  have hne : call.leftOn call.orderId ≠ [] := by rw [leftOn_self, hleft]; exact List.cons_ne_nil _ _
  obtain ⟨order, hget, hbranch⟩ :=
    (h.knows call hmem).placed (by rw [TicketCall.idle, hstage])
  refine ⟨fun orderId => ?_, fun call' hmem' => ?_, filed_withTicket h.filed hget hbranch⟩
  · by_cases ho : call.orderId = orderId
    · subst ho
      -- The call that writes is the one writer of its order.
      obtain ⟨hrest, hothers⟩ : p.shared.ticketed call.orderId ++ (group :: groups) =
          p.shared.wanted call.orderId ∧ ∀ j other, j ≠ i → p.threads[j]? = some other →
            other.leftOn call.orderId = [] := by
        cases h.phase call.orderId with
        | waiting _ hidle => exact absurd (hidle call hmem) hne
        | written _ hidle => exact absurd (hidle call hmem) hne
        | writing w writer hw hwleft hrest hothers =>
          obtain rfl : i = w := by
            by_contra hiw
            exact hne (hothers i call hiw hi)
          cases hi.symm.trans hw
          rw [leftOn_self, hleft] at hrest
          exact ⟨hrest, hothers⟩
      have hticketed : (withTicket p.shared call.ctx call.orderId group).ticketed call.orderId =
          p.shared.ticketed call.orderId ++ [group] := by
        rw [ticketed_withTicket, if_pos rfl]
      cases groups with
      | nil =>
        exact .written (hticketed.trans hrest) (idle_set hothers (if_pos rfl))
      | cons next rest =>
        refine .writing i _ (getElem?_set_some hi) ?_ ?_ fun j other hji hj => ?_
        · rw [TicketCall.leftOn, if_pos rfl]
          exact List.cons_ne_nil _ _
        · rw [hticketed, TicketCall.leftOn, if_pos rfl, List.append_assoc]
          exact hrest
        · obtain ⟨rfl, -⟩ | ⟨-, hj⟩ := getElem?_set_cases hj
          · exact absurd rfl hji
          · exact hothers j other hji hj
    · refine (h.phase orderId).set hi ?_ ?_ rfl
      · rw [leftOn_ne ho]
        exact if_neg ho
      · rw [ticketed_withTicket, if_neg ho, List.append_nil]
  · obtain ⟨j, hj⟩ := List.mem_iff_getElem?.mp hmem'
    obtain ⟨-, rfl⟩ | ⟨-, hj⟩ := getElem?_set_cases hj
    · refine ⟨fun _ hread => (by cases hread), fun _ hnone => ?_, fun _ => ⟨order, hget, hbranch⟩⟩
      rw [ticketed_withTicket, if_pos rfl, List.append_eq_nil_iff] at hnone
      exact absurd hnone.2 (List.cons_ne_nil _ _)
    · exact (h.knows call' (List.mem_of_getElem? hj)).withTicket

/-- The look for tickets finds none, and no other call is writing. -/
theorem Inv.begins (h : Inv p) (hi : p.threads[i]? = some call)
    (hstage : call.stage = .orderRead items) (hnone : p.shared.ticketed call.orderId = [])
    (halone : stationGroups items ≠ [] → ∀ other ∈ p.threads, other.leftOn call.orderId = []) :
    Inv ⟨p.shared, p.threads.set i { call with stage := .creating (stationGroups items) [] }⟩ := by
  have hknows := h.knows call (List.mem_of_getElem? hi)
  have hwanted : stationGroups items = p.shared.wanted call.orderId := hknows.fresh items hstage
  have hknows' : Knows p.shared { call with stage := .creating (stationGroups items) [] } :=
    ⟨fun _ hread => (by cases hread), fun _ _ => hwanted,
      fun _ => hknows.placed (by rw [TicketCall.idle, hstage])⟩
  by_cases hgroups : stationGroups items = []
  · refine h.keepsLeft hi ?_ hknows'
    rw [TicketCall.left, TicketCall.left, hstage]
    exact hgroups
  · refine h.moves hi (.writing i _ (getElem?_set_some hi) ?_ ?_ fun j other hji hj => ?_) hknows'
    · rw [TicketCall.leftOn, if_pos rfl]
      exact hgroups
    · rw [TicketCall.leftOn, if_pos rfl, hnone]
      exact hwanted
    · obtain ⟨rfl, -⟩ | ⟨-, hj⟩ := getElem?_set_cases hj
      · exact absurd rfl hji
      · exact halone hgroups other (List.mem_of_getElem? hj)

theorem Inv.turn (h : Inv p) (hi : p.threads[i]? = some call)
    (halone : call.begins p.shared = true →
      ∀ other ∈ p.threads, other.leftOn call.orderId = []) :
    Inv ⟨(call.advance p.shared).1, p.threads.set i (call.advance p.shared).2⟩ := by
  have hknows := h.knows call (List.mem_of_getElem? hi)
  cases hstage : call.stage with
  | started =>
    simp only [TicketCall.advance, hstage]
    refine h.keepsLeft hi ?_ ?_
    all_goals obtain ⟨e, he⟩ | ⟨hread, hplaced⟩ := readOrder_cases p.shared call.ctx call.orderId
    · simp only [TicketCall.left, he, hstage]
    · simp only [TicketCall.left, hread, hstage]
    · rw [he]
      exact .failed p.shared call e
    · rw [hread]
      exact ⟨fun _ hitems => (by cases hitems; rfl), fun hlooked => (by cases hlooked),
        fun _ => hplaced⟩
  | orderRead items =>
    obtain ⟨order, hget, hbranch⟩ := hknows.placed (by rw [TicketCall.idle, hstage])
    have hempty := existing_isEmpty h.filed hget hbranch
    simp only [TicketCall.advance, hstage]
    split
    · rename_i hexisting
      refine h.begins hi hstage (hempty.mp hexisting) fun hgroups => halone ?_
      simp only [TicketCall.begins, hstage, hexisting, Bool.true_and, Bool.not_eq_true',
        List.isEmpty_eq_false_iff]
      exact hgroups
    · rename_i hexisting
      refine h.keepsLeft hi ?_ ⟨fun _ hread => (by cases hread), fun _ hnone => ?_,
        fun _ => ⟨order, hget, hbranch⟩⟩
      · simp only [TicketCall.left, hstage]
      · exact absurd (hempty.mpr hnone) hexisting
  | creating groups created =>
    cases groups with
    | nil =>
      simp only [TicketCall.advance, hstage]
      refine h.keepsLeft hi ?_ ⟨fun _ hread => (by cases hread), fun _ hnone => ?_,
        fun _ => hknows.placed (by rw [TicketCall.idle, hstage])⟩
      · simp only [TicketCall.left, hstage]
      · rw [← hknows.found (by rw [TicketCall.looked, hstage]) hnone]
        simp only [TicketCall.left, hstage]
    | cons group groups =>
      simp only [TicketCall.advance, hstage]
      exact h.creates hi hstage
  | returned tickets =>
    simp only [TicketCall.advance, hstage]
    rw [set_same hi]
    exact h
  | failed e =>
    simp only [TicketCall.advance, hstage]
    rw [set_same hi]
    exact h

/-- A failure before the first ticket of its order, or after the last. -/
theorem Inv.fails (h : Inv p) (hi : p.threads[i]? = some call)
    (hallowed : call.left = [] ∨ p.shared.ticketed call.orderId = []) (e : HttpError) :
    Inv ⟨(call.fail e p.shared).1, p.threads.set i (call.fail e p.shared).2⟩ := by
  unfold TicketCall.fail
  dsimp only
  split
  · rw [set_same hi]
    exact h
  · rcases hallowed with hleft | hnone
    · exact h.keepsLeft hi hleft.symm (.failed p.shared call e)
    · by_cases hleft : call.left = []
      · exact h.keepsLeft hi hleft.symm (.failed p.shared call e)
      · refine h.moves hi (.waiting hnone (idle_set ?_ (if_pos rfl))) (.failed p.shared call e)
        cases h.phase call.orderId with
        | waiting _ hidle => exact fun j other _ hj => hidle other (List.mem_of_getElem? hj)
        | written _ hidle => exact fun j other _ hj => hidle other (List.mem_of_getElem? hj)
        | writing w writer hw hwleft hrest hothers =>
          obtain rfl : i = w := by
            by_contra hiw
            exact hleft ((leftOn_self call).symm.trans (hothers i call hiw hi))
          exact hothers

-- ---
-- The order service
-- ---

/-- The kitchen after a call of the order service. -/
def withPos (s : Kitchen) (pos : Store) : Kitchen := { s with pos }

/-- What a call of the order service leaves for the tickets of each order. -/
structure OrdersKept (p : State) (pos : Store) : Prop where
  branches : Table.SameRows (·.branchId) p.shared.pos.orders pos.orders
  wanted : ∀ orderId, (withPos p.shared pos).wanted orderId = p.shared.wanted orderId ∨
    Untouched p orderId

theorem Inv.orders (h : Inv p) (hkept : OrdersKept p pos) :
    Inv ⟨withPos p.shared pos, p.threads⟩ where
  phase orderId := by
    rcases hkept.wanted orderId with hwanted | ⟨hnone, hidle⟩
    · cases h.phase orderId with
      | waiting hnone hidle => exact .waiting hnone hidle
      | writing i call hcall hleft hrest hothers =>
        exact .writing i call hcall hleft (hrest.trans hwanted.symm) hothers
      | written hall hidle => exact .written (hall.trans hwanted.symm) hidle
    · refine .waiting hnone fun call hmem => ?_
      by_cases ho : call.orderId = orderId
      · have hcall := hidle call hmem ho
        rw [TicketCall.leftOn, if_pos ho]
        revert hcall
        unfold TicketCall.idle TicketCall.left
        cases call.stage <;> simp
      · exact leftOn_ne ho
  knows call hmem := by
    have hknows := h.knows call hmem
    refine ⟨fun items hstage => ?_, fun hlooked hnone => ?_, fun hidle => ?_⟩
    · rcases hkept.wanted call.orderId with hwanted | ⟨-, hidle⟩
      · exact (hknows.fresh items hstage).trans hwanted.symm
      · have hcall := hidle call hmem rfl
        rw [TicketCall.idle, hstage] at hcall
        cases hcall
    · rcases hkept.wanted call.orderId with hwanted | ⟨-, hidle⟩
      · exact (hknows.found hlooked hnone).trans hwanted.symm
      · have hcall := hidle call hmem rfl
        revert hcall hlooked
        unfold TicketCall.idle TicketCall.looked
        cases call.stage <;> simp
    · obtain ⟨order, hget, hbranch⟩ := hknows.placed hidle
      obtain ⟨order', hget', hbranch'⟩ := hkept.branches.forth hget
      exact ⟨order', hget', hbranch'.trans hbranch⟩
  filed t ticket ht := by
    obtain ⟨order, hget, hbranch⟩ := h.filed t ticket ht
    obtain ⟨order', hget', hbranch'⟩ := hkept.branches.forth hget
    exact ⟨order', hget', hbranch'.trans hbranch⟩

/-- Lines that keep their order and their menu item keep what the tickets are to hold. -/
theorem wanted_of_lines {s : Kitchen}
    (h : Table.SameRows (fun item => (item.orderId, item.menuItemId)) s.pos.orderItems
      pos.orderItems) (orderId : Id) : (withPos s pos).wanted orderId = s.wanted orderId := by
  have hrows := congrArg (List.map fun row : Nat × Id × Id => (row.1, s.station row.2.2))
    (h.findMany fun _ columns => columns.1 == orderId)
  simp only [List.map_map, Function.comp_def] at hrows
  exact congrArg stationGroups hrows

theorem branches_update {s : Store} {f : Order → Order} (hf : ∀ order, (f order).branchId =
    order.branchId) : Table.SameRows (·.branchId) s.orders (s.updateOrder k f).orders :=
  .update hf

theorem ordersKept_refl (p : State) : OrdersKept p p.shared.pos := ⟨.refl _, fun _ => .inl rfl⟩

theorem addOrderItem_kept
    (hallowed : p.shared.station dto.menuItemId = .none ∨ Untouched p orderId) :
    OrdersKept p (final (OrdersService.addOrderItem ctx orderId dto request p.shared.pos)) := by
  refine OrdersService.addOrderItem_atomic.elim (ordersKept_refl p) fun u t hok => ?_
  obtain ⟨order, pricing, -, -, -, rfl⟩ := OrdersService.addOrderItem_ok hok
  refine ⟨branches_update fun _ => rfl, fun k => ?_⟩
  by_cases hk : orderId = k
  · subst hk
    refine hallowed.imp_left fun hnone => ?_
    -- The new line is the last of its order and is for no station.
    simp only [Kitchen.wanted, stationGroups, Kitchen.orderedItems, Store.itemsOf, withPos,
      OrdersService.recalcOrderTotals, Store.updateOrder, Table.findMany_insert,
      OrdersService.newItem, beq_self_eq_true, if_true, List.map_append, List.map_cons,
      List.map_nil, List.filter_append, hnone, List.filter_cons, List.filter_nil, bne_self_eq_false,
      Bool.false_eq_true, if_false, List.append_nil]
  · refine .inl ?_
    have hother : (orderId == k) = false := beq_eq_false_iff_ne.mpr hk
    simp only [Kitchen.wanted, stationGroups, Kitchen.orderedItems, Store.itemsOf, withPos,
      OrdersService.recalcOrderTotals, Store.updateOrder, Table.findMany_insert,
      OrdersService.newItem, hother, Bool.false_eq_true, if_false, List.append_nil]

theorem updateOrderItem_kept (p : State) :
    OrdersKept p (final (OrdersService.updateOrderItem ctx orderId itemId dto request p.shared.pos))
    := by
  refine OrdersService.updateOrderItem_atomic.elim (ordersKept_refl p) fun u t hok => ?_
  obtain ⟨order, existing, pricing, -, -, -, -, rfl⟩ := OrdersService.updateOrderItem_ok hok
  refine ⟨branches_update fun _ => rfl, fun k => .inl (wanted_of_lines (.update ?_) k)⟩
  exact fun _ => rfl

theorem sendOrder_kept (p : State) :
    OrdersKept p (final (OrdersService.sendOrder ctx orderId request p.shared.pos)) := by
  refine OrdersService.transitionOrder_atomic.elim (ordersKept_refl p) fun u t hok => ?_
  obtain ⟨order, -, -, hafter⟩ := OrdersService.transitionOrder_ok hok
  simp only [OrdersService.afterTransition, modify_ok] at hafter
  have hlines : t.orderItems = p.shared.pos.orderItems ∧
      t.orders = (OrdersService.setStatus p.shared.pos orderId .sent).orders := by
    subst hafter
    split
    · cases order.tableId <;> exact ⟨rfl, rfl⟩
    · exact ⟨rfl, rfl⟩
  refine ⟨?_, fun k => .inl (wanted_of_lines ?_ k)⟩
  · rw [hlines.2]
    exact branches_update fun _ => rfl
  · rw [hlines.1]
    exact .refl _

/-- A call that begins has read nothing. -/
theorem Inv.starts (h : Inv p) (ctx : BranchContext) (orderId : Id) :
    Inv (begin ctx orderId p) where
  phase k := by
    have hidle : (∀ call ∈ p.threads, call.leftOn k = []) →
        ∀ call ∈ (begin ctx orderId p).threads, call.leftOn k = [] := by
      intro hidle call hmem
      rcases List.mem_append.mp hmem with hmem | hmem
      · exact hidle call hmem
      · obtain rfl := List.mem_singleton.mp hmem
        exact ite_self _
    cases h.phase k with
    | waiting hnone hall => exact .waiting hnone (hidle hall)
    | written hdone hall => exact .written hdone (hidle hall)
    | writing i call hcall hleft hrest hothers =>
      refine .writing i call ?_ hleft hrest fun j other hji hj => ?_
      · exact List.getElem?_append_left (List.getElem?_eq_some_iff.mp hcall).1 ▸ hcall
      · rw [begin, List.getElem?_append] at hj
        split at hj
        · exact hothers j other hji hj
        · obtain rfl := List.mem_singleton.mp (List.mem_of_getElem? hj)
          exact ite_self _
  knows call hmem := by
    rcases List.mem_append.mp hmem with hmem | hmem
    · exact h.knows call hmem
    · obtain rfl := List.mem_singleton.mp hmem
      exact ⟨fun _ hstage => (by cases hstage), fun hlooked => (by cases hlooked),
        fun hidle => (by cases hidle)⟩
  filed := h.filed

-- ---
-- Every history
-- ---

theorem Inv.take (h : Inv p) (e : Event) (hallowed : undisturbed p e) : Inv (e.take p) := by
  cases e with
  | addOrderItem ctx orderId dto request => exact h.orders (addOrderItem_kept hallowed)
  | updateOrderItem ctx orderId itemId dto request => exact h.orders (updateOrderItem_kept p)
  | sendOrder ctx orderId request =>
    have hsent : Inv (onOrders (OrdersService.sendOrder ctx orderId request) p) :=
      h.orders (sendOrder_kept p)
    simp only [Event.take]
    split
    · exact hsent.starts ctx orderId
    · exact hsent
  | createTicketsForOrder ctx orderId => exact h.starts ctx orderId
  | turn i =>
    simp only [Event.take, Pool.step]
    cases hi : p.threads[i]? with
    | none => exact h
    | some call => exact h.turn hi (hallowed call hi)
  | fails i e =>
    simp only [Event.take, Pool.step]
    cases hi : p.threads[i]? with
    | none => exact h
    | some call => exact h.fails hi (hallowed call hi) e

theorem inv_open (pos : Store) (station : Id → PrepStation) : Inv ⟨{ pos, station }, []⟩ where
  phase _ := .waiting rfl fun _ hmem => by cases hmem
  knows _ hmem := by cases hmem
  filed _ _ ht := by cases ht

theorem run_complete (pos : Store) (station : Id → PrepStation)
    (h : Run Event.take undisturbed ⟨{ pos, station }, []⟩ events p) (orderId : Id)
    (hsettled : Settled p orderId) : p.shared.Complete orderId :=
  (h.invariant (inv_open pos station) fun _ e hinv hallowed => hinv.take e hallowed).complete
    hsettled

-- ---
-- A dinner from two stations
-- ---

def priced (price : Cents) : MenuItem := { orgId := 0, branchId := 0, price }

/-- An open order, a dish of the kitchen and a drink of the bar. -/
def dinner : Store where
  menu := { menuItems := (Table.empty.insert (priced 1000)).insert (priced 500) }
  orders := Table.empty.insert
    { orgId := 0, branchId := 0, tableId := none, userId := 0, orderNumber := "ORD-0001"
      serviceType := .takeaway, createdAt := 0, updatedAt := 0 }

def dinnerStation (menuItemId : Id) : PrepStation := if menuItemId = 0 then .kitchen else .bar

def orderedDinner : List Event :=
  [.addOrderItem ⟨0, 0⟩ 0 { menuItemId := 0 } {}, .addOrderItem ⟨0, 0⟩ 0 { menuItemId := 1 } {},
   .sendOrder ⟨0, 0⟩ 0 {}]

/-- The ticket of the kitchen is written, that of the bar fails, and the call is made again. -/
def retriedTickets : List Event :=
  [.turn 0, .turn 0, .turn 0, .fails 0 ⟨.conflict, none, "connection lost"⟩,
   .createTicketsForOrder ⟨0, 0⟩ 0, .turn 1, .turn 1]

theorem retry_not_complete :
    ¬∀ (pos : Store) (station : Id → PrepStation) (events : List Event) (orderId : Id),
      let p := events.foldl Event.take ⟨{ pos, station }, []⟩
      Settled p orderId → p.shared.Complete orderId := by
  intro h
  have hcomplete := h dinner dinnerStation (orderedDinner ++ retriedTickets) 0 (by decide)
  generalize hp : (orderedDinner ++ retriedTickets).foldl Event.take
    ⟨{ pos := dinner, station := dinnerStation }, []⟩ = p at hcomplete
  have hitem : (p.shared.pos.orderItems.get? 1).any (fun item =>
      item.orderId == 0 && p.shared.station item.menuItemId == .bar) = true := by
    subst hp
    decide
  have hnone : ∀ row ∈ p.shared.tickets.rows, 1 ∉ row.2.items := by
    subst hp
    decide
  obtain ⟨item, hget, hrow⟩ := (Option.any_eq_true _ _).mp hitem
  simp only [Bool.and_eq_true, beq_iff_eq] at hrow
  obtain ⟨t, ticket, hticket, hmem, -⟩ := hcomplete 1 item hget hrow.1 (by simp [hrow.2])
  exact hnone _ (Table.get?_iff.mp hticket) hmem

/-- Undisturbed, the call writes both tickets. -/
theorem run_complete_dinner :
    let events := orderedDinner ++ [.turn 0, .turn 0, .turn 0, .turn 0, .turn 0]
    let p := events.foldl Event.take ⟨{ pos := dinner, station := dinnerStation }, []⟩
    Run Event.take undisturbed ⟨{ pos := dinner, station := dinnerStation }, []⟩ events p ∧
      Settled p 0 ∧ p.shared.Complete 0 := by
  intro events p
  have hrun : Run Event.take undisturbed ⟨{ pos := dinner, station := dinnerStation }, []⟩
      events p := Run.of_holds (by decide)
  have hsettled : Settled p 0 := by decide
  exact ⟨hrun, hsettled, run_complete dinner dinnerStation hrun 0 hsettled⟩

end KdsService
end NimbusPos
