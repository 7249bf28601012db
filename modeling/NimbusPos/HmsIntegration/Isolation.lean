import NimbusPos.HmsIntegration.Service

/-!
# What a key sees

A response depends on the rows that the key is for and on the tables and users that its
orders refer to. Two stores that agree on these answer every request with the key alike,
whatever else they hold and whatever the request asks for.
-/

namespace NimbusPos.HmsIntegrationService

open Lib

variable {ρ α β : Type}

/-- The place of a row is one that the key is for. -/
def ApiKey.covers (key : ApiKey) (place : Id × Option Id) : Prop :=
  place.1 = key.orgId ∧ ∀ branchId ∈ key.branchId, place.2 = some branchId

/-- An order that the key is for. -/
def coveredOrder (s : Store ρ) (key : ApiKey) (orderId : Id) : Prop :=
  ∃ order, s.orders.get? orderId = some order ∧ key.covers order.place

/-- The two stores hold the same rows of the organisation and of the branches that the key
is for, the same tables and users that their orders refer to, and the same log of the key.
What belongs to an order is where the order is. -/
structure Agrees (apiKeyId : Id) (key : ApiKey) (s t : Store ρ) : Prop where
  organization : s.organizations.get? key.orgId = t.organizations.get? key.orgId
  accounts : Table.AgreeOn (fun _ account => account.orgId = key.orgId) s.accounts t.accounts
  accessLogs : Table.AgreeOn (fun _ log => log.orgId = key.orgId ∧ log.apiKeyId = apiKeyId)
    s.accessLogs t.accessLogs
  branches : Table.AgreeOn (fun id branch => key.covers (branch.organizationId, some id))
    s.branches t.branches
  orders : Table.AgreeOn (fun _ order => key.covers order.place) s.orders t.orders
  tables : ∀ id order, s.orders.get? id = some order → key.covers order.place →
    ∀ tableId ∈ order.tableId, s.tables.get? tableId = t.tables.get? tableId
  users : ∀ id order, s.orders.get? id = some order → key.covers order.place →
    s.users.get? order.userId = t.users.get? order.userId
  orderItems : Table.AgreeOn (fun _ item => coveredOrder s key item.orderId) s.orderItems
    t.orderItems
  payments : Table.AgreeOn (fun _ payment => key.covers payment.place ∨
    coveredOrder s key payment.orderId) s.payments t.payments
  discounts : Table.AgreeOn (fun _ discount => coveredOrder s key discount.orderId) s.discounts
    t.discounts
  refunds : Table.AgreeOn (fun _ refund => key.covers refund.place ∨
    coveredOrder s key refund.orderId) s.refunds t.refunds
  reservations : Table.AgreeOn (fun _ row => key.covers row.place) s.reservations t.reservations
  events : Table.AgreeOn (fun _ row => key.covers row.place) s.events t.events
  eventBookings : Table.AgreeOn (fun _ row => key.covers row.place) s.eventBookings t.eventBookings
  menuItems : Table.AgreeOn (fun _ row => key.covers row.place) s.menuItems t.menuItems
  inventoryItems : Table.AgreeOn (fun _ row => key.covers row.place) s.inventoryItems
    t.inventoryItems
  shifts : Table.AgreeOn (fun _ row => key.covers row.place) s.shifts t.shifts
  invoices : Table.AgreeOn (fun _ row => key.covers row.place) s.invoices t.invoices
  vendorBills : Table.AgreeOn (fun _ row => key.covers row.place) s.vendorBills t.vendorBills

variable {apiKeyId : Id} {key : ApiKey} {s t : Store ρ}

-- ---
-- Lists
-- ---

/-- Whatever branch a request asks for, a list keeps to the branch of the key. -/
theorem effectiveBranchFilter_key (h : branchId ∈ key.branchId) (requested : Option (Option Id)) :
    (effectiveBranchFilter key.branchId requested).join = some branchId := by
  rw [Option.mem_def.mp h]
  rfl

theorem mem_scopedRows {u : Table α} {place : α → Id × Option Id} {filter : α → Bool}
    (h : row ∈ scopedRows u place key.orgId (effectiveBranchFilter key.branchId requested).join
      filter) : u.get? row.1 = some row.2 ∧ key.covers (place row.2) := by
  obtain ⟨hget, hrow⟩ := Table.mem_findMany.mp h
  simp only [Bool.and_eq_true, beq_iff_eq, Option.all_eq_true] at hrow
  exact ⟨hget, hrow.1.1, fun branchId hkey => hrow.1.2 branchId (effectiveBranchFilter_key hkey _)⟩

theorem scopedRows_agree {u v : Table α} {place : α → Id × Option Id}
    (h : Table.AgreeOn (fun _ row => key.covers (place row)) u v)
    (requested : Option (Option Id)) (filter : α → Bool) :
    scopedRows u place key.orgId (effectiveBranchFilter key.branchId requested).join filter =
      scopedRows v place key.orgId (effectiveBranchFilter key.branchId requested).join filter := by
  refine h.findMany fun k row hrow => ?_
  simp only [Bool.and_eq_true, beq_iff_eq, Option.all_eq_true] at hrow
  exact ⟨hrow.1.1, fun branchId hkey => hrow.1.2 branchId (effectiveBranchFilter_key hkey _)⟩

theorem mem_pageRows {found : List (Id × α)} (h : row ∈ pageRows found before limit skip) :
    row ∈ found :=
  (List.mem_insertionSort _).mp (List.mem_of_mem_drop (List.mem_of_mem_take h))

theorem page_congr {found : List (Id × α)} {before : α → α → Bool} {limit skip : Nat}
    {select select' : Id → α → β} (h : ∀ row ∈ found, select row.1 row.2 = select' row.1 row.2) :
    page found before limit skip select = page found before limit skip select' := by
  have hitems : (pageRows found before limit skip).map (fun row => select row.1 row.2) =
      (pageRows found before limit skip).map fun row => select' row.1 row.2 :=
    List.map_congr_left fun row hrow => h row (mem_pageRows hrow)
  simp only [page, hitems]

/-- A list of rows that the stores agree on, whose columns are read from the rows that
they refer to. -/
theorem listScoped_agree {u v : Table α} {place : α → Id × Option Id} {before : α → α → Bool}
    {select select' : Id → α → β} {q : HmsPaginationDto} {filter : α → Bool}
    (h : Table.AgreeOn (fun _ row => key.covers (place row)) u v)
    (hselect : ∀ id row, u.get? id = some row → key.covers (place row) →
      select id row = select' id row) :
    listScoped u place before select key.orgId key.branchId q filter =
      listScoped v place before select' key.orgId key.branchId q filter := by
  unfold listScoped
  rw [← scopedRows_agree h]
  refine page_congr fun row hrow => ?_
  obtain ⟨hget, hcovers⟩ := mem_scopedRows hrow
  exact hselect row.1 row.2 hget hcovers

theorem listScoped_rows {u v : Table α} {place : α → Id × Option Id} {before : α → α → Bool}
    {select : Id → α → β} {q : HmsPaginationDto} {filter : α → Bool}
    (h : Table.AgreeOn (fun _ row => key.covers (place row)) u v) :
    listScoped u place before select key.orgId key.branchId q filter =
      listScoped v place before select key.orgId key.branchId q filter :=
  listScoped_agree h fun _ _ _ _ => rfl

-- ---
-- Routes
-- ---

namespace Agrees

variable (h : Agrees apiKeyId key s t)
include h

theorem branchesOf : branchesOf s key.orgId key.branchId = branchesOf t key.orgId key.branchId := by
  unfold HmsIntegrationService.branchesOf
  rw [h.branches.findMany fun id branch hbranch => ?_]
  simp only [Bool.and_eq_true, beq_iff_eq, Option.all_eq_true] at hbranch
  exact ⟨hbranch.1, fun branchId hkey => congrArg some (hbranch.2 branchId hkey)⟩

theorem getOrganization :
    getOrganization s key.orgId key.branchId = getOrganization t key.orgId key.branchId := by
  unfold HmsIntegrationService.getOrganization
  rw [h.organization, h.branchesOf]

theorem listBranches :
    listBranches s key.orgId key.branchId = listBranches t key.orgId key.branchId := by
  unfold HmsIntegrationService.listBranches
  rw [h.branchesOf]

theorem orderSummary (id : Id) (order : Order ρ) (hget : s.orders.get? id = some order)
    (hcovers : key.covers order.place) : orderSummary s id order = orderSummary t id order := by
  have htable : (order.tableId.bind fun tableId => (s.tables.get? tableId).map (tableId, ·)) =
      order.tableId.bind fun tableId => (t.tables.get? tableId).map (tableId, ·) := by
    cases htableId : order.tableId with
    | none => rfl
    | some tableId => simp only [Option.bind_some, h.tables id order hget hcovers tableId htableId]
  simp only [HmsIntegrationService.orderSummary, htable, h.users id order hget hcovers]

theorem listOrders (q : HmsListOrdersDto) :
    listOrders s key.orgId key.branchId q = listOrders t key.orgId key.branchId q := by
  unfold HmsIntegrationService.listOrders
  simp only [listScoped_agree h.orders h.orderSummary]

/-- The row of an order that the key is for. -/
theorem findOrder (id : Id) :
    (s.orders.get? id).filter (fun order =>
        order.orgId == key.orgId && key.branchId.all (order.branchId == ·)) =
      (t.orders.get? id).filter fun order =>
        order.orgId == key.orgId && key.branchId.all (order.branchId == ·) := by
  ext order
  simp only [Option.filter_eq_some_iff, Bool.and_eq_true, beq_iff_eq, Option.all_eq_true]
  exact and_congr_left fun hscope =>
    h.orders id order ⟨hscope.1, fun branchId hkey => congrArg some (hscope.2 branchId hkey)⟩

theorem getOrder (id : Id) :
    getOrder s key.orgId key.branchId id = getOrder t key.orgId key.branchId id := by
  unfold HmsIntegrationService.getOrder
  rw [h.findOrder id]
  cases hfound : (t.orders.get? id).filter fun order =>
      order.orgId == key.orgId && key.branchId.all (order.branchId == ·) with
  | none => rfl
  | some order =>
    have hcovered : coveredOrder s key id := by
      obtain ⟨hget, hscope⟩ := Option.filter_eq_some_iff.mp ((h.findOrder id).trans hfound)
      simp only [Bool.and_eq_true, beq_iff_eq, Option.all_eq_true] at hscope
      exact ⟨order, hget, hscope.1, fun branchId hkey => congrArg some (hscope.2 branchId hkey)⟩
    have hitems : s.orderItems.findMany (fun _ item => item.orderId == id) =
        t.orderItems.findMany fun _ item => item.orderId == id :=
      h.orderItems.findMany fun _ item hitem => beq_iff_eq.mp hitem ▸ hcovered
    have hpayments : s.payments.findMany (fun _ payment => payment.orderId == id) =
        t.payments.findMany fun _ payment => payment.orderId == id :=
      h.payments.findMany fun _ payment hpayment => .inr (beq_iff_eq.mp hpayment ▸ hcovered)
    have hdiscounts : s.discounts.findMany (fun _ discount => discount.orderId == id) =
        t.discounts.findMany fun _ discount => discount.orderId == id :=
      h.discounts.findMany fun _ discount hdiscount => beq_iff_eq.mp hdiscount ▸ hcovered
    have hrefunds : s.refunds.findMany (fun _ refund => refund.orderId == id) =
        t.refunds.findMany fun _ refund => refund.orderId == id :=
      h.refunds.findMany fun _ refund hrefund => .inr (beq_iff_eq.mp hrefund ▸ hcovered)
    simp only [hitems, hpayments, hdiscounts, hrefunds]

theorem listPayments (q : HmsListPaymentsDto) :
    listPayments s key.orgId key.branchId q = listPayments t key.orgId key.branchId q := by
  unfold HmsIntegrationService.listPayments
  simp only [listScoped_rows (h.payments.mono fun _ _ => .inl)]

theorem listRefunds (q : HmsPaginationDto) :
    listRefunds s key.orgId key.branchId q = listRefunds t key.orgId key.branchId q :=
  listScoped_rows (h.refunds.mono fun _ _ => .inl)

theorem salesSummary (now : Time) (q : HmsPaginationDto) :
    salesSummary s now key.orgId key.branchId q = salesSummary t now key.orgId key.branchId q := by
  unfold HmsIntegrationService.salesSummary
  simp only [scopedRows_agree h.orders]

theorem listReservations (q : HmsListByStatusDto) :
    listReservations s key.orgId key.branchId q = listReservations t key.orgId key.branchId q := by
  unfold HmsIntegrationService.listReservations
  simp only [listScoped_rows h.reservations]

theorem listEvents (q : HmsListByStatusDto) :
    listEvents s key.orgId key.branchId q = listEvents t key.orgId key.branchId q := by
  unfold HmsIntegrationService.listEvents
  simp only [listScoped_rows h.events]

theorem listShifts (q : HmsListByStatusDto) :
    listShifts s key.orgId key.branchId q = listShifts t key.orgId key.branchId q := by
  unfold HmsIntegrationService.listShifts
  simp only [listScoped_rows h.shifts]

theorem listEventBookings (q : HmsPaginationDto) :
    listEventBookings s key.orgId key.branchId q = listEventBookings t key.orgId key.branchId q :=
  listScoped_rows h.eventBookings

theorem listMenuItems (q : HmsListMenuDto) :
    listMenuItems s key.orgId key.branchId q = listMenuItems t key.orgId key.branchId q :=
  listScoped_rows h.menuItems

theorem listInventory (q : HmsPaginationDto) :
    listInventory s key.orgId key.branchId q = listInventory t key.orgId key.branchId q :=
  listScoped_rows h.inventoryItems

theorem listInvoices (q : HmsPaginationDto) :
    listInvoices s key.orgId key.branchId q = listInvoices t key.orgId key.branchId q :=
  listScoped_rows h.invoices

theorem listVendorBills (q : HmsPaginationDto) :
    listVendorBills s key.orgId key.branchId q = listVendorBills t key.orgId key.branchId q :=
  listScoped_rows h.vendorBills

theorem listAccounts (q : HmsPaginationDto) :
    listAccounts s key.orgId q = listAccounts t key.orgId q := by
  unfold HmsIntegrationService.listAccounts
  rw [h.accounts.findMany fun _ account haccount => beq_iff_eq.mp haccount]

theorem listAccessLogs (q : HmsListAccessLogsDto) :
    listAccessLogs s key.orgId key.branchId apiKeyId q =
      listAccessLogs t key.orgId key.branchId apiKeyId q := by
  have hlogs : ∀ filter : IntegrationAccessLog ρ → Bool,
      s.accessLogs.findMany (fun _ log => log.orgId == key.orgId && log.apiKeyId == apiKeyId &&
          key.branchId.all (fun branchId => log.branchId == some branchId) && filter log) =
        t.accessLogs.findMany fun _ log => log.orgId == key.orgId && log.apiKeyId == apiKeyId &&
          key.branchId.all (fun branchId => log.branchId == some branchId) && filter log := by
    refine fun filter => h.accessLogs.findMany fun _ log hlog => ?_
    simp only [Bool.and_eq_true, beq_iff_eq] at hlog
    exact hlog.1.1
  simp only [HmsIntegrationService.listAccessLogs, hlogs]

theorem whoAmI (hkey : s.apiKeys.get? apiKeyId = t.apiKeys.get? apiKeyId)
    (horg : ∀ row ∈ s.apiKeys.get? apiKeyId, row.orgId = key.orgId) :
    whoAmI s apiKeyId = whoAmI t apiKeyId := by
  unfold HmsIntegrationService.whoAmI
  rw [← hkey]
  cases hrow : s.apiKeys.get? apiKeyId with
  | none => rfl
  | some row =>
    have hsame : s.organizations.get? row.orgId = t.organizations.get? row.orgId :=
      horg row hrow ▸ h.organization
    simp only [hsame]

/-- The use of the key is written to its row alone. -/
theorem touch (now : Time) (context : ApiKeyContext) :
    Agrees apiKeyId key (touch s now context) (touch t now context) :=
  ⟨h.organization, h.accounts, h.accessLogs, h.branches, h.orders, h.tables, h.users, h.orderItems,
    h.payments, h.discounts, h.refunds, h.reservations, h.events, h.eventBookings, h.menuItems,
    h.inventoryItems, h.shifts, h.invoices, h.vendorBills⟩

/-- Every route. -/
theorem serve (now : Time) (hkey : s.apiKeys.get? apiKeyId = t.apiKeys.get? apiKeyId)
    (horg : ∀ row ∈ s.apiKeys.get? apiKeyId, row.orgId = key.orgId) (ipAddress : Option String)
    (route : Route) :
    serve s now ⟨apiKeyId, key.orgId, key.branchId, ipAddress⟩ route =
      serve t now ⟨apiKeyId, key.orgId, key.branchId, ipAddress⟩ route := by
  cases route with
  | whoAmI => simp only [HmsIntegrationService.serve, h.whoAmI hkey horg]
  | accessLogs q => simp only [HmsIntegrationService.serve, h.listAccessLogs q]
  | organization => simp only [HmsIntegrationService.serve, h.getOrganization]
  | branches => simp only [HmsIntegrationService.serve, h.listBranches]
  | orders q => simp only [HmsIntegrationService.serve, h.listOrders q]
  | order id => simp only [HmsIntegrationService.serve, h.getOrder id]
  | payments q => simp only [HmsIntegrationService.serve, h.listPayments q]
  | refunds q => simp only [HmsIntegrationService.serve, h.listRefunds q]
  | salesSummary q => simp only [HmsIntegrationService.serve, h.salesSummary now q]
  | reservations q => simp only [HmsIntegrationService.serve, h.listReservations q]
  | events q => simp only [HmsIntegrationService.serve, h.listEvents q]
  | eventBookings q => simp only [HmsIntegrationService.serve, h.listEventBookings q]
  | menu q => simp only [HmsIntegrationService.serve, h.listMenuItems q]
  | inventory q => simp only [HmsIntegrationService.serve, h.listInventory q]
  | shifts q => simp only [HmsIntegrationService.serve, h.listShifts q]
  | accounts q => simp only [HmsIntegrationService.serve, h.listAccounts q]
  | invoices q => simp only [HmsIntegrationService.serve, h.listInvoices q]
  | vendorBills q => simp only [HmsIntegrationService.serve, h.listVendorBills q]

end Agrees

-- ---
-- Requests
-- ---

/-- What the guard does about the row it finds. -/
def activate (now : Time) (ipAddress : Option String) (apiKeyId : Id) (apiKey : ApiKey) :
    Except Failure (ApiKeyContext × List String) :=
  if apiKey.status ≠ .active then
    .error (keyRefused "API_KEY_REVOKED" "API key has been revoked")
  else if apiKey.expiresAt.any (· < now) then
    .error (keyRefused "API_KEY_EXPIRED" "API key has expired")
  else .ok (⟨apiKeyId, apiKey.orgId, apiKey.branchId, ipAddress⟩,
    ("hms:read:*" :: apiKey.scopes).eraseDups)

theorem canActivate_found {sha256 : String → String} {headers : Headers}
    (hraw : truthy (extractKey headers) = some raw)
    (hfound : findKey s (sha256 raw) = some (apiKeyId, key)) :
    canActivate s now sha256 headers ip =
      activate now (truthy ip <|> truthy headers.xForwardedFor) apiKeyId key := by
  unfold canActivate activate
  simp only [hraw, hfound]
  split
  · rfl
  · split <;> rfl

theorem activate_ok (h : activate now ipAddress apiKeyId key = .ok result) :
    result.1 = ⟨apiKeyId, key.orgId, key.branchId, ipAddress⟩ := by
  unfold activate at h
  split at h
  · cases h
  · split at h
    · cases h
    · cases h
      rfl

/-- The row of the key after its use is written. -/
theorem touch_apiKey {u : Store ρ} (now : Time) (hget : u.apiKeys.get? apiKeyId = some key)
    (branchId : Option Id) (ipAddress : Option String) :
    (touch u now ⟨apiKeyId, key.orgId, branchId, ipAddress⟩).apiKeys.get? apiKeyId =
      some { key with lastUsedAt := some now, lastUsedIp := ipAddress <|> key.lastUsedIp } := by
  unfold touch
  rw [Table.get?_update_self, hget]
  rfl

/-- Every route, whether the use of the key is written before it reads or after. -/
theorem Agrees.serve_touched (h : Agrees apiKeyId key s t) (now : Time) (touched : Bool)
    (hs : s.apiKeys.get? apiKeyId = some key) (ht : t.apiKeys.get? apiKeyId = some key)
    (ipAddress : Option String) (route : Route) :
    let context : ApiKeyContext := ⟨apiKeyId, key.orgId, key.branchId, ipAddress⟩
    HmsIntegrationService.serve (if touched then HmsIntegrationService.touch s now context else s)
        now context route =
      HmsIntegrationService.serve (if touched then HmsIntegrationService.touch t now context else t)
        now context route := by
  cases touched with
  | false =>
    refine h.serve now (hs.trans ht.symm) ?_ ipAddress route
    rw [hs]
    exact fun row hmem => Option.mem_some.mp hmem ▸ rfl
  | true =>
    have hs' := touch_apiKey now hs key.branchId ipAddress
    have ht' := touch_apiKey now ht key.branchId ipAddress
    refine (h.touch now _).serve now (hs'.trans ht'.symm) ?_ ipAddress route
    rw [hs']
    exact fun row hmem => Option.mem_some.mp hmem ▸ rfl

/-- A request with a key is answered alike by all stores that hold the same rows of what
the key is for. -/
theorem handle_agrees (sha256 : String → String) (now : Time) (touched : Bool)
    (request : HmsRequest) (hraw : truthy (extractKey request.headers) = some raw)
    (hs : findKey s (sha256 raw) = some (apiKeyId, key))
    (ht : findKey t (sha256 raw) = some (apiKeyId, key)) (h : Agrees apiKeyId key s t) :
    handle s now sha256 touched request = handle t now sha256 touched request := by
  unfold handle
  rw [canActivate_found hraw hs, canActivate_found hraw ht]
  cases hactive : activate now (truthy request.ip <|> truthy request.headers.xForwardedFor)
      apiKeyId key with
  | error e => rfl
  | ok result =>
    obtain ⟨context, permissions⟩ := result
    obtain rfl := activate_ok hactive
    have hserve := h.serve_touched now touched (Table.findFirst_some hs).1
      (Table.findFirst_some ht).1 (truthy request.ip <|> truthy request.headers.xForwardedFor)
      request.route
    simp only [bind, Except.bind, hserve]

def branchKey : ApiKey where
  orgId := 0
  branchId := some 0
  name := "hotel"
  keyPrefix := "nk_"
  keyHash := "secret"
  createdAt := 0

/-- A key for branch 0, and what branch 1 sold. -/
def sold (total : Cents) : Store Unit where
  organizations :=
    .insert .empty { name := "Nimbus", slug := "nimbus", createdAt := 0, updatedAt := 0 }
  apiKeys := .insert .empty branchKey
  orders := .insert .empty
    { orgId := 0, branchId := 1, tableId := none, userId := 0, orderNumber := "1", status := .closed
      serviceType := .dineIn, subtotal := total, tax := 0, discount := 0, total, notes := none
      createdAt := 0, updatedAt := 0, columns := () }

theorem sold_agrees (total total' : Cents) : Agrees 0 branchKey (sold total) (sold total') := by
  have hother : ∀ (sum : Cents) k order, (sold sum).orders.get? k = some order →
      ¬ branchKey.covers order.place := by
    intro sum k order hget hcovers
    have hbranch : order.branchId = 1 := by
      simp only [sold, Table.get?_insert] at hget
      split at hget
      · cases hget
        rfl
      · cases hget
    have hkey : some order.branchId = some 0 := hcovers.2 0 rfl
    rw [hbranch] at hkey
    cases hkey
  have hrows : ∀ {α : Type} {kind : Nat → α → Prop} (u : Table α), Table.AgreeOn kind u u :=
    fun _ _ _ _ => Iff.rfl
  exact {
    organization := rfl, accounts := hrows _, accessLogs := hrows _, branches := hrows _
    orders := fun k order hcovers =>
      ⟨fun hget => absurd hcovers (hother _ k order hget),
        fun hget => absurd hcovers (hother _ k order hget)⟩
    tables := fun _ _ _ _ _ _ => rfl, users := fun _ _ _ _ => rfl, orderItems := hrows _
    payments := hrows _, discounts := hrows _, refunds := hrows _, reservations := hrows _
    events := hrows _, eventBookings := hrows _, menuItems := hrows _, inventoryItems := hrows _
    shifts := hrows _, invoices := hrows _, vendorBills := hrows _ }

/-- A key of branch 0 that asks for the sales of branch 1. -/
def salesRequest : HmsRequest where
  headers := { xApiKey := some " secret" }
  route := .salesSummary { branchId := some (some 1) }

theorem handle_agrees_sold :
    handle (sold 100) 0 id true salesRequest = handle (sold 250) 0 id true salesRequest :=
  have hraw : truthy (extractKey salesRequest.headers) = some "secret" := by decide
  have hfound : ∀ total : Cents, findKey (sold total) (id "secret") = some (0, branchKey) :=
    fun _ => rfl
  handle_agrees id 0 true salesRequest hraw (hfound 100) (hfound 250) (sold_agrees 100 250)

end NimbusPos.HmsIntegrationService
