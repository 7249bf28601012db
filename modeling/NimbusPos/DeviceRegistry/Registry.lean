import NimbusPos.DeviceRegistry.Consistency

/-!
# The registry under calls that overlap

What a call has found of the type and the branch of a device still holds when it writes, whatever
other calls did in between. Its status, the routes and the pairings may have changed.
-/

namespace NimbusPos.DeviceRegistryService

open Lib Lib.Program

-- ---
-- What no call changes
-- ---

def SameDevice (device later : Device) : Prop :=
  later.type = device.type ∧ later.branchId = device.branchId

def SameRoute (route later : PrinterRoute) : Prop :=
  later.printerId = route.printerId ∧ later.branchId = route.branchId

theorem SameDevice.refl (device : Device) : SameDevice device device := ⟨rfl, rfl⟩

theorem SameDevice.trans (a b c : Device) (h : SameDevice a b) (h' : SameDevice b c) :
    SameDevice a c :=
  ⟨h'.1.trans h.1, h'.2.trans h.2⟩

theorem SameRoute.refl (route : PrinterRoute) : SameRoute route route := ⟨rfl, rfl⟩

theorem SameRoute.trans (a b c : PrinterRoute) (h : SameRoute a b) (h' : SameRoute b c) :
    SameRoute a c :=
  ⟨h'.1.trans h.1, h'.2.trans h.2⟩

/-- Devices and routes stay, with what they are registered for. -/
def registryStays : Service.Frame DeviceStore where
  rel s t := Table.Grows SameDevice s.devices t.devices ∧
    Table.Grows SameRoute s.printerRoutes t.printerRoutes
  refl _ := ⟨.refl SameDevice.refl _, .refl SameRoute.refl _⟩
  trans h h' := ⟨.trans SameDevice.trans h.1 h'.1, .trans SameRoute.trans h.2 h'.2⟩

variable {s t : DeviceStore} {ctx : BranchContext} {id : Id}

theorem updateDevice_stays {data : Device → Device}
    (hsame : ∀ device, SameDevice device (data device))
    (s : DeviceStore) (id : Id) : registryStays.rel s (updateDevice s id data).1 := by
  unfold updateDevice
  split
  · exact ⟨Table.Grows.update SameDevice.refl hsame _ _, .refl SameRoute.refl _⟩
  · exact registryStays.refl s

theorem exec_stays (s : DeviceStore) (k : Statement) : registryStays.rel s (s.exec k).1 := by
  cases k with
  | createDevice row =>
    simp only [DeviceStore.exec]
    rcases unlessTaken_cases _ "(activation_code), (branch_id,name)" s
      { s with devices := s.devices.insert row } (s.devices.next, row) with
      ⟨-, hrow⟩ | ⟨-, hrow⟩
    · rw [hrow]
      exact registryStays.refl s
    · rw [hrow]
      exact ⟨Table.Grows.insert SameDevice.refl _ row, .refl SameRoute.refl _⟩
  | updateStatus id status | updatePairing id pairedToDeviceId =>
    refine updateDevice_stays ?_ s id
    exact fun _ => ⟨rfl, rfl⟩
  | updateRoute id enabled priority =>
    simp only [DeviceStore.exec, updatePrinterRoute]
    split
    · have hroutes : Table.Grows SameRoute s.printerRoutes (s.printerRoutes.update id fun route =>
          { route with enabled, priority }) := by
        refine Table.Grows.update SameRoute.refl ?_ _ _
        exact fun _ => ⟨rfl, rfl⟩
      exact ⟨.refl SameDevice.refl _, hroutes⟩
    · exact registryStays.refl s
  | createRoute row =>
    simp only [DeviceStore.exec]
    rcases unlessTaken_cases (s.routeTaken row) "(branch_id,route_type,station,printer_id)" s
      { s with printerRoutes := s.printerRoutes.insert row } (s.printerRoutes.next, row) with
      ⟨-, hrow⟩ | ⟨-, hrow⟩
    · rw [hrow]
      exact registryStays.refl s
    · rw [hrow]
      exact ⟨.refl SameDevice.refl _, Table.Grows.insert SameRoute.refl _ row⟩
  | _ => exact registryStays.refl s

theorem stands_rely (h : s.Stands id type branchId) (hstay : registryStays.rel s t) :
    t.Stands id type branchId := by
  obtain ⟨device, hget, rfl, rfl⟩ := h
  obtain ⟨later, hlater, hsame⟩ := hstay.1.forth id device hget
  exact ⟨later, hlater, hsame⟩

theorem stands_of_deviceOf (h : s.deviceOf ctx id = some device) :
    s.Stands id device.type ctx.branchId := by
  obtain ⟨hget, hctx⟩ := Option.filter_eq_some_iff.mp h
  simp only [Bool.and_eq_true, beq_iff_eq] at hctx
  exact ⟨device, hget, rfl, hctx.2⟩

-- ---
-- Calls
-- ---

def registryDiscipline : Discipline (fun _ => DeviceStore.exec) where
  inv _ := True
  rely _ := registryStays
  needs _ s k := s.ready k
  allowed _ _ := True
  keeps _ s k _ _ _ := ⟨trivial, fun _ _ => exec_stays s k⟩

/-- A call goes on with a device of its branch. -/
theorem loadDevice_safe {f : Device → DeviceProgram α}
    {post : Except HttpError α → DeviceStore → Prop}
    (hnext : ∀ t device, registryStays.rel s t → t.Stands id device.type ctx.branchId →
      (f device).Safe registryDiscipline i post t)
    (herror : ∀ e t, post (.error e) t) :
    (loadDevice ctx id >>= f).Safe registryDiscipline i post s := by
  refine safe_bind (safe_read (fun t => t.deviceOf ctx id) (fun _ => rfl) (fun _ _ _ => trivial)
    fun t hst _ => ?_)
  cases hfound : t.deviceOf ctx id with
  | some device => exact hnext t device hst (stands_of_deviceOf hfound)
  | none => exact herror _ t

theorem writeRoute_safe {row : PrinterRoute}
    (hstands : s.Stands row.printerId .printer row.branchId)
    (hexisting : ∀ routeId route, existing = some (routeId, route) →
      s.printerRoutes.get? routeId = some route ∧ route.printerId = row.printerId ∧
        route.branchId = row.branchId) :
    (writeRoute existing row).Safe registryDiscipline i (fun _ _ => True) s := by
  cases existing with
  | none => exact fun t hst _ => ⟨stands_rely hstands hst, fun _ => trivial⟩
  | some found =>
    refine fun t hst _ => ⟨?_, fun _ => trivial⟩
    obtain ⟨hget, hprinter, hbranch⟩ := hexisting found.1 found.2 rfl
    obtain ⟨later, hlater, hsame⟩ := hst.2.forth found.1 found.2 hget
    refine ⟨later, hlater, ?_⟩
    rw [hsame.1, hsame.2, hprinter, hbranch]
    exact stands_rely hstands hst

theorem activateDevice_always (ctx : BranchContext) (dto : ActivateDeviceDto) (generated : String) :
    Always registryDiscipline i (activateDevice ctx dto generated) := by
  refine always_bind (always_statement fun _ _ => trivial) fun existing => ?_
  cases existing with
  | some found => exact always_bind (always_checks _ _) fun _ => always_pure _
  | none =>
    refine always_bind (always_statement fun _ _ => trivial) fun dupeName => ?_
    refine always_bind (always_checks _ _) fun _ => ?_
    refine always_bind (always_statement fun _ _ => rfl) fun created => ?_
    exact always_bind (always_statement fun _ _ => trivial) fun _ => always_pure _

theorem updateDeviceStatus_always (ctx : BranchContext) (id : Id) (status : DeviceStatus) :
    Always registryDiscipline i (updateDeviceStatus ctx id status) := by
  refine fun s => loadDevice_safe (fun t device _ _ => ?_) fun _ _ => trivial
  split
  · trivial
  · refine safe_ensure (fun _ => ?_) fun _ => trivial
    refine always_bind (always_statement fun _ _ => trivial) (fun updated => ?_) t
    exact always_bind (always_statement fun _ _ => trivial) fun _ => always_pure _

theorem upsertPrinterRoute_always (ctx : BranchContext) (dto : UpsertPrinterRouteDto) :
    Always registryDiscipline i (upsertPrinterRoute ctx dto) := by
  refine fun s => loadDevice_safe (fun t printer _ hstands => ?_) fun _ _ => trivial
  refine safe_ensure (fun htype => ?_) fun _ => trivial
  refine safe_ensure (fun _ => ?_) fun _ => trivial
  rw [beq_iff_eq.mp htype] at hstands
  refine safe_read (fun u => u.findRoute ctx.branchId dto.routeType dto.station dto.printerId)
    (fun _ => rfl) (fun _ _ _ => trivial) fun u htu _ => ?_
  refine safe_bind ((writeRoute_safe (stands_rely hstands htu) ?_).mono fun result v _ => ?_)
  · intro routeId route hfound
    obtain ⟨hget, hmatch⟩ := Table.findFirst_some hfound
    simp only [Bool.and_eq_true, beq_iff_eq] at hmatch
    exact ⟨hget, hmatch.2, hmatch.1.1.1⟩
  · cases result with
    | error e => trivial
    | ok written =>
      exact always_bind (always_statement fun _ _ => trivial) (fun _ => always_pure _) v

theorem pairTerminal_always (ctx : BranchContext) (dto : PairTerminalDto) :
    Always registryDiscipline i (pairTerminal ctx dto) := by
  refine fun s => loadDevice_safe (fun t terminal _ hterminal => ?_) fun _ _ => trivial
  refine safe_ensure (fun _ => ?_) fun _ => trivial
  refine loadDevice_safe (fun u target htu htarget => ?_) fun _ _ => trivial
  refine safe_ensure (fun htype => ?_) fun _ => trivial
  refine safe_ensure (fun _ => ?_) fun _ => trivial
  rw [beq_iff_eq.mp htype] at htarget
  refine safe_any (fun v huv _ => ?_) (fun _ _ => trivial) fun v updated => ?_
  · obtain ⟨later, hget, -, hbranch⟩ := stands_rely (stands_rely hterminal htu) huv
    exact ⟨later, hget, hbranch ▸ stands_rely htarget huv⟩
  · exact always_bind (always_statement fun _ _ => trivial) (fun _ => always_pure _) v

theorem unpairTerminal_always (ctx : BranchContext) (id : Id) :
    Always registryDiscipline i (unpairTerminal ctx id) := by
  refine fun s => loadDevice_safe (fun t terminal _ _ => ?_) fun _ _ => trivial
  refine safe_ensure (fun _ => ?_) fun _ => trivial
  split
  · trivial
  · refine always_bind (always_statement fun _ _ => trivial) (fun updated => ?_) t
    exact always_bind (always_statement fun _ _ => trivial) fun _ => always_pure _

theorem program_always (call : RegistryCall) : Always registryDiscipline i call.program := by
  cases call with
  | activateDevice ctx dto generated =>
    exact always_bind (activateDevice_always ctx dto generated) fun _ => always_pure _
  | updateDeviceStatus ctx id status =>
    exact always_bind (updateDeviceStatus_always ctx id status) fun _ => always_pure _
  | upsertPrinterRoute ctx dto =>
    exact always_bind (upsertPrinterRoute_always ctx dto) fun _ => always_pure _
  | pairTerminal ctx dto => exact always_bind (pairTerminal_always ctx dto) fun _ => always_pure _
  | unpairTerminal ctx id => exact always_bind (unpairTerminal_always ctx id) fun _ => always_pure _

-- ---
-- Histories
-- ---

abbrev RegistryPool := Pool DeviceStore (DeviceProgram String)

abbrev takeRegistryTurn : RegistryPool → Turn → RegistryPool :=
  Turn.take (fun _ => DeviceStore.exec) fun s _ => s

/-- The calls, none of which has started. -/
def registering (s : DeviceStore) (calls : List RegistryCall) : RegistryPool where
  shared := s
  threads := calls.map (·.program)

/-- The rules hold in every state of a history, and a retired device stays retired, exactly along
the statements that fit the registry as they find it. -/
theorem registry_rules (hstart : Consistent s) (calls : List RegistryCall) (turns : List Turn) :
    (∀ before between later, turns = before ++ between ++ later →
        Consistent ((before ++ between).foldl takeRegistryTurn (registering s calls)).shared ∧
          RetiredStay (before.foldl takeRegistryTurn (registering s calls)).shared
            ((before ++ between).foldl takeRegistryTurn (registering s calls)).shared) ↔
      Run takeRegistryTurn (fun p t => t.asks DeviceStore.fits p) (registering s calls) turns
        (turns.foldl takeRegistryTurn (registering s calls)) := by
  have hsafe : SafePool registryDiscipline (fun _ _ _ => True) (registering s calls) := by
    refine ⟨trivial, fun i x hx => ?_⟩
    simp only [registering, List.getElem?_map, Option.map_eq_some_iff] at hx
    obtain ⟨call, -, rfl⟩ := hx
    exact program_always call _
  exact hsafe.kept_iff (fun _ _ _ _ _ _ => trivial)
    (fun s _ _ => ⟨trivial, fun _ => registryStays.refl s⟩) (fun _ _ => trivial) retiredStay_refl
    RetiredStay.trans hstart (fun _ s k _ hready h => DeviceStore.exec_kept h hready)
    (fun s _ h => ⟨h, retiredStay_refl s⟩) turns

/-- A printer, a point of sale and a payment terminal of a branch. -/
def counter : DeviceStore where
  devices := ((Table.empty.insert
    { orgId := 0, branchId := 0, type := .printer, name := "Receipts",
      activationCode := "prn-1" }).insert
    { orgId := 0, branchId := 0, type := .posTerminal, name := "Till",
      activationCode := "pos-1" }).insert
    { orgId := 0, branchId := 0, type := .paymentTerminalStub, name := "Card"
      activationCode := "pay-1" }

theorem counter_consistent : Consistent counter where
  routed routeId route hget := by cases hget
  single j k a b x hj := by cases hj
  paired := by
    refine Table.forall_insert.mpr ⟨fun targetId h => ?_, Table.forall_insert.mpr
      ⟨fun targetId h => ?_, Table.forall_insert.mpr ⟨fun targetId h => ?_, fun id device h => ?_⟩⟩⟩
    all_goals cases h

/-- Receipts go to the printer. -/
def routesReceipts : RegistryCall := .upsertPrinterRoute ⟨0, 0⟩
    { printerId := 0, routeType := .receipt }

/-- The payment terminal is paired to the till. -/
def pairsTill : RegistryCall :=
  .pairTerminal ⟨0, 0⟩ { terminalDeviceId := 2, pairedToDeviceId := 1 }

/-- A route and a pairing are written by calls that overlap, and the till is switched off. -/
theorem registry_rules_counter :
    let turns := times 2 0 ++ times 3 1 ++ times 2 0 ++ times 1 1 ++ times 3 2
    let p := turns.foldl takeRegistryTurn (registering counter
      [routesReceipts, pairsTill, .updateDeviceStatus ⟨0, 0⟩ 1 .inactive])
    p.threads.map (·.result?) =
      [some (.ok "PRINTER_ROUTE_CONFIGURED"), some (.ok "TERMINAL_PAIRED"),
      some (.ok "DEVICE_STATUS_CHANGED")] ∧ Consistent p.shared := by
  intro turns p
  have hrun : Run takeRegistryTurn (fun p t => t.asks DeviceStore.fits p) (registering counter
      [routesReceipts, pairsTill, .updateDeviceStatus ⟨0, 0⟩ 1 .inactive]) turns p :=
    Run.of_holds (by decide +kernel)
  have hall := (registry_rules counter_consistent _ turns).mpr hrun turns [] [] (by simp)
  exact ⟨by decide +kernel, by simpa using hall.1⟩

/-- A routed printer is disabled, the route without a station is created twice, a terminal is paired
to a retired till, and a till that is retired while another call has it at hand comes back. -/
theorem registry_broken :
    let disabled := (times 4 0 ++ times 3 1).foldl takeRegistryTurn
      (registering counter [routesReceipts, .updateDeviceStatus ⟨0, 0⟩ 0 .disabled])
    let twice := (times 2 0 ++ times 2 1 ++ times 2 0 ++ times 2 1).foldl takeRegistryTurn
      (registering counter [routesReceipts, routesReceipts])
    let paired := (times 3 0 ++ times 4 1).foldl takeRegistryTurn
      (registering counter [.updateDeviceStatus ⟨0, 0⟩ 1 .retired, pairsTill])
    let overlap := registering counter
      [.updateDeviceStatus ⟨0, 0⟩ 1 .inactive, .updateDeviceStatus ⟨0, 0⟩ 1 .retired]
    let retired := (times 1 0 ++ times 3 1).foldl takeRegistryTurn overlap
    let back := (times 1 0 ++ times 3 1 ++ times 2 0).foldl takeRegistryTurn overlap
    ¬Consistent disabled.shared ∧ ¬Consistent twice.shared ∧ ¬Consistent paired.shared ∧
      ¬RetiredStay retired.shared back.shared ∧
      ¬(∀ (s : DeviceStore) (calls : List RegistryCall) (turns : List Turn), Consistent s →
        Consistent (turns.foldl takeRegistryTurn (registering s calls)).shared) := by
  intro disabled twice paired overlap retired back
  let receipts : PrinterRoute :=
    { orgId := 0, branchId := 0, printerId := 0, routeType := .receipt, station := none }
  have hdisabled : ¬Consistent disabled.shared := by
    intro h
    obtain ⟨printer, hget, -, -, hactive⟩ := h.routed 0 receipts (by decide +kernel) rfl
    have hstatus : disabled.shared.hasStatus 0 .active = false := by decide +kernel
    have hfound := DeviceStore.hasStatus_iff.mpr ⟨printer, hget, hactive⟩
    exact absurd (hfound.symm.trans hstatus) (by decide)
  refine ⟨hdisabled, fun h => ?_, fun h => ?_, fun h => ?_, fun h => hdisabled ?_⟩
  · have hsame := h.single 0 1 receipts receipts _ (by decide +kernel) (by decide +kernel) rfl rfl
    cases hsame
  · have hterminal : (paired.shared.devices.get? 2).bind (·.pairedToDeviceId) = some 1 := by
      decide +kernel
    obtain ⟨terminal, hget, hpaired⟩ := Option.bind_eq_some_iff.mp hterminal
    obtain ⟨target, htarget, -, -, hlive⟩ := h.paired 2 terminal hget 1 hpaired
    have hstatus : paired.shared.hasStatus 1 .retired = true := by decide +kernel
    obtain ⟨device, hdevice, hretired⟩ := DeviceStore.hasStatus_iff.mp hstatus
    cases htarget.symm.trans hdevice
    exact hlive hretired
  · have hretired : retired.shared.hasStatus 1 .retired = true := by decide +kernel
    obtain ⟨device, hget, hwas⟩ := DeviceStore.hasStatus_iff.mp hretired
    have hstays := DeviceStore.hasStatus_iff.mpr (h 1 device hget hwas)
    have hback : back.shared.hasStatus 1 .retired = false := by decide +kernel
    exact absurd (hstays.symm.trans hback) (by decide)
  · exact h counter _ _ counter_consistent

end NimbusPos.DeviceRegistryService
