import NimbusPos.DeviceRegistry.Service

/-!
# The registry stays consistent

A call checks a device before it writes, and the rules bind devices and routes together: the status
of a printer changes under its routes, that of a target under its terminals, and what was read may
have changed by the time of the write. The type and the branch of a device never change.
-/

namespace NimbusPos.DeviceRegistryService

open Lib Lib.Program

-- ---
-- The rules
-- ---

/-- "Manual upsert against the composite unique (branchId, routeType, station, printerId)". -/
def PrinterRoute.key (route : PrinterRoute) :
    Option (Id × PrinterRouteType × Option String × Id) :=
  some (route.branchId, route.routeType, route.station, route.printerId)

/-- The route leads to an active printer of its branch. -/
def PrintsOn (devices : Table Device) (route : PrinterRoute) : Prop :=
  ∃ printer, devices.get? route.printerId = some printer ∧ printer.type = .printer ∧
    printer.branchId = route.branchId ∧ printer.status = .active

/-- A terminal that is paired is paired to a point of sale of its branch that is not retired. -/
def PairedOn (devices : Table Device) (terminal : Device) : Prop :=
  ∀ targetId, terminal.pairedToDeviceId = some targetId →
    ∃ target, devices.get? targetId = some target ∧ target.type = .posTerminal ∧
      target.branchId = terminal.branchId ∧ target.status ≠ .retired

structure Consistent (s : DeviceStore) : Prop where
  routed : ∀ routeId route, s.printerRoutes.get? routeId = some route →
    route.enabled = true → PrintsOn s.devices route
  single : s.printerRoutes.UniqueOn PrinterRoute.key
  paired : ∀ id terminal, s.devices.get? id = some terminal → PairedOn s.devices terminal

/-- A device that is retired is retired in the other state too. -/
def RetiredStay (s t : DeviceStore) : Prop :=
  ∀ id device, s.devices.get? id = some device → device.status = .retired →
    ∃ later, t.devices.get? id = some later ∧ later.status = .retired

theorem retiredStay_refl (s : DeviceStore) : RetiredStay s s :=
  fun _ device hget hretired => ⟨device, hget, hretired⟩

theorem RetiredStay.trans (h : RetiredStay s t) (h' : RetiredStay t u) : RetiredStay s u := by
  intro id device hget hretired
  obtain ⟨later, hlater, hstays⟩ := h id device hget hretired
  exact h' id later hlater hstays

-- ---
-- What a statement finds
-- ---

namespace DeviceStore

variable {s : DeviceStore} {id : Id}

def hasStatus (s : DeviceStore) (id : Id) (status : DeviceStatus) : Bool :=
  (s.devices.get? id).any (·.status == status)

/-- An enabled route leads to the device. -/
def isRouted (s : DeviceStore) (id : Id) : Bool :=
  (s.printerRoutes.findFirst fun _ route => route.enabled && route.printerId == id).isSome

/-- A terminal is paired to the device. -/
def isTarget (s : DeviceStore) (id : Id) : Bool :=
  (s.devices.findFirst fun _ device => device.pairedToDeviceId == some id).isSome

/-- The statement leaves the rules as they are: what the calls check, found as the statement is
written, and what they do not check, the routes and the terminals of a device. -/
def fits (s : DeviceStore) : Statement → Prop
  | .updateStatus id status =>
    (s.hasStatus id .retired = true → status = .retired) ∧
      (s.isRouted id = true → status = .active) ∧ (s.isTarget id = true → status ≠ .retired)
  | .updatePairing _ (some targetId) => s.hasStatus targetId .retired = false
  | .updateRoute id enabled _ => enabled = true →
    ∀ route ∈ s.printerRoutes.get? id, s.hasStatus route.printerId .active = true
  | .createRoute row => s.routeTaken row = false →
    (row.enabled = true → s.hasStatus row.printerId .active = true) ∧
      (row.station = none → s.findRoute row.branchId row.routeType none row.printerId = none)
  | _ => True

instance (s : DeviceStore) : (k : Statement) → Decidable (s.fits k)
  | .updateStatus .. => inferInstanceAs (Decidable ((_ → _) ∧ (_ → _) ∧ (_ → _)))
  | .updatePairing _ (some _) => inferInstanceAs (Decidable (_ = false))
  | .updatePairing _ none => .isTrue trivial
  | .updateRoute .. => inferInstanceAs (Decidable (_ → ∀ route ∈ _, _))
  | .createRoute _ => inferInstanceAs (Decidable (_ → (_ → _) ∧ (_ → _)))
  | .findByActivationCode _ | .findByName .. | .createDevice _ | .findDevice .. | .findRoute ..
  | .log => .isTrue trivial

/-- The device stands in the branch. -/
def Stands (s : DeviceStore) (id : Id) (type : DeviceType) (branchId : Id) : Prop :=
  ∃ device, s.devices.get? id = some device ∧ device.type = type ∧ device.branchId = branchId

/-- What the calls know of a statement when they send it. -/
def ready (s : DeviceStore) : Statement → Prop
  | .createDevice row => row.pairedToDeviceId = none
  | .updatePairing id (some targetId) => ∃ terminal, s.devices.get? id = some terminal ∧
    s.Stands targetId .posTerminal terminal.branchId
  | .updateRoute id _ _ => ∃ route, s.printerRoutes.get? id = some route ∧
    s.Stands route.printerId .printer route.branchId
  | .createRoute row => s.Stands row.printerId .printer row.branchId
  | _ => True

theorem hasStatus_iff : s.hasStatus id status = true ↔
    ∃ device, s.devices.get? id = some device ∧ device.status = status := by
  simp [hasStatus, Option.any_eq_true]

theorem isRouted_iff : s.isRouted id = true ↔
    ∃ routeId route, s.printerRoutes.get? routeId = some route ∧ route.enabled = true ∧
      route.printerId = id := by
  rw [isRouted, Option.isSome_iff_ne_none, ne_eq, Table.findFirst_none]
  simp

theorem isTarget_iff : s.isTarget id = true ↔
    ∃ terminalId terminal, s.devices.get? terminalId = some terminal ∧
      terminal.pairedToDeviceId = some id := by
  rw [isTarget, Option.isSome_iff_ne_none, ne_eq, Table.findFirst_none]
  simp

-- ---
-- Devices
-- ---

section

variable {devices : Table Device} {route : PrinterRoute} {terminal : Device}

theorem printsOn_status (h : PrintsOn devices route) (id : Id) (status : DeviceStatus) :
    PrintsOn (devices.update id fun device => { device with status }) route ↔
      (route.printerId = id → status = .active) := by
  obtain ⟨printer, hget, htype, hbranch, hactive⟩ := h
  by_cases hid : route.printerId = id
  · subst hid
    simp [PrintsOn, hget, htype, hbranch]
  · simp [PrintsOn, Table.get?_update, hid, hget, htype, hbranch, hactive]

theorem pairedOn_status (h : PairedOn devices terminal) (id : Id) (status : DeviceStatus) :
    PairedOn (devices.update id fun device => { device with status }) terminal ↔
      (terminal.pairedToDeviceId = some id → status ≠ .retired) := by
  refine ⟨fun hnew hpaired => ?_, fun hlive targetId hpaired => ?_⟩
  · obtain ⟨target, hget, -, -, hlive⟩ := hnew id hpaired
    rcases Table.update_cases hget with ⟨-, old, -, rfl⟩ | ⟨hne, -⟩
    · exact hlive
    · exact absurd rfl hne
  · obtain ⟨target, hget, htype, hbranch, hold⟩ := h targetId hpaired
    by_cases hid : targetId = id
    · subst hid
      exact ⟨{ target with status }, by simp [hget], htype, hbranch, hlive hpaired⟩
    · exact ⟨target, by simp [Table.get?_update, hid, hget], htype, hbranch, hold⟩

/-- A pairing is no concern of the device behind a route or a terminal. -/
theorem printsOn_pairing (id : Id) (pairedToDeviceId : Option Id) :
    PrintsOn (devices.update id fun device => { device with pairedToDeviceId }) route ↔
      PrintsOn devices route := by
  cases hget : devices.get? route.printerId <;> by_cases hid : route.printerId = id <;>
    simp_all [PrintsOn, Table.get?_update]

theorem pairedOn_pairing (id : Id) (pairedToDeviceId : Option Id) :
    PairedOn (devices.update id fun device => { device with pairedToDeviceId }) terminal ↔
      PairedOn devices terminal := by
  refine forall_congr' fun targetId => forall_congr' fun _ => ?_
  cases hget : devices.get? targetId <;> by_cases hid : targetId = id <;>
    simp_all [Table.get?_update]

end

theorem createDevice_kept (h : Consistent s) {row : Device} (hrow : row.pairedToDeviceId = none) :
    Consistent { s with devices := s.devices.insert row } ∧
      RetiredStay s { s with devices := s.devices.insert row } := by
  refine ⟨⟨?_, h.single, ?_⟩, ?_⟩
  · intro routeId route hroute henabled
    obtain ⟨printer, hprinter, hrest⟩ := h.routed routeId route hroute henabled
    exact ⟨printer, Table.get?_insert_of_some hprinter, hrest⟩
  · refine Table.forall_insert.mpr ⟨fun targetId hpaired => ?_, fun id terminal hget => ?_⟩
    · rw [hrow] at hpaired
      cases hpaired
    · intro targetId hpaired
      obtain ⟨target, htarget, hrest⟩ := h.paired id terminal hget targetId hpaired
      exact ⟨target, Table.get?_insert_of_some htarget, hrest⟩
  · intro id device hget hretired
    exact ⟨device, Table.get?_insert_of_some hget, hretired⟩

theorem retiredStay_status (id : Id) (status : DeviceStatus) :
    RetiredStay s { s with devices := s.devices.update id fun device => { device with status } } ↔
      (s.hasStatus id .retired = true → status = .retired) := by
  rw [hasStatus_iff]
  constructor
  · rintro hstay ⟨device, hget, hretired⟩
    obtain ⟨later, hlater, hstays⟩ := hstay id device hget hretired
    simp only [Table.get?_update_self, hget, Option.map_some, Option.some.injEq] at hlater
    subst hlater
    exact hstays
  · intro hstatus other device hget hretired
    by_cases hother : other = id
    · subst hother
      exact ⟨{ device with status }, by simp [hget], hstatus ⟨device, hget, hretired⟩⟩
    · exact ⟨device, by simp [Table.get?_update, hother, hget], hretired⟩

theorem updateStatus_kept (h : Consistent s) (id : Id) (status : DeviceStatus) :
    (Consistent { s with devices := s.devices.update id fun device => { device with status } } ∧
      RetiredStay s
        { s with devices := s.devices.update id fun device => { device with status } }) ↔
      s.fits (.updateStatus id status) := by
  have hrouted : (∀ routeId route, s.printerRoutes.get? routeId = some route →
      route.enabled = true →
        PrintsOn (s.devices.update id fun device => { device with status }) route) ↔
      (s.isRouted id = true → status = .active) := by
    rw [isRouted_iff]
    constructor
    · rintro hall ⟨routeId, route, hroute, henabled, hid⟩
      have hold := h.routed routeId route hroute henabled
      exact (printsOn_status hold id status).mp (hall routeId route hroute henabled) hid
    · intro hactive routeId route hroute henabled
      have hold := h.routed routeId route hroute henabled
      exact (printsOn_status hold id status).mpr fun hid =>
        hactive ⟨routeId, route, hroute, henabled, hid⟩
  have hpaired : (∀ other terminal,
      (s.devices.update id fun device => { device with status }).get? other = some terminal →
        PairedOn (s.devices.update id fun device => { device with status }) terminal) ↔
      (s.isTarget id = true → status ≠ .retired) := by
    rw [isTarget_iff]
    constructor
    · rintro hall ⟨terminalId, terminal, hget, hid⟩
      have hnew := hall terminalId (if terminalId = id then { terminal with status } else terminal)
        (by rw [Table.get?_update]; split <;> simp [hget])
      refine (pairedOn_status (h.paired terminalId terminal hget) id status).mp ?_ hid
      split at hnew <;> exact hnew
    · intro hlive other terminal hget
      rcases Table.update_cases hget with ⟨-, old, hold, rfl⟩ | ⟨-, hold⟩
      · have hkept := (pairedOn_status (h.paired other old hold) id status).mpr fun hid =>
          hlive ⟨other, old, hold, hid⟩
        exact hkept
      · exact (pairedOn_status (h.paired other terminal hold) id status).mpr fun hid =>
          hlive ⟨other, terminal, hold, hid⟩
  rw [retiredStay_status]
  constructor
  · rintro ⟨hnew, hretired⟩
    exact ⟨hretired, hrouted.mp hnew.routed, hpaired.mp hnew.paired⟩
  · rintro ⟨hretired, hactive, hlive⟩
    exact ⟨⟨hrouted.mpr hactive, h.single, hpaired.mpr hlive⟩, hretired⟩

/-- A pairing changes no status. -/
theorem retiredStay_pairing (id : Id) (pairedToDeviceId : Option Id) :
    RetiredStay s
      { s with devices := s.devices.update id fun device => { device with pairedToDeviceId } } := by
  intro other device hget hretired
  by_cases hother : other = id
  · subst hother
    exact ⟨{ device with pairedToDeviceId }, by simp [hget], hretired⟩
  · exact ⟨device, by simp [Table.get?_update, hother, hget], hretired⟩

theorem updatePairing_kept (h : Consistent s) {terminal : Device}
    (hget : s.devices.get? id = some terminal) (pairedToDeviceId : Option Id) :
    Consistent
      { s with devices := s.devices.update id fun device => { device with pairedToDeviceId } } ↔
      PairedOn s.devices { terminal with pairedToDeviceId } := by
  have hpaired := Table.forall_update (f := fun device => { device with pairedToDeviceId }) hget
    h.paired
  constructor
  · intro hnew
    exact hpaired.mp fun other device hother =>
      (pairedOn_pairing id pairedToDeviceId).mp (hnew.paired other device hother)
  · intro hnew
    refine ⟨fun routeId route hroute henabled => ?_, h.single, fun other device hother => ?_⟩
    · exact (printsOn_pairing id pairedToDeviceId).mpr (h.routed routeId route hroute henabled)
    · exact (pairedOn_pairing id pairedToDeviceId).mpr (hpaired.mpr hnew other device hother)

theorem pairedOn_some {terminal : Device} (h : s.Stands targetId .posTerminal terminal.branchId) :
    PairedOn s.devices { terminal with pairedToDeviceId := some targetId } ↔
      s.hasStatus targetId .retired = false := by
  obtain ⟨target, hget, htype, hbranch⟩ := h
  simp [PairedOn, hasStatus, hget, htype, hbranch]

-- ---
-- Routes
-- ---

theorem printsOn_stands {route : PrinterRoute}
    (h : s.Stands route.printerId .printer route.branchId) :
    PrintsOn s.devices route ↔ s.hasStatus route.printerId .active = true := by
  obtain ⟨printer, hget, htype, hbranch⟩ := h
  simp [PrintsOn, hasStatus, hget, htype, hbranch]

theorem updateRoute_kept (h : Consistent s) {route : PrinterRoute}
    (hget : s.printerRoutes.get? id = some route)
    (hstands : s.Stands route.printerId .printer route.branchId) (enabled : Bool) (priority : Int) :
    Consistent { s with
      printerRoutes := s.printerRoutes.update id fun route => { route with enabled, priority } } ↔
      s.fits (.updateRoute id enabled priority) := by
  have hrouted := Table.forall_update (f := fun route => { route with enabled, priority })
    (P := fun route => route.enabled = true → PrintsOn s.devices route) hget h.routed
  have hprints : PrintsOn s.devices { route with enabled, priority } ↔
      s.hasStatus route.printerId .active = true :=
    printsOn_stands hstands
  have hfits : s.fits (.updateRoute id enabled priority) ↔
      (enabled = true → PrintsOn s.devices { route with enabled, priority }) := by
    simp only [fits, hget, Option.mem_some_iff, forall_eq']
    exact imp_congr_right fun _ => hprints.symm
  rw [hfits]
  constructor
  · intro hnew
    exact hrouted.mp hnew.routed
  · intro hactive
    have hsingle := h.single.update (f := fun route => { route with enabled, priority })
      (fun _ _ hkey => hkey) id
    exact ⟨hrouted.mpr hactive, hsingle, h.paired⟩

/-- No route has the key of the row. -/
theorem findRoute_none {row : PrinterRoute} :
    s.findRoute row.branchId row.routeType row.station row.printerId = none ↔
      ∀ routeId route x, s.printerRoutes.get? routeId = some route → row.key = some x →
        route.key ≠ some x := by
  rw [findRoute, Table.findFirst_none]
  refine forall_congr' fun routeId => forall_congr' fun route => ⟨fun hnone x hget hrow hkey => ?_,
    fun hfree hget => ?_⟩
  · have hmiss := hnone hget
    have hsame := hkey.trans hrow.symm
    simp only [PrinterRoute.key, Option.some.injEq, Prod.mk.injEq] at hsame
    simp [hsame.1, hsame.2.1, hsame.2.2.1, hsame.2.2.2] at hmiss
  · have hne := hfree _ hget rfl
    simp only [PrinterRoute.key, ne_eq, Option.some.injEq, Prod.mk.injEq] at hne
    rw [Bool.eq_false_iff]
    intro hmatch
    simp only [Bool.and_eq_true, beq_iff_eq] at hmatch
    exact hne ⟨hmatch.1.1.1, hmatch.1.1.2, hmatch.1.2, hmatch.2⟩

/-- Where the row is not refused its key can only be taken by a route without a station. -/
theorem findRoute_none_of_free {row : PrinterRoute} (hfree : s.routeTaken row = false) :
    s.findRoute row.branchId row.routeType row.station row.printerId = none ↔
      (row.station = none → s.findRoute row.branchId row.routeType none row.printerId = none) := by
  cases hstation : row.station with
  | none => simp
  | some station =>
    rw [routeTaken, hstation] at hfree
    simpa using hfree

theorem createRoute_kept (h : Consistent s) {row : PrinterRoute}
    (hstands : s.Stands row.printerId .printer row.branchId) (hfree : s.routeTaken row = false) :
    Consistent { s with printerRoutes := s.printerRoutes.insert row } ↔
      s.fits (.createRoute row) := by
  have hrouted := Table.forall_insert (t := s.printerRoutes) (a := row)
    (P := fun route => route.enabled = true → PrintsOn s.devices route)
  simp only [fits, hfree, forall_const]
  rw [← printsOn_stands hstands, ← findRoute_none_of_free hfree, findRoute_none]
  constructor
  · intro hnew
    exact ⟨(hrouted.mp hnew.routed).1, (Table.UniqueOn.insert_iff h.single).mp hnew.single⟩
  · rintro ⟨hactive, hkeys⟩
    exact ⟨hrouted.mpr ⟨hactive, h.routed⟩, (Table.UniqueOn.insert_iff h.single).mpr hkeys,
      h.paired⟩

-- ---
-- Statements
-- ---

/-- A statement keeps the rules exactly where it fits. -/
theorem exec_kept (h : Consistent s) {k : Statement} (hready : s.ready k) :
    (Consistent (s.exec k).1 ∧ RetiredStay s (s.exec k).1) ↔ s.fits k := by
  have hsame (hfits : s.fits k) : (Consistent s ∧ RetiredStay s s) ↔ s.fits k :=
    iff_of_true ⟨h, retiredStay_refl s⟩ hfits
  cases k with
  | createDevice row =>
    simp only [exec]
    rcases unlessTaken_cases _ "(activation_code), (branch_id,name)" s
      { s with devices := s.devices.insert row } (s.devices.next, row) with
      ⟨-, hrow⟩ | ⟨-, hrow⟩
    · rw [hrow]
      exact hsame trivial
    · rw [hrow]
      exact iff_of_true (createDevice_kept h hready) trivial
  | updateStatus id status =>
    simp only [exec, updateDevice]
    cases hget : s.devices.get? id with
    | some device => exact updateStatus_kept h id status
    | none =>
      refine hsame ⟨?_, ?_, ?_⟩
      · simp [hasStatus, hget]
      · rw [isRouted_iff]
        rintro ⟨routeId, route, hroute, henabled, rfl⟩
        obtain ⟨printer, hprinter, -⟩ := h.routed routeId route hroute henabled
        cases hget.symm.trans hprinter
      · rw [isTarget_iff]
        rintro ⟨terminalId, terminal, hterminal, hpaired⟩
        obtain ⟨target, htarget, -⟩ := h.paired terminalId terminal hterminal id hpaired
        cases hget.symm.trans htarget
  | updatePairing id pairedToDeviceId =>
    simp only [exec, updateDevice]
    cases pairedToDeviceId with
    | none =>
      cases hget : s.devices.get? id with
      | none => exact hsame trivial
      | some terminal =>
        have hunpaired : PairedOn s.devices { terminal with pairedToDeviceId := none } := by
          intro targetId hpaired
          cases hpaired
        exact iff_of_true ⟨(updatePairing_kept h hget none).mpr hunpaired,
          retiredStay_pairing id none⟩ trivial
    | some targetId =>
      obtain ⟨terminal, hget, hstands⟩ := hready
      simp only [hget]
      refine (and_iff_left (retiredStay_pairing id (some targetId))).trans ?_
      exact (updatePairing_kept h hget _).trans (pairedOn_some hstands)
  | updateRoute id enabled priority =>
    obtain ⟨route, hget, hstands⟩ := hready
    simp only [exec, updatePrinterRoute, hget]
    refine (and_iff_left ?_).trans (updateRoute_kept h hget hstands enabled priority)
    exact retiredStay_refl s
  | createRoute row =>
    simp only [exec]
    rcases unlessTaken_cases (s.routeTaken row) "(branch_id,route_type,station,printer_id)" s
      { s with printerRoutes := s.printerRoutes.insert row } (s.printerRoutes.next, row) with
      ⟨htaken, hrow⟩ | ⟨hfree, hrow⟩
    · rw [hrow]
      refine hsame fun hfree => ?_
      cases htaken.symm.trans hfree
    · rw [hrow]
      refine (and_iff_left ?_).trans (createRoute_kept h hready hfree)
      exact retiredStay_refl s
  | _ => exact hsame trivial

end DeviceStore

end NimbusPos.DeviceRegistryService
