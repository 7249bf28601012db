import NimbusPos.Common
import NimbusPos.Lib.Program
import NimbusPos.Text

/-!
# Device registry

The devices of a branch, the routes to its printers and the pairing of its payment terminals. The
registry is configuration only: no hardware is driven.
-/

namespace NimbusPos.DeviceRegistryService

open Lib Lib.Program

-- ---
-- Rows
-- ---

inductive DeviceType
  | posTerminal
  | kdsScreen
  | printer
  | paymentTerminalStub
  deriving DecidableEq, Repr

instance : ToString DeviceType where
  toString
    | .posTerminal => "POS_TERMINAL"
    | .kdsScreen => "KDS_SCREEN"
    | .printer => "PRINTER"
    | .paymentTerminalStub => "PAYMENT_TERMINAL_STUB"

inductive DeviceStatus
  | active
  | inactive
  | disabled
  | retired
  deriving DecidableEq, Repr

instance : ToString DeviceStatus where
  toString
    | .active => "ACTIVE"
    | .inactive => "INACTIVE"
    | .disabled => "DISABLED"
    | .retired => "RETIRED"

inductive PrinterRouteType
  | receipt
  | kitchen
  | bar
  deriving DecidableEq, Repr

structure Device where
  orgId : Id
  branchId : Id
  type : DeviceType
  name : String
  station : Option String := none
  activationCode : String
  status : DeviceStatus := .active
  pairedToDeviceId : Option Id := none
  deriving DecidableEq, Repr

structure PrinterRoute where
  orgId : Id
  branchId : Id
  printerId : Id
  routeType : PrinterRouteType
  station : Option String
  enabled : Bool := true
  priority : Int := 100
  deriving DecidableEq, Repr

structure DeviceStore where
  devices : Table Device := .empty
  printerRoutes : Table PrinterRoute := .empty

namespace DeviceStore

variable (s : DeviceStore)

def deviceWithCode (code : String) : Option (Id × Device) :=
  s.devices.findFirst fun _ device => device.activationCode == code

def deviceNamed (branchId : Id) (name : String) : Option (Id × Device) :=
  s.devices.findFirst fun _ device => device.branchId == branchId && device.name == name

def deviceOf (ctx : BranchContext) (id : Id) : Option Device :=
  (s.devices.get? id).filter fun device =>
    device.orgId == ctx.organizationId && device.branchId == ctx.branchId

def findRoute (branchId : Id) (routeType : PrinterRouteType) (station : Option String)
    (printerId : Id) : Option (Id × PrinterRoute) :=
  s.printerRoutes.findFirst fun _ route => route.branchId == branchId &&
    route.routeType == routeType && route.station == station && route.printerId == printerId

/-- The row's key of the unique index is taken. Routes without a station have no key: nulls are
distinct. -/
def routeTaken (row : PrinterRoute) : Bool :=
  row.station.isSome &&
    (s.findRoute row.branchId row.routeType row.station row.printerId).isSome

end DeviceStore

-- ---
-- Statements
-- ---

inductive Statement
  | findByActivationCode (code : String)
  | findByName (branchId : Id) (name : String)
  | createDevice (row : Device)
  | findDevice (ctx : BranchContext) (id : Id)
  | updateStatus (id : Id) (status : DeviceStatus)
  | updatePairing (id : Id) (pairedToDeviceId : Option Id)
  | findRoute (branchId : Id) (routeType : PrinterRouteType) (station : Option String)
      (printerId : Id)
  | updateRoute (id : Id) (enabled : Bool) (priority : Int)
  | createRoute (row : PrinterRoute)
  | log
  deriving DecidableEq, Repr

abbrev Statement.Answer : Statement → Type
  | .findByActivationCode _ | .findByName .. => Option (Id × Device)
  | .createDevice _ => Id × Device
  | .findDevice .. => Option Device
  | .updateStatus .. | .updatePairing .. => Device
  | .findRoute .. => Option (Id × PrinterRoute)
  | .updateRoute .. | .createRoute _ => Id × PrinterRoute
  | .log => Unit

def recordNotFound : HttpError := notFound "Record to update not found"

def updateDevice (s : DeviceStore) (id : Id) (data : Device → Device) :
    DeviceStore × Except HttpError Device :=
  match s.devices.get? id with
  | some device => ({ s with devices := s.devices.update id data }, .ok (data device))
  | none => (s, .error recordNotFound)

def updatePrinterRoute (s : DeviceStore) (id : Id) (data : PrinterRoute → PrinterRoute) :
    DeviceStore × Except HttpError (Id × PrinterRoute) :=
  match s.printerRoutes.get? id with
  | some route =>
    ({ s with printerRoutes := s.printerRoutes.update id data }, .ok (id, data route))
  | none => (s, .error recordNotFound)

def DeviceStore.exec (s : DeviceStore) : (k : Statement) → DeviceStore × Except HttpError k.Answer
  | .findByActivationCode code => (s, .ok (s.deviceWithCode code))
  | .findByName branchId name => (s, .ok (s.deviceNamed branchId name))
  | .createDevice row =>
    unlessTaken ((s.deviceWithCode row.activationCode).isSome ||
        (s.deviceNamed row.branchId row.name).isSome) "(activation_code), (branch_id,name)" s
      { s with devices := s.devices.insert row } (s.devices.next, row)
  | .findDevice ctx id => (s, .ok (s.deviceOf ctx id))
  | .updateStatus id status => updateDevice s id fun device => { device with status }
  | .updatePairing id pairedToDeviceId =>
    updateDevice s id fun device => { device with pairedToDeviceId }
  | .findRoute branchId routeType station printerId =>
    (s, .ok (s.findRoute branchId routeType station printerId))
  | .updateRoute id enabled priority =>
    updatePrinterRoute s id fun route => { route with enabled, priority }
  | .createRoute row =>
    unlessTaken (s.routeTaken row) "(branch_id,route_type,station,printer_id)" s
      { s with printerRoutes := s.printerRoutes.insert row } (s.printerRoutes.next, row)
  | .log => (s, .ok ())

abbrev DeviceProgram := Program Statement Statement.Answer HttpError

abbrev query (k : Statement) : DeviceProgram k.Answer := Program.statement k

-- ---
-- Calls
-- ---

structure ActivateDeviceDto where
  type : DeviceType
  name : String
  station : Option String := none
  activationCode : Option String := none
  deriving DecidableEq, Repr

structure UpsertPrinterRouteDto where
  printerId : Id
  routeType : PrinterRouteType
  station : Option String := none
  enabled : Option Bool := none
  priority : Option Int := none
  deriving DecidableEq, Repr

structure PairTerminalDto where
  terminalDeviceId : Id
  pairedToDeviceId : Id
  deriving DecidableEq, Repr

structure DeviceAnswer where
  action : String
  id : Id
  device : Device
  deriving DecidableEq, Repr

structure RouteAnswer where
  action : String
  id : Id
  route : PrinterRoute
  deriving DecidableEq, Repr

def loadDevice (ctx : BranchContext) (id : Id) : DeviceProgram Device := do
  let device ← query (.findDevice ctx id)
  need device { kind := .notFound, code := "DEVICE_NOT_FOUND"
                message := "Device " ++ toString id ++ " not found in this branch" }

def nameConflict (name : String) : HttpError :=
  { kind := .conflict, code := "DEVICE_NAME_CONFLICT"
    message := "A device named \"" ++ name ++ "\" already exists in this branch" }

/-- A new device, active at once. -/
def createActive (ctx : BranchContext) (dto : ActivateDeviceDto) (code : String) :
    DeviceProgram DeviceAnswer := do
  let dupeName ← query (.findByName ctx.branchId dto.name)
  ensure dupeName.isNone (nameConflict dto.name)
  let (id, device) ← query (.createDevice
    { orgId := ctx.organizationId, branchId := ctx.branchId, type := dto.type, name := dto.name
      station := dto.station, activationCode := code, status := .active })
  query .log
  return { action := "DEVICE_ACTIVATED", id, device }

/-- The same code gives back the existing row as it is. -/
def alreadyActivated (ctx : BranchContext) (id : Id) (existing : Device) :
    DeviceProgram DeviceAnswer := do
  ensure (existing.branchId == ctx.branchId && existing.orgId == ctx.organizationId)
    { kind := .conflict, code := "DEVICE_ACTIVATION_CODE_BRANCH_MISMATCH"
      message := "activationCode is already registered to a different branch/org" }
  return { action := "DEVICE_ALREADY_ACTIVATED", id, device := existing }

/-- `generated` is the code that is drawn where the request has none. -/
def activateDevice (ctx : BranchContext) (dto : ActivateDeviceDto) (generated : String) :
    DeviceProgram DeviceAnswer := do
  let code := Text.trim (dto.activationCode.getD generated)
  let existing ← query (.findByActivationCode code)
  match existing with
  | some (id, device) => alreadyActivated ctx id device
  | none => createActive ctx dto code

def updateDeviceStatus (ctx : BranchContext) (id : Id) (status : DeviceStatus) :
    DeviceProgram DeviceAnswer := do
  let device ← loadDevice ctx id
  if device.status = status then
    return { action := "DEVICE_STATUS_UNCHANGED", id, device }
  else do
    ensure (device.status != .retired)
      { kind := .badRequest, code := "DEVICE_STATUS_TRANSITION_INVALID"
        message := "A RETIRED device cannot change status" }
    let updated ← query (.updateStatus id status)
    query .log
    return { action := "DEVICE_STATUS_CHANGED", id, device := updated }

/-- Update or create, against the unique key of a route. -/
def writeRoute (existing : Option (Id × PrinterRoute)) (row : PrinterRoute) :
    DeviceProgram (Id × PrinterRoute) :=
  match existing with
  | some (id, _) => query (.updateRoute id row.enabled row.priority)
  | none => query (.createRoute row)

def routeRow (ctx : BranchContext) (dto : UpsertPrinterRouteDto) : PrinterRoute :=
  { orgId := ctx.organizationId, branchId := ctx.branchId, printerId := dto.printerId
    routeType := dto.routeType, station := dto.station, enabled := dto.enabled.getD true
    priority := dto.priority.getD 100 }

def upsertPrinterRoute (ctx : BranchContext) (dto : UpsertPrinterRouteDto) :
    DeviceProgram RouteAnswer := do
  let printer ← loadDevice ctx dto.printerId
  ensure (printer.type == .printer)
    { kind := .badRequest, code := "DEVICE_NOT_PRINTER"
      message := "Device " ++ toString dto.printerId ++ " is type " ++ toString printer.type ++
        ", expected PRINTER" }
  ensure (printer.status == .active)
    { kind := .badRequest, code := "PRINTER_NOT_ACTIVE"
      message := "Printer is in status " ++ toString printer.status ++
        "; only ACTIVE printers can be routed" }
  let row := routeRow ctx dto
  let existing ← query (.findRoute row.branchId row.routeType row.station row.printerId)
  let (id, route) ← writeRoute existing row
  query .log
  return {
    action := if row.enabled then "PRINTER_ROUTE_CONFIGURED" else "PRINTER_ROUTE_DISABLED"
    id, route }

def notPaymentTerminal (id : Id) (type : DeviceType) : HttpError :=
  { kind := .badRequest, code := "DEVICE_NOT_PAYMENT_TERMINAL"
    message := "Device " ++ toString id ++ " is type " ++ toString type ++
      ", expected PAYMENT_TERMINAL_STUB" }

def pairTerminal (ctx : BranchContext) (dto : PairTerminalDto) : DeviceProgram DeviceAnswer := do
  let terminal ← loadDevice ctx dto.terminalDeviceId
  ensure (terminal.type == .paymentTerminalStub)
    (notPaymentTerminal dto.terminalDeviceId terminal.type)
  let target ← loadDevice ctx dto.pairedToDeviceId
  ensure (target.type == .posTerminal)
    { kind := .badRequest, code := "PAIR_TARGET_NOT_POS_TERMINAL"
      message := "pairedToDeviceId must reference a POS_TERMINAL (got " ++
        toString target.type ++ ")" }
  ensure (terminal.pairedToDeviceId.all (· == dto.pairedToDeviceId))
    { kind := .conflict, code := "TERMINAL_ALREADY_PAIRED"
      message := "Terminal is already paired to device " ++
        toString (terminal.pairedToDeviceId.getD 0) ++ "; unpair first" }
  let updated ← query (.updatePairing dto.terminalDeviceId (some dto.pairedToDeviceId))
  query .log
  return { action := "TERMINAL_PAIRED", id := dto.terminalDeviceId, device := updated }

def unpairTerminal (ctx : BranchContext) (id : Id) : DeviceProgram DeviceAnswer := do
  let terminal ← loadDevice ctx id
  ensure (terminal.type == .paymentTerminalStub) (notPaymentTerminal id terminal.type)
  if terminal.pairedToDeviceId.isNone then
    return { action := "TERMINAL_NOT_PAIRED", id, device := terminal }
  else do
    let updated ← query (.updatePairing id none)
    query .log
    return { action := "TERMINAL_UNPAIRED", id, device := updated }

inductive RegistryCall
  | activateDevice (ctx : BranchContext) (dto : ActivateDeviceDto) (generated : String)
  | updateDeviceStatus (ctx : BranchContext) (id : Id) (status : DeviceStatus)
  | upsertPrinterRoute (ctx : BranchContext) (dto : UpsertPrinterRouteDto)
  | pairTerminal (ctx : BranchContext) (dto : PairTerminalDto)
  | unpairTerminal (ctx : BranchContext) (id : Id)
  deriving DecidableEq, Repr

def RegistryCall.program : RegistryCall → DeviceProgram String
  | .activateDevice ctx dto generated => do
    return (← DeviceRegistryService.activateDevice ctx dto generated).action
  | .updateDeviceStatus ctx id status => do
    return (← DeviceRegistryService.updateDeviceStatus ctx id status).action
  | .upsertPrinterRoute ctx dto => do
    return (← DeviceRegistryService.upsertPrinterRoute ctx dto).action
  | .pairTerminal ctx dto => do
    return (← DeviceRegistryService.pairTerminal ctx dto).action
  | .unpairTerminal ctx id => do
    return (← DeviceRegistryService.unpairTerminal ctx id).action

end NimbusPos.DeviceRegistryService
