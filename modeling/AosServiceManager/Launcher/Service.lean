/-
Module: AosServiceManager.Launcher.Service
Layer: Core
Purpose: The launcher's service life cycle (src/launcher/launcher.go:436-1924) over the state of
  `Launcher.Basic`: starting and stopping a service with its device grants, adding, updating with
  rollback, restoring and removing it, the install, uninstall and state-update actions, and
  `SetUsers` with the stop, start and clean-up passes it makes. The actions the action handler
  runs in parallel for different IDs, and the goroutines of `cleanServicesDB`, run here one after
  another in list order.
Imports: AosServiceManager.Launcher.Basic
Trusted boundary: the calls a function makes whose errors are only logged and that change no
  modelled state (monitoring, spec file edits, cleanup of directories and system users) are
  left out.
Main exports: startService, stopService, removeService, restoreService, addService,
  updateService, installService, uninstallService, setUsers, Action, runActions
-/
import AosServiceManager.Launcher.Basic

namespace AosServiceManager.Launcher

/-- A loop over the service's devices that returns the first error (`setDevices`,
`requestDeviceResources`, `releaseDeviceResources`). -/
def forEachDevice (call : String → LauncherM GoError) : List String → LauncherM GoError
  | [] => pure none
  | device :: devices => orReturn (call device) (forEachDevice call devices)

/-- `setDevices` (launcher.go:1382-1423): the device manager's resource for every device. -/
def setDevices (service : Service) : LauncherM GoError :=
  forEachDevice requestDeviceResourceByName service.devices

/-- `requestDeviceResources` (launcher.go:1085-1100). -/
def requestDeviceResources (service : Service) : LauncherM GoError :=
  forEachDevice (fun device => requestDevice device service.id) service.devices

/-- `releaseDeviceResources` (launcher.go:1158-1173). -/
def releaseDeviceResources (service : Service) : LauncherM GoError :=
  forEachDevice (fun device => releaseDevice device service.id) service.devices

/-- `updateServiceState` (launcher.go:886-915); monitoring errors are only logged. -/
def updateServiceState (id : String) (state : ServiceState) (status : ServiceStatus) :
    LauncherM GoError := do
  match ← read (ServiceProvider.getService id) with
  | .error err => pure (some err)
  | .ok service =>
    orReturn
      (if service.state ≠ state then storage (ServiceProvider.setServiceState id state)
        else pure none)
      (if service.status ≠ status then storage (ServiceProvider.setServiceStatus id status)
        else pure none)

/-- `prestartService` (launcher.go:1023-1064): load the spec, set the devices, the storage
folder and the network, mount the layers and request the devices. The deferred `spec.save()`
runs on every path after the spec is loaded, and its error replaces only a `nil` result. -/
def prestartService (service : Service) : LauncherM GoError :=
  orReturn external do
    let err ← orReturn (setDevices service) <|
      orReturn external <|
      orReturn external <|
      orReturn external <|
      requestDeviceResources service
    let specErr ← external
    pure (err.or specErr)

/-- `startService` (launcher.go:1102-1126): after `StartUnit` succeeds, the state update and the
start time are best effort. -/
def startService (service : Service) : LauncherM GoError :=
  orReturn (prestartService service) <|
  orReturn (startUnit service.unitName) do
    let _ ← updateServiceState service.id .stateRunning .statusOk
    let _ ← storage (ServiceProvider.setServiceStartTime service.id)
    pure none

/-- `poststopService` (launcher.go:1175-1208): unmount, stop state watching, release the devices
and leave the network. The first error is kept in `retErr`, and `nil` is returned. -/
def poststopService (service : Service) : LauncherM GoError := do
  let _ ← external
  let _ ← external
  let _ ← releaseDeviceResources service
  let _ ← external
  pure none

/-- `stopService` (launcher.go:1210-1239). -/
def stopService (service : Service) : LauncherM GoError := do
  let retErr ← stopUnit service.unitName
  let retErr ← keepFirst retErr (poststopService service)
  keepFirst retErr (updateServiceState service.id .stateStopped .statusOk)

/-- `addServiceToSystemd` (launcher.go:1066-1083): `LinkUnitFiles`, then `Reload`. -/
def addServiceToSystemd (_service : Service) : LauncherM GoError :=
  orReturn external external

/-- `addServiceToCurrentUsers` (launcher.go:1859-1874). -/
def addServiceToCurrentUsers (id : String) : LauncherM GoError := do
  let users ← read (·.users)
  match ← read (ServiceProvider.getUsersService users id) with
  | none => pure none
  | some err =>
    if !Go.stringsContains err "not exist" then pure (some err)
    else storage (ServiceProvider.addServiceToUsers users id)

/-- `removeService` (launcher.go:1639-1726): stop the service, disable its unit, then delete its
users rows and its record. The storage folders, the network of its provider, its directory and
its system user are removed by calls whose errors only reach `retErr`, which no caller reads. -/
def removeService (service : Service) : LauncherM GoError := do
  let retErr ← stopService service
  let retErr ← keepFirst retErr external
  let retErr ← keepFirst retErr (storage (ServiceProvider.removeServiceFromAllUsers service.id))
  keepFirst retErr (storage (ServiceProvider.removeService service.id))

/-- `restoreService` (launcher.go:1280-1312): every step runs, and the first error is returned. -/
def restoreService (service : Service) : LauncherM GoError := do
  let retErr ← storage (ServiceProvider.updateService service)
  let retErr ← keepFirst retErr external
  let retErr ← keepFirst retErr (addServiceToSystemd service)
  keepFirst retErr (startService service)

/-- The part of `addService` (launcher.go:1548-1567) after the record is stored: the provider's
network, the current users, systemd, and the start. -/
def addServiceBody (service : Service) : LauncherM GoError :=
  orReturn (do match ← external with
    | none => pure none
    | some _ => external) <|
  orReturn (addServiceToCurrentUsers service.id) <|
  orReturn (addServiceToSystemd service) <|
  startService service

/-- `addService` (launcher.go:1526-1568): once the record is stored, an error removes the
service again. -/
def addService (service : Service) : LauncherM GoError :=
  orReturn external <|
  orReturn (storage (ServiceProvider.addService service)) do
    match ← addServiceBody service with
    | none => pure none
    | some err => do
      let _ ← removeService service
      pure (some err)

/-- The body of `updateService` (launcher.go:1594-1636). -/
def updateServiceBody (oldService newService : Service) : LauncherM GoError :=
  orReturn (updateServiceState oldService.id .stateStopped .statusOk) <|
  orReturn (addServiceToCurrentUsers newService.id) <|
  orReturn external <|
  orReturn (stopService oldService) <|
  orReturn external <|
  orReturn (addServiceToSystemd newService) <|
  orReturn (startService newService) <|
  orReturn (storage (ServiceProvider.updateService newService)) do
    sendServiceStatus ⟨oldService.id, oldService.version, "removed", ""⟩
    pure none

/-- The last step of `updateService`'s rollback (launcher.go:1583-1591): restore the old
service, and remove it if that fails. -/
def restoreOrRemove (oldService : Service) : LauncherM Unit := do
  match ← restoreService oldService with
  | none => pure ()
  | some _ => do
    let _ ← removeService oldService
    sendServiceStatus ⟨oldService.id, oldService.version, "removed", ""⟩

/-- The deferred rollback of `updateService` (launcher.go:1571-1592). It assigns `err` from
`stopService(newService)` and then from `os.RemoveAll(newService.Path)`, so `updateService`
returns the error of the last call. -/
def updateServiceRollback (oldService newService : Service) : LauncherM GoError := do
  let _ ← stopService newService
  let err ← external
  restoreOrRemove oldService
  pure err

/-- `updateService` (launcher.go:1570-1637). -/
def updateService (oldService newService : Service) : LauncherM GoError := do
  match ← updateServiceBody oldService newService with
  | none => pure none
  | some _ => updateServiceRollback oldService newService

/-- What an install request brings: the ID and version from the cloud, and the device names and
the TTL that `prepareService` reads from the image's service configuration. -/
structure ServiceInfoToInstall where
  id : String
  version : Nat
  devices : List String
  ttl : Nat
deriving Repr, DecidableEq

/-- The record `prepareService` (launcher.go:1425-1524) builds. -/
def prepareService (info : ServiceInfoToInstall) : Service :=
  ⟨info.id, info.version, .stateInit, .statusOk, 0, info.ttl, info.devices⟩

/-- The install path of `installService` (launcher.go:750-803): download and unpack, validate,
create the install directory, prepare the service, then add it or update `existing`. -/
def installImage (info : ServiceInfoToInstall) (existing : Option Service) : LauncherM GoError :=
  orReturn external <|
  orReturn external <|
  orReturn external <|
  orReturn external <|
  match existing with
  | none => addService (prepareService info)
  | some service => updateService service (prepareService info)

/-- `installService` (launcher.go:707-804). -/
def installService (info : ServiceInfoToInstall) : LauncherM GoError := do
  match ← read (·.users) with
  | none => pure (some "users are not set")
  | some _ =>
    orReturn areResourcesValid do
      match ← read (ServiceProvider.getService info.id) with
      | .error err =>
        if !Go.stringsContains err "not exist" then pure (some err)
        else installImage info none
      | .ok service =>
        if info.version < service.version then pure (some "version mistmatch")
        else if info.version = service.version then
          orReturn (addServiceToCurrentUsers info.id) (startService service)
        else installImage info (some service)

/-- `uninstallService` (launcher.go:806-842): the version and the error. The storage folder
removal is an external call. -/
def uninstallService (id : String) : LauncherM (Nat × GoError) := do
  match ← read (ServiceProvider.getService id) with
  | .error err => pure (0, some err)
  | .ok service =>
    match ← read (·.users) with
    | none => pure (service.version, some "users are not set")
    | some users => do
      let err ← orReturn (stopService service) <|
        orReturn (read (ServiceProvider.getUsersService (some users) service.id)) <|
        orReturn external <|
        storage (ServiceProvider.removeServiceFromUsers (some users) service.id)
      pure (service.version, err)

/-- A loop that runs `call` on every service and ignores the results (`startServices`,
`stopServices` and `cleanServicesDB` collect them on a channel and drop them). -/
def forEachService (call : Service → LauncherM GoError) : List Service → LauncherM Unit
  | [] => pure ()
  | service :: services => do
    let _ ← call service
    forEachService call services

/-- `stopServices` (launcher.go:1241-1278): every service when no users are set, and otherwise
the current users' services. -/
def stopServices : LauncherM Unit := do
  let l ← read id
  match l.users with
  | none => forEachService stopService l.services
  | some users => forEachService stopService (ServiceProvider.getUsersServices (some users) l)

/-- `startServices` (launcher.go:1128-1156). -/
def startServices : LauncherM Unit := do
  let services ← read fun l => ServiceProvider.getUsersServices l.users l
  forEachService startService services

/-- `time.Hour*24*time.Duration(ttl)`: `int64` nanoseconds, converted and multiplied with
wrap-around. -/
def ttlDuration (ttl : Nat) : Int :=
  Go.int64 (86400000000000 * Go.int64 ttl)

/-- `service.StartAt.Add(time.Hour*24*time.Duration(service.TTL)).Before(now)`. -/
def expired (now : Int) (service : Service) : Bool :=
  decide (service.startAt + ttlDuration service.ttl < now)

/-- `cleanServicesDB` (launcher.go:1876-1924): remove every expired service that the current
users do not have. -/
def cleanServicesDB : LauncherM GoError := do
  let l ← read id
  let startedServices := ServiceProvider.getUsersServices l.users l
  forEachService removeService (l.services.filter fun service =>
    !startedServices.any (·.id = service.id) && expired l.now service)
  pure none

/-- `isUsersEqual` (launcher.go:624-644). -/
def isUsersEqual : Option (List String) → Option (List String) → Bool
  | none, none => true
  | none, some _ | some _, none => false
  | some users1, some users2 =>
    users1.length == users2.length && (users1.zip users2).all fun pair => pair.1 == pair.2

/-- `SetUsers` (launcher.go:436-463). -/
def setUsers (users : Option (List String)) : LauncherM GoError := do
  if isUsersEqual (← read (·.users)) users then pure none
  else do
    stopServices
    storage fun l => ((), { l with users := users })
    match ← areResourcesValid with
    | some _ => pure none
    | none => do
      startServices
      let _ ← cleanServicesDB
      pure none

/-- `doActionInstall` (launcher.go:646-684). -/
def doActionInstall (info : ServiceInfoToInstall) : LauncherM Unit := do
  match ← installService info with
  | some err => sendServiceStatus ⟨info.id, info.version, "error", "Can't install service: " ++ err⟩
  | none =>
    match ← read fun l => ServiceProvider.getUsersService l.users info.id l with
    | some err =>
      sendServiceStatus ⟨info.id, info.version, "error", "Can't install service: " ++ err⟩
    | none => sendServiceStatus ⟨info.id, info.version, "installed", ""⟩

/-- `doActionUninstall` (launcher.go:686-699). -/
def doActionUninstall (id : String) : LauncherM Unit := do
  let (version, err) ← uninstallService id
  match err with
  | none => sendServiceStatus ⟨id, version, "removed", ""⟩
  | some err => sendServiceStatus ⟨id, version, "error", err⟩

/-- `doUpdateState` (launcher.go:844-871): stop the service, let the storage handler write the
new state, and start it again. -/
def doUpdateState (id : String) : LauncherM Unit := do
  match ← read (ServiceProvider.getService id) with
  | .error _ => pure ()
  | .ok service => do
    let _ ← orReturn (stopService service) (orReturn external (startService service))
    pure ()

/-- The launcher's entry points, each run to completion before the next. -/
inductive Action where
  | installService (info : ServiceInfoToInstall)
  | uninstallService (id : String)
  | updateState (id : String)
  | stateAcceptance (id : String)
  | finishProcessingLayers
  | setUsers (users : Option (List String))
deriving Repr, DecidableEq

/-- One action. `StateAcceptance` and `FinishProcessingLayers` reach the storage handler and the
layer provider, which change no modelled state. -/
def Action.run : Action → LauncherM Unit
  | .installService info => doActionInstall info
  | .uninstallService id => doActionUninstall id
  | .updateState id => doUpdateState id
  | .stateAcceptance _ => pure ()
  | .finishProcessingLayers => pure ()
  | .setUsers users => do
    let _ ← Launcher.setUsers users
    pure ()

/-- A sequence of actions. -/
def runActions : List Action → LauncherM Unit
  | [] => pure ()
  | action :: actions => do
    action.run
    runActions actions

end AosServiceManager.Launcher
