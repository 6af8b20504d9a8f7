/-
Module: AosServiceManager.Launcher.Basic
Layer: Core
Purpose: The state the launcher's actions read and write (src/launcher/launcher.go): its current
  users, the services and users tables behind `ServiceProvider`, the device manager, the systemd
  units it starts and stops, and the statuses it sends to the cloud. A computation runs in
  `LauncherM`, a state monad that also carries the outcomes of the external calls still to come
  (download, file system, mount, systemd, network, device manager): a run of the launcher under
  any pattern of failures is a run of the model for some list of outcomes. Storage calls never
  fail on their own; they answer as the tables say.
Imports: AosServiceManager.ResourceManager.Basic
Trusted boundary: the `ServiceProvider` storage, whose implementation for this launcher is not in
  the repository, follows the SQL of src/database/database.go:878-1311: a services table keyed by
  ID and a users table keyed by (users, service ID), compared as their JSON texts. Database.Provider
  proves that those tables refine the storage given here, but for what a read returns of a
  service: the table has no column for `Devices`, and the start time reads back through
  go-sqlite3's text form.
Main exports: Service, UsersService, Launcher, LauncherM, external, orReturn, keepFirst,
  Launcher.Running
-/
import AosServiceManager.ResourceManager.Basic

namespace AosServiceManager.Launcher

/-- `ServiceState` (launcher.go:63-67). -/
inductive ServiceState where
  | stateInit
  | stateRunning
  | stateStopped
deriving Repr, DecidableEq

/-- `ServiceStatus` (launcher.go:57-60). -/
inductive ServiceStatus where
  | statusOk
  | statusError
deriving Repr, DecidableEq

/-- The systemd unit of a service: `prepareService` names it `"aos_" + ID + ".service"`
(launcher.go:1488), so the unit a record names is a function of its ID. -/
def unitName (id : String) : String :=
  "aos_" ++ id ++ ".service"

/-- `Service` (launcher.go:160-183) with the fields the modelled functions read. `StartAt` is in
nanoseconds and `TTL` in days; `Devices` is the decoded list of device names. -/
structure Service where
  id : String
  version : Nat
  state : ServiceState
  status : ServiceStatus
  startAt : Int
  ttl : Nat
  devices : List String
deriving Repr, DecidableEq

/-- `Service.UnitName`. -/
def Service.unitName (service : Service) : String :=
  Launcher.unitName service.id

/-- A row of the users table (`UsersService`, launcher.go:186-191): `none` is a `nil` user list,
whose JSON text `null` no other list has. -/
structure UsersService where
  users : Option (List String)
  serviceID : String
deriving Repr, DecidableEq

/-- A call issued on the systemd connection. -/
inductive UnitCall where
  | startUnit (name : String)
  | stopUnit (name : String)
deriving Repr, DecidableEq

namespace UnitCall

def name : UnitCall → String
  | startUnit name | stopUnit name => name

def isStart : UnitCall → Bool
  | startUnit _ => true
  | stopUnit _ => false

end UnitCall

/-- `amqp.ServiceInfo` as `SendServiceStatus` sends it. -/
structure ServiceInfo where
  id : String
  version : Nat
  status : String
  error : String
deriving Repr, DecidableEq

end Launcher

/-- What the launcher's actions act on. `units` lists the `StartUnit` and `StopUnit` calls
issued, most recent first, whatever each call returned; `sent` lists the statuses sent, most
recent first; `now` is what `time.Now()` returns. -/
structure Launcher where
  users : Option (List String)
  services : List Launcher.Service
  usersServices : List Launcher.UsersService
  devicemanager : ResourceManager
  units : List Launcher.UnitCall
  sent : List Launcher.ServiceInfo
  now : Int

namespace Launcher

/-- Whether the last call issued on unit `name` was `StartUnit`. -/
def unitActive (name : String) : List UnitCall → Bool
  | [] => false
  | call :: calls => if call.name = name then call.isStart else unitActive name calls

/-- The service has had `StartUnit` issued for its unit with no `StopUnit` after it. -/
def Running (l : Launcher) (id : String) : Prop :=
  unitActive (unitName id) l.units = true

instance (l : Launcher) (id : String) : Decidable (l.Running id) :=
  inferInstanceAs (Decidable (_ = true))

/-- The launcher's computations, with the outcomes of the external calls still to come. -/
abbrev LauncherM := StateM (Launcher × List GoError)

@[simp] theorem bind_apply {α β : Type} (m : LauncherM α) (f : α → LauncherM β)
    (s : Launcher × List GoError) : (m >>= f) s = f (m s).1 (m s).2 :=
  rfl

@[simp] theorem pure_apply {α : Type} (a : α) (s : Launcher × List GoError) :
    (pure a : LauncherM α) s = (a, s) :=
  rfl

@[simp] theorem map_apply {α β : Type} (f : α → β) (m : LauncherM α)
    (s : Launcher × List GoError) : (f <$> m) s = (f (m s).1, (m s).2) :=
  rfl

/-- An external call: the next listed outcome, and success once the list is used up. -/
def external : LauncherM GoError := fun s =>
  (s.2.headD none, (s.1, s.2.tail))

/-- A read of the launcher's state. -/
def read {α : Type} (f : Launcher → α) : LauncherM α := fun s =>
  (f s.1, s)

/-- A call on the launcher's own state or its storage, which answers as the state says. -/
def storage {α : Type} (f : Launcher → α × Launcher) : LauncherM α := fun s =>
  ((f s.1).1, ((f s.1).2, s.2))

/-- `if err = call; err != nil { return err }`, then the rest of the function. -/
def orReturn (call rest : LauncherM GoError) : LauncherM GoError :=
  call >>= fun err => match err with
    | some err => pure (some err)
    | none => rest

/-- `if err := call; err != nil { if retErr == nil { retErr = err } }`: the first error is kept
and the function goes on. -/
def keepFirst (retErr : GoError) (call : LauncherM GoError) : LauncherM GoError :=
  call >>= fun err => pure (retErr.or err)

/-! ### Storage -/

namespace ServiceProvider

/-- `ErrNotExist` (database.go:785). -/
def errNotExist : String := "entry doesn't not exist"

/-- `GetService` (database.go:937-957). -/
def getService (id : String) (l : Launcher) : Except String Service :=
  match l.services.find? (·.id = id) with
  | some service => .ok service
  | none => .error errNotExist

/-- `GetUsersServices` (database.go:1221-1249): the services whose ID the users table lists for
`users`, in table order. -/
def getUsersServices (users : Option (List String)) (l : Launcher) : List Service :=
  l.services.filter fun service => ⟨users, service.id⟩ ∈ l.usersServices

/-- `GetUsersService` (database.go:1167-1193), of which the callers read only the error. -/
def getUsersService (users : Option (List String)) (id : String) (l : Launcher) : GoError :=
  if ⟨users, id⟩ ∈ l.usersServices then none else some errNotExist

/-- `AddService` (database.go:878-891): an insert, refused on a duplicate ID. -/
def addService (service : Service) (l : Launcher) : GoError × Launcher :=
  if l.services.any (·.id = service.id) then (some "UNIQUE constraint failed: services.id", l)
  else (none, { l with services := l.services ++ [service] })

/-- An `UPDATE services ... WHERE id = ?` that reports `ErrNotExist` when no row changed. -/
def setService (id : String) (f : Service → Service) (l : Launcher) : GoError × Launcher :=
  if l.services.any (·.id = id) then
    (none, { l with services := l.services.map fun s => if s.id = id then f s else s })
  else (some errNotExist, l)

/-- `UpdateService` (database.go:893-922). -/
def updateService (service : Service) : Launcher → GoError × Launcher :=
  setService service.id fun _ => service

/-- `SetServiceState` (database.go:1031-1054). -/
def setServiceState (id : String) (state : ServiceState) : Launcher → GoError × Launcher :=
  setService id fun s => { s with state := state }

/-- `SetServiceStatus` (database.go:1006-1029). -/
def setServiceStatus (id : String) (status : ServiceStatus) : Launcher → GoError × Launcher :=
  setService id fun s => { s with status := status }

/-- `SetServiceStartTime(id, time.Now())` (database.go:1056-1079). -/
def setServiceStartTime (id : String) (l : Launcher) : GoError × Launcher :=
  setService id (fun s => { s with startAt := l.now }) l

/-- `RemoveService` (database.go:924-935): no matching row is not an error. -/
def removeService (id : String) (l : Launcher) : GoError × Launcher :=
  (none, { l with services := l.services.filter (·.id ≠ id) })

/-- `AddServiceToUsers` (database.go:1081-1097): an insert, refused on a duplicate key. -/
def addServiceToUsers (users : Option (List String)) (id : String) (l : Launcher) :
    GoError × Launcher :=
  if ⟨users, id⟩ ∈ l.usersServices then
    (some "UNIQUE constraint failed: users.users, users.serviceid", l)
  else (none, { l with usersServices := l.usersServices ++ [⟨users, id⟩] })

/-- `RemoveServiceFromUsers` (database.go:1099-1115). -/
def removeServiceFromUsers (users : Option (List String)) (id : String) (l : Launcher) :
    GoError × Launcher :=
  (none, { l with usersServices := l.usersServices.filter (· ≠ ⟨users, id⟩) })

/-- `RemoveServiceFromAllUsers` (database.go:1300-1311). -/
def removeServiceFromAllUsers (id : String) (l : Launcher) : GoError × Launcher :=
  (none, { l with usersServices := l.usersServices.filter (·.serviceID ≠ id) })

end ServiceProvider

/-! ### Systemd, the device manager and the cloud -/

/-- Record a call on the systemd connection and return its outcome. -/
def unitCall (call : UnitCall) : LauncherM GoError := fun s =>
  (s.2.headD none, ({ s.1 with units := call :: s.1.units }, s.2.tail))

/-- `systemd.StartUnit(name, "replace", channel)`. -/
def startUnit (name : String) : LauncherM GoError :=
  unitCall (.startUnit name)

/-- `systemd.StopUnit(name, "replace", channel)`. -/
def stopUnit (name : String) : LauncherM GoError :=
  unitCall (.stopUnit name)

/-- A call on the device manager: it may fail on its own, and otherwise answers as the broker. -/
def deviceCall (f : ResourceManager → GoError × ResourceManager) : LauncherM GoError :=
  orReturn external <| storage fun l =>
    ((f l.devicemanager).1, { l with devicemanager := (f l.devicemanager).2 })

/-- `devicemanager.AreResourcesValid()`. -/
def areResourcesValid : LauncherM GoError :=
  deviceCall fun rm => (rm.areResourcesValid, rm)

/-- `devicemanager.RequestDeviceResourceByName(name)`, of which `setDevices` reads the error. -/
def requestDeviceResourceByName (name : String) : LauncherM GoError :=
  deviceCall fun rm => (match rm.getAvailableDeviceByName name with
    | .ok _ => none
    | .error err => some err, rm)

/-- `devicemanager.RequestDevice(device, serviceID)`. -/
def requestDevice (device serviceID : String) : LauncherM GoError :=
  deviceCall fun rm => rm.requestDevice device serviceID

/-- `devicemanager.ReleaseDevice(device, serviceID)`. -/
def releaseDevice (device serviceID : String) : LauncherM GoError :=
  deviceCall fun rm => rm.releaseDevice device serviceID

/-- `sender.SendServiceStatus(status)`; every caller ignores its error. -/
def sendServiceStatus (status : ServiceInfo) : LauncherM Unit :=
  storage fun l => ((), { l with sent := status :: l.sent })

end AosServiceManager.Launcher
