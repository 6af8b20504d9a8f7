/-
Module: AosServiceManager.Launcher.Devices
Layer: Proofs
Purpose: Device grants against service states. `GrantsHeldByRunning` is the invariant that every
  (device, service ID) pair of the resource manager's grant map belongs to a service whose stored
  state is `stateRunning`. `startService` (launcher.go:1102-1126) returns as soon as
  `prestartService` or `StartUnit` fails, and nothing on that path calls
  `releaseDeviceResources`: a failed start leaves the device manager exactly as
  `prestartService` left it, grants of `requestDeviceResources` included, and leaves the
  services table as it was, so the stored state is not set to running. Only `addService`
  removes the service after a failed start; the same-version install path, `startServices` and
  `doUpdateState` do not. A restart by `UpdateState` whose `StartUnit` fails thus leaves a grant
  held by a stopped service. Conversely, a start that succeeds has had every `RequestDevice`
  of its devices succeed, and each leaves the broker's `contains` test true for the service
  under the device's name; no later step of the start touches the device manager.
Imports: AosServiceManager.Launcher.Frame, AosServiceManager.ResourceManager.Contract
Trusted boundary: none
Main exports: GrantsHeldByRunning, Granted, startService_ok_devices_granted,
  updateState_failed_restart_leaks_grant
-/
import AosServiceManager.Launcher.Frame
import AosServiceManager.ResourceManager.Contract

namespace AosServiceManager.Launcher

/-- Every service that the grant map lists under some device name has a record whose stored
state is `stateRunning`. -/
def GrantsHeldByRunning (l : Launcher) : Prop :=
  ∀ device, ∀ id ∈ l.devicemanager.deviceWithServices device,
    ∃ service ∈ l.services, service.id = id ∧ service.state = .stateRunning

/-! ### What a successful start holds -/

/-- `contains` finds `id` in the grant list under `device`: the test `RequestDevice` makes before
it grants. -/
def Granted (id device : String) (l : Launcher) : Prop :=
  ResourceManager.contains (l.devicemanager.deviceWithServices device) id = true

/-- Every device granted to `id` stays granted. -/
def GrantsKept (id : String) (l l' : Launcher) : Prop :=
  ∀ device, Granted id device l → Granted id device l'

instance (id : String) : IsRefl Launcher (GrantsKept id) := ⟨fun _ _ held => held⟩

instance (id : String) : IsTrans Launcher (GrantsKept id) :=
  ⟨fun _ _ _ first second device held => second device (first device held)⟩

theorem requestDevice_grantsKept (device serviceID id : String) :
    Keeps (GrantsKept id) (requestDevice device serviceID) :=
  Keeps.external.orReturn fun _ _ held => ResourceManager.contains_requestDevice held

theorem unitCall_grantsKept (call : UnitCall) (id : String) : Keeps (GrantsKept id) (unitCall call) :=
  fun _ _ held => held

theorem setService_grantsKept (serviceID : String) (f : Service → Service) (id : String) :
    Keeps (GrantsKept id) (storage (ServiceProvider.setService serviceID f)) := fun _ _ held => by
  unfold storage ServiceProvider.setService
  split <;> exact held

theorem updateServiceState_grantsKept (serviceID : String) (state : ServiceState)
    (status : ServiceStatus) (id : String) :
    Keeps (GrantsKept id) (updateServiceState serviceID state status) :=
  (Keeps.read _).bind fun result => by
    cases result with
    | error => exact Keeps.pure _
    | ok _ =>
      refine (Keeps.ite ?_ (Keeps.pure _)).orReturn (Keeps.ite ?_ (Keeps.pure _))
      all_goals exact setService_grantsKept _ _ _

/-- A `RequestDevice` call that succeeds leaves its device granted to its service. -/
theorem requestDevice_granted (device id : String) :
    Triple (fun _ => True) (requestDevice device id) fun err l => err = none → Granted id device l :=
  Triple.orReturn Triple.external (fun _ _ ok => ResourceManager.contains_of_requestDevice_ok ok)
    fun _ _ _ => nofun

/-- A device loop of `RequestDevice` calls that succeeds leaves every device granted. -/
theorem requestDevices_granted (id : String) : ∀ devices : List String,
    Triple (fun _ => True) (forEachDevice (fun device => requestDevice device id) devices)
      fun err l => err = none → ∀ device ∈ devices, Granted id device l
  | [] => Triple.pure fun _ _ _ _ member => nomatch member
  | device :: devices =>
    have kept : Triple (Granted id device) (forEachDevice (fun device => requestDevice device id) devices)
        fun _ => Granted id device :=
      Triple.of_keeps (Keeps.forEachDevice (fun _ => requestDevice_grantsKept _ _ id) devices)
        fun _ _ keeps held => keeps device held
    Triple.orReturn (requestDevice_granted device id)
      ((kept.conj (requestDevices_granted id devices)).weaken (fun _ granted => ⟨granted rfl, trivial⟩)
        fun _ _ ⟨held, rest⟩ ok other member =>
          (List.mem_cons.1 member).elim (fun same => same ▸ held) (rest ok other))
      fun _ _ _ => nofun

theorem setServiceStartTime_grantsKept (serviceID id : String) :
    Keeps (GrantsKept id) (storage (ServiceProvider.setServiceStartTime serviceID)) := fun s =>
  setService_grantsKept serviceID (fun service => { service with startAt := s.1.now }) id s

theorem prestartService_granted (service : Service) :
    Triple (fun _ => True) (prestartService service)
      fun err l => err = none → ∀ device ∈ service.devices, Granted service.id device l := by
  have failed : ∀ (err : String) (l : Launcher), True →
      some err = none → ∀ device ∈ service.devices, Granted service.id device l :=
    fun _ _ _ => nofun
  have requested : Triple (fun _ => True) (requestDeviceResources service)
      fun err l => err = none → ∀ device ∈ service.devices, Granted service.id device l :=
    requestDevices_granted service.id service.devices
  refine Triple.orReturn Triple.external ?_ failed
  refine Triple.bind (Q := fun err l => err = none →
      ∀ device ∈ service.devices, Granted service.id device l) ?_ fun _ =>
    Triple.external.bind fun _ => Triple.pure fun _ granted ok => granted (Option.or_eq_none.1 ok).1
  refine Triple.orReturn (show Triple (fun _ => True) (setDevices service) fun _ _ => True from
    fun _ _ => trivial) ?_ failed
  exact Triple.external.orReturn (Triple.external.orReturn
    (Triple.external.orReturn requested failed) failed) failed

/-- A `startService` that succeeds leaves every device of the service granted to it: the steps
after `prestartService` leave the device manager alone. -/
theorem startService_granted (service : Service) :
    Triple (fun _ => True) (startService service)
      fun err l => err = none → ∀ device ∈ service.devices, Granted service.id device l :=
  Triple.orReturn (prestartService_granted service)
    ((Triple.of_keeps (P := fun l => ∀ device ∈ service.devices, Granted service.id device l)
      ((unitCall_grantsKept _ _).orReturn <| (updateServiceState_grantsKept _ _ _ _).bind fun _ =>
        (setServiceStartTime_grantsKept _ _).bind fun _ => Keeps.pure _)
      fun _ _ kept granted device member => kept device (granted device member)).weaken
        (fun _ granted => granted rfl) fun _ _ granted _ => granted)
    fun _ _ failed => failed

/-- With users set, an install of `service0` with the device `camera` succeeds, and a state
update restarts it: the restart's `StartUnit`, the 32nd external call of the run, fails. The
run starts with no grant and ends with `service0` holding `camera` while its stored state is
`stateStopped`. -/
theorem updateState_failed_restart_leaks_grant :
    GrantsHeldByRunning ⟨none, [], [], ResourceManager.new [] [] [⟨"camera", 0, [], []⟩], [], [], 0⟩ ∧
    ¬GrantsHeldByRunning (runActions
      [.setUsers (some ["user0"]), .installService ⟨"service0", 1, ["camera"], 30⟩,
        .updateState "service0"]
      (⟨none, [], [], ResourceManager.new [] [] [⟨"camera", 0, [], []⟩], [], [], 0⟩,
        List.replicate 31 none ++ [some "unit aos_service0.service failed"])).2.1 := by
  refine ⟨fun _ _ granted => by simp [ResourceManager.new] at granted, fun held => ?_⟩
  have leaked := held "camera" "service0"
  revert leaked
  simp [runActions, Action.run, Launcher.setUsers, isUsersEqual, Launcher.read, storage, external,
    orReturn, keepFirst, stopServices, forEachService, startServices, cleanServicesDB,
    areResourcesValid, deviceCall, ServiceProvider.getUsersServices, doActionInstall,
    installService, ServiceProvider.getService, installImage, addService,
    ServiceProvider.addService, addServiceBody, addServiceToCurrentUsers,
    ServiceProvider.getUsersService, ServiceProvider.addServiceToUsers, addServiceToSystemd,
    startService, prestartService, setDevices, forEachDevice, requestDeviceResourceByName,
    requestDeviceResources, requestDevice, startUnit, unitCall, updateServiceState,
    ServiceProvider.setServiceState, ServiceProvider.setServiceStatus, ServiceProvider.setService,
    ServiceProvider.setServiceStartTime, sendServiceStatus, prepareService, ResourceManager.new,
    ResourceManager.validateDeviceResources, ResourceManager.requestDevice,
    ResourceManager.getAvailableDeviceByName, ResourceManager.resolve,
    ResourceManager.deviceErrors, ResourceManager.checkDevice, ResourceManager.recordMissing,
    ResourceManager.isAvailableResourcesChecked, ResourceManager.contains,
    ResourceManager.setDevice, Go.stringsContains, Go.containsChars, Service.unitName, unitName,
    doUpdateState, stopService, stopUnit, poststopService, releaseDeviceResources, releaseDevice,
    ResourceManager.releaseDevice, ResourceManager.removeFromSlice]

end AosServiceManager.Launcher
