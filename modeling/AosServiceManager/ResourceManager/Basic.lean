/-
Module: AosServiceManager.ResourceManager.Basic
Layer: Core
Purpose: The device resource broker of package `resourcemanager` (src/unnamed/part_007): the
  declared device classes, the grant map from a requested device name to the service IDs that
  hold it, and `RequestDevice`, `ReleaseDevice` and `validateDeviceResources` as the code computes
  them. Discovering host devices and groups reads the file system; both lists are inputs here.
Imports: AosServiceManager.Go.Basic
Trusted boundary: none
Main exports: DeviceResource, ResourceManager, ResourceManager.requestDevice,
  ResourceManager.releaseDevice, ResourceManager.validateDeviceResources
-/
import AosServiceManager.Go.Basic

namespace AosServiceManager

/-!
Every name comparison of the broker goes through `strings.Contains`:

* `getAvailableDeviceByName(name)` returns the first declared resource whose `Name` occurs in
  the requested `name` (part_007:476-485);
* `contains(arr, str)` asks whether `str` occurs in some element of `arr` (part_007:487-495),
  while `removeFromSlice` removes the first element equal to `str` (part_007:497-506).

The grant map `deviceWithServices` is keyed by the name the caller passed, not by the name of
the resource it resolved to (part_007:279, 292, 323, 332).
-/

/-- `DeviceResource` (part_007:195-200): one declared device class. -/
structure DeviceResource where
  name : String
  sharedCount : Int
  groups : List String
  hostDevices : List String
deriving Repr, DecidableEq

/-- `ResourceManager` (part_007:184-192). A key missing from the Go map reads as the empty slice,
so the grant map is a total function. -/
structure ResourceManager where
  deviceWithServices : String → List String
  hostDevices : List String
  hostGroups : List String
  availableResources : List DeviceResource
  areResourcesValid : GoError

namespace ResourceManager

/-- `contains` (part_007:487-495): some element of `arr` contains `str`. -/
def contains (arr : List String) (str : String) : Bool :=
  arr.any fun a => Go.stringsContains a str

/-- `removeFromSlice` (part_007:497-506): drop the first element equal to `str`. -/
def removeFromSlice : List String → String → List String
  | [], _ => []
  | a :: rest, str => if a = str then rest else a :: removeFromSlice rest str

/-- `isAvailableResourcesChecked` (part_007:472-474). -/
def isAvailableResourcesChecked (rm : ResourceManager) : Bool :=
  rm.availableResources.length != 0

/-- The loop of `getAvailableDeviceByName` (part_007:478-482): the first declared resource whose
name occurs in `name`. -/
def resolve (rm : ResourceManager) (name : String) : Option DeviceResource :=
  rm.availableResources.find? fun deviceResource => Go.stringsContains name deviceResource.name

/-- `getAvailableDeviceByName` (part_007:476-485). -/
def getAvailableDeviceByName (rm : ResourceManager) (name : String) :
    Except String DeviceResource :=
  match rm.resolve name with
  | some deviceResource => .ok deviceResource
  | none => .error "device is not presented at available resources"

/-- The grant map after `key` is set to `services`. -/
def setDevice (rm : ResourceManager) (key : String) (services : List String) : ResourceManager :=
  { rm with deviceWithServices := Function.update rm.deviceWithServices key services }

@[simp] theorem setDevice_deviceWithServices (rm : ResourceManager) (key : String)
    (services : List String) :
    (rm.setDevice key services).deviceWithServices =
      Function.update rm.deviceWithServices key services := rfl

@[simp] theorem setDevice_availableResources (rm : ResourceManager) (key : String)
    (services : List String) :
    (rm.setDevice key services).availableResources = rm.availableResources := rfl

@[simp] theorem isAvailableResourcesChecked_iff (rm : ResourceManager) :
    rm.isAvailableResourcesChecked = true ↔ rm.availableResources ≠ [] := by
  simp [isAvailableResourcesChecked]

/-- `RequestDevice` (part_007:257-301). -/
def requestDevice (rm : ResourceManager) (device serviceID : String) :
    GoError × ResourceManager :=
  if !rm.isAvailableResourcesChecked then
    (some "resource configuration is not provided", rm)
  else
    match rm.getAvailableDeviceByName device with
    | .error err => (some err, rm)
    | .ok deviceResource =>
      let listOfServices := rm.deviceWithServices device
      if deviceResource.sharedCount == 0 ||
          decide (deviceResource.sharedCount > listOfServices.length) then
        if contains listOfServices serviceID then (none, rm)
        else (none, rm.setDevice device (listOfServices ++ [serviceID]))
      else
        (some ("device: " ++ device ++ " is unavailable"), rm)

/-- `ReleaseDevice` (part_007:303-340). -/
def releaseDevice (rm : ResourceManager) (device serviceID : String) :
    GoError × ResourceManager :=
  if !rm.isAvailableResourcesChecked then
    (some "resource configuration is not provided", rm)
  else
    match rm.getAvailableDeviceByName device with
    | .error err => (some err, rm)
    | .ok _ =>
      let listOfServices := rm.deviceWithServices device
      if contains listOfServices serviceID then
        (none, rm.setDevice device (removeFromSlice listOfServices serviceID))
      else
        (some ("device: " ++ device ++ " was not provided for " ++ serviceID ++ " service"), rm)

/-- `deviceErrors[name] = append(deviceErrors[name], reason)` on a Go map whose keys are kept in
insertion order. -/
def appendAt : List (String × List String) → String → String → List (String × List String)
  | [], name, reason => [(name, [reason])]
  | (key, reasons) :: rest, name, reason =>
    if key = name then (key, reasons ++ [reason]) :: rest
    else (key, reasons) :: appendAt rest name reason

/-- The reasons recorded under `name`. -/
def reasonsOf (errors : List (String × List String)) (name : String) : List String :=
  ((errors.find? fun entry => entry.1 = name).map Prod.snd).getD []

/-- One inner loop of `validateDeviceResources` (part_007:438-450): a reason under `name` for
every item that `found` rejects. -/
def recordMissing (found : String → Bool) (name : String) (reason : String → String)
    (errors : List (String × List String)) (items : List String) :
    List (String × List String) :=
  items.foldl (fun errors item =>
    if found item then errors else appendAt errors name (reason item)) errors

/-- One iteration of the outer loop of `validateDeviceResources` (part_007:436-452): the host
devices of `device`, then its groups. -/
def checkDevice (rm : ResourceManager) (errors : List (String × List String))
    (device : DeviceResource) : List (String × List String) :=
  let errors := recordMissing (contains rm.hostDevices) device.name
    (fun availableHostDevice => "device: " ++ availableHostDevice ++ " is not presented on system")
    errors device.hostDevices
  recordMissing (contains rm.hostGroups) device.name
    (fun additionalGroup => additionalGroup ++ " group is not presented on system")
    errors device.groups

/-- The `deviceErrors` map built by `validateDeviceResources` and sent in its alert. -/
def deviceErrors (rm : ResourceManager) : List (String × List String) :=
  rm.availableResources.foldl rm.checkDevice []

/-- `validateDeviceResources` (part_007:417-470). -/
def validateDeviceResources (rm : ResourceManager) : GoError :=
  if !rm.isAvailableResourcesChecked then some "resource configuration is not provided"
  else if rm.deviceErrors.length != 0 then some "device resources are not valid"
  else none

/-- `New` (part_007:211-235) after discovery and parsing: an empty grant map and the cached
verdict of `validateDeviceResources`. -/
def new (hostDevices hostGroups : List String) (devices : List DeviceResource) :
    ResourceManager :=
  let rm : ResourceManager :=
    { deviceWithServices := fun _ => []
      hostDevices := hostDevices
      hostGroups := hostGroups
      availableResources := devices
      areResourcesValid := none }
  { rm with areResourcesValid := rm.validateDeviceResources }

end ResourceManager

end AosServiceManager
