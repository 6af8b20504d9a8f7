/-
Module: AosServiceManager.ResourceManager.Capacity
Layer: Proofs
Purpose: Runs of `RequestDevice` and `ReleaseDevice` calls on one broker. What the broker bounds
  is the grant list under each requested name: over every run from `New`, a name that resolves
  to a resource with a positive `SharedCount` never lists more services than that count. The
  number of services holding one declared resource is not bounded: two names that resolve to the
  same resource keep two lists, and a service whose ID occurs inside a listed ID is granted
  without being listed.
Imports: AosServiceManager.ResourceManager.Contract
Trusted boundary: none
Main exports: BrokerCall, ResourceManager.runCalls, ResourceManager.KeyCapacity,
  runCalls_keyCapacity, holders_exceed_sharedCount
-/
import AosServiceManager.ResourceManager.Contract

namespace AosServiceManager.ResourceManager

/-- One call a client makes on the broker. -/
inductive BrokerCall where
  | requestDevice (device serviceID : String)
  | releaseDevice (device serviceID : String)
deriving Repr, DecidableEq

namespace BrokerCall

def device : BrokerCall → String
  | requestDevice device _ | releaseDevice device _ => device

def serviceID : BrokerCall → String
  | requestDevice _ serviceID | releaseDevice _ serviceID => serviceID

/-- The broker's answer and its next state. -/
def apply (rm : ResourceManager) : BrokerCall → GoError × ResourceManager
  | requestDevice device serviceID => rm.requestDevice device serviceID
  | releaseDevice device serviceID => rm.releaseDevice device serviceID

end BrokerCall

/-- The calls of a run, each with the error it returned. -/
def runLog (rm : ResourceManager) : List BrokerCall → List (BrokerCall × GoError)
  | [] => []
  | call :: calls => (call, (call.apply rm).1) :: runLog (call.apply rm).2 calls

/-- The broker after a run. -/
def runCalls (rm : ResourceManager) : List BrokerCall → ResourceManager
  | [] => rm
  | call :: calls => runCalls (call.apply rm).2 calls

/-- `serviceID` holds `r` after a run when its last successful call naming a device that resolves
to `r` was a request. -/
def holds (rm : ResourceManager) (r : DeviceResource) (log : List (BrokerCall × GoError))
    (serviceID : String) : Bool :=
  match (log.filter fun entry => entry.2 = none ∧ entry.1.serviceID = serviceID ∧
      rm.resolve entry.1.device = some r).getLast? with
  | some (.requestDevice _ _, _) => true
  | _ => false

/-! ### The per-name bound -/

/-- Each grant list is bounded by the `SharedCount` of the resource its name resolves to, and a
name that resolves to nothing has no grants. -/
def KeyCapacity (rm : ResourceManager) : Prop :=
  ∀ device, match rm.resolve device with
    | some r => 0 < r.sharedCount → ((rm.deviceWithServices device).length : Int) ≤ r.sharedCount
    | none => rm.deviceWithServices device = []

@[simp] theorem resolve_setDevice (rm : ResourceManager) (key : String) (services : List String) :
    (rm.setDevice key services).resolve = rm.resolve := rfl

theorem removeFromSlice_length_le (arr : List String) (str : String) :
    (removeFromSlice arr str).length ≤ arr.length := by
  induction arr with
  | nil => simp [removeFromSlice]
  | cons a rest ih => unfold removeFromSlice; split_ifs <;> simp; omega

/-- Setting one list keeps the bound when the new list keeps it. -/
theorem KeyCapacity.setDevice {rm : ResourceManager} (bounded : rm.KeyCapacity) {key : String}
    {services : List String} {r : DeviceResource} (resolved : rm.resolve key = some r)
    (fits : 0 < r.sharedCount → (services.length : Int) ≤ r.sharedCount) :
    (rm.setDevice key services).KeyCapacity := by
  intro device
  by_cases same : device = key
  · subst same; simpa [resolved] using fits
  · simpa [Function.update_noteq same] using bounded device

theorem KeyCapacity.requestDevice {rm : ResourceManager} (bounded : rm.KeyCapacity)
    (device serviceID : String) : (rm.requestDevice device serviceID).2.KeyCapacity := by
  by_cases unresolved : rm.availableResources = [] ∨ rm.resolve device = none
  · rw [(requestDevice_of_unresolved rm device serviceID unresolved).1]; exact bounded
  · obtain ⟨declared, resolvedSome⟩ := not_or.1 unresolved
    obtain ⟨r, resolved⟩ := Option.ne_none_iff_exists'.1 resolvedSome
    rw [requestDevice_of_resolve declared resolved]
    split_ifs with room
    · exact bounded
    · refine bounded.setDevice resolved fun positive => ?_
      simp only [List.length_append, List.length_singleton]
      omega
    · exact bounded

theorem KeyCapacity.releaseDevice {rm : ResourceManager} (bounded : rm.KeyCapacity)
    (device serviceID : String) : (rm.releaseDevice device serviceID).2.KeyCapacity := by
  by_cases unresolved : rm.availableResources = [] ∨ rm.resolve device = none
  · rw [(requestDevice_of_unresolved rm device serviceID unresolved).2.2.1]; exact bounded
  · obtain ⟨declared, resolvedSome⟩ := not_or.1 unresolved
    obtain ⟨r, resolved⟩ := Option.ne_none_iff_exists'.1 resolvedSome
    rw [releaseDevice_of_resolve declared resolved]
    split_ifs
    · refine bounded.setDevice resolved fun positive => ?_
      have before := bounded device
      simp only [resolved] at before
      have shorter := removeFromSlice_length_le (rm.deviceWithServices device) serviceID
      have := before positive
      omega
    · exact bounded

theorem KeyCapacity.new (hostDevices hostGroups : List String) (devices : List DeviceResource) :
    (ResourceManager.new hostDevices hostGroups devices).KeyCapacity := by
  intro device
  cases (ResourceManager.new hostDevices hostGroups devices).resolve device with
  | none => rfl
  | some r => exact fun positive => Int.le_of_lt positive

theorem KeyCapacity.runCalls {rm : ResourceManager} (bounded : rm.KeyCapacity) :
    ∀ calls, (rm.runCalls calls).KeyCapacity
  | [] => bounded
  | .requestDevice device serviceID :: calls =>
    KeyCapacity.runCalls (bounded.requestDevice device serviceID) calls
  | .releaseDevice device serviceID :: calls =>
    KeyCapacity.runCalls (bounded.releaseDevice device serviceID) calls

/-- Over every run of requests and releases from `New`, the grant list under a name that resolves
to a resource with positive `SharedCount` never holds more entries than that count, and a name
that resolves to no declared resource holds none. -/
theorem runCalls_keyCapacity (hostDevices hostGroups : List String)
    (devices : List DeviceResource) (calls : List BrokerCall) (device : String) :
    let rm := (ResourceManager.new hostDevices hostGroups devices).runCalls calls
    (∀ r, rm.resolve device = some r → 0 < r.sharedCount →
      ((rm.deviceWithServices device).length : Int) ≤ r.sharedCount) ∧
    (rm.resolve device = none → rm.deviceWithServices device = []) := by
  intro rm
  have bounded := (KeyCapacity.new hostDevices hostGroups devices).runCalls calls device
  refine ⟨fun r resolved => ?_, fun unresolved => ?_⟩ <;> simp_all [rm]

/-! ### Holders of one resource -/

/-- With `SharedCount` 2, the services `ab`, `a` and `c` all hold `cam`: the request by `a` is
answered from `contains`, which finds `a` inside `ab`, so `a` is never listed and `c` still
finds room. -/
theorem holders_exceed_sharedCount :
    (["ab", "a", "c"].filter (holds (ResourceManager.new [] [] [⟨"cam", 2, [], []⟩])
      ⟨"cam", 2, [], []⟩ (runLog (ResourceManager.new [] [] [⟨"cam", 2, [], []⟩])
        [.requestDevice "cam" "ab", .requestDevice "cam" "a", .requestDevice "cam" "c"]))).length =
      3 := by
  decide

/- With `SharedCount` 1, requests under `cam` and `cam0` resolve to the same resource and are
counted in two lists. -/
example :
    (["s1", "s2"].filter (holds (ResourceManager.new [] [] [⟨"cam", 1, [], []⟩])
      ⟨"cam", 1, [], []⟩ (runLog (ResourceManager.new [] [] [⟨"cam", 1, [], []⟩])
        [.requestDevice "cam" "s1", .requestDevice "cam0" "s2"]))).length = 2 := by
  decide

end AosServiceManager.ResourceManager
