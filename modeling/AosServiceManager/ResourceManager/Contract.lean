/-
Module: AosServiceManager.ResourceManager.Contract
Layer: Proofs
Purpose: What `RequestDevice`, `ReleaseDevice` and `validateDeviceResources` do on every broker
  state and every pair of strings. Names resolve by substring (the first declared resource whose
  name occurs in the request), which the source comments as intended; membership in a grant list
  is also a substring test, which `removeFromSlice` next to it does not share. The request and
  release contracts below state the design and leave the cases that only that membership test
  decides open; the validation verdict is characterised exactly, with the substring test it uses.
Imports: AosServiceManager.ResourceManager.Basic
Trusted boundary: none
Main exports: requestDevice_releaseDevice_contract, requestDevice_accepts_unequal_name,
  validateDeviceResources_verdict, validateDeviceResources_accepts_substring_path,
  contains_requestDevice, contains_of_requestDevice_ok
-/
import AosServiceManager.ResourceManager.Basic

namespace AosServiceManager.ResourceManager

/-! ### Membership through `contains` -/

theorem contains_iff (arr : List String) (str : String) :
    contains arr str = true ↔ ∃ a ∈ arr, Go.stringsContains a str = true := by
  simp [contains]

theorem contains_of_mem {arr : List String} {str : String} (member : str ∈ arr) :
    contains arr str = true :=
  (contains_iff arr str).2 ⟨str, member, Go.stringsContains_self str⟩

theorem contains_eq_false {arr : List String} {str : String}
    (absent : ∀ a ∈ arr, Go.stringsContains a str = false) : contains arr str = false := by
  simpa [contains] using absent

/-! ### Requests and releases -/

section Contract

variable (rm : ResourceManager) (device serviceID : String)

/-- A request or release that finds no declaration, or no resource for the name, changes
nothing and fails. -/
theorem requestDevice_of_unresolved
    (unresolved : rm.availableResources = [] ∨ rm.resolve device = none) :
    (rm.requestDevice device serviceID).2 = rm ∧ (rm.requestDevice device serviceID).1 ≠ none ∧
      (rm.releaseDevice device serviceID).2 = rm ∧ (rm.releaseDevice device serviceID).1 ≠ none := by
  rcases unresolved with empty | none_found
  · simp [requestDevice, releaseDevice, isAvailableResourcesChecked, empty]
  · simp only [requestDevice, releaseDevice, getAvailableDeviceByName, none_found]
    split_ifs <;> simp

variable {rm device serviceID}

/-- The request once the name resolved to `r`: the capacity test comes first, membership second. -/
theorem requestDevice_of_resolve {r : DeviceResource} (declared : rm.availableResources ≠ [])
    (resolved : rm.resolve device = some r) :
    rm.requestDevice device serviceID =
      if r.sharedCount = 0 ∨ ((rm.deviceWithServices device).length : Int) < r.sharedCount then
        if contains (rm.deviceWithServices device) serviceID then (none, rm)
        else (none, rm.setDevice device (rm.deviceWithServices device ++ [serviceID]))
      else (some ("device: " ++ device ++ " is unavailable"), rm) := by
  have checked : rm.isAvailableResourcesChecked = true :=
    (isAvailableResourcesChecked_iff rm).2 declared
  simp only [requestDevice, checked, getAvailableDeviceByName, resolved, Bool.not_true,
    Bool.false_eq_true, if_false, gt_iff_lt, Bool.or_eq_true, beq_iff_eq, decide_eq_true_eq]

/-- The release once the name resolved. -/
theorem releaseDevice_of_resolve {r : DeviceResource} (declared : rm.availableResources ≠ [])
    (resolved : rm.resolve device = some r) :
    rm.releaseDevice device serviceID =
      if contains (rm.deviceWithServices device) serviceID then
        (none, rm.setDevice device (removeFromSlice (rm.deviceWithServices device) serviceID))
      else
        (some ("device: " ++ device ++ " was not provided for " ++ serviceID ++ " service"), rm) := by
  have checked : rm.isAvailableResourcesChecked = true :=
    (isAvailableResourcesChecked_iff rm).2 declared
  simp only [releaseDevice, checked, getAvailableDeviceByName, resolved, Bool.not_true,
    Bool.false_eq_true, if_false]

/-- A request keeps every `contains` answer of the grant map: it only appends. -/
theorem contains_requestDevice {key id : String}
    (held : contains (rm.deviceWithServices key) id = true) :
    contains ((rm.requestDevice device serviceID).2.deviceWithServices key) id = true := by
  by_cases unresolved : rm.availableResources = [] ∨ rm.resolve device = none
  · rwa [(requestDevice_of_unresolved rm device serviceID unresolved).1]
  · obtain ⟨declared, resolved⟩ := not_or.1 unresolved
    obtain ⟨r, resolved⟩ := Option.ne_none_iff_exists'.1 resolved
    rw [requestDevice_of_resolve declared resolved]
    split_ifs
    · exact held
    · by_cases same : key = device
      · subst same
        simpa [contains] using Or.inl held
      · simpa [same] using held
    · exact held

/-- After a request that succeeds, `contains` finds the service under the requested name. -/
theorem contains_of_requestDevice_ok (ok : (rm.requestDevice device serviceID).1 = none) :
    contains ((rm.requestDevice device serviceID).2.deviceWithServices device) serviceID = true := by
  by_cases unresolved : rm.availableResources = [] ∨ rm.resolve device = none
  · exact absurd ok (requestDevice_of_unresolved rm device serviceID unresolved).2.1
  · obtain ⟨declared, resolved⟩ := not_or.1 unresolved
    obtain ⟨r, resolved⟩ := Option.ne_none_iff_exists'.1 resolved
    rw [requestDevice_of_resolve declared resolved] at ok ⊢
    split_ifs at ok ⊢ with fits held
    · exact held
    · simpa using contains_of_mem (List.mem_append_right _ (List.mem_singleton_self serviceID))

end Contract

/-- The broker's request and release contract. A name resolves to the first declared resource
whose name occurs in it, and the grant list `L` is the one stored under the requested name.
A request or release fails and changes nothing when nothing is declared or the name does not
resolve. A request by a service not in `L` succeeds exactly when the resource is unlimited or
`L` has room, and changes nothing when it fails; with room, a service that no entry of `L`
contains is appended to `L`, and a service already in `L` changes nothing. A release of a
service in `L` removes its first occurrence and nothing else; a release of a service that no
entry of `L` contains fails and changes nothing. -/
theorem requestDevice_releaseDevice_contract (rm : ResourceManager) (device serviceID : String) :
    let L := rm.deviceWithServices device
    ((rm.availableResources = [] ∨ rm.resolve device = none) →
      (rm.requestDevice device serviceID).2 = rm ∧ (rm.requestDevice device serviceID).1 ≠ none ∧
      (rm.releaseDevice device serviceID).2 = rm ∧ (rm.releaseDevice device serviceID).1 ≠ none) ∧
    ∀ r, rm.availableResources ≠ [] → rm.resolve device = some r →
      let fits := r.sharedCount = 0 ∨ (L.length : Int) < r.sharedCount
      (serviceID ∉ L → ((rm.requestDevice device serviceID).1 = none ↔ fits)) ∧
      ((rm.requestDevice device serviceID).1 ≠ none → (rm.requestDevice device serviceID).2 = rm) ∧
      (fits → (∀ a ∈ L, Go.stringsContains a serviceID = false) →
        rm.requestDevice device serviceID = (none, rm.setDevice device (L ++ [serviceID]))) ∧
      (fits → serviceID ∈ L → rm.requestDevice device serviceID = (none, rm)) ∧
      (serviceID ∈ L → rm.releaseDevice device serviceID =
        (none, rm.setDevice device (removeFromSlice L serviceID))) ∧
      ((∀ a ∈ L, Go.stringsContains a serviceID = false) →
        (rm.releaseDevice device serviceID).2 = rm ∧
        (rm.releaseDevice device serviceID).1 ≠ none) := by
  refine ⟨requestDevice_of_unresolved rm device serviceID, fun r declared resolved => ?_⟩
  rw [requestDevice_of_resolve declared resolved, releaseDevice_of_resolve declared resolved]
  refine ⟨fun _ => ?_, ?_, fun fits absent => ?_, fun fits member => ?_, fun member => ?_,
    fun absent => ?_⟩
  · split_ifs <;> simp_all
  · split_ifs <;> simp_all
  · simp [fits, contains_eq_false absent]
  · simp [fits, contains_of_mem member]
  · simp [contains_of_mem member]
  · simp [contains_eq_false absent]

/-- The spec's `Request(name, instanceID)` "fails with *UnknownDevice* if not declared"; the broker
grants `camera0` against a declaration of `camera` only. -/
theorem requestDevice_accepts_unequal_name :
    let rm := ResourceManager.new [] [] [⟨"camera", 0, [], []⟩]
    (rm.requestDevice "camera0" "service").1 = none ∧
      ∀ r ∈ rm.availableResources, r.name ≠ "camera0" := by
  decide

/-! ### Validation -/

section Validation

/-- A left fold reaches the empty map exactly when it starts there and every step keeps it. -/
theorem foldl_eq_nil_iff {α β : Type} (f : List β → α → List β) (P : α → Prop)
    (step : ∀ e x, f e x = [] ↔ e = [] ∧ P x) :
    ∀ (xs : List α) (e : List β), xs.foldl f e = [] ↔ e = [] ∧ ∀ x ∈ xs, P x
  | [], e => by simp
  | x :: xs, e => by simp [foldl_eq_nil_iff f P step xs, step, and_assoc]

/-- A property every step keeps holds after the whole fold. -/
theorem foldl_keeps {α β : Type} (f : β → α → β) (Q : β → Prop)
    (step : ∀ e x, Q e → Q (f e x)) : ∀ (xs : List α) (e : β), Q e → Q (xs.foldl f e)
  | [], _, holds => holds
  | x :: xs, e, holds => foldl_keeps f Q step xs (f e x) (step e x holds)

theorem appendAt_ne_nil (errors : List (String × List String)) (name reason : String) :
    appendAt errors name reason ≠ [] := by
  cases errors with
  | nil => simp [appendAt]
  | cons entry rest => unfold appendAt; split_ifs <;> simp

@[simp] theorem reasonsOf_nil (key : String) : reasonsOf [] key = [] := rfl

@[simp] theorem reasonsOf_cons (k key : String) (reasons : List String)
    (rest : List (String × List String)) :
    reasonsOf ((k, reasons) :: rest) key = if k = key then reasons else reasonsOf rest key := by
  by_cases h : k = key <;> simp [reasonsOf, h]

theorem reasonsOf_appendAt (errors : List (String × List String)) (name reason key : String) :
    reasonsOf (appendAt errors name reason) key =
      if name = key then reasonsOf errors key ++ [reason] else reasonsOf errors key := by
  induction errors with
  | nil => by_cases h : name = key <;> simp [appendAt, h]
  | cons entry rest ih =>
    obtain ⟨k, reasons⟩ := entry
    by_cases same : k = name
    · subst same
      by_cases h : k = key <;> simp [appendAt, h]
    · by_cases h : k = key
      · subst h; simp [appendAt, same, Ne.symm same]
      · simp [appendAt, same, h, ih]

theorem recordMissing_cons (found : String → Bool) (name : String) (reason : String → String)
    (errors : List (String × List String)) (item : String) (items : List String) :
    recordMissing found name reason errors (item :: items) =
      recordMissing found name reason
        (if found item then errors else appendAt errors name (reason item)) items := rfl

theorem recordMissing_eq_nil_iff (found : String → Bool) (name : String)
    (reason : String → String) (errors : List (String × List String)) (items : List String) :
    recordMissing found name reason errors items = [] ↔
      errors = [] ∧ ∀ item ∈ items, found item = true :=
  foldl_eq_nil_iff _ (fun item => found item = true)
    (fun e item => by by_cases hit : found item = true <;> simp [hit, appendAt_ne_nil]) items errors

theorem mem_reasonsOf_appendAt {errors : List (String × List String)} {name reason key message : String}
    (recorded : message ∈ reasonsOf errors key) :
    message ∈ reasonsOf (appendAt errors name reason) key := by
  rw [reasonsOf_appendAt]
  split_ifs <;> simp [recorded]

/-- A reason once recorded stays recorded. -/
theorem reasonsOf_recordMissing_mono (found : String → Bool) (name : String)
    (reason : String → String) (items : List String) {errors : List (String × List String)}
    {key message : String} (recorded : message ∈ reasonsOf errors key) :
    message ∈ reasonsOf (recordMissing found name reason errors items) key :=
  foldl_keeps _ (fun e => message ∈ reasonsOf e key)
    (fun e item kept => by
      dsimp only at kept ⊢
      split_ifs
      exacts [kept, mem_reasonsOf_appendAt kept]) items errors recorded

/-- Every rejected item leaves its reason under `name`. -/
theorem reason_mem_recordMissing (found : String → Bool) (name : String)
    (reason : String → String) :
    ∀ (items : List String) (errors : List (String × List String)) (item : String),
      item ∈ items → found item = false →
        reason item ∈ reasonsOf (recordMissing found name reason errors items) name
  | [], _, _, member, _ => absurd member (List.not_mem_nil _)
  | head :: items, errors, item, member, rejected => by
    rw [recordMissing_cons]
    rcases List.mem_cons.1 member with rfl | later
    · exact reasonsOf_recordMissing_mono found name reason items
        (by simp [rejected, reasonsOf_appendAt])
    · exact reason_mem_recordMissing found name reason items _ item later rejected

end Validation

/-- Every host device and group of a declared device is found by `contains`. -/
def DeviceFound (rm : ResourceManager) (device : DeviceResource) : Prop :=
  (∀ hostDevice ∈ device.hostDevices, contains rm.hostDevices hostDevice = true) ∧
    ∀ group ∈ device.groups, contains rm.hostGroups group = true

theorem checkDevice_eq_nil_iff (rm : ResourceManager) (errors : List (String × List String))
    (device : DeviceResource) :
    rm.checkDevice errors device = [] ↔ errors = [] ∧ rm.DeviceFound device := by
  simp only [checkDevice, recordMissing_eq_nil_iff, DeviceFound, and_assoc]

theorem deviceErrors_eq_nil_iff (rm : ResourceManager) :
    rm.deviceErrors = [] ↔ ∀ device ∈ rm.availableResources, rm.DeviceFound device := by
  simpa using foldl_eq_nil_iff rm.checkDevice rm.DeviceFound (checkDevice_eq_nil_iff rm)
    rm.availableResources []

/-- The reasons `checkDevice` records for one device survive the rest of the outer loop. -/
theorem reasonsOf_deviceErrors (rm : ResourceManager) (device : DeviceResource)
    (declared : device ∈ rm.availableResources) (message : String)
    (recorded : ∀ errors, message ∈ reasonsOf (rm.checkDevice errors device) device.name) :
    message ∈ reasonsOf rm.deviceErrors device.name := by
  obtain ⟨before, after, split⟩ := List.append_of_mem declared
  rw [deviceErrors, split, List.foldl_append, List.foldl_cons]
  exact foldl_keeps _ (fun e => message ∈ reasonsOf e device.name)
    (fun e d kept => reasonsOf_recordMissing_mono _ _ _ _
      (reasonsOf_recordMissing_mono _ _ _ _ kept)) after _ (recorded _)

/-- `validateDeviceResources` accepts exactly when resources are declared and `contains` finds
every host device and group of every declared device; each one it does not find leaves a reason
under its device's name in the alert map. -/
theorem validateDeviceResources_verdict (rm : ResourceManager) :
    (rm.validateDeviceResources = none ↔
      rm.availableResources ≠ [] ∧ ∀ device ∈ rm.availableResources, rm.DeviceFound device) ∧
    ∀ device ∈ rm.availableResources,
      (∀ hostDevice ∈ device.hostDevices, contains rm.hostDevices hostDevice = false →
        ("device: " ++ hostDevice ++ " is not presented on system") ∈
          reasonsOf rm.deviceErrors device.name) ∧
      (∀ group ∈ device.groups, contains rm.hostGroups group = false →
        (group ++ " group is not presented on system") ∈ reasonsOf rm.deviceErrors device.name) := by
  refine ⟨?_, fun device declared => ⟨fun hostDevice member missing => ?_,
    fun group member missing => ?_⟩⟩
  · rw [← deviceErrors_eq_nil_iff]
    unfold validateDeviceResources
    by_cases empty : rm.availableResources = [] <;>
      simp [isAvailableResourcesChecked, empty, List.length_eq_zero]
  · refine reasonsOf_deviceErrors rm device declared _ fun errors => ?_
    exact reasonsOf_recordMissing_mono _ _ _ _
      (reason_mem_recordMissing _ _ _ _ errors hostDevice member missing)
  · exact reasonsOf_deviceErrors rm device declared _ fun errors =>
      reason_mem_recordMissing _ _ _ _ _ group member missing

/-- Validation compares by substring: a declared `/dev/video` passes against a host that only
has `/dev/video0`. -/
theorem validateDeviceResources_accepts_substring_path :
    (ResourceManager.new ["/dev/video0"] []
        [⟨"camera", 0, [], ["/dev/video"]⟩]).validateDeviceResources = none ∧
      "/dev/video" ∉
        (ResourceManager.new ["/dev/video0"] [] [⟨"camera", 0, [], ["/dev/video"]⟩]).hostDevices := by
  decide

end AosServiceManager.ResourceManager
