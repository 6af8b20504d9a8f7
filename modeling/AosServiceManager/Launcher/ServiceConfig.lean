/-
Module: AosServiceManager.Launcher.ServiceConfig
Layer: Core and Proofs
Purpose: The edits of a service's runtime spec in spec.go (part_005:161-349, 479-501).
  `addRlimit` and `addStorageFolder` replace the first entry that has the new entry's key, or
  append it; `removeStorageFolder` drops every storage mount; `applyAosServiceConfig` copies the
  hostname, the sysctl table and the quotas of the Aos service config into the spec; and
  `addHostDevice` adds the devices `addDevices` finds, each with a cgroup rule that allows it.
  Replacing the first entry of a key makes the new entry the one a lookup of that key finds and
  leaves every other key's entries alone: the rlimit table after `applyAosServiceConfig` is the
  old one with the configured `RLIMIT_NPROC` and `RLIMIT_NOFILE`, and over any run of storage
  edits the spec holds the mount of the last folder added since the last removal, and no other.
  The CPU quota is `1000 * CPULimit` up to `CPULimit = 184467440737095`; past it the `uint64`
  product `defaultCPUPeriod * CPULimit` wraps and the quota is smaller.
Imports: AosServiceManager.Launcher.HostDevices, AosServiceManager.Pbconvert.InstanceIdent
Trusted boundary: json.Unmarshal of the Aos service config and filepath.Abs, given by what they
  return; the walk of `addDevices` as modelled in Launcher.HostDevices.
Main exports: OciSpec, AosServiceConfig, setOrAppend, addRlimit, addStorageFolder,
  removeStorageFolder, applyAosServiceConfig, addHostDevice, find?_setOrAppend,
  storage_runs_keep_last_folder, applyAosServiceConfig_rlimits, cpuQuota_eq_iff,
  addHostDevice_adds_reached_devices
-/
import AosServiceManager.Launcher.HostDevices
import AosServiceManager.Pbconvert.InstanceIdent

namespace AosServiceManager.Launcher

open AosServiceManager.Go

/-! ### The spec -/

/-- `serviceStorageFolder` (part_005:47). -/
def serviceStorageFolder : String := "/home/service/storage"

/-- `defaultCPUPeriod` (part_005:48). -/
def defaultCPUPeriod : UInt64 := 100000

/-- `runtimespec.POSIXRlimit`. -/
structure POSIXRlimit where
  type : String
  hard : UInt64
  soft : UInt64
deriving Repr, DecidableEq

/-- `runtimespec.Mount`. -/
structure Mount where
  destination : String
  type : String
  source : String
  options : List String
deriving Repr, DecidableEq

/-- The `Limit` of `runtimespec.LinuxMemory`. -/
structure LinuxMemory where
  limit : Option Int
deriving Repr, DecidableEq

/-- `runtimespec.LinuxPids`. -/
structure LinuxPids where
  limit : Int
deriving Repr, DecidableEq

/-- The `Period` and `Quota` of `runtimespec.LinuxCPU`. -/
structure LinuxCPU where
  period : Option UInt64
  quota : Option Int
deriving Repr, DecidableEq

/-- `runtimespec.LinuxDeviceCgroup`. -/
structure LinuxDeviceCgroup where
  allow : Bool
  type : String
  major : Option Int
  minor : Option Int
  access : String
deriving Repr, DecidableEq

/-- The fields of `runtimespec.LinuxResources` that the edits write. -/
structure LinuxResources where
  devices : List LinuxDeviceCgroup
  memory : Option LinuxMemory
  pids : Option LinuxPids
  cpu : Option LinuxCPU
deriving Repr, DecidableEq

/-- The fields of `serviceSpec.ocSpec` that the edits write: `Hostname`, `Process.Rlimits`,
`Mounts`, and of `Linux` the `Sysctl` table, the `Devices` and the `Resources`. -/
structure OciSpec where
  hostname : String
  rlimits : List POSIXRlimit
  mounts : List Mount
  sysctl : List (String × String)
  devices : List LinuxDevice
  resources : LinuxResources
deriving Repr, DecidableEq

/-- The quotas of `aosServiceConfig` (part_005:66-79) that `applyAosServiceConfig` reads. -/
structure Quotas where
  ramLimit : Option Int
  pidsLimit : Option Int
  noFileLimit : Option UInt64
  cpuLimit : Option UInt64
  tmpLimit : Option UInt64
deriving Repr, DecidableEq

/-- The fields of `aosServiceConfig` (part_005:60-86) that `applyAosServiceConfig` reads. -/
structure AosServiceConfig where
  hostname : Option String
  sysctl : Option (List (String × String))
  quotas : Quotas
deriving Repr, DecidableEq

/-! ### The edits -/

/-- Replace the first entry with the key of `x` by `x`, or append `x` when there is none: the
loops of `addRlimit` and `addStorageFolder`. -/
def setOrAppend {α : Type} (key : α → String) (x : α) : List α → List α
  | [] => [x]
  | y :: ys => if key y = key x then x :: ys else y :: setOrAppend key x ys

/-- `addRlimit` (part_005:236-246). -/
def addRlimit (rlimit : POSIXRlimit) (spec : OciSpec) : OciSpec :=
  { spec with rlimits := setOrAppend POSIXRlimit.type rlimit spec.rlimits }

/-- The mount `addStorageFolder` writes for the absolute folder path. -/
def storageMount (absStorageFolder : String) : Mount :=
  ⟨serviceStorageFolder, "bind", absStorageFolder, ["bind", "rw"]⟩

/-- `addStorageFolder` (part_005:302-332); `abs` is what `filepath.Abs(storageFolder)` returns. -/
def addStorageFolder (abs : Except String String) (spec : OciSpec) : GoError × OciSpec :=
  match abs with
  | .error err => (some err, spec)
  | .ok absStorageFolder =>
    (none, { spec with
      mounts := setOrAppend Mount.destination (storageMount absStorageFolder) spec.mounts })

/-- `removeStorageFolder` (part_005:334-349), whose error is always `nil`. -/
def removeStorageFolder (spec : OciSpec) : OciSpec :=
  { spec with mounts := spec.mounts.filter (·.destination ≠ serviceStorageFolder) }

/-- `int64((defaultCPUPeriod * cpuLimit) / 100)`: the product and the quotient in `uint64`. -/
def cpuQuota (cpuLimit : UInt64) : Int :=
  Go.int64 ((defaultCPUPeriod * cpuLimit) / 100).toNat

/-- The `/tmp` mount of a `TmpLimit` (part_005:221-228). -/
def tmpMount (tmpLimit : UInt64) : Mount :=
  ⟨"/tmp", "tmpfs", "tmpfs",
    ["nosuid", "strictatime", "mode=1777", "size=" ++ toString tmpLimit.toNat]⟩

/-- `Hostname` (part_005:171-173). -/
def applyHostname (config : AosServiceConfig) (spec : OciSpec) : OciSpec :=
  match config.hostname with
  | some hostname => { spec with hostname := hostname }
  | none => spec

/-- `Sysctl` (part_005:175-177). -/
def applySysctl (config : AosServiceConfig) (spec : OciSpec) : OciSpec :=
  match config.sysctl with
  | some sysctl => { spec with sysctl := sysctl }
  | none => spec

/-- `Quotas.RAMLimit` (part_005:179-185). -/
def applyRAMLimit (config : AosServiceConfig) (spec : OciSpec) : OciSpec :=
  match config.quotas.ramLimit with
  | some ramLimit => { spec with resources := { spec.resources with
      memory := some { spec.resources.memory.getD ⟨none⟩ with limit := some ramLimit } } }
  | none => spec

/-- `Quotas.PidsLimit` (part_005:187-199), with its `RLIMIT_NPROC` rlimit. -/
def applyPidsLimit (config : AosServiceConfig) (spec : OciSpec) : OciSpec :=
  match config.quotas.pidsLimit with
  | some pidsLimit =>
    addRlimit ⟨"RLIMIT_NPROC", Pbconvert.uint64OfInt64 pidsLimit,
        Pbconvert.uint64OfInt64 pidsLimit⟩
      { spec with resources := { spec.resources with
        pids := some { spec.resources.pids.getD ⟨0⟩ with limit := pidsLimit } } }
  | none => spec

/-- `Quotas.NoFileLimit` (part_005:201-207). -/
def applyNoFileLimit (config : AosServiceConfig) (spec : OciSpec) : OciSpec :=
  match config.quotas.noFileLimit with
  | some noFileLimit => addRlimit ⟨"RLIMIT_NOFILE", noFileLimit, noFileLimit⟩ spec
  | none => spec

/-- `Quotas.CPULimit` (part_005:209-219). -/
def applyCPULimit (config : AosServiceConfig) (spec : OciSpec) : OciSpec :=
  match config.quotas.cpuLimit with
  | some cpuLimit => { spec with resources := { spec.resources with
      cpu := some { spec.resources.cpu.getD ⟨none, none⟩ with
        period := some defaultCPUPeriod, quota := some (cpuQuota cpuLimit) } } }
  | none => spec

/-- `Quotas.TmpLimit` (part_005:221-231). -/
def applyTmpLimit (config : AosServiceConfig) (spec : OciSpec) : OciSpec :=
  match config.quotas.tmpLimit with
  | some tmpLimit => { spec with mounts := spec.mounts ++ [tmpMount tmpLimit] }
  | none => spec

/-- The edits of `applyAosServiceConfig` with the decoded config (part_005:171-231), in order. -/
def applyConfig (config : AosServiceConfig) (spec : OciSpec) : OciSpec :=
  applyTmpLimit config <| applyCPULimit config <| applyNoFileLimit config <|
    applyPidsLimit config <| applyRAMLimit config <| applySysctl config <| applyHostname config spec

/-- `applyAosServiceConfig` (part_005:161-234); `decoded` is how `getJSONFromFile(path, ...)`
ends. -/
def applyAosServiceConfig (path : String) (decoded : Except String AosServiceConfig)
    (spec : OciSpec) : GoError × OciSpec :=
  if path = "" then (none, spec)
  else match decoded with
    | .error err => (some err, spec)
    | .ok config => (none, applyConfig config spec)

/-- The cgroup rule `addHostDevice` adds for a device (part_005:490-496). -/
def allowRule (device : LinuxDevice) : LinuxDeviceCgroup :=
  ⟨true, device.type, some device.major, some device.minor, "rwm"⟩

/-- `addHostDevice` (part_005:479-501), with `addDevices` as the walk within 4096 levels. -/
def addHostDevice (fs : HostFs) (deviceName : String) (spec : OciSpec) :
    Option (GoError × OciSpec) :=
  (addDevicesWithin fs 4096 deviceName).map fun
    | .error err => (some err, spec)
    | .ok specDevices => (none, { spec with
        devices := spec.devices ++ specDevices,
        resources := { spec.resources with
          devices := spec.resources.devices ++ specDevices.map allowRule } })

/-! ### Replacing the first entry of a key -/

section SetOrAppend

variable {α : Type} (key : α → String) (x : α)

theorem mem_setOrAppend {z : α} : ∀ {l : List α}, z ∈ setOrAppend key x l →
    z = x ∨ z ∈ l
  | [], member => .inl (List.mem_singleton.1 member)
  | y :: ys, member => by
    unfold setOrAppend at member
    split_ifs at member
    · exact (List.mem_cons.1 member).imp_right (List.mem_cons_of_mem _)
    · rcases List.mem_cons.1 member with rfl | later
      · exact .inr (List.mem_cons_self _ _)
      · exact (mem_setOrAppend later).imp_right (List.mem_cons_of_mem _)

/-- A lookup of the new entry's key finds the new entry; a lookup of another key finds what it
found before. -/
theorem find?_setOrAppend (k : String) : ∀ l : List α,
    (setOrAppend key x l).find? (key · = k) = if key x = k then some x else l.find? (key · = k)
  | [] => by by_cases same : key x = k <;> simp [setOrAppend, same]
  | y :: ys => by
    by_cases hit : key y = key x
    · by_cases same : key x = k <;> simp [setOrAppend, hit, same]
    · rw [setOrAppend, if_neg hit, List.find?_cons, List.find?_cons, find?_setOrAppend k ys]
      by_cases same : key x = k
      · simp [same, show key y ≠ k from same ▸ hit]
      · simp [same]

/-- The entries of other keys are those there were, in the same order. -/
theorem filter_setOrAppend_other : ∀ l : List α,
    (setOrAppend key x l).filter (key · ≠ key x) = l.filter (key · ≠ key x)
  | [] => by simp [setOrAppend]
  | y :: ys => by
    by_cases hit : key y = key x
    · simp [setOrAppend, hit]
    · simp only [setOrAppend, if_neg hit, List.filter_cons, filter_setOrAppend_other ys]

/-- Where at most one entry has the new entry's key, the new entry is then the only one. -/
theorem filter_setOrAppend_self : ∀ l : List α, (l.filter (key · = key x)).length ≤ 1 →
    (setOrAppend key x l).filter (key · = key x) = [x]
  | [], _ => by simp [setOrAppend]
  | y :: ys, single => by
    by_cases hit : key y = key x
    · have none : ys.filter (key · = key x) = [] := by
        rw [List.filter_cons, if_pos (decide_eq_true hit), List.length_cons] at single
        exact List.length_eq_zero.1 (by omega)
      simp [setOrAppend, hit, none]
    · rw [List.filter_cons, if_neg (by simpa using hit)] at single
      simp [setOrAppend, hit, filter_setOrAppend_self ys single]

/-- With distinct keys, keys stay distinct. -/
theorem nodup_setOrAppend : ∀ l : List α, (l.map key).Nodup →
    ((setOrAppend key x l).map key).Nodup
  | [], _ => List.nodup_cons.2 ⟨List.not_mem_nil _, List.nodup_nil⟩
  | y :: ys, distinct => by
    rw [List.map_cons, List.nodup_cons] at distinct
    by_cases hit : key y = key x
    · rw [setOrAppend, if_pos hit, List.map_cons, List.nodup_cons, ← hit]
      exact distinct
    · rw [setOrAppend, if_neg hit, List.map_cons, List.nodup_cons]
      refine ⟨fun member => ?_, nodup_setOrAppend ys distinct.2⟩
      obtain ⟨z, inNew, same⟩ := List.mem_map.1 member
      rcases mem_setOrAppend key x inNew with rfl | old
      · exact hit same.symm
      · exact distinct.1 (same ▸ List.mem_map_of_mem key old)

end SetOrAppend

/-! ### Storage runs against one storage slot -/

/-- The storage edits of a spec. -/
inductive StorageCall where
  | add (abs : Except String String)
  | remove

/-- One storage edit on the spec. -/
def StorageCall.run : StorageCall → OciSpec → OciSpec
  | .add abs, spec => (addStorageFolder abs spec).2
  | .remove, spec => removeStorageFolder spec

/-- The spec after a sequence of storage edits. -/
def runStorageCalls (calls : List StorageCall) (spec : OciSpec) : OciSpec :=
  calls.foldl (fun spec call => call.run spec) spec

/-- What a storage edit should do to the one storage slot of a spec: an add whose path resolves
puts that folder's mount in it, an add whose path does not leaves it, a removal empties it. -/
def StorageCall.slot : StorageCall → Option Mount → Option Mount
  | .add (.ok absStorageFolder), _ => some (storageMount absStorageFolder)
  | .add (.error _), slot => slot
  | .remove, _ => none

/-- The slot after a sequence of storage edits. -/
def storageSlot (calls : List StorageCall) (slot : Option Mount) : Option Mount :=
  calls.foldl (fun slot call => call.slot slot) slot

/-- The mounts of a spec at `serviceStorageFolder`. -/
def storageMounts (spec : OciSpec) : List Mount :=
  spec.mounts.filter (·.destination = serviceStorageFolder)

/-- The other mounts of a spec. -/
def otherMounts (spec : OciSpec) : List Mount :=
  spec.mounts.filter (·.destination ≠ serviceStorageFolder)

/-- One edit moves the storage mounts as it moves the slot, keeps the other mounts, and changes
nothing of the spec but its mounts. -/
theorem StorageCall.run_storage (call : StorageCall) {spec : OciSpec} {slot : Option Mount}
    (held : storageMounts spec = slot.toList) :
    storageMounts (call.run spec) = (call.slot slot).toList ∧
      otherMounts (call.run spec) = otherMounts spec ∧
      { call.run spec with mounts := spec.mounts } = spec := by
  cases call with
  | add abs =>
    cases abs with
    | error err => exact ⟨held, rfl, rfl⟩
    | ok absStorageFolder =>
      have single : (storageMounts spec).length ≤ 1 := by rw [held]; cases slot <;> simp
      exact ⟨filter_setOrAppend_self Mount.destination (storageMount absStorageFolder)
          spec.mounts single,
        filter_setOrAppend_other Mount.destination (storageMount absStorageFolder) spec.mounts,
        rfl⟩
  | remove =>
    refine ⟨?_, ?_, rfl⟩
    · simp [storageMounts, StorageCall.run, removeStorageFolder, StorageCall.slot,
        List.filter_filter]
    · simp [otherMounts, StorageCall.run, removeStorageFolder, List.filter_filter]

theorem runStorageCalls_storage : ∀ (calls : List StorageCall) {spec : OciSpec}
    {slot : Option Mount}, storageMounts spec = slot.toList →
    storageMounts (runStorageCalls calls spec) = (storageSlot calls slot).toList ∧
      otherMounts (runStorageCalls calls spec) = otherMounts spec ∧
      { runStorageCalls calls spec with mounts := spec.mounts } = spec
  | [], _, _, held => ⟨held, rfl, rfl⟩
  | call :: calls, spec, _, held => by
    obtain ⟨held', others, frame⟩ := call.run_storage held
    obtain ⟨heldAfter, othersAfter, frameAfter⟩ := runStorageCalls_storage calls held'
    refine ⟨heldAfter, othersAfter.trans others, ?_⟩
    calc { runStorageCalls calls (call.run spec) with mounts := spec.mounts }
        = { { runStorageCalls calls (call.run spec) with mounts := (call.run spec).mounts } with
            mounts := spec.mounts } := rfl
      _ = { call.run spec with mounts := spec.mounts } := by rw [frameAfter]
      _ = spec := frame

/-- Over every run of storage edits from a spec with at most one storage mount, the spec holds
exactly the mount in the slot: the mount of the last folder added since the last removal, or
the one it had. Its other mounts stay as they were, and nothing else of it changes. -/
theorem storage_runs_keep_last_folder (calls : List StorageCall) (spec : OciSpec)
    (single : (storageMounts spec).length ≤ 1) :
    storageMounts (runStorageCalls calls spec) =
        (storageSlot calls (storageMounts spec).head?).toList ∧
      otherMounts (runStorageCalls calls spec) = otherMounts spec ∧
      { runStorageCalls calls spec with mounts := spec.mounts } = spec := by
  refine runStorageCalls_storage calls ?_
  match storageMounts spec, single with
  | [], _ => rfl
  | [_], _ => rfl

/-- A spec that already mounts a storage folder read-only: a failed add keeps it, an add
replaces it, a removal drops it, and a last add mounts the new folder. -/
theorem storage_runs_keep_last_folder_on_readonly_storage :
    let spec : OciSpec := ⟨"", [],
      [⟨"/proc", "proc", "proc", []⟩, ⟨serviceStorageFolder, "bind", "/old", ["bind", "ro"]⟩],
      [], [], ⟨[], none, none, none⟩⟩
    let calls := [.add (.error "getwd: no such file or directory"),
      .add (.ok "/var/aos/storage/a"), .remove, .add (.ok "/var/aos/storage/b")]
    (storageMounts spec).length ≤ 1 ∧
      storageMounts (runStorageCalls calls spec) =
        (storageSlot calls (storageMounts spec).head?).toList ∧
      otherMounts (runStorageCalls calls spec) = otherMounts spec ∧
      { runStorageCalls calls spec with mounts := spec.mounts } = spec :=
  ⟨by decide, storage_runs_keep_last_folder _ _ (by decide)⟩

/-! ### The rlimits of `applyAosServiceConfig` -/

/-- The rlimit of a type: the first entry of that type, the only one while types are distinct. -/
def rlimitOf (spec : OciSpec) (type : String) : Option POSIXRlimit :=
  spec.rlimits.find? (·.type = type)

/-- The rlimit the config sets for a type, if it sets one: `NoFileLimit` for `RLIMIT_NOFILE`,
`PidsLimit` as a `uint64` for `RLIMIT_NPROC`. -/
def configRlimit (config : AosServiceConfig) (type : String) : Option POSIXRlimit :=
  if type = "RLIMIT_NOFILE" then
    config.quotas.noFileLimit.map fun noFileLimit => ⟨"RLIMIT_NOFILE", noFileLimit, noFileLimit⟩
  else if type = "RLIMIT_NPROC" then
    config.quotas.pidsLimit.map fun pidsLimit =>
      ⟨"RLIMIT_NPROC", Pbconvert.uint64OfInt64 pidsLimit, Pbconvert.uint64OfInt64 pidsLimit⟩
  else none

theorem rlimitOf_addRlimit (rlimit : POSIXRlimit) (spec : OciSpec) (type : String) :
    rlimitOf (addRlimit rlimit spec) type =
      if type = rlimit.type then some rlimit else rlimitOf spec type := by
  simp only [rlimitOf, addRlimit, find?_setOrAppend, @eq_comm _ rlimit.type type]

theorem nodup_addRlimit (rlimit : POSIXRlimit) {spec : OciSpec}
    (distinct : (spec.rlimits.map POSIXRlimit.type).Nodup) :
    ((addRlimit rlimit spec).rlimits.map POSIXRlimit.type).Nodup :=
  nodup_setOrAppend POSIXRlimit.type rlimit spec.rlimits distinct

/-- The edits before `PidsLimit` and after `NoFileLimit` leave the rlimits. -/
theorem applyConfig_rlimits (config : AosServiceConfig) (spec : OciSpec) :
    (applyConfig config spec).rlimits =
      (applyNoFileLimit config (applyPidsLimit config spec)).rlimits := by
  have tmp : ∀ spec, (applyTmpLimit config spec).rlimits = spec.rlimits := fun spec => by
    unfold applyTmpLimit; split <;> rfl
  have cpu : ∀ spec, (applyCPULimit config spec).rlimits = spec.rlimits := fun spec => by
    unfold applyCPULimit; split <;> rfl
  have pids : ∀ spec spec', spec.rlimits = spec'.rlimits →
      (applyPidsLimit config spec).rlimits = (applyPidsLimit config spec').rlimits :=
    fun spec spec' same => by unfold applyPidsLimit addRlimit; split <;> simp [same]
  have ram : (applyRAMLimit config (applySysctl config (applyHostname config spec))).rlimits =
      spec.rlimits := by
    unfold applyRAMLimit applySysctl applyHostname
    split <;> split <;> split <;> rfl
  rw [applyConfig, tmp, cpu]
  unfold applyNoFileLimit addRlimit
  split <;> simp [pids _ _ ram]

/-- The rlimit of a type after the config's edits: the config's where it sets one, the old one
elsewhere. -/
theorem rlimitOf_applyConfig (config : AosServiceConfig) (spec : OciSpec) (type : String) :
    rlimitOf (applyConfig config spec) type =
      (configRlimit config type).or (rlimitOf spec type) := by
  have pidsStep : rlimitOf (applyPidsLimit config spec) type =
      (if type = "RLIMIT_NPROC" then configRlimit config type else none).or
        (rlimitOf spec type) := by
    unfold applyPidsLimit
    split
    · rw [rlimitOf_addRlimit]
      by_cases nproc : type = "RLIMIT_NPROC" <;> simp_all [configRlimit, rlimitOf]
    · by_cases nproc : type = "RLIMIT_NPROC" <;> simp_all [configRlimit]
  rw [rlimitOf, applyConfig_rlimits, ← rlimitOf]
  unfold applyNoFileLimit
  split
  · rw [rlimitOf_addRlimit, pidsStep]
    by_cases nofile : type = "RLIMIT_NOFILE" <;> simp_all [configRlimit]
  · rw [pidsStep]
    by_cases nofile : type = "RLIMIT_NOFILE" <;> simp_all [configRlimit]

theorem nodup_applyConfig (config : AosServiceConfig) {spec : OciSpec}
    (distinct : (spec.rlimits.map POSIXRlimit.type).Nodup) :
    ((applyConfig config spec).rlimits.map POSIXRlimit.type).Nodup := by
  have pids : ((applyPidsLimit config spec).rlimits.map POSIXRlimit.type).Nodup := by
    unfold applyPidsLimit
    split
    · exact nodup_addRlimit _ distinct
    · exact distinct
  rw [applyConfig_rlimits]
  unfold applyNoFileLimit
  split
  · exact nodup_addRlimit _ pids
  · exact pids

/-- With a path and a config that decodes, `applyAosServiceConfig` leaves for every type the
config's rlimit where the config sets one and the old one elsewhere, and keeps rlimit types
distinct. -/
theorem applyAosServiceConfig_rlimits (path : String) (config : AosServiceConfig)
    (spec : OciSpec) (named : path ≠ "") :
    (∀ type, rlimitOf (applyAosServiceConfig path (.ok config) spec).2 type =
      (configRlimit config type).or (rlimitOf spec type)) ∧
    ((spec.rlimits.map POSIXRlimit.type).Nodup →
      ((applyAosServiceConfig path (.ok config) spec).2.rlimits.map POSIXRlimit.type).Nodup) := by
  rw [applyAosServiceConfig, if_neg named]
  exact ⟨rlimitOf_applyConfig config spec, nodup_applyConfig config⟩

/-- A config with `NoFileLimit` 1024 and `PidsLimit` -1 on a spec with runc's `RLIMIT_NOFILE`:
the file limit is replaced, and the process limit is appended as `2^64 - 1`. -/
theorem applyAosServiceConfig_rlimits_on_negative_pids :
    let config : AosServiceConfig := ⟨none, none, ⟨none, some (-1), some 1024, none, none⟩⟩
    let spec : OciSpec := ⟨"runc", [⟨"RLIMIT_NOFILE", 1024, 1024⟩], [], [], [],
      ⟨[], none, none, none⟩⟩
    "config.json" ≠ "" ∧
      ((∀ type, rlimitOf (applyAosServiceConfig "config.json" (.ok config) spec).2 type =
        (configRlimit config type).or (rlimitOf spec type)) ∧
      ((spec.rlimits.map POSIXRlimit.type).Nodup →
        ((applyAosServiceConfig "config.json" (.ok config) spec).2.rlimits.map
          POSIXRlimit.type).Nodup)) :=
  ⟨by decide, applyAosServiceConfig_rlimits _ _ _ (by decide)⟩

example : configRlimit ⟨none, none, ⟨none, some (-1), none, none, none⟩⟩ "RLIMIT_NPROC" =
    some ⟨"RLIMIT_NPROC", 18446744073709551615, 18446744073709551615⟩ := by decide

/-! ### The CPU quota -/

/-- The quota is `CPULimit` percent of the period, `1000 * CPULimit`, exactly up to
`184467440737095`; past it `defaultCPUPeriod * CPULimit` wraps in `uint64` and the quota is
smaller. -/
theorem cpuQuota_bounds (cpuLimit : UInt64) :
    (cpuQuota cpuLimit = 1000 * cpuLimit.toNat ↔ cpuLimit.toNat ≤ 184467440737095) ∧
      cpuQuota cpuLimit ≤ 1000 * cpuLimit.toNat := by
  have product : (defaultCPUPeriod * cpuLimit).toNat =
      100000 * cpuLimit.toNat % 18446744073709551616 := by
    show (defaultCPUPeriod.toBitVec * cpuLimit.toBitVec).toNat = _
    rw [BitVec.toNat_mul]
    rfl
  have hundred : (100 : UInt64).toNat = 100 := rfl
  have wrapped := Nat.mod_le (100000 * cpuLimit.toNat) 18446744073709551616
  have below := Nat.mod_lt (100000 * cpuLimit.toNat) (show 0 < 18446744073709551616 by decide)
  have exact : 100000 * cpuLimit.toNat < 18446744073709551616 →
      100000 * cpuLimit.toNat % 18446744073709551616 = 100000 * cpuLimit.toNat :=
    Nat.mod_eq_of_lt
  simp only [cpuQuota, Go.int64, UInt64.toNat_div, product, hundred]
  generalize 100000 * cpuLimit.toNat % 18446744073709551616 = r at wrapped below exact ⊢
  have fits : (((r / 100 : Nat) : Int) + 9223372036854775808) % 18446744073709551616 -
      9223372036854775808 = ((r / 100 : Nat) : Int) := by
    omega
  rw [fits]
  omega

example : cpuQuota 50 = 50000 ∧ cpuQuota 184467440737096 = 483 := by decide

/-- With `CPULimit` set, `applyAosServiceConfig` gives the spec the default period and that
quota. -/
theorem applyAosServiceConfig_cpu (path : String) (config : AosServiceConfig) (spec : OciSpec)
    (named : path ≠ "") {cpuLimit : UInt64} (set : config.quotas.cpuLimit = some cpuLimit) :
    (applyAosServiceConfig path (.ok config) spec).2.resources.cpu =
        some ⟨some defaultCPUPeriod, some (cpuQuota cpuLimit)⟩ ∧
      (cpuQuota cpuLimit = 1000 * cpuLimit.toNat ↔ cpuLimit.toNat ≤ 184467440737095) ∧
      cpuQuota cpuLimit ≤ 1000 * cpuLimit.toNat := by
  have tmp : ∀ spec, (applyTmpLimit config spec).resources = spec.resources := fun spec => by
    unfold applyTmpLimit; split <;> rfl
  refine ⟨?_, cpuQuota_bounds cpuLimit⟩
  rw [applyAosServiceConfig, if_neg named]
  show (applyConfig config spec).resources.cpu = _
  rw [applyConfig, tmp]
  unfold applyCPULimit
  simp only [set]

/-- A config with `CPULimit` 50 gives the quota 50000. -/
theorem applyAosServiceConfig_cpu_at_half :
    let config : AosServiceConfig := ⟨none, none, ⟨none, none, none, some 50, none⟩⟩
    let spec : OciSpec := ⟨"runc", [], [], [], [], ⟨[], none, none, none⟩⟩
    "config.json" ≠ "" ∧ config.quotas.cpuLimit = some 50 ∧
      ((applyAosServiceConfig "config.json" (.ok config) spec).2.resources.cpu =
          some ⟨some defaultCPUPeriod, some (cpuQuota 50)⟩ ∧
        (cpuQuota 50 = 1000 * (50 : UInt64).toNat ↔ (50 : UInt64).toNat ≤ 184467440737095) ∧
        cpuQuota 50 ≤ 1000 * (50 : UInt64).toNat) :=
  ⟨by decide, rfl, applyAosServiceConfig_cpu _ _ _ (by decide) rfl⟩

/-! ### Host devices -/

/-- `addHostDevice` ends on every host file system. When the walk fails the spec is unchanged;
otherwise the devices it adds, each with a rule that allows it, are exactly the devices at the
paths the walk reaches, and nothing else of the spec changes. -/
theorem addHostDevice_adds_reached_devices (fs : HostFs) (deviceName : String) (spec : OciSpec) :
    ∃ err after, addHostDevice fs deviceName spec = some (err, after) ∧
      (err ≠ none → after = spec) ∧
      (err = none → ∃ added,
        after = { spec with
          devices := spec.devices ++ added,
          resources := { spec.resources with
            devices := spec.resources.devices ++ added.map allowRule } } ∧
        ∀ device, device ∈ added ↔
          ∃ target, Reaches fs deviceName target ∧ DeviceAt fs target device) := by
  obtain ⟨result, ended⟩ :=
    Option.ne_none_iff_exists'.1 (addDevicesWithin_ne_none fs deviceName)
  cases result with
  | error err =>
    exact ⟨some err, spec, by rw [addHostDevice, ended]; rfl, fun _ => rfl,
      fun failed => nomatch failed⟩
  | ok devices =>
    exact ⟨none, _, by rw [addHostDevice, ended]; rfl, fun ok => absurd rfl ok,
      fun _ => ⟨devices, rfl, mem_addDevicesWithin fs 4096 deviceName devices ended⟩⟩

end AosServiceManager.Launcher
