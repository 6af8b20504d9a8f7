/-
Module: AosServiceManager.Launcher.HostDevices
Layer: Core and Proofs
Purpose: `addDevices` and `addDevice` of the OCI spec (spec.go, part_005:389-477), which turn a
  host device path into the devices of a service's runtime spec. `addDevices` asks `os.Stat`,
  which follows symbolic links, so a link to a directory is walked, and one that points back to
  an ancestor makes the walk go on with a longer path each time. The walk is modelled with a
  bound on its depth, `none` when it would go deeper. Every path it passes to `os.Stat` below
  the first is a chain of joins, longer by a slash and a name at each level, and the kernel
  refuses a path of `PATH_MAX` bytes: a bound of 4096 levels is never reached, a larger bound
  changes nothing, and a walk that succeeds returns exactly the devices at the paths it reaches.
Imports: AosServiceManager.Go.Path
Trusted boundary: os.Stat, ioutil.ReadDir and unix.Lstat, given by the host file system, which
  refuses paths of 4096 characters or more and lists plain names; unix.Major and unix.Minor of
  golang.org/x/sys/unix (dev_linux.go).
Main exports: HostFs, LinuxDevice, addDevice, skippedDevices, addFiles, addDevicesBody,
  addDevicesWithin, Reaches, DeviceAt, addDevicesWithin_mono, addDevicesWithin_ne_none,
  mem_addDevicesWithin, addDevices_terminates
-/
import AosServiceManager.Go.Path

namespace AosServiceManager.Launcher

open AosServiceManager.Go

/-- The fields of `unix.Stat_t` that `addDevice` reads. -/
structure StatT where
  mode : UInt32
  rdev : UInt64
  uid : UInt32
  gid : UInt32
deriving Repr, DecidableEq

/-- The host file system as the device walk sees it: `os.Stat`, which follows symbolic links
and tells whether the path is a directory, `ioutil.ReadDir`, and `unix.Lstat`, which does not
follow a final link. The kernel refuses a path of `PATH_MAX` (4096) bytes or more, and a path of
as many characters has at least as many bytes; a directory lists plain names. -/
structure HostFs where
  stat : String → Except String Bool
  readDir : String → Except String (List String)
  lstat : String → Except String StatT
  nameTooLong : ∀ path : String, 4096 ≤ path.length → ∃ err, stat path = .error err
  plainNames : ∀ dir files, readDir dir = .ok files → ∀ file ∈ files, PlainName file.data

/-- `runtimespec.LinuxDevice`. -/
structure LinuxDevice where
  type : String
  path : String
  major : Int
  minor : Int
  fileMode : UInt32
  uid : UInt32
  gid : UInt32
deriving Repr, DecidableEq

/-- `unix.Major`. -/
def unixMajor (dev : UInt64) : UInt32 :=
  ((dev &&& 0xfff00) >>> 8).toUInt32 ||| ((dev &&& 0xfffff00000000000) >>> 32).toUInt32

/-- `unix.Minor`. -/
def unixMinor (dev : UInt64) : UInt32 :=
  (dev &&& 0xff).toUInt32 ||| ((dev &&& 0xffffff00000) >>> 12).toUInt32

/-- The errors of `addDevice`: `errNotDevice` (part_005:100), or one of `unix.Lstat`. -/
inductive DeviceError where
  | notDevice
  | os (err : String)
deriving Repr, DecidableEq

/-- The type `addDevice` gives a device by its mode: block, character, or none. -/
def deviceType (mode : UInt32) : String :=
  if mode &&& 0x6000 = 0x6000 then "b" else if mode &&& 0x2000 = 0x2000 then "c" else ""

/-- `addDevice` (part_005:389-422). -/
def addDevice (fs : HostFs) (deviceName : String) : Except DeviceError LinuxDevice :=
  match fs.lstat deviceName with
  | .error err => .error (.os err)
  | .ok stat =>
    if unixMajor stat.rdev = 0 then .error .notDevice
    else .ok ⟨deviceType stat.mode, deviceName, (unixMajor stat.rdev).toNat,
      (unixMinor stat.rdev).toNat, stat.mode, stat.uid, stat.gid⟩

/-- The entries `addDevices` skips in a directory (part_005:438). -/
def skippedDevices : List String := ["pts", "shm", "fd", "mqueue", ".lxc", ".lxd-mounts", ".udev"]

/-- What a walk returns: `none` when it would go below its depth bound. -/
abbrev Walk := Option (Except String (List LinuxDevice))

/-- The loop of `addDevices` over a directory's entries (part_005:436-452), with `recurse` for
its recursive call. -/
def addFiles (recurse : String → Walk) (deviceName : String) : List String → Walk
  | [] => some (.ok [])
  | file :: files =>
    if file ∈ skippedDevices then addFiles recurse deviceName files
    else match recurse (pathJoin deviceName file) with
      | none => none
      | some (.error err) => some (.error err)
      | some (.ok dirDevices) =>
        (addFiles recurse deviceName files).map fun rest => rest.map (dirDevices ++ ·)

/-- The body of `addDevices` (part_005:424-477), with `recurse` for its recursive call. -/
def addDevicesBody (fs : HostFs) (recurse : String → Walk) (deviceName : String) : Walk :=
  match fs.stat deviceName with
  | .error err => some (.error err)
  | .ok true =>
    match fs.readDir deviceName with
    | .error err => some (.error err)
    | .ok files => addFiles recurse deviceName files
  | .ok false =>
    if baseName deviceName = "console" then some (.ok [])
    else match addDevice fs deviceName with
      | .ok device => some (.ok [device])
      | .error .notDevice => some (.ok [])
      | .error (.os err) => some (.error err)

/-- `addDevices` with at most `depth` levels of directories below `deviceName`. -/
def addDevicesWithin (fs : HostFs) : Nat → String → Walk
  | 0 => addDevicesBody fs fun _ => none
  | depth + 1 => addDevicesBody fs (addDevicesWithin fs depth)

/-- The paths the walk visits from `deviceName`: itself and, below a directory, the paths of the
entries it does not skip. -/
inductive Reaches (fs : HostFs) : String → String → Prop
  | refl (path : String) : Reaches fs path path
  | child {dir path : String} {files : List String} {file : String} :
    fs.stat dir = .ok true → fs.readDir dir = .ok files → file ∈ files →
      file ∉ skippedDevices → Reaches fs (pathJoin dir file) path → Reaches fs dir path

/-- A device node at a path: `os.Stat` finds no directory there, its name is not `console`,
and `addDevice` describes it. -/
def DeviceAt (fs : HostFs) (path : String) (device : LinuxDevice) : Prop :=
  fs.stat path = .ok false ∧ baseName path ≠ "console" ∧ addDevice fs path = .ok device

theorem length_eq_data_length (text : String) : text.length = text.data.length := rfl

section Walk

variable (fs : HostFs)

/-! ### One level of the walk -/

/-- What one level of the walk does: below a directory it runs the loop over the listed entries;
anywhere else its result does not depend on the recursive call, and is the device at the path
when it succeeds. -/
theorem addDevicesBody_cases (deviceName : String) :
    (∃ files, fs.stat deviceName = .ok true ∧ fs.readDir deviceName = .ok files ∧
      ∀ recurse, addDevicesBody fs recurse deviceName = addFiles recurse deviceName files) ∨
    ∃ result, (∀ recurse, addDevicesBody fs recurse deviceName = some result) ∧
      ∀ devices, result = .ok devices → fs.stat deviceName = .ok false ∧
        ∀ device, device ∈ devices ↔ DeviceAt fs deviceName device := by
  unfold addDevicesBody
  cases stat : fs.stat deviceName with
  | error err => exact .inr ⟨_, fun _ => rfl, fun _ failed => by cases failed⟩
  | ok isDir =>
    cases isDir with
    | true =>
      cases listed : fs.readDir deviceName with
      | error err => exact .inr ⟨_, fun _ => rfl, fun _ failed => by cases failed⟩
      | ok files => exact .inl ⟨files, rfl, rfl, fun _ => rfl⟩
    | false =>
      by_cases console : baseName deviceName = "console"
      · refine .inr ⟨_, fun _ => if_pos console, fun _ done => ?_⟩
        cases done
        exact ⟨rfl, by simp [DeviceAt, console]⟩
      · cases added : addDevice fs deviceName with
        | ok found =>
          refine .inr ⟨_, fun _ => if_neg console, fun _ done => ?_⟩
          cases done
          exact ⟨rfl, by simp [DeviceAt, stat, console, added, eq_comm]⟩
        | error err =>
          cases err with
          | notDevice =>
            refine .inr ⟨_, fun _ => if_neg console, fun _ done => ?_⟩
            cases done
            exact ⟨rfl, by simp [DeviceAt, added]⟩
          | os err => exact .inr ⟨_, fun _ => if_neg console, fun _ failed => by cases failed⟩

/-! ### A deeper bound changes nothing -/

theorem addFiles_mono {recurse recurse' : String → Walk}
    (deeper : ∀ path result, recurse path = some result → recurse' path = some result)
    (deviceName : String) : ∀ (files : List String) (result : Except String (List LinuxDevice)),
    addFiles recurse deviceName files = some result →
      addFiles recurse' deviceName files = some result
  | [], _, done => done
  | file :: files, result, done => by
    unfold addFiles at done ⊢
    split_ifs at done ⊢ with skipped
    · exact addFiles_mono deeper deviceName files result done
    · cases found : recurse (pathJoin deviceName file) with
      | none => simp [found] at done
      | some walk =>
        rw [found] at done
        rw [deeper _ _ found]
        cases walk with
        | error err => exact done
        | ok dirDevices =>
          dsimp only at done ⊢
          obtain ⟨rest, restDone, mapped⟩ := Option.map_eq_some'.1 done
          rw [addFiles_mono deeper deviceName files rest restDone, Option.map_some', mapped]

theorem addDevicesBody_mono {recurse recurse' : String → Walk}
    (deeper : ∀ path result, recurse path = some result → recurse' path = some result)
    (deviceName : String) (result : Except String (List LinuxDevice))
    (done : addDevicesBody fs recurse deviceName = some result) :
    addDevicesBody fs recurse' deviceName = some result := by
  rcases addDevicesBody_cases fs deviceName with ⟨files, -, -, body⟩ | ⟨_, body, -⟩
  · rw [body] at done ⊢
    exact addFiles_mono deeper deviceName files result done
  · rwa [body] at done ⊢

theorem addDevicesWithin_succ : ∀ (depth : Nat) (deviceName : String)
    (result : Except String (List LinuxDevice)),
    addDevicesWithin fs depth deviceName = some result →
      addDevicesWithin fs (depth + 1) deviceName = some result
  | 0, deviceName, result, done =>
    addDevicesBody_mono fs (fun _ _ absent => Option.noConfusion absent) deviceName result done
  | depth + 1, deviceName, result, done =>
    addDevicesBody_mono fs (addDevicesWithin_succ depth) deviceName result done

/-- A walk that ends within a bound ends the same way within any larger one. -/
theorem addDevicesWithin_mono {depth depth' : Nat} (deeper : depth ≤ depth') {deviceName : String}
    {result : Except String (List LinuxDevice)}
    (done : addDevicesWithin fs depth deviceName = some result) :
    addDevicesWithin fs depth' deviceName = some result := by
  induction deeper with
  | refl => exact done
  | step _ ih => exact addDevicesWithin_succ fs _ deviceName result ih

/-! ### 4096 levels are never reached -/

theorem addFiles_ne_none {recurse : String → Walk} {deviceName : String} :
    ∀ {files : List String},
    (∀ file ∈ files, file ∉ skippedDevices → recurse (pathJoin deviceName file) ≠ none) →
      addFiles recurse deviceName files ≠ none
  | [], _ => Option.noConfusion
  | file :: files, deeper => by
    have rest := @addFiles_ne_none recurse deviceName files fun f member =>
      deeper f (List.mem_cons_of_mem _ member)
    unfold addFiles
    split_ifs with skipped
    · exact rest
    · cases found : recurse (pathJoin deviceName file) with
      | none => exact absurd found (deeper file (List.mem_cons_self _ _) skipped)
      | some walk =>
        cases walk with
        | error err => exact Option.noConfusion
        | ok dirDevices => simpa using rest

theorem addDevicesBody_ne_none {recurse : String → Walk} {deviceName : String}
    (deeper : ∀ files, fs.stat deviceName = .ok true → fs.readDir deviceName = .ok files →
      ∀ file ∈ files, file ∉ skippedDevices → recurse (pathJoin deviceName file) ≠ none) :
    addDevicesBody fs recurse deviceName ≠ none := by
  rcases addDevicesBody_cases fs deviceName with ⟨files, stat, listed, body⟩ | ⟨_, body, -⟩
  · rw [body]
    exact addFiles_ne_none (deeper files stat listed)
  · rw [body]
    exact Option.noConfusion

/-- A walk from a chain of joins whose bound and length add up to `PATH_MAX` stays within its
bound: each level lengthens the path by a slash and a name, and at 4096 characters `os.Stat`
fails. -/
theorem addDevicesWithin_join_ne_none : ∀ (depth : Nat) (elem : String) {first : String},
    PlainName first.data → 4096 ≤ depth + (pathJoin elem first).length →
      addDevicesWithin fs depth (pathJoin elem first) ≠ none
  | 0, elem, first, _, long => by
    refine addDevicesBody_ne_none fs fun files dir _ => ?_
    obtain ⟨err, refused⟩ := fs.nameTooLong (pathJoin elem first) (by omega)
    rw [refused] at dir
    cases dir
  | depth + 1, elem, first, plain, long => by
    refine addDevicesBody_ne_none fs fun files _ listed file member _ => ?_
    have filePlain := fs.plainNames _ files listed file member
    refine addDevicesWithin_join_ne_none depth (pathJoin elem first) filePlain ?_
    have longer : (pathJoin (pathJoin elem first) file).length =
        (pathJoin elem first).length + 1 + file.length := by
      rw [pathJoin_pathJoin elem plain filePlain, length_eq_data_length, length_eq_data_length,
        length_eq_data_length, List.length_append, List.length_cons]
      omega
    omega

/-- The walk from any path ends within 4096 levels. -/
theorem addDevicesWithin_ne_none (deviceName : String) :
    addDevicesWithin fs 4096 deviceName ≠ none := by
  refine addDevicesBody_ne_none fs fun files _ listed file member _ => ?_
  have plain := fs.plainNames _ files listed file member
  refine addDevicesWithin_join_ne_none fs 4095 deviceName plain ?_
  have named : 0 < (pathJoin deviceName file).length := by
    rw [pathJoin_eq_renderKept _ _ plain, length_eq_data_length]
    exact List.length_pos.2 (renderKept_cons_ne_nil _ plain.1 _)
  omega

/-! ### What a successful walk returns -/

theorem reaches_of_not_dir {path target : String} (file : fs.stat path = .ok false)
    (reaches : Reaches fs path target) : target = path := by
  cases reaches with
  | refl => rfl
  | child dir _ _ _ _ =>
    rw [dir] at file
    cases file

/-- A loop that succeeds has walked every entry it does not skip, and returns what those walks
returned. -/
theorem addFiles_ok {recurse : String → Walk} {deviceName : String} :
    ∀ {files : List String} {devices : List LinuxDevice},
    addFiles recurse deviceName files = some (.ok devices) →
      (∀ file ∈ files, file ∉ skippedDevices →
        ∃ found, recurse (pathJoin deviceName file) = some (.ok found)) ∧
      ∀ device, device ∈ devices ↔ ∃ file ∈ files, file ∉ skippedDevices ∧
        ∃ found, recurse (pathJoin deviceName file) = some (.ok found) ∧ device ∈ found
  | [], devices, done => by
    cases done
    simp
  | file :: files, devices, done => by
    unfold addFiles at done
    split_ifs at done with skipped
    · obtain ⟨walked, members⟩ := addFiles_ok done
      refine ⟨fun f member kept => ?_, fun device => ?_⟩
      · rcases List.mem_cons.1 member with same | later
        · exact absurd (same ▸ skipped) kept
        · exact walked f later kept
      · rw [members]
        simp only [List.mem_cons, or_and_right, exists_or, exists_eq_left, skipped,
          not_true_eq_false, false_and, false_or]
    · cases found : recurse (pathJoin deviceName file) with
      | none => simp [found] at done
      | some walk =>
        rw [found] at done
        cases walk with
        | error err => cases done
        | ok dirDevices =>
          dsimp only at done
          obtain ⟨rest, restDone, mapped⟩ := Option.map_eq_some'.1 done
          cases rest with
          | error err => cases mapped
          | ok restDevices =>
            cases mapped
            obtain ⟨walked, members⟩ := addFiles_ok restDone
            refine ⟨fun f member kept => ?_, fun device => ?_⟩
            · rcases List.mem_cons.1 member with same | later
              · exact ⟨dirDevices, same ▸ found⟩
              · exact walked f later kept
            · rw [List.mem_append, members]
              simp only [List.mem_cons, or_and_right, exists_or, exists_eq_left, skipped,
                not_false_eq_true, true_and, found, Option.some.injEq, Except.ok.injEq,
                exists_eq_left']

/-- One level of the walk returns the devices at the paths it reaches, when each recursive walk
does. -/
theorem addDevicesBody_ok {recurse : String → Walk}
    (children : ∀ path found, recurse path = some (.ok found) →
      ∀ device, device ∈ found ↔ ∃ target, Reaches fs path target ∧ DeviceAt fs target device)
    {deviceName : String} {devices : List LinuxDevice}
    (done : addDevicesBody fs recurse deviceName = some (.ok devices)) (device : LinuxDevice) :
    device ∈ devices ↔ ∃ target, Reaches fs deviceName target ∧ DeviceAt fs target device := by
  rcases addDevicesBody_cases fs deviceName with
    ⟨files, stat, listed, body⟩ | ⟨_, body, facts⟩
  · rw [body] at done
    obtain ⟨walked, members⟩ := addFiles_ok done
    rw [members]
    constructor
    · rintro ⟨file, member, kept, found, walk, inFound⟩
      obtain ⟨target, reaches, deviceAt⟩ := (children _ found walk device).1 inFound
      exact ⟨target, .child stat listed member kept reaches, deviceAt⟩
    · rintro ⟨target, reaches, deviceAt⟩
      cases reaches with
      | refl =>
        rw [deviceAt.1] at stat
        cases stat
      | child _ listed' member kept reaches =>
        rw [listed] at listed'
        cases listed'
        obtain ⟨found, walk⟩ := walked _ member kept
        exact ⟨_, member, kept, found, walk,
          (children _ found walk device).2 ⟨target, reaches, deviceAt⟩⟩
  · rw [body] at done
    obtain ⟨stat, members⟩ := facts devices (Option.some.inj done)
    rw [members]
    exact ⟨fun deviceAt => ⟨deviceName, .refl _, deviceAt⟩,
      fun ⟨_, reaches, deviceAt⟩ => reaches_of_not_dir fs stat reaches ▸ deviceAt⟩

/-- A walk that succeeds, within any bound, returns exactly the devices at the paths it reaches. -/
theorem mem_addDevicesWithin : ∀ (depth : Nat) (deviceName : String) (devices : List LinuxDevice),
    addDevicesWithin fs depth deviceName = some (.ok devices) → ∀ device,
      device ∈ devices ↔ ∃ target, Reaches fs deviceName target ∧ DeviceAt fs target device
  | 0, _, _, done => addDevicesBody_ok fs (fun _ _ absent => Option.noConfusion absent) done
  | depth + 1, _, _, done => addDevicesBody_ok fs (mem_addDevicesWithin depth) done

/-- `addDevices` terminates on every host file system, symbolic links back to an ancestor
included: within 4096 levels, and any larger bound, it ends with one result, an error or the
devices at the paths it reaches. -/
theorem addDevices_terminates (deviceName : String) :
    ∃ result, (∀ depth, 4096 ≤ depth → addDevicesWithin fs depth deviceName = some result) ∧
      ∀ devices, result = .ok devices → ∀ device,
        device ∈ devices ↔ ∃ target, Reaches fs deviceName target ∧ DeviceAt fs target device := by
  obtain ⟨result, ended⟩ := Option.ne_none_iff_exists'.1 (addDevicesWithin_ne_none fs deviceName)
  exact ⟨result, fun depth deeper => addDevicesWithin_mono fs deeper ended,
    fun devices ok => mem_addDevicesWithin fs 4096 deviceName devices (ok ▸ ended)⟩

end Walk

/-- A host whose `/dev/loop` is a symbolic link back to `/dev`: `os.Stat` follows it, so every
path under `/dev` of fewer than 4096 characters is a directory listing `loop` and `null`, but for
`null`, a character device `1:3`. -/
def loopHostFs : HostFs where
  stat path := if 4096 ≤ path.length then .error "file name too long"
    else if baseName path = "null" then .ok false else .ok true
  readDir _ := .ok ["loop", "null"]
  lstat _ := .ok ⟨0x21b6, 0x103, 0, 0⟩
  nameTooLong _ long := ⟨_, if_pos long⟩
  plainNames _ _ listed := by
    cases listed
    decide

/-- The walk of `/dev` through the link ends within 4096 levels. -/
theorem addDevices_terminates_on_loop :
    ∃ result, (∀ depth, 4096 ≤ depth → addDevicesWithin loopHostFs depth "/dev" = some result) ∧
      ∀ devices, result = .ok devices → ∀ device, device ∈ devices ↔
        ∃ target, Reaches loopHostFs "/dev" target ∧ DeviceAt loopHostFs target device :=
  addDevices_terminates loopHostFs "/dev"

end AosServiceManager.Launcher
