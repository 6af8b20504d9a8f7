/-
Module: AosServiceManager.Launcher.MountPoints
Layer: Core and Proofs
Purpose: `createMountPoints` (src/launcher/launcher.go:1314-1380), which `prepareService` runs on
  every install. It makes the `mounts` directory of the service and, for each mount of the OCI
  spec, reads the permissions from its options: each option is trimmed and split at `=`, and
  one whose first part is `mode` has its second part read by `strconv.ParseUint(value, 8, 32)`,
  the last such option winning and a value it refuses ending the install. A mount of type `proc`,
  `tmpfs` or `sysfs` gets a directory, a `bind` mount a directory or an empty file as its source
  is one or not, and any other type nothing; nonzero permissions are then set by `os.Chmod`,
  which keeps only the permission bits of an octal mode and reads the set-user-ID, set-group-ID
  and sticky bits from the high `FileMode` bits (23, 22 and 20), not from the octal digit 4, 2
  or 1 before them.
Imports: AosServiceManager.Launcher.ServiceConfig, Mathlib.Data.Nat.Bits
Trusted boundary: os.MkdirAll, os.Chmod, os.OpenFile and os.Stat, taken as calls that succeed
  or fail with an error given per call; `syscallMode` of os/file_posix.go and the `FileMode`
  bits of io/fs as the Go sources define them.
Main exports: parseUint, octalValue, trimSpace, modeValues, mountPermissions, syscallMode, FsCall,
  createMountPoints, parseUint_ok_iff, mountPermissions_eq, createMountPoints_modes
-/
import Mathlib.Data.Nat.Bits
import AosServiceManager.Launcher.ServiceConfig

namespace AosServiceManager.Launcher

/-! ### `strconv.ParseUint(s, 8, 32)` -/

/-- `strconv.ErrSyntax` and `strconv.ErrRange`. -/
inductive NumErr where
  | errSyntax
  | errRange
deriving Repr, DecidableEq

/-- The `*strconv.NumError` of `ParseUint`: its input and its cause. Its `Error()` text, which
quotes the input, is not modelled. -/
structure NumError where
  num : String
  err : NumErr
deriving Repr, DecidableEq

/-- `uint64(1)<<32 - 1`, the largest value `ParseUint` returns for a bit size of 32. -/
def maxVal : Nat := 0xFFFFFFFF

/-- `n *= 8; n += d` for the digit `c`. -/
def octalStep (n : Nat) (c : Char) : Nat :=
  n * 8 + (c.toNat - '0'.toNat)

/-- The digit loop of `ParseUint` in base 8: a character that is not an octal digit is a syntax
error, and a value past `maxVal` a range error, each as soon as it is read. -/
def parseUintLoop (s : String) : Nat → List Char → Except NumError Nat
  | n, [] => .ok n
  | n, c :: rest =>
    if '0' ≤ c ∧ c ≤ '7' then
      if octalStep n c > maxVal then .error ⟨s, .errRange⟩ else parseUintLoop s (octalStep n c) rest
    else .error ⟨s, .errSyntax⟩

/-- `strconv.ParseUint(s, 8, 32)`, the one call of `ParseUint` here: the base and bit size are
valid, and base 8 takes no prefix and no underscore. -/
def parseUint (s : String) : Except NumError Nat :=
  if s.data = [] then .error ⟨s, .errSyntax⟩ else parseUintLoop s 0 s.data

/-- The number a string of octal digits writes. -/
def octalValue (digits : List Char) : Nat :=
  digits.foldl octalStep 0

/-! ### The permissions of a mount -/

/-- `unicode.IsSpace`, which `strings.TrimSpace` trims. -/
def isSpace (c : Char) : Bool :=
  c = ' ' || ('\t' ≤ c && c ≤ '\r') || c = '\u0085' || c = '\u00A0' || c = '\u1680' ||
    ('\u2000' ≤ c && c ≤ '\u200A') || c = '\u2028' || c = '\u2029' || c = '\u202F' ||
    c = '\u205F' || c = '\u3000'

/-- `strings.TrimSpace`. -/
def trimSpace (s : List Char) : List Char :=
  ((s.dropWhile isSpace).reverse.dropWhile isSpace).reverse

/-- The options loop of one mount (launcher.go:1325-1333): `strings.Split` at `=` of the trimmed
option, and `ParseUint` of the second part when the first is `mode`. -/
def mountPermissions : List String → Nat → Except NumError Nat
  | [], permissions => .ok permissions
  | option :: options, permissions =>
    match (trimSpace option.data).splitOn '=' with
    | name :: value :: _ =>
      if name = "mode".data then
        match parseUint (String.mk value) with
        | .error err => .error err
        | .ok permissions => mountPermissions options permissions
      else mountPermissions options permissions
    | _ => mountPermissions options permissions

/-- The values of the `mode` options of a mount, in order. -/
def modeValues (options : List String) : List String :=
  options.filterMap fun option =>
    match (trimSpace option.data).splitOn '=' with
    | name :: value :: _ => if name = "mode".data then some (String.mk value) else none
    | _ => none

/-- `syscallMode(os.FileMode(permissions))` (os/file_posix.go): `Perm()`, the permission bits,
and `S_ISUID`, `S_ISGID` and `S_ISVTX` for the `FileMode` bits `ModeSetuid`, `ModeSetgid` and
`ModeSticky`, which are bits 23, 22 and 20. -/
def syscallMode (mode : Nat) : Nat :=
  mode % 0o1000 + (if mode.testBit 23 then 0o4000 else 0) +
    (if mode.testBit 22 then 0o2000 else 0) + (if mode.testBit 20 then 0o1000 else 0)

/-! ### The mount points -/

/-- A call `createMountPoints` makes on the file system. -/
inductive FsCall where
  | mkdirAll (path : String)
  | chmod (path : String) (mode : Nat)
  | create (path : String)
deriving Repr, DecidableEq

/-- How the file-system calls end: each call's error, and `os.Stat` of a bind source, its error or
whether it is a directory. -/
structure FsOutcomes where
  call : FsCall → GoError
  stat : String → Except String Bool

/-- The errors of `createMountPoints`: a file-system error, or the `*strconv.NumError` of a mode. -/
inductive MountError where
  | os (message : String)
  | numError (err : NumError)
deriving Repr, DecidableEq

/-- `filepath.Dir`: the path up to its last separator, cleaned. -/
def filepathDir (path : String) : String :=
  Go.pathClean (String.mk (path.data.reverse.dropWhile (· ≠ '/')).reverse)

/-- Calls made in order up to the first that fails: those made, and that error. -/
def issue (fs : FsOutcomes) : List FsCall → List FsCall × Option MountError
  | [] => ([], none)
  | call :: calls =>
    match fs.call call with
    | some err => ([call], some (.os err))
    | none =>
      let rest := issue fs calls
      (call :: rest.1, rest.2)

/-- The mount types that get a directory. -/
def isPseudoFs (type : String) : Bool :=
  type = "proc" || type = "tmpfs" || type = "sysfs"

/-- One mount of the loop (launcher.go:1321-1377): the calls it makes and its error. -/
def mountPoint (fs : FsOutcomes) (mountPointsDir : String) (mount : Mount) :
    List FsCall × Option MountError :=
  match mountPermissions mount.options 0 with
  | .error err => ([], some (.numError err))
  | .ok permissions =>
    let itemPath := Go.pathJoin mountPointsDir mount.destination
    let chmod := if permissions ≠ 0 then [FsCall.chmod itemPath (syscallMode permissions)] else []
    if isPseudoFs mount.type then issue fs (.mkdirAll itemPath :: chmod)
    else if mount.type = "bind" then
      match fs.stat mount.source with
      | .error err => ([], some (.os err))
      | .ok true => issue fs (.mkdirAll itemPath :: chmod)
      | .ok false => issue fs (.mkdirAll (filepathDir itemPath) :: .create itemPath :: chmod)
    else ([], none)

/-- The loop over the mounts, up to the first that fails. -/
def mountLoop (fs : FsOutcomes) (mountPointsDir : String) :
    List Mount → List FsCall × Option MountError
  | [] => ([], none)
  | mount :: mounts =>
    match mountPoint fs mountPointsDir mount with
    | (calls, some err) => (calls, some err)
    | (calls, none) =>
      let rest := mountLoop fs mountPointsDir mounts
      (calls ++ rest.1, rest.2)

/-- `serviceMountPointsDir` (launcher.go:116). -/
def serviceMountPointsDir : String := "mounts"

/-- `createMountPoints` (launcher.go:1314-1380) on the mounts of the spec: the calls it makes, in
order, and its error. -/
def createMountPoints (fs : FsOutcomes) (serviceDir : String) (spec : OciSpec) :
    List FsCall × Option MountError :=
  let mountPointsDir := Go.pathJoin serviceDir serviceMountPointsDir
  match fs.call (.mkdirAll mountPointsDir) with
  | some err => ([.mkdirAll mountPointsDir], some (.os err))
  | none =>
    let rest := mountLoop fs mountPointsDir spec.mounts
    (.mkdirAll mountPointsDir :: rest.1, rest.2)

/-! ### What `ParseUint` accepts -/

theorem le_foldl_octalStep : ∀ (digits : List Char) (n : Nat), n ≤ digits.foldl octalStep n
  | [], _ => Nat.le_refl _
  | c :: digits, n =>
    Nat.le_trans (show n ≤ octalStep n c by unfold octalStep; omega) (le_foldl_octalStep digits _)

theorem parseUintLoop_ok_iff (s : String) : ∀ (digits : List Char) (n m : Nat), n ≤ maxVal →
    (parseUintLoop s n digits = .ok m ↔ (∀ c ∈ digits, '0' ≤ c ∧ c ≤ '7') ∧
      digits.foldl octalStep n ≤ maxVal ∧ m = digits.foldl octalStep n)
  | [], n, m, small => by simp [parseUintLoop, small, eq_comm]
  | c :: digits, n, m, small => by
    rw [parseUintLoop]
    by_cases digit : '0' ≤ c ∧ c ≤ '7'
    · rw [if_pos digit]
      by_cases over : octalStep n c > maxVal
      · have grown := le_foldl_octalStep digits (octalStep n c)
        rw [if_pos over, List.foldl_cons]
        exact ⟨nofun, fun ⟨_, fits, _⟩ => absurd fits (by omega)⟩
      · rw [if_neg over, parseUintLoop_ok_iff s digits _ m (by omega), List.foldl_cons]
        simp [digit]
    · rw [if_neg digit]
      simp [digit]

/-- `ParseUint(s, 8, 32)` returns a value exactly for a nonempty string of octal digits whose
value fits in 32 bits, and that value. -/
theorem parseUint_ok_iff (s : String) (n : Nat) :
    parseUint s = .ok n ↔ s.data ≠ [] ∧ (∀ c ∈ s.data, '0' ≤ c ∧ c ≤ '7') ∧
      octalValue s.data ≤ maxVal ∧ n = octalValue s.data := by
  unfold parseUint
  by_cases empty : s.data = []
  · simp [empty]
  · rw [if_neg empty, parseUintLoop_ok_iff s s.data 0 n (by decide)]
    simp [empty, octalValue]

/-! ### The permissions of a mount -/

theorem modeValues_cons (option : String) (options : List String) :
    modeValues (option :: options) =
      match (trimSpace option.data).splitOn '=' with
      | name :: value :: _ =>
        if name = "mode".data then String.mk value :: modeValues options else modeValues options
      | _ => modeValues options := by
  unfold modeValues
  rw [List.filterMap_cons]
  rcases (trimSpace option.data).splitOn '=' with _ | ⟨name, _ | ⟨value, tail⟩⟩
  · rfl
  · rfl
  · dsimp only
    split_ifs <;> rfl

/-- The options loop returns the value of the last `mode` option, or the permissions it started
from when there is none; a `mode` value `ParseUint` refuses ends it with the first such error. -/
theorem mountPermissions_eq : ∀ (options : List String) (permissions : Nat),
    mountPermissions options permissions =
      ((modeValues options).mapM parseUint).map (·.getLastD permissions)
  | [], _ => rfl
  | option :: options, permissions => by
    rw [mountPermissions, modeValues_cons]
    rcases (trimSpace option.data).splitOn '=' with _ | ⟨name, _ | ⟨value, tail⟩⟩
    · exact mountPermissions_eq options permissions
    · exact mountPermissions_eq options permissions
    · dsimp only
      by_cases mode : name = "mode".data
      · rw [if_pos mode, if_pos mode, List.mapM_cons]
        cases parseUint (String.mk value) with
        | error err => rfl
        | ok first =>
          show mountPermissions options first = _
          rw [mountPermissions_eq options first]
          cases (modeValues options).mapM parseUint with
          | error err => rfl
          | ok rest => exact congrArg Except.ok (List.getLastD_cons _ _ _).symm
      · rw [if_neg mode, if_neg mode]
        exact mountPermissions_eq options permissions

theorem exists_mapM_ok_iff {α β ε : Type} (f : α → Except ε β) :
    ∀ xs : List α, (∃ ys, xs.mapM f = .ok ys) ↔ ∀ x ∈ xs, ∃ y, f x = .ok y
  | [] => ⟨fun _ _ absent => (nomatch absent), fun _ => ⟨[], rfl⟩⟩
  | x :: xs => by
    rw [List.mapM_cons, List.forall_mem_cons, ← exists_mapM_ok_iff f xs]
    cases f x with
    | error err =>
      exact ⟨fun ⟨_, failed⟩ => (nomatch failed), fun ⟨⟨_, failed⟩, _⟩ => (nomatch failed)⟩
    | ok y =>
      cases xs.mapM f with
      | error err =>
        exact ⟨fun ⟨_, failed⟩ => (nomatch failed), fun ⟨_, _, failed⟩ => (nomatch failed)⟩
      | ok ys => exact ⟨fun _ => ⟨⟨y, rfl⟩, ys, rfl⟩, fun _ => ⟨y :: ys, rfl⟩⟩

/-- A mount's options give its permissions exactly when `ParseUint` takes every `mode` value. -/
theorem mountPermissions_ok_iff (options : List String) (permissions : Nat) :
    (∃ p, mountPermissions options permissions = .ok p) ↔
      ∀ value ∈ modeValues options, ∃ p, parseUint value = .ok p := by
  rw [mountPermissions_eq, ← exists_mapM_ok_iff]
  cases (modeValues options).mapM parseUint <;> simp [Functor.map, Except.map]

/-- For a mode written with at most four octal digits, `os.Chmod` keeps the permission bits
alone: the set-user-ID, set-group-ID and sticky digit is dropped. -/
theorem syscallMode_of_lt {mode : Nat} (small : mode < 0o10000) :
    syscallMode mode = mode % 0o1000 := by
  have bit : ∀ i, 20 ≤ i → mode.testBit i = false := fun i high =>
    Nat.testBit_lt_two_pow (Nat.lt_of_lt_of_le small
      (Nat.le_trans (by decide : 0o10000 ≤ 2 ^ 20) (Nat.pow_le_pow_right (by decide) high)))
  simp [syscallMode, bit 23 (by decide), bit 22 (by decide), bit 20 (by decide)]

/-- `mode=1777` sets 0777; the set-user-ID bit needs the `FileMode` bit, octal 40000000. -/
example : syscallMode 0o1777 = 0o777 ∧ syscallMode 0o40000755 = 0o4755 := by
  decide

/-! ### The mount points when every file-system call succeeds -/

section Succeeding

variable {fs : FsOutcomes} (succeeds : ∀ call, fs.call call = none)
  (stats : ∀ source, ∃ isDir, fs.stat source = .ok isDir)

include succeeds in
theorem issue_of_succeeds : ∀ calls : List FsCall, issue fs calls = (calls, none)
  | [] => rfl
  | call :: calls => by simp only [issue, succeeds, issue_of_succeeds calls]

include succeeds stats in
/-- One mount fails exactly when its options do, and its `chmod` is on its mount point, for a
type that gets one, with the mode `os.Chmod` makes of nonzero permissions. -/
theorem mountPoint_of_succeeds (mountPointsDir : String) (mount : Mount) :
    ((mountPoint fs mountPointsDir mount).2 = none ↔
      ∃ p, mountPermissions mount.options 0 = .ok p) ∧
    ∀ path mode, FsCall.chmod path mode ∈ (mountPoint fs mountPointsDir mount).1 ↔
      (isPseudoFs mount.type = true ∨ mount.type = "bind") ∧
        path = Go.pathJoin mountPointsDir mount.destination ∧
        ∃ p, mountPermissions mount.options 0 = .ok p ∧ p ≠ 0 ∧ mode = syscallMode p := by
  unfold mountPoint
  cases permissions : mountPermissions mount.options 0 with
  | error err => simp
  | ok p =>
    obtain ⟨isDir, stat⟩ := stats mount.source
    dsimp only
    by_cases pseudo : isPseudoFs mount.type = true
    · rw [if_pos pseudo, issue_of_succeeds succeeds]
      by_cases zero : p = 0 <;> simp [zero, pseudo]
    · rw [if_neg pseudo]
      by_cases bind : mount.type = "bind"
      · rw [if_pos bind, stat]
        cases isDir <;> dsimp only <;> rw [issue_of_succeeds succeeds] <;>
          by_cases zero : p = 0 <;> simp [zero, bind]
      · rw [if_neg bind]
        simp [pseudo, bind]

include succeeds stats in
theorem mountLoop_of_succeeds (mountPointsDir : String) : ∀ mounts : List Mount,
    ((mountLoop fs mountPointsDir mounts).2 = none ↔
      ∀ mount ∈ mounts, ∃ p, mountPermissions mount.options 0 = .ok p) ∧
    ((mountLoop fs mountPointsDir mounts).2 = none →
      ∀ path mode, FsCall.chmod path mode ∈ (mountLoop fs mountPointsDir mounts).1 ↔
        ∃ mount ∈ mounts, (isPseudoFs mount.type = true ∨ mount.type = "bind") ∧
          path = Go.pathJoin mountPointsDir mount.destination ∧
          ∃ p, mountPermissions mount.options 0 = .ok p ∧ p ≠ 0 ∧ mode = syscallMode p)
  | [] => by simp [mountLoop]
  | mount :: mounts => by
    obtain ⟨fails, chmods⟩ := mountPoint_of_succeeds succeeds stats mountPointsDir mount
    obtain ⟨restFails, restChmods⟩ := mountLoop_of_succeeds mountPointsDir mounts
    unfold mountLoop
    cases first : mountPoint fs mountPointsDir mount with
    | mk calls err =>
      rw [first] at fails chmods
      cases err with
      | some err =>
        refine ⟨⟨nofun, fun all => ?_⟩, nofun⟩
        exact absurd (fails.2 (all mount (List.mem_cons_self _ _))) nofun
      | none =>
        simp only [List.forall_mem_cons, List.mem_append]
        refine ⟨⟨fun ok => ⟨fails.1 rfl, restFails.1 ok⟩, fun all => restFails.2 all.2⟩,
          fun ok path mode => ?_⟩
        rw [chmods path mode, restChmods ok path mode]
        simp only [List.mem_cons, or_and_right, exists_or, exists_eq_left]

end Succeeding

/-- With every file-system call succeeding, `createMountPoints` fails exactly when a mount of any
type, one that gets no mount point included, has a `mode` value `ParseUint` refuses, and
`ParseUint` accepts exactly a nonempty string of octal digits whose value fits in 32 bits. A
mount's permissions are the value of its last `mode` option. When it succeeds, it sets a mode on
the mount point of each `proc`, `tmpfs`, `sysfs` or `bind` mount with nonzero permissions, and
nowhere else, and the mode it sets is `syscallMode` of those permissions: for a mode of at most
four octal digits, its permission bits alone. -/
theorem createMountPoints_modes (fs : FsOutcomes) (serviceDir : String) (spec : OciSpec)
    (succeeds : ∀ call, fs.call call = none)
    (stats : ∀ source, ∃ isDir, fs.stat source = .ok isDir) :
    let run := createMountPoints fs serviceDir spec
    (run.2 = none ↔ ∀ mount ∈ spec.mounts, ∀ value ∈ modeValues mount.options,
      ∃ p, parseUint value = .ok p) ∧
    (∀ value p, parseUint value = .ok p ↔ value.data ≠ [] ∧
      (∀ c ∈ value.data, '0' ≤ c ∧ c ≤ '7') ∧ octalValue value.data ≤ maxVal ∧
        p = octalValue value.data) ∧
    (∀ mount ∈ spec.mounts, mountPermissions mount.options 0 =
      ((modeValues mount.options).mapM parseUint).map (·.getLastD 0)) ∧
    (run.2 = none → ∀ path mode, FsCall.chmod path mode ∈ run.1 ↔
      ∃ mount ∈ spec.mounts, (isPseudoFs mount.type = true ∨ mount.type = "bind") ∧
        path = Go.pathJoin (Go.pathJoin serviceDir serviceMountPointsDir) mount.destination ∧
        ∃ p, mountPermissions mount.options 0 = .ok p ∧ p ≠ 0 ∧ mode = syscallMode p ∧
          (p < 0o10000 → mode = p % 0o1000)) := by
  obtain ⟨fails, chmods⟩ := mountLoop_of_succeeds succeeds stats
    (Go.pathJoin serviceDir serviceMountPointsDir) spec.mounts
  simp only [createMountPoints, succeeds]
  refine ⟨fails.trans (forall₂_congr fun mount _ => mountPermissions_ok_iff _ 0), parseUint_ok_iff,
    fun mount _ => mountPermissions_eq mount.options 0, fun ok path mode => ?_⟩
  have digits : ∀ p, (mode = syscallMode p ∧ (p < 0o10000 → mode = p % 0o1000)) ↔
      mode = syscallMode p :=
    fun p => and_iff_left_of_imp fun set small => set.trans (syscallMode_of_lt small)
  rw [List.mem_cons, chmods ok path mode]
  simp [digits]

/-- A `tmpfs` on `/tmp` with `mode=1777` gets mode 0777, without the sticky bit. -/
example : (createMountPoints ⟨fun _ => none, fun _ => .ok true⟩ "/var/aos/service0"
      ⟨"", [], [⟨"/tmp", "tmpfs", "tmpfs", ["nosuid", "mode=1777"]⟩], [], [],
        ⟨[], none, none, none⟩⟩).1 =
    [.mkdirAll "/var/aos/service0/mounts", .mkdirAll "/var/aos/service0/mounts/tmp",
      .chmod "/var/aos/service0/mounts/tmp" 0o777] := by
  decide

theorem createMountPoints_modes_on_tmp :
    let fs : FsOutcomes := ⟨fun _ => none, fun _ => .ok true⟩
    let spec : OciSpec :=
      ⟨"", [], [⟨"/tmp", "tmpfs", "tmpfs", ["nosuid", "mode=1777"]⟩], [], [], ⟨[], none, none, none⟩⟩
    let run := createMountPoints fs "/var/aos/service0" spec
    (∀ call, fs.call call = none) ∧ (∀ source, ∃ isDir, fs.stat source = .ok isDir) ∧
      ((run.2 = none ↔ ∀ mount ∈ spec.mounts, ∀ value ∈ modeValues mount.options,
        ∃ p, parseUint value = .ok p) ∧
      (∀ value p, parseUint value = .ok p ↔ value.data ≠ [] ∧
        (∀ c ∈ value.data, '0' ≤ c ∧ c ≤ '7') ∧ octalValue value.data ≤ maxVal ∧
          p = octalValue value.data) ∧
      (∀ mount ∈ spec.mounts, mountPermissions mount.options 0 =
        ((modeValues mount.options).mapM parseUint).map (·.getLastD 0)) ∧
      (run.2 = none → ∀ path mode, FsCall.chmod path mode ∈ run.1 ↔
        ∃ mount ∈ spec.mounts, (isPseudoFs mount.type = true ∨ mount.type = "bind") ∧
          path = Go.pathJoin (Go.pathJoin "/var/aos/service0" serviceMountPointsDir)
            mount.destination ∧
          ∃ p, mountPermissions mount.options 0 = .ok p ∧ p ≠ 0 ∧ mode = syscallMode p ∧
            (p < 0o10000 → mode = p % 0o1000))) :=
  ⟨fun _ => rfl, fun _ => ⟨true, rfl⟩,
    createMountPoints_modes _ _ _ (fun _ => rfl) (fun _ => ⟨true, rfl⟩)⟩

end AosServiceManager.Launcher
