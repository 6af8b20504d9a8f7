/-
Module: AosServiceManager.Launcher.Hostfs
Layer: Core and Proofs
Purpose: `prepareHostfsDir` (launcher.go:571-622), which fills the hostfs whiteouts directory:
  for each entry of `/` that has no entry there yet and is not in the allowed list
  (`config.HostBinds`, or `defaultHostfsBinds` when that is empty), it creates a whiteout. An
  entry that already exists is skipped, whatever the allowed list says now, so whiteouts left by
  an earlier run stay.
Imports: AosServiceManager.Go.Basic
Trusted boundary: os.MkdirAll, ioutil.ReadDir, os.Stat and syscall.Mknod, taken as calls that
  succeed or fail with an error given per call.
Main exports: Hostfs, defaultHostfsBinds, prepareHostfsDir, whiteoutLoop_keeps, whiteoutLoop_mem,
  prepareHostfsDir_whiteouts, prepareHostfsDir_keeps_stale_whiteout
-/
import AosServiceManager.Go.Basic

namespace AosServiceManager.Launcher

/-- `defaultHostfsBinds` (launcher.go:125). -/
def defaultHostfsBinds : List String := ["bin", "sbin", "lib", "lib64", "usr"]

/-- The two directories `prepareHostfsDir` reads: the entry names of `/`, and those of
`WorkingDir/hostfs/whiteouts`. -/
structure Hostfs where
  root : List String
  whiteouts : List String
deriving Repr, DecidableEq

/-- How the fallible calls of `prepareHostfsDir` end: `os.MkdirAll` of the whiteouts directory,
`ioutil.ReadDir("/")`, and, per entry name, `os.Stat` of its whiteout path failing with an error
other than not-exist, and `syscall.Mknod` of its whiteout. -/
structure HostfsCalls where
  mkdirAll : GoError
  readDir : GoError
  statError : String → GoError
  mknod : String → GoError

/-- The `allowedDirs` of `prepareHostfsDir`: the configured binds, or the default ones when none
is configured. -/
def allowedDirs (hostBinds : List String) : List String :=
  if hostBinds.length > 0 then hostBinds else defaultHostfsBinds

/-- The loop over the entries of `/` (launcher.go:591-619), from the whiteouts present. -/
def whiteoutLoop (calls : HostfsCalls) (allowed : List String) :
    List String → List String → GoError × List String
  | [], whiteouts => (none, whiteouts)
  | item :: items, whiteouts =>
    match calls.statError item with
    | some err => (some err, whiteouts)
    | none =>
      if item ∈ whiteouts then whiteoutLoop calls allowed items whiteouts
      else if item ∈ allowed then whiteoutLoop calls allowed items whiteouts
      else match calls.mknod item with
        | some err => (some err, whiteouts)
        | none => whiteoutLoop calls allowed items (whiteouts ++ [item])

/-- `prepareHostfsDir` (launcher.go:571-622). -/
def prepareHostfsDir (hostBinds : List String) (calls : HostfsCalls) (fs : Hostfs) :
    GoError × Hostfs :=
  match calls.mkdirAll with
  | some err => (some err, fs)
  | none =>
    match calls.readDir with
    | some err => (some err, fs)
    | none =>
      let (err, whiteouts) := whiteoutLoop calls (allowedDirs hostBinds) fs.root fs.whiteouts
      (err, { fs with whiteouts := whiteouts })

/-! ### What a successful run leaves -/

/-- A loop that succeeds adds exactly the entries that are not allowed to the whiteouts there
were: an entry already present stays, allowed or not. -/
theorem whiteoutLoop_mem (calls : HostfsCalls) (allowed : List String) :
    ∀ (items whiteouts : List String), (whiteoutLoop calls allowed items whiteouts).1 = none →
      ∀ x, x ∈ (whiteoutLoop calls allowed items whiteouts).2 ↔
        x ∈ whiteouts ∨ x ∈ items ∧ x ∉ allowed
  | [], _, _, x => by simp [whiteoutLoop]
  | item :: items, whiteouts, ok, x => by
    unfold whiteoutLoop at ok ⊢
    cases stat : calls.statError item with
    | some err => simp only [stat] at ok; cases ok
    | none =>
      simp only [stat] at ok ⊢
      split_ifs at ok ⊢ with present permitted
      · rw [whiteoutLoop_mem calls allowed items whiteouts ok x]
        by_cases same : x = item <;> simp_all
      · rw [whiteoutLoop_mem calls allowed items whiteouts ok x]
        by_cases same : x = item <;> simp_all
      · cases created : calls.mknod item with
        | some err => simp only [created] at ok; cases ok
        | none =>
          simp only [created] at ok ⊢
          rw [whiteoutLoop_mem calls allowed items _ ok x]
          by_cases same : x = item <;> simp_all

/-- The loop removes no whiteout, whether it succeeds or not. -/
theorem whiteoutLoop_keeps (calls : HostfsCalls) (allowed : List String) :
    ∀ (items whiteouts : List String), whiteouts ⊆ (whiteoutLoop calls allowed items whiteouts).2
  | [], _ => List.Subset.refl _
  | item :: items, whiteouts => by
    unfold whiteoutLoop
    cases calls.statError item with
    | some err => exact List.Subset.refl _
    | none =>
      dsimp only
      split_ifs
      · exact whiteoutLoop_keeps calls allowed items whiteouts
      · exact whiteoutLoop_keeps calls allowed items whiteouts
      · cases calls.mknod item with
        | some err => exact List.Subset.refl _
        | none =>
          exact List.Subset.trans (List.subset_append_left _ _)
            (whiteoutLoop_keeps calls allowed items _)

/-- No run of `prepareHostfsDir` removes a whiteout, whether it succeeds or not; after a run that
succeeds, the whiteouts are those there were and one for each entry of `/` that the run's binds
do not allow. A whiteout made under other binds therefore stays. -/
theorem prepareHostfsDir_whiteouts (hostBinds : List String) (calls : HostfsCalls) (fs : Hostfs) :
    fs.whiteouts ⊆ (prepareHostfsDir hostBinds calls fs).2.whiteouts ∧
      ((prepareHostfsDir hostBinds calls fs).1 = none → ∀ x,
        x ∈ (prepareHostfsDir hostBinds calls fs).2.whiteouts ↔
          x ∈ fs.whiteouts ∨ x ∈ fs.root ∧ x ∉ allowedDirs hostBinds) := by
  unfold prepareHostfsDir
  cases calls.mkdirAll with
  | some err => exact ⟨List.Subset.refl _, nofun⟩
  | none =>
    cases calls.readDir with
    | some err => exact ⟨List.Subset.refl _, nofun⟩
    | none =>
      exact ⟨whiteoutLoop_keeps calls _ fs.root fs.whiteouts,
        whiteoutLoop_mem calls _ fs.root fs.whiteouts⟩

/-- A run with `HostBinds` set to `bin` whites out `usr`; a later run with the default binds,
which allow `usr`, succeeds and keeps that whiteout. -/
theorem prepareHostfsDir_keeps_stale_whiteout :
    let calls : HostfsCalls := ⟨none, none, fun _ => none, fun _ => none⟩
    let first := prepareHostfsDir ["bin"] calls ⟨["bin", "usr"], []⟩
    let second := prepareHostfsDir [] calls first.2
    first.1 = none ∧ second.1 = none ∧ "usr" ∈ defaultHostfsBinds ∧
      "usr" ∈ second.2.root ∧ "usr" ∈ second.2.whiteouts := by
  decide

end AosServiceManager.Launcher
