/-
Module: AosServiceManager.Launcher.Spec
Layer: Core and Proofs
Purpose: `serviceSpec.mergeEnv` (spec.go, part_005:248-281), which merges the environment of
  `specconv.Example()` with the `Env` of the image config. Each default entry is replaced by the
  first image entry with its key, which the inner loop then deletes from `configEnv`; the image
  entries left over are appended. `mergedEnv` states the result without the deletion: for each
  default entry the first image entry with its key, or the default entry, then the image entries
  not chosen. With distinct default keys the loop computes `mergedEnv`, and its result is a
  permutation of the defaults that no image entry overrides followed by the whole image
  environment.
Imports: Mathlib.Data.List.Basic, AosServiceManager.Go.Basic
Trusted boundary: strings.SplitN and strings.Contains with the separator "=".
Main exports: splitKey, keyMatches, findEnv, mergeEnv, envKey, unchosen, mergedEnv, findEnv_eq,
  unchosen_cons, mergeEnvLoop_eq, mergeEnvLoop_perm, mergeEnv_contract
-/
import Mathlib.Data.List.Basic
import AosServiceManager.Go.Basic

namespace AosServiceManager.Launcher

/-- `strings.SplitN(s, "=", 2)[0]`: the text before the first `=`, or all of `s` without one. -/
def splitKey (s : String) : String := ⟨s.data.takeWhile (· ≠ '=')⟩

/-- Whether the image entry `data` has the key `key` (part_005:256-264): an entry without `=`
is compared whole. -/
def keyMatches (data key : String) : Bool :=
  if !Go.stringsContains data "=" then data == key else splitKey data == key

/-- The inner loop of `mergeEnv` (part_005:255-272): the first entry of `configEnv` whose key is
`key`, and `configEnv` with it deleted by `append(configEnv[:i], configEnv[i+1:]...)`. -/
def findEnv (key : String) : List String → Option (String × List String)
  | [] => none
  | data :: rest =>
    if keyMatches data key then some (data, rest)
    else (findEnv key rest).map fun (found, remaining) => (found, data :: remaining)

/-- The outer loop of `mergeEnv` over `spec.ocSpec.Process.Env`, with `resultEnvArray` as its
accumulator. -/
def mergeEnvLoop : List String → List String → List String → List String
  | [], configEnv, resultEnvArray => resultEnvArray ++ configEnv
  | result :: env, configEnv, resultEnvArray =>
    match findEnv (splitKey result) configEnv with
    | some (data, configEnv) => mergeEnvLoop env configEnv (resultEnvArray ++ [data])
    | none => mergeEnvLoop env configEnv (resultEnvArray ++ [result])

/-- `serviceSpec.mergeEnv` (part_005:248-281): the new `Process.Env` from the current one `env`
and the image config's `configEnv`. -/
def mergeEnv (env configEnv : List String) : List String :=
  mergeEnvLoop env configEnv []

/-! ### The merge as stated -/

/-- The key of an environment entry: the text before its first `=`, or the whole entry when it
has none. -/
def envKey (entry : String) : String :=
  if '=' ∈ entry.data then ⟨entry.data.takeWhile (· ≠ '=')⟩ else entry

/-- The image entries not chosen: walking `configEnv` in order, the first entry of each key in
`pending` is taken out and every other entry stays. -/
def unchosen (pending : List String) : List String → List String
  | [] => []
  | entry :: rest =>
    if envKey entry ∈ pending then unchosen (pending.erase (envKey entry)) rest
    else entry :: unchosen pending rest

/-- The environment the merge should leave: for each default entry, the first image entry with
its key or else the default entry, then the image entries not chosen. -/
def mergedEnv (env configEnv : List String) : List String :=
  env.map (fun entry => (configEnv.find? (envKey · = envKey entry)).getD entry) ++
    unchosen (env.map envKey) configEnv

/-! ### Keys -/

theorem splitKey_eq_envKey (s : String) : splitKey s = envKey s := by
  unfold splitKey envKey
  split_ifs with separated
  · rfl
  · rw [List.takeWhile_eq_self_iff.2 fun c member =>
      decide_eq_true (ne_of_mem_of_not_mem member separated)]

theorem stringsContains_separator (s : String) :
    Go.stringsContains s "=" = true ↔ '=' ∈ s.data := by
  rw [Go.stringsContains_iff]
  refine ⟨fun run => run.subset (List.mem_singleton_self '='), fun member => ?_⟩
  obtain ⟨before, after, split⟩ := List.append_of_mem member
  exact ⟨before, after, by rw [split]; simp⟩

/-- Both branches of the comparison read the key as `envKey` does. -/
theorem keyMatches_iff (data key : String) : keyMatches data key = true ↔ envKey data = key := by
  unfold keyMatches
  rw [← splitKey_eq_envKey]
  cases separated : Go.stringsContains data "=" with
  | true => simp
  | false =>
    have whole : splitKey data = data := by
      rw [splitKey_eq_envKey, envKey,
        if_neg (mt (stringsContains_separator data).2 (by simp [separated]))]
    simp [whole]

/-- The inner loop finds the first entry with the key and deletes exactly that one. -/
theorem findEnv_eq (key : String) : ∀ configEnv : List String,
    findEnv key configEnv = (configEnv.find? (envKey · = key)).map
      fun data => (data, configEnv.eraseP (envKey · = key))
  | [] => rfl
  | data :: rest => by
    by_cases same : envKey data = key
    · simp [findEnv, keyMatches_iff, same]
    · simp [findEnv, keyMatches_iff, same, findEnv_eq key rest, Option.map_map, Function.comp_def]

/-- The entry the inner loop finds, put back in front of what it leaves, is a reordering of
`configEnv`. -/
theorem perm_cons_eraseP {p : String → Bool} {found : String} :
    ∀ configEnv : List String, configEnv.find? p = some found →
      configEnv.Perm (found :: configEnv.eraseP p)
  | [], missing => nomatch missing
  | entry :: rest, first => by
    by_cases hit : p entry
    · rw [List.find?_cons_of_pos _ hit, Option.some.injEq] at first
      rw [List.eraseP_cons_of_pos hit, first]
    · rw [List.find?_cons_of_neg _ hit] at first
      rw [List.eraseP_cons_of_neg hit]
      exact ((perm_cons_eraseP rest first).cons entry).trans (.swap found entry _)

/-- Deleting the first entry of one key keeps the first entry of every other key. -/
theorem find?_eraseP_of_ne {key other : String} (differ : other ≠ key) :
    ∀ configEnv : List String, (configEnv.eraseP (envKey · = key)).find? (envKey · = other) =
      configEnv.find? (envKey · = other)
  | [] => rfl
  | entry :: rest => by
    by_cases same : envKey entry = key
    · rw [List.eraseP_cons_of_pos (by simpa using same),
        List.find?_cons_of_neg _ (by simpa [same] using differ.symm)]
    · rw [List.eraseP_cons_of_neg (by simpa using same), List.find?_cons, List.find?_cons,
        find?_eraseP_of_ne differ rest]

/-- ... and keeps whether any entry has another key. -/
theorem any_eraseP_of_ne {key other : String} (differ : other ≠ key) (configEnv : List String) :
    (configEnv.eraseP (envKey · = key)).any (envKey · = other) =
      configEnv.any (envKey · = other) := by
  apply Bool.eq_iff_iff.2
  simp only [List.any_eq_true, ← List.find?_isSome, find?_eraseP_of_ne differ]

/-- A key that no default entry has differs from the key of each. -/
theorem envKey_ne_of_not_mem {key : String} {env : List String} (fresh : key ∉ env.map envKey) :
    ∀ other ∈ env, envKey other ≠ key := fun _ member same =>
  fresh (same ▸ List.mem_map_of_mem envKey member)

/-! ### The image entries not chosen -/

@[simp] theorem unchosen_nil (configEnv : List String) : unchosen [] configEnv = configEnv := by
  induction configEnv with
  | nil => rfl
  | cons entry rest ih => simp [unchosen, ih]

/-- Taking out the first entry of a fresh key, then walking for the other keys, takes out the
same entries as walking for all of them. -/
theorem unchosen_cons (key : String) : ∀ (pending configEnv : List String), key ∉ pending →
    unchosen (key :: pending) configEnv = unchosen pending (configEnv.eraseP (envKey · = key))
  | _, [], _ => rfl
  | pending, entry :: rest, fresh => by
    by_cases same : envKey entry = key
    · simp [unchosen, same]
    rw [List.eraseP_cons_of_neg (by simpa using same), unchosen, unchosen]
    by_cases waiting : envKey entry ∈ pending
    · have later : key ∉ pending.erase (envKey entry) := fun member =>
        fresh (List.mem_of_mem_erase member)
      rw [if_pos (List.mem_cons_of_mem key waiting), if_pos waiting,
        List.erase_cons_tail (by simpa using Ne.symm same), unchosen_cons key _ rest later]
    · rw [if_neg (by simpa [same] using waiting), if_neg waiting,
        unchosen_cons key pending rest fresh]

/-! ### The loop computes the stated merge -/

/-- Every pass of the outer loop appends the entry `mergedEnv` puts at that place and leaves the
image entries that `mergedEnv` has not yet placed. -/
theorem mergeEnvLoop_eq : ∀ (env configEnv resultEnvArray : List String),
    (env.map envKey).Nodup →
    mergeEnvLoop env configEnv resultEnvArray = resultEnvArray ++ mergedEnv env configEnv
  | [], configEnv, resultEnvArray, _ => by simp [mergeEnvLoop, mergedEnv]
  | entry :: env, configEnv, resultEnvArray, distinct => by
    obtain ⟨fresh, distinct⟩ := List.nodup_cons.1 distinct
    rw [mergeEnvLoop, splitKey_eq_envKey, findEnv_eq, mergedEnv, List.map_cons, List.map_cons,
      unchosen_cons _ _ _ fresh]
    cases found : configEnv.find? (envKey · = envKey entry) with
    | none =>
      have untouched : configEnv.eraseP (envKey · = envKey entry) = configEnv :=
        List.eraseP_of_forall_not (by simpa using List.find?_eq_none.1 found)
      simp [mergeEnvLoop_eq env configEnv _ distinct, mergedEnv, untouched]
    | some data =>
      have others := envKey_ne_of_not_mem fresh
      simp only [Option.map_some', mergeEnvLoop_eq env _ _ distinct, mergedEnv, Option.getD_some]
      rw [List.map_congr_left fun other member => by rw [find?_eraseP_of_ne (others other member)]]
      simp

/-- The loop's result is a reordering of the default entries that no image entry overrides,
followed by the whole image environment. -/
theorem mergeEnvLoop_perm : ∀ (env configEnv resultEnvArray : List String),
    (env.map envKey).Nodup →
    (mergeEnvLoop env configEnv resultEnvArray).Perm (resultEnvArray ++
      env.filter (fun entry => !configEnv.any (envKey · = envKey entry)) ++ configEnv)
  | [], configEnv, resultEnvArray, _ => by simp [mergeEnvLoop]
  | entry :: env, configEnv, resultEnvArray, distinct => by
    obtain ⟨fresh, distinct⟩ := List.nodup_cons.1 distinct
    rw [mergeEnvLoop, splitKey_eq_envKey, findEnv_eq]
    cases found : configEnv.find? (envKey · = envKey entry) with
    | none =>
      have unmatched : configEnv.any (envKey · = envKey entry) = false :=
        List.any_eq_false.2 (List.find?_eq_none.1 found)
      rw [Option.map_none', List.filter_cons_of_pos (by rw [unmatched]; rfl)]
      simpa using mergeEnvLoop_perm env configEnv (resultEnvArray ++ [entry]) distinct
    | some data =>
      have matched : configEnv.any (envKey · = envKey entry) = true :=
        List.any_eq_true.2 (List.find?_isSome.1 (by rw [found]; rfl))
      have others := envKey_ne_of_not_mem fresh
      rw [Option.map_some', List.filter_cons_of_neg (by rw [matched]; decide)]
      have kept := mergeEnvLoop_perm env (configEnv.eraseP (envKey · = envKey entry))
        (resultEnvArray ++ [data]) distinct
      rw [List.filter_congr fun other member => by rw [any_eraseP_of_ne (others other member)]]
        at kept
      refine kept.trans ?_
      simp only [List.append_assoc, List.singleton_append]
      exact .append_left _ (List.perm_middle.symm.trans
        (.append_left _ (perm_cons_eraseP configEnv found).symm))

/-! ### The contract of `mergeEnv` -/

/-- With distinct default keys, `mergeEnv` leaves the stated merge, and that is a reordering of
the default entries that no image entry overrides followed by the whole image environment. -/
theorem mergeEnv_contract (env configEnv : List String) (distinct : (env.map envKey).Nodup) :
    mergeEnv env configEnv = mergedEnv env configEnv ∧
      (mergeEnv env configEnv).Perm
        (env.filter (fun entry => !configEnv.any (envKey · = envKey entry)) ++ configEnv) := by
  refine ⟨mergeEnvLoop_eq env configEnv [] distinct, ?_⟩
  simpa using mergeEnvLoop_perm env configEnv [] distinct

/-- runc's example environment and the image environment of `TestSpecFromImageConfig`. -/
theorem mergeEnv_contract_on_test_config :
    let env := ["PATH=/usr/local/sbin:/usr/local/bin:/usr/sbin:/usr/bin:/sbin:/bin", "TERM=xterm"]
    let configEnv := ["PATH=/usr/local/sbin", "FOO=oci_is_a", "BAR=well_written_spec", "MY_VAR",
      "TERM"]
    (env.map envKey).Nodup ∧ mergeEnv env configEnv = mergedEnv env configEnv ∧
      (mergeEnv env configEnv).Perm
        (env.filter (fun entry => !configEnv.any (envKey · = envKey entry)) ++ configEnv) :=
  ⟨by decide, mergeEnv_contract _ _ (by decide)⟩

example : mergeEnv ["PATH=/usr/local/sbin:/usr/local/bin:/usr/sbin:/usr/bin:/sbin:/bin",
    "TERM=xterm"] ["PATH=/usr/local/sbin", "FOO=oci_is_a", "BAR=well_written_spec", "MY_VAR",
    "TERM"] = ["PATH=/usr/local/sbin", "TERM", "FOO=oci_is_a", "BAR=well_written_spec", "MY_VAR"] :=
  by decide

end AosServiceManager.Launcher
