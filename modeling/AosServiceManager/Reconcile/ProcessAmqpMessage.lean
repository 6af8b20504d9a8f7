/-
Module: AosServiceManager.Reconcile.ProcessAmqpMessage
Layer: Core and Proofs
Purpose: `processAmqpMessage` (src/servicemanager.go:49-112), the reconcile step that turns the
  desired service list from the cloud and the installed list from the launcher into
  `InstallService` and `RemoveService` calls. The map it builds stores pointers to the variables
  of two `range` loops, so what the calls carry depends on how Go scopes those variables: one
  variable per loop before Go 1.22 (the repository's CI image is `golang:1.20`,
  src/unnamed/part_003:1), one per iteration from Go 1.22 on. Both scopes are modelled; the map's
  iteration order is arbitrary and is a parameter. With one variable per loop every pointer of
  the map reads the last entry of its list, so an earlier desired entry is never installed. With
  one per iteration the two loops build a map whose pointers
  read back the entries of their own IDs, and the calls are exactly those of `reconcilePlan`, the
  plan written from the spec.
Imports: AosServiceManager.Go.Basic, Mathlib.Data.List.Nodup
Trusted boundary: none
Main exports: ServiceInfo, ServiceInfoFromCloud, LauncherCall, RangeScope, servicesMap, calls,
  reconcilePlan, processAmqpMessage_drops_first_desired,
  perIteration_calls_reconcilePlan
-/
import AosServiceManager.Go.Basic
import Mathlib.Data.List.Nodup

namespace AosServiceManager.Reconcile

/-- `amqp.ServiceInfo` as `GetServicesInfo` returns it for an installed service. -/
structure ServiceInfo where
  id : String
  version : Nat
  status : String
deriving Repr, DecidableEq

/-- `amqp.ServiceInfoFromCloud`: a desired service; `urls` stands for the download fields the
launcher receives unchanged. -/
structure ServiceInfoFromCloud where
  id : String
  version : Nat
  urls : List String
deriving Repr, DecidableEq

/-- A call `processAmqpMessage` makes on the launcher. -/
inductive LauncherCall where
  | installService (info : ServiceInfoFromCloud)
  | removeService (id : String)
deriving Repr, DecidableEq

/-- How a `for _, x := range xs` loop binds `x`: one variable for the whole loop (Go before
1.22), or a fresh variable per iteration (Go 1.22 and later). -/
inductive RangeScope where
  | perLoop
  | perIteration
deriving Repr, DecidableEq

namespace RangeScope

/-- The variable iteration `i` assigns. -/
def slot : RangeScope → Nat → Nat
  | perLoop, _ => 0
  | perIteration, i => i

/-- What variable `v` of a range loop over `xs` holds once the loop is over: a single variable
keeps the last element. `fallback` is never read through a pointer the loop created. -/
def load {α : Type} (scope : RangeScope) (xs : List α) (fallback : α) (v : Nat) : α :=
  match scope with
  | perLoop => xs.getLastD fallback
  | perIteration => xs.getD v fallback

end RangeScope

/-- `serviceDesc` (servicemanager.go:61-64): pointers to the loop variables, as variable indices;
`none` is `nil`. -/
structure ServiceDesc where
  serviceInfo : Option Nat
  serviceInfoFromCloud : Option Nat
deriving Repr, DecidableEq

/-- `servicesMap[key] = value`; a key keeps the position of its first insertion. -/
def mapStore : List (String × ServiceDesc) → String → ServiceDesc → List (String × ServiceDesc)
  | [], key, value => [(key, value)]
  | (k, v) :: rest, key, value =>
    if k = key then (k, value) :: rest else (k, v) :: mapStore rest key value

/-- `servicesMap[key]`. -/
def mapLoad (m : List (String × ServiceDesc)) (key : String) : Option ServiceDesc :=
  (m.find? fun entry => entry.1 = key).map Prod.snd

/-- The first range loop (servicemanager.go:68-70), from iteration `i` on. -/
def storeInstalled (scope : RangeScope) (m : List (String × ServiceDesc)) :
    Nat → List ServiceInfo → List (String × ServiceDesc)
  | _, [] => m
  | i, serviceInfo :: rest =>
    storeInstalled scope (mapStore m serviceInfo.id ⟨some (scope.slot i), none⟩) (i + 1) rest

/-- The second range loop (servicemanager.go:72-77), from iteration `i` on. -/
def storeDesired (scope : RangeScope) (m : List (String × ServiceDesc)) :
    Nat → List ServiceInfoFromCloud → List (String × ServiceDesc)
  | _, [] => m
  | i, serviceInfoFromCloud :: rest =>
    let service := (mapLoad m serviceInfoFromCloud.id).getD ⟨none, none⟩
    storeDesired scope
      (mapStore m serviceInfoFromCloud.id
        { service with serviceInfoFromCloud := some (scope.slot i) }) (i + 1) rest

/-- The map `processAmqpMessage` iterates over. -/
def servicesMap (scope : RangeScope) (currentList : List ServiceInfo)
    (data : List ServiceInfoFromCloud) : List (String × ServiceDesc) :=
  storeDesired scope (storeInstalled scope [] 0 currentList) 0 data

/-- The body of the last loop (servicemanager.go:79-104) for one entry: update, install or
remove, reading the pointed-to loop variables once both loops are over. -/
def serviceCall (scope : RangeScope) (currentList : List ServiceInfo)
    (data : List ServiceInfoFromCloud) (service : ServiceDesc) : Option LauncherCall :=
  let serviceInfo := service.serviceInfo.map (scope.load currentList ⟨"", 0, ""⟩)
  let serviceInfoFromCloud := service.serviceInfoFromCloud.map (scope.load data ⟨"", 0, []⟩)
  match serviceInfo, serviceInfoFromCloud with
  | some serviceInfo, some serviceInfoFromCloud =>
    if serviceInfoFromCloud.version > serviceInfo.version then
      some (.installService serviceInfoFromCloud)
    else none
  | none, some serviceInfoFromCloud => some (.installService serviceInfoFromCloud)
  | some serviceInfo, none => some (.removeService serviceInfo.id)
  | none, none => none

/-- The launcher calls of `processAmqpMessage` when the map is visited in the order `visit`. -/
def calls (scope : RangeScope) (currentList : List ServiceInfo) (data : List ServiceInfoFromCloud)
    (visit : List (String × ServiceDesc)) : List LauncherCall :=
  visit.filterMap fun entry => serviceCall scope currentList data entry.2

/-- Any visiting order of the same map makes the same calls, up to order. -/
theorem calls_perm {scope : RangeScope} {currentList : List ServiceInfo}
    {data : List ServiceInfoFromCloud} {visit visit' : List (String × ServiceDesc)}
    (same : visit.Perm visit') :
    (calls scope currentList data visit).Perm (calls scope currentList data visit') :=
  same.filterMap _

/-! ### One variable per loop -/

/-- Two desired services, nothing installed: under the repository's toolchain both map entries
point at the one loop variable, which ends holding `b`, so `a` is never installed whatever the
order of the map. -/
theorem processAmqpMessage_drops_first_desired :
    let data : List ServiceInfoFromCloud := [⟨"a", 1, []⟩, ⟨"b", 1, []⟩]
    ∀ visit, visit.Perm (servicesMap .perLoop [] data) →
      LauncherCall.installService ⟨"a", 1, []⟩ ∉ calls .perLoop [] data visit := by
  intro data visit same
  rw [(calls_perm same).mem_iff]
  decide

/-! ### A fresh variable per iteration -/

/-- The call the reconcile plan makes for one ID, from its installed and its desired entry. -/
def planCall : Option ServiceInfo → Option ServiceInfoFromCloud → Option LauncherCall
  | some serviceInfo, some serviceInfoFromCloud =>
    if serviceInfoFromCloud.version > serviceInfo.version then
      some (.installService serviceInfoFromCloud)
    else none
  | none, some serviceInfoFromCloud => some (.installService serviceInfoFromCloud)
  | some serviceInfo, none => some (.removeService serviceInfo.id)
  | none, none => none

/-- The reconcile plan, from the spec's words: for each installed service an install of its newer
desired entry or a removal when it is not desired, then an install of each desired entry whose
ID is not installed. -/
def reconcilePlan (currentList : List ServiceInfo) (data : List ServiceInfoFromCloud) :
    List LauncherCall :=
  currentList.filterMap (fun serviceInfo =>
      planCall (some serviceInfo) (data.find? (·.id = serviceInfo.id))) ++
    (data.filter fun serviceInfoFromCloud =>
      !currentList.any (·.id = serviceInfoFromCloud.id)).map .installService

example : reconcilePlan [⟨"a", 1, ""⟩, ⟨"c", 1, ""⟩] [⟨"a", 2, []⟩, ⟨"b", 1, []⟩] =
    [.installService ⟨"a", 2, []⟩, .removeService "c", .installService ⟨"b", 1, []⟩] := by
  decide

/-- The last loop's body decides as the plan does, on the entries its pointers read. -/
theorem serviceCall_eq_planCall (scope : RangeScope) (currentList : List ServiceInfo)
    (data : List ServiceInfoFromCloud) (service : ServiceDesc) :
    serviceCall scope currentList data service =
      planCall (service.serviceInfo.map (scope.load currentList ⟨"", 0, ""⟩))
        (service.serviceInfoFromCloud.map (scope.load data ⟨"", 0, []⟩)) := by
  unfold serviceCall
  cases service.serviceInfo.map (scope.load currentList ⟨"", 0, ""⟩) <;>
    cases service.serviceInfoFromCloud.map (scope.load data ⟨"", 0, []⟩) <;> rfl

/-- In a list with distinct IDs, the entry found for an element's ID is that element. -/
theorem find?_id_of_mem {α : Type} {xs : List α} {f : α → String} {x : α}
    (distinct : (xs.map f).Nodup) (member : x ∈ xs) : xs.find? (fun y => f y = f x) = some x := by
  induction xs with
  | nil => cases member
  | cons y rest ih =>
    rw [List.map_cons, List.nodup_cons] at distinct
    rcases List.mem_cons.1 member with rfl | later
    · simp
    · have other : f y ≠ f x := fun same => distinct.1 (same ▸ List.mem_map_of_mem f later)
      simp [other, ih distinct.2 later]

theorem find?_id_eq_none {α : Type} {xs : List α} {f : α → String} {key : String}
    (absent : key ∉ xs.map f) : xs.find? (fun y => f y = key) = none :=
  List.find?_eq_none.2 fun y member named => absent (by simpa using ⟨y, member, by simpa using named⟩)

theorem mapStore_fresh {m : List (String × ServiceDesc)} {key : String} (value : ServiceDesc)
    (fresh : key ∉ m.map Prod.fst) : mapStore m key value = m ++ [(key, value)] := by
  induction m with
  | nil => rfl
  | cons entry rest ih =>
    obtain ⟨k, v⟩ := entry
    simp only [List.map_cons, List.mem_cons, not_or] at fresh
    simp [mapStore, Ne.symm fresh.1, ih fresh.2]

theorem mapStore_keys_of_mem {m : List (String × ServiceDesc)} {key : String} (value : ServiceDesc)
    (present : key ∈ m.map Prod.fst) : (mapStore m key value).map Prod.fst = m.map Prod.fst := by
  induction m with
  | nil => cases present
  | cons entry rest ih =>
    obtain ⟨k, v⟩ := entry
    by_cases same : k = key
    · simp [mapStore, same]
    · have later : key ∈ rest.map Prod.fst := by
        simpa [Ne.symm same] using present
      simp [mapStore, same, ih later]

/-- With distinct keys, an entry of the map after a store is the stored one or an entry of
another key that was there before. -/
theorem mem_mapStore {m : List (String × ServiceDesc)} {key : String} {value : ServiceDesc}
    (distinct : (m.map Prod.fst).Nodup) {e : String × ServiceDesc}
    (member : e ∈ mapStore m key value) : e = (key, value) ∨ e ∈ m ∧ e.1 ≠ key := by
  induction m with
  | nil => exact .inl (List.mem_singleton.1 member)
  | cons entry rest ih =>
    obtain ⟨k, v⟩ := entry
    rw [List.map_cons, List.nodup_cons] at distinct
    simp only [mapStore] at member
    split_ifs at member with same
    · rcases List.mem_cons.1 member with rfl | later
      · exact .inl (by rw [same])
      · refine .inr ⟨List.mem_cons_of_mem _ later, fun named => distinct.1 ?_⟩
        rw [same, ← named]
        exact List.mem_map.2 ⟨e, later, rfl⟩
    · rcases List.mem_cons.1 member with rfl | later
      · exact .inr ⟨List.mem_cons_self _ _, same⟩
      · exact (ih distinct.2 later).imp_right fun ⟨old, other⟩ => ⟨List.mem_cons_of_mem _ old, other⟩

theorem mapLoad_mem {m : List (String × ServiceDesc)} {key : String} {desc : ServiceDesc}
    (loaded : mapLoad m key = some desc) : (key, desc) ∈ m := by
  obtain ⟨e, found, rfl⟩ := Option.map_eq_some'.1 loaded
  have named : e.1 = key := by simpa using List.find?_some found
  exact named ▸ List.mem_of_find?_eq_some found

theorem mapLoad_eq_none {m : List (String × ServiceDesc)} {key : String}
    (missing : mapLoad m key = none) : key ∉ m.map Prod.fst := fun present => by
  obtain ⟨e, member, rfl⟩ := List.mem_map.1 present
  simp only [mapLoad, Option.map_eq_none', List.find?_eq_none] at missing
  exact missing e member (by simp)


theorem find?_append_of_mem {α : Type} {xs ys : List α} {f : α → String} {key : String}
    (present : key ∈ xs.map f) :
    (xs ++ ys).find? (fun y => f y = key) = xs.find? (fun y => f y = key) := by
  rw [List.find?_append]
  obtain ⟨x, member, rfl⟩ := List.mem_map.1 present
  cases found : xs.find? (fun y => f y = f x) with
  | none => exact absurd (List.find?_eq_none.1 found x member) (by simp)
  | some _ => rfl

theorem find?_append_of_not_mem {α : Type} {xs ys : List α} {f : α → String} {key : String}
    (absent : key ∉ xs.map f) :
    (xs ++ ys).find? (fun y => f y = key) = ys.find? (fun y => f y = key) := by
  rw [List.find?_append, find?_id_eq_none absent, Option.none_or]

/-- With distinct IDs, the entry a loop reaches has an ID none of the entries before it has. -/
theorem not_mem_map_of_nodup {α : Type} {f : α → String} {done rest : List α} {x : α}
    (distinct : ((done ++ x :: rest).map f).Nodup) : f x ∉ done.map f := fun member => by
  rw [List.map_append, List.map_cons] at distinct
  exact (List.nodup_append.1 distinct).2.2 member (List.mem_cons_self _ _)

/-- What the first loop has stored after the installed services `done`: their IDs in order, each
pointer reading back the installed service of the entry's ID, and no desired pointer. -/
structure InstalledMap (currentList done : List ServiceInfo) (m : List (String × ServiceDesc)) :
    Prop where
  keys : m.map Prod.fst = done.map (·.id)
  installed : ∀ e ∈ m, e.2.serviceInfo.map (currentList.getD · ⟨"", 0, ""⟩) = done.find? (·.id = e.1)
  desired : ∀ e ∈ m, e.2.serviceInfoFromCloud = none

theorem storeInstalled_perIteration {currentList : List ServiceInfo}
    (distinct : (currentList.map (·.id)).Nodup) :
    ∀ (rest done : List ServiceInfo) (m : List (String × ServiceDesc)), currentList = done ++ rest →
      InstalledMap currentList done m →
      InstalledMap currentList currentList (storeInstalled .perIteration m done.length rest)
  | [], done, m, split, stored => by
    rw [List.append_nil] at split
    subst split
    exact stored
  | serviceInfo :: rest, done, m, split, stored => by
    have fresh := not_mem_map_of_nodup (split ▸ distinct)
    have step : InstalledMap currentList (done ++ [serviceInfo])
        (mapStore m serviceInfo.id ⟨some done.length, none⟩) := by
      rw [mapStore_fresh _ (stored.keys ▸ fresh)]
      refine ⟨by simp [stored.keys], fun e member => ?_, fun e member => ?_⟩
      · rcases List.mem_append.1 member with old | added
        · rw [stored.installed e old, find?_append_of_mem (stored.keys ▸ List.mem_map_of_mem _ old)]
        · obtain rfl := List.mem_singleton.1 added
          simp [find?_append_of_not_mem fresh, split, List.getD_eq_getElem?_getD,
            List.getElem?_append_right, List.getElem_append_right]
      · rcases List.mem_append.1 member with old | added
        · exact stored.desired e old
        · obtain rfl := List.mem_singleton.1 added
          rfl
    have next := storeInstalled_perIteration distinct rest (done ++ [serviceInfo]) _
      (by simp [split]) step
    rwa [List.length_append, List.length_singleton] at next


/-- What the second loop has stored after the desired entries `done`: the installed IDs, then the
IDs of the entries of `done` that are not installed, each once, and every pointer reading back the
entry of the entry's ID. -/
structure DesiredMap (currentList : List ServiceInfo) (data done : List ServiceInfoFromCloud)
    (m : List (String × ServiceDesc)) : Prop where
  keys : m.map Prod.fst = currentList.map (·.id) ++
    (done.filter fun d => !currentList.any (·.id = d.id)).map (·.id)
  distinct : (m.map Prod.fst).Nodup
  installed : ∀ e ∈ m,
    e.2.serviceInfo.map (currentList.getD · ⟨"", 0, ""⟩) = currentList.find? (·.id = e.1)
  desired : ∀ e ∈ m,
    e.2.serviceInfoFromCloud.map (data.getD · ⟨"", 0, []⟩) = done.find? (·.id = e.1)

theorem storeDesired_perIteration {currentList : List ServiceInfo} {data : List ServiceInfoFromCloud}
    (distinct : (data.map (·.id)).Nodup) :
    ∀ (rest done : List ServiceInfoFromCloud) (m : List (String × ServiceDesc)), data = done ++ rest →
      DesiredMap currentList data done m →
      DesiredMap currentList data data (storeDesired .perIteration m done.length rest)
  | [], done, m, split, stored => by
    rw [List.append_nil] at split
    subst split
    exact stored
  | d :: rest, done, m, split, stored => by
    have fresh := not_mem_map_of_nodup (split ▸ distinct)
    have notNew : d.id ∉ (done.filter fun d => !currentList.any (·.id = d.id)).map (·.id) :=
      fun member => fresh ((List.filter_sublist done).map _ |>.subset member)
    have loaded : ((mapLoad m d.id).getD ⟨none, none⟩).serviceInfo.map
        (currentList.getD · ⟨"", 0, ""⟩) = currentList.find? (·.id = d.id) := by
      cases found : mapLoad m d.id with
      | some desc => exact stored.installed _ (mapLoad_mem found)
      | none =>
        have absent := mapLoad_eq_none found
        rw [stored.keys] at absent
        exact (find?_id_eq_none fun member => absent (List.mem_append_left _ member)).symm
    have readsBack : (done ++ [d]).find? (·.id = d.id) = some d := by
      rw [find?_append_of_not_mem fresh]
      simp
    have step : DesiredMap currentList data (done ++ [d]) (mapStore m d.id
        { (mapLoad m d.id).getD ⟨none, none⟩ with serviceInfoFromCloud := some done.length }) := by
      refine ⟨?_, ?_, fun e member => ?_, fun e member => ?_⟩
      · by_cases present : d.id ∈ m.map Prod.fst
        · have installed : currentList.any (·.id = d.id) = true := by
            rw [stored.keys] at present
            rcases List.mem_append.1 present with old | new
            · simpa using old
            · exact absurd new notNew
          rw [mapStore_keys_of_mem _ present, stored.keys]
          simp [List.filter_append, installed]
        · have installed : currentList.any (·.id = d.id) = false := by
            rw [stored.keys] at present
            simpa using fun member => present (List.mem_append_left _ member)
          rw [mapStore_fresh _ present, List.map_append, stored.keys]
          simp [List.filter_append, installed]
      · by_cases present : d.id ∈ m.map Prod.fst
        · rw [mapStore_keys_of_mem _ present]
          exact stored.distinct
        · rw [mapStore_fresh _ present, List.map_append]
          simpa using stored.distinct.concat present
      · rcases mem_mapStore stored.distinct member with rfl | ⟨old, _⟩
        · exact loaded
        · exact stored.installed e old
      · rcases mem_mapStore stored.distinct member with rfl | ⟨old, other⟩
        · simp [split, readsBack, List.getD_eq_getElem?_getD, List.getElem?_append_right,
            List.getElem_append_right]
        · rw [stored.desired e old, List.find?_append]
          simp [Ne.symm other]
    have next := storeDesired_perIteration distinct rest (done ++ [d]) _ (by simp [split]) step
    rwa [List.length_append, List.length_singleton] at next

/-- With a fresh variable per iteration and distinct IDs, every pointer of the map reads back the
entry of its own ID. -/
theorem servicesMap_perIteration {currentList : List ServiceInfo} {data : List ServiceInfoFromCloud}
    (installedDistinct : (currentList.map (·.id)).Nodup) (desiredDistinct : (data.map (·.id)).Nodup) :
    DesiredMap currentList data data (servicesMap .perIteration currentList data) := by
  have first : InstalledMap currentList currentList (storeInstalled .perIteration [] 0 currentList) :=
    storeInstalled_perIteration installedDistinct currentList [] [] (by simp) ⟨rfl, nofun, nofun⟩
  refine storeDesired_perIteration desiredDistinct data [] _ (by simp)
    ⟨by simpa using first.keys, by rw [first.keys]; exact installedDistinct, first.installed,
      fun e member => by simp [first.desired e member]⟩

/-- With a fresh variable per iteration, the calls in the map's own order are the plan's. -/
theorem perIteration_calls_servicesMap {currentList : List ServiceInfo}
    {data : List ServiceInfoFromCloud} (installedDistinct : (currentList.map (·.id)).Nodup)
    (desiredDistinct : (data.map (·.id)).Nodup) :
    calls .perIteration currentList data (servicesMap .perIteration currentList data) =
      reconcilePlan currentList data := by
  have stored := servicesMap_perIteration installedDistinct desiredDistinct
  have each : ∀ e ∈ servicesMap .perIteration currentList data,
      serviceCall .perIteration currentList data e.2 =
        planCall (currentList.find? (·.id = e.1)) (data.find? (·.id = e.1)) := fun e member => by
    rw [serviceCall_eq_planCall, ← stored.installed e member, ← stored.desired e member]
    rfl
  have viaKeys : (servicesMap .perIteration currentList data).filterMap
      (fun e => planCall (currentList.find? (·.id = e.1)) (data.find? (·.id = e.1))) =
      ((servicesMap .perIteration currentList data).map Prod.fst).filterMap
        (fun key => planCall (currentList.find? (·.id = key)) (data.find? (·.id = key))) := by
    rw [List.filterMap_map]
    rfl
  unfold calls reconcilePlan
  rw [List.filterMap_congr each, viaKeys, stored.keys, List.filterMap_append, List.filterMap_map,
    List.filterMap_map, ← List.filterMap_eq_map]
  congr 1
  · refine List.filterMap_congr fun serviceInfo member => ?_
    simp only [Function.comp_apply, find?_id_of_mem installedDistinct member]
  · refine List.filterMap_congr fun serviceInfoFromCloud member => ?_
    obtain ⟨listed, fresh⟩ := List.mem_filter.1 member
    have absent : serviceInfoFromCloud.id ∉ currentList.map (·.id) := by simpa using fresh
    simp only [Function.comp_apply, find?_id_eq_none absent,
      find?_id_of_mem desiredDistinct listed, planCall]

/-- With a fresh variable per iteration (Go 1.22 and later), for installed and desired lists with
distinct IDs, `processAmqpMessage` makes exactly the calls of the reconcile plan, in whatever
order the map is visited. -/
theorem perIteration_calls_reconcilePlan (currentList : List ServiceInfo)
    (data : List ServiceInfoFromCloud) (installedDistinct : (currentList.map (·.id)).Nodup)
    (desiredDistinct : (data.map (·.id)).Nodup) (visit : List (String × ServiceDesc))
    (order : visit.Perm (servicesMap .perIteration currentList data)) :
    (calls .perIteration currentList data visit).Perm (reconcilePlan currentList data) :=
  perIteration_calls_servicesMap installedDistinct desiredDistinct ▸ calls_perm order

theorem perIteration_calls_reconcilePlan_for_three_services :
    (([⟨"a", 1, ""⟩, ⟨"c", 1, ""⟩] : List ServiceInfo).map (·.id)).Nodup ∧
    (([⟨"a", 2, []⟩, ⟨"b", 1, []⟩] : List ServiceInfoFromCloud).map (·.id)).Nodup ∧
    (calls .perIteration [⟨"a", 1, ""⟩, ⟨"c", 1, ""⟩] [⟨"a", 2, []⟩, ⟨"b", 1, []⟩]
      (servicesMap .perIteration [⟨"a", 1, ""⟩, ⟨"c", 1, ""⟩] [⟨"a", 2, []⟩, ⟨"b", 1, []⟩])).Perm
      (reconcilePlan [⟨"a", 1, ""⟩, ⟨"c", 1, ""⟩] [⟨"a", 2, []⟩, ⟨"b", 1, []⟩]) :=
  have installed : (([⟨"a", 1, ""⟩, ⟨"c", 1, ""⟩] : List ServiceInfo).map (·.id)).Nodup := by
    decide
  have desired : (([⟨"a", 2, []⟩, ⟨"b", 1, []⟩] : List ServiceInfoFromCloud).map (·.id)).Nodup := by
    decide
  ⟨installed, desired, perIteration_calls_reconcilePlan _ _ installed desired _ (List.Perm.refl _)⟩

end AosServiceManager.Reconcile
