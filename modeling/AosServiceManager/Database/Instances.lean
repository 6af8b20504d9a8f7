/-
Module: AosServiceManager.Database.Instances
Layer: Core and Proofs
Purpose: The `instances` table (src/database/database.go:295-356, 578-592, 640-688): rows keyed
  by the instance ID, its `PRIMARY KEY`, each with the service, subject and instance number that
  identify the instance to the cloud. `AddInstance` inserts, `UpdateInstance` rewrites every
  column but the ID and fails with `launcher.ErrNotExist` on a missing instance, and
  `RemoveInstance` ignores one. The reads bind their values: `GetInstanceByID` and
  `GetInstanceByIdent` scan the first row the query selects, and the other four return every row
  it selects. The `uint64` columns `instance` and `aosVersion` go through the conversion of
  `database/sql`, which refuses a value with its high bit set. Over every run of writes from a table with distinct IDs, the writes do what the
  map's operations do, and each read returns what the map holds. Nothing keeps two instances
  from sharing an ident: `GetInstanceByIdent` then returns the first of them.
Imports: AosServiceManager.Database.Store, AosServiceManager.Pbconvert.InstanceIdent
Trusted boundary: as Database.Store: SQLite with bound values, a scan in rowid order, and a
  statement that fails changes nothing.
Main exports: InstanceInfo, addInstance, updateInstance, removeInstance, getInstanceByIdent,
  getInstanceByID, getAllInstances, getRunningInstances, getSubjectInstances,
  getServiceInstances, InstanceCall, instances_runs_refine_map
-/
import AosServiceManager.Database.Store
import AosServiceManager.Pbconvert.InstanceIdent

namespace AosServiceManager.Database

/-! ### The table and its statements -/

/-- `launcher.InstanceInfo`, one row of `instances`: the columns `instanceID`, `serviceID`,
`subjectID`, `instance`, `aosVersion`, `unitSubject`, `running` and `uid`. -/
structure InstanceInfo where
  ident : Pbconvert.InstanceIdent
  aosVersion : Nat
  unitSubject : Bool
  instanceID : String
  uid : Int
  running : Bool
deriving Repr, DecidableEq

/-- `AddInstance` (database.go:295-299): the `uint64` columns `instance` and `aosVersion` are
the arguments `$4` and `$5`. -/
def addInstance (info : InstanceInfo) (rows : List InstanceInfo) :
    Except WriteError (List InstanceInfo) :=
  withUint64Args [(4, info.ident.«instance».toNat), (5, info.aosVersion)] <|
    (insertRow InstanceInfo.instanceID "UNIQUE constraint failed: instances.instanceID" info
      rows).mapError .sqlite

/-- `UpdateInstance` (database.go:301-312): every column but `instanceID`, with `instance` and
`aosVersion` the arguments `$3` and `$4`. -/
def updateInstance (info : InstanceInfo) (rows : List InstanceInfo) :
    Except WriteError (List InstanceInfo) :=
  withUint64Args [(3, info.ident.«instance».toNat), (4, info.aosVersion)] <|
    let (updated, count) := updateWhere InstanceInfo.instanceID info.instanceID
      (fun row => { info with instanceID := row.instanceID }) rows
    if count = 0 then .error .launcherErrNotExist else .ok updated

/-- `RemoveInstance` (database.go:314-322): `ErrNotExist` is dropped. -/
def removeInstance (instanceID : String) (rows : List InstanceInfo) : List InstanceInfo :=
  (deleteWhere InstanceInfo.instanceID instanceID rows).1

/-- `getInstanceInfoFromQuery` (database.go:640-660): the first row the query selects, `none`
being `launcher.ErrNotExist`. -/
def getInstanceInfoFromQuery (selects : InstanceInfo → Bool) (rows : List InstanceInfo) :
    Option InstanceInfo :=
  rows.find? selects

/-- `getInstancesFromQuery` (database.go:662-688): every row the query selects, in order. -/
def getInstancesFromQuery (selects : InstanceInfo → Bool) (rows : List InstanceInfo) :
    List InstanceInfo :=
  rows.filter selects

/-- `GetInstanceByIdent` (database.go:324-330). -/
def getInstanceByIdent (ident : Pbconvert.InstanceIdent) :
    List InstanceInfo → Option InstanceInfo :=
  getInstanceInfoFromQuery fun row => row.ident.serviceID = ident.serviceID &&
    row.ident.subjectID = ident.subjectID && row.ident.«instance» = ident.«instance»

/-- `GetInstanceByID` (database.go:332-335). -/
def getInstanceByID (instanceID : String) : List InstanceInfo → Option InstanceInfo :=
  getInstanceInfoFromQuery (·.instanceID = instanceID)

/-- `GetAllInstances` (database.go:337-340). -/
def getAllInstances : List InstanceInfo → List InstanceInfo :=
  getInstancesFromQuery fun _ => true

/-- `GetRunningInstances` (database.go:342-345). -/
def getRunningInstances : List InstanceInfo → List InstanceInfo :=
  getInstancesFromQuery (·.running)

/-- `GetSubjectInstances` (database.go:347-350). -/
def getSubjectInstances (subjectID : String) : List InstanceInfo → List InstanceInfo :=
  getInstancesFromQuery (·.ident.subjectID = subjectID)

/-- `GetServiceInstances` (database.go:352-355). -/
def getServiceInstances (serviceID : String) : List InstanceInfo → List InstanceInfo :=
  getInstancesFromQuery (·.ident.serviceID = serviceID)

/-! ### Runs of writes -/

/-- The information the table holds for each instance ID. -/
def instanceEntries (rows : List InstanceInfo) : String → Option InstanceInfo :=
  entries InstanceInfo.instanceID id rows

/-- The writes of `instances`. -/
inductive InstanceCall where
  | add (info : InstanceInfo)
  | update (info : InstanceInfo)
  | remove (instanceID : String)
deriving Repr, DecidableEq

/-- One write on the table: its error, or the table after it. -/
def InstanceCall.run : InstanceCall → List InstanceInfo → Except WriteError (List InstanceInfo)
  | .add info, rows => addInstance info rows
  | .update info, rows => updateInstance info rows
  | .remove instanceID, rows => .ok (removeInstance instanceID rows)

/-- What a write should do to the map from an instance ID to its information: an instance
number or version with its high bit set fails the driver's conversion, adding fails on an ID the
map holds, updating on one it does not hold, and a removal never fails. -/
def InstanceCall.apply : InstanceCall → (String → Option InstanceInfo) →
    Except WriteError (String → Option InstanceInfo)
  | .add info, m => withUint64Args [(4, info.ident.«instance».toNat), (5, info.aosVersion)] <|
    if (m info.instanceID).isSome then
      .error (.sqlite "UNIQUE constraint failed: instances.instanceID")
    else .ok fun k => if k = info.instanceID then some info else m k
  | .update info, m => withUint64Args [(3, info.ident.«instance».toNat), (4, info.aosVersion)] <|
    match m info.instanceID with
    | none => .error .launcherErrNotExist
    | some _ => .ok fun k => if k = info.instanceID then some info else m k
  | .remove instanceID, m => .ok fun k => if k = instanceID then none else m k

theorem updateInstance_eq (info : InstanceInfo) (rows : List InstanceInfo) :
    updateInstance info rows =
      withUint64Args [(3, info.ident.«instance».toNat), (4, info.aosVersion)]
        (if rows.countP (InstanceInfo.instanceID · = info.instanceID) = 0 then
          .error .launcherErrNotExist
        else .ok (updateWhere InstanceInfo.instanceID info.instanceID
          (fun row => { info with instanceID := row.instanceID }) rows).1) :=
  rfl

theorem instanceID_of_entries {rows : List InstanceInfo} {k : String} {info : InstanceInfo}
    (held : instanceEntries rows k = some info) : info.instanceID = k := by
  obtain ⟨found, search, rfl⟩ := Option.map_eq_some'.1 held
  simpa using List.find?_some search

/-- One write keeps the IDs distinct, fails as the map's operation does, and otherwise does to the
entries what it does to the map. -/
theorem InstanceCall.run_refines (call : InstanceCall) {rows : List InstanceInfo}
    (distinct : (rows.map InstanceInfo.instanceID).Nodup) :
    (call.run rows).map instanceEntries = call.apply (instanceEntries rows) ∧
      ∀ rows', call.run rows = .ok rows' → (rows'.map InstanceInfo.instanceID).Nodup := by
  cases call with
  | add info =>
    rw [InstanceCall.run, InstanceCall.apply, addInstance, insertRow, any_eq_isSome_entries _ id]
    refine withUint64Args_refines _ ?_
    cases held : entries InstanceInfo.instanceID id rows info.instanceID with
    | some _ =>
      simp only [instanceEntries, held, Option.isSome_some, if_true]
      exact ⟨rfl, fun _ failed => nomatch failed⟩
    | none =>
      simp only [instanceEntries, held, Option.isSome_none, Bool.false_eq_true, if_false]
      refine ⟨congrArg Except.ok (funext (entries_append_of_none _ _ held)), fun rows' done => ?_⟩
      cases done
      exact nodup_append_of_none _ id distinct held
  | update info =>
    rw [InstanceCall.run, InstanceCall.apply, updateInstance_eq]
    refine withUint64Args_refines _ ?_
    cases held : instanceEntries rows info.instanceID with
    | none =>
      rw [if_pos ((countP_eq_zero_iff _ id rows _).2 held)]
      exact ⟨rfl, fun _ failed => nomatch failed⟩
    | some found =>
      have same := instanceID_of_entries held
      rw [if_neg (countP_ne_zero_of_some _ id held)]
      refine ⟨congrArg Except.ok (funext fun k => ?_), fun rows' done => ?_⟩
      · rw [instanceEntries, entries_updateWhere_of_some InstanceInfo.instanceID id
          (fun row => { info with instanceID := row.instanceID })
          (fun row => { info with instanceID := row.instanceID }) (fun _ => rfl) (fun _ => rfl)
          held, same]
        rfl
      · cases done
        rw [map_key_updateWhere]
        exacts [distinct, fun _ => rfl]
  | remove instanceID =>
    refine ⟨congrArg Except.ok (funext (entries_deleteWhere _ _ instanceID · rows)), ?_⟩
    rintro rows' ⟨⟩
    exact nodup_deleteWhere _ distinct

/-! ### The reads -/

/-- In a table with distinct IDs, a row is there exactly when its ID's entry is that row. -/
theorem mem_iff_instanceEntries : ∀ {rows : List InstanceInfo},
    (rows.map InstanceInfo.instanceID).Nodup → ∀ info,
      info ∈ rows ↔ instanceEntries rows info.instanceID = some info
  | [], _, info => by simp [instanceEntries, entries]
  | row :: rows, distinct, info => by
    rw [List.map_cons, List.nodup_cons] at distinct
    have rest := mem_iff_instanceEntries distinct.2 info
    unfold instanceEntries entries at rest ⊢
    rw [List.mem_cons]
    by_cases same : row.instanceID = info.instanceID
    · rw [List.find?_cons_of_pos
        (p := fun x : InstanceInfo => decide (x.instanceID = info.instanceID)) _
        (decide_eq_true same)]
      refine ⟨fun member => ?_, fun found => .inl (Option.some.inj found).symm⟩
      rcases member with rfl | member
      · rfl
      · exact absurd (same ▸ List.mem_map_of_mem _ member) distinct.1
    · rw [List.find?_cons_of_neg
        (p := fun x : InstanceInfo => decide (x.instanceID = info.instanceID)) _
        (by simpa using same), ← rest]
      exact ⟨fun member => member.resolve_left fun equal => same (equal ▸ rfl), .inr⟩

theorem getInstanceByID_eq (rows : List InstanceInfo) (instanceID : String) :
    getInstanceByID instanceID rows = instanceEntries rows instanceID := by
  simp [getInstanceByID, getInstanceInfoFromQuery, instanceEntries, entries]

/-- A query that returns rows returns, in a table with distinct IDs, the map's instances it
selects. -/
theorem mem_getInstancesFromQuery {rows : List InstanceInfo}
    (distinct : (rows.map InstanceInfo.instanceID).Nodup) (selects : InstanceInfo → Bool)
    (info : InstanceInfo) :
    info ∈ getInstancesFromQuery selects rows ↔
      instanceEntries rows info.instanceID = some info ∧ selects info = true := by
  rw [getInstancesFromQuery, List.mem_filter, mem_iff_instanceEntries distinct]

theorem identSelects_eq (ident : Pbconvert.InstanceIdent) (row : InstanceInfo) :
    (row.ident.serviceID = ident.serviceID && row.ident.subjectID = ident.subjectID &&
      row.ident.«instance» = ident.«instance») = decide (row.ident = ident) := by
  obtain ⟨service, subject, number⟩ := row.ident
  obtain ⟨service', subject', number'⟩ := ident
  simp [Bool.and_assoc]

/-- `GetInstanceByIdent` returns an instance of the map with the ident when there is one, and
`launcher.ErrNotExist` only when there is none. -/
theorem getInstanceByIdent_spec {rows : List InstanceInfo}
    (distinct : (rows.map InstanceInfo.instanceID).Nodup) (ident : Pbconvert.InstanceIdent) :
    (∀ info, getInstanceByIdent ident rows = some info →
      info.ident = ident ∧ instanceEntries rows info.instanceID = some info) ∧
    (getInstanceByIdent ident rows = none ↔
      ∀ instanceID info,
        instanceEntries rows instanceID = some info → info.ident ≠ ident) := by
  have selects : getInstanceByIdent ident rows = rows.find? (decide <| ·.ident = ident) := by
    simp only [getInstanceByIdent, getInstanceInfoFromQuery, identSelects_eq]
  rw [selects]
  refine ⟨fun info found => ?_, ?_⟩
  · have chosen := List.find?_some found
    exact ⟨of_decide_eq_true chosen,
      (mem_iff_instanceEntries distinct info).1 (List.mem_of_find?_eq_some found)⟩
  · rw [List.find?_eq_none]
    refine ⟨fun none instanceID info held => ?_, fun none info member => ?_⟩
    · have member := (mem_iff_instanceEntries distinct info).2
        ((instanceID_of_entries held) ▸ held)
      simpa using none info member
    · simpa using none _ info ((mem_iff_instanceEntries distinct info).1 member)

/-- Over every run of writes from a table with distinct IDs, every write returns the error the
map's operation returns (the conversion error of an instance number or a version with its high
bit set, the constraint error of an ID added twice, `launcher.ErrNotExist` of an update of a
missing ID, or none), the IDs stay distinct and the table's entries are the map's. Every read
then answers from the map: `GetInstanceByID` returns the map's entry; a query that returns rows
(`GetAllInstances`, `GetRunningInstances`, `GetSubjectInstances`, `GetServiceInstances`) returns
the map's instances it selects; and `GetInstanceByIdent` returns an instance with the ident when
the map holds one, which need not be the only one. -/
theorem instances_runs_refine_map (calls : List InstanceCall) (rows : List InstanceInfo)
    (distinct : (rows.map InstanceInfo.instanceID).Nodup) :
    let run := runWrites InstanceCall.run calls rows
    let spec := runWrites InstanceCall.apply calls (instanceEntries rows)
    run.1 = spec.1 ∧ (run.2.map InstanceInfo.instanceID).Nodup ∧
      instanceEntries run.2 = spec.2 ∧
      (∀ instanceID, getInstanceByID instanceID run.2 = spec.2 instanceID) ∧
      (∀ selects info, info ∈ getInstancesFromQuery selects run.2 ↔
        spec.2 info.instanceID = some info ∧ selects info = true) ∧
      ∀ ident, (∀ info, getInstanceByIdent ident run.2 = some info →
          info.ident = ident ∧ spec.2 info.instanceID = some info) ∧
        (getInstanceByIdent ident run.2 = none ↔
          ∀ instanceID info, spec.2 instanceID = some info → info.ident ≠ ident) := by
  obtain ⟨errors, refines, distinct'⟩ := runWrites_simulates instanceEntries
    (fun rows => (rows.map InstanceInfo.instanceID).Nodup)
    (fun call _ distinct => (call.run_refines distinct).1)
    (fun call _ _ distinct => (call.run_refines distinct).2 _) calls rows distinct
  refine ⟨errors, distinct', refines, fun instanceID => ?_, fun selects info => ?_,
    fun ident => ?_⟩
  · rw [← refines, getInstanceByID_eq]
  · rw [← refines, mem_getInstancesFromQuery distinct']
  · rw [← refines]
    exact getInstanceByIdent_spec distinct' ident

/-- A run that adds two instances of one service, subject and instance number under different
IDs, updates the second, and then tries a version and an instance number with the high bit
set. -/
theorem instances_runs_refine_map_with_shared_ident :
    let first : InstanceInfo :=
      ⟨⟨"service0", "subject0", 0⟩, 1, false, "instance0", 5000, true⟩
    let second : InstanceInfo :=
      ⟨⟨"service0", "subject0", 0⟩, 1, false, "instance1", 5001, false⟩
    let calls := [InstanceCall.add first, .add second, .update { second with running := true },
      .update { first with aosVersion := 9223372036854775808 },
      .add ⟨⟨"service0", "subject0", 9223372036854775808⟩, 1, false, "instance2", 5002, false⟩]
    let run := runWrites InstanceCall.run calls []
    let spec := runWrites InstanceCall.apply calls (instanceEntries [])
    (([] : List InstanceInfo).map InstanceInfo.instanceID).Nodup ∧
      (run.1 = spec.1 ∧ (run.2.map InstanceInfo.instanceID).Nodup ∧
        instanceEntries run.2 = spec.2 ∧
        (∀ instanceID, getInstanceByID instanceID run.2 = spec.2 instanceID) ∧
        (∀ selects info, info ∈ getInstancesFromQuery selects run.2 ↔
          spec.2 info.instanceID = some info ∧ selects info = true) ∧
        ∀ ident, (∀ info, getInstanceByIdent ident run.2 = some info →
            info.ident = ident ∧ spec.2 info.instanceID = some info) ∧
          (getInstanceByIdent ident run.2 = none ↔
            ∀ instanceID info, spec.2 instanceID = some info → info.ident ≠ ident)) :=
  ⟨by decide, instances_runs_refine_map _ _ (by decide)⟩

/-- Both instances of the shared ident are added, and `GetInstanceByIdent` returns the first. -/
example : ((runWrites InstanceCall.run
      [.add ⟨⟨"service0", "subject0", 0⟩, 1, false, "instance0", 5000, true⟩,
        .add ⟨⟨"service0", "subject0", 0⟩, 1, false, "instance1", 5001, false⟩] []).1 =
      [none, none]) ∧
    ((getInstanceByIdent ⟨"service0", "subject0", 0⟩ (runWrites InstanceCall.run
      [.add ⟨⟨"service0", "subject0", 0⟩, 1, false, "instance0", 5000, true⟩,
        .add ⟨⟨"service0", "subject0", 0⟩, 1, false, "instance1", 5001, false⟩] []).2).map
      (·.instanceID) = some "instance0") := by
  decide

end AosServiceManager.Database
