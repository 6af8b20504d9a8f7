/-
Module: AosServiceManager.Database.Store
Layer: Core and Proofs
Purpose: The writes of the `trafficmonitor` and `storagestate` tables (database.go:162-196,
  372-405) against an abstract map from a key to its entry. Both tables have their key as
  `PRIMARY KEY`: `INSERT` fails on a key that is taken, and `UPDATE` and `DELETE` change the
  rows of one key and count them, a count of zero being `ErrNotExist` for `executeQuery`.
  `SetTrafficMonitorData` updates or else inserts, the storage-state setters fail on a missing
  instance, and the removals ignore one. Before a statement runs, `database/sql` refuses a
  `uint64` argument with its high bit set, and a `time.Time` is stored as text that go-sqlite3
  reads back only for the years 0 to 9999. Over every run of writes from a table with distinct
  keys, the keys stay distinct and every write returns and does what the map's operation does;
  for every key without a quote or a NUL that names no column, the spliced lookups of
  Database.Lookup then return the map's entry.
Imports: Mathlib.Data.List.Nodup, AosServiceManager.Database.Lookup
Trusted boundary: SQLite's `INSERT`, `UPDATE` and `DELETE` with a bound key, which compare text
  exactly; `driver.DefaultParameterConverter` and go-sqlite3's binding and parsing of a
  `TIMESTAMP`, as `convertUint64Args` and `readTimestamp` state them; a statement that fails
  changes nothing.
Main exports: convertUint64Args, withUint64Args, readTimestamp, updateWhere, deleteWhere,
  insertRow, setTrafficMonitorData, removeTrafficMonitorData, addStorageStateInfo,
  setStorageStateQuotasByID, setStateChecksumByID, removeStorageStateInfoByID, entries, runWrites,
  runWrites_simulates, TrafficMonitorCall, StorageStateCall, trafficMonitor_runs_refine_map,
  storageState_runs_refine_map
-/
import Mathlib.Data.List.Nodup
import AosServiceManager.Database.Lookup

namespace AosServiceManager.Database

/-! ### Statements on a keyed table -/

section Statements

variable {Row : Type} (key : Row → String)

/-- `UPDATE ... WHERE <key> = ?`: every row with the key changed, and the count of those rows
that `RowsAffected` returns. -/
def updateWhere (k : String) (change : Row → Row) (rows : List Row) : List Row × Nat :=
  (rows.map fun row => if key row = k then change row else row, rows.countP (key · = k))

/-- `DELETE ... WHERE <key> = ?`: the rows without the key, and the count of those deleted. -/
def deleteWhere (k : String) (rows : List Row) : List Row × Nat :=
  (rows.filter (key · ≠ k), rows.countP (key · = k))

/-- `INSERT INTO ... VALUES(...)` into a table whose key is its `PRIMARY KEY`: SQLite's
constraint error `constraint` when the key is taken, else the row appended. -/
def insertRow (constraint : String) (row : Row) (rows : List Row) : Except String (List Row) :=
  if rows.any (key · = key row) then .error constraint else .ok (rows ++ [row])

end Statements

/-! ### What the driver does with bound values -/

/-- The conversion `database/sql` makes of a statement's `uint64` arguments, each given with its
position: `driver.DefaultParameterConverter` refuses one whose high bit is set, and `Exec` fails
with the error of the first such argument before the statement runs. -/
def convertUint64Args : List (Nat × Nat) → Option String
  | [] => none
  | (position, value) :: args =>
    if 9223372036854775808 ≤ value then
      some ("sql: converting argument $" ++ toString position ++
        " type: uint64 values with high bit set are not supported")
    else convertUint64Args args

/-- The errors of the writes: `storagestate.ErrNotExist`, `launcher.ErrNotExist` of the instance
writes (Database.Instances), or an error of `database/sql` or SQLite. -/
inductive WriteError where
  | storagestateErrNotExist
  | launcherErrNotExist
  | sqlite (message : String)
deriving Repr, DecidableEq

/-- `Exec` of a statement whose `uint64` arguments are `args`: the conversion's error, or what the
statement does. -/
def withUint64Args {α : Type} (args : List (Nat × Nat)) (statement : Except WriteError α) :
    Except WriteError α :=
  match convertUint64Args args with
  | some err => .error (.sqlite err)
  | none => statement

/-- A write behind the conversion refines the map's operation behind the same conversion when it
does so without it: a conversion error changes nothing on either side. -/
theorem withUint64Args_refines {σ τ : Type} (args : List (Nat × Nat)) {abs : σ → τ}
    {keeps : σ → Prop} {write : Except WriteError σ} {spec : Except WriteError τ}
    (refines : write.map abs = spec ∧ ∀ s, write = .ok s → keeps s) :
    (withUint64Args args write).map abs = withUint64Args args spec ∧
      ∀ s, withUint64Args args write = .ok s → keeps s := by
  rw [withUint64Args, withUint64Args]
  cases convertUint64Args args with
  | some err => exact ⟨rfl, fun _ failed => nomatch failed⟩
  | none => exact refines

/-- A `time.Time` bound to a statement: its instant in Unix nanoseconds, and the offset in seconds
east of UTC of its location at that instant, with which `Format` writes its wall clock. -/
structure Timestamp where
  unixNano : Int
  offset : Int
deriving Repr, DecidableEq

/-- The instant of Go's zero `time.Time`, January 1 of year 1 UTC, in Unix nanoseconds. -/
def zeroTime : Int := -62135596800000000000

/-- The instant go-sqlite3 reads back from a `TIMESTAMP` column that holds `t`. It binds
`t.Format("2006-01-02 15:04:05.999999999-07:00")`, whose offset keeps whole minutes only, and
parses the text with that layout, which takes four digits of year: a wall clock in the years 0 to
9999 reads back shifted by the seconds the offset lost, and any other as the zero time. -/
def readTimestamp (t : Timestamp) : Int :=
  let wall := t.unixNano / 1000000000 + t.offset
  let lost := if 0 ≤ t.offset then t.offset % 60 else -((-t.offset) % 60)
  if -62167219200 ≤ wall ∧ wall < 253402300800 then t.unixNano + lost * 1000000000 else zeroTime

example : readTimestamp ⟨0, 3600⟩ = 0 ∧ readTimestamp ⟨-2, 0⟩ = -2 ∧
    readTimestamp ⟨253402300800000000000, 0⟩ = zeroTime ∧
    readTimestamp ⟨253402300800000000000, -3600⟩ = 253402300800000000000 ∧
    readTimestamp ⟨0, -75⟩ = -15000000000 := by
  decide

/-! ### The writes -/

/-- `SetTrafficMonitorData` (database.go:162-173): the `UPDATE`, then the `INSERT` when it
changed no row, whose error is dropped. A value with its high bit set fails the conversion of the
`UPDATE`, whose error is returned. A row holds the instant its `time` column reads back as. -/
def setTrafficMonitorData (chain : String) (time : Timestamp) (value : Nat)
    (rows : List TrafficMonitorRow) : Except WriteError (List TrafficMonitorRow) :=
  withUint64Args [(2, value)] <|
    let (updated, count) := updateWhere TrafficMonitorRow.chain chain
      (fun row => { row with time := readTimestamp time, value }) rows
    .ok (if count = 0 then rows ++ [⟨chain, readTimestamp time, value⟩] else updated)

/-- `RemoveTrafficMonitorData` (database.go:190-196): `ErrNotExist` is dropped. -/
def removeTrafficMonitorData (chain : String) (rows : List TrafficMonitorRow) :
    List TrafficMonitorRow :=
  (deleteWhere TrafficMonitorRow.chain chain rows).1

/-- `AddStorageStateInfo` (database.go:372-375): the quotas are the arguments `$2` and `$3`. -/
def addStorageStateInfo (instanceID : String) (info : StorageStateInstanceInfo)
    (rows : List StorageStateRow) : Except WriteError (List StorageStateRow) :=
  withUint64Args [(2, info.storageQuota), (3, info.stateQuota)] <|
    (insertRow StorageStateRow.instanceID "UNIQUE constraint failed: storagestate.instanceID"
      ⟨instanceID, info⟩ rows).mapError .sqlite

/-- The storage-state setters: an `UPDATE` of the instance's row, and `storagestate.ErrNotExist`
when it changes none. -/
def updateStorageState (instanceID : String)
    (change : StorageStateInstanceInfo → StorageStateInstanceInfo) (rows : List StorageStateRow) :
    Except WriteError (List StorageStateRow) :=
  let (updated, count) :=
    updateWhere StorageStateRow.instanceID instanceID (fun row => { row with info := change row.info })
      rows
  if count = 0 then .error .storagestateErrNotExist else .ok updated

/-- `SetStorageStateQuotasByID` (database.go:378-385): the quotas are the arguments `$1` and
`$2`. -/
def setStorageStateQuotasByID (instanceID : String) (storageQuota stateQuota : Nat)
    (rows : List StorageStateRow) : Except WriteError (List StorageStateRow) :=
  withUint64Args [(1, storageQuota), (2, stateQuota)] <|
    updateStorageState instanceID (fun info => { info with storageQuota, stateQuota }) rows

/-- `SetStateChecksumByID` (database.go:388-395). -/
def setStateChecksumByID (instanceID : String) (checksum : List UInt8)
    (rows : List StorageStateRow) : Except WriteError (List StorageStateRow) :=
  updateStorageState instanceID (fun info => { info with stateChecksum := checksum }) rows

/-- `RemoveStorageStateInfoByID` (database.go:398-405): `ErrNotExist` is dropped. -/
def removeStorageStateInfoByID (instanceID : String) (rows : List StorageStateRow) :
    List StorageStateRow :=
  (deleteWhere StorageStateRow.instanceID instanceID rows).1

/-! ### The entries of a keyed table -/

section Entries

variable {Row α : Type} (key : Row → String) (val : Row → α)

/-- The entry a table holds for a key: what the first row with that key gives, as a lookup with
the key bound reads it. -/
def entries (rows : List Row) (k : String) : Option α :=
  (rows.find? (key · = k)).map val

theorem countP_eq_zero_iff (rows : List Row) (k : String) :
    rows.countP (key · = k) = 0 ↔ entries key val rows k = none := by
  simp [entries, List.countP_eq_zero, List.find?_eq_none]

theorem countP_ne_zero_of_some {rows : List Row} {k : String} {entry : α}
    (held : entries key val rows k = some entry) : rows.countP (key · = k) ≠ 0 := fun missing =>
  Option.some_ne_none entry (held.symm.trans ((countP_eq_zero_iff key val rows k).1 missing))

/-- An `UPDATE` of one key changes that key's entry by the change it makes to a row, and no
other entry. -/
theorem entries_updateWhere {k : String} {change : Row → Row} {f : α → α}
    (keeps : ∀ row, key (change row) = key row) (changes : ∀ row, val (change row) = f (val row))
    (k' : String) : ∀ rows : List Row,
    entries key val (updateWhere key k change rows).1 k' =
      if k' = k then (entries key val rows k).map f else entries key val rows k'
  | [] => by by_cases same : k' = k <;> simp [updateWhere, entries, same]
  | row :: rows => by
    have rest := @entries_updateWhere k change f keeps changes k' rows
    simp only [updateWhere, entries, List.map_cons, List.find?_cons] at rest ⊢
    by_cases hit : key row = k
    · by_cases same : k' = k
      · simp [hit, same, keeps, changes]
      · simpa [hit, keeps, show ¬k = k' from fun h => same h.symm, same] using rest
    · by_cases at' : key row = k'
      · simp [hit, at', show ¬k' = k from fun h => hit (at'.trans h)]
      · simpa [hit, at'] using rest

theorem map_key_updateWhere {k : String} {change : Row → Row}
    (keeps : ∀ row, key (change row) = key row) (rows : List Row) :
    (updateWhere key k change rows).1.map key = rows.map key := by
  simp only [updateWhere, List.map_map]
  exact List.map_congr_left fun row _ => by
    by_cases hit : key row = k <;> simp [hit, keeps]

/-- A `DELETE` of one key removes that key's entry and no other. -/
theorem entries_deleteWhere (k k' : String) : ∀ rows : List Row,
    entries key val (deleteWhere key k rows).1 k' =
      if k' = k then none else entries key val rows k'
  | [] => by by_cases same : k' = k <;> simp [deleteWhere, entries, same]
  | row :: rows => by
    have rest := entries_deleteWhere k k' rows
    simp only [deleteWhere, entries] at rest ⊢
    by_cases hit : key row = k
    · rw [List.filter_cons_of_neg (by simpa using hit), rest]
      by_cases same : k' = k
      · simp [same]
      · simp [same, List.find?_cons, show ¬key row = k' from fun h => same (h.symm.trans hit)]
    · rw [List.filter_cons_of_pos (by simpa using hit), List.find?_cons, List.find?_cons]
      by_cases at' : key row = k'
      · simp [at', show ¬k' = k from fun h => hit (at'.trans h)]
      · simpa [at'] using rest

theorem nodup_deleteWhere {k : String} {rows : List Row} (distinct : (rows.map key).Nodup) :
    ((deleteWhere key k rows).1.map key).Nodup :=
  (List.filter_sublist rows |>.map key).nodup distinct

/-- An `INSERT` of a key the table does not hold adds that key's entry and no other. -/
theorem entries_append_of_none {row : Row} {rows : List Row}
    (absent : entries key val rows (key row) = none) (k' : String) :
    entries key val (rows ++ [row]) k' =
      if k' = key row then some (val row) else entries key val rows k' := by
  have none' : rows.find? (key · = key row) = none := Option.map_eq_none'.1 absent
  by_cases same : k' = key row
  · subst same
    simp [entries, List.find?_append, none']
  · simp only [entries, List.find?_append, List.find?_singleton, same, if_false]
    cases rows.find? (key · = k') <;> simp [Ne.symm same]

theorem nodup_append_of_none {row : Row} {rows : List Row} (distinct : (rows.map key).Nodup)
    (absent : entries key val rows (key row) = none) : ((rows ++ [row]).map key).Nodup := by
  have fresh : key row ∉ rows.map key := fun member => by
    obtain ⟨other, inRows, same⟩ := List.mem_map.1 member
    have := List.find?_eq_none.1 (Option.map_eq_none'.1 absent) other inRows
    simp [same] at this
  rw [List.map_append, List.map_singleton, List.nodup_append]
  exact ⟨distinct, List.nodup_singleton _, List.disjoint_singleton.2 fresh⟩

/-- What a lookup should return for an entry: the entry, or the package's `ErrNotExist`. -/
def entryResult (notExist : LookupError) : Option α → Except LookupError α
  | some entry => .ok entry
  | none => .error notExist

/-- For a key without a quote or a NUL that names no column, the spliced lookup returns the
table's entry. -/
theorem lookupBySplice_eq_entryResult (schema : Schema Row) (equality : ColumnEquality schema)
    (notExist : LookupError) (rows : List Row) {k : String} (noQuote : '"' ∉ k.data)
    (noNul : '\x00' ∉ k.data) (unresolved : resolveName schema k.data = none) :
    lookupBySplice schema notExist val equality rows k =
      some (entryResult notExist (entries schema.key val rows k)) := by
  rw [lookupBySplice_of_literal schema equality rows notExist val noQuote noNul unresolved]
  simp only [lookupByKey, keyedLookup, firstRow, entries]
  cases rows.find? (schema.key · = k) <;> rfl

/-- An `UPDATE` of a key the table holds changes that key's entry by the change, and no other. -/
theorem entries_updateWhere_of_some {k : String} (change : Row → Row) (f : α → α)
    (keeps : ∀ row, key (change row) = key row) (changes : ∀ row, val (change row) = f (val row))
    {rows : List Row} {entry : α} (held : entries key val rows k = some entry) (k' : String) :
    entries key val (updateWhere key k change rows).1 k' =
      if k' = k then some (f entry) else entries key val rows k' := by
  rw [entries_updateWhere key val keeps changes, held]
  rfl

/-- In a table with distinct keys, the row a key selects is the one row with that key. -/
theorem find?_key_of_mem : ∀ {rows : List Row}, (rows.map key).Nodup → ∀ {row : Row},
    row ∈ rows → rows.find? (key · = key row) = some row
  | [], _, _, member => nomatch member
  | first :: rows, distinct, row, member => by
    rw [List.map_cons, List.nodup_cons] at distinct
    rcases List.mem_cons.1 member with rfl | member
    · exact List.find?_cons_of_pos _ (decide_eq_true rfl)
    · have other : key first ≠ key row := fun same =>
        distinct.1 (same ▸ List.mem_map_of_mem key member)
      rw [List.find?_cons_of_neg _ (by simpa using other)]
      exact find?_key_of_mem distinct.2 member

theorem any_eq_isSome_entries (rows : List Row) (k : String) :
    rows.any (key · = k) = (entries key val rows k).isSome := by
  rw [Bool.eq_iff_iff]
  simp [entries, List.find?_isSome]

end Entries

/-! ### Runs of `trafficmonitor` writes -/

/-- The time and value the table returns for each chain. -/
def trafficEntries (rows : List TrafficMonitorRow) : String → Option (Int × Nat) :=
  entries TrafficMonitorRow.chain (fun row => (row.time, row.value)) rows

/-- The writes of `trafficmonitor`. -/
inductive TrafficMonitorCall where
  | set (chain : String) (time : Timestamp) (value : Nat)
  | remove (chain : String)
deriving Repr, DecidableEq

/-- One write on the table: its error, or the table after it. -/
def TrafficMonitorCall.run : TrafficMonitorCall → List TrafficMonitorRow →
    Except WriteError (List TrafficMonitorRow)
  | .set chain time value, rows => setTrafficMonitorData chain time value rows
  | .remove chain, rows => .ok (removeTrafficMonitorData chain rows)

/-- What a write should do to the map from a chain to the time and value a read returns: a set
of a value that `database/sql` passes stores it with the instant its time reads back as, and a
removal never fails. -/
def TrafficMonitorCall.apply : TrafficMonitorCall → (String → Option (Int × Nat)) →
    Except WriteError (String → Option (Int × Nat))
  | .set chain time value, m => withUint64Args [(2, value)] <|
    .ok fun k => if k = chain then some (readTimestamp time, value) else m k
  | .remove chain, m => .ok fun k => if k = chain then none else m k

theorem setTrafficMonitorData_eq (chain : String) (time : Timestamp) (value : Nat)
    (rows : List TrafficMonitorRow) :
    setTrafficMonitorData chain time value rows =
      withUint64Args [(2, value)] (.ok
        (if rows.countP (·.chain = chain) = 0 then rows ++ [⟨chain, readTimestamp time, value⟩]
        else (updateWhere TrafficMonitorRow.chain chain
          (fun row => { row with time := readTimestamp time, value }) rows).1)) :=
  rfl

/-- One write keeps the chains distinct, fails as the map's operation does, and otherwise does to
the entries what it does to the map. -/
theorem TrafficMonitorCall.run_refines (call : TrafficMonitorCall) {rows : List TrafficMonitorRow}
    (distinct : (rows.map TrafficMonitorRow.chain).Nodup) :
    (call.run rows).map trafficEntries = call.apply (trafficEntries rows) ∧
      ∀ rows', call.run rows = .ok rows' → (rows'.map TrafficMonitorRow.chain).Nodup := by
  cases call with
  | set chain time value =>
    rw [TrafficMonitorCall.run, TrafficMonitorCall.apply, setTrafficMonitorData_eq]
    refine withUint64Args_refines _ ?_
    cases held : trafficEntries rows chain with
    | none =>
      rw [if_pos ((countP_eq_zero_iff _ _ rows chain).2 held)]
      exact ⟨congrArg Except.ok (funext (entries_append_of_none _ _ held)),
        fun _ done => Except.ok.inj done ▸ nodup_append_of_none _ _ distinct held⟩
    | some entry =>
      rw [if_neg (countP_ne_zero_of_some _ _ held)]
      refine ⟨congrArg Except.ok (funext (entries_updateWhere_of_some TrafficMonitorRow.chain _
        (fun row => { row with time := readTimestamp time, value })
        (fun _ => (readTimestamp time, value)) (fun _ => rfl) (fun _ => rfl) held)),
        fun _ done => ?_⟩
      rw [← Except.ok.inj done, map_key_updateWhere]
      exacts [distinct, fun _ => rfl]
  | remove chain =>
    refine ⟨congrArg Except.ok (funext (entries_deleteWhere _ _ chain · rows)), ?_⟩
    rintro rows' ⟨⟩
    exact nodup_deleteWhere _ distinct

/-! ### Runs of writes that can fail -/

/-- How a write ends: its error and the state it started from, or no error and its result. -/
def writeResult {σ : Type} (s : σ) : Except WriteError σ → Option WriteError × σ
  | .error err => (some err, s)
  | .ok s' => (none, s')

/-- A run of writes, each on the state the writes before it left: the error each returns, in
order, and the final state. -/
def runWrites {σ C : Type} (step : C → σ → Except WriteError σ) :
    List C → σ → List (Option WriteError) × σ
  | [], s => ([], s)
  | call :: calls, s =>
    let result := writeResult s (step call s)
    let rest := runWrites step calls result.2
    (result.1 :: rest.1, rest.2)

section Simulation

variable {σ τ C : Type} (abs : σ → τ) (inv : σ → Prop) {step : C → σ → Except WriteError σ}
  {spec : C → τ → Except WriteError τ}

/-- When every write from a state of `inv` fails as `spec` does on its abstraction, or succeeds
where `spec` succeeds on the abstraction of its result, and keeps `inv`, a run of writes returns
the errors the run of `spec` returns and ends where `spec` ends. -/
theorem runWrites_simulates (commutes : ∀ call s, inv s → (step call s).map abs = spec call (abs s))
    (keeps : ∀ call s s', inv s → step call s = .ok s' → inv s') :
    ∀ (calls : List C) (s : σ), inv s →
      (runWrites step calls s).1 = (runWrites spec calls (abs s)).1 ∧
        abs (runWrites step calls s).2 = (runWrites spec calls (abs s)).2 ∧
        inv (runWrites step calls s).2
  | [], _, held => ⟨rfl, rfl, held⟩
  | call :: calls, s, held => by
    have commuted := commutes call s held
    cases stepped : step call s with
    | error err =>
      have rest := runWrites_simulates commutes keeps calls s held
      rw [stepped] at commuted
      simp only [runWrites, writeResult, stepped, ← commuted, Except.map]
      exact ⟨congrArg _ rest.1, rest.2⟩
    | ok s' =>
      have rest := runWrites_simulates commutes keeps calls s' (keeps call s s' held stepped)
      rw [stepped] at commuted
      simp only [runWrites, writeResult, stepped, ← commuted, Except.map]
      exact ⟨congrArg _ rest.1, rest.2⟩

end Simulation

/-- Over every run of writes from a table with distinct chains, every write returns the error the
map's operation returns (the conversion error of a value with its high bit set, or none), the
chains stay distinct, the table's entries are the map's, and for every chain without a quote or a
NUL that names no column `GetTrafficMonitorData` returns the map's entry, or `ErrEntryNotExist`:
the value stored, and the instant its time reads back as. -/
theorem trafficMonitor_runs_refine_map (calls : List TrafficMonitorCall)
    (rows : List TrafficMonitorRow) (distinct : (rows.map TrafficMonitorRow.chain).Nodup) :
    let run := runWrites TrafficMonitorCall.run calls rows
    let spec := runWrites TrafficMonitorCall.apply calls (trafficEntries rows)
    run.1 = spec.1 ∧ (run.2.map TrafficMonitorRow.chain).Nodup ∧
      trafficEntries run.2 = spec.2 ∧
      ∀ (equality : ColumnEquality trafficMonitorSchema) (chain : String), '"' ∉ chain.data →
        '\x00' ∉ chain.data → resolveName trafficMonitorSchema chain.data = none →
        getTrafficMonitorData equality run.2 chain =
          some (entryResult .networkmanagerErrEntryNotExist (spec.2 chain)) := by
  obtain ⟨errors, refines, distinct'⟩ := runWrites_simulates trafficEntries
    (fun rows => (rows.map TrafficMonitorRow.chain).Nodup)
    (fun call _ distinct => (call.run_refines distinct).1)
    (fun call _ _ distinct => (call.run_refines distinct).2 _) calls rows distinct
  refine ⟨errors, distinct', refines, fun equality chain noQuote noNul unresolved => ?_⟩
  rw [← refines]
  exact lookupBySplice_eq_entryResult _ _ _ _ _ noQuote noNul unresolved

theorem trafficMonitor_runs_refine_map_from_empty :
    let calls := [TrafficMonitorCall.set "AOS_SYSTEM_IN" ⟨10, 0⟩ 100,
      .set "AOS_SYSTEM_IN" ⟨20, 0⟩ 9223372036854775808, .remove "AOS_SYSTEM_OUT",
      .set "AOS_SYSTEM_OUT" ⟨253402300800000000000, 0⟩ 5]
    let run := runWrites TrafficMonitorCall.run calls []
    let spec := runWrites TrafficMonitorCall.apply calls (trafficEntries [])
    (([] : List TrafficMonitorRow).map TrafficMonitorRow.chain).Nodup ∧
      (run.1 = spec.1 ∧ (run.2.map TrafficMonitorRow.chain).Nodup ∧
        trafficEntries run.2 = spec.2 ∧
        ∀ (equality : ColumnEquality trafficMonitorSchema) (chain : String), '"' ∉ chain.data →
          '\x00' ∉ chain.data → resolveName trafficMonitorSchema chain.data = none →
          getTrafficMonitorData equality run.2 chain =
            some (entryResult .networkmanagerErrEntryNotExist (spec.2 chain))) :=
  ⟨by decide, trafficMonitor_runs_refine_map _ _ (by decide)⟩

example : runWrites TrafficMonitorCall.run [.set "AOS_SYSTEM_IN" ⟨10, 0⟩ 100,
    .set "AOS_SYSTEM_IN" ⟨20, 0⟩ 9223372036854775808,
    .set "AOS_SYSTEM_OUT" ⟨253402300800000000000, 0⟩ 5] [] =
    ([none, some (.sqlite
      "sql: converting argument $2 type: uint64 values with high bit set are not supported"), none],
      [⟨"AOS_SYSTEM_IN", 10, 100⟩, ⟨"AOS_SYSTEM_OUT", zeroTime, 5⟩]) := by
  decide

/-! ### Runs of `storagestate` writes -/

/-- The instance information the table holds for each instance. -/
def storageStateEntries (rows : List StorageStateRow) : String → Option StorageStateInstanceInfo :=
  entries StorageStateRow.instanceID StorageStateRow.info rows

/-- The writes of `storagestate`. -/
inductive StorageStateCall where
  | add (instanceID : String) (info : StorageStateInstanceInfo)
  | setQuotas (instanceID : String) (storageQuota stateQuota : Nat)
  | setChecksum (instanceID : String) (checksum : List UInt8)
  | remove (instanceID : String)
deriving Repr, DecidableEq

/-- One write on the table: its error, or the table after it. -/
def StorageStateCall.run : StorageStateCall → List StorageStateRow →
    Except WriteError (List StorageStateRow)
  | .add instanceID info, rows => addStorageStateInfo instanceID info rows
  | .setQuotas instanceID storageQuota stateQuota, rows =>
    setStorageStateQuotasByID instanceID storageQuota stateQuota rows
  | .setChecksum instanceID checksum, rows => setStateChecksumByID instanceID checksum rows
  | .remove instanceID, rows => .ok (removeStorageStateInfoByID instanceID rows)

/-- The change of one key's entry in a map, and `storagestate.ErrNotExist` when it has none. -/
def modifyEntry {α : Type} (k : String) (f : α → α) (m : String → Option α) :
    Except WriteError (String → Option α) :=
  match m k with
  | none => .error .storagestateErrNotExist
  | some entry => .ok fun k' => if k' = k then some (f entry) else m k'

/-- What a write should do to the map from an instance to its information: a quota with its high
bit set fails the driver's conversion, adding fails on an instance the map holds, a setter on one
it does not hold, and a removal never fails. -/
def StorageStateCall.apply : StorageStateCall → (String → Option StorageStateInstanceInfo) →
    Except WriteError (String → Option StorageStateInstanceInfo)
  | .add instanceID info, m => withUint64Args [(2, info.storageQuota), (3, info.stateQuota)] <|
    if (m instanceID).isSome then .error (.sqlite "UNIQUE constraint failed: storagestate.instanceID")
    else .ok fun k => if k = instanceID then some info else m k
  | .setQuotas instanceID storageQuota stateQuota, m =>
    withUint64Args [(1, storageQuota), (2, stateQuota)] <|
      modifyEntry instanceID (fun info => { info with storageQuota, stateQuota }) m
  | .setChecksum instanceID checksum, m =>
    modifyEntry instanceID (fun info => { info with stateChecksum := checksum }) m
  | .remove instanceID, m => .ok fun k => if k = instanceID then none else m k

theorem addStorageStateInfo_eq (instanceID : String) (info : StorageStateInstanceInfo)
    (rows : List StorageStateRow) :
    addStorageStateInfo instanceID info rows =
      withUint64Args [(2, info.storageQuota), (3, info.stateQuota)]
        (if (storageStateEntries rows instanceID).isSome then
          .error (.sqlite "UNIQUE constraint failed: storagestate.instanceID")
        else .ok (rows ++ [⟨instanceID, info⟩])) := by
  rw [addStorageStateInfo, insertRow, storageStateEntries, ← any_eq_isSome_entries]
  split <;> rfl

theorem updateStorageState_eq (instanceID : String)
    (change : StorageStateInstanceInfo → StorageStateInstanceInfo) (rows : List StorageStateRow) :
    updateStorageState instanceID change rows =
      if rows.countP (StorageStateRow.instanceID · = instanceID) = 0 then
        .error .storagestateErrNotExist
      else .ok (updateWhere StorageStateRow.instanceID instanceID
        (fun row => { row with info := change row.info }) rows).1 :=
  rfl

/-- A storage-state setter does to the entries what `modifyEntry` does to the map. -/
theorem updateStorageState_refines (instanceID : String)
    (change : StorageStateInstanceInfo → StorageStateInstanceInfo) {rows : List StorageStateRow}
    (distinct : (rows.map StorageStateRow.instanceID).Nodup) :
    (updateStorageState instanceID change rows).map storageStateEntries =
        modifyEntry instanceID change (storageStateEntries rows) ∧
      ∀ rows', updateStorageState instanceID change rows = .ok rows' →
        (rows'.map StorageStateRow.instanceID).Nodup := by
  cases held : storageStateEntries rows instanceID with
  | none =>
    rw [updateStorageState_eq, if_pos ((countP_eq_zero_iff _ _ rows instanceID).2 held),
      modifyEntry, held]
    exact ⟨rfl, fun _ failed => nomatch failed⟩
  | some info =>
    rw [updateStorageState_eq, if_neg (countP_ne_zero_of_some _ _ held), modifyEntry, held]
    refine ⟨congrArg Except.ok (funext (entries_updateWhere_of_some StorageStateRow.instanceID
      StorageStateRow.info (fun row => { row with info := change row.info }) change
      (fun _ => rfl) (fun _ => rfl) held)), fun rows' done => ?_⟩
    cases done
    rw [map_key_updateWhere]
    exacts [distinct, fun _ => rfl]

/-- One write keeps the instances distinct, fails as the map's operation does, and otherwise does
to the entries what it does to the map. -/
theorem StorageStateCall.run_refines (call : StorageStateCall) {rows : List StorageStateRow}
    (distinct : (rows.map StorageStateRow.instanceID).Nodup) :
    (call.run rows).map storageStateEntries = call.apply (storageStateEntries rows) ∧
      ∀ rows', call.run rows = .ok rows' → (rows'.map StorageStateRow.instanceID).Nodup := by
  cases call with
  | add instanceID info =>
    rw [StorageStateCall.run, StorageStateCall.apply, addStorageStateInfo_eq]
    refine withUint64Args_refines _ ?_
    cases held : storageStateEntries rows instanceID with
    | some _ => exact ⟨rfl, fun _ failed => nomatch failed⟩
    | none =>
      refine ⟨congrArg Except.ok (funext (entries_append_of_none _ _ held)), fun rows' done => ?_⟩
      cases done
      exact nodup_append_of_none _ StorageStateRow.info distinct held
  | setQuotas instanceID storageQuota stateQuota =>
    rw [StorageStateCall.run, StorageStateCall.apply, setStorageStateQuotasByID]
    exact withUint64Args_refines _ (updateStorageState_refines _ _ distinct)
  | setChecksum instanceID checksum =>
    rw [StorageStateCall.run, StorageStateCall.apply, setStateChecksumByID]
    exact updateStorageState_refines _ _ distinct
  | remove instanceID =>
    refine ⟨congrArg Except.ok (funext (entries_deleteWhere _ _ instanceID · rows)), ?_⟩
    rintro rows' ⟨⟩
    exact nodup_deleteWhere _ distinct

/-- Over every run of writes from a table with distinct instances, every write returns the error
the map's operation returns (the conversion error of a quota with its high bit set, the
constraint error of an instance added twice, `storagestate.ErrNotExist` of a setter on a missing
instance, or none), the instances stay distinct, the table's entries are the map's, and
for every instance without a quote or a NUL that names no column `GetStorageStateInfoByID`
returns the map's information, or `storagestate.ErrNotExist`. -/
theorem storageState_runs_refine_map (calls : List StorageStateCall)
    (rows : List StorageStateRow) (distinct : (rows.map StorageStateRow.instanceID).Nodup) :
    let run := runWrites StorageStateCall.run calls rows
    let spec := runWrites StorageStateCall.apply calls (storageStateEntries rows)
    run.1 = spec.1 ∧ (run.2.map StorageStateRow.instanceID).Nodup ∧
      storageStateEntries run.2 = spec.2 ∧
      ∀ (equality : ColumnEquality storageStateSchema) (instanceID : String),
        '"' ∉ instanceID.data → '\x00' ∉ instanceID.data →
        resolveName storageStateSchema instanceID.data = none →
        getStorageStateInfoByID equality run.2 instanceID =
          some (entryResult .storagestateErrNotExist (spec.2 instanceID)) := by
  obtain ⟨errors, refines, distinct'⟩ := runWrites_simulates storageStateEntries
    (fun rows => (rows.map StorageStateRow.instanceID).Nodup)
    (fun call _ distinct => (call.run_refines distinct).1)
    (fun call _ _ distinct => (call.run_refines distinct).2 _) calls rows distinct
  refine ⟨errors, distinct', refines, fun equality instanceID noQuote noNul unresolved => ?_⟩
  rw [← refines]
  exact lookupBySplice_eq_entryResult _ _ _ _ _ noQuote noNul unresolved

theorem storageState_runs_refine_map_from_empty :
    let calls := [StorageStateCall.add "instance0" ⟨0, 0, []⟩, .add "instance0" ⟨1, 1, []⟩,
      .add "instance1" ⟨9223372036854775808, 0, []⟩,
      .setQuotas "instance0" 1024 18446744073709551615, .setQuotas "instance1" 1024 512,
      .setChecksum "instance0" [1, 2], .remove "instance1"]
    let run := runWrites StorageStateCall.run calls []
    let spec := runWrites StorageStateCall.apply calls (storageStateEntries [])
    (([] : List StorageStateRow).map StorageStateRow.instanceID).Nodup ∧
      (run.1 = spec.1 ∧ (run.2.map StorageStateRow.instanceID).Nodup ∧
        storageStateEntries run.2 = spec.2 ∧
        ∀ (equality : ColumnEquality storageStateSchema) (instanceID : String),
          '"' ∉ instanceID.data → '\x00' ∉ instanceID.data →
          resolveName storageStateSchema instanceID.data = none →
          getStorageStateInfoByID equality run.2 instanceID =
            some (entryResult .storagestateErrNotExist (spec.2 instanceID))) :=
  ⟨by decide, storageState_runs_refine_map _ _ (by decide)⟩

example : (runWrites StorageStateCall.run [.add "instance0" ⟨0, 0, []⟩,
    .add "instance0" ⟨1, 1, []⟩, .add "instance1" ⟨9223372036854775808, 0, []⟩,
    .setQuotas "instance0" 1024 18446744073709551615, .setQuotas "instance1" 1024 512,
    .setChecksum "instance0" [1, 2], .remove "instance1"] []) =
    ([none, some (.sqlite "UNIQUE constraint failed: storagestate.instanceID"),
      some (.sqlite
        "sql: converting argument $2 type: uint64 values with high bit set are not supported"),
      some (.sqlite
        "sql: converting argument $2 type: uint64 values with high bit set are not supported"),
      some .storagestateErrNotExist, none, none], [⟨"instance0", ⟨0, 0, [1, 2]⟩⟩]) := by
  decide

end AosServiceManager.Database
