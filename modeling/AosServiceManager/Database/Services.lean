/-
Module: AosServiceManager.Database.Services
Layer: Core and Proofs
Purpose: The `services` table of package `database` (src/database/database.go:100-160, 538-552):
  rows keyed by `(id, aosVersion)` in SQLite's rowid order, and `AddService`, `RemoveService`,
  `ActivateService` and `GetService` on it. `GetService` selects the rows whose `aosVersion`
  equals the greatest version of the requested ID, without restricting the outer query to that
  ID, and scans the first of them.
Imports: AosServiceManager.Go.Basic
Trusted boundary: SQLite, taken as a rowid-ordered table scan for a query without an index on
  `aosVersion`.
Main exports: ServiceInfo, ServicesTable, ServicesTable.getService, getService_contract,
  getService_returns_other_service
-/
import AosServiceManager.Go.Basic

namespace AosServiceManager.Database

/-- `servicemanager.ServiceInfo`, one row of the `services` table. -/
structure ServiceInfo where
  serviceID : String
  aosVersion : Nat
  serviceProvider : String
  description : String
  imagePath : String
  gid : Nat
  manifestDigest : List UInt8
  isActive : Bool
deriving Repr, DecidableEq

/-- The rows of `services` in rowid order: an insert goes to the end. -/
abbrev ServicesTable := List ServiceInfo

/-- `ErrNotExist` of package `servicemanager`, as `GetService` returns it. -/
def errNotExist : String := "entry does not exist"

namespace ServicesTable

/-- `AddService` (database.go:100-105): `INSERT`, refused on a duplicate primary key. -/
def addService (table : ServicesTable) (service : ServiceInfo) : GoError × ServicesTable :=
  if table.any fun row => row.serviceID = service.serviceID ∧ row.aosVersion = service.aosVersion
  then (some "UNIQUE constraint failed: services.id, services.aosVersion", table)
  else (none, table ++ [service])

/-- `RemoveService` (database.go:107-115): `DELETE ... WHERE id = ? AND aosVersion = ?`; no
matching row is not an error. -/
def removeService (table : ServicesTable) (service : ServiceInfo) : GoError × ServicesTable :=
  (none, table.filter fun row =>
    !(row.serviceID = service.serviceID ∧ row.aosVersion = service.aosVersion))

/-- `ActivateService` (database.go:151-159): `UPDATE services SET isActive = 1 WHERE ...`. -/
def activateService (table : ServicesTable) (service : ServiceInfo) : GoError × ServicesTable :=
  if table.any fun row => row.serviceID = service.serviceID ∧ row.aosVersion = service.aosVersion
  then (none, table.map fun row =>
    if row.serviceID = service.serviceID ∧ row.aosVersion = service.aosVersion
    then { row with isActive := true } else row)
  else (some errNotExist, table)

/-- `SELECT MAX(aosVersion) FROM services WHERE id = ?`; `none` is SQL `NULL`. -/
def maxVersion (table : ServicesTable) (serviceID : String) : Option Nat :=
  ((table.filter fun row => row.serviceID = serviceID).map ServiceInfo.aosVersion).max?

/-- `GetService` (database.go:117-139): the first row, in table order, of
`SELECT * FROM services WHERE aosVersion = (SELECT MAX(aosVersion) FROM services WHERE id = ?)`.
A comparison with `NULL` selects nothing. -/
def getService (table : ServicesTable) (serviceID : String) : Except String ServiceInfo :=
  match (table.filter fun row => some row.aosVersion = maxVersion table serviceID).head? with
  | some service => .ok service
  | none => .error errNotExist

end ServicesTable

/-- One of the write calls on the table. -/
inductive TableCall where
  | addService (service : ServiceInfo)
  | removeService (service : ServiceInfo)
  | activateService (service : ServiceInfo)
deriving Repr, DecidableEq

/-- The table after a sequence of write calls. -/
def runTable (table : ServicesTable) : List TableCall → ServicesTable
  | [] => table
  | .addService service :: calls => runTable (table.addService service).2 calls
  | .removeService service :: calls => runTable (table.removeService service).2 calls
  | .activateService service :: calls => runTable (table.activateService service).2 calls

namespace ServicesTable

/-! ### What the subquery computes -/

theorem maxVersion_eq_none_iff (table : ServicesTable) (serviceID : String) :
    maxVersion table serviceID = none ↔ ∀ row ∈ table, row.serviceID ≠ serviceID := by
  simp [maxVersion, List.filter_eq_nil_iff]

/-- The subquery's value is a version exactly when one of the ID's rows has it and it bounds all
of them. -/
theorem maxVersion_eq_some_iff (table : ServicesTable) (serviceID : String) (version : Nat) :
    maxVersion table serviceID = some version ↔
      (∃ row ∈ table, row.serviceID = serviceID ∧ row.aosVersion = version) ∧
        ∀ row ∈ table, row.serviceID = serviceID → row.aosVersion ≤ version := by
  rw [maxVersion, List.max?_eq_some_iff']
  simp only [List.mem_map, List.mem_filter, decide_eq_true_eq]
  constructor
  · rintro ⟨⟨row, ⟨member, same⟩, rfl⟩, bounds⟩
    exact ⟨⟨row, member, same, rfl⟩, fun r m s => bounds _ ⟨r, ⟨m, s⟩, rfl⟩⟩
  · rintro ⟨⟨row, member, same, rfl⟩, bounds⟩
    exact ⟨⟨row, ⟨member, same⟩, rfl⟩, fun _ ⟨r, ⟨m, s⟩, version⟩ => version ▸ bounds r m s⟩

/-! ### `GetService` -/

theorem getService_eq_error_iff (table : ServicesTable) (serviceID : String) :
    table.getService serviceID = .error errNotExist ↔
      table.find? (fun row => some row.aosVersion = maxVersion table serviceID) = none := by
  rw [getService, List.filter_head?]
  cases table.find? _ <;> simp

theorem getService_eq_ok_iff (table : ServicesTable) (serviceID : String) (service : ServiceInfo) :
    table.getService serviceID = .ok service ↔
      table.find? (fun row => some row.aosVersion = maxVersion table serviceID) = some service := by
  rw [getService, List.filter_head?]
  cases table.find? _ <;> simp

/-- `GetService` reports `ErrNotExist` exactly when no row has the requested ID. Otherwise it
returns exactly the first row of the table, whatever its ID, whose version is the greatest
version of the requested ID's rows. -/
theorem getService_contract (table : ServicesTable) (serviceID : String) :
    (table.getService serviceID = .error errNotExist ↔ ∀ row ∈ table, row.serviceID ≠ serviceID) ∧
      ∀ service, table.getService serviceID = .ok service ↔
        ((∃ row ∈ table, row.serviceID = serviceID ∧ row.aosVersion = service.aosVersion) ∧
          ∀ row ∈ table, row.serviceID = serviceID → row.aosVersion ≤ service.aosVersion) ∧
        ∃ before after, table = before ++ service :: after ∧
          ∀ row ∈ before, row.aosVersion ≠ service.aosVersion := by
  refine ⟨?_, fun service => ?_⟩
  · rw [getService_eq_error_iff, List.find?_eq_none, ← maxVersion_eq_none_iff]
    cases found : maxVersion table serviceID with
    | none => simp
    | some best =>
      obtain ⟨⟨row, member, -, version⟩, -⟩ := (maxVersion_eq_some_iff table serviceID best).1 found
      exact iff_of_false (fun none => none row member (by simp [version])) nofun
  · rw [getService_eq_ok_iff, List.find?_eq_some, ← maxVersion_eq_some_iff]
    simp only [decide_eq_true_eq, Bool.not_eq_true', decide_eq_false_iff_not]
    constructor
    · rintro ⟨version, before, after, split, earlier⟩
      exact ⟨version.symm, before, after, split,
        fun row member same => earlier row member (by rw [same, version])⟩
    · rintro ⟨version, before, after, split, earlier⟩
      exact ⟨version.symm, before, after, split,
        fun row member same => earlier row member (Option.some.inj (same.trans version))⟩

/-- Two services at version 1, `b` inserted first: `GetService("a")` returns the row of `b`. -/
theorem getService_returns_other_service :
    (runTable [] [.addService ⟨"b", 1, "", "", "", 0, [], false⟩,
      .addService ⟨"a", 1, "", "", "", 0, [], false⟩]).getService "a" =
      .ok ⟨"b", 1, "", "", "", 0, [], false⟩ := by
  rfl

end ServicesTable

end AosServiceManager.Database
