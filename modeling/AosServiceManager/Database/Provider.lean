/-
Module: AosServiceManager.Database.Provider
Layer: Core and Proofs
Purpose: The `services` and `users` tables of the database that implements the launcher's
  `ServiceProvider` (src/database/database.go:831-1311, 1628-1660), and the proof that they
  refine the storage the launcher's proofs use (Launcher.Basic). A services row holds the
  columns the launcher's `Service` has a field for, less `Devices`, for which the table has no
  column, and holds `startat` as the instant go-sqlite3 reads back. A users row is keyed by
  `json.Marshal(users)` and the service ID, its primary key; every statement on it binds the JSON
  text of the users list it is given. `Represents` relates the SQL tables to the launcher's.
  Every write keeps it and returns the error the launcher's storage returns, but for the
  driver's refusal of a `uint64` version or TTL with its high bit set; so over every run of
  writes the two agree call by call. The reads then return what the launcher's storage holds,
  read back: `GetService` the launcher's service without devices and with its start time read
  back, `GetUsersServices` the launcher's services of the users in the order of their IDs, and
  `GetUsersList` each users list once, in the order of its JSON text.
Imports: Mathlib.Data.List.Dedup, Mathlib.Data.List.Sort, Mathlib.Data.Char,
  AosServiceManager.Launcher.Basic, AosServiceManager.Database.Store, AosServiceManager.Go.Json
Trusted boundary: SQLite with bound values, as in Database.Store: a statement compares the bound
  JSON bytes with the stored ones exactly, and a primary key refuses a second row of a key. The
  `IN` list of `GetUsersServices` is walked in the order of the ephemeral index SQLite builds for
  it, looking each ID up through the primary key of `services`, and `SELECT DISTINCT users`
  reads the index of the primary key of `users`: both in `BINARY` order (`Collated`).
  `GetUsersServicesByServiceID` scans its table in rowid order. The columns `path`, `unit`,
  `user`, `permissions`, `alertRules` and the four limits have no field in the launcher's record
  and are left out, with the conversion of the limits.
Main exports: textLE, Collated, UsersRow, ServiceRow, Tables, readBack, addService,
  updateService, removeService, getService, setServiceStatus, setServiceState,
  setServiceStartTime, addServiceToUsers, removeServiceFromUsers, setUsersStorageFolder,
  setUsersStateChecksum, getUsersService, getUsersServicesByServiceID, usersServiceIDs,
  getUsersServices, isUsersService, getUsersList, removeServiceFromAllUsers, Represents,
  ProviderCall, provider_runs_refine_launcher
-/
import Mathlib.Data.List.Dedup
import Mathlib.Data.List.Sort
import Mathlib.Data.Char
import AosServiceManager.Launcher.Basic
import AosServiceManager.Database.Store
import AosServiceManager.Go.Json

namespace AosServiceManager.Database.Provider

open Launcher (Service UsersService ServiceState ServiceStatus)

/-! ### The order of text in an index -/

/-- SQLite's `BINARY` collation, in which an index holds its text and blob keys: `memcmp` of the
UTF-8 bytes, which is the order of the code points, a proper prefix first. -/
def textLE : List Char → List Char → Bool
  | [], _ => true
  | _ :: _, [] => false
  | c :: cs, d :: ds => decide (c < d) || (c = d && textLE cs ds)

/-- Two texts in the order an index holds them. -/
def Collated (xs ys : List Char) : Prop :=
  textLE xs ys = true

instance : DecidableRel Collated := fun xs ys =>
  inferInstanceAs (Decidable (textLE xs ys = true))

theorem collated_total : ∀ xs ys : List Char, Collated xs ys ∨ Collated ys xs
  | [], _ => .inl rfl
  | _ :: _, [] => .inr rfl
  | c :: cs, d :: ds => by
    simp only [Collated, textLE, Bool.or_eq_true, decide_eq_true_eq, Bool.and_eq_true]
    rcases lt_trichotomy c d with less | rfl | greater
    · exact .inl (.inl less)
    · exact (collated_total cs ds).imp (fun le => .inr ⟨rfl, le⟩) fun le => .inr ⟨rfl, le⟩
    · exact .inr (.inl greater)

theorem collated_trans : ∀ xs ys zs : List Char, Collated xs ys → Collated ys zs → Collated xs zs
  | [], _, _, _, _ => rfl
  | _ :: _, [], _, before, _ => nomatch before
  | _ :: _, _ :: _, [], _, after => nomatch after
  | c :: cs, d :: ds, e :: es, before, after => by
    simp only [Collated, textLE, Bool.or_eq_true, decide_eq_true_eq, Bool.and_eq_true]
      at before after ⊢
    rcases before with less | ⟨rfl, le⟩ <;> rcases after with less' | ⟨rfl, le'⟩
    · exact .inl (less.trans less')
    · exact .inl less
    · exact .inl less'
    · exact .inr ⟨rfl, collated_trans cs ds es le le'⟩

instance : IsTotal (List Char) Collated := ⟨collated_total⟩

instance : IsTrans (List Char) Collated := ⟨collated_trans⟩

/-! ### The tables -/

/-- A row of `users` (database.go:1650-1660): the JSON text of the users list and the service ID,
which together are its primary key, with the storage folder and the state checksum. -/
structure UsersRow where
  users : List Char
  serviceid : String
  storageFolder : String
  stateCheckSum : List UInt8
deriving Repr, DecidableEq

/-- `UsersEntry` (database.go:818-823). -/
structure UsersEntry where
  users : Option (List String)
  serviceID : String
  storageFolder : String
  stateChecksum : List UInt8
deriving Repr, DecidableEq

/-- A row of `services` (database.go:1628-1648) with the columns the launcher's `Service` has a
field for: the ID, its primary key, the version, state and status, the instant `startat` reads
back as, and the TTL. The table has no column for `Devices`. -/
structure ServiceRow where
  id : String
  version : Nat
  state : ServiceState
  status : ServiceStatus
  startAt : Int
  ttl : Nat
deriving Repr, DecidableEq

/-- The two tables, each in SQLite's rowid order. -/
structure Tables where
  services : List ServiceRow
  users : List UsersRow

/-- How a read that decodes the users column ends: the entries it returns, and whether
`json.Unmarshal` refused a text, which ends the read with a `*json.SyntaxError` whose text is not
modelled. -/
structure Decoded (α : Type) where
  entries : List α
  syntaxError : Bool
deriving Repr, DecidableEq

/-- `ErrNotExist` (database.go:785). -/
def errNotExist : String := Launcher.ServiceProvider.errNotExist

/-- The `time.Time` the launcher binds for an instant: the instant in its local location, whose
offset east of UTC at each instant is `zone`. -/
def localTime (zone : Int → Int) (time : Int) : Timestamp :=
  ⟨time, zone time⟩

/-- The row `AddService` and `UpdateService` write for a service. -/
def ServiceRow.ofService (zone : Int → Int) (service : Service) : ServiceRow :=
  ⟨service.id, service.version, service.state, service.status,
    readTimestamp (localTime zone service.startAt), service.ttl⟩

/-- The `Service` a row scans into: it has no devices. -/
def ServiceRow.service (row : ServiceRow) : Service :=
  ⟨row.id, row.version, row.state, row.status, row.startAt, row.ttl, []⟩

/-- What a read returns of a service the launcher stored: the service without its devices, and
with the instant its start time reads back as. -/
def readBack (zone : Int → Int) (service : Service) : Service :=
  (ServiceRow.ofService zone service).service

/-! ### `services` -/

/-- `AddService` (database.go:878-891): `version` and `ttl` are the `uint64` arguments `$2` and
`$10`. -/
def addService (zone : Int → Int) (service : Service) (t : Tables) : GoError × Tables :=
  match convertUint64Args [(2, service.version), (10, service.ttl)] with
  | some err => (some err, t)
  | none =>
    match insertRow ServiceRow.id "UNIQUE constraint failed: services.id"
        (.ofService zone service) t.services with
    | .error err => (some err, t)
    | .ok services => (none, { t with services })

/-- The setters of `services`: an `UPDATE ... WHERE id = ?`, and `ErrNotExist` when it changed no
row. -/
def updateServiceRow (id : String) (change : ServiceRow → ServiceRow) (t : Tables) :
    GoError × Tables :=
  let (services, count) := updateWhere ServiceRow.id id change t.services
  if count = 0 then (some errNotExist, t) else (none, { t with services })

/-- `UpdateService` (database.go:893-922): every column but `id`, with `version` and `ttl` the
`uint64` arguments `$1` and `$9`. -/
def updateService (zone : Int → Int) (service : Service) (t : Tables) : GoError × Tables :=
  match convertUint64Args [(1, service.version), (9, service.ttl)] with
  | some err => (some err, t)
  | none => updateServiceRow service.id (fun row => { ServiceRow.ofService zone service with
      id := row.id }) t

/-- `SetServiceStatus` (database.go:1006-1029). -/
def setServiceStatus (id : String) (status : ServiceStatus) : Tables → GoError × Tables :=
  updateServiceRow id fun row => { row with status }

/-- `SetServiceState` (database.go:1031-1054). -/
def setServiceState (id : String) (state : ServiceState) : Tables → GoError × Tables :=
  updateServiceRow id fun row => { row with state }

/-- `SetServiceStartTime` (database.go:1056-1079). -/
def setServiceStartTime (zone : Int → Int) (id : String) (time : Int) :
    Tables → GoError × Tables :=
  updateServiceRow id fun row => { row with startAt := readTimestamp (localTime zone time) }

/-- `RemoveService` (database.go:924-935): the driver's error only. -/
def removeService (id : String) (t : Tables) : GoError × Tables :=
  (none, { t with services := (deleteWhere ServiceRow.id id t.services).1 })

/-- `GetService` (database.go:937-957). -/
def getService (id : String) (t : Tables) : Except String Service :=
  match t.services.find? (·.id = id) with
  | some row => .ok row.service
  | none => .error errNotExist

/-! ### `users` -/

/-- `WHERE users = ? AND serviceid = ?` with `json.Marshal(users)` bound. -/
def usersKey (users : Option (List String)) (serviceID : String) (row : UsersRow) : Bool :=
  row.users = Go.marshalStrings users && row.serviceid = serviceID

/-- `AddServiceToUsers` (database.go:1081-1097). -/
def addServiceToUsers (users : Option (List String)) (serviceID : String) (t : Tables) :
    GoError × Tables :=
  if t.users.any (usersKey users serviceID) then
    (some "UNIQUE constraint failed: users.users, users.serviceid", t)
  else (none, { t with users := t.users ++ [⟨Go.marshalStrings users, serviceID, "", []⟩] })

/-- `RemoveServiceFromUsers` (database.go:1099-1115). -/
def removeServiceFromUsers (users : Option (List String)) (serviceID : String) (t : Tables) :
    GoError × Tables :=
  (none, { t with users := t.users.filter fun row => !usersKey users serviceID row })

/-- The setters of `users`: an `UPDATE ... WHERE users = ? AND serviceid = ?`, and `ErrNotExist`
when it changed no row. -/
def updateUsersRow (users : Option (List String)) (serviceID : String)
    (change : UsersRow → UsersRow) (t : Tables) : GoError × Tables :=
  if t.users.countP (usersKey users serviceID) = 0 then (some errNotExist, t)
  else
    (none, { t with
      users := t.users.map fun row => if usersKey users serviceID row then change row else row })

/-- `SetUsersStorageFolder` (database.go:1117-1140). -/
def setUsersStorageFolder (users : Option (List String)) (serviceID storageFolder : String) :
    Tables → GoError × Tables :=
  updateUsersRow users serviceID fun row => { row with storageFolder }

/-- `SetUsersStateChecksum` (database.go:1142-1165). -/
def setUsersStateChecksum (users : Option (List String)) (serviceID : String)
    (checksum : List UInt8) : Tables → GoError × Tables :=
  updateUsersRow users serviceID fun row => { row with stateCheckSum := checksum }

/-- `GetUsersService` (database.go:1167-1193): the first row of the key, under the users list
and service ID it was asked for. -/
def getUsersService (users : Option (List String)) (serviceID : String) (t : Tables) :
    Except String UsersEntry :=
  match t.users.find? (usersKey users serviceID) with
  | some row => .ok ⟨users, serviceID, row.storageFolder, row.stateCheckSum⟩
  | none => .error errNotExist

/-- The loop of `GetUsersServicesByServiceID`: each row decoded in turn, up to the first text
`json.Unmarshal` refuses. -/
def decodeRows : List UsersRow → Decoded UsersEntry
  | [] => ⟨[], false⟩
  | row :: rows =>
    match Go.unmarshalStrings row.users with
    | none => ⟨[], true⟩
    | some users =>
      let rest := decodeRows rows
      ⟨⟨users, row.serviceid, row.storageFolder, row.stateCheckSum⟩ :: rest.entries,
        rest.syntaxError⟩

/-- `GetUsersServicesByServiceID` (database.go:1195-1219). -/
def getUsersServicesByServiceID (serviceID : String) (t : Tables) : Decoded UsersEntry :=
  decodeRows (t.users.filter (·.serviceid = serviceID))

/-- The list that `IN (SELECT serviceid FROM users WHERE users = ?)` tests against: the service
IDs of the users list's rows, each once, in the order of the ephemeral index SQLite builds for
it. -/
def usersServiceIDs (users : Option (List String)) (t : Tables) : List String :=
  ((t.users.filter (·.users = Go.marshalStrings users)).map (·.serviceid)).dedup.insertionSort
    fun a b => Collated a.data b.data

/-- `GetUsersServices` (database.go:1221-1249): `SELECT * FROM services WHERE id IN (...)` walks
the list and looks each ID up through the primary key of `services`. -/
def getUsersServices (users : Option (List String)) (t : Tables) : List Service :=
  (usersServiceIDs users t).filterMap fun id => (t.services.find? (·.id = id)).map ServiceRow.service

/-- `IsUsersService` (database.go:1251-1269). -/
def isUsersService (users : Option (List String)) (serviceID : String) (t : Tables) : Bool :=
  t.users.any (usersKey users serviceID)

/-- The loop of `GetUsersList`: each text decoded in turn, up to the first one refused. -/
def decodeTexts : List (List Char) → Decoded (Option (List String))
  | [] => ⟨[], false⟩
  | text :: texts =>
    match Go.unmarshalStrings text with
    | none => ⟨[], true⟩
    | some users =>
      let rest := decodeTexts texts
      ⟨users :: rest.entries, rest.syntaxError⟩

/-- `GetUsersList` (database.go:1271-1298): `SELECT DISTINCT users FROM users` reads the index of
the primary key `(users, serviceid)`, so each text comes once, in the index's order, and is
decoded. -/
def getUsersList (t : Tables) : Decoded (Option (List String)) :=
  decodeTexts ((t.users.map (·.users)).dedup.insertionSort Collated)

/-- `RemoveServiceFromAllUsers` (database.go:1300-1311). -/
def removeServiceFromAllUsers (serviceID : String) (t : Tables) : GoError × Tables :=
  (none, { t with users := t.users.filter (·.serviceid ≠ serviceID) })

/-! ### What the tables represent -/

@[simp]
theorem ServiceRow.ofService_id (zone : Int → Int) (service : Service) :
    (ServiceRow.ofService zone service).id = service.id :=
  rfl

/-- The key of a users row as SQLite compares it. -/
def UsersRow.key (row : UsersRow) : List Char × String :=
  (row.users, row.serviceid)

/-- The key under which the SQL table stores a row of the launcher's users table. -/
def encode (entry : UsersService) : List Char × String :=
  (Go.marshalStrings entry.users, entry.serviceID)

/-- The SQL tables hold what the launcher's storage holds: the launcher's services in order, each
as the row its write stores, under distinct IDs, and the launcher's users rows in order, each
under its users list's JSON text. -/
structure Represents (zone : Int → Int) (l : Launcher) (t : Tables) : Prop where
  services : t.services = l.services.map (ServiceRow.ofService zone)
  serviceIDs : (l.services.map Service.id).Nodup
  users : t.users.map UsersRow.key = l.usersServices.map encode

theorem encode_injective : Function.Injective encode := by
  rintro ⟨users, id⟩ ⟨users', id'⟩ same
  simp only [encode, Prod.mk.injEq] at same
  obtain ⟨texts, rfl⟩ := same
  rw [Go.marshalStrings_inj texts]

theorem usersKey_eq (users : Option (List String)) (serviceID : String) (row : UsersRow) :
    usersKey users serviceID row = decide (row.key = encode ⟨users, serviceID⟩) := by
  simp [usersKey, UsersRow.key, encode, Prod.ext_iff]

section Keyed

variable {zone : Int → Int} {l : Launcher} {t : Tables}

/-- A statement keyed by a users list and a service ID finds a row exactly when the launcher's
users table holds the pair. -/
theorem any_usersKey (represents : Represents zone l t) (users : Option (List String))
    (serviceID : String) :
    t.users.any (usersKey users serviceID) =
      decide (⟨users, serviceID⟩ ∈ l.usersServices) := by
  rw [Bool.eq_iff_iff, List.any_eq_true, decide_eq_true_iff,
    ← List.mem_map_of_injective encode_injective, ← represents.users]
  simp [usersKey_eq, List.mem_map]

/-- A filter by a condition on the key keeps the launcher's rows that meet it. -/
theorem map_key_filter (represents : Represents zone l t) (keep : List Char × String → Bool) :
    (t.users.filter (keep ∘ UsersRow.key)).map UsersRow.key =
      (l.usersServices.filter (keep ∘ encode)).map encode := by
  rw [← List.filter_map, represents.users, List.filter_map]

theorem countP_usersKey_eq_zero (represents : Represents zone l t) (users : Option (List String))
    (serviceID : String) :
    t.users.countP (usersKey users serviceID) = 0 ↔
      ⟨users, serviceID⟩ ∉ l.usersServices := by
  rw [List.countP_eq_zero, ← decide_eq_true_iff (p := _ ∉ _), decide_not,
    ← any_usersKey represents, Bool.not_eq_true', List.any_eq_false]

theorem serviceRowIDs_nodup (represents : Represents zone l t) :
    (t.services.map ServiceRow.id).Nodup := by
  rw [represents.services, List.map_map]
  exact represents.serviceIDs

end Keyed

/-! ### Each write refines the launcher's storage -/

/-- The writes of the `ServiceProvider` on the two tables. -/
inductive ProviderCall where
  | addService (service : Service)
  | updateService (service : Service)
  | removeService (id : String)
  | setServiceStatus (id : String) (status : ServiceStatus)
  | setServiceState (id : String) (state : ServiceState)
  | setServiceStartTime (id : String) (time : Int)
  | addServiceToUsers (users : Option (List String)) (serviceID : String)
  | removeServiceFromUsers (users : Option (List String)) (serviceID : String)
  | setUsersStorageFolder (users : Option (List String)) (serviceID storageFolder : String)
  | setUsersStateChecksum (users : Option (List String)) (serviceID : String)
      (checksum : List UInt8)
  | removeServiceFromAllUsers (serviceID : String)
deriving Repr, DecidableEq

/-- One write on the SQL tables, for a local location whose offset at each instant is `zone`. -/
def ProviderCall.run (zone : Int → Int) : ProviderCall → Tables → GoError × Tables
  | .addService service => Provider.addService zone service
  | .updateService service => Provider.updateService zone service
  | .removeService id => Provider.removeService id
  | .setServiceStatus id status => Provider.setServiceStatus id status
  | .setServiceState id state => Provider.setServiceState id state
  | .setServiceStartTime id time => Provider.setServiceStartTime zone id time
  | .addServiceToUsers users serviceID => Provider.addServiceToUsers users serviceID
  | .removeServiceFromUsers users serviceID => Provider.removeServiceFromUsers users serviceID
  | .setUsersStorageFolder users serviceID folder =>
    Provider.setUsersStorageFolder users serviceID folder
  | .setUsersStateChecksum users serviceID checksum =>
    Provider.setUsersStateChecksum users serviceID checksum
  | .removeServiceFromAllUsers serviceID => Provider.removeServiceFromAllUsers serviceID

/-- The same write on the launcher's storage. The launcher keeps no storage folder or checksum:
their setters only report whether the row exists. -/
def ProviderCall.model : ProviderCall → Launcher → GoError × Launcher
  | .addService service => Launcher.ServiceProvider.addService service
  | .updateService service => Launcher.ServiceProvider.updateService service
  | .removeService id => Launcher.ServiceProvider.removeService id
  | .setServiceStatus id status => Launcher.ServiceProvider.setServiceStatus id status
  | .setServiceState id state => Launcher.ServiceProvider.setServiceState id state
  | .setServiceStartTime id time => Launcher.ServiceProvider.setService id
    fun service => { service with startAt := time }
  | .addServiceToUsers users serviceID => Launcher.ServiceProvider.addServiceToUsers users serviceID
  | .removeServiceFromUsers users serviceID =>
    Launcher.ServiceProvider.removeServiceFromUsers users serviceID
  | .setUsersStorageFolder users serviceID _ | .setUsersStateChecksum users serviceID _ => fun l =>
    (if ⟨users, serviceID⟩ ∈ l.usersServices then none else some errNotExist, l)
  | .removeServiceFromAllUsers serviceID =>
    Launcher.ServiceProvider.removeServiceFromAllUsers serviceID

/-- The `uint64` arguments a write binds, each with its position. -/
def ProviderCall.uint64Args : ProviderCall → List (Nat × Nat)
  | .addService service => [(2, service.version), (10, service.ttl)]
  | .updateService service => [(1, service.version), (9, service.ttl)]
  | _ => []

/-- What a write should do: fail the driver's conversion of a `uint64` argument with its high bit
set, and otherwise what the launcher's storage does. -/
def ProviderCall.spec (call : ProviderCall) (l : Launcher) : GoError × Launcher :=
  match convertUint64Args call.uint64Args with
  | some err => (some err, l)
  | none => call.model l

section Refinement

variable {zone : Int → Int} {l : Launcher} {t : Tables}

theorem countP_eq_zero_iff_any {α : Type} (p : α → Bool) (rows : List α) :
    rows.countP p = 0 ↔ rows.any p = false := by
  simp [List.countP_eq_zero]

/-- A setter of `services` returns what the launcher's `setService` returns, for a change that
keeps the ID and agrees with the launcher's on the rows it updates. -/
theorem updateServiceRow_refines (represents : Represents zone l t) (id : String)
    {change : ServiceRow → ServiceRow} {change' : Service → Service}
    (agree : ∀ service : Service, service.id = id →
      change (.ofService zone service) = .ofService zone (change' service))
    (keeps : ∀ service : Service, service.id = id → (change' service).id = id) :
    (updateServiceRow id change t).1 = (Launcher.ServiceProvider.setService id change' l).1 ∧
      Represents zone (Launcher.ServiceProvider.setService id change' l).2
        (updateServiceRow id change t).2 := by
  have changed : (l.services.map (ServiceRow.ofService zone)).map
      (fun row => if row.id = id then change row else row) =
      (l.services.map fun s => if s.id = id then change' s else s).map (.ofService zone) := by
    simp only [List.map_map]
    exact List.map_congr_left fun s _ => by
      by_cases hit : s.id = id <;> simp [hit, agree]
  have ids : (l.services.map fun s => if s.id = id then change' s else s).map Service.id =
      l.services.map Service.id := by
    simp only [List.map_map]
    exact List.map_congr_left fun s _ => by
      by_cases hit : s.id = id <;> simp [hit, keeps]
  simp only [updateServiceRow, updateWhere, Launcher.ServiceProvider.setService,
    represents.services, List.countP_map, countP_eq_zero_iff_any, Function.comp_def,
    ServiceRow.ofService_id]
  cases l.services.any (·.id = id)
  · exact ⟨rfl, represents.services ▸ represents⟩
  · exact ⟨rfl, ⟨changed, ids ▸ represents.serviceIDs, represents.users⟩⟩

/-- A setter of `users` keeps every key, and fails exactly when the launcher has no such row. -/
theorem updateUsersRow_refines (represents : Represents zone l t) (users : Option (List String))
    (serviceID : String) {change : UsersRow → UsersRow}
    (keeps : ∀ row, (change row).key = row.key) :
    (updateUsersRow users serviceID change t).1 =
        (if ⟨users, serviceID⟩ ∈ l.usersServices then none else some errNotExist) ∧
      Represents zone l (updateUsersRow users serviceID change t).2 := by
  unfold updateUsersRow
  by_cases held : (⟨users, serviceID⟩ : UsersService) ∈ l.usersServices
  · rw [if_neg (mt (countP_usersKey_eq_zero represents users serviceID).1 (not_not.2 held)),
      if_pos held]
    refine ⟨rfl, represents.services, represents.serviceIDs, ?_⟩
    rw [List.map_map, ← represents.users]
    exact List.map_congr_left fun row _ => by
      by_cases hit : usersKey users serviceID row <;> simp [hit, keeps]
  · rw [if_pos ((countP_usersKey_eq_zero represents users serviceID).2 held), if_neg held]
    exact ⟨rfl, represents⟩

/-- A filter of the users rows by a condition on the key keeps the representation. -/
theorem Represents.filterUsers (represents : Represents zone l t)
    (keep : List Char × String → Bool) {keepRow : UsersRow → Bool}
    {keepEntry : UsersService → Bool}
    (row : ∀ r, keepRow r = keep r.key) (entry : ∀ e, keepEntry e = keep (encode e)) :
    Represents zone { l with usersServices := l.usersServices.filter keepEntry }
      { t with users := t.users.filter keepRow } :=
  ⟨represents.services, represents.serviceIDs, by
    rw [funext row, funext entry]
    exact map_key_filter represents keep⟩

/-- One write returns what the launcher's storage returns, after the driver's conversion, and
keeps the representation. -/
theorem ProviderCall.run_refines (call : ProviderCall) (represents : Represents zone l t) :
    (call.run zone t).1 = (call.spec l).1 ∧ Represents zone (call.spec l).2 (call.run zone t).2 := by
  cases call with
  | addService service =>
    simp only [ProviderCall.run, ProviderCall.spec, ProviderCall.uint64Args, ProviderCall.model,
      Provider.addService]
    cases convertUint64Args [(2, service.version), (10, service.ttl)] with
    | some err => exact ⟨rfl, represents⟩
    | none =>
      have same : (t.services.any fun row => row.id = service.id) =
          l.services.any (·.id = service.id) := by
        rw [represents.services, Bool.eq_iff_iff]
        simp
      cases fresh : l.services.any (·.id = service.id)
      · have absent : service.id ∉ l.services.map Service.id := by simpa using fresh
        simp only [Launcher.ServiceProvider.addService, insertRow, ServiceRow.ofService_id, same,
          fresh, Bool.false_eq_true, if_false, true_and]
        refine ⟨by rw [represents.services, List.map_append]; rfl, ?_, represents.users⟩
        rw [List.map_append, List.nodup_append]
        exact ⟨represents.serviceIDs, List.nodup_singleton _, List.disjoint_singleton.2 absent⟩
      · simp only [Launcher.ServiceProvider.addService, insertRow, ServiceRow.ofService_id, same,
          fresh, if_true]
        exact ⟨trivial, represents⟩
  | updateService service =>
    simp only [ProviderCall.run, ProviderCall.spec, ProviderCall.uint64Args, ProviderCall.model,
      Provider.updateService]
    cases convertUint64Args [(1, service.version), (9, service.ttl)] with
    | some err => exact ⟨rfl, represents⟩
    | none =>
      exact updateServiceRow_refines represents _ (fun s same => by
        rw [ServiceRow.ofService_id, same]
        rfl) fun _ _ => rfl
  | removeService id =>
    refine ⟨rfl, ⟨?_, ?_, represents.users⟩⟩
    · simp only [ProviderCall.run, ProviderCall.spec, ProviderCall.uint64Args, convertUint64Args,
        ProviderCall.model, Provider.removeService, deleteWhere,
        Launcher.ServiceProvider.removeService, represents.services, List.filter_map,
        Function.comp_def, ServiceRow.ofService_id]
    · exact ((List.filter_sublist _).map _).nodup represents.serviceIDs
  | setServiceStatus id status =>
    exact updateServiceRow_refines represents _ (fun _ _ => rfl) fun _ same => same
  | setServiceState id state =>
    exact updateServiceRow_refines represents _ (fun _ _ => rfl) fun _ same => same
  | setServiceStartTime id time =>
    exact updateServiceRow_refines represents _ (fun _ _ => rfl) fun _ same => same
  | addServiceToUsers users serviceID =>
    simp only [ProviderCall.run, ProviderCall.spec, ProviderCall.uint64Args, convertUint64Args,
      ProviderCall.model, Provider.addServiceToUsers, Launcher.ServiceProvider.addServiceToUsers,
      any_usersKey represents]
    by_cases held : (⟨users, serviceID⟩ : UsersService) ∈ l.usersServices
    · rw [if_pos (decide_eq_true held), if_pos held]
      exact ⟨rfl, represents⟩
    · rw [if_neg (by simpa using held), if_neg held]
      refine ⟨rfl, represents.services, represents.serviceIDs, ?_⟩
      rw [List.map_append, List.map_append, represents.users]
      rfl
  | removeServiceFromUsers users serviceID =>
    refine ⟨rfl, represents.filterUsers (fun key => !decide (key = encode ⟨users, serviceID⟩))
      (fun row => by rw [usersKey_eq]) (fun entry => ?_)⟩
    simp [encode_injective.eq_iff]
  | setUsersStorageFolder users serviceID folder =>
    exact updateUsersRow_refines represents users serviceID fun _ => rfl
  | setUsersStateChecksum users serviceID checksum =>
    exact updateUsersRow_refines represents users serviceID fun _ => rfl
  | removeServiceFromAllUsers serviceID =>
    exact ⟨rfl, represents.filterUsers (fun key => decide (key.2 ≠ serviceID)) (fun _ => rfl)
      (fun _ => rfl)⟩

end Refinement

/-! ### Runs and reads -/

/-- A run of writes, each on the state the writes before it left: the error each returns, in
order, and the final state. -/
def runProvider {σ : Type} (step : ProviderCall → σ → GoError × σ) :
    List ProviderCall → σ → List GoError × σ
  | [], s => ([], s)
  | call :: calls, s =>
    let rest := runProvider step calls (step call s).2
    ((step call s).1 :: rest.1, rest.2)

theorem runProvider_refines {zone : Int → Int} :
    ∀ (calls : List ProviderCall) {l : Launcher} {t : Tables}, Represents zone l t →
      (runProvider (ProviderCall.run zone) calls t).1 = (runProvider ProviderCall.spec calls l).1 ∧
        Represents zone (runProvider ProviderCall.spec calls l).2
          (runProvider (ProviderCall.run zone) calls t).2
  | [], _, _, represents => ⟨rfl, represents⟩
  | call :: calls, _, _, represents => by
    obtain ⟨same, represents'⟩ := call.run_refines represents
    obtain ⟨rest, final⟩ := runProvider_refines calls represents'
    exact ⟨by simp only [runProvider, same, rest], final⟩

/-- The launcher's view of an entry `GetUsersService` and `GetUsersServicesByServiceID` return. -/
def UsersEntry.usersService (entry : UsersEntry) : UsersService :=
  ⟨entry.users, entry.serviceID⟩

theorem marshalStrings_injective : Function.Injective Go.marshalStrings :=
  fun _ _ same => Go.marshalStrings_inj same

/-- Rows keyed by the JSON texts of a list of the launcher's rows decode, in order, to that list. -/
theorem decodeRows_of_keys : ∀ (rows : List UsersRow) (entries : List UsersService),
    rows.map UsersRow.key = entries.map encode →
      (decodeRows rows).syntaxError = false ∧
        (decodeRows rows).entries.map UsersEntry.usersService = entries
  | [], [], _ => ⟨rfl, rfl⟩
  | [], _ :: _, keys | _ :: _, [], keys => by simp at keys
  | row :: rows, entry :: entries, keys => by
    simp only [List.map_cons, List.cons.injEq, UsersRow.key, encode, Prod.mk.injEq] at keys
    obtain ⟨⟨text, id⟩, rest⟩ := keys
    have decoded : Go.unmarshalStrings row.users = some entry.users := by
      rw [text]
      exact Go.scan_marshalStrings entry.users
    obtain ⟨noError, decodedRest⟩ := decodeRows_of_keys rows entries rest
    simp only [decodeRows, decoded]
    exact ⟨noError, by rw [List.map_cons, decodedRest, UsersEntry.usersService, id]⟩

theorem decodeTexts_map_marshalStrings : ∀ users : List (Option (List String)),
    decodeTexts (users.map Go.marshalStrings) = ⟨users, false⟩
  | [] => rfl
  | users :: rest => by
    simp only [List.map_cons, decodeTexts, Go.unmarshalStrings, Go.scan_marshalStrings,
      decodeTexts_map_marshalStrings rest]

/-- Looking each ID of a list up in `services` keeps, in order, the IDs that have a row. -/
theorem map_id_filterMap_find (services : List ServiceRow) : ∀ ids : List String,
    (ids.filterMap fun id => (services.find? (·.id = id)).map ServiceRow.service).map (·.id) =
      ids.filter fun id => services.any (·.id = id)
  | [] => rfl
  | id :: ids => by
    have rest := map_id_filterMap_find services ids
    have found := any_eq_isSome_entries ServiceRow.id ServiceRow.service services id
    unfold entries at found
    rw [List.filterMap_cons, List.filter_cons, found]
    cases search : services.find? (·.id = id) with
    | none => exact rest
    | some row =>
      have same : row.id = id := by simpa using List.find?_some search
      simp only [Option.map_some', Option.isSome_some, if_true, List.map_cons, rest]
      exact congrArg (· :: _) same

/-- The list `GetUsersServices` walks holds each service ID of the users' rows once, in `BINARY`
order. -/
theorem usersServiceIDs_sorted (users : Option (List String)) (t : Tables) :
    (usersServiceIDs users t).Nodup ∧
      (usersServiceIDs users t).Sorted fun a b => Collated a.data b.data := by
  refine ⟨(List.perm_insertionSort _ _).nodup_iff.2 (List.nodup_dedup _), ?_⟩
  rw [List.Sorted, ← List.pairwise_map (f := String.data) (R := Collated), usersServiceIDs,
    List.map_insertionSort _ Collated _ _ fun _ _ _ _ => Iff.rfl]
  exact List.sorted_insertionSort _ _

section Reads

variable {zone : Int → Int} {l : Launcher} {t : Tables}

theorem getService_eq (represents : Represents zone l t) (id : String) :
    getService id t = (Launcher.ServiceProvider.getService id l).map (readBack zone) := by
  simp only [getService, Launcher.ServiceProvider.getService, represents.services,
    List.find?_map, Function.comp_def, ServiceRow.ofService_id]
  cases l.services.find? (·.id = id) <;> rfl

theorem mem_usersServiceIDs (represents : Represents zone l t) (users : Option (List String))
    (id : String) : id ∈ usersServiceIDs users t ↔ ⟨users, id⟩ ∈ l.usersServices := by
  have found := any_usersKey represents users id
  rw [Bool.eq_iff_iff, List.any_eq_true, decide_eq_true_iff] at found
  rw [usersServiceIDs, List.mem_insertionSort, List.mem_dedup, ← found]
  simp [usersKey, and_assoc]

/-- A service is among those `GetUsersServices` returns exactly when it is one of the launcher's
services of the users, read back. -/
theorem mem_getUsersServices (represents : Represents zone l t) (users : Option (List String))
    (service : Service) : service ∈ getUsersServices users t ↔
      service ∈ (Launcher.ServiceProvider.getUsersServices users l).map (readBack zone) := by
  simp only [getUsersServices, List.mem_filterMap, List.mem_map, Option.map_eq_some',
    Launcher.ServiceProvider.getUsersServices, List.mem_filter, decide_eq_true_eq,
    mem_usersServiceIDs represents]
  constructor
  · rintro ⟨id, held, row, search, rfl⟩
    have same : row.id = id := by simpa using List.find?_some search
    have member := List.mem_of_find?_eq_some search
    rw [represents.services] at member
    obtain ⟨s, inLauncher, rfl⟩ := List.mem_map.1 member
    exact ⟨s, ⟨inLauncher, (show s.id = id from same) ▸ held⟩, rfl⟩
  · rintro ⟨s, ⟨inLauncher, held⟩, rfl⟩
    have member : ServiceRow.ofService zone s ∈ t.services :=
      represents.services ▸ List.mem_map_of_mem _ inLauncher
    have search : t.services.find? (·.id = s.id) = some (.ofService zone s) :=
      find?_key_of_mem ServiceRow.id (serviceRowIDs_nodup represents) member
    exact ⟨s.id, held, _, search, rfl⟩

/-- `GetUsersServices` returns the launcher's services of the users, read back, each once and in
the `BINARY` order of their IDs. -/
theorem getUsersServices_spec (represents : Represents zone l t) (users : Option (List String)) :
    (getUsersServices users t).Perm
        ((Launcher.ServiceProvider.getUsersServices users l).map (readBack zone)) ∧
      ((getUsersServices users t).map (·.id.data)).Sorted Collated ∧
      ((getUsersServices users t).map (·.id)).Nodup := by
  obtain ⟨distinct, sorted⟩ := usersServiceIDs_sorted users t
  have ids := map_id_filterMap_find t.services (usersServiceIDs users t)
  have resultIDs : ((getUsersServices users t).map (·.id)).Nodup := ids ▸ distinct.filter _
  have launcherIDs : ((Launcher.ServiceProvider.getUsersServices users l).map
      (readBack zone)).Nodup := by
    refine List.Nodup.of_map Service.id ?_
    rw [List.map_map]
    exact ((List.filter_sublist _).map _).nodup represents.serviceIDs
  refine ⟨(List.perm_ext_iff_of_nodup (resultIDs.of_map _) launcherIDs).2
    (mem_getUsersServices represents users), ?_, resultIDs⟩
  have composed : (getUsersServices users t).map (·.id.data) =
      ((getUsersServices users t).map (·.id)).map String.data := (List.map_map _ _ _).symm
  rw [composed, getUsersServices, ids, List.Sorted, List.pairwise_map]
  exact sorted.filter _

theorem getUsersService_error_iff (represents : Represents zone l t) (users : Option (List String))
    (serviceID : String) :
    getUsersService users serviceID t = .error errNotExist ↔
      Launcher.ServiceProvider.getUsersService users serviceID l = some errNotExist := by
  have found : (t.users.find? (usersKey users serviceID)).isSome =
      decide (⟨users, serviceID⟩ ∈ l.usersServices) := by
    rw [← any_usersKey represents, Bool.eq_iff_iff, List.find?_isSome, List.any_eq_true]
  by_cases held : (⟨users, serviceID⟩ : UsersService) ∈ l.usersServices
  · obtain ⟨row, first⟩ := Option.isSome_iff_exists.1 (found.trans (decide_eq_true held))
    simp [getUsersService, Launcher.ServiceProvider.getUsersService, first, held]
  · have none : t.users.find? (usersKey users serviceID) = none :=
      Option.not_isSome_iff_eq_none.1 (by rw [found]; simpa using held)
    simp [getUsersService, Launcher.ServiceProvider.getUsersService, none, held, errNotExist]

/-- `GetUsersServicesByServiceID` decodes every row of the service, and returns the launcher's
rows of the service in order. -/
theorem getUsersServicesByServiceID_eq (represents : Represents zone l t) (serviceID : String) :
    (getUsersServicesByServiceID serviceID t).syntaxError = false ∧
      (getUsersServicesByServiceID serviceID t).entries.map UsersEntry.usersService =
        l.usersServices.filter (·.serviceID = serviceID) :=
  decodeRows_of_keys _ _ (map_key_filter represents fun key => decide (key.2 = serviceID))

/-- `GetUsersList` decodes every text, and returns each users list of the launcher's table once,
in the `BINARY` order of its JSON text. -/
theorem getUsersList_spec (represents : Represents zone l t) :
    (getUsersList t).syntaxError = false ∧
      (getUsersList t).entries.Perm (l.usersServices.map (·.users)).dedup ∧
      ((getUsersList t).entries.map Go.marshalStrings).Sorted Collated := by
  have texts : t.users.map (·.users) = (l.usersServices.map (·.users)).map Go.marshalStrings := by
    have firsts := congrArg (List.map Prod.fst) represents.users
    rw [List.map_map, List.map_map] at firsts
    rw [List.map_map]
    exact firsts
  have sorted := List.map_insertionSort (fun a b => Collated (Go.marshalStrings a)
    (Go.marshalStrings b)) Collated Go.marshalStrings (l.usersServices.map (·.users)).dedup
    fun _ _ _ _ => Iff.rfl
  rw [getUsersList, texts, List.dedup_map_of_injective marshalStrings_injective, ← sorted,
    decodeTexts_map_marshalStrings]
  exact ⟨rfl, List.perm_insertionSort _ _, sorted ▸ List.sorted_insertionSort _ _⟩

end Reads

/-- The services come back in the order of their IDs, not of their rows, without devices; the
users lists in the order of their JSON texts, `["user0"]` before `null`. -/
example : let calls := [ProviderCall.addService ⟨"service1", 1, .stateInit, .statusOk, 0, 30,
      ["tty"]⟩, .addService ⟨"service0", 1, .stateInit, .statusOk, 0, 30, []⟩,
      .addServiceToUsers (some ["user0"]) "service1", .addServiceToUsers none "service0",
      .addServiceToUsers (some ["user0"]) "service0"]
    let final := (runProvider (ProviderCall.run fun _ => 0) calls ⟨[], []⟩).2
    (getUsersServices (some ["user0"]) final).map (·.id) = ["service0", "service1"] ∧
      (getService "service1" final).toOption =
        some ⟨"service1", 1, .stateInit, .statusOk, 0, 30, []⟩ ∧
      (getUsersList final).entries = [some ["user0"], none] := by
  dsimp only
  decide

end AosServiceManager.Database.Provider
