/-
Module: AosServiceManager.Launcher.Users
Layer: Proofs
Purpose: Users isolation (launcher.go:436-463, 646-842, 1128-1156, 1241-1278, 1526-1726).
  `Isolated users l` says that the launcher runs for `users`, that no users row has `nil` users,
  and that a service whose unit was last started is associated with the current, set users: it
  has a record and a row for them. Every function an install, an uninstall or `SetUsers` runs
  keeps it. A start comes only after the service's row for the current users exists
  (`addServiceToCurrentUsers` precedes each `startService`, `startServices` starts only the
  current users' services, and the rollback of `updateService` restarts the old version under
  the row its update added); a stop comes before each removal of a row or a record; and
  `SetUsers` stops every service of the old users before it changes them. `UpdateState`
  restarts a service without looking at the users and is left out.
Imports: AosServiceManager.Launcher.Frame
Trusted boundary: none
Main exports: Isolated, isUsersEqual_iff, setUsers_isolated, runActions_isolated,
  users_isolation
-/
import AosServiceManager.Launcher.Frame

namespace AosServiceManager.Launcher

/-! ### The invariant -/

/-- The launcher runs for `users`, no users row has `nil` users, and every running service is
associated with the current users. -/
structure Isolated (users : Option (List String)) (l : Launcher) : Prop where
  users : l.users = users
  rows : ∀ row ∈ l.usersServices, row.users ≠ none
  running : ∀ id, l.Running id → l.Associated id

variable {U : Option (List String)}

/-- A calm change keeps the invariant when each service it leaves running was running or is
associated with the current users. -/
theorem Isolated.of_calm {l l' : Launcher} (iso : Isolated U l) (calm : Calm l l')
    (running : ∀ id, l'.Running id → l.Running id ∨ l.Associated id) : Isolated U l' where
  users := calm.users.trans iso.users
  rows row member := by
    rcases calm.newRows row member with old | ⟨same, set⟩
    · exact iso.rows row old
    · exact same ▸ set
  running id started := calm.associated <| (running id started).elim (iso.running id) fun h => h

theorem Isolated.of_quiet {l l' : Launcher} (iso : Isolated U l) (quiet : Quiet l l') :
    Isolated U l' :=
  iso.of_calm quiet.toCalm fun id started => .inl (quiet.running id started)

theorem Isolated.of_starts {l l' : Launcher} {id : String} (iso : Isolated U l)
    (starts : Starts id l l') (associated : l.Associated id) : Isolated U l' :=
  iso.of_calm starts.toCalm fun other started =>
    (starts.running other started).imp (fun h => h) fun (same : other = id) => same ▸ associated

/-- A change that issues no unit call, keeps the users, adds no row, and keeps every running
service associated. -/
theorem Isolated.of_stable {l l' : Launcher} (iso : Isolated U l) (users : l'.users = l.users)
    (units : l'.units = l.units) (rows : ∀ row ∈ l'.usersServices, row ∈ l.usersServices)
    (kept : ∀ id, l.Running id → l.Associated id → l'.Associated id) : Isolated U l' where
  users := users.trans iso.users
  rows row member := iso.rows row (rows row member)
  running id started := by
    rw [Launcher.Running, units] at started
    exact kept id started (iso.running id started)

/-- The stable changes with respect to the invariant and one more fact `Q`: the quiet ones. -/
theorem quiet_isolated {α : Type} {m : LauncherM α} (quiet : Keeps Quiet m) {Q : Launcher → Prop}
    (stable : ∀ l l', Calm l l' → Q l → Q l') :
    Triple (fun l => Isolated U l ∧ Q l) m fun _ l => Isolated U l ∧ Q l :=
  Triple.of_keeps quiet fun _ _ quiet ⟨iso, holds⟩ =>
    ⟨iso.of_quiet quiet, stable _ _ quiet.toCalm holds⟩

theorem associated_stable (id : String) :
    ∀ l l', Calm l l' → l.Associated id → l'.Associated id :=
  fun _ _ calm => calm.associated

theorem sendServiceStatus_isolated (status : ServiceInfo) :
    Triple (Isolated U) (sendServiceStatus status) fun _ => Isolated U :=
  Triple.of_keeps (sendServiceStatus_devicesOnly status) fun _ _ change iso =>
    iso.of_quiet change.quiet

/-! ### Stopping and removing -/

theorem stopService_isolated (service : Service) :
    Triple (Isolated U) (stopService service) fun _ l => Isolated U l ∧ ¬l.Running service.id :=
  fun s iso => ⟨iso.of_quiet (stopService_quiet service s), stopService_stops service s⟩

/-- A storage call that deletes rows or records of the stopped service `id` only. -/
theorem removal_isolated {id : String} {f : Launcher → GoError × Launcher}
    (users : ∀ l, (f l).2.users = l.users) (units : ∀ l, (f l).2.units = l.units)
    (rows : ∀ l, ∀ row ∈ (f l).2.usersServices, row ∈ l.usersServices)
    (kept : ∀ l other, other ≠ id → l.Associated other → (f l).2.Associated other) :
    Triple (fun l => Isolated U l ∧ ¬l.Running id) (storage f)
      fun _ l => Isolated U l ∧ ¬l.Running id := fun s ⟨iso, stopped⟩ => by
  have running : ∀ other, (f s.1).2.Running other ↔ s.1.Running other := by
    simp only [Launcher.Running, units, implies_true]
  refine ⟨iso.of_stable (users _) (units _) (rows _) fun other started associated => ?_,
    fun started => stopped ((running id).1 started)⟩
  exact kept _ other (fun same => stopped (same ▸ started)) associated

theorem removeServiceFromAllUsers_isolated (id : String) :
    Triple (fun l => Isolated U l ∧ ¬l.Running id)
      (storage (ServiceProvider.removeServiceFromAllUsers id))
      fun _ l => Isolated U l ∧ ¬l.Running id :=
  removal_isolated (fun _ => rfl) (fun _ => rfl) (fun _ _ member => (List.mem_filter.1 member).1)
    fun _ _ different ⟨set, row, record⟩ =>
      ⟨set, List.mem_filter.2 ⟨row, by simpa using different⟩, record⟩

theorem removeService_storage_isolated (id : String) :
    Triple (fun l => Isolated U l ∧ ¬l.Running id) (storage (ServiceProvider.removeService id))
      fun _ l => Isolated U l ∧ ¬l.Running id :=
  removal_isolated (fun _ => rfl) (fun _ => rfl) (fun _ _ member => member)
    fun _ _ different ⟨set, row, record⟩ => ⟨set, row, by
      obtain ⟨service, member, named⟩ := List.any_eq_true.1 (mem_ids_iff.1 record)
      exact mem_ids_iff.2 (List.any_eq_true.2
        ⟨service, List.mem_filter.2 ⟨member, by simp_all⟩, named⟩)⟩

theorem removeService_isolated (service : Service) :
    Triple (Isolated U) (removeService service) fun _ => Isolated U :=
  ((stopService_isolated service).bind fun retErr => (Triple.external.keepFirst retErr).bind
    fun retErr => ((removeServiceFromAllUsers_isolated service.id).keepFirst retErr).bind
      fun retErr => (removeService_storage_isolated service.id).keepFirst retErr).weaken
    (fun _ iso => iso) fun _ _ post => post.1

theorem cleanServicesDB_isolated : Triple (Isolated U) cleanServicesDB fun _ => Isolated U :=
  (Triple.read _).bind fun _ =>
    ((Triple.forEachService removeService_isolated _).weaken (fun _ pre => pre.2)
      fun _ _ post => post).bind
      fun _ => Triple.pure fun _ iso => iso

/-! ### Starting -/

/-- `startService` keeps the invariant, and each calm-stable fact `Q` that makes the service
associated with the current users. -/
theorem startService_isolated (service : Service) {Q : Launcher → Prop}
    (stable : ∀ l l', Calm l l' → Q l → Q l') (associated : ∀ l, Q l → l.Associated service.id) :
    Triple (fun l => Isolated U l ∧ Q l) (startService service) fun _ l => Isolated U l ∧ Q l :=
  Triple.of_keeps (startService_starts service) fun _ _ starts ⟨iso, holds⟩ =>
    ⟨iso.of_starts starts (associated _ holds), stable _ _ starts.toCalm holds⟩

theorem forEachService_startService (services : List Service) :
    Triple (fun l => Isolated U l ∧ ∀ service ∈ services, l.Associated service.id)
      (forEachService startService services) fun _ => Isolated U := by
  induction services with
  | nil => exact Triple.pure fun _ pre => pre.1
  | cons service services ih =>
    refine (startService_isolated service (fun _ _ calm all other member =>
      calm.associated (all other member)) fun _ all => all service (List.mem_cons_self _ _)).bind
      fun _ => ih.weaken (fun _ pre => ⟨pre.1, fun other member =>
        pre.2 other (List.mem_cons_of_mem _ member)⟩) fun _ _ post => post

/-- The services `GetUsersServices` lists for the current users are associated with them. -/
theorem associated_of_getUsersServices {l : Launcher} {service : Service} (iso : Isolated U l)
    (member : service ∈ ServiceProvider.getUsersServices l.users l) : l.Associated service.id := by
  obtain ⟨record, row⟩ := List.mem_filter.1 member
  have row : (⟨l.users, service.id⟩ : UsersService) ∈ l.usersServices := by simpa using row
  exact ⟨iso.rows _ row, row, mem_ids_iff.2 (List.any_eq_true.2 ⟨service, record, by simp⟩)⟩

theorem startServices_isolated : Triple (Isolated U) startServices fun _ => Isolated U :=
  (Triple.read _).bind fun _ => (forEachService_startService _).weaken
    (fun _ ⟨listed, iso⟩ => ⟨iso, fun _ member =>
      associated_of_getUsersServices iso (listed ▸ member)⟩) fun _ _ post => post

/-- Under set users, `addServiceToCurrentUsers` of a service with a record succeeds and
associates it with them. -/
theorem addServiceToCurrentUsers_isolated (id : String) :
    Triple (fun l => Isolated U l ∧ U ≠ none ∧ id ∈ (keys l).map Prod.fst)
      (addServiceToCurrentUsers id) fun err l => err = none ∧ Isolated U l ∧ l.Associated id :=
  fun s ⟨iso, set, record⟩ => by
    obtain ⟨quiet, ok, row⟩ := addServiceToCurrentUsers_spec id s (iso.users ▸ set)
    exact ⟨ok, iso.of_quiet quiet, quiet.users ▸ iso.users ▸ set, quiet.users ▸ row,
      quiet.keys ▸ record⟩

/-- `UpdateService` rewrites records under their own ID: IDs, rows and units stay. -/
theorem updateService_storage_isolated (service : Service) (id : String) :
    Triple (fun l => Isolated U l ∧ l.Associated id) (storage (ServiceProvider.updateService service))
      fun _ l => Isolated U l ∧ l.Associated id :=
  Triple.of_keeps (setService_rewrites service.id _ fun _ named => named.symm)
    fun _ _ change ⟨iso, associated⟩ =>
      ⟨iso.of_stable change.users change.units (fun _ row => change.usersServices ▸ row)
        fun _ _ other => other.of_rewrites change, associated.of_rewrites change⟩

/-! ### Adding, updating and restoring -/

theorem addService_storage_isolated (service : Service) :
    Triple (fun l => Isolated U l ∧ U ≠ none) (storage (ServiceProvider.addService service))
      fun err l => (Isolated U l ∧ U ≠ none) ∧ (err = none → service.id ∈ (keys l).map Prod.fst) :=
  fun s ⟨iso, set⟩ => by
    unfold storage ServiceProvider.addService
    split
    · exact ⟨⟨iso, set⟩, nofun⟩
    · refine ⟨⟨iso.of_stable rfl rfl (fun _ row => row) fun _ _ ⟨set, row, record⟩ =>
        ⟨set, row, ?_⟩, set⟩, fun _ => by simp [keys]⟩
      simp only [keys, List.map_append, List.mem_append] at record ⊢
      exact .inl record

theorem addServiceBody_isolated (service : Service) :
    Triple (fun l => Isolated U l ∧ U ≠ none ∧ service.id ∈ (keys l).map Prod.fst)
      (addServiceBody service) fun _ => Isolated U :=
  Triple.orReturn
    (Triple.of_eq (Keeps.external.bind fun
      | none => Keeps.pure _
      | some _ => Keeps.external))
    (Triple.orReturn_ok (addServiceToCurrentUsers_isolated service.id) <|
      Triple.orReturn (Triple.of_eq (Keeps.addServiceToSystemd service))
        ((startService_isolated service (associated_stable _) fun _ associated => associated).weaken
          (fun _ pre => pre) fun _ _ post => post.1)
        fun _ _ pre => pre.1)
    fun _ _ pre => pre.1

theorem addService_isolated (service : Service) :
    Triple (fun l => Isolated U l ∧ U ≠ none) (addService service) fun _ => Isolated U :=
  Triple.orReturn Triple.external
    (Triple.orReturn (addService_storage_isolated service)
      (((addServiceBody_isolated service).weaken
        (fun _ ⟨⟨iso, set⟩, record⟩ => ⟨iso, set, record rfl⟩) fun _ _ post => post).bind fun
        | none => Triple.pure fun _ iso => iso
        | some _ => (removeService_isolated service).bind fun _ => Triple.pure fun _ iso => iso)
      fun _ _ post => post.1.1)
    fun _ _ pre => pre.1

theorem updateServiceState_isolated (id : String) (state : ServiceState) (status : ServiceStatus) :
    Triple (fun l => Isolated U l ∧ U ≠ none ∧ id ∈ (keys l).map Prod.fst)
      (updateServiceState id state status)
      fun err l => err = none ∧ Isolated U l ∧ U ≠ none ∧ id ∈ (keys l).map Prod.fst :=
  fun s ⟨iso, set, record⟩ =>
    have quiet := updateServiceState_quiet id state status s
    ⟨updateServiceState_ok state status s record, iso.of_quiet quiet, set, quiet.keys ▸ record⟩

/-- The update body ends, failed or not, with the old service associated with the current
users: its first two steps, which cannot fail, add the row. -/
theorem updateServiceBody_isolated (oldService newService : Service)
    (same : newService.id = oldService.id) :
    Triple (fun l => Isolated U l ∧ U ≠ none ∧ oldService.id ∈ (keys l).map Prod.fst)
      (updateServiceBody oldService newService)
      fun _ l => Isolated U l ∧ l.Associated oldService.id :=
  Triple.orReturn_ok (updateServiceState_isolated oldService.id _ _) <|
  Triple.orReturn_ok ((addServiceToCurrentUsers_isolated newService.id).weaken
    (fun _ ⟨iso, set, record⟩ => ⟨iso, set, same ▸ record⟩)
    fun _ _ ⟨ok, iso, associated⟩ => ⟨ok, iso, same ▸ associated⟩) <|
  (Triple.external.orReturn · fun _ _ pre => pre) <|
  ((quiet_isolated (stopService_quiet oldService) (associated_stable _)).orReturn · fun _ _ pre => pre) <|
  (Triple.external.orReturn · fun _ _ pre => pre) <|
  ((Triple.of_eq (Keeps.addServiceToSystemd newService)).orReturn · fun _ _ pre => pre) <|
  ((startService_isolated newService (associated_stable _) fun _ associated =>
    same ▸ associated).orReturn · fun _ _ pre => pre) <|
  ((updateService_storage_isolated newService _).orReturn · fun _ _ pre => pre) <|
  (quiet_isolated (fun s => (sendServiceStatus_devicesOnly _ s).quiet) (associated_stable _)).bind
    fun _ => Triple.pure fun _ pre => pre

theorem restoreService_isolated (service : Service) :
    Triple (fun l => Isolated U l ∧ l.Associated service.id) (restoreService service)
      fun _ => Isolated U :=
  ((updateService_storage_isolated service service.id).bind fun retErr =>
    (Triple.external.keepFirst retErr).bind fun retErr =>
      ((Triple.of_eq (Keeps.addServiceToSystemd service)).keepFirst retErr).bind fun retErr =>
        (startService_isolated service (associated_stable _) fun _ associated =>
          associated).keepFirst retErr).weaken
    (fun _ pre => pre) fun _ _ post => post.1

theorem restoreOrRemove_isolated (oldService : Service) :
    Triple (fun l => Isolated U l ∧ l.Associated oldService.id) (restoreOrRemove oldService)
      fun _ => Isolated U :=
  (restoreService_isolated oldService).bind fun
    | none => Triple.pure fun _ iso => iso
    | some _ => (removeService_isolated oldService).bind fun _ => sendServiceStatus_isolated _

theorem updateServiceRollback_isolated (oldService newService : Service) :
    Triple (fun l => Isolated U l ∧ l.Associated oldService.id)
      (updateServiceRollback oldService newService) fun _ => Isolated U :=
  (quiet_isolated (stopService_quiet newService) (associated_stable _)).bind fun _ =>
    Triple.external.bind fun _ => (restoreOrRemove_isolated oldService).bind fun _ =>
      Triple.pure fun _ iso => iso

theorem updateService_isolated (oldService newService : Service)
    (same : newService.id = oldService.id) :
    Triple (fun l => Isolated U l ∧ U ≠ none ∧ oldService.id ∈ (keys l).map Prod.fst)
      (updateService oldService newService) fun _ => Isolated U :=
  (updateServiceBody_isolated oldService newService same).bind fun
    | none => Triple.pure fun _ post => post.1
    | some _ => updateServiceRollback_isolated oldService newService

/-! ### Install and uninstall -/

theorem installImage_isolated (info : ServiceInfoToInstall) (existing : Option Service)
    (named : ∀ service, existing = some service → service.id = info.id) :
    Triple (fun l => Isolated U l ∧ U ≠ none ∧ info.id ∈ (keys l).map Prod.fst ∨
        Isolated U l ∧ U ≠ none ∧ existing = none)
      (installImage info existing) fun _ => Isolated U := by
  have final : Triple (fun l => Isolated U l ∧ U ≠ none ∧ info.id ∈ (keys l).map Prod.fst ∨
      Isolated U l ∧ U ≠ none ∧ existing = none)
      (match existing with
        | none => addService (prepareService info)
        | some service => updateService service (prepareService info)) fun _ => Isolated U := by
    cases existing with
    | none => exact (addService_isolated _).weaken (fun _ pre => pre.elim
        (fun ⟨iso, set, _⟩ => ⟨iso, set⟩) fun ⟨iso, set, _⟩ => ⟨iso, set⟩) fun _ _ post => post
    | some service =>
      have same := named service rfl
      exact (updateService_isolated service _ same.symm).weaken (fun _ pre => pre.elim
        (fun ⟨iso, set, record⟩ => ⟨iso, set, same ▸ record⟩) fun ⟨_, _, absent⟩ => nomatch absent)
        fun _ _ post => post
  have failed : ∀ (err : String) l, (Isolated U l ∧ U ≠ none ∧ info.id ∈ (keys l).map Prod.fst ∨
      Isolated U l ∧ U ≠ none ∧ existing = none) → Isolated U l :=
    fun _ _ pre => pre.elim (·.1) (·.1)
  exact Triple.external.orReturn (Triple.external.orReturn (Triple.external.orReturn
    (Triple.external.orReturn final failed) failed) failed) failed

theorem installService_isolated (info : ServiceInfoToInstall) :
    Triple (Isolated U) (installService info) fun _ => Isolated U := by
  refine (Triple.read _).bind fun users => ?_
  cases users with
  | none => exact Triple.pure fun _ pre => pre.2
  | some users =>
    refine Triple.weaken (P := fun l => Isolated U l ∧ U ≠ none) ?_
      (fun _ ⟨current, iso⟩ => ⟨iso, by rw [← iso.users, ← current]; exact nofun⟩)
      fun _ _ post => post
    refine Triple.orReturn (quiet_isolated (fun s => (deviceCall_devicesOnly _ s).quiet)
      fun _ _ _ set => set) ?_ fun _ _ pre => pre.1
    refine (Triple.read _).bind fun found => ?_
    cases found with
    | error =>
      exact Triple.ite (fun _ => Triple.pure fun _ pre => pre.2.1) fun _ =>
        (installImage_isolated info none nofun).weaken
          (fun _ ⟨_, iso, set⟩ => .inr ⟨iso, set, rfl⟩) fun _ _ post => post
    | ok service =>
      have record : ∀ l, (Except.ok service = ServiceProvider.getService info.id l ∧
          Isolated U l ∧ U ≠ none) → Isolated U l ∧ U ≠ none ∧ info.id ∈ (keys l).map Prod.fst :=
        fun _ ⟨found, iso, set⟩ => ⟨iso, set, (getService_ok found.symm).2⟩
      refine Triple.assume (fun _ pre => (getService_ok pre.1.symm).1) fun same => ?_
      refine Triple.ite (fun _ => Triple.pure fun _ pre => pre.2.1) fun _ =>
        Triple.ite (fun _ => ?_) fun _ => ?_
      · refine (Triple.orReturn_ok ((addServiceToCurrentUsers_isolated info.id).weaken record
          fun _ _ post => post) ?_)
        exact (startService_isolated service (associated_stable _) fun _ associated =>
          same ▸ associated).weaken (fun _ pre => pre) fun _ _ post => post.1
      · exact (installImage_isolated info (some service) fun _ found =>
          Option.some.inj found ▸ same).weaken
          (fun l pre => .inl (record l pre)) fun _ _ post => post

theorem doActionInstall_isolated (info : ServiceInfoToInstall) :
    Triple (Isolated U) (doActionInstall info) fun _ => Isolated U :=
  (installService_isolated info).bind fun
    | some _ => sendServiceStatus_isolated _
    | none => (Triple.read _).bind fun
      | some _ => (sendServiceStatus_isolated _).weaken (fun _ pre => pre.2) fun _ _ post => post
      | none => (sendServiceStatus_isolated _).weaken (fun _ pre => pre.2) fun _ _ post => post

theorem removeServiceFromUsers_isolated (users : Option (List String)) (id : String) :
    Triple (fun l => Isolated U l ∧ ¬l.Running id)
      (storage (ServiceProvider.removeServiceFromUsers users id))
      fun _ l => Isolated U l ∧ ¬l.Running id :=
  removal_isolated (fun _ => rfl) (fun _ => rfl) (fun _ _ member => (List.mem_filter.1 member).1)
    fun _ _ different ⟨set, row, record⟩ =>
      ⟨set, List.mem_filter.2 ⟨row, by simp [different]⟩, record⟩

theorem uninstallService_isolated (id : String) :
    Triple (Isolated U) (uninstallService id) fun _ => Isolated U := by
  refine (Triple.read _).bind fun found => ?_
  cases found with
  | error => exact Triple.pure fun _ pre => pre.2
  | ok service =>
    refine (Triple.read _).bind fun users => ?_
    cases users with
    | none => exact Triple.pure fun _ pre => pre.2.2
    | some users =>
      refine Triple.bind (Q := fun _ l => Isolated U l ∧ ¬l.Running service.id) ?_ fun _ =>
        Triple.pure fun _ post => post.1
      refine Triple.orReturn ((stopService_isolated service).weaken (fun _ pre => pre.2.2)
        fun _ _ post => post) ?_ fun _ _ post => post
      refine Triple.orReturn (Triple.read _) ?_ fun _ _ pre => pre.2
      exact (Triple.external.orReturn (removeServiceFromUsers_isolated _ _)
        fun _ _ pre => pre).weaken (fun _ pre => pre.2) fun _ _ post => post

theorem doActionUninstall_isolated (id : String) :
    Triple (Isolated U) (doActionUninstall id) fun _ => Isolated U :=
  (uninstallService_isolated id).bind fun result => by
    obtain ⟨_, err⟩ := result
    cases err <;> exact sendServiceStatus_isolated _

/-! ### `SetUsers` -/

theorem isUsersEqual_iff (users1 users2 : Option (List String)) :
    isUsersEqual users1 users2 = true ↔ users1 = users2 := by
  match users1, users2 with
  | none, none => simp [isUsersEqual]
  | none, some _ | some _, none => simp [isUsersEqual]
  | some users1, some users2 =>
    simp only [isUsersEqual, Option.some.injEq]
    induction users1 generalizing users2 with
    | nil => cases users2 <;> simp
    | cons user users ih =>
      cases users2 with
      | nil => simp
      | cons user' users' =>
        simp only [List.length_cons, List.zip_cons_cons, List.all_cons, List.cons.injEq, ← ih users',
          Bool.and_eq_true, beq_iff_eq, Nat.add_right_cancel_iff]
        exact and_left_comm

/-- The stop loop is quiet, and no service it stops runs afterwards. -/
theorem forEachService_stopService (services : List Service) (s : Launcher × List GoError) :
    Quiet s.1 (forEachService stopService services s).2.1 ∧
      ∀ service ∈ services, ¬(forEachService stopService services s).2.1.Running service.id := by
  induction services generalizing s with
  | nil => exact ⟨refl_of Quiet s.1, fun _ member => nomatch member⟩
  | cons service services ih =>
    obtain ⟨quiet, stopped⟩ := ih (stopService service s).2
    refine ⟨trans_of Quiet (stopService_quiet service s) quiet, fun other member => ?_⟩
    rcases List.mem_cons.1 member with rfl | later
    · exact fun running => stopService_stops other s (quiet.running _ running)
    · exact stopped other later

/-- After `stopServices` no service runs: each running service is associated with the current
users, and so it is in the list the loop stops. -/
theorem stopServices_idle :
    Triple (Isolated U) stopServices fun _ l =>
      (∀ row ∈ l.usersServices, row.users ≠ none) ∧ ∀ id, ¬l.Running id := fun s iso => by
  have stops : ∀ services : List Service,
      (∀ id, s.1.Associated id → ∃ service ∈ services, service.id = id) →
      (∀ row ∈ (forEachService stopService services s).2.1.usersServices, row.users ≠ none) ∧
        ∀ id, ¬(forEachService stopService services s).2.1.Running id := fun services covers => by
    obtain ⟨quiet, stopped⟩ := forEachService_stopService services s
    refine ⟨(iso.of_quiet quiet).rows, fun id running => ?_⟩
    obtain ⟨service, member, rfl⟩ := covers id (iso.running id (quiet.running id running))
    exact stopped service member running
  simp only [stopServices, bind_apply, read, id_eq]
  rcases current : s.1.users with _ | users
  · exact stops _ fun _ ⟨set, _⟩ => absurd current set
  · refine stops _ fun id ⟨_, row, record⟩ => ?_
    obtain ⟨service, member, named⟩ := List.any_eq_true.1 (mem_ids_iff.1 record)
    refine ⟨service, List.mem_filter.2 ⟨member, ?_⟩, by simpa using named⟩
    simp_all

/-- `SetUsers` ends with the new users set and only their services running. -/
theorem setUsers_isolated (users : Option (List String)) :
    Triple (Isolated U) (Launcher.setUsers users) fun _ => Isolated users :=
  (Triple.read _).bind fun _ => Triple.ite
    (fun equal => Triple.pure fun _ ⟨current, iso⟩ =>
      ⟨current.symm.trans ((isUsersEqual_iff _ _).1 equal), iso.rows, iso.running⟩)
    fun _ => ((stopServices_idle.weaken (fun _ pre => pre.2) fun _ _ post => post).bind fun _ =>
      (show Triple _ (storage fun l => ((), { l with users := users })) fun _ => Isolated users from
        fun _ ⟨rows, idle⟩ => ⟨rfl, rows, fun id running => absurd running (idle id)⟩).bind fun _ =>
      (Triple.of_keeps (deviceCall_devicesOnly _) fun _ _ change iso =>
        iso.of_quiet change.quiet).bind fun
        | some _ => Triple.pure fun _ iso => iso
        | none => startServices_isolated.bind fun _ => cleanServicesDB_isolated.bind fun _ =>
          Triple.pure fun _ iso => iso)

/-! ### Runs of actions -/

/-- Every action but `UpdateState` and `SetUsers` keeps the invariant for the same users. -/
theorem Action.run_isolated (action : Action) (noUpdate : ∀ id, action ≠ .updateState id)
    (noSwitch : ∀ users, action ≠ .setUsers users) :
    Triple (Isolated U) action.run fun _ => Isolated U := by
  cases action with
  | installService info => exact doActionInstall_isolated info
  | uninstallService id => exact doActionUninstall_isolated id
  | updateState id => exact absurd rfl (noUpdate id)
  | stateAcceptance _ | finishProcessingLayers => exact Triple.pure fun _ iso => iso
  | setUsers users => exact absurd rfl (noSwitch users)

theorem Action.run_setUsers_isolated (users : Option (List String)) :
    Triple (Isolated U) (Action.setUsers users).run fun _ => Isolated users :=
  (setUsers_isolated users).bind fun _ => Triple.pure fun _ iso => iso

/-- A run without `UpdateState` keeps the invariant for some users. -/
theorem runActions_isolated (actions : List Action)
    (noUpdate : ∀ action ∈ actions, ∀ id, action ≠ .updateState id) :
    Triple (fun l => ∃ users, Isolated users l) (runActions actions)
      fun _ l => ∃ users, Isolated users l :=
  Triple.runActions actions fun action member s ⟨users, iso⟩ => by
    by_cases switch : ∃ users', action = .setUsers users'
    · obtain ⟨users', rfl⟩ := switch
      exact ⟨users', Action.run_setUsers_isolated users' s iso⟩
    · exact ⟨users, Action.run_isolated action (noUpdate action member)
        (fun users' same => switch ⟨users', same⟩) s iso⟩

/-- A run without `UpdateState` and `SetUsers` keeps the invariant for the same users. -/
theorem runActions_keeps_isolated (actions : List Action)
    (noUpdate : ∀ action ∈ actions, ∀ id, action ≠ .updateState id)
    (noSwitch : ∀ action ∈ actions, ∀ users, action ≠ .setUsers users) :
    Triple (Isolated U) (runActions actions) fun _ => Isolated U :=
  Triple.runActions actions fun action member =>
    Action.run_isolated action (noUpdate action member) (noSwitch action member)

/-- With the users unset, an action other than `UpdateState` and `SetUsers` of set users issues
no unit call and leaves the users unset. -/
theorem Action.run_unset (action : Action) (s : Launcher × List GoError) (unset : s.1.users = none)
    (noUpdate : ∀ id, action ≠ .updateState id) (noSwitch : ∀ users, action ≠ .setUsers (some users)) :
    (action.run s).2.1.units = s.1.units ∧ (action.run s).2.1.users = none := by
  cases action with
  | installService info =>
    simp [Action.run, doActionInstall, Launcher.installService, Launcher.read, unset,
      sendServiceStatus, storage]
  | uninstallService id =>
    cases found : ServiceProvider.getService id s.1 <;>
      simp [Action.run, doActionUninstall, Launcher.uninstallService, Launcher.read, unset, found,
        sendServiceStatus, storage]
  | updateState id => exact absurd rfl (noUpdate id)
  | stateAcceptance _ | finishProcessingLayers => exact ⟨rfl, unset⟩
  | setUsers users =>
    cases users with
    | none => simp [Action.run, Launcher.setUsers, Launcher.read, unset, isUsersEqual]
    | some users => exact absurd rfl (noSwitch users)

/-- Users isolation. After `SetUsers(users)` returns, and after each later install, uninstall,
state acceptance or layer action up to the next `SetUsers`, every service whose unit was last
started is associated with `users` by the users table; so no service of an earlier user set
runs, and none runs while `users` is `nil`. From a state where the users are unset, those
actions issue no unit call at all, so no service is started. -/
theorem users_isolation :
    (∀ (before after : List Action) (users : Option (List String)) (s : Launcher × List GoError),
      (∀ action ∈ before ++ after, ∀ id, action ≠ .updateState id) →
      (∀ action ∈ after, ∀ users', action ≠ .setUsers users') →
      Isolated s.1.users s.1 →
      ∀ id, (runActions (before ++ .setUsers users :: after) s).2.1.Running id →
        users ≠ none ∧
          ⟨users, id⟩ ∈ (runActions (before ++ .setUsers users :: after) s).2.1.usersServices) ∧
    (∀ (actions : List Action) (s : Launcher × List GoError), s.1.users = none →
      (∀ action ∈ actions, ∀ id, action ≠ .updateState id) →
      (∀ action ∈ actions, ∀ users, action ≠ .setUsers (some users)) →
      (runActions actions s).2.1.units = s.1.units) := by
  refine ⟨fun before after users s noUpdate noSwitch start id running => ?_, fun actions => ?_⟩
  · have run : Triple (fun l => ∃ users, Isolated users l)
        (runActions (before ++ .setUsers users :: after)) fun _ => Isolated users := by
      rw [runActions_append]
      exact (runActions_isolated before fun action member =>
        noUpdate action (List.mem_append_left _ member)).bind fun _ _ ⟨_, iso⟩ =>
          ((Action.run_setUsers_isolated users).bind fun _ =>
            runActions_keeps_isolated after (fun action member =>
              noUpdate action (List.mem_append_right _ member)) noSwitch) _ iso
    have iso := run s ⟨_, start⟩
    obtain ⟨set, row, _⟩ := iso.running id running
    rw [iso.users] at set row
    exact ⟨set, row⟩
  · induction actions with
    | nil => exact fun _ _ _ _ => rfl
    | cons action actions ih =>
      intro s unset noUpdate noSwitch
      have step := Action.run_unset action s unset (noUpdate action (List.mem_cons_self _ _))
        (noSwitch action (List.mem_cons_self _ _))
      exact (ih _ step.2 (fun other member => noUpdate other (List.mem_cons_of_mem _ member))
        fun other member => noSwitch other (List.mem_cons_of_mem _ member)).trans step.1

theorem users_isolation_from_fresh_launcher :
    (∀ id, (runActions ([] ++ .setUsers (some ["user0"]) ::
        [.installService ⟨"service0", 1, [], 30⟩])
        (⟨none, [], [], ResourceManager.new [] [] [], [], [], 0⟩, [])).2.1.Running id →
      some ["user0"] ≠ none ∧ ⟨some ["user0"], id⟩ ∈ (runActions ([] ++ .setUsers (some ["user0"]) ::
        [.installService ⟨"service0", 1, [], 30⟩])
        (⟨none, [], [], ResourceManager.new [] [] [], [], [], 0⟩, [])).2.1.usersServices) ∧
    (runActions [.installService ⟨"service0", 1, [], 30⟩]
      (⟨none, [], [], ResourceManager.new [] [] [], [], [], 0⟩, [])).2.1.units = [] :=
  ⟨users_isolation.1 [] [.installService ⟨"service0", 1, [], 30⟩] (some ["user0"])
      (⟨none, [], [], ResourceManager.new [] [] [], [], [], 0⟩, []) (by simp) (by simp)
      ⟨rfl, nofun, fun _ running => nomatch running⟩,
    users_isolation.2 [.installService ⟨"service0", 1, [], 30⟩]
      (⟨none, [], [], ResourceManager.new [] [] [], [], [], 0⟩, []) rfl (by simp) (by simp)⟩

end AosServiceManager.Launcher
