/-
Module: AosServiceManager.Launcher.Tables
Layer: Proofs
Purpose: The keys of the launcher's storage over every run. The services table is keyed by ID
  and the users table by (users, service ID) (database.go:878-891, 1081-1097); `removeService`
  deletes a service's users rows before its record (launcher.go:1639-1726), and a row is added
  only by `addServiceToCurrentUsers` for a service just stored or found (launcher.go:1526-1637,
  707-804). `Consistent` states the three facts together: no two records share an ID, no users
  row repeats, and every users row names a recorded service. Every action keeps it, whatever
  the external calls return.
Imports: AosServiceManager.Launcher.Frame, Mathlib.Data.List.Nodup
Trusted boundary: none
Main exports: Consistent, SameTables, Action.run_consistent, runActions_consistent
-/
import AosServiceManager.Launcher.Frame
import Mathlib.Data.List.Nodup

namespace AosServiceManager.Launcher

/-! ### The invariant and the changes that keep it -/

/-- The keys of both tables are unique, and every users row names a recorded service. -/
structure Consistent (l : Launcher) : Prop where
  ids : ((keys l).map Prod.fst).Nodup
  rows : l.usersServices.Nodup
  recorded : ∀ row ∈ l.usersServices, row.serviceID ∈ (keys l).map Prod.fst

/-- No ID and no users row changes. -/
structure SameTables (l l' : Launcher) : Prop where
  ids : (keys l').map Prod.fst = (keys l).map Prod.fst
  usersServices : l'.usersServices = l.usersServices

instance : IsRefl Launcher SameTables := ⟨fun _ => ⟨rfl, rfl⟩⟩

instance : IsTrans Launcher SameTables :=
  ⟨fun _ _ _ first second =>
    ⟨second.ids.trans first.ids, second.usersServices.trans first.usersServices⟩⟩

theorem SameTables.consistent {l l' : Launcher} (same : SameTables l l') (consistent : Consistent l) :
    Consistent l' where
  ids := same.ids ▸ consistent.ids
  rows := same.usersServices ▸ consistent.rows
  recorded row member := same.ids ▸ consistent.recorded row (same.usersServices ▸ member)

theorem DevicesOnly.sameTables {l l' : Launcher} (change : DevicesOnly l l') : SameTables l l' :=
  ⟨by rw [keys, keys, change.services], change.usersServices⟩

theorem Rewrites.sameTables {l l' : Launcher} (change : Rewrites l l') : SameTables l l' :=
  ⟨change.ids, change.usersServices⟩

/-- A change of no ID and no users row keeps the invariant. -/
theorem consistent_of_sameTables {α : Type} {m : LauncherM α} (keeps : Keeps SameTables m) :
    Triple Consistent m fun _ => Consistent :=
  Triple.of_keeps keeps fun _ _ same => same.consistent

/-- A change of no ID and no users row keeps the invariant and the record of `id`. -/
theorem recorded_of_sameTables {α : Type} {m : LauncherM α} (keeps : Keeps SameTables m)
    (id : String) :
    Triple (fun l => Consistent l ∧ id ∈ (keys l).map Prod.fst) m
      fun _ l => Consistent l ∧ id ∈ (keys l).map Prod.fst :=
  Triple.of_keeps keeps fun _ _ same ⟨consistent, record⟩ =>
    ⟨same.consistent consistent, same.ids ▸ record⟩

/-! ### Calls that change neither table's keys -/

theorem unitCall_sameTables (call : UnitCall) : Keeps SameTables (unitCall call) :=
  fun _ => ⟨rfl, rfl⟩

/-- An update by ID whose new records keep the ID. -/
theorem setService_sameTables (id : String) (f : Service → Service)
    (keeps : ∀ service, service.id = id → (f service).id = service.id) :
    Keeps SameTables (storage (ServiceProvider.setService id f)) :=
  (setService_rewrites id f keeps).mono fun _ _ => Rewrites.sameTables

theorem setServiceStartTime_sameTables (id : String) :
    Keeps SameTables (storage (ServiceProvider.setServiceStartTime id)) := fun s =>
  setService_sameTables id (fun service => { service with startAt := s.1.now }) (fun _ _ => rfl) s

theorem updateService_sameTables (service : Service) :
    Keeps SameTables (storage (ServiceProvider.updateService service)) :=
  setService_sameTables service.id _ fun _ named => named.symm

theorem updateServiceState_sameTables (id : String) (state : ServiceState)
    (status : ServiceStatus) : Keeps SameTables (updateServiceState id state status) :=
  (Keeps.read _).bind fun result => by
    cases result with
    | error => exact Keeps.pure _
    | ok _ =>
      refine (Keeps.ite ?_ (Keeps.pure _)).orReturn (Keeps.ite ?_ (Keeps.pure _))
      all_goals exact setService_sameTables _ _ fun _ _ => rfl

theorem stopService_sameTables (service : Service) : Keeps SameTables (stopService service) :=
  (unitCall_sameTables _).bind fun retErr =>
    (((poststopService_devicesOnly _).mono fun _ _ => DevicesOnly.sameTables).keepFirst retErr).bind
      fun retErr => (updateServiceState_sameTables _ _ _).keepFirst retErr

theorem startService_sameTables (service : Service) : Keeps SameTables (startService service) :=
  ((prestartService_devicesOnly service).mono fun _ _ => DevicesOnly.sameTables).orReturn <|
    (unitCall_sameTables _).orReturn <|
      (updateServiceState_sameTables _ _ _).bind fun _ =>
        (setServiceStartTime_sameTables _).bind fun _ => Keeps.pure _

theorem stopServices_sameTables : Keeps SameTables stopServices :=
  (Keeps.read _).bind fun l => by
    cases l.users
    exacts [Keeps.forEachService stopService_sameTables _,
      Keeps.forEachService stopService_sameTables _]

theorem startServices_sameTables : Keeps SameTables startServices :=
  (Keeps.read _).bind fun _ => Keeps.forEachService startService_sameTables _

theorem restoreService_sameTables (service : Service) : Keeps SameTables (restoreService service) :=
  (updateService_sameTables service).bind fun retErr => (Keeps.external.keepFirst retErr).bind
    fun retErr => ((Keeps.addServiceToSystemd service).keepFirst retErr).bind
      fun retErr => (startService_sameTables service).keepFirst retErr

/-- `UpdateState` stops and restarts a service and touches neither table. -/
theorem doUpdateState_sameTables (id : String) : Keeps SameTables (doUpdateState id) :=
  (Keeps.read _).bind fun found => by
    cases found with
    | error => exact Keeps.pure _
    | ok service =>
      exact ((stopService_sameTables service).orReturn <|
        Keeps.external.orReturn (startService_sameTables service)).bind fun _ => Keeps.pure _

/-! ### Storage calls -/

theorem addService_storage_consistent (service : Service) :
    Triple Consistent (storage (ServiceProvider.addService service))
      fun _ l => Consistent l ∧ service.id ∈ (keys l).map Prod.fst := fun s consistent => by
  unfold storage ServiceProvider.addService
  split
  next present => exact ⟨consistent, mem_ids_iff.2 present⟩
  next fresh =>
    have absent : service.id ∉ (keys s.1).map Prod.fst := fun member => fresh (mem_ids_iff.1 member)
    have ids : (keys { s.1 with services := s.1.services ++ [service] }).map Prod.fst =
        (keys s.1).map Prod.fst ++ [service.id] := by
      simp [keys]
    refine ⟨⟨?_, consistent.rows, fun row member => ?_⟩, by simp [ids]⟩
    · simpa [ids] using consistent.ids.concat absent
    · exact ids ▸ List.mem_append_left _ (consistent.recorded row member)

/-- An insert into the users table for a recorded service. -/
theorem addServiceToUsers_consistent (users : Option (List String)) (id : String) :
    Triple (fun l => Consistent l ∧ id ∈ (keys l).map Prod.fst)
      (storage (ServiceProvider.addServiceToUsers users id))
      fun _ l => Consistent l ∧ id ∈ (keys l).map Prod.fst := fun s ⟨consistent, record⟩ => by
  unfold storage ServiceProvider.addServiceToUsers
  split
  next => exact ⟨consistent, record⟩
  next fresh =>
    refine ⟨⟨consistent.ids, by simpa using consistent.rows.concat fresh, fun row member => ?_⟩,
      record⟩
    rcases List.mem_append.1 member with old | added
    · exact consistent.recorded row old
    · obtain rfl := List.mem_singleton.1 added
      exact record

theorem addServiceToCurrentUsers_consistent (id : String) :
    Triple (fun l => Consistent l ∧ id ∈ (keys l).map Prod.fst) (addServiceToCurrentUsers id)
      fun _ l => Consistent l ∧ id ∈ (keys l).map Prod.fst :=
  (Triple.read _).bind fun _ => (Triple.read _).bind fun
    | none => Triple.pure fun _ pre => pre.2.2
    | some _ => Triple.ite (fun _ => Triple.pure fun _ pre => pre.2.2) fun _ =>
      (addServiceToUsers_consistent _ _).weaken (fun _ pre => pre.2.2) fun _ _ post => post

/-- Deleting users rows keeps the invariant. -/
theorem Consistent.filterRows {l : Launcher} (consistent : Consistent l) (p : UsersService → Bool) :
    Consistent { l with usersServices := l.usersServices.filter p } where
  ids := consistent.ids
  rows := consistent.rows.sublist (List.filter_sublist _)
  recorded row member := consistent.recorded row (List.mem_filter.1 member).1

theorem removeServiceFromUsers_consistent (users : Option (List String)) (id : String) :
    Triple Consistent (storage (ServiceProvider.removeServiceFromUsers users id))
      fun _ => Consistent :=
  fun _ consistent => consistent.filterRows _

theorem removeServiceFromAllUsers_consistent (id : String) :
    Triple Consistent (storage (ServiceProvider.removeServiceFromAllUsers id))
      fun _ l => Consistent l ∧ ∀ row ∈ l.usersServices, row.serviceID ≠ id :=
  fun _ consistent => ⟨consistent.filterRows _, fun _ member => by
    simpa using (List.mem_filter.1 member).2⟩

/-- Deleting a record that no users row names keeps the invariant. -/
theorem removeService_storage_consistent (id : String) :
    Triple (fun l => Consistent l ∧ ∀ row ∈ l.usersServices, row.serviceID ≠ id)
      (storage (ServiceProvider.removeService id)) fun _ => Consistent :=
  fun s ⟨consistent, unnamed⟩ => by
    have ids : (keys { s.1 with services := s.1.services.filter (·.id ≠ id) }).map Prod.fst =
        ((keys s.1).map Prod.fst).filter (· ≠ id) := by
      simp [keys, List.filter_map, Function.comp_def]
    refine ⟨?_, consistent.rows, fun row member => ?_⟩
    · simpa only [storage, ServiceProvider.removeService, ids] using
        consistent.ids.sublist (List.filter_sublist _)
    · simpa only [storage, ServiceProvider.removeService, ids, List.mem_filter,
        decide_eq_true_eq] using ⟨consistent.recorded row member, unnamed row member⟩

/-! ### Removing, adding and updating a service -/

theorem removeService_consistent (service : Service) :
    Triple Consistent (removeService service) fun _ => Consistent :=
  (consistent_of_sameTables (stopService_sameTables service)).bind fun retErr =>
    (Triple.external.keepFirst retErr).bind fun retErr =>
      ((removeServiceFromAllUsers_consistent service.id).keepFirst retErr).bind fun retErr =>
        (removeService_storage_consistent service.id).keepFirst retErr

theorem cleanServicesDB_consistent : Triple Consistent cleanServicesDB fun _ => Consistent :=
  (Triple.read _).bind fun _ =>
    ((Triple.forEachService removeService_consistent _).weaken (fun _ pre => pre.2)
      fun _ _ post => post).bind fun _ => Triple.pure fun _ consistent => consistent

theorem addServiceBody_consistent (service : Service) :
    Triple (fun l => Consistent l ∧ service.id ∈ (keys l).map Prod.fst) (addServiceBody service)
      fun _ => Consistent :=
  Triple.orReturn
    (Triple.of_eq (Keeps.external.bind fun
      | none => Keeps.pure _
      | some _ => Keeps.external))
    (Triple.orReturn (addServiceToCurrentUsers_consistent service.id)
      ((recorded_of_sameTables ((Keeps.addServiceToSystemd service).orReturn
        (startService_sameTables service)) _).weaken (fun _ pre => pre) fun _ _ post => post.1)
      fun _ _ pre => pre.1)
    fun _ _ pre => pre.1

theorem addService_consistent (service : Service) :
    Triple Consistent (addService service) fun _ => Consistent :=
  Triple.orReturn Triple.external
    (Triple.orReturn (addService_storage_consistent service)
      ((addServiceBody_consistent service).bind fun
        | none => Triple.pure fun _ consistent => consistent
        | some _ => (removeService_consistent service).bind fun _ =>
          Triple.pure fun _ consistent => consistent)
      fun _ _ post => post.1)
    fun _ _ pre => pre

/-- The update body keeps the invariant when the new version's ID is recorded: the row it adds
names that ID. -/
theorem updateServiceBody_consistent (oldService newService : Service) :
    Triple (fun l => Consistent l ∧ newService.id ∈ (keys l).map Prod.fst)
      (updateServiceBody oldService newService) fun _ => Consistent :=
  Triple.orReturn (recorded_of_sameTables (updateServiceState_sameTables _ _ _) newService.id)
    (Triple.orReturn (addServiceToCurrentUsers_consistent newService.id)
      ((recorded_of_sameTables (Keeps.external.orReturn <|
        (stopService_sameTables oldService).orReturn <| Keeps.external.orReturn <|
        (Keeps.addServiceToSystemd newService).orReturn <|
        (startService_sameTables newService).orReturn <|
        (updateService_sameTables newService).orReturn <|
        ((sendServiceStatus_devicesOnly _).mono fun _ _ => DevicesOnly.sameTables).bind fun _ =>
          Keeps.pure _) _).weaken (fun _ pre => pre) fun _ _ post => post.1)
      fun _ _ pre => pre.1)
    fun _ _ pre => pre.1

theorem restoreOrRemove_consistent (oldService : Service) :
    Triple Consistent (restoreOrRemove oldService) fun _ => Consistent :=
  (consistent_of_sameTables (restoreService_sameTables oldService)).bind fun
    | none => Triple.pure fun _ consistent => consistent
    | some _ => (removeService_consistent oldService).bind fun _ =>
      consistent_of_sameTables ((sendServiceStatus_devicesOnly _).mono fun _ _ =>
        DevicesOnly.sameTables)

theorem updateService_consistent (oldService newService : Service) :
    Triple (fun l => Consistent l ∧ newService.id ∈ (keys l).map Prod.fst)
      (updateService oldService newService) fun _ => Consistent :=
  (updateServiceBody_consistent oldService newService).bind fun
    | none => Triple.pure fun _ consistent => consistent
    | some _ => (consistent_of_sameTables (stopService_sameTables newService)).bind fun _ =>
      Triple.external.bind fun _ => (restoreOrRemove_consistent oldService).bind fun _ =>
        Triple.pure fun _ consistent => consistent

/-! ### Actions -/

theorem installImage_consistent (info : ServiceInfoToInstall) (existing : Option Service) :
    Triple (fun l => Consistent l ∧ (existing ≠ none → info.id ∈ (keys l).map Prod.fst))
      (installImage info existing) fun _ => Consistent := by
  have final : Triple (fun l => Consistent l ∧ (existing ≠ none → info.id ∈ (keys l).map Prod.fst))
      (match existing with
        | none => addService (prepareService info)
        | some service => updateService service (prepareService info)) fun _ => Consistent := by
    cases existing with
    | none => exact (addService_consistent _).weaken (fun _ pre => pre.1) fun _ _ post => post
    | some service =>
      exact (updateService_consistent service _).weaken
        (fun _ pre => ⟨pre.1, pre.2 (Option.some_ne_none _)⟩) fun _ _ post => post
  have failed : ∀ (err : String) l,
      (Consistent l ∧ (existing ≠ none → info.id ∈ (keys l).map Prod.fst)) → Consistent l :=
    fun _ _ pre => pre.1
  exact Triple.external.orReturn (Triple.external.orReturn (Triple.external.orReturn
    (Triple.external.orReturn final failed) failed) failed) failed

theorem installService_consistent (info : ServiceInfoToInstall) :
    Triple Consistent (installService info) fun _ => Consistent := by
  refine (Triple.read _).bind fun users => ?_
  cases users with
  | none => exact Triple.pure fun _ pre => pre.2
  | some _ =>
    refine Triple.weaken ?_ (fun _ pre => pre.2) fun _ _ post => post
    refine Triple.orReturn (consistent_of_sameTables
      ((deviceCall_devicesOnly _).mono fun _ _ => DevicesOnly.sameTables)) ?_ fun _ _ pre => pre
    refine (Triple.read _).bind fun found => ?_
    cases found with
    | error =>
      exact Triple.ite (fun _ => Triple.pure fun _ pre => pre.2) fun _ =>
        (installImage_consistent info none).weaken (fun _ pre => ⟨pre.2, nofun⟩)
          fun _ _ post => post
    | ok service =>
      have record : ∀ l, (Except.ok service = ServiceProvider.getService info.id l ∧
          Consistent l) → Consistent l ∧ info.id ∈ (keys l).map Prod.fst :=
        fun _ ⟨found, consistent⟩ => ⟨consistent, (getService_ok found.symm).2⟩
      refine Triple.ite (fun _ => Triple.pure fun _ pre => pre.2) fun _ =>
        Triple.ite (fun _ => ?_) fun _ => ?_
      · exact (Triple.orReturn (addServiceToCurrentUsers_consistent info.id)
          (recorded_of_sameTables (startService_sameTables service) _)
          fun _ _ pre => pre).weaken record fun _ _ post => post.1
      · exact (installImage_consistent info (some service)).weaken
          (fun l pre => ⟨pre.2, fun _ => (record l pre).2⟩) fun _ _ post => post

theorem uninstallService_consistent (id : String) :
    Triple Consistent (uninstallService id) fun _ => Consistent := by
  refine (Triple.read _).bind fun found => ?_
  cases found with
  | error => exact Triple.pure fun _ pre => pre.2
  | ok service =>
    refine (Triple.read _).bind fun users => ?_
    cases users with
    | none => exact Triple.pure fun _ pre => pre.2.2
    | some users =>
      refine Triple.bind (Q := fun _ => Consistent) ?_ fun _ => Triple.pure fun _ post => post
      refine (Triple.orReturn (consistent_of_sameTables (stopService_sameTables service)) ?_
        fun _ _ post => post).weaken (fun _ pre => pre.2.2) fun _ _ post => post
      refine Triple.orReturn (Triple.read _) ?_ fun _ _ pre => pre.2
      exact (Triple.external.orReturn (removeServiceFromUsers_consistent _ _)
        fun _ _ pre => pre).weaken (fun _ pre => pre.2) fun _ _ post => post

theorem setUsers_consistent (users : Option (List String)) :
    Triple Consistent (setUsers users) fun _ => Consistent :=
  (Triple.read _).bind fun _ => Triple.ite (fun _ => Triple.pure fun _ pre => pre.2) fun _ =>
    ((consistent_of_sameTables (stopServices_sameTables)).weaken (fun _ pre => pre.2)
      fun _ _ post => post).bind fun _ =>
    (consistent_of_sameTables fun _ => ⟨rfl, rfl⟩).bind fun _ =>
    (consistent_of_sameTables ((deviceCall_devicesOnly _).mono fun _ _ =>
      DevicesOnly.sameTables)).bind fun
    | some _ => Triple.pure fun _ consistent => consistent
    | none => (consistent_of_sameTables (startServices_sameTables)).bind fun _ =>
      cleanServicesDB_consistent.bind fun _ => Triple.pure fun _ consistent => consistent

/-- Every action keeps the storage's keys, whatever its external calls return. -/
theorem Action.run_consistent (action : Action) :
    Triple Consistent action.run fun _ => Consistent := by
  have send : ∀ status, Triple Consistent (sendServiceStatus status) fun _ => Consistent :=
    fun _ => consistent_of_sameTables ((sendServiceStatus_devicesOnly _).mono fun _ _ =>
      DevicesOnly.sameTables)
  cases action with
  | installService info =>
    exact (installService_consistent info).bind fun
      | some _ => send _
      | none => (Triple.read _).bind fun
        | some _ => (send _).weaken (fun _ pre => pre.2) fun _ _ post => post
        | none => (send _).weaken (fun _ pre => pre.2) fun _ _ post => post
  | uninstallService id =>
    exact (uninstallService_consistent id).bind fun
      | (_, none) => send _
      | (_, some _) => send _
  | updateState id => exact consistent_of_sameTables (doUpdateState_sameTables id)
  | stateAcceptance _ | finishProcessingLayers => exact Triple.pure fun _ consistent => consistent
  | setUsers users =>
    exact (setUsers_consistent users).bind fun _ => Triple.pure fun _ consistent => consistent

/-- Over every run of actions from a state whose storage keys are unique and whose users rows
name recorded services, the storage stays so, whatever the external calls return. -/
theorem runActions_consistent (actions : List Action) (s : Launcher × List GoError)
    (consistent : Consistent s.1) : Consistent (runActions actions s).2.1 :=
  Triple.runActions actions (fun action _ => Action.run_consistent action) s consistent

theorem runActions_consistent_from_empty_storage :
    Consistent (⟨none, [], [], ResourceManager.new [] [] [], [], [], 0⟩ : Launcher) ∧
    Consistent (runActions
      [.setUsers (some ["user0"]), .installService ⟨"service0", 1, [], 30⟩,
        .uninstallService "service0"]
      (⟨none, [], [], ResourceManager.new [] [] [], [], [], 0⟩, [])).2.1 :=
  have empty : Consistent (⟨none, [], [], ResourceManager.new [] [] [], [], [], 0⟩ : Launcher) :=
    ⟨List.nodup_nil, List.nodup_nil, nofun⟩
  ⟨empty, runActions_consistent _ _ empty⟩

end AosServiceManager.Launcher
