/-
Module: AosServiceManager.Launcher.Versions
Layer: Proofs
Purpose: Version monotonicity (launcher.go:707-804, 1280-1312, 1526-1637). The version stored for
  an ID changes only through `UpdateService`: `updateService` calls it with the newer version
  that `installService` checked, and `restoreService` with the version the record held. Other
  calls add a record only for an ID that has none, or remove one. Between two actions the
  version of an ID that has a record therefore never decreases; an install of a lower version
  changes nothing but the status it sends; and a failed update leaves the old version, or no
  record exactly when `restoreService` fails.
Imports: AosServiceManager.Launcher.Frame
Trusted boundary: none
Main exports: SameKeys, NoCreate, versionOf_updateService, restoreOrRemove_version,
  updateServiceRollback_version, Action.run_versionAtLeast, versions_never_decrease
-/
import AosServiceManager.Launcher.Frame

namespace AosServiceManager.Launcher

/-! ### Versions under the storage calls -/

theorem versionOf_eq_find (l : Launcher) (id : String) :
    versionOf l id = (l.services.find? (·.id = id)).map (·.version) := by
  simp [versionOf, keys, List.find?_map, Function.comp_def]

theorem find?_absent {l : Launcher} {id : String}
    (absent : ¬(l.services.any (·.id = id)) = true) : l.services.find? (·.id = id) = none :=
  List.find?_eq_none.2 fun service member named =>
    absent (List.any_eq_true.2 ⟨service, member, named⟩)

theorem versionOf_removeService (id other : String) (l : Launcher) :
    versionOf (ServiceProvider.removeService id l).2 other =
      if other = id then none else versionOf l other := by
  simp only [versionOf_eq_find, ServiceProvider.removeService, List.find?_filter]
  split
  · subst_vars
    simp
  · congr 1
    refine congrArg (List.find? · l.services) (funext fun service => ?_)
    by_cases named : service.id = other <;> simp_all

/-- `AddService` creates the record of an ID that has none, and changes no version. -/
theorem versionOf_addService (service : Service) (other : String) (l : Launcher) :
    versionOf (ServiceProvider.addService service l).2 other =
      (versionOf l other).or (if other = service.id then some service.version else none) := by
  simp only [versionOf_eq_find, ServiceProvider.addService]
  split
  · rename_i present
    cases found : l.services.find? (·.id = other) with
    | some => rfl
    | none =>
      split
      · subst_vars
        obtain ⟨record, member, named⟩ := List.any_eq_true.1 present
        exact absurd named (List.find?_eq_none.1 found record member)
      · rfl
  · simp only [List.find?_append, List.find?_singleton]
    cases found : l.services.find? (·.id = other) with
    | some => rfl
    | none =>
      by_cases same : other = service.id
      · subst same
        simp
      · simp [same, Ne.symm same]

/-- `UpdateService` sets the version of the ID it names, if that ID has a record. -/
theorem versionOf_updateService (service : Service) (other : String) (l : Launcher) :
    versionOf (ServiceProvider.updateService service l).2 other =
      if other = service.id then (versionOf l other).map fun _ => service.version
      else versionOf l other := by
  simp only [versionOf_eq_find, ServiceProvider.updateService, ServiceProvider.setService]
  split
  · have keeps : ((fun s : Service => decide (s.id = other)) ∘
        fun s : Service => if s.id = service.id then service else s) =
          fun s => decide (s.id = other) :=
      funext fun s => by by_cases named : s.id = service.id <;> simp [named]
    simp only [List.find?_map, keeps, Option.map_map]
    cases found : l.services.find? (·.id = other) with
    | none => simp
    | some record =>
      have named : record.id = other := by simpa using List.find?_some found
      by_cases same : other = service.id <;> simp [same, named]
  · rename_i absent
    split
    · subst_vars
      simp [find?_absent absent]
    · rfl

/-- `UpdateService` of an ID that has a record succeeds. -/
theorem updateService_ok {l : Launcher} {service : Service} {version : Nat}
    (present : versionOf l service.id = some version) :
    (ServiceProvider.updateService service l).1 = none := by
  rw [versionOf_eq_find, Option.map_eq_some'] at present
  obtain ⟨record, found, _⟩ := present
  have named := List.find?_some found
  have listed : l.services.any (fun s => decide (s.id = service.id)) = true :=
    List.any_eq_true.2 ⟨record, List.mem_of_find?_eq_some found, named⟩
  simp only [ServiceProvider.updateService, ServiceProvider.setService, listed, if_true]

/-! ### Changes that keep or only remove versions -/

/-- The (ID, version) pairs stay. -/
def SameKeys (l l' : Launcher) : Prop :=
  keys l' = keys l

/-- No record of `id` is created and its version is not lowered: each version `id` has after the
change it had before, or a lower one. -/
def NoCreate (id : String) (l l' : Launcher) : Prop :=
  ∀ v', versionOf l' id = some v' → ∃ v, versionOf l id = some v ∧ v ≤ v'

instance : IsRefl Launcher SameKeys := ⟨fun _ => rfl⟩

instance : IsTrans Launcher SameKeys := ⟨fun _ _ _ first second => second.trans first⟩

instance (id : String) : IsRefl Launcher (NoCreate id) :=
  ⟨fun _ v' present => ⟨v', present, Nat.le_refl v'⟩⟩

instance (id : String) : IsTrans Launcher (NoCreate id) :=
  ⟨fun _ _ _ first second v'' present =>
    have ⟨v', middle, le'⟩ := second v'' present
    have ⟨v, before, le⟩ := first v' middle
    ⟨v, before, Nat.le_trans le le'⟩⟩

theorem SameKeys.versionOf {l l' : Launcher} (same : SameKeys l l') (id : String) :
    versionOf l' id = versionOf l id := by
  simp only [Launcher.versionOf, show keys l' = keys l from same]

theorem SameKeys.noCreate {l l' : Launcher} (same : SameKeys l l') (id : String) :
    NoCreate id l l' :=
  fun v' present => ⟨v', same.versionOf id ▸ present, Nat.le_refl v'⟩

theorem Keeps.noCreate {α : Type} {m : LauncherM α} (same : Keeps SameKeys m) (id : String) :
    Keeps (NoCreate id) m :=
  same.mono fun _ _ same => same.noCreate id

/-- A storage call on the users table or the users keeps every record. -/
theorem storage_sameKeys {α : Type} {f : Launcher → α × Launcher}
    (records : ∀ l, (f l).2.services = l.services) : Keeps SameKeys (storage f) :=
  fun s => by simp only [SameKeys, keys, storage, records]

theorem stopService_sameKeys (service : Service) : Keeps SameKeys (stopService service) :=
  (stopService_quiet service).mono fun _ _ quiet => quiet.keys

theorem startService_sameKeys (service : Service) : Keeps SameKeys (startService service) :=
  (startService_starts service).mono fun _ _ starts => starts.keys

theorem deviceCall_sameKeys (f : ResourceManager → GoError × ResourceManager) :
    Keeps SameKeys (deviceCall f) :=
  (deviceCall_devicesOnly f).mono fun _ _ change => change.quiet.keys

theorem sendServiceStatus_sameKeys (status : ServiceInfo) :
    Keeps SameKeys (sendServiceStatus status) :=
  (sendServiceStatus_devicesOnly status).mono fun _ _ change => change.quiet.keys

theorem addServiceToCurrentUsers_sameKeys (id : String) :
    Keeps SameKeys (addServiceToCurrentUsers id) :=
  (Keeps.read _).bind fun _ => (Keeps.read _).bind fun
    | none => Keeps.pure _
    | some _ => Keeps.ite (Keeps.pure _) <| storage_sameKeys fun _ => by
      unfold ServiceProvider.addServiceToUsers
      split <;> rfl

theorem addServiceBody_sameKeys (service : Service) : Keeps SameKeys (addServiceBody service) :=
  Keeps.orReturn
    (Keeps.external.bind fun
      | none => Keeps.pure _
      | some _ => Keeps.external) <|
  (addServiceToCurrentUsers_sameKeys _).orReturn <|
  (Keeps.addServiceToSystemd service).orReturn (startService_sameKeys service)

theorem removeService_storage_noCreate (serviceID id : String) :
    Keeps (NoCreate id) (storage (ServiceProvider.removeService serviceID)) := fun _ v' present =>
  ⟨v', by
    rw [storage, versionOf_removeService] at present
    split at present
    · cases present
    · exact present, Nat.le_refl v'⟩

theorem removeService_noCreate (service : Service) (id : String) :
    Keeps (NoCreate id) (removeService service) :=
  ((stopService_sameKeys service).noCreate id).bind fun retErr =>
    (Keeps.external.keepFirst retErr).bind fun retErr =>
      (((storage_sameKeys fun _ => rfl).noCreate id).keepFirst retErr).bind fun retErr =>
        (removeService_storage_noCreate service.id id).keepFirst retErr

theorem cleanServicesDB_noCreate (id : String) : Keeps (NoCreate id) cleanServicesDB :=
  (Keeps.read _).bind fun _ =>
    (Keeps.forEachService (fun service => removeService_noCreate service id) _).bind fun _ =>
      Keeps.pure _

theorem stopServices_sameKeys : Keeps SameKeys stopServices :=
  stopServices_quiet.mono fun _ _ quiet => quiet.keys

theorem startServices_sameKeys : Keeps SameKeys startServices :=
  (Keeps.read _).bind fun _ => Keeps.forEachService startService_sameKeys _

theorem setUsers_noCreate (users : Option (List String)) (id : String) :
    Keeps (NoCreate id) (Launcher.setUsers users) :=
  (Keeps.read _).bind fun _ => Keeps.ite (Keeps.pure _) <|
    (stopServices_sameKeys.noCreate id).bind fun _ =>
      ((storage_sameKeys fun _ => rfl).noCreate id).bind fun _ =>
        ((deviceCall_sameKeys _).noCreate id).bind fun
          | some _ => Keeps.pure _
          | none => (startServices_sameKeys.noCreate id).bind fun _ =>
            (cleanServicesDB_noCreate id).bind fun _ => Keeps.pure _

theorem uninstallService_sameKeys (id : String) : Keeps SameKeys (uninstallService id) :=
  (Keeps.read _).bind fun
    | .error _ => Keeps.pure _
    | .ok service => (Keeps.read _).bind fun
      | none => Keeps.pure _
      | some _ => ((stopService_sameKeys service).orReturn <|
          (Keeps.read _).orReturn <| Keeps.external.orReturn <|
            storage_sameKeys fun _ => rfl).bind fun _ => Keeps.pure _

theorem doUpdateState_sameKeys (id : String) : Keeps SameKeys (doUpdateState id) :=
  (Keeps.read _).bind fun
    | .error _ => Keeps.pure _
    | .ok service => ((stopService_sameKeys service).orReturn <|
        Keeps.external.orReturn (startService_sameKeys service)).bind fun _ => Keeps.pure _

/-! ### Changes of another service -/

section Other

variable {id : String}

theorem addService_noCreate (service : Service) (other : id ≠ service.id) :
    Keeps (NoCreate id) (addService service) :=
  Keeps.orReturn Keeps.external <|
    Keeps.orReturn (fun _ v' present => ⟨v', by
      rwa [storage, versionOf_addService, if_neg other, Option.or_none] at present,
        Nat.le_refl v'⟩) <|
    ((addServiceBody_sameKeys service).noCreate id).bind fun
      | none => Keeps.pure _
      | some _ => (removeService_noCreate service id).bind fun _ => Keeps.pure _

theorem updateService_storage_noCreate (service : Service) (other : id ≠ service.id) :
    Keeps (NoCreate id) (storage (ServiceProvider.updateService service)) := fun _ v' present =>
  ⟨v', by rwa [storage, versionOf_updateService, if_neg other] at present, Nat.le_refl v'⟩

theorem updateServiceState_sameKeys (serviceID : String) (state : ServiceState)
    (status : ServiceStatus) : Keeps SameKeys (updateServiceState serviceID state status) :=
  (updateServiceState_quiet serviceID state status).mono fun _ _ quiet => quiet.keys

theorem updateServiceBody_noCreate (oldService newService : Service) (other : id ≠ newService.id) :
    Keeps (NoCreate id) (updateServiceBody oldService newService) :=
  Keeps.orReturn ((updateServiceState_sameKeys _ _ _).noCreate id) <|
  Keeps.orReturn ((addServiceToCurrentUsers_sameKeys _).noCreate id) <|
  Keeps.orReturn Keeps.external <|
  Keeps.orReturn ((stopService_sameKeys _).noCreate id) <|
  Keeps.orReturn Keeps.external <|
  Keeps.orReturn (Keeps.addServiceToSystemd _) <|
  Keeps.orReturn ((startService_sameKeys _).noCreate id) <|
  Keeps.orReturn (updateService_storage_noCreate newService other) <|
  ((sendServiceStatus_sameKeys _).noCreate id).bind fun _ => Keeps.pure _

theorem restoreService_noCreate (service : Service) (other : id ≠ service.id) :
    Keeps (NoCreate id) (restoreService service) :=
  (updateService_storage_noCreate service other).bind fun retErr =>
    (Keeps.external.keepFirst retErr).bind fun retErr =>
      ((Keeps.addServiceToSystemd service).keepFirst retErr).bind fun retErr =>
        ((startService_sameKeys service).noCreate id).keepFirst retErr

theorem restoreOrRemove_noCreate (service : Service) (other : id ≠ service.id) :
    Keeps (NoCreate id) (restoreOrRemove service) :=
  (restoreService_noCreate service other).bind fun
    | none => Keeps.pure _
    | some _ => (removeService_noCreate service id).bind fun _ =>
      (sendServiceStatus_sameKeys _).noCreate id

theorem updateService_noCreate (oldService newService : Service) (other : id ≠ oldService.id)
    (other' : id ≠ newService.id) : Keeps (NoCreate id) (updateService oldService newService) :=
  (updateServiceBody_noCreate oldService newService other').bind fun
    | none => Keeps.pure _
    | some _ => ((stopService_sameKeys newService).noCreate id).bind fun _ =>
      Keeps.external.bind fun _ => (restoreOrRemove_noCreate oldService other).bind fun _ =>
        Keeps.pure _

theorem installImage_noCreate (info : ServiceInfoToInstall) (existing : Option Service)
    (other : id ≠ info.id) (named : ∀ service, existing = some service → service.id = info.id) :
    Keeps (NoCreate id) (installImage info existing) := by
  refine Keeps.external.orReturn <| Keeps.external.orReturn <| Keeps.external.orReturn <|
    Keeps.external.orReturn ?_
  cases existing with
  | none => exact addService_noCreate _ other
  | some service =>
    exact updateService_noCreate _ _ (named service rfl ▸ other) other

end Other

/-! ### Restoring, updating and installing one service -/

/-- Every version `id` has is at least `version`; true also when `id` has no record. -/
def VersionAtLeast (id : String) (version : Nat) (l : Launcher) : Prop :=
  ∀ version', versionOf l id = some version' → version ≤ version'

theorem VersionAtLeast.of_noCreate {id : String} {version : Nat} {l l' : Launcher}
    (present : versionOf l id = some version) (change : NoCreate id l l') :
    VersionAtLeast id version l' := fun version' after => by
  obtain ⟨before, same, le⟩ := change version' after
  rw [present, Option.some.injEq] at same
  exact same ▸ le

/-- A call that keeps every record carries the version of `id`. -/
theorem sameKeys_version {α : Type} {m : LauncherM α} (same : Keeps SameKeys m) (id : String)
    (version : Option Nat) :
    Triple (fun l => versionOf l id = version) m fun _ l => versionOf l id = version :=
  Triple.of_keeps same fun _ _ same before => (same.versionOf id).trans before

theorem versionOf_updateService_of_ok {l : Launcher} {service : Service}
    (ok : (ServiceProvider.updateService service l).1 = none) :
    versionOf (ServiceProvider.updateService service l).2 service.id = some service.version := by
  rw [versionOf_updateService, if_pos rfl]
  unfold ServiceProvider.updateService ServiceProvider.setService at ok
  split at ok
  · rename_i present
    obtain ⟨record, member, named⟩ := List.any_eq_true.1 present
    cases first : l.services.find? (·.id = service.id) with
    | none => exact absurd named (List.find?_eq_none.1 first record member)
    | some => simp [versionOf_eq_find, first]
  · cases ok

/-- A `restoreService` that succeeds leaves the record with the restored version. -/
theorem restoreService_version (service : Service) :
    Triple (fun _ => True) (restoreService service)
      fun err l => err = none → versionOf l service.id = some service.version := by
  have step : ∀ {call : LauncherM GoError}, Keeps SameKeys call → ∀ retErr : GoError,
      Triple (fun l => retErr = none → versionOf l service.id = some service.version)
        (keepFirst retErr call)
        fun err l => err = none → versionOf l service.id = some service.version :=
    fun same retErr s before ok => by
      cases retErr with
      | none => exact ((same s).versionOf _).trans (before rfl)
      | some _ => cases ok
  exact (show Triple (fun _ => True) (storage (ServiceProvider.updateService service))
      fun err l => err = none → versionOf l service.id = some service.version from
    fun _ _ ok => versionOf_updateService_of_ok ok).bind fun retErr =>
      (step Keeps.external retErr).bind fun retErr =>
        (step (Keeps.addServiceToSystemd service) retErr).bind fun retErr =>
          step (startService_sameKeys service) retErr

theorem removeService_removes (service : Service) (s : Launcher × List GoError) :
    versionOf (removeService service s).2.1 service.id = none := by
  simp only [removeService, bind_apply, keepFirst, pure_apply, storage]
  rw [versionOf_removeService, if_pos rfl]

/-- The rollback's last step leaves the restored version when `restoreService` succeeds and no
record when it fails, from every state. -/
theorem restoreOrRemove_version (oldService : Service) (s : Launcher × List GoError) :
    versionOf (restoreOrRemove oldService s).2.1 oldService.id =
      if (restoreService oldService s).1 = none then some oldService.version else none := by
  simp only [restoreOrRemove, bind_apply]
  cases restored : (restoreService oldService s).1 with
  | none => exact restoreService_version oldService s trivial restored
  | some _ =>
    simp only [bind_apply, if_neg (Option.some_ne_none _)]
    exact ((sendServiceStatus_sameKeys _ _).versionOf _).trans (removeService_removes _ _)

theorem updateServiceRollback_version (oldService newService : Service)
    (s : Launcher × List GoError) :
    versionOf (updateServiceRollback oldService newService s).2.1 oldService.id =
        some oldService.version ∨
      versionOf (updateServiceRollback oldService newService s).2.1 oldService.id = none := by
  simp only [updateServiceRollback, bind_apply, pure_apply, restoreOrRemove_version]
  split
  · exact .inl rfl
  · exact .inr rfl

/-- The update body ends with the new version when it succeeds and the old one when it fails. -/
theorem updateServiceBody_version (oldService newService : Service)
    (same : newService.id = oldService.id) :
    Triple (fun l => versionOf l oldService.id = some oldService.version)
      (updateServiceBody oldService newService)
      fun err l => versionOf l oldService.id =
        some (if err = none then newService.version else oldService.version) := by
  have keep : ∀ {m : LauncherM GoError}, Keeps SameKeys m → Triple
      (fun l => versionOf l oldService.id = some oldService.version) m
      fun _ l => versionOf l oldService.id = some oldService.version :=
    fun same => sameKeys_version same _ _
  have failed : ∀ (err : String) (l : Launcher),
      versionOf l oldService.id = some oldService.version →
      versionOf l oldService.id =
        some (if some err = none then newService.version else oldService.version) :=
    fun _ _ before => by rw [if_neg nofun]; exact before
  refine (keep (updateServiceState_sameKeys _ _ _)).orReturn ?_ failed
  refine (keep (addServiceToCurrentUsers_sameKeys _)).orReturn ?_ failed
  refine (keep Keeps.external).orReturn ?_ failed
  refine (keep (stopService_sameKeys _)).orReturn ?_ failed
  refine (keep Keeps.external).orReturn ?_ failed
  refine (keep (Keeps.addServiceToSystemd _)).orReturn ?_ failed
  refine (keep (startService_sameKeys _)).orReturn ?_ failed
  refine Triple.orReturn_ok (show Triple (fun l => versionOf l oldService.id = some oldService.version)
      (storage (ServiceProvider.updateService newService))
      fun err l => err = none ∧ versionOf l oldService.id = some newService.version from
    fun _ before => ⟨updateService_ok (same ▸ before), same ▸ versionOf_updateService_of_ok
      (updateService_ok (same ▸ before))⟩) ?_
  exact (sameKeys_version (sendServiceStatus_sameKeys _) _ _).bind fun _ =>
    Triple.pure fun _ after => by rw [if_pos rfl]; exact after

/-- An update to a version at least the old one never lowers the version. -/
theorem updateService_versionAtLeast (oldService newService : Service)
    (same : newService.id = oldService.id) (raise : oldService.version ≤ newService.version) :
    Triple (fun l => versionOf l oldService.id = some oldService.version)
      (updateService oldService newService)
      fun _ => VersionAtLeast oldService.id oldService.version :=
  (updateServiceBody_version oldService newService same).bind fun
    | none => Triple.pure fun _ after version' now => by
      rw [after, if_pos rfl, Option.some.injEq] at now
      exact now ▸ raise
    | some _ => fun s _ version' now => by
      rcases updateServiceRollback_version oldService newService s with restored | removed
      · rw [restored, Option.some.injEq] at now
        exact now ▸ Nat.le_refl _
      · rw [removed] at now
        cases now

theorem getService_of_versionOf {l : Launcher} {id : String} {version : Nat}
    (present : versionOf l id = some version) :
    ∃ service, ServiceProvider.getService id l = .ok service ∧ service.version = version := by
  rw [versionOf_eq_find, Option.map_eq_some'] at present
  obtain ⟨service, found, named⟩ := present
  exact ⟨service, by simp [ServiceProvider.getService, found], named⟩

/-- An install never lowers the version of any ID that has a record. -/
theorem installService_versionAtLeast (info : ServiceInfoToInstall) (id : String) (version : Nat) :
    Triple (fun l => versionOf l id = some version) (installService info)
      fun _ => VersionAtLeast id version := by
  have atLeast : ∀ l, versionOf l id = some version → VersionAtLeast id version l :=
    fun _ present => VersionAtLeast.of_noCreate present (refl_of (NoCreate id) _)
  have other : ∀ {m : LauncherM GoError} {fact : Prop},
      (fact → Keeps (NoCreate id) m) → Triple (fun l => fact ∧ versionOf l id = some version) m
        fun _ => VersionAtLeast id version :=
    fun keeps s ⟨holds, present⟩ => VersionAtLeast.of_noCreate present (keeps holds s)
  refine (Triple.read _).bind fun users => ?_
  cases users with
  | none => exact Triple.pure fun _ pre => atLeast _ pre.2
  | some _ =>
    refine Triple.weaken (P := fun l => versionOf l id = some version) ?_ (fun _ pre => pre.2)
      fun _ _ post => post
    refine Triple.orReturn (sameKeys_version (deviceCall_sameKeys _) _ _) ?_ fun _ => atLeast
    refine (Triple.read _).bind fun found => ?_
    cases found with
    | error err =>
      refine Triple.ite (fun _ => Triple.pure fun _ pre => atLeast _ pre.2) fun _ =>
        (other fun distinct => installImage_noCreate info none distinct nofun).weaken
          (fun _ ⟨missing, present⟩ => ⟨fun same => ?_, present⟩) fun _ _ post => post
      obtain ⟨_, found, _⟩ := getService_of_versionOf present
      rw [← same, found] at missing
      cases missing
    | ok service =>
      refine Triple.ite (fun _ => Triple.pure fun _ pre => atLeast _ pre.2) fun lower =>
        Triple.ite (fun _ => ?_) fun _ => ?_
      · exact (sameKeys_version ((addServiceToCurrentUsers_sameKeys _).orReturn
          (startService_sameKeys _)) _ _).weaken (fun _ pre => pre.2) fun _ => atLeast
      · refine Triple.assume (fun _ pre => (getService_ok pre.1.symm).1) fun named => ?_
        by_cases same : info.id = id
        · subst same
          refine Triple.assume (fun _ pre => Option.some.inj
            ((versionOf_of_getService pre.1.symm).symm.trans pre.2)) fun current => ?_
          have failed : ∀ (err : String) l, versionOf l info.id = some version →
              VersionAtLeast info.id version l := fun _ => atLeast
          refine (Triple.external.orReturn (Triple.external.orReturn (Triple.external.orReturn
            (Triple.external.orReturn ?_ failed) failed) failed) failed).weaken
              (fun _ pre => pre.2) fun _ _ post => post
          rw [← named, ← current]
          exact updateService_versionAtLeast service _ named.symm (Nat.le_of_not_lt lower)
        · exact (other fun _ => installImage_noCreate info (some service) (Ne.symm same)
            fun _ same => Option.some.inj same ▸ named).weaken
              (fun _ pre => ⟨trivial, pre.2⟩) fun _ _ post => post

/-! ### Actions -/

/-- No action lowers the version of an ID that has a record. -/
theorem Action.run_versionAtLeast (action : Action) (id : String) (version : Nat) :
    Triple (fun l => versionOf l id = some version) action.run
      fun _ => VersionAtLeast id version := by
  have keeps : ∀ {α : Type} {m : LauncherM α}, Keeps (NoCreate id) m →
      Triple (fun l => versionOf l id = some version) m fun _ => VersionAtLeast id version :=
    fun keeps s present => VersionAtLeast.of_noCreate present (keeps s)
  have sends : ∀ {α : Type} {m : LauncherM α}, Keeps SameKeys m →
      Triple (VersionAtLeast id version) m fun _ => VersionAtLeast id version :=
    fun same s atLeast version' after => atLeast version' ((same s).versionOf id ▸ after)
  cases action with
  | installService info =>
    exact (installService_versionAtLeast info id version).bind fun
      | some _ => sends (sendServiceStatus_sameKeys _)
      | none => (Triple.read _).bind fun
        | some _ => (sends (sendServiceStatus_sameKeys _)).weaken (fun _ pre => pre.2)
            fun _ _ post => post
        | none => (sends (sendServiceStatus_sameKeys _)).weaken (fun _ pre => pre.2)
            fun _ _ post => post
  | uninstallService serviceID =>
    exact keeps (((uninstallService_sameKeys serviceID).bind fun result =>
      match result with
      | (_, none) => sendServiceStatus_sameKeys _
      | (_, some _) => sendServiceStatus_sameKeys _).noCreate id)
  | updateState serviceID => exact keeps ((doUpdateState_sameKeys serviceID).noCreate id)
  | stateAcceptance _ | finishProcessingLayers => exact keeps (Keeps.pure _)
  | setUsers users => exact keeps ((setUsers_noCreate users id).bind fun _ => Keeps.pure _)

/-- An install of a version below the stored one changes nothing but the status it sends. -/
theorem installService_lower_version (info : ServiceInfoToInstall) (s : Launcher × List GoError)
    {version : Nat} (present : versionOf s.1 info.id = some version) (lower : info.version < version) :
    ∃ err, ((Action.installService info).run s).2.1 =
      { s.1 with sent := ⟨info.id, info.version, "error", "Can't install service: " ++ err⟩ :: s.1.sent } := by
  obtain ⟨service, found, named⟩ := getService_of_versionOf present
  simp only [Action.run, doActionInstall, Launcher.installService, read, bind_apply]
  cases users : s.1.users with
  | none => exact ⟨"users are not set", by simp [sendServiceStatus, storage, users]⟩
  | some _ =>
    simp only [orReturn, bind_apply, areResourcesValid_apply]
    cases (s.2.headD none).or s.1.devicemanager.areResourcesValid with
    | some err => exact ⟨err, by simp [sendServiceStatus, storage, users]⟩
    | none =>
      exact ⟨"version mistmatch", by simp [read, found, named, lower, sendServiceStatus, storage, users]⟩

/-- Version monotonicity. Between two consecutive actions of any run, under any outcomes of the
external calls, the version of an ID that has a record before and after never decreases. An
install of a version below the stored one changes nothing but the error status it sends. An
update whose body fails ends with the old version or with no record, never with another
version, and its last step leaves no record exactly when `restoreService` fails. -/
theorem versions_never_decrease :
    (∀ (actions : List Action) (s : Launcher × List GoError) (id : String) (k version version' : Nat),
      versionOf (runActions (actions.take k) s).2.1 id = some version →
      versionOf (runActions (actions.take (k + 1)) s).2.1 id = some version' →
      version ≤ version') ∧
    (∀ (info : ServiceInfoToInstall) (s : Launcher × List GoError) (version : Nat),
      versionOf s.1 info.id = some version → info.version < version →
      ∃ err, ((Action.installService info).run s).2.1 =
        { s.1 with
          sent := ⟨info.id, info.version, "error", "Can't install service: " ++ err⟩ :: s.1.sent }) ∧
    (∀ (oldService newService : Service) (s : Launcher × List GoError),
      (updateServiceBody oldService newService s).1 ≠ none →
      versionOf (updateService oldService newService s).2.1 oldService.id =
          some oldService.version ∨
        versionOf (updateService oldService newService s).2.1 oldService.id = none) ∧
    (∀ (oldService : Service) (s : Launcher × List GoError),
      versionOf (restoreOrRemove oldService s).2.1 oldService.id =
        if (restoreService oldService s).1 = none then some oldService.version else none) := by
  refine ⟨fun actions s id k version version' before after => ?_,
    fun info s _ present lower => installService_lower_version info s present lower,
    fun oldService newService s failed => ?_, restoreOrRemove_version⟩
  · rw [List.take_succ, runActions_append] at after
    cases next : actions[k]? with
    | none =>
      simp only [next, Option.toList_none, runActions, bind_apply, pure_apply] at after
      rw [before, Option.some.injEq] at after
      exact after ▸ Nat.le_refl version
    | some action =>
      simp only [next, Option.toList_some, runActions, bind_apply, pure_apply] at after
      exact Action.run_versionAtLeast action id version _ before version' after
  · simp only [updateService, bind_apply]
    cases body : (updateServiceBody oldService newService s).1 with
    | none => exact absurd body failed
    | some _ => exact updateServiceRollback_version oldService newService _

theorem versions_never_decrease_at_lower_install :
    versionOf (⟨some ["user0"], [⟨"service0", 2, .stateRunning, .statusOk, 0, 30, []⟩], [],
      ResourceManager.new [] [] [], [], [], 0⟩ : Launcher) "service0" = some 2 ∧ 1 < 2 ∧
    ∃ err, ((Action.installService ⟨"service0", 1, [], 30⟩).run
      (⟨some ["user0"], [⟨"service0", 2, .stateRunning, .statusOk, 0, 30, []⟩], [],
        ResourceManager.new [] [] [], [], [], 0⟩, [])).2.1 =
      { (⟨some ["user0"], [⟨"service0", 2, .stateRunning, .statusOk, 0, 30, []⟩], [],
          ResourceManager.new [] [] [], [], [], 0⟩ : Launcher) with
        sent := ⟨"service0", 1, "error", "Can't install service: " ++ err⟩ :: [] } :=
  have present : versionOf (⟨some ["user0"], [⟨"service0", 2, .stateRunning, .statusOk, 0, 30, []⟩],
      [], ResourceManager.new [] [] [], [], [], 0⟩ : Launcher) "service0" = some 2 := by
    simp [versionOf, keys]
  ⟨present, by decide, versions_never_decrease.2.1 ⟨"service0", 1, [], 30⟩
    (⟨some ["user0"], [⟨"service0", 2, .stateRunning, .statusOk, 0, 30, []⟩], [],
      ResourceManager.new [] [] [], [], [], 0⟩, []) 2 present (by decide)⟩

end AosServiceManager.Launcher
