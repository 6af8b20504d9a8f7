/-
Module: AosServiceManager.Launcher.Frame
Layer: Proofs
Purpose: How much of the launcher's state each helper of launcher.go can change, whatever its
  external calls return. `Keeps R m` says that `m` relates the state before and after it by `R`;
  for a preorder `R` it is proved once per combinator of the model (`bind`, `orReturn`,
  `keepFirst`, the loops), so each function's fact follows from its callees'. The relations are
  `DevicesOnly` (only the device manager and the sent statuses change), `Calm` (the users, the
  (ID, version) pairs and the users rows are kept, and rows are added only for the current
  users), `Quiet` (calm, and no service started) and `Starts id` (calm, and no service but `id`
  started). `Triple P m Q` carries a pre- and a postcondition through the same combinators.
Imports: AosServiceManager.Launcher.Service
Trusted boundary: none
Main exports: Keeps, Triple, DevicesOnly, Calm, Quiet, Starts, Associated, keys, versionOf,
  stopService_quiet, stopService_stops, startService_starts, updateServiceState_ok,
  addServiceToCurrentUsers_spec
-/
import AosServiceManager.Launcher.Service

namespace AosServiceManager.Launcher

/-! ### Units, records and rows -/

theorem unitName_injective {a b : String} (same : unitName a = unitName b) : a = b := by
  have chars := congrArg String.data same
  simp only [unitName, String.data_append] at chars
  exact String.ext (List.append_cancel_left (List.append_cancel_right chars))

/-- After a call on unit `name`, the service `id` runs as the call says if `name` is its unit,
and as before otherwise. -/
theorem running_unitCall (l : Launcher) (call : UnitCall) (id : String) :
    ({ l with units := call :: l.units } : Launcher).Running id ↔
      if call.name = unitName id then call.isStart = true else l.Running id := by
  simp only [Launcher.Running, unitActive]
  split <;> rfl

theorem runActions_append (actions actions' : List Action) :
    runActions (actions ++ actions') = runActions actions >>= fun _ => runActions actions' := by
  induction actions with
  | nil => simp [runActions]
  | cons action actions ih => simp [runActions, ih]

/-- The (ID, version) pairs of the services table, in table order. -/
def keys (l : Launcher) : List (String × Nat) :=
  l.services.map fun service => (service.id, service.version)

/-- The version `GetService` reports for `id`, if any. -/
def versionOf (l : Launcher) (id : String) : Option Nat :=
  ((keys l).find? (·.1 = id)).map Prod.snd

theorem versionOf_of_getService {l : Launcher} {id : String} {service : Service}
    (found : ServiceProvider.getService id l = .ok service) :
    versionOf l id = some service.version := by
  unfold ServiceProvider.getService at found
  split at found <;> simp_all [versionOf, keys, List.find?_map, Function.comp_def]

theorem getService_ok {l : Launcher} {id : String} {service : Service}
    (found : ServiceProvider.getService id l = .ok service) :
    service.id = id ∧ id ∈ (keys l).map Prod.fst := by
  unfold ServiceProvider.getService at found
  split at found
  · cases found
    rename_i first
    have named := List.find?_some first
    exact ⟨by simpa using named, by
      simpa [keys] using ⟨service, List.mem_of_find?_eq_some first, by simpa using named⟩⟩
  · cases found

theorem mem_ids_iff {l : Launcher} {id : String} :
    id ∈ (keys l).map Prod.fst ↔ l.services.any (·.id = id) := by
  simp [keys]

/-- The service has a record and a row of the users table for the current, set users. -/
def Associated (l : Launcher) (id : String) : Prop :=
  l.users ≠ none ∧ ⟨l.users, id⟩ ∈ l.usersServices ∧ id ∈ (keys l).map Prod.fst

/-! ### Relations kept by a computation -/

/-- `m` relates the state before it and the state after it by `R`, whatever its external calls
return. -/
def Keeps (R : Launcher → Launcher → Prop) {α : Type} (m : LauncherM α) : Prop :=
  ∀ s, R s.1 (m s).2.1

namespace Keeps

variable {R R' : Launcher → Launcher → Prop} {α β : Type}

theorem mono {m : LauncherM α} (keeps : Keeps R m) (weaker : ∀ l l', R l l' → R' l l') :
    Keeps R' m :=
  fun s => weaker _ _ (keeps s)

theorem ite {p : Prop} {decision : Decidable p} {m m' : LauncherM α} (yes : Keeps R m)
    (no : Keeps R m') : Keeps R (@ite _ p decision m m') := by
  split
  exacts [yes, no]

theorem pure [IsRefl Launcher R] (a : α) : Keeps R (Pure.pure a : LauncherM α) :=
  fun s => refl_of R s.1

theorem external [IsRefl Launcher R] : Keeps R Launcher.external :=
  fun s => refl_of R s.1

theorem read [IsRefl Launcher R] (f : Launcher → α) : Keeps R (Launcher.read f) :=
  fun s => refl_of R s.1

theorem bind [IsTrans Launcher R] {m : LauncherM α} {f : α → LauncherM β} (first : Keeps R m)
    (rest : ∀ a, Keeps R (f a)) : Keeps R (m >>= f) :=
  fun s => trans_of R (first s) (rest _ _)

section Preorder

variable [IsRefl Launcher R] [IsTrans Launcher R]

theorem orReturn {call rest : LauncherM GoError} (first : Keeps R call) (second : Keeps R rest) :
    Keeps R (Launcher.orReturn call rest) :=
  first.bind fun
    | some _ => pure _
    | none => second

theorem keepFirst {call : LauncherM GoError} (keeps : Keeps R call) (retErr : GoError) :
    Keeps R (Launcher.keepFirst retErr call) :=
  keeps.bind fun _ => pure _

theorem forEachDevice {call : String → LauncherM GoError} (keeps : ∀ device, Keeps R (call device)) :
    ∀ devices, Keeps R (Launcher.forEachDevice call devices)
  | [] => pure _
  | device :: devices => (keeps device).orReturn (forEachDevice keeps devices)

theorem forEachService {call : Service → LauncherM GoError}
    (keeps : ∀ service, Keeps R (call service)) :
    ∀ services, Keeps R (Launcher.forEachService call services)
  | [] => pure _
  | service :: services => (keeps service).bind fun _ => forEachService keeps services

/-- `LinkUnitFiles` and `Reload` change nothing the model records. -/
theorem addServiceToSystemd (service : Service) : Keeps R (Launcher.addServiceToSystemd service) :=
  external.orReturn external

end Preorder

end Keeps

/-! ### Changes of the device manager only -/

/-- Only the device manager and the statuses sent change. -/
structure DevicesOnly (l l' : Launcher) : Prop where
  users : l'.users = l.users
  services : l'.services = l.services
  usersServices : l'.usersServices = l.usersServices
  units : l'.units = l.units

instance : IsRefl Launcher DevicesOnly := ⟨fun _ => ⟨rfl, rfl, rfl, rfl⟩⟩

instance : IsTrans Launcher DevicesOnly :=
  ⟨fun _ _ _ first second => ⟨second.users.trans first.users, second.services.trans first.services,
    second.usersServices.trans first.usersServices, second.units.trans first.units⟩⟩

theorem deviceCall_devicesOnly (f : ResourceManager → GoError × ResourceManager) :
    Keeps DevicesOnly (deviceCall f) :=
  Keeps.external.orReturn fun _ => ⟨rfl, rfl, rfl, rfl⟩

theorem sendServiceStatus_devicesOnly (status : ServiceInfo) :
    Keeps DevicesOnly (sendServiceStatus status) :=
  fun _ => ⟨rfl, rfl, rfl, rfl⟩

/-- `prestartService` touches the device manager and nothing else the model records. -/
theorem prestartService_devicesOnly (service : Service) :
    Keeps DevicesOnly (prestartService service) :=
  Keeps.external.orReturn <|
    ((Keeps.forEachDevice (fun _ => deviceCall_devicesOnly _) _).orReturn <|
      Keeps.external.orReturn <| Keeps.external.orReturn <| Keeps.external.orReturn <|
        Keeps.forEachDevice (fun _ => deviceCall_devicesOnly _) _).bind fun _ =>
    Keeps.external.bind fun _ => Keeps.pure _

theorem poststopService_devicesOnly (service : Service) :
    Keeps DevicesOnly (poststopService service) :=
  Keeps.external.bind fun _ => Keeps.external.bind fun _ =>
    (Keeps.forEachDevice (fun _ => deviceCall_devicesOnly _) _).bind fun _ =>
      Keeps.external.bind fun _ => Keeps.pure _

/-! ### Calm and quiet changes -/

/-- A change that keeps the users, the (ID, version) pairs of the services table and every users
row, and adds rows only for the current users when they are set. -/
structure Calm (l l' : Launcher) : Prop where
  users : l'.users = l.users
  keys : keys l' = keys l
  rows : ∀ row ∈ l.usersServices, row ∈ l'.usersServices
  newRows : ∀ row ∈ l'.usersServices, row ∈ l.usersServices ∨ row.users = l.users ∧ l.users ≠ none

/-- A calm change that starts no service. -/
structure Quiet (l l' : Launcher) extends Calm l l' : Prop where
  running : ∀ id, l'.Running id → l.Running id

/-- A calm change that starts no service but `id`. -/
structure Starts (id : String) (l l' : Launcher) extends Calm l l' : Prop where
  running : ∀ other, l'.Running other → l.Running other ∨ other = id

theorem Calm.refl (l : Launcher) : Calm l l :=
  ⟨rfl, rfl, fun _ h => h, fun _ h => .inl h⟩

theorem Calm.trans {l l' l'' : Launcher} (first : Calm l l') (second : Calm l' l'') :
    Calm l l'' where
  users := second.users.trans first.users
  keys := second.keys.trans first.keys
  rows row member := second.rows row (first.rows row member)
  newRows row member := by
    rcases second.newRows row member with old | ⟨same, set⟩
    · exact first.newRows row old
    · rw [first.users] at same set
      exact .inr ⟨same, set⟩

instance : IsRefl Launcher Quiet := ⟨fun l => ⟨Calm.refl l, fun _ h => h⟩⟩

instance : IsTrans Launcher Quiet :=
  ⟨fun _ _ _ first second =>
    ⟨first.toCalm.trans second.toCalm, fun id h => first.running id (second.running id h)⟩⟩

instance (id : String) : IsRefl Launcher (Starts id) := ⟨fun l => ⟨Calm.refl l, fun _ h => .inl h⟩⟩

instance (id : String) : IsTrans Launcher (Starts id) :=
  ⟨fun _ _ _ first second => ⟨first.toCalm.trans second.toCalm, fun other running =>
    (second.running other running).elim (first.running other) .inr⟩⟩

theorem Quiet.starts {l l' : Launcher} (quiet : Quiet l l') (id : String) : Starts id l l' :=
  ⟨quiet.toCalm, fun other running => .inl (quiet.running other running)⟩

theorem DevicesOnly.quiet {l l' : Launcher} (change : DevicesOnly l l') : Quiet l l' :=
  ⟨⟨change.users, by rw [keys, keys, change.services], fun _ h => change.usersServices ▸ h,
    fun _ h => .inl (change.usersServices ▸ h)⟩,
    fun _ h => by rwa [Launcher.Running, change.units] at h⟩

theorem Calm.versionOf {l l' : Launcher} (calm : Calm l l') (id : String) :
    versionOf l' id = versionOf l id := by
  simp only [Launcher.versionOf, calm.keys]

theorem Calm.associated {l l' : Launcher} (calm : Calm l l') {id : String}
    (associated : l.Associated id) : l'.Associated id := by
  obtain ⟨set, row, record⟩ := associated
  refine ⟨calm.users ▸ set, ?_, calm.keys ▸ record⟩
  rw [calm.users]
  exact calm.rows _ row

/-! ### Stopping a service -/

theorem stopUnit_quiet (name : String) : Keeps Quiet (stopUnit name) := fun _ =>
  ⟨⟨rfl, rfl, fun _ h => h, fun _ h => .inl h⟩, fun id running => by
    rw [stopUnit, unitCall, running_unitCall] at running
    split at running
    · cases running
    · exact running⟩

/-- A storage update that keeps every ID and version. -/
theorem setService_quiet (id : String) (f : Service → Service)
    (keeps : ∀ service, (f service).id = service.id ∧ (f service).version = service.version) :
    Keeps Quiet (storage (ServiceProvider.setService id f)) := fun s => by
  unfold storage ServiceProvider.setService
  split
  · refine ⟨⟨rfl, ?_, fun _ h => h, fun _ h => .inl h⟩, fun _ h => h⟩
    simp only [keys, List.map_map]
    refine List.map_congr_left fun service _ => ?_
    simp only [Function.comp_apply]
    split <;> simp [keeps]
  · exact refl_of Quiet s.1

/-- Only record fields other than the ID change. -/
structure Rewrites (l l' : Launcher) : Prop where
  users : l'.users = l.users
  usersServices : l'.usersServices = l.usersServices
  units : l'.units = l.units
  ids : (keys l').map Prod.fst = (keys l).map Prod.fst

/-- An update by ID whose new records keep the ID. -/
theorem setService_rewrites (id : String) (f : Service → Service)
    (keeps : ∀ service, service.id = id → (f service).id = service.id) :
    Keeps Rewrites (storage (ServiceProvider.setService id f)) := fun s => by
  unfold storage ServiceProvider.setService
  split
  · refine ⟨rfl, rfl, rfl, ?_⟩
    simp only [keys, List.map_map]
    refine List.map_congr_left fun service _ => ?_
    simp only [Function.comp_apply]
    split <;> simp_all
  · exact ⟨rfl, rfl, rfl, rfl⟩

theorem Associated.of_rewrites {l l' : Launcher} {id : String} (associated : l.Associated id)
    (change : Rewrites l l') : l'.Associated id := by
  obtain ⟨set, row, record⟩ := associated
  exact ⟨change.users ▸ set, change.users ▸ change.usersServices ▸ row, change.ids ▸ record⟩

theorem setServiceStartTime_quiet (id : String) :
    Keeps Quiet (storage (ServiceProvider.setServiceStartTime id)) := fun s =>
  setService_quiet id (fun service => { service with startAt := s.1.now }) (fun _ => ⟨rfl, rfl⟩) s

theorem updateServiceState_quiet (id : String) (state : ServiceState) (status : ServiceStatus) :
    Keeps Quiet (updateServiceState id state status) :=
  (Keeps.read _).bind fun result => by
    cases result with
    | error => exact Keeps.pure _
    | ok _ =>
      refine (Keeps.ite ?_ (Keeps.pure _)).orReturn (Keeps.ite ?_ (Keeps.pure _))
      all_goals exact setService_quiet _ _ fun _ => ⟨rfl, rfl⟩

theorem stopService_quiet (service : Service) : Keeps Quiet (stopService service) :=
  (stopUnit_quiet _).bind fun retErr =>
    (((poststopService_devicesOnly _).mono fun _ _ => DevicesOnly.quiet).keepFirst retErr).bind
      fun retErr => (updateServiceState_quiet _ _ _).keepFirst retErr

/-- A stopped service is not running, whatever `StopUnit` and the post-stop calls return. -/
theorem stopService_stops (service : Service) (s : Launcher × List GoError) :
    ¬(stopService service s).2.1.Running service.id := fun running => by
  have rest := ((((poststopService_devicesOnly service).mono fun _ _ => DevicesOnly.quiet).keepFirst
    (stopUnit service.unitName s).1).bind
    fun retErr => (updateServiceState_quiet service.id .stateStopped .statusOk).keepFirst retErr)
    (stopUnit service.unitName s).2
  have stopped := rest.running _ running
  simp [stopUnit, unitCall, running_unitCall, Service.unitName, UnitCall.name,
    UnitCall.isStart] at stopped

theorem stopServices_quiet : Keeps Quiet stopServices :=
  (Keeps.read _).bind fun l => by
    cases l.users
    exacts [Keeps.forEachService stopService_quiet _, Keeps.forEachService stopService_quiet _]

/-! ### Starting a service -/

theorem startUnit_starts (id : String) : Keeps (Starts id) (startUnit (unitName id)) := fun _ =>
  ⟨⟨rfl, rfl, fun _ h => h, fun _ h => .inl h⟩, fun other running => by
    rw [startUnit, unitCall, running_unitCall] at running
    split at running
    · exact .inr (unitName_injective (by assumption)).symm
    · exact .inl running⟩

/-- Starting a service changes no ID, version or users row, and starts no other service. -/
theorem startService_starts (service : Service) : Keeps (Starts service.id) (startService service) :=
  ((prestartService_devicesOnly service).mono fun _ _ change => change.quiet.starts _).orReturn <|
    (startUnit_starts service.id).orReturn <|
      ((updateServiceState_quiet _ _ _).bind fun _ =>
        (setServiceStartTime_quiet _).bind fun _ => Keeps.pure _).mono fun _ _ quiet =>
          quiet.starts _

/-! ### Calls whose result is known -/

/-- `AreResourcesValid` answers with the next outcome if it is a failure, and with the broker's
verdict otherwise; it changes nothing but the outcomes left. -/
theorem areResourcesValid_apply (s : Launcher × List GoError) :
    areResourcesValid s = ((s.2.headD none).or s.1.devicemanager.areResourcesValid, (s.1, s.2.tail)) := by
  unfold areResourcesValid deviceCall orReturn external storage
  simp only [bind_apply]
  cases s.2.headD none <;> rfl

/-- An update by ID of a present record succeeds and keeps it present. -/
theorem setService_present {l : Launcher} {id : String} (f : Service → Service)
    (present : l.services.any (·.id = id) = true) (keeps : ∀ service, (f service).id = service.id) :
    (ServiceProvider.setService id f l).1 = none ∧
      (ServiceProvider.setService id f l).2.services.any (·.id = id) = true := by
  simp only [ServiceProvider.setService, present, if_true, List.any_map, true_and]
  obtain ⟨service, member, same⟩ := List.any_eq_true.1 present
  refine List.any_eq_true.2 ⟨service, member, ?_⟩
  simp only [Function.comp_apply]
  split <;> simpa [keeps] using same

/-- `updateServiceState` succeeds on a service that has a record. -/
theorem updateServiceState_ok {id : String} (state : ServiceState) (status : ServiceStatus)
    (s : Launcher × List GoError) (present : id ∈ (keys s.1).map Prod.fst) :
    (updateServiceState id state status s).1 = none := by
  rw [mem_ids_iff] at present
  obtain ⟨service, found⟩ : ∃ service, s.1.services.find? (·.id = id) = some service := by
    simpa [Option.isSome_iff_exists] using List.find?_isSome.2 (by simpa using present)
  have first := setService_present (fun s => { s with state := state }) present fun _ => rfl
  simp only [updateServiceState, read, ServiceProvider.getService, found, bind_apply, orReturn]
  have second := fun l => @setService_present l id fun s => { s with status := status }
  by_cases sameState : service.state = state
  · simp only [sameState, ne_eq, not_true_eq_false, if_false, pure_apply]
    split_ifs
    exacts [rfl, (second _ present fun _ => rfl).1]
  · simp only [ne_eq, sameState, not_false_eq_true, if_true, storage, ServiceProvider.setServiceState,
      first.1]
    split_ifs
    exacts [rfl, (second _ first.2 fun _ => rfl).1]

/-- Under set users, `addServiceToCurrentUsers` succeeds quietly and leaves the service's row. -/
theorem addServiceToCurrentUsers_spec (id : String) (s : Launcher × List GoError)
    (set : s.1.users ≠ none) :
    Quiet s.1 (addServiceToCurrentUsers id s).2.1 ∧ (addServiceToCurrentUsers id s).1 = none ∧
      ⟨s.1.users, id⟩ ∈ (addServiceToCurrentUsers id s).2.1.usersServices := by
  have missing : Go.stringsContains ServiceProvider.errNotExist "not exist" = true := by decide
  by_cases row : (⟨s.1.users, id⟩ : UsersService) ∈ s.1.usersServices
  · simp [addServiceToCurrentUsers, read, ServiceProvider.getUsersService, row, refl_of]
  · simp only [addServiceToCurrentUsers, read, ServiceProvider.getUsersService, row, bind_apply,
      if_false, missing, Bool.not_true, Bool.false_eq_true, storage,
      ServiceProvider.addServiceToUsers]
    refine ⟨⟨⟨rfl, rfl, fun _ h => List.mem_append_left _ h, fun r member => ?_⟩, fun _ h => h⟩,
      trivial, List.mem_append_right _ (List.mem_singleton_self _)⟩
    rcases List.mem_append.1 member with old | added
    · exact .inl old
    · exact .inr ⟨(List.mem_singleton.1 added) ▸ rfl, set⟩

/-! ### Triples -/

/-- `⦃P⦄ m ⦃Q⦄`: from a state that satisfies `P`, `m` ends in a state that satisfies `Q` of its
result, whatever its external calls return. -/
def Triple {α : Type} (P : Launcher → Prop) (m : LauncherM α) (Q : α → Launcher → Prop) : Prop :=
  ∀ s, P s.1 → Q (m s).1 (m s).2.1

namespace Triple

variable {α β : Type} {P P' : Launcher → Prop} {Q Q' : α → Launcher → Prop}
  {R : β → Launcher → Prop}

theorem bind {m : LauncherM α} {f : α → LauncherM β} (first : Triple P m Q)
    (rest : ∀ a, Triple (Q a) (f a) R) : Triple P (m >>= f) R :=
  fun s pre => rest _ _ (first s pre)

theorem pure {a : α} (post : ∀ l, P l → Q a l) : Triple P (Pure.pure a : LauncherM α) Q :=
  fun s pre => post s.1 pre

theorem weaken {m : LauncherM α} (triple : Triple P m Q) (stronger : ∀ l, P' l → P l)
    (weaker : ∀ a l, Q a l → Q' a l) : Triple P' m Q' :=
  fun s pre => weaker _ _ (triple s (stronger _ pre))

/-- A call whose change keeps `R` carries every precondition that `R` carries. -/
theorem of_keeps {R : Launcher → Launcher → Prop} {m : LauncherM α} (keeps : Keeps R m)
    (stable : ∀ l l', R l l' → P l → P' l') : Triple P m fun _ => P' :=
  fun s pre => stable _ _ (keeps s) pre

theorem orReturn {Q : GoError → Launcher → Prop} {R : GoError → Launcher → Prop}
    {call rest : LauncherM GoError} (first : Triple P call Q) (second : Triple (Q none) rest R)
    (failed : ∀ err l, Q (some err) l → R (some err) l) :
    Triple P (Launcher.orReturn call rest) R :=
  first.bind fun
    | some err => pure (failed err)
    | none => second

theorem keepFirst {call : LauncherM GoError} (triple : Triple P call fun _ => P')
    (retErr : GoError) : Triple P (Launcher.keepFirst retErr call) fun _ => P' :=
  triple.bind fun _ => pure fun _ post => post

/-- A call known to succeed, followed by the rest of the function. -/
theorem orReturn_ok {R : GoError → Launcher → Prop} {call rest : LauncherM GoError}
    (first : Triple P call fun err l => err = none ∧ P' l) (second : Triple P' rest R) :
    Triple P (Launcher.orReturn call rest) R :=
  first.orReturn (second.weaken (fun _ pre => pre.2) fun _ _ post => post) fun _ _ ⟨failed, _⟩ =>
    nomatch failed

theorem ite {p : Prop} {decision : Decidable p} {m m' : LauncherM α} (yes : p → Triple P m Q)
    (no : ¬p → Triple P m' Q) : Triple P (@ite _ p decision m m') Q := by
  split
  exacts [yes ‹_›, no ‹_›]

theorem external : Triple P Launcher.external fun _ => P :=
  fun _ pre => pre

theorem read (f : Launcher → α) : Triple P (Launcher.read f) fun a l => a = f l ∧ P l :=
  fun _ pre => ⟨rfl, pre⟩

/-- A state-independent fact that the precondition implies may be assumed. -/
theorem assume {m : LauncherM α} {fact : Prop} (implied : ∀ l, P l → fact)
    (triple : fact → Triple P m Q) : Triple P m Q :=
  fun s pre => triple (implied _ pre) s pre

/-- A call that changes nothing the model records. -/
theorem of_eq {m : LauncherM α} (keeps : Keeps Eq m) : Triple P m fun _ => P :=
  fun s pre => keeps s ▸ pre

/-- Two triples of one computation hold together. -/
theorem conj {m : LauncherM α} (first : Triple P m Q) (second : Triple P' m Q') :
    Triple (fun l => P l ∧ P' l) m fun a l => Q a l ∧ Q' a l :=
  fun s pre => ⟨first s pre.1, second s pre.2⟩

/-- A loop over services whose every call keeps `P`. -/
theorem forEachService {call : Service → LauncherM GoError}
    (each : ∀ service, Triple P (call service) fun _ => P) :
    ∀ services, Triple P (Launcher.forEachService call services) fun _ => P
  | [] => pure fun _ pre => pre
  | service :: services => (each service).bind fun _ => forEachService each services

/-- A run of actions each of which keeps `P`. -/
theorem runActions :
    ∀ actions : List Action, (∀ action ∈ actions, Triple P action.run fun _ => P) →
      Triple P (Launcher.runActions actions) fun _ => P
  | [], _ => pure fun _ pre => pre
  | action :: actions, each => (each action (List.mem_cons_self _ _)).bind fun _ =>
    runActions actions fun other member => each other (List.mem_cons_of_mem _ member)

end Triple

end AosServiceManager.Launcher
