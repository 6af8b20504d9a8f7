/-
Module: AosServiceManager.Alerts.Journal
Layer: Core and Proofs
Purpose: What feeds the batch of Alerts.Batch in package `alerts` (part_004:655-902): the
  journal reader `processJournal`, which the ticker runs before each `sendAlerts`,
  `SendResourceAlert`, and the log hook `Fire`. `processJournal` reads entries until the journal
  has no more or a read fails, keeps the cursor of the last entry read, and turns an entry into a
  system alert unless `_SYSTEMD_UNIT` is `init.scope` and its priority does not parse as at most 4
  or its `aos` unit has no service, or a filter of the config matches its message. When the
  journal has no more entries it stores the cursor, if it differs from `instance.cursor`, which
  only `setupJournal` sets. A tick is the `addAlert` of the alerts of the entries read before the
  first failed read, then the end of the journal, then, when `processJournal` fails, the
  `aosCore` alert that the hook `Fire` adds for `log.Errorf`, then `sendAlerts`; so every run of
  the producers is a run of the calls of Alerts.Batch, and its invariant holds over it.
Imports: AosServiceManager.Alerts.Batch
Trusted boundary: sdjournal, given by the entries `Next` and `GetEntry` return and their errors,
  the journal matches of `setupJournal` included; the service provider's lookups; `regexp`,
  given by the predicate a compiled filter tests on a message; the `amqp` alert tags, defined
  outside this repository; the order in which `range` visits `entry.Data`, and `%v` of its
  values.
Main exports: JournalEntry, JournalRead, atoi, journalTime, newFilterRegexp, entryAlert,
  processJournalLoop, processJournal, processJournal_eq, tickError, processJournal_error,
  fireAlert, Event, runEvents, alerts_events_run_batch_calls
-/
import AosServiceManager.Alerts.Batch

namespace AosServiceManager.Alerts

/-! ### Journal entries -/

/-- `sdjournal.JournalEntry`: its cursor, `RealtimeTimestamp` in microseconds, and its fields. -/
structure JournalEntry where
  cursor : String
  realtimeTimestamp : UInt64
  fields : List (String × String)
deriving Repr, DecidableEq

/-- `entry.Fields[name]`: a field the entry lacks reads as "". -/
def JournalEntry.field (entry : JournalEntry) (name : String) : String :=
  (entry.fields.lookup name).getD ""

/-- One read of the loop of `processJournal`: `journal.Next` fails, or it moves to an entry that
`journal.GetEntry` returns or fails to return. The journal has no more entries where the reads
end. -/
inductive JournalRead where
  | nextFailed (err : String)
  | entry (got : Except String JournalEntry)

/-- The value of a run of ASCII digits; none when it is empty or holds another character. -/
def decimalValue (digits : List Char) : Option Nat :=
  if digits ≠ [] ∧ digits.all Char.isDigit then
    some (digits.foldl (fun n c => 10 * n + (c.toNat - '0'.toNat)) 0)
  else none

/-- `strconv.Atoi`: an optional sign, then decimal digits whose value fits in `int`. Its error is
only tested against `nil`. -/
def atoi (s : String) : Option Int :=
  let (negative, digits) : Bool × List Char :=
    match s.data with
    | '-' :: rest => (true, rest)
    | '+' :: rest => (false, rest)
    | chars => (false, chars)
  (decimalValue digits).bind fun n =>
    let value : Int := if negative then -n else n
    if -9223372036854775808 ≤ value ∧ value ≤ 9223372036854775807 then some value else none

example : atoi "3" = some 3 ∧ atoi "+4" = some 4 ∧ atoi "-1" = some (-1) ∧ atoi "05" = some 5 ∧
    atoi "" = none ∧ atoi " 3" = none ∧ atoi "-" = none := by
  decide

/-- `time.Unix(int64(RealtimeTimestamp/1000000), int64((RealtimeTimestamp%1000000)*1000))`, in
Unix nanoseconds. -/
def journalTime (realtimeTimestamp : UInt64) : Int :=
  Go.int64 (realtimeTimestamp / 1000000).toNat * 1000000000 +
    Go.int64 ((realtimeTimestamp % 1000000) * 1000).toNat

/-! ### The producers -/

/-- A service as the `ServiceProvider` returns it: its ID and version. -/
structure ServiceEntry where
  id : String
  version : Nat
deriving Repr, DecidableEq

/-- The `ServiceProvider` of package `alerts` (part_004:609-612). -/
structure ServiceProvider where
  getService : String → Except String ServiceEntry
  getServiceByUnitName : String → Except String ServiceEntry

/-- The tags `amqp.AlertTagResource`, `amqp.AlertTagAosCore` and `amqp.AlertTagSystemError`. -/
structure AlertTags where
  resource : String
  aosCore : String
  systemError : String

/-- `New` (part_004:673-686): the filters of the config that are not empty and compile, in
order; `compile` is `regexp.Compile`, a compiled filter given by its `MatchString`. -/
def newFilterRegexp (compile : String → Except String (String → Bool)) (filter : List String) :
    List (String → Bool) :=
  filter.foldl (fun filterRegexp substr =>
    if substr.length = 0 then filterRegexp
    else match compile substr with
      | .ok regexp => filterRegexp ++ [regexp]
      | .error _ => filterRegexp) []

section Producers

variable (marshal : JsonMarshal) (maxMessageSize : Int) (tags : AlertTags)
  (provider : ServiceProvider) (filterRegexp : List (String → Bool))

/-- The source and version of an entry's alert (part_004:857-876); none where the loop goes on
to the next entry. -/
def entryOrigin (entry : JournalEntry) : Option (String × Option Nat) :=
  if entry.field "_SYSTEMD_UNIT" = "init.scope" then
    match atoi (entry.field "PRIORITY") with
    | none => none
    | some priority =>
      if priority > 4 then none
      else
        let unit := entry.field "UNIT"
        if "aos".data.isPrefixOf unit.data then
          match provider.getServiceByUnitName unit with
          | .ok service => some (service.id, some service.version)
          | .error _ => none
        else some ("system", none)
  else some ("system", none)

/-- The loop over `filterRegexp` (part_004:883-891): whether a filter matches the message. -/
def skipSend (message : String) : Bool :=
  filterRegexp.any fun matchString => matchString message

/-- The alert `processJournal` adds for an entry (part_004:878-900), none when it skips it. -/
def entryAlert (entry : JournalEntry) : Option AlertItem :=
  (entryOrigin provider entry).bind fun (source, version) =>
    if skipSend filterRegexp (entry.field "MESSAGE") then none
    else some ⟨journalTime entry.realtimeTimestamp, tags.systemError, source, version,
      .systemAlert (entry.field "MESSAGE")⟩

/-- The alert of `SendResourceAlert` (part_004:709-730): the version when `GetService` finds the
source. -/
def resourceAlertItem (source resource : String) (time : Int) (value : Nat) : AlertItem :=
  let version := match provider.getService source with
    | .ok service => some service.version
    | .error _ => none
  ⟨time, tags.resource, source, version, .resourceAlert resource value⟩

/-- The message of `Fire` (part_004:738-752): the entry's message, then ` field=value` for each
field of `entry.Data` in the order `range` visits them. -/
def fireMessage (message : String) (data : List (String × String)) : String :=
  data.foldl (fun message (field, value) => message ++ " " ++ field ++ "=" ++ value) message

/-- The alert of `Fire`. -/
def fireItem (time : Int) (message : String) (data : List (String × String)) : AlertItem :=
  ⟨time, tags.aosCore, "servicemanager", none, .systemAlert (fireMessage message data)⟩

/-- What the producers change: the batch, `instance.cursor`, and the cursor that
`SetJournalCursor` stored. -/
structure State where
  batch : Alerts
  cursor : String
  stored : String
deriving Repr, DecidableEq

/-- The state `New` leaves with the stored cursor: `setupJournal` makes it `instance.cursor`. -/
def State.start (stored : String) : State := ⟨Alerts.empty, stored, stored⟩

/-- The branch of `processJournal` where `journal.Next` finds no more entries
(part_004:840-848); `saveCursor` is how `SetJournalCursor` ends. -/
def endOfJournal (saveCursor : GoError) (currentCursor : String) (state : State) :
    GoError × State :=
  if currentCursor ≠ state.cursor then
    match saveCursor with
    | some err => (some err, state)
    | none => (none, { state with stored := currentCursor })
  else (none, state)

/-- The loop of `processJournal` (part_004:834-901) from the cursor `currentCursor`. -/
def processJournalLoop (saveCursor : GoError) (currentCursor : String) :
    List JournalRead → State → GoError × State
  | [], state => endOfJournal saveCursor currentCursor state
  | .nextFailed err :: _, state => (some err, state)
  | .entry (.error err) :: _, state => (some err, state)
  | .entry (.ok entry) :: reads, state =>
    let state := match entryAlert tags provider filterRegexp entry with
      | some item => { state with batch := addAlert marshal maxMessageSize item state.batch }
      | none => state
    processJournalLoop saveCursor entry.cursor reads state

/-- `processJournal` (part_004:831-902), whose loop starts from `instance.cursor`. -/
def processJournal (saveCursor : GoError) (reads : List JournalRead) (state : State) :
    GoError × State :=
  processJournalLoop marshal maxMessageSize tags provider filterRegexp saveCursor state.cursor
    reads state

/-- `Fire` of a log entry at an error level, with its time, message and data: the hook that
`New` adds to the logger (part_004:686, 733-752). -/
def fireAlert (time : Int) (message : String) (data : List (String × String)) (state : State) :
    State :=
  { state with batch := addAlert marshal maxMessageSize (fireItem tags time message data) state.batch }

/-- The message of `log.Errorf("Journal process error: %s", err)` (part_004:817). -/
def journalErrorMessage (err : String) : String :=
  "Journal process error: " ++ err

/-- The events of package `alerts`, serialized by its mutex: a tick of `instance.ticker`, with
the reads of `processJournal`, how `SetJournalCursor` ends, the time at which a failure is
logged and whether `AlertsChannel` is full; `SendResourceAlert`; and `Fire` of a log entry
elsewhere, with the entry's time, message and data. -/
inductive Event where
  | tick (reads : List JournalRead) (saveCursor : GoError) (time : Int) (channelFull : Bool)
  | sendResourceAlert (source resource : String) (time : Int) (value : Nat)
  | fire (time : Int) (message : String) (data : List (String × String))

/-- One event (part_004:815-820 for a tick: the error of `processJournal` is logged with
`log.Errorf`, whose hook `Fire` adds its alert before `sendAlerts` takes the mutex; the warnings
`sendAlerts` logs are below the hook's levels). -/
def Event.run : Event → State → State
  | .tick reads saveCursor time channelFull, state =>
    let journal := processJournal marshal maxMessageSize tags provider filterRegexp saveCursor
      reads state
    let state := match journal.1 with
      | some err =>
        fireAlert marshal maxMessageSize tags time (journalErrorMessage err) [] journal.2
      | none => journal.2
    { state with batch := sendAlerts channelFull state.batch }
  | .sendResourceAlert source resource time value, state =>
    { state with
      batch := addAlert marshal maxMessageSize
        (resourceAlertItem tags provider source resource time value) state.batch }
  | .fire time message data, state => fireAlert marshal maxMessageSize tags time message data state

/-- The state after a sequence of events. -/
def runEvents (events : List Event) (state : State) : State :=
  events.foldl (fun state event => event.run marshal maxMessageSize tags provider filterRegexp
    state) state

/-! ### A tick as calls on the batch -/

/-- The entries a tick reads before its first failed read, and the error of that read. -/
def entriesRead : List JournalRead → List JournalEntry × GoError
  | [] => ([], none)
  | .nextFailed err :: _ => ([], some err)
  | .entry (.error err) :: _ => ([], some err)
  | .entry (.ok entry) :: reads => (entry :: (entriesRead reads).1, (entriesRead reads).2)

/-- The `addAlert` calls of the entries read. -/
def journalCalls (reads : List JournalRead) : List Call :=
  ((entriesRead reads).1.filterMap (entryAlert tags provider filterRegexp)).map Call.addAlert

/-- The error `processJournal` returns from `instance.cursor`: that of its first failed read, or
else that of `SetJournalCursor` when the cursor of the last entry read differs. -/
def tickError (cursor : String) (reads : List JournalRead) (saveCursor : GoError) : GoError :=
  match (entriesRead reads).2 with
  | some err => some err
  | none =>
    if ((entriesRead reads).1.getLast?.map JournalEntry.cursor).getD cursor ≠ cursor then saveCursor
    else none

/-- The calls on the batch an event makes, from the `instance.cursor` it sees. -/
def Event.calls (cursor : String) : Event → List Call
  | .tick reads saveCursor time channelFull =>
    journalCalls tags provider filterRegexp reads ++
      (match tickError cursor reads saveCursor with
        | some err => [.addAlert (fireItem tags time (journalErrorMessage err) [])]
        | none => []) ++ [.sendAlerts channelFull]
  | .sendResourceAlert source resource time value =>
    [.addAlert (resourceAlertItem tags provider source resource time value)]
  | .fire time message data => [.addAlert (fireItem tags time message data)]

theorem runCalls_append (calls calls' : List Call) (state : Alerts) :
    runCalls marshal maxMessageSize (calls ++ calls') state =
      runCalls marshal maxMessageSize calls' (runCalls marshal maxMessageSize calls state) :=
  List.foldl_append _ _ _ _

theorem getD_map_getLast?_cons {α β : Type} (f : α → β) (a : α) (l : List α) (b : β) :
    ((a :: l).getLast?.map f).getD b = (l.getLast?.map f).getD (f a) := by
  rw [List.getLast?_cons]
  cases l.getLast? <;> rfl

/-- The loop adds the alerts of the entries read before the first failed read; then a failed
read returns its error, and otherwise the loop ends as the end of the journal does with the
cursor of the last entry read. -/
theorem processJournalLoop_eq (saveCursor : GoError) : ∀ (reads : List JournalRead)
    (currentCursor : String) (state : State),
    processJournalLoop marshal maxMessageSize tags provider filterRegexp saveCursor currentCursor
        reads state =
      let state := { state with
        batch := runCalls marshal maxMessageSize
          (journalCalls tags provider filterRegexp reads) state.batch }
      match (entriesRead reads).2 with
      | some err => (some err, state)
      | none => endOfJournal saveCursor
          (((entriesRead reads).1.getLast?.map JournalEntry.cursor).getD currentCursor) state
  | [], _, _ => rfl
  | .nextFailed _ :: _, _, _ => rfl
  | .entry (.error _) :: _, _, _ => rfl
  | .entry (.ok entry) :: reads, currentCursor, state => by
    rw [processJournalLoop, processJournalLoop_eq saveCursor reads]
    simp only [journalCalls, entriesRead, getD_map_getLast?_cons]
    cases alert : entryAlert tags provider filterRegexp entry with
    | none => simp only [List.filterMap_cons, alert]
    | some item =>
      simp only [List.filterMap_cons, alert, List.map_cons, runCalls, List.foldl_cons]
      rfl

/-- `processJournal` adds, in order, the alerts of the entries read before its first failed
read. A failed read returns its error and stores no cursor; otherwise the cursor of the last
entry read, or `instance.cursor` when there is none, is stored when it differs from
`instance.cursor`, and the error of `SetJournalCursor` is returned. `instance.cursor` never
changes. -/
theorem processJournal_eq (saveCursor : GoError) (reads : List JournalRead) (state : State) :
    processJournal marshal maxMessageSize tags provider filterRegexp saveCursor reads state =
      let state := { state with
        batch := runCalls marshal maxMessageSize
          (journalCalls tags provider filterRegexp reads) state.batch }
      match (entriesRead reads).2 with
      | some err => (some err, state)
      | none => endOfJournal saveCursor
          (((entriesRead reads).1.getLast?.map JournalEntry.cursor).getD state.cursor) state :=
  processJournalLoop_eq marshal maxMessageSize tags provider filterRegexp saveCursor reads
    state.cursor state

/-- A tick that fails after reading an entry adds its alert but stores no cursor, and a later
tick that reads nothing stores none either: the loop starts from `instance.cursor`, which
`processJournal` never moves. -/
example :
    let marshal : JsonMarshal := ⟨fun _ => .ok [123, 125], fun _ _ ok => by cases ok; simp⟩
    let tags : AlertTags := ⟨"resource", "aosCore", "systemError"⟩
    let provider : ServiceProvider := ⟨fun _ => .error "not found", fun _ => .error "not found"⟩
    let entry : JournalEntry := ⟨"s=1", 1000000, [("PRIORITY", "2"), ("MESSAGE", "failed")]⟩
    let failed := processJournal marshal 65536 tags provider [] none
      [.entry (.ok entry), .nextFailed "EIO"] (State.start "")
    let idle := processJournal marshal 65536 tags provider [] none [] failed.2
    failed.2.batch.alerts.length = 1 ∧ idle = (none, failed.2) ∧ idle.2.stored = "" := by
  decide

/-- The end of the journal changes no field but the stored cursor. -/
theorem endOfJournal_batch (saveCursor : GoError) (currentCursor : String) (state : State) :
    (endOfJournal saveCursor currentCursor state).2.batch = state.batch ∧
      (endOfJournal saveCursor currentCursor state).2.cursor = state.cursor := by
  unfold endOfJournal
  split
  · cases saveCursor <;> exact ⟨rfl, rfl⟩
  · exact ⟨rfl, rfl⟩

theorem processJournal_batch (saveCursor : GoError) (reads : List JournalRead) (state : State) :
    (processJournal marshal maxMessageSize tags provider filterRegexp saveCursor reads
        state).2.batch =
      runCalls marshal maxMessageSize (journalCalls tags provider filterRegexp reads) state.batch ∧
    (processJournal marshal maxMessageSize tags provider filterRegexp saveCursor reads
        state).2.cursor = state.cursor := by
  rw [processJournal_eq]
  cases (entriesRead reads).2 with
  | some _ => exact ⟨rfl, rfl⟩
  | none => exact endOfJournal_batch _ _ _

/-- `processJournal` returns the error `tickError` names. -/
theorem processJournal_error (saveCursor : GoError) (reads : List JournalRead) (state : State) :
    (processJournal marshal maxMessageSize tags provider filterRegexp saveCursor reads state).1 =
      tickError state.cursor reads saveCursor := by
  rw [processJournal_eq, tickError]
  cases (entriesRead reads).2 with
  | some _ => rfl
  | none =>
    simp only [endOfJournal]
    by_cases moved : ((entriesRead reads).1.getLast?.map JournalEntry.cursor).getD state.cursor ≠
      state.cursor
    · rw [if_pos moved, if_pos moved]
      cases saveCursor <;> rfl
    · rw [if_neg moved, if_neg moved]

/-- Every event does to the batch what its calls do from the cursor it sees, and keeps the
cursor. -/
theorem Event.run_batch (event : Event) (state : State) :
    (event.run marshal maxMessageSize tags provider filterRegexp state).batch =
        runCalls marshal maxMessageSize (event.calls tags provider filterRegexp state.cursor)
          state.batch ∧
      (event.run marshal maxMessageSize tags provider filterRegexp state).cursor =
        state.cursor := by
  cases event with
  | tick reads saveCursor time channelFull =>
    obtain ⟨batch, cursor⟩ :=
      processJournal_batch marshal maxMessageSize tags provider filterRegexp saveCursor reads state
    have failed :=
      processJournal_error marshal maxMessageSize tags provider filterRegexp saveCursor reads state
    simp only [Event.run, Event.calls, failed, runCalls_append]
    cases tickError state.cursor reads saveCursor <;> exact ⟨by rw [← batch]; rfl, cursor⟩
  | sendResourceAlert => exact ⟨rfl, rfl⟩
  | fire => exact ⟨rfl, rfl⟩

theorem runEvents_batch : ∀ (events : List Event) (state : State),
    (runEvents marshal maxMessageSize tags provider filterRegexp events state).batch =
        runCalls marshal maxMessageSize
          (events.flatMap (Event.calls tags provider filterRegexp state.cursor)) state.batch ∧
      (runEvents marshal maxMessageSize tags provider filterRegexp events state).cursor =
        state.cursor
  | [], _ => ⟨rfl, rfl⟩
  | event :: events, state => by
    obtain ⟨batch, cursor⟩ := event.run_batch marshal maxMessageSize tags provider filterRegexp state
    obtain ⟨batch', cursor'⟩ := runEvents_batch events
      (event.run marshal maxMessageSize tags provider filterRegexp state)
    refine ⟨?_, cursor'.trans cursor⟩
    rw [runEvents, List.foldl_cons, ← runEvents, batch', batch, cursor, List.flatMap_cons,
      runCalls_append]

/-- Every run of the producers from the state `New` leaves is the run of Alerts.Batch on the
calls its events make, the `aosCore` alert that `Fire` adds for a failed tick's log included, and
`instance.cursor` keeps the cursor read at setup. So, when the items
of these calls marshal, with fewer than 2^32 calls and less than 2^63 bytes of JSON, every batch
handed to `AlertsChannel`, and the batch being filled, is within `MaxMessageSize` or empty and
has no two adjacent equal payloads. -/
theorem alerts_events_run_batch_calls (events : List Event) (stored : String)
    (marshals : ∀ item,
      Call.addAlert item ∈ events.flatMap (Event.calls tags provider filterRegexp stored) →
        ∃ data, marshal.encode item = .ok data)
    (few : (events.flatMap (Event.calls tags provider filterRegexp stored)).length < 4294967296)
    (small : callsLength marshal (events.flatMap (Event.calls tags provider filterRegexp stored)) <
      9223372036854775808) :
    let calls := events.flatMap (Event.calls tags provider filterRegexp stored)
    let final := runEvents marshal maxMessageSize tags provider filterRegexp events
      (State.start stored)
    final.batch = runCalls marshal maxMessageSize calls Alerts.empty ∧ final.cursor = stored ∧
      (∀ batch ∈ final.batch.sent, WellFormedBatch marshal maxMessageSize batch) ∧
      WellFormedBatch marshal maxMessageSize final.batch.alerts := by
  intro calls final
  have inv := invariant_run marshal maxMessageSize calls Tracked.start
    (invariant_start marshal maxMessageSize)
    (fun item member => let ⟨_, ok⟩ := marshals item member; jsonLength_pos marshal ok)
    ((Nat.zero_add calls.length).symm ▸ few)
    ((Nat.zero_add (callsLength marshal calls)).symm ▸ small)
  obtain ⟨batch, cursor⟩ :=
    runEvents_batch marshal maxMessageSize tags provider filterRegexp events (State.start stored)
  have tracked : final.batch = (Tracked.run marshal maxMessageSize calls Tracked.start).state :=
    batch.trans (Tracked.run_state marshal maxMessageSize calls Tracked.start).symm
  exact ⟨batch, cursor, tracked ▸ inv.sent, tracked ▸ inv.batch⟩

/-- A tick that reads the error of an `aos` unit from `init.scope`, then a filtered message, then
fails and logs the failure; a resource alert; a log entry; and a tick that reads an entry and
fails to store its cursor. -/
theorem alerts_events_run_batch_calls_on_failed_tick :
    let marshal : JsonMarshal := ⟨fun _ => .ok [123, 125], fun _ _ ok => by cases ok; simp⟩
    let tags : AlertTags := ⟨"resource", "aosCore", "systemError"⟩
    let provider : ServiceProvider := ⟨fun _ => .error "not found",
      fun unit => if unit = "aos-service0.service" then .ok ⟨"service0", 1⟩ else .error "not found"⟩
    let filterRegexp : List (String → Bool) := [fun message => "ignored".data.isPrefixOf message.data]
    let events := [Event.tick [.entry (.ok ⟨"s=1", 1000000, [("_SYSTEMD_UNIT", "init.scope"),
        ("PRIORITY", "3"), ("UNIT", "aos-service0.service"), ("MESSAGE", "failed")]⟩),
      .entry (.ok ⟨"s=2", 2000000, [("PRIORITY", "2"), ("MESSAGE", "ignored: 1")]⟩),
      .nextFailed "EIO"] none 2500000000 false,
      .sendResourceAlert "service0" "ram" 3000000000 90,
      .fire 4000000000 "connection lost" [("url", "amqps://host")],
      .tick [.entry (.ok ⟨"s=3", 5000000, [("PRIORITY", "2"), ("MESSAGE", "oom")]⟩)]
        (some "database is locked") 5500000000 false]
    let calls := events.flatMap (Event.calls tags provider filterRegexp "")
    (∀ item, Call.addAlert item ∈ calls → ∃ data, marshal.encode item = .ok data) ∧
      calls.length < 4294967296 ∧ callsLength marshal calls < 9223372036854775808 ∧
      let final := runEvents marshal 65536 tags provider filterRegexp events (State.start "")
      final.batch = runCalls marshal 65536 calls Alerts.empty ∧ final.cursor = "" ∧
        (∀ batch ∈ final.batch.sent, WellFormedBatch marshal 65536 batch) ∧
        WellFormedBatch marshal 65536 final.batch.alerts :=
  ⟨fun _ _ => ⟨_, rfl⟩, by decide, by decide,
    alerts_events_run_batch_calls _ 65536 _ _ _ _ "" (fun _ _ => ⟨_, rfl⟩) (by decide) (by decide)⟩

end Producers

end AosServiceManager.Alerts
