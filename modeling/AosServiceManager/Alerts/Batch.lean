/-
Module: AosServiceManager.Alerts.Batch
Layer: Core and Proofs
Purpose: The batch of package `alerts` (part_004:622-641, 904-947). `addAlert` drops an item whose
  payload equals that of the last batched item and counts it in `duplicatedAlerts`; any other
  item adds the length of its JSON to `alertsSize` and is appended while `alertsSize` is within
  `MaxMessageSize`, or counted in `skippedAlerts` when it is not. `sendAlerts` hands the batch
  to `AlertsChannel` unless the channel is full, and resets the batch, the counters and
  `alertsSize`, but only when `alertsSize` is not zero. `Tracked` adds as ghost state the calls
  since the last reset and the JSON length they added. Over every run whose items all marshal,
  with fewer than 2^32 calls and less than 2^63 bytes, every batch sent is within the limit or
  empty, has no two adjacent equal payloads, every call is counted once, and the batch, the
  counters and `alertsSize` are zero together after `sendAlerts`. An item whose `json.Marshal`
  fails adds nothing to `alertsSize`, and `sendAlerts` then keeps it in the batch.
Imports: Mathlib.Data.List.Chain, AosServiceManager.Go.Basic
Trusted boundary: json.Marshal, a parameter that gives each item's JSON text, never empty, or an
  error; whether `AlertsChannel` is full, given per `sendAlerts` call.
Main exports: AlertItem, Alerts, JsonMarshal, jsonLength, addAlert, sendAlerts, Call, runCall,
  runCalls, Tracked, Tracked.run_state, WellFormedBatch, Invariant, invariant_addAlert,
  invariant_sendAlerts, invariant_run, alerts_batch_invariant, sendAlerts_keeps_unmarshalled_item
-/
import Mathlib.Data.List.Chain
import AosServiceManager.Go.Basic

set_option linter.dupNamespace false

namespace AosServiceManager.Alerts

/-- The payloads of `amqp.AlertItem` that package `alerts` sends. -/
inductive Payload where
  | systemAlert (message : String)
  | resourceAlert (parameter : String) (value : Nat)
deriving Repr, DecidableEq

/-- `amqp.AlertItem`: the timestamp in Unix nanoseconds, `Version` a pointer that may be
`nil`. -/
structure AlertItem where
  timestamp : Int
  tag : String
  source : String
  version : Option Nat
  payload : Payload
deriving Repr, DecidableEq

/-- The fields of `Alerts` that `addAlert` and `sendAlerts` use, and the batches handed to
`AlertsChannel` so far. -/
structure Alerts where
  alertsSize : Int
  skippedAlerts : UInt32
  duplicatedAlerts : UInt32
  alerts : List AlertItem
  sent : List (List AlertItem)
deriving Repr, DecidableEq

/-- The state `New` leaves (part_004:664-671): an empty batch and zero counters. -/
def Alerts.empty : Alerts := ⟨0, 0, 0, [], []⟩

/-- `json.Marshal` on an alert item: its JSON text, which for a struct is never empty, or an
error, for instance a timestamp whose year is outside `[0, 9999]`. -/
structure JsonMarshal where
  encode : AlertItem → Except String (List UInt8)
  nonempty : ∀ item data, encode item = .ok data → data ≠ []

section Calls

variable (marshal : JsonMarshal) (maxMessageSize : Int)

/-- `len(data)` of `data, _ := json.Marshal(item)`: the data is `nil` when marshalling fails. -/
def jsonLength (item : AlertItem) : Nat :=
  match marshal.encode item with
  | .ok data => data.length
  | .error _ => 0

/-- `addAlert` (part_004:904-922). -/
def addAlert (item : AlertItem) (state : Alerts) : Alerts :=
  if state.alerts.getLast?.map AlertItem.payload = some item.payload then
    { state with duplicatedAlerts := state.duplicatedAlerts + 1 }
  else
    let alertsSize := Go.int64 (state.alertsSize + jsonLength marshal item)
    if alertsSize ≤ maxMessageSize then
      { state with alertsSize := alertsSize, alerts := state.alerts ++ [item] }
    else { state with alertsSize := alertsSize, skippedAlerts := state.skippedAlerts + 1 }

/-- `sendAlerts` (part_004:924-947); `channelFull` is
`len(AlertsChannel) = cap(AlertsChannel)`. -/
def sendAlerts (channelFull : Bool) (state : Alerts) : Alerts :=
  if state.alertsSize ≠ 0 then
    ⟨0, 0, 0, [], if channelFull then state.sent else state.sent ++ [state.alerts]⟩
  else state

/-- The calls on the batch, serialized by the `Alerts` mutex. -/
inductive Call where
  | addAlert (item : AlertItem)
  | sendAlerts (channelFull : Bool)
deriving Repr, DecidableEq

/-- One call on the state. -/
def runCall : Call → Alerts → Alerts
  | .addAlert item => addAlert marshal maxMessageSize item
  | .sendAlerts channelFull => sendAlerts channelFull

/-- The state after a sequence of calls. -/
def runCalls (calls : List Call) (state : Alerts) : Alerts :=
  calls.foldl (fun state call => runCall marshal maxMessageSize call state) state

/-! ### Ghost state -/

/-- A state with the `addAlert` calls since the last reset and the JSON length of those that
were not duplicates. -/
structure Tracked where
  state : Alerts
  added : Nat
  counted : Nat

def Tracked.start : Tracked := ⟨Alerts.empty, 0, 0⟩

/-- One call on the tracked state: the ghost counts restart exactly when `sendAlerts` resets. -/
def Tracked.step (t : Tracked) : Call → Tracked
  | .addAlert item =>
    ⟨addAlert marshal maxMessageSize item t.state, t.added + 1,
      if t.state.alerts.getLast?.map AlertItem.payload = some item.payload then t.counted
      else t.counted + jsonLength marshal item⟩
  | .sendAlerts channelFull =>
    ⟨sendAlerts channelFull t.state, if t.state.alertsSize ≠ 0 then 0 else t.added,
      if t.state.alertsSize ≠ 0 then 0 else t.counted⟩

def Tracked.run (calls : List Call) (t : Tracked) : Tracked :=
  calls.foldl (Tracked.step marshal maxMessageSize) t

/-- The JSON length a call adds. -/
def callLength : Call → Nat
  | .addAlert item => jsonLength marshal item
  | .sendAlerts _ => 0

/-- The JSON length a sequence of calls adds. -/
def callsLength (calls : List Call) : Nat :=
  calls.foldr (fun call total => callLength marshal call + total) 0

theorem callsLength_cons (call : Call) (calls : List Call) :
    callsLength marshal (call :: calls) = callLength marshal call + callsLength marshal calls := rfl

theorem Tracked.step_state (t : Tracked) (call : Call) :
    (t.step marshal maxMessageSize call).state = runCall marshal maxMessageSize call t.state := by
  cases call <;> rfl

/-- The ghost state follows the program: its state is the one `runCalls` computes. -/
theorem Tracked.run_state : ∀ (calls : List Call) (t : Tracked),
    (Tracked.run marshal maxMessageSize calls t).state =
      runCalls marshal maxMessageSize calls t.state
  | [], _ => rfl
  | call :: calls, t => by
    rw [Tracked.run, List.foldl_cons, ← Tracked.run, Tracked.run_state calls, Tracked.step_state]
    rfl

theorem Tracked.step_added_le (t : Tracked) (call : Call) :
    (t.step marshal maxMessageSize call).added ≤ t.added + 1 := by
  cases call with
  | addAlert => exact Nat.le_refl _
  | sendAlerts => simp only [Tracked.step]; split <;> omega

theorem Tracked.step_counted_le (t : Tracked) (call : Call) :
    (t.step marshal maxMessageSize call).counted ≤ t.counted + callLength marshal call := by
  cases call <;> simp only [Tracked.step, callLength] <;> split <;> omega

end Calls

/-! ### The invariant -/

section Invariant

variable (marshal : JsonMarshal) (maxMessageSize : Int)

/-- The JSON length of a batch: the sum of its items'. -/
def batchLength (batch : List AlertItem) : Nat :=
  batch.foldr (fun item total => jsonLength marshal item + total) 0

/-- What a batch handed to `AlertsChannel` should be: within `MaxMessageSize` unless it is empty,
with no two adjacent items of equal payloads. -/
def WellFormedBatch (batch : List AlertItem) : Prop :=
  (batch = [] ∨ (batchLength marshal batch : Int) ≤ maxMessageSize) ∧
    batch.Chain' fun a b => a.payload ≠ b.payload

/-- The invariant of a tracked state: `alertsSize` is the JSON length counted since the last
reset, the batch is well formed and within that length, each call since the reset is in the
batch or in one counter, the length is zero only with an empty batch and zero counters, and
every batch sent was well formed. -/
structure Invariant (t : Tracked) : Prop where
  size_eq : t.state.alertsSize = t.counted
  batch_le : batchLength marshal t.state.alerts ≤ t.counted
  batch : WellFormedBatch marshal maxMessageSize t.state.alerts
  counted_once : t.added =
    t.state.alerts.length + t.state.skippedAlerts.toNat + t.state.duplicatedAlerts.toNat
  zero_together : t.counted = 0 →
    t.state.alerts = [] ∧ t.state.skippedAlerts = 0 ∧ t.state.duplicatedAlerts = 0
  sent : ∀ batch ∈ t.state.sent, WellFormedBatch marshal maxMessageSize batch

theorem invariant_start : Invariant marshal maxMessageSize Tracked.start :=
  ⟨rfl, Nat.le_refl 0, ⟨.inl rfl, List.chain'_nil⟩, rfl, fun _ => ⟨rfl, rfl, rfl⟩,
    fun _ member => nomatch member⟩

theorem toNat_add_one (a : UInt32) (room : a.toNat + 1 < 4294967296) :
    (a + 1).toNat = a.toNat + 1 := by
  show (a.toBitVec + 1#32).toNat = a.toBitVec.toNat + 1
  rw [BitVec.toNat_add, BitVec.toNat_ofNat]
  exact Nat.mod_eq_of_lt room

theorem batchLength_append_single (batch : List AlertItem) (item : AlertItem) :
    batchLength marshal (batch ++ [item]) =
      batchLength marshal batch + jsonLength marshal item := by
  induction batch with
  | nil => simp [batchLength]
  | cons first rest ih =>
    simp only [batchLength, List.cons_append, List.foldr_cons] at ih ⊢
    omega

/-- An item that marshals has a positive JSON length. -/
theorem jsonLength_pos {item : AlertItem} {data : List UInt8}
    (ok : marshal.encode item = .ok data) :
    0 < jsonLength marshal item := by
  rw [jsonLength, ok]
  exact List.length_pos.2 (marshal.nonempty item data ok)

/-- An `addAlert` keeps the invariant when the item marshals and the counts stay in range. -/
theorem invariant_addAlert {t : Tracked} (inv : Invariant marshal maxMessageSize t)
    {item : AlertItem} (marshals : 0 < jsonLength marshal item) (few : t.added + 1 < 4294967296)
    (small : t.counted + jsonLength marshal item < 9223372036854775808) :
    Invariant marshal maxMessageSize (t.step marshal maxMessageSize (.addAlert item)) := by
  have once := inv.counted_once
  by_cases duplicate : t.state.alerts.getLast?.map AlertItem.payload = some item.payload
  · have nonempty : t.state.alerts ≠ [] := fun empty => by simp [empty] at duplicate
    have positive : t.counted ≠ 0 := fun zero => nonempty (inv.zero_together zero).1
    simp only [Tracked.step, addAlert, if_pos duplicate]
    exact ⟨inv.size_eq, inv.batch_le, inv.batch,
      by dsimp only; rw [toNat_add_one _ (by omega)]; omega, fun zero => absurd zero positive,
      inv.sent⟩
  have stored : Go.int64 (t.state.alertsSize + jsonLength marshal item) =
      ((t.counted + jsonLength marshal item : Nat) : Int) := by
    rw [inv.size_eq]
    simp only [Go.int64]
    omega
  simp only [Tracked.step, addAlert, if_neg duplicate]
  rw [stored]
  split_ifs with fits
  · have grown := batchLength_append_single marshal t.state.alerts item
    have within := inv.batch_le
    refine ⟨rfl, by dsimp only; omega, ⟨.inr (by dsimp only; omega), ?_⟩,
      by dsimp only; rw [List.length_append, List.length_singleton]; omega,
      fun zero => by dsimp only at zero; omega, inv.sent⟩
    refine List.chain'_append.2 ⟨inv.batch.2, List.chain'_singleton _, fun x last y first => ?_⟩
    simp only [List.head?_cons, Option.mem_def, Option.some.injEq] at first last
    subst first
    exact fun same => duplicate (by rw [last, Option.map_some', same])
  · exact ⟨rfl, by dsimp only; have := inv.batch_le; omega, inv.batch,
      by dsimp only; rw [toNat_add_one _ (by omega)]; omega,
      fun zero => by dsimp only at zero; omega, inv.sent⟩

/-- A `sendAlerts` keeps the invariant: a reset starts the ghost counts again, and the batch it
hands over is well formed. -/
theorem invariant_sendAlerts {t : Tracked} (inv : Invariant marshal maxMessageSize t)
    (channelFull : Bool) :
    Invariant marshal maxMessageSize (t.step marshal maxMessageSize (.sendAlerts channelFull)) := by
  by_cases idle : t.state.alertsSize = 0
  · simp only [Tracked.step, sendAlerts, idle, ne_eq, not_true_eq_false, if_false]
    exact inv
  · simp only [Tracked.step, sendAlerts, if_pos idle]
    refine ⟨rfl, Nat.le_refl 0, ⟨.inl rfl, List.chain'_nil⟩, rfl, fun _ => ⟨rfl, rfl, rfl⟩,
      ?_⟩
    cases channelFull
    · intro batch member
      rcases List.mem_append.1 member with old | handed
      · exact inv.sent batch old
      · rw [List.mem_singleton.1 handed]
        exact inv.batch
    · exact inv.sent

/-- Hence, by induction on the calls, every run keeps the invariant while its items marshal and
its counts stay in range. -/
theorem invariant_run : ∀ (calls : List Call) (t : Tracked),
    Invariant marshal maxMessageSize t →
    (∀ item, Call.addAlert item ∈ calls → 0 < jsonLength marshal item) →
    t.added + calls.length < 4294967296 →
    t.counted + callsLength marshal calls < 9223372036854775808 →
    Invariant marshal maxMessageSize (Tracked.run marshal maxMessageSize calls t)
  | [], _, inv, _, _, _ => inv
  | call :: calls, t, inv, marshals, few, small => by
    rw [List.length_cons] at few
    rw [callsLength_cons] at small
    have next : Invariant marshal maxMessageSize (t.step marshal maxMessageSize call) := by
      cases call with
      | addAlert item =>
        exact invariant_addAlert marshal maxMessageSize inv
          (marshals item (List.mem_cons_self _ _)) (by omega)
          (by simp only [callLength] at small; omega)
      | sendAlerts channelFull => exact invariant_sendAlerts marshal maxMessageSize inv channelFull
    have added := t.step_added_le marshal maxMessageSize call
    have counted := t.step_counted_le marshal maxMessageSize call
    exact invariant_run calls _ next
      (fun item member => marshals item (List.mem_cons_of_mem _ member)) (by omega) (by omega)

/-- Under the invariant, `sendAlerts` leaves the batch, both counters and `alertsSize` empty or
zero, whether it resets or finds `alertsSize` already zero. -/
theorem sendAlerts_resets {t : Tracked} (inv : Invariant marshal maxMessageSize t)
    (channelFull : Bool) :
    let after := sendAlerts channelFull t.state
    after.alerts = [] ∧ after.skippedAlerts = 0 ∧ after.duplicatedAlerts = 0 ∧
      after.alertsSize = 0 := by
  by_cases idle : t.state.alertsSize = 0
  · have zero : t.counted = 0 := by have := inv.size_eq; omega
    obtain ⟨empty, skipped, duplicated⟩ := inv.zero_together zero
    dsimp only
    rw [sendAlerts, if_neg (not_not.2 idle)]
    exact ⟨empty, skipped, duplicated, idle⟩
  · dsimp only
    rw [sendAlerts, if_pos idle]
    exact ⟨rfl, rfl, rfl, rfl⟩

/-- From the state `New` leaves, over every run whose items all marshal, with fewer than 2^32
calls and less than 2^63 bytes of JSON: every batch sent is within `MaxMessageSize` or empty and
has no two adjacent equal payloads, every `addAlert` since the last reset is in the batch or in
one counter, and `sendAlerts` leaves the batch, the counters and `alertsSize` zero together. -/
theorem alerts_batch_invariant (calls : List Call)
    (marshals : ∀ item, Call.addAlert item ∈ calls → ∃ data, marshal.encode item = .ok data)
    (few : calls.length < 4294967296)
    (small : callsLength marshal calls < 9223372036854775808) :
    let t := Tracked.run marshal maxMessageSize calls Tracked.start
    t.state = runCalls marshal maxMessageSize calls Alerts.empty ∧
      (∀ batch ∈ t.state.sent, WellFormedBatch marshal maxMessageSize batch) ∧
      t.added =
        t.state.alerts.length + t.state.skippedAlerts.toNat + t.state.duplicatedAlerts.toNat ∧
      ∀ channelFull,
        let after := sendAlerts channelFull t.state
        after.alerts = [] ∧ after.skippedAlerts = 0 ∧ after.duplicatedAlerts = 0 ∧
          after.alertsSize = 0 := by
  have inv := invariant_run marshal maxMessageSize calls Tracked.start
    (invariant_start marshal maxMessageSize)
    (fun item member => let ⟨_, ok⟩ := marshals item member; jsonLength_pos marshal ok)
    (by simpa [Tracked.start] using few) (by simpa [Tracked.start] using small)
  exact ⟨Tracked.run_state marshal maxMessageSize calls Tracked.start, inv.sent, inv.counted_once,
    sendAlerts_resets marshal maxMessageSize inv⟩

/-- A run of two equal resource alerts and a send, with an encoder that writes `{}`. -/
theorem alerts_batch_invariant_on_duplicate :
    let marshal : JsonMarshal := ⟨fun _ => .ok [123, 125], fun _ _ ok => by cases ok; simp⟩
    let item : AlertItem := ⟨0, "resourceAlert", "service0", some 1, .resourceAlert "ram" 90⟩
    let calls := [Call.addAlert item, .addAlert item, .sendAlerts false]
    (∀ item, Call.addAlert item ∈ calls → ∃ data, marshal.encode item = .ok data) ∧
      calls.length < 4294967296 ∧
      callsLength marshal calls < 9223372036854775808 ∧
      let t := Tracked.run marshal 65536 calls Tracked.start
      t.state = runCalls marshal 65536 calls Alerts.empty ∧
        (∀ batch ∈ t.state.sent, WellFormedBatch marshal 65536 batch) ∧
        t.added =
          t.state.alerts.length + t.state.skippedAlerts.toNat + t.state.duplicatedAlerts.toNat ∧
        ∀ channelFull,
          let after := sendAlerts channelFull t.state
          after.alerts = [] ∧ after.skippedAlerts = 0 ∧ after.duplicatedAlerts = 0 ∧
            after.alertsSize = 0 :=
  ⟨fun _ _ => ⟨_, rfl⟩, by decide, by decide,
    alerts_batch_invariant _ 65536 _ (fun _ _ => ⟨_, rfl⟩) (by decide) (by decide)⟩

/-- An item whose `json.Marshal` fails is appended with `alertsSize` still zero, so
`sendAlerts` neither hands it over nor resets the batch. -/
theorem sendAlerts_keeps_unmarshalled_item (item : AlertItem) (err : String)
    (failed : marshal.encode item = .error err) (room : 0 ≤ maxMessageSize) (channelFull : Bool) :
    runCalls marshal maxMessageSize [.addAlert item, .sendAlerts channelFull] Alerts.empty =
      ⟨0, 0, 0, [item], []⟩ := by
  have nothing : jsonLength marshal item = 0 := by rw [jsonLength, failed]
  simp [runCalls, runCall, addAlert, sendAlerts, Alerts.empty, nothing, Go.int64, room]

/-- A resource alert dated in the year 10000, which `Time.MarshalJSON` refuses. -/
theorem sendAlerts_keeps_item_dated_year_10000 :
    let marshal : JsonMarshal :=
      ⟨fun _ => .error "Time.MarshalJSON: year outside of range [0,9999]",
        fun _ _ failed => nomatch failed⟩
    let item : AlertItem := ⟨253402300800000000000, "resourceAlert", "service0", some 1,
      .resourceAlert "ram" 90⟩
    marshal.encode item = .error "Time.MarshalJSON: year outside of range [0,9999]" ∧
      (0 : Int) ≤ 65536 ∧
      runCalls marshal 65536 [.addAlert item, .sendAlerts false] Alerts.empty =
        ⟨0, 0, 0, [item], []⟩ :=
  ⟨rfl, by decide, sendAlerts_keeps_unmarshalled_item _ 65536 _ _ rfl (by decide) false⟩

end Invariant

end AosServiceManager.Alerts
