/-
Module: AosServiceManager.Iamclient.Subjects
Layer: Core and Proofs
Purpose: How the IAM client forwards subject changes (iamclient.go, part_001:267-339). `New`
  stores the subjects `getSubjects` returns, and `handleSubjectsChanged` then subscribes again
  and again. Each subscription compares the subjects `getSubjects` returns, and those of every
  notification, with the stored ones; when `isSubjectsEqual` says they differ, it stores them
  and sends them on `subjectsChangedChannel`. Over any sequence of subscriptions, failed ones
  included, the channel receives exactly the observed lists that differ from the list observed
  before them (`List.destutter'`): no change is lost, none is sent twice in a row, and the
  stored subjects are the last ones observed.
Imports: Mathlib.Data.List.Destutter, AosServiceManager.Go.Basic
Trusted boundary: the gRPC calls, given by what they return; the reader of
  `subjectsChangedChannel`, which takes every list sent.
Main exports: isSubjectsEqual, Client, Subscription, subscribeSubjectsChanged,
  handleSubjectsChanged, isSubjectsEqual_iff, handleSubjectsChanged_forwards_changes
-/
import Mathlib.Data.List.Destutter
import AosServiceManager.Go.Basic

namespace AosServiceManager.Iamclient

/-! ### The client -/

/-- `isSubjectsEqual` (part_001:327-339): equal lengths, and equal subjects at every index. -/
def isSubjectsEqual (subjects1 subjects2 : List String) : Bool :=
  if subjects1.length ≠ subjects2.length then false
  else (subjects1.zip subjects2).all fun (subject, other) => subject = other

/-- What the subscriptions update: the stored `subjects`, and the lists sent on
`subjectsChangedChannel` so far. -/
structure Client where
  subjects : List String
  sent : List (List String)
deriving Repr, DecidableEq

/-- The comparison both paths of `subscribeSubjectsChanged` make (part_001:300-306, 316-322). -/
def updateSubjects (client : Client) (subjects : List String) : Client :=
  if !isSubjectsEqual subjects client.subjects then ⟨subjects, client.sent ++ [subjects]⟩
  else client

/-- How one subscription goes: `subscribe` is how `SubscribeSubjectsChanged` ends, `fetched` how
`getSubjects` ends, and `received` the notifications `stream.Recv` returns before it fails. -/
structure Subscription where
  subscribe : GoError
  fetched : Except String (List String)
  received : List (List String)

/-- `subscribeSubjectsChanged` (part_001:286-325). -/
def subscribeSubjectsChanged (client : Client) (subscription : Subscription) : Client :=
  match subscription.subscribe with
  | some _ => client
  | none =>
    match subscription.fetched with
    | .error _ => client
    | .ok subjects => subscription.received.foldl updateSubjects (updateSubjects client subjects)

/-- `handleSubjectsChanged` (part_001:267-284): one subscription after another until the client
is closed. -/
def handleSubjectsChanged (client : Client) (subscriptions : List Subscription) : Client :=
  subscriptions.foldl subscribeSubjectsChanged client

/-- The subject lists a subscription observes: the one `getSubjects` returns, then those of the
notifications; none when the subscription or `getSubjects` fails. -/
def Subscription.observed (subscription : Subscription) : List (List String) :=
  match subscription.subscribe, subscription.fetched with
  | none, .ok subjects => subjects :: subscription.received
  | _, _ => []

/-! ### Forwarding -/

theorem isSubjectsEqual_iff : ∀ subjects1 subjects2 : List String,
    isSubjectsEqual subjects1 subjects2 = true ↔ subjects1 = subjects2
  | [], [] => by simp [isSubjectsEqual]
  | [], _ :: _ => by simp [isSubjectsEqual]
  | _ :: _, [] => by simp [isSubjectsEqual]
  | _ :: rest, _ :: others => by
    have ih := isSubjectsEqual_iff rest others
    by_cases len : rest.length = others.length
    · simp_all [isSubjectsEqual]
    · have differ : rest ≠ others := fun same => len (congrArg List.length same)
      simp [isSubjectsEqual, len, differ]

/-- A list is stored and sent exactly when it differs from the stored one. -/
theorem updateSubjects_eq (client : Client) (subjects : List String) :
    updateSubjects client subjects =
      if subjects ≠ client.subjects then ⟨subjects, client.sent ++ [subjects]⟩ else client := by
  by_cases same : subjects = client.subjects <;>
    simp [updateSubjects, same, isSubjectsEqual_iff]

theorem destutter'_eq_cons_tail {α : Type} (R : α → α → Prop) [DecidableRel R] (a : α)
    (l : List α) : l.destutter' R a = a :: (l.destutter' R a).tail := by
  induction l generalizing a with
  | nil => rfl
  | cons b l ih =>
    by_cases h : R a b
    · rw [List.destutter'_cons_pos _ h]
      rfl
    · rw [List.destutter'_cons_neg _ h]
      exact ih a

/-- Comparing a sequence of observed lists, one after another, stores the last and sends those
that differ from the list before them. -/
theorem foldl_updateSubjects : ∀ (observed : List (List String)) (client : Client),
    observed.foldl updateSubjects client =
      ⟨observed.getLastD client.subjects,
        client.sent ++ (observed.destutter' (· ≠ ·) client.subjects).tail⟩
  | [], client => by simp
  | subjects :: observed, client => by
    rw [List.foldl_cons, updateSubjects_eq]
    by_cases same : subjects = client.subjects
    · rw [if_neg (not_not.2 same), foldl_updateSubjects observed client,
        List.destutter'_cons_neg _ (not_not.2 same.symm), List.getLastD_cons, same]
    · rw [if_pos same, foldl_updateSubjects observed, List.destutter'_cons_pos _ (Ne.symm same),
        List.getLastD_cons, List.tail_cons, List.append_assoc, List.singleton_append,
        ← destutter'_eq_cons_tail]

theorem subscribeSubjectsChanged_eq (client : Client) (subscription : Subscription) :
    subscribeSubjectsChanged client subscription =
      subscription.observed.foldl updateSubjects client := by
  rcases subscription with ⟨_ | _, _ | subjects, received⟩ <;> rfl

/-- Over any sequence of subscriptions, failed ones included, the stored subjects are the last
observed, and the channel receives exactly the observed lists that differ from the list before
them: none equals the list sent before it, the first differs from the subjects stored at the
start, and no change is lost. -/
theorem handleSubjectsChanged_forwards_changes (client : Client)
    (subscriptions : List Subscription) :
    let observed := subscriptions.flatMap Subscription.observed
    let forwarded := (observed.destutter' (· ≠ ·) client.subjects).tail
    handleSubjectsChanged client subscriptions =
        ⟨observed.getLastD client.subjects, client.sent ++ forwarded⟩ ∧
      (client.subjects :: forwarded).Chain' (· ≠ ·) := by
  refine ⟨?_, ?_⟩
  · rw [← foldl_updateSubjects, handleSubjectsChanged]
    induction subscriptions generalizing client with
    | nil => rfl
    | cons subscription subscriptions ih =>
      rw [List.foldl_cons, ih, subscribeSubjectsChanged_eq, List.flatMap_cons, List.foldl_append]
  · rw [← destutter'_eq_cons_tail]
    exact List.destutter'_is_chain' _ _ client.subjects

example : handleSubjectsChanged ⟨["user0"], []⟩
    [⟨none, .ok ["user0"], [["user1"], ["user1"], ["user0"]]⟩, ⟨some "unavailable", .ok [], []⟩,
      ⟨none, .error "deadline exceeded", []⟩, ⟨none, .ok ["user0"], [["user0", "user1"]]⟩] =
    ⟨["user0", "user1"], [["user1"], ["user0"], ["user0", "user1"]]⟩ := by decide

end AosServiceManager.Iamclient
