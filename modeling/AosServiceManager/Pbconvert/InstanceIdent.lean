/-
Module: AosServiceManager.Pbconvert.InstanceIdent
Layer: Core and Proofs
Purpose: The conversions of instance identifiers between the cloud protocol and the protobuf
  messages of the service manager API (vendor/github.com/aoscloud/aos_common/utils/pbconvert/
  pbconvert.go:30-42, 71-77). `InstanceFilterToPB` starts from the wildcards `""` and `-1` and
  overwrites each with the filter's value when its pointer is set; the instance goes through
  Go's `int64` conversion, and `NewInstanceIdentFromPB` back through `uint64`.
Imports: AosServiceManager.Go.Basic
Trusted boundary: Go's integer conversions, two's complement wrap-around.
Main exports: InstanceFilter, InstanceIdentPB, instanceFilterToPB, newInstanceIdentFromPB,
  instanceFilterToPB_ok, instance_round_trip, instanceFilterToPB_round_trip
-/
import AosServiceManager.Go.Basic

namespace AosServiceManager.Pbconvert

/-- `cloudprotocol.InstanceFilter`: three pointers, each of which may be `nil`. -/
structure InstanceFilter where
  serviceID : Option String
  subjectID : Option String
  «instance» : Option UInt64
deriving Repr, DecidableEq

/-- `pb.InstanceIdent` of the service manager API: `Instance` is an `int64`. -/
structure InstanceIdentPB where
  serviceId : String
  subjectId : String
  «instance» : Int
deriving Repr, DecidableEq

/-- `aostypes.InstanceIdent`. -/
structure InstanceIdent where
  serviceID : String
  subjectID : String
  «instance» : UInt64
deriving Repr, DecidableEq

/-- `InstanceFilterToPB` (pbconvert.go:30-42). `*filter.ServiceID` dereferences a `nil` pointer
when the service ID is absent. -/
def instanceFilterToPB (filter : InstanceFilter) : GoOutcome InstanceIdentPB :=
  match filter.serviceID with
  | none => .panic "runtime error: invalid memory address or nil pointer dereference"
  | some serviceID =>
    let ident : InstanceIdentPB := ⟨serviceID, "", -1⟩
    let ident := match filter.subjectID with
      | some subjectID => { ident with subjectId := subjectID }
      | none => ident
    let ident := match filter.«instance» with
      | some n => { ident with «instance» := Go.int64 n.toNat }
      | none => ident
    .ok ident

/-- `uint64(x)` of an `int64` value `x`: its residue modulo `2^64`. -/
def uint64OfInt64 (x : Int) : UInt64 :=
  UInt64.ofNat (x % 18446744073709551616).toNat

/-- `NewInstanceIdentFromPB` (pbconvert.go:71-77). -/
def newInstanceIdentFromPB (ident : InstanceIdentPB) : InstanceIdent :=
  ⟨ident.serviceId, ident.subjectId, uint64OfInt64 ident.«instance»⟩

/-! ### The encoding of each field -/

/-- With the service ID set, the conversion succeeds: the subject is the filter's or `""`, and
the instance the `int64` conversion of the filter's or `-1`. -/
theorem instanceFilterToPB_ok (serviceID : String) (subjectID : Option String)
    (index : Option UInt64) :
    instanceFilterToPB ⟨some serviceID, subjectID, index⟩ =
      .ok ⟨serviceID, subjectID.getD "", (index.map fun n => Go.int64 n.toNat).getD (-1)⟩ := by
  cases index with
  | none => cases subjectID <;> rfl
  | some n =>
    rw [Option.map_some', Option.getD_some]
    cases subjectID <;> rfl

theorem int64_toNat_eq_neg_one_iff (n : UInt64) :
    Go.int64 n.toNat = -1 ↔ n.toNat = 18446744073709551615 := by
  have bound : n.toNat < 18446744073709551616 := n.toNat_lt_size
  simp only [Go.int64]
  omega

theorem ofNat_toNat (n : UInt64) : UInt64.ofNat n.toNat = n :=
  UInt64.toNat.inj (Nat.mod_eq_of_lt n.toNat_lt_size)

/-- `uint64(int64(n)) = n`: the receiver reads every encoded instance back. -/
theorem instance_round_trip (n : UInt64) : uint64OfInt64 (Go.int64 n.toNat) = n := by
  have bound : n.toNat < 18446744073709551616 := n.toNat_lt_size
  have residue : (Go.int64 n.toNat % 18446744073709551616).toNat = n.toNat := by
    simp only [Go.int64]
    omega
  rw [uint64OfInt64, residue, ofNat_toNat]

/-- For every filter with a service ID, `InstanceFilterToPB` succeeds. Its subject is the
wildcard `""` exactly when the filter has no subject or the empty one, and its instance the
wildcard `-1` exactly when the filter has no instance or the largest `uint64`, whose `int64`
conversion is `-1`; `NewInstanceIdentFromPB` reads the service, every set subject and every set
instance back. -/
theorem instanceFilterToPB_round_trip (serviceID : String) (subjectID : Option String)
    (index : Option UInt64) :
    ∃ ident, instanceFilterToPB ⟨some serviceID, subjectID, index⟩ = .ok ident ∧
      (ident.subjectId = "" ↔ subjectID = none ∨ subjectID = some "") ∧
      (ident.«instance» = -1 ↔ index = none ∨ index = some 18446744073709551615) ∧
      (newInstanceIdentFromPB ident).serviceID = serviceID ∧
      (∀ subject, subjectID = some subject → (newInstanceIdentFromPB ident).subjectID = subject) ∧
      ∀ n, index = some n → (newInstanceIdentFromPB ident).«instance» = n := by
  refine ⟨_, instanceFilterToPB_ok serviceID subjectID index, ?_, ?_, rfl, ?_, fun n set => ?_⟩
  · cases subjectID <;> simp
  · cases index with
    | none => exact iff_of_true rfl (.inl rfl)
    | some n =>
      rw [Option.map_some', Option.getD_some, int64_toNat_eq_neg_one_iff]
      refine ⟨fun max => .inr (congrArg some (UInt64.toNat.inj max)), fun wildcard => ?_⟩
      obtain ⟨⟨⟩⟩ | ⟨⟨⟩⟩ := wildcard
      rfl
  · rintro subject rfl
    rfl
  · rw [set, newInstanceIdentFromPB, Option.map_some', Option.getD_some]
    exact instance_round_trip n

/-- A filter with a set instance `2^64 - 1` and one with a set empty subject are sent exactly as
the filter without them: the receiver reads both as wildcards. -/
theorem instanceFilterToPB_present_reads_as_wildcard :
    instanceFilterToPB ⟨some "service0", none, some 18446744073709551615⟩ =
        instanceFilterToPB ⟨some "service0", none, none⟩ ∧
      instanceFilterToPB ⟨some "service0", some "", none⟩ =
        instanceFilterToPB ⟨some "service0", none, none⟩ :=
  ⟨by rw [instanceFilterToPB_ok, instanceFilterToPB_ok]; rfl, rfl⟩

end AosServiceManager.Pbconvert
