/-
Module: AosServiceManager.Launcher.Expiry
Layer: Proofs
Purpose: The expiry test of `cleanServicesDB` (launcher.go:1876-1924). A service that the current
  users do not have is removed when `StartAt.Add(time.Hour*24*time.Duration(TTL))` is before
  `now`. The TTL is a `uint64` number of days, converted to an `int64` `Duration` and multiplied
  in `int64` nanoseconds: up to 106751 days the product is exact, and from 106752 days it wraps,
  so a service started a moment ago counts as expired.
Imports: AosServiceManager.Launcher.Versions
Trusted boundary: none
Main exports: ttlDuration_exact_iff, ttlDuration_wraps,
  cleanServicesDB_removes_recent_service
-/
import AosServiceManager.Launcher.Versions

namespace AosServiceManager.Launcher

/-! ### The duration of a TTL -/

/-- The `int64` product is the exact number of nanoseconds of the TTL, `86400000000000` per day,
exactly up to 106751 days: beyond, the exact number passes `2^63 - 1`, which no `int64` does. -/
theorem ttlDuration_exact_iff (ttl : Nat) :
    ttlDuration ttl = 86400000000000 * ttl ↔ ttl ≤ 106751 := by
  simp only [ttlDuration, Go.int64]
  omega

/-- At 106752 days the product passes `2^63 - 1` and wraps to a negative duration. -/
theorem ttlDuration_wraps : ttlDuration 106752 = 86400000000000 * 106752 - 18446744073709551616 ∧
    ttlDuration 106752 < 0 := by
  simp only [ttlDuration, Go.int64]
  omega

/-! ### A recent service with a long TTL -/

/-- A service that the current users do not have, started one nanosecond before `now` with a
TTL of 106752 days, is passed to `removeService` and loses its record, though its start plus
the TTL in exact nanoseconds is far after `now`. -/
theorem cleanServicesDB_removes_recent_service :
    ¬((0 : Int) + 86400000000000 * 106752 < 1) ∧
      versionOf (cleanServicesDB (⟨some ["user1"],
        [⟨"service0", 1, .stateStopped, .statusOk, 0, 106752, []⟩], [],
        ResourceManager.new [] [] [], [], [], 1⟩, [])).2.1 "service0" = none := by
  refine ⟨by decide, ?_⟩
  have selected : ([⟨"service0", 1, .stateStopped, .statusOk, 0, 106752, []⟩] : List Service).filter
      (fun service => !(([] : List Service).any (·.id = service.id)) && expired 1 service) =
      [⟨"service0", 1, .stateStopped, .statusOk, 0, 106752, []⟩] := by
    rw [List.filter_cons_of_pos (by rw [expired, ttlDuration_wraps.1]; decide), List.filter_nil]
  simp only [cleanServicesDB, bind_apply, read, id, ServiceProvider.getUsersServices,
    List.filter_cons, List.mem_nil_iff, decide_False, Bool.false_eq_true, if_false,
    List.filter_nil, selected, forEachService, pure_apply]
  exact removeService_removes _ _

end AosServiceManager.Launcher
