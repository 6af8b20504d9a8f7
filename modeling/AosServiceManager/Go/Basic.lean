/-
Module: AosServiceManager.Go.Basic
Layer: Core
Purpose: The Go run-time behaviour the service manager's code relies on: error results (`nil` or
  a message), run-time panics, the `strings.Contains` test that the resource manager uses for
  every name and membership comparison, and the wrap-around of `int64` arithmetic.
Imports: Mathlib.Data.Nat.Defs
Trusted boundary: the Go standard library, taken at its documented behaviour.
Main exports: GoError, GoOutcome, Go.stringsContains, Go.stringsContains_iff, Go.int64
-/
import Mathlib.Data.Nat.Defs

namespace AosServiceManager

/-- A Go `error` result: `none` is `nil`, `some msg` an error whose `Error()` text is `msg`. -/
abbrev GoError := Option String

/-- How a Go call that may panic ends: with a value, with a returned error, or with a run-time
panic carrying the runtime's message. -/
inductive GoOutcome (α : Type) where
  | ok (value : α)
  | error (msg : String)
  | panic (msg : String)
deriving Repr, DecidableEq

/-- Continue with the value of a Go call that neither failed nor panicked. -/
def GoOutcome.andThen {α β : Type} : GoOutcome α → (α → GoOutcome β) → GoOutcome β
  | .ok value, next => next value
  | .error msg, _ => .error msg
  | .panic msg, _ => .panic msg

namespace Go

/-- The scan behind `strings.Contains` on the characters of a string: `substr` is a prefix of the
text at some position. -/
def containsChars : List Char → List Char → Bool
  | [], substr => substr.isEmpty
  | c :: rest, substr => substr.isPrefixOf (c :: rest) || containsChars rest substr

/-- `strings.Contains(s, substr)`. -/
def stringsContains (s substr : String) : Bool :=
  containsChars s.data substr.data

theorem containsChars_iff (s substr : List Char) :
    containsChars s substr = true ↔ substr <:+: s := by
  induction s with
  | nil => simp [containsChars, List.isEmpty_iff]
  | cons c rest ih => simp [containsChars, ih, List.infix_cons_iff]

/-- `strings.Contains(s, substr)` holds exactly when `substr` is a contiguous run of `s`. -/
theorem stringsContains_iff (s substr : String) :
    stringsContains s substr = true ↔ substr.data <:+: s.data :=
  containsChars_iff _ _

@[simp] theorem stringsContains_self (s : String) : stringsContains s s = true :=
  (stringsContains_iff s s).2 (List.infix_refl _)

/-- The `int64` that a Go conversion or product yields for the integer `x`: two's complement
wrap-around, `(x + 2^63) mod 2^64 - 2^63`. -/
def int64 (x : Int) : Int :=
  (x + 9223372036854775808) % 18446744073709551616 - 9223372036854775808

end Go

end AosServiceManager
