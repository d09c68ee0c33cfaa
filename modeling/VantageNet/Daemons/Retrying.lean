import VantageNet.Interaction.Words
import Mathlib.Data.List.Range
import Mathlib.Data.List.Infix

/-!
The loop of `register_with_server` in `daemon/runtime/service.rs`: a registration whose key is not active yet is tried
again and again.
-/

namespace VantageNet.Daemons

open Interaction

def contains (text part : String) : Bool := decide (part.toList <:+: text.toList)

/-- How long the loop waits after an attempt, in seconds. -/
def retrySecs (profile : Profile) (attempt : ℤ) (heartbeatInterval : UInt64) : Option ℕ :=
  if attempt = 1 then some 10
  else do
    let exponent ← checkedI32 profile (attempt - 2)
    let backoff ← shiftOne profile exponent
    return min backoff heartbeatInterval.toNat

inductive RegistrationState where
  | registered
  | failed
  | panicked
  | retrying
  deriving DecidableEq

/-- The delays so far, and how the loop stands. -/
@[ext]
structure Registration where
  delays : List ℕ
  state : RegistrationState
  deriving DecidableEq

section delays

variable {profile : Profile} {heartbeatInterval : UInt64}

/-- The delay after rejection `n`. -/
def delayAfter (profile : Profile) (heartbeatInterval : UInt64) (n : ℕ) : Option ℕ :=
  (checkedI32 profile n).bind (fun attempt => retrySecs profile attempt heartbeatInterval)

/-- The delays, counted from the one that follows attempt `n`. -/
def delaysFrom (profile : Profile) (heartbeatInterval : UInt64) (n count : ℕ) : List (Option ℕ) :=
  (List.range' (n + 1) count).map (delayAfter profile heartbeatInterval)

/-- The delay after rejection `n` as it should be. -/
def backoff (heartbeatInterval : UInt64) (n : ℕ) : ℕ := if n = 1 then 10 else min (2 ^ (n - 2)) heartbeatInterval.toNat

theorem length_delaysFrom (n count : ℕ) : (delaysFrom profile heartbeatInterval n count).length = count := by
  rw [delaysFrom, List.length_map, List.length_range']

end delays

end VantageNet.Daemons
