import Mathlib.Data.Int.Init
import Mathlib.Algebra.Order.Ring.Int

/-!
Integers of 32 and 64 bits, as values of `ℤ` and `ℕ`. What an operation does whose result has no place
depends on how the program was built.
-/

namespace VantageNet.Interaction

/-- `dev` looks at overflows and panics, `release` does not. -/
inductive Profile where
  | dev
  | release
  deriving DecidableEq

/-- `n as i32`. -/
def asI32 (n : ℤ) : ℤ := (n + 0x80000000) % 0x100000000 - 0x80000000

theorem asI32_of_bounds {n : ℤ} (hlow : -2 ^ 31 ≤ n) (hhigh : n < 2 ^ 31) : asI32 n = n := by
  unfold asI32
  omega

theorem asI32_bounds (n : ℤ) : -2 ^ 31 ≤ asI32 n ∧ asI32 n < 2 ^ 31 := by
  unfold asI32
  omega

/-- An `i32` that was computed: `n` is its value where it has one. -/
def checkedI32 : Profile → ℤ → Option ℤ
  | .dev, n => if asI32 n = n then some n else none
  | .release, n => some (asI32 n)

/-- `1u64 << s`. -/
def shiftOne : Profile → ℤ → Option ℕ
  | .dev, s => if 0 ≤ s ∧ s < 64 then some (2 ^ s.toNat) else none
  | .release, s => some (2 ^ (s % 64).toNat)

end VantageNet.Interaction
