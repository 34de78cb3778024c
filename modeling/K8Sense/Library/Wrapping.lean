import Mathlib.Algebra.Ring.Int.Defs
import Mathlib.Algebra.Ring.Nat

/-! Arithmetic on signed 64-bit integers, which wraps around. -/

namespace K8Sense.Wrapping

/-- What a 64-bit integer keeps of a number. -/
def wrap (value : Int) : Int := value.bmod (2 ^ 64)

theorem wrap_range (value : Int) : -2 ^ 63 ≤ wrap value ∧ wrap value < 2 ^ 63 := by
  unfold wrap
  rw [Int.bmod_def]
  split <;> omega

theorem wrap_eq_iff {value : Int} : wrap value = value ↔ -2 ^ 63 ≤ value ∧ value < 2 ^ 63 := by
  constructor
  · intro same
    have range := wrap_range value
    rwa [same] at range
  · intro ⟨low, high⟩
    unfold wrap
    apply Int.bmod_eq_of_le_mul_two <;> omega

theorem wrap_even (value : Int) : wrap (2 * value) % 2 = 0 := by
  unfold wrap
  rw [Int.bmod_def]
  split <;> omega

end K8Sense.Wrapping
