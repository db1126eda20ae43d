import Mathlib.Algebra.Order.Floor.Semifield

/-! # Rounding

Integer division rounded up against the exact quotient of an ordered field. -/

namespace Arithmetic.Rounding

section Quotient

variable {a b limit : ℕ}

/-- A quotient rounded up stays within a limit exactly if the numerator fits under it. -/
theorem ceil_le_iff (hb : 0 < b) : (a + b - 1) / b ≤ limit ↔ a ≤ limit * b := by
  rw [← Nat.lt_succ_iff, Nat.div_lt_iff_lt_mul hb, Nat.succ_mul]
  omega

variable {K : Type*} [Field K] [LinearOrder K] [IsStrictOrderedRing K]

/-- The ceiling of a quotient is the quotient rounded up. -/
theorem ceil_div [FloorSemiring K] (hb : 0 < b) : ⌈(a : K) / b⌉₊ = (a + b - 1) / b := by
  have hpos : (0 : K) < b := Nat.cast_pos.mpr hb
  refine eq_of_forall_ge_iff fun limit => ?_
  rw [Nat.ceil_le, div_le_iff₀ hpos, ceil_le_iff hb]
  exact_mod_cast Iff.rfl

end Quotient

end Arithmetic.Rounding
