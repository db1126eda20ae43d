import Mathlib.Algebra.Group.Nat.Defs
import Mathlib.Tactic.Common

/-! # Saturating counters

A counter of `w` bits that stays at its largest value counts exactly up to there and then says "at
least this many". `Counts value n` is that relation between the counter and the true number. -/

namespace Interaction.Counter

variable {w : ℕ} {value : BitVec w} {n : ℕ}

/-- The counter shows `n`, or the largest value it can when `n` is larger. -/
def Counts (value : BitVec w) (n : ℕ) : Prop := value.toNat = min n (2 ^ w - 1)

/-- A cleared counter has counted nothing. -/
theorem counts_zero : Counts (0 : BitVec w) 0 := by
  simp [Counts]

/-- Counting one more: the counter goes on, or stays where it is. -/
theorem Counts.increment (h : Counts value n) :
    Counts (if value < BitVec.allOnes w then value + 1 else value) (n + 1) := by
  have hlimit : (BitVec.allOnes w).toNat = 2 ^ w - 1 := BitVec.toNat_allOnes
  unfold Counts at h ⊢
  by_cases hlt : value < BitVec.allOnes w
  · have hnat := BitVec.lt_def.mp hlt
    have hone : (value + 1).toNat = value.toNat + 1 := by
      have hstep : (1 : BitVec w).toNat = 1 % 2 ^ w := rfl
      rw [BitVec.toNat_add, hstep]
      have hw : w ≠ 0 := by
        rintro rfl
        rw [hlimit] at hnat
        exact absurd hnat (Nat.not_lt_zero _)
      rw [Nat.mod_eq_of_lt (Nat.one_lt_two_pow hw), Nat.mod_eq_of_lt (by omega)]
    rw [if_pos hlt, hone]
    omega
  · have hnat := BitVec.le_def.mp (BitVec.not_lt.mp hlt)
    rw [if_neg hlt]
    omega

/-- Up to its largest value a counter is exact. -/
theorem Counts.exact (h : Counts value n) (hn : n < 2 ^ w) : value.toNat = n := by
  unfold Counts at h
  omega

end Interaction.Counter
