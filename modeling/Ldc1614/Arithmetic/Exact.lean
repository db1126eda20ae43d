import Mathlib.Algebra.Group.Nat.Defs
import Mathlib.Tactic.Common

/-! # Exact arithmetic

Unsigned arithmetic over the unbounded integers that gives no result where a fixed-width operation
would give a different one: a sum, a product or a shift that needs more than `w` bits, a difference
below zero, a division by zero, a mask that drops bits. A computation that is carried out in these
operations and ends in `some` value never left the range of its types, and each rule below says when
one step of it is the fixed-width step. -/

namespace Arithmetic.Exact

/-! ### Operations -/

/-- The sum, if it fits in `w` bits. -/
def add (w a b : ℕ) : Option ℕ := if a + b < 2 ^ w then some (a + b) else none

/-- The difference, if it is not negative. -/
def sub (a b : ℕ) : Option ℕ := if b ≤ a then some (a - b) else none

/-- The product, if it fits in `w` bits. -/
def mul (w a b : ℕ) : Option ℕ := if a * b < 2 ^ w then some (a * b) else none

/-- The quotient, if the divisor is not zero. -/
def div (a b : ℕ) : Option ℕ := if b = 0 then none else some (a / b)

/-- The shifted value, if it fits in `w` bits. -/
def shiftLeft (w a n : ℕ) : Option ℕ := if a * 2 ^ n < 2 ^ w then some (a * 2 ^ n) else none

/-- The value itself, if all its bits are in the mask. -/
def keep (a mask : ℕ) : Option ℕ := if a &&& mask = a then some a else none

/-! ### One step -/

section Step

variable {w n : ℕ} {a b : BitVec w}

/-- The sum of two words is exact when it does not carry out. -/
theorem add_toNat (h : a.toNat + b.toNat < 2 ^ w) : add w a.toNat b.toNat = some (a + b).toNat := by
  rw [add, if_pos h, BitVec.toNat_add, Nat.mod_eq_of_lt h]

/-- The difference of two words is exact when it does not borrow. -/
theorem sub_toNat (h : b.toNat ≤ a.toNat) : sub a.toNat b.toNat = some (a - b).toNat := by
  rw [sub, if_pos h, BitVec.toNat_sub_of_le (BitVec.le_def.mpr h)]

/-- The product of two words is exact when it fits. -/
theorem mul_toNat (h : a.toNat * b.toNat < 2 ^ w) : mul w a.toNat b.toNat = some (a * b).toNat := by
  rw [mul, if_pos h, BitVec.toNat_mul, Nat.mod_eq_of_lt h]

/-- The quotient of two words is exact when the divisor is not zero. -/
theorem div_toNat (h : b ≠ 0) : div a.toNat b.toNat = some (a / b).toNat := by
  have hb : b.toNat ≠ 0 := fun hzero => h (BitVec.eq_of_toNat_eq (by simpa using hzero))
  rw [div, if_neg hb, BitVec.toNat_udiv]

/-- A shift of a word is exact when no bit falls out. -/
theorem shiftLeft_toNat (h : a.toNat * 2 ^ n < 2 ^ w) :
    shiftLeft w a.toNat n = some (a <<< n).toNat := by
  rw [shiftLeft, if_pos h, BitVec.toNat_shiftLeft, Nat.shiftLeft_eq, Nat.mod_eq_of_lt h]

/-- Masking a word is exact when the mask drops no bit of it. -/
theorem keep_toNat (h : a &&& b = a) : keep a.toNat b.toNat = some (a &&& b).toNat := by
  have hnat : a.toNat &&& b.toNat = a.toNat := by rw [← BitVec.toNat_and, h]
  rw [keep, if_pos hnat, h]

/-- A product of bounded factors is exact, and bounded by the product of the bounds. -/
theorem mul_of_le {A B : ℕ} (ha : a.toNat ≤ A) (hb : b.toNat ≤ B) (h : A * B < 2 ^ w) :
    mul w a.toNat b.toNat = some (a * b).toNat ∧ (a * b).toNat ≤ A * B := by
  have hle : a.toNat * b.toNat ≤ A * B := Nat.mul_le_mul ha hb
  have hlt : a.toNat * b.toNat < 2 ^ w := Nat.lt_of_le_of_lt hle h
  exact ⟨mul_toNat hlt, by rw [BitVec.toNat_mul_of_lt hlt]; exact hle⟩

/-- A sum of bounded terms is exact, and bounded by the sum of the bounds. -/
theorem add_of_le {A B : ℕ} (ha : a.toNat ≤ A) (hb : b.toNat ≤ B) (h : A + B < 2 ^ w) :
    add w a.toNat b.toNat = some (a + b).toNat ∧ (a + b).toNat ≤ A + B := by
  have hle : a.toNat + b.toNat ≤ A + B := Nat.add_le_add ha hb
  have hlt : a.toNat + b.toNat < 2 ^ w := Nat.lt_of_le_of_lt hle h
  exact ⟨add_toNat hlt, by rw [BitVec.toNat_add_of_lt hlt]; exact hle⟩

end Step

/-! ### Values -/

section Value

variable {w a b c : ℕ}

/-- An exact sum is the sum. -/
theorem value_add (h : add w a b = some c) : c = a + b := by
  unfold add at h
  split at h
  · exact (Option.some.inj h).symm
  · cases h

/-- An exact difference is the difference. -/
theorem value_sub (h : sub a b = some c) : c = a - b := by
  unfold sub at h
  split at h
  · exact (Option.some.inj h).symm
  · cases h

/-- An exact product is the product. -/
theorem value_mul (h : mul w a b = some c) : c = a * b := by
  unfold mul at h
  split at h
  · exact (Option.some.inj h).symm
  · cases h

/-- An exact quotient is the quotient. -/
theorem value_div (h : div a b = some c) : c = a / b := by
  unfold div at h
  split at h
  · cases h
  · exact (Option.some.inj h).symm

end Value

/-! ### Control flow -/

section Flow

variable {α β : Type}

/-- A computation goes on with the value of its first step. -/
theorem bind_eq_some {x : Option α} {a : α} {f : α → Option β} {b : β} (hx : x = some a)
    (hf : f a = some b) : (x >>= f) = some b := by
  rw [hx]
  exact hf

/-- A branch is taken as the fixed-width code takes it. -/
theorem ite_eq_some {c c' : Prop} [Decidable c] [Decidable c'] {x y : Option α} {a b : α}
    (hc : c ↔ c') (ht : c' → x = some a) (he : ¬ c' → y = some b) :
    (if c then x else y) = some (if c' then a else b) := by
  by_cases h : c'
  · rw [if_pos (hc.mpr h), if_pos h, ht h]
  · rw [if_neg fun hc' => h (hc.mp hc'), if_neg h, he h]

end Flow

end Arithmetic.Exact
