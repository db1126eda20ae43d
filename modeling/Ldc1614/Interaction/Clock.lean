import Mathlib.Data.BitVec
import Mathlib.Tactic.Common

/-! # Clocks that wrap

A clock of natural time that is read modulo `2 ^ w`. Two readings less than half the range apart are
compared correctly by the wrapped difference, and the wrapped difference of a later and an earlier
reading is the time between them. -/

namespace Interaction.Clock

variable {w now deadline : ℕ}

/-- The wrapped difference of two readings less than the range apart is the time between them. -/
theorem toNat_sub_of_le (h : now ≤ deadline) (hrange : deadline - now < 2 ^ w) :
    (BitVec.ofNat w deadline - BitVec.ofNat w now).toNat = deadline - now := by
  have heq : BitVec.ofNat w deadline - BitVec.ofNat w now = BitVec.ofNat w (deadline - now) := by
    rw [BitVec.sub_eq_iff_eq_add, ← BitVec.ofNat_add, Nat.sub_add_cancel h]
  rw [heq, BitVec.toNat_ofNat, Nat.mod_eq_of_lt hrange]

/-- The wrapped difference of an earlier and a later reading is near the top of the range. -/
theorem toNat_sub_of_lt (h : now < deadline) (hrange : deadline - now < 2 ^ w) :
    (BitVec.ofNat w now - BitVec.ofNat w deadline).toNat = 2 ^ w - (deadline - now) := by
  have hrange' : BitVec.ofNat w (2 ^ w) = 0#w := BitVec.eq_of_toNat_eq (by
    rw [BitVec.toNat_ofNat, Nat.mod_self, BitVec.toNat_ofNat, Nat.zero_mod])
  have heq : BitVec.ofNat w now - BitVec.ofNat w deadline =
      BitVec.ofNat w (2 ^ w - (deadline - now)) := by
    rw [BitVec.sub_eq_iff_eq_add, ← BitVec.ofNat_add,
      show 2 ^ w - (deadline - now) + deadline = now + 2 ^ w by omega, BitVec.ofNat_add, hrange',
      BitVec.add_zero]
  rw [heq, BitVec.toNat_ofNat, Nat.mod_eq_of_lt (by omega)]

/-- **Wrap-safe comparison.** Two readings less than half the range apart are in order exactly when
their wrapped difference is in the lower half. -/
theorem sub_lt_half (hw : 0 < w) (hearly : deadline < now + 2 ^ (w - 1))
    (hlate : now < deadline + 2 ^ (w - 1)) :
    (BitVec.ofNat w now - BitVec.ofNat w deadline).toNat < 2 ^ (w - 1) ↔ deadline ≤ now := by
  have hhalf : 2 ^ w = 2 * 2 ^ (w - 1) := by
    rw [← Nat.pow_succ', Nat.succ_eq_add_one, Nat.sub_add_cancel hw]
  rcases Nat.lt_or_ge now deadline with hlt | hge
  · rw [toNat_sub_of_lt hlt (by omega)]
    omega
  · rw [toNat_sub_of_le hge (by omega)]
    omega

end Interaction.Clock
