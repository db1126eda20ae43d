import Mathlib.Data.Nat.Init
import Mathlib.Tactic.Common

/-! # Bit fields of a word

A word built by setting flags one after another, and what a mask reads back from it: its own flag,
whatever was set outside of it. -/

namespace Arithmetic.Fields

variable {w : ℕ} {word field mask other : BitVec w} {condition : Bool}

/-- The word with the bits of `mask` set when the condition holds. -/
def set (word : BitVec w) (condition : Bool) (mask : BitVec w) : BitVec w :=
  if condition then word ||| mask else word

/-- The word has a bit of the mask. -/
def has (word mask : BitVec w) : Bool := word &&& mask != 0

/-- The word with every flag set whose condition holds. -/
def setAll (word : BitVec w) : List (Bool × BitVec w) → BitVec w
  | [] => word
  | (condition, mask) :: rest => setAll (set word condition mask) rest

/-! ### One field -/

/-- A field outside a mask does not show through it. -/
theorem or_and_of_disjoint (h : field &&& other = 0) :
    (word ||| field) &&& other = word &&& other := by
  rw [BitVec.and_or_distrib_right, h]
  simp

/-- A masked field lies within its mask. -/
theorem masked_disjoint (field : BitVec w) (h : mask &&& other = 0) :
    (field &&& mask) &&& other = 0 := by
  rw [BitVec.and_assoc, h]
  simp

/-- A flag leaves the bits outside its mask alone. -/
theorem set_and_of_disjoint (h : mask &&& other = 0) :
    set word condition mask &&& other = word &&& other := by
  unfold set
  split
  · exact or_and_of_disjoint h
  · rfl

/-- A field, read through a mask that contains it, of a word that had it clear. -/
theorem set_and_self (hclear : word &&& mask = 0) (hfield : field &&& mask = field) :
    set word condition field &&& mask = if condition then field else 0 := by
  unfold set
  split
  · rw [BitVec.and_or_distrib_right, hclear, hfield]
    simp
  · exact hclear

/-- A flag reads back as the condition it was set under. -/
theorem has_of_and (hmask : mask ≠ 0) (h : word &&& mask = if condition then mask else 0) :
    has word mask = condition := by
  unfold has
  rw [h]
  cases condition with
  | true => simpa using hmask
  | false => simp

/-- A bit of a mask is in one of two joined words. -/
theorem has_or (a b : BitVec w) : has (a ||| b) mask = (has a mask || has b mask) := by
  unfold has
  rw [BitVec.and_or_distrib_right, Bool.eq_iff_iff, Bool.or_eq_true, bne_iff_ne, bne_iff_ne,
    bne_iff_ne, ← not_and_or, not_iff_not]
  exact BitVec.or_eq_zero_iff

/-- A word has a bit of two joined masks if it has one of either. -/
theorem has_mask_or (mask other : BitVec w) :
    has word (mask ||| other) = (has word mask || has word other) := by
  unfold has
  rw [BitVec.and_comm, BitVec.and_or_distrib_right, Bool.eq_iff_iff, Bool.or_eq_true, bne_iff_ne,
    bne_iff_ne, bne_iff_ne, ← not_and_or, not_iff_not, BitVec.and_comm mask,
    BitVec.and_comm other]
  exact BitVec.or_eq_zero_iff

/-- Clearing one mask leaves what a disjoint one reads. -/
theorem has_and_not (h : mask &&& other = 0) : has (word &&& ~~~other) mask = has word mask := by
  have hkeep : ~~~other &&& mask = mask := by
    ext i hi
    have hbit : (mask &&& other)[i] = false := by rw [h]; simp
    simp only [BitVec.getElem_and] at hbit
    simp only [BitVec.getElem_and, BitVec.getElem_not]
    cases hmask : mask[i] <;> simp_all
  unfold has
  rw [BitVec.and_assoc, hkeep]

/-- A cleared mask reads nothing. -/
theorem has_and_not_self : has (word &&& ~~~mask) mask = false := by
  unfold has
  rw [BitVec.and_assoc, BitVec.not_and_self]
  simp

/-- A one-bit mask reads its bit. -/
theorem has_bit (word : BitVec w) (i : ℕ) : has word (1#w <<< i) = word.getLsbD i := by
  unfold has
  rw [← BitVec.twoPow_eq, BitVec.and_twoPow]
  by_cases hbit : word.getLsbD i = true
  · have hi := BitVec.lt_of_getLsbD hbit
    have hne : BitVec.twoPow w i ≠ 0#w := fun hzero => by
      have hone := congrArg (fun b : BitVec w => b.getLsbD i) hzero
      simp [hi] at hone
    rw [if_pos hbit, hbit]
    exact bne_iff_ne.mpr hne
  · rw [Bool.not_eq_true] at hbit
    rw [if_neg (by simp [hbit]), hbit]
    exact bne_self_eq_false _

/-! ### All flags -/

variable {flags : List (Bool × BitVec w)}

/-- A bit of the built word is one of the first word or of a flag that is set. -/
theorem getLsbD_setAll (i : ℕ) : (setAll word flags).getLsbD i =
    (word.getLsbD i || flags.any fun flag => flag.1 && flag.2.getLsbD i) := by
  induction flags generalizing word with
  | nil => rw [setAll, List.any_nil, Bool.or_false]
  | cons flag rest ih =>
      have hset : (set word flag.1 flag.2).getLsbD i =
          (word.getLsbD i || flag.1 && flag.2.getLsbD i) := by
        unfold set
        cases flag.1 with
        | true => exact BitVec.getLsbD_or
        | false => simp
      rw [setAll, ih, hset, List.any_cons, Bool.or_assoc]

/-- Flags leave the bits outside their masks alone. -/
theorem setAll_and_of_disjoint (h : ∀ mask ∈ flags.map Prod.snd, mask &&& other = 0) :
    setAll word flags &&& other = word &&& other := by
  induction flags generalizing word with
  | nil => rfl
  | cons flag rest ih =>
      obtain ⟨condition, mask⟩ := flag
      rw [List.map_cons, List.forall_mem_cons] at h
      rw [setAll, ih h.2, set_and_of_disjoint h.1]

/-- A bit set before the flags is as if set behind them. -/
theorem setAll_or : setAll (word ||| field) flags = setAll word flags ||| field := by
  induction flags generalizing word with
  | nil => rfl
  | cons flag rest ih =>
      obtain ⟨condition, mask⟩ := flag
      have hset : set (word ||| field) condition mask = set word condition mask ||| field := by
        unfold set
        split
        · rw [BitVec.or_assoc, BitVec.or_comm field, ← BitVec.or_assoc]
        · rfl
      rw [setAll, setAll, hset, ih]

/-- Clearing a mask undoes setting it. -/
theorem or_and_not (h : word &&& mask = 0) : (word ||| mask) &&& ~~~mask = word := by
  ext i hi
  have hbit : (word &&& mask)[i] = false := by rw [h]; simp
  simp only [BitVec.getElem_and] at hbit
  simp only [BitVec.getElem_and, BitVec.getElem_or, BitVec.getElem_not]
  cases hword : word[i] <;> cases hmask : mask[i] <;> simp_all

/-- Among flags that do not overlap, each reads back as its condition. -/
theorem has_setAll (hmem : (condition, mask) ∈ flags)
    (hdisjoint : (flags.map Prod.snd).Pairwise fun a b => a &&& b = 0)
    (hclear : word &&& mask = 0) (hmask : mask ≠ 0) : has (setAll word flags) mask = condition := by
  refine has_of_and hmask ?_
  induction flags generalizing word with
  | nil => cases hmem
  | cons flag rest ih =>
      obtain ⟨first, firstMask⟩ := flag
      rw [List.map_cons, List.pairwise_cons] at hdisjoint
      rcases List.mem_cons.mp hmem with heq | hrest
      · obtain ⟨rfl, rfl⟩ := Prod.mk.inj heq
        rw [setAll, setAll_and_of_disjoint fun other hother => ?_]
        · exact set_and_self hclear (BitVec.and_self)
        · rw [BitVec.and_comm]
          exact hdisjoint.1 other hother
      · refine ih hrest hdisjoint.2 ?_
        rw [set_and_of_disjoint (hdisjoint.1 mask (List.mem_map_of_mem hrest))]
        exact hclear

end Arithmetic.Fields
