import Mathlib.Data.List.Range
import Mathlib.Data.Nat.ModEq
import Mathlib.Tactic.Common

/-! # Ring buffers refine queues

A ring buffer stores `count` elements of a fixed vector of slots from index `head` on, wrapping at
the end. `Ring.toList` reads it as a queue, oldest element first; writing the slot behind the last
element appends to that queue, and moving the head on removes its first element. -/

namespace Interaction.Ring

universe u

variable {α : Type u} {capacity : ℕ}

/-- The slot `offset` places behind `head`. -/
def slot (capacity head offset : ℕ) : ℕ := (head + offset) % capacity

/-- Every slot is one of the vector. -/
theorem slot_lt (h : 0 < capacity) (head offset : ℕ) : slot capacity head offset < capacity :=
  Nat.mod_lt _ h

/-- The queue a ring buffer holds, oldest element first. -/
def toList (slots : Vector α capacity) (head count : ℕ) : List α :=
  if h : 0 < capacity then
    (List.range count).map fun offset => slots.get ⟨slot capacity head offset, slot_lt h head offset⟩
  else []

/-- A ring of no elements is the empty queue. -/
@[simp] theorem toList_zero (slots : Vector α capacity) (head : ℕ) :
    toList slots head 0 = [] := by
  simp [toList]

/-- The queue has as many elements as the ring. -/
theorem length_toList (h : 0 < capacity) (slots : Vector α capacity) (head count : ℕ) :
    (toList slots head count).length = count := by
  simp [toList, h]

/-- Fewer than `capacity` places behind the head, two different offsets name different slots. -/
theorem slot_injective {head i j : ℕ} (hi : i < capacity) (hj : j < capacity)
    (h : slot capacity head i = slot capacity head j) : i = j := by
  have hmod : i ≡ j [MOD capacity] := Nat.ModEq.add_left_cancel' head h
  rwa [Nat.ModEq, Nat.mod_eq_of_lt hi, Nat.mod_eq_of_lt hj] at hmod

/-- **Push.** Storing behind the last element of a ring that is not full appends to its queue. -/
theorem toList_push (slots : Vector α capacity) (head : ℕ) {count : ℕ} (h : count < capacity)
    (a : α) :
    toList (slots.set (slot capacity head count) a (slot_lt (by omega) head count)) head (count + 1)
      = toList slots head count ++ [a] := by
  have hpos : 0 < capacity := by omega
  rw [toList, toList, dif_pos hpos, dif_pos hpos, List.range_succ, List.map_append]
  congr 1
  · refine List.map_congr_left fun offset hoff => ?_
    have hoff : offset < count := List.mem_range.mp hoff
    have hne : slot capacity head count ≠ slot capacity head offset := fun heq =>
      absurd (slot_injective h (by omega) heq) (by omega)
    exact Vector.getElem_set_ne _ _ hne
  · rw [List.map_singleton]
    exact congrArg (fun b => [b]) (Vector.getElem_set_self _)

/-- Moving the head on by one is moving every offset on by one. -/
theorem slot_succ (head offset : ℕ) :
    slot capacity ((head + 1) % capacity) offset = slot capacity head (offset + 1) := by
  rw [slot, slot, Nat.mod_add_mod, Nat.add_right_comm, Nat.add_assoc]

/-- **Pop.** Clearing the head slot and moving the head on removes the first element. -/
theorem toList_pop (slots : Vector α capacity) {head count : ℕ} (hhead : head < capacity)
    (hpos : 0 < count) (hle : count ≤ capacity) (blank : α) :
    toList slots head count
      = slots[head] :: toList (slots.set head blank) ((head + 1) % capacity) (count - 1) := by
  obtain ⟨n, rfl⟩ := Nat.exists_eq_succ_of_ne_zero hpos.ne'
  have hcap : 0 < capacity := by omega
  have hslot : slot capacity head 0 = head := by simp [slot, Nat.mod_eq_of_lt hhead]
  rw [toList, toList, dif_pos hcap, dif_pos hcap, List.range_succ_eq_map, List.map_cons,
    List.map_map, Nat.succ_sub_one]
  congr 1
  · simp only [hslot]
    rfl
  · refine List.map_congr_left fun offset hoff => ?_
    have hoff : offset < n := List.mem_range.mp hoff
    have hne : head ≠ slot capacity head (offset + 1) := fun heq =>
      absurd (slot_injective hcap (by omega) (hslot.trans heq)) (by omega)
    simp only [Function.comp_apply, slot_succ]
    exact (Vector.getElem_set_ne _ _ hne).symm

end Interaction.Ring
