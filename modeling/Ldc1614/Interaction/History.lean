import Mathlib.Data.List.Basic
import Mathlib.Data.List.Induction
import Mathlib.Tactic.Common

/-! # Statements about the past

A history is a list with the oldest entry first. `Since p q history` is the past-time operator
"`p` happened, and `q` has not happened since"; the predicate `p` may look at what came before the
entry it is asked about, so that the operator nests. -/

namespace Interaction

universe u

variable {ι : Type u} {p p' : List ι → ι → Prop} {q : ι → Prop} {history : List ι} {entry : ι}

/-- Some entry satisfies `p` together with its own past, and no later entry satisfies `q`. -/
def Since (p : List ι → ι → Prop) (q : ι → Prop) (history : List ι) : Prop :=
  ∃ before entry after, history = before ++ entry :: after ∧ p before entry ∧
    ∀ later ∈ after, ¬ q later

/-- Nothing has happened in the empty history. -/
@[simp] theorem not_since_nil : ¬ Since p q ([] : List ι) := by
  rintro ⟨before, entry, after, h, -, -⟩
  simp at h

/-- One more entry: it satisfies `p` itself, or `p` happened before and the entry is not a `q`. -/
theorem since_snoc :
    Since p q (history ++ [entry]) ↔ p history entry ∨ (Since p q history ∧ ¬ q entry) := by
  constructor
  · rintro ⟨before, found, after, h, hp, hq⟩
    rcases List.eq_nil_or_concat' after with rfl | ⟨front, last, rfl⟩
    · obtain ⟨rfl, h⟩ := List.append_inj' h rfl
      obtain rfl : entry = found := by simpa using h
      exact Or.inl hp
    · rw [← List.cons_append, ← List.append_assoc] at h
      obtain ⟨rfl, h⟩ := List.append_inj' h rfl
      obtain rfl : entry = last := by simpa using h
      exact Or.inr ⟨⟨before, found, front, rfl, hp, fun later hl => hq later (by simp [hl])⟩,
        hq entry (by simp)⟩
  · rintro (hp | ⟨⟨before, found, after, rfl, hp, hq⟩, hne⟩)
    · exact ⟨history, entry, [], rfl, hp, by simp⟩
    · refine ⟨before, found, after ++ [entry], by simp, hp, fun later hl => ?_⟩
      rcases List.mem_append.mp hl with hl | hl
      · exact hq later hl
      · exact List.mem_singleton.mp hl ▸ hne

/-- An entry that is not a `q` keeps what has happened since. -/
theorem Since.snoc (h : Since p q history) (hne : ¬ q entry) : Since p q (history ++ [entry]) :=
  since_snoc.mpr (Or.inr ⟨h, hne⟩)

/-- The newest entry counts. -/
theorem Since.now (h : p history entry) : Since p q (history ++ [entry]) :=
  since_snoc.mpr (Or.inl h)

/-- What does not hold of every entry fails at a first one. -/
theorem exists_first {p : ι → Prop} (h : ¬ ∀ entry ∈ history, p entry) :
    ∃ before entry after, history = before ++ entry :: after ∧ (∀ earlier ∈ before, p earlier) ∧
      ¬ p entry := by
  induction history with
  | nil => exact absurd (fun _ hmem => absurd hmem List.not_mem_nil) h
  | cons first rest ih =>
      by_cases hfirst : p first
      · have hrest : ¬ ∀ entry ∈ rest, p entry := fun hall =>
          h fun entry hmem => (List.mem_cons.mp hmem).elim (fun heq => heq ▸ hfirst) (hall entry)
        obtain ⟨before, entry, after, rfl, hbefore, hentry⟩ := ih hrest
        refine ⟨first :: before, entry, after, rfl, fun earlier hmem => ?_, hentry⟩
        rcases List.mem_cons.mp hmem with rfl | hmem
        · exact hfirst
        · exact hbefore earlier hmem
      · exact ⟨[], first, rest, rfl, by simp, hfirst⟩

/-- What happened before a `q` no longer counts, and what happened behind the last one does. -/
theorem since_behind {p : ι → Prop} {more : List ι} (hreset : q entry) (hnot : ¬ p entry)
    (hkept : ∀ later ∈ more, ¬ q later) :
    Since (fun _ => p) q (history ++ entry :: more) ↔ ∃ later ∈ more, p later := by
  induction more using List.reverseRecOn with
  | nil => simp [since_snoc, hreset, hnot]
  | append_singleton more last ih =>
      have ih := ih fun later hlater => hkept later (List.mem_append_left _ hlater)
      have hlast : ¬ q last := hkept last (by simp)
      rw [← List.cons_append, ← List.append_assoc, since_snoc, ih, and_iff_left hlast]
      constructor
      · rintro (h | ⟨later, hmem, h⟩)
        · exact ⟨last, by simp, h⟩
        · exact ⟨later, List.mem_append_left _ hmem, h⟩
      · rintro ⟨later, hmem, h⟩
        rcases List.mem_append.mp hmem with hmem | hmem
        · exact Or.inr ⟨later, hmem, h⟩
        · exact Or.inl (List.mem_singleton.mp hmem ▸ h)

end Interaction
