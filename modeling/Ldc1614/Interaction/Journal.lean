import Mathlib.Data.List.Basic
import Mathlib.Order.Basic

/-! # Journals

A journal records the versions of something under strictly increasing keys; its newest entry is the
current version. A key names at most one version. -/

namespace Interaction

universe u v

variable {K : Type u} {V : Type v} [PartialOrder K] {entries : List (K × V)} {current next : K × V}

/-- The keys increase, and `current` is the newest entry. -/
structure Journal (entries : List (K × V)) (current : K × V) : Prop where
  sorted : entries.Pairwise fun a b => a.1 < b.1
  largest : ∀ entry ∈ entries, entry.1 ≤ current.1
  mem : current ∈ entries

/-- A journal of one version. -/
theorem Journal.single (current : K × V) : Journal [current] current where
  sorted := List.pairwise_singleton _ _
  largest entry hentry := by
    rw [List.mem_singleton.mp hentry]
  mem := List.mem_singleton_self _

/-- A version under a larger key extends the journal. -/
theorem Journal.push (h : Journal entries current) (hlt : current.1 < next.1) :
    Journal (entries ++ [next]) next where
  sorted := by
    refine List.pairwise_append.mpr ⟨h.sorted, List.pairwise_singleton _ _, ?_⟩
    intro entry hentry last hlast
    rw [List.mem_singleton.mp hlast]
    exact lt_of_le_of_lt (h.largest entry hentry) hlt
  largest entry hentry := by
    rcases List.mem_append.mp hentry with hold | hnew
    · exact le_of_lt (lt_of_le_of_lt (h.largest entry hold) hlt)
    · rw [List.mem_singleton.mp hnew]
  mem := List.mem_append_right _ (List.mem_singleton_self _)

/-- A key names its version: no other entry carries it. -/
theorem filter_key [DecidableEq K] (h : entries.Pairwise fun a b => a.1 < b.1)
    (hmem : current ∈ entries) : entries.filter (fun e => decide (e.1 = current.1)) = [current] := by
  induction entries with
  | nil => cases hmem
  | cons first rest ih =>
      obtain ⟨hfirst, hrest⟩ := List.pairwise_cons.mp h
      rcases List.mem_cons.mp hmem with rfl | hmem
      · have hnone : rest.filter (fun e => decide (e.1 = current.1)) = [] := by
          refine List.filter_eq_nil_iff.mpr fun e he => ?_
          rw [decide_eq_true_eq]
          exact (ne_of_lt (hfirst e he)).symm
        rw [List.filter_cons, if_pos (decide_eq_true rfl), hnone]
      · have hne : ¬ first.1 = current.1 := ne_of_lt (hfirst current hmem)
        rw [List.filter_cons, if_neg (by rw [decide_eq_true_eq]; exact hne)]
        exact ih hrest hmem

end Interaction
