import MarkupCompiler.Interval.Combine
import MarkupCompiler.Proofs.Interval.Sorted
import Mathlib.Data.List.Induction

/-!
# Ranges of intervals

Clamping leaves ranges that lie within the text and are not empty. Coalescing keeps exactly the
ranges that occur, each once.
-/

namespace MarkupCompiler.StyleInterval

def range (i : StyleInterval) : Int × Int := (i.start, i.stop)

theorem fits_of_mem_clampAll {length : Int} {is : List StyleInterval} {i : StyleInterval}
    (h : i ∈ clampAll length is) : i.Fits length := by
  obtain ⟨hmem, hempty⟩ := List.mem_filter.mp h
  obtain ⟨j, -, rfl⟩ := List.mem_map.mp hmem
  have hne : ¬ (j.clamped length).stop ≤ (j.clamped length).start := by
    simpa [isEmpty] using hempty
  simp only [clamped] at hne
  constructor <;> simp only [clamped] <;> omega

/-- A new range is put at the end; one that is there already stays where it is. -/
theorem map_range_absorb (i : StyleInterval) (is : List StyleInterval) :
    (absorb i is).map range =
      if i.range ∈ is.map range then is.map range else is.map range ++ [i.range] := by
  induction is with
  | nil => rfl
  | cons j is ih =>
    have hsame : (j.start == i.start && j.stop == i.stop) = true ↔ i.range = j.range := by
      rw [Bool.and_eq_true, beq_iff_eq, beq_iff_eq, range, range, Prod.mk.injEq]
      exact and_congr eq_comm eq_comm
    rw [absorb]
    by_cases hrange : i.range = j.range
    · rw [if_pos (hsame.mpr hrange), List.map_cons, List.map_cons, if_pos (by simp [hrange])]
      rfl
    · rw [if_neg (mt hsame.mp hrange), List.map_cons, List.map_cons, ih]
      by_cases hmem : i.range ∈ is.map range
      · rw [if_pos hmem, if_pos (List.mem_cons_of_mem _ hmem)]
      · rw [if_neg hmem, if_neg (by simpa [hrange] using hmem), List.cons_append]

/-- Coalescing keeps the ranges that occur, and leaves each of them once. -/
theorem ranges_coalesce (is : List StyleInterval) :
    ((coalesce is).map range).Nodup ∧
      ∀ a, a ∈ (coalesce is).map range ↔ a ∈ is.map range := by
  induction is using List.reverseRecOn with
  | nil => simp [coalesce]
  | append_singleton is i ih =>
    obtain ⟨hnodup, hmem⟩ := ih
    have hstep : coalesce (is ++ [i]) = absorb i (coalesce is) := by
      simp [coalesce, List.foldl_append]
    rw [hstep, map_range_absorb]
    by_cases hold : i.range ∈ (coalesce is).map range
    · rw [if_pos hold]
      refine ⟨hnodup, fun a => ?_⟩
      have hi := (hmem _).mp hold
      rw [hmem, List.map_append, List.mem_append]
      constructor
      · exact Or.inl
      · rintro (ha | ha)
        · exact ha
        · obtain rfl := List.mem_singleton.mp ha
          exact hi
    · rw [if_neg hold]
      refine ⟨?_, fun a => ?_⟩
      · refine List.nodup_append.mpr ⟨hnodup, List.pairwise_singleton _ _, fun a ha b hb hab => ?_⟩
        rw [List.mem_singleton.mp hb] at hab
        rw [hab] at ha
        exact hold ha
      · rw [List.mem_append, hmem, List.map_append, List.mem_append, List.map_singleton]

end MarkupCompiler.StyleInterval
