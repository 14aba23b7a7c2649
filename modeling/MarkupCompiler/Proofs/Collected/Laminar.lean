import MarkupCompiler.Proofs.Collected.Nesting
import MarkupCompiler.Proofs.Interval.Components

/-!
# Collected intervals are nested or apart

Elements are nested or apart, and so are the ranges of what they contribute, although each range
is trimmed on its own. Of elements that start with the same character the inner ones are left first
and end first, so sorting by start sorts the intervals by range, and equal ranges stand together.
-/

namespace MarkupCompiler

namespace StyleInterval

/-- The two have no position in common, or one lies in the other. -/
def Laminar (i j : StyleInterval) : Prop := Apart i j ∨ i.Within j ∨ j.Within i

instance : Std.Symm Laminar where
  symm i j h := by
    rcases h with hapart | hwithin
    · exact Or.inl (Std.Symm.symm i j hapart)
    · exact Or.inr hwithin.symm

/-- The first one lies in the second one or ends before it. -/
def ClosedBefore (i j : StyleInterval) : Prop := i.Within j ∨ i.stop ≤ j.start

theorem ClosedBefore.laminar {i j : StyleInterval} (h : i.ClosedBefore j) : i.Laminar j := by
  rcases h with hwithin | hstop
  · exact Or.inr (Or.inl hwithin)
  · refine Or.inl ?_
    simp only [Apart, overlaps, Bool.and_eq_false_iff, decide_eq_false_iff_not]
    omega

theorem range_eq_of_rangeLe {i j k : StyleInterval} (hij : RangeLe i j) (hjk : RangeLe j k)
    (hrange : k.range = i.range) : j.range = i.range := by
  obtain ⟨hstart, hstop⟩ := Prod.mk.inj hrange
  rw [RangeLe] at hij hjk
  rw [range, range, Prod.mk.injEq]
  omega

/-- Behind an interval, those of its range come before all others. -/
theorem filter_range_isPrefix {i : StyleInterval} {is : List StyleInterval}
    (h : (i :: is).Pairwise RangeLe) : (is.filter fun j => j.range == i.range) <+: is := by
  induction is with
  | nil => exact List.prefix_rfl
  | cons j js ih =>
    obtain ⟨hi, hjs⟩ := List.pairwise_cons.mp h
    by_cases hrange : j.range = i.range
    · rw [List.filter_cons_of_pos (by simpa using hrange)]
      refine List.cons_prefix_cons.mpr ⟨rfl, ih (List.pairwise_cons.mpr ⟨?_, ?_⟩)⟩
      · exact fun k hk => hi k (List.mem_cons_of_mem j hk)
      · exact (List.pairwise_cons.mp hjs).2
    · have hnone : (j :: js).filter (fun k => k.range == i.range) = [] := by
        refine List.filter_eq_nil_iff.mpr fun k hk hkrange => hrange ?_
        rcases List.mem_cons.mp hk with rfl | hk
        · exact eq_of_beq hkrange
        · exact range_eq_of_rangeLe (hi j List.mem_cons_self)
            ((List.pairwise_cons.mp hjs).1 k hk) (eq_of_beq hkrange)
      rw [hnone]
      exact List.nil_prefix

/-- Intervals of one range stand together in a list that is sorted by ranges. -/
theorem filter_range_isInfix {is : List StyleInterval} (h : is.Pairwise RangeLe) (a : Int × Int) :
    (is.filter fun i => i.range == a) <:+: is := by
  induction is with
  | nil => exact List.infix_rfl
  | cons i is ih =>
    by_cases hrange : i.range = a
    · subst hrange
      rw [List.filter_cons_of_pos (by simp)]
      exact (List.cons_prefix_cons.mpr ⟨rfl, filter_range_isPrefix h⟩).isInfix
    · rw [List.filter_cons_of_neg (by simpa using hrange)]
      exact (ih (List.pairwise_cons.mp h).2).trans (List.suffix_cons i is).isInfix

end StyleInterval

namespace Contribution

variable {t : Text} {marks : List Contribution}

theorem LeftBefore.intervalIn {a b : Contribution} (h : a.LeftBefore b) (ha : a.isStyled = true)
    (hb : b.isStyled = true) (hin : b.Within (Text.solids t).length) :
    (a.intervalIn t).ClosedBefore (b.intervalIn t) := by
  have hacount := (isStyled_iff.mp ha).2
  rcases h with hinside | hbefore
  · exact Or.inl (hinside.intervalIn hacount hin)
  · exact Or.inr (intervalIn_stop_le_start hbefore hacount (isStyled_iff.mp hb).2 hin)

/-- The intervals of elements close in the order in which the elements are left. -/
theorem intervalsIn_pairwise (hpair : marks.Pairwise LeftBefore)
    (hwithin : ∀ m ∈ marks, m.Within (Text.solids t).length) :
    (intervalsIn t 0 marks).Pairwise StyleInterval.ClosedBefore := by
  refine List.pairwise_map.mpr ((hpair.filter _).imp_of_mem fun {a b} ha hb hab => ?_)
  obtain ⟨-, ha⟩ := List.mem_filter.mp ha
  obtain ⟨hbmem, hb⟩ := List.mem_filter.mp hb
  rw [after_zero, after_zero]
  exact hab.intervalIn ha hb (hwithin b hbmem)

end Contribution

namespace CollectedText

/-- The intervals of a collected text are sorted by range, not only by start. -/
theorem ofElement_pairwise_rangeLe (skipLists preserve : Bool) (tag : String)
    (attributes : Attributes) (children : List Node) :
    (ofElement skipLists preserve tag attributes children).intervals.Pairwise
      StyleInterval.RangeLe := by
  obtain ⟨-, hintervals⟩ := ofElement_eq skipLists preserve tag attributes children
  have hwithin := allContributions_within_text skipLists preserve tag attributes children
  have hpair := Contribution.intervalsIn_pairwise
    (Node.allContributions_pairwise skipLists tag attributes children) hwithin
  rw [hintervals]
  refine StyleInterval.pairwise_rangeLe_sortByStart (hpair.imp_of_mem fun {i j} hi hj hij hstart => ?_)
  rcases hij with hinside | hbefore
  · exact hinside.2
  · have hlt := (Contribution.intervalsIn_fits hwithin i hi).1.start_lt_stop
    omega

/--
Any two intervals of a collected text are disjoint or one contains the other. They are sorted by start,
and those with equal starts by their ends, so those of one range stand together.
-/
theorem intervals_laminar (skipLists preserve : Bool) (tag : String) (attributes : Attributes)
    (children : List Node) :
    let is := (ofElement skipLists preserve tag attributes children).intervals
    is.Pairwise StyleInterval.Laminar ∧ is.Pairwise StyleInterval.RangeLe ∧
      ∀ a, (is.filter fun i => i.range == a) <:+: is := by
  intro is
  obtain ⟨-, hintervals⟩ := ofElement_eq skipLists preserve tag attributes children
  have hwithin := allContributions_within_text skipLists preserve tag attributes children
  have hpair := Contribution.intervalsIn_pairwise
    (Node.allContributions_pairwise skipLists tag attributes children) hwithin
  have hsorted := ofElement_pairwise_rangeLe skipLists preserve tag attributes children
  refine ⟨?_, hsorted, StyleInterval.filter_range_isInfix hsorted⟩
  have hlaminar := hpair.imp StyleInterval.ClosedBefore.laminar
  rw [← (StyleInterval.sortByStart_perm _).pairwise_iff fun h => Std.Symm.symm _ _ h,
    ← hintervals] at hlaminar
  exact hlaminar

end CollectedText

end MarkupCompiler
