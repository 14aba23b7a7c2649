import MarkupCompiler.Interval.Combine
import MarkupCompiler.Proofs.Interval.Sorted
import MarkupCompiler.Proofs.Style.Slot
import Mathlib.Data.List.Induction

/-!
# Painting

Painting a list of intervals gives each position the styles of the intervals that cover it, merged
in the order of the list. For each slot the last interval that covers the position and has the slot
decides. Coalescing a list that is sorted by its ranges does not change what it paints, because
equal ranges then stand next to each other.
-/

namespace MarkupCompiler.StyleInterval

/-- Whether the interval holds a position. -/
def covers (p : Int) (i : StyleInterval) : Bool := i.start ≤ p && p < i.stop

/-- The style that the intervals of a list give a position, later ones over earlier ones. -/
def paint (is : List StyleInterval) (p : Int) : TextStyle := mergedStyle (is.filter (covers p))

theorem covers_iff {p : Int} {i : StyleInterval} : i.covers p = true ↔ i.start ≤ p ∧ p < i.stop := by
  simp [covers]

theorem covers_eq_of_range_eq {p : Int} {i j : StyleInterval} (hstart : i.start = j.start)
    (hstop : i.stop = j.stop) : i.covers p = j.covers p := by
  rw [covers, covers, hstart, hstop]

@[simp] theorem paint_nil (p : Int) : paint [] p = {} := rfl

theorem paint_concat (is : List StyleInterval) (i : StyleInterval) (p : Int) :
    paint (is ++ [i]) p = if i.covers p then (paint is p).merged i.style else paint is p := by
  by_cases hi : i.covers p = true <;> simp [paint, mergedStyle, List.filter_append, hi]

/-- Of the entries that satisfy a predicate, there is a last one. -/
theorem exists_last {α : Type} {P : α → Prop} [DecidablePred P] {xs : List α} (h : ∃ x ∈ xs, P x) :
    ∃ before x behind, xs = before ++ x :: behind ∧ P x ∧ ∀ y ∈ behind, ¬ P y := by
  induction xs with
  | nil => simp at h
  | cons x xs ih =>
    by_cases hrest : ∃ y ∈ xs, P y
    · obtain ⟨before, y, behind, rfl, hy, hbehind⟩ := ih hrest
      exact ⟨x :: before, y, behind, rfl, hy, hbehind⟩
    · obtain ⟨y, hy, hPy⟩ := h
      rcases List.mem_cons.mp hy with rfl | hy
      · exact ⟨[], y, xs, rfl, hPy, fun z hz hPz => hrest ⟨z, hz, hPz⟩⟩
      · exact absurd ⟨y, hy, hPy⟩ hrest

/-- The last of the merged styles that has a slot decides the slot. -/
theorem slot_mergedStyle (is : List StyleInterval) (k : Slot) :
    (mergedStyle is).slot k =
      ((is.filter fun i => (i.style.slot k).isSome).getLast?).bind fun i => i.style.slot k := by
  induction is using List.reverseRecOn with
  | nil => simp [mergedStyle]
  | append_singleton is i ih =>
    have hstep : mergedStyle (is ++ [i]) = (mergedStyle is).merged i.style := List.foldl_concat ..
    rw [hstep, TextStyle.slot_merged, List.filter_append]
    cases hk : i.style.slot k with
    | none => simp [hk, ih]
    | some value => simp [hk]

theorem slot_mergedStyle_eq_none {is : List StyleInterval} {k : Slot}
    (h : ∀ i ∈ is, ¬(i.style.slot k).isSome = true) : (mergedStyle is).slot k = none := by
  rw [slot_mergedStyle, List.filter_eq_nil_iff.mpr h]
  rfl

theorem slot_mergedStyle_of_last {before behind : List StyleInterval} {i : StyleInterval}
    {k : Slot} (hi : (i.style.slot k).isSome = true)
    (hbehind : ∀ j ∈ behind, ¬(j.style.slot k).isSome = true) :
    (mergedStyle (before ++ i :: behind)).slot k = i.style.slot k := by
  have hnone : behind.filter (fun j => (j.style.slot k).isSome) = [] :=
    List.filter_eq_nil_iff.mpr hbehind
  simp [slot_mergedStyle, List.filter_append, hi, hnone]

/-- The last interval that covers a position and has a slot decides the slot. -/
theorem slot_paint (is : List StyleInterval) (p : Int) (k : Slot) :
    (paint is p).slot k =
      ((is.filter fun i => i.covers p && (i.style.slot k).isSome).getLast?).bind
        fun i => i.style.slot k := by
  rw [paint, slot_mergedStyle, List.filter_filter]
  simp only [Bool.and_comm]

theorem slot_paint_of_last {before behind : List StyleInterval} {i : StyleInterval} {p : Int}
    {k : Slot} (hi : i.covers p = true ∧ (i.style.slot k).isSome = true)
    (hbehind : ∀ j ∈ behind, ¬(j.covers p = true ∧ (j.style.slot k).isSome = true)) :
    (paint (before ++ i :: behind) p).slot k = i.style.slot k := by
  rw [paint, List.filter_append, List.filter_cons_of_pos hi.1]
  refine slot_mergedStyle_of_last hi.2 fun j hj hslot => ?_
  obtain ⟨hj, hcovers⟩ := List.mem_filter.mp hj
  exact hbehind j hj ⟨hcovers, hslot⟩

theorem pairwise_concat_iff {R : StyleInterval → StyleInterval → Prop} {is : List StyleInterval}
    {i : StyleInterval} : (is ++ [i]).Pairwise R ↔ is.Pairwise R ∧ ∀ j ∈ is, R j i := by
  simp [List.pairwise_append]

/-- The first range comes before the second one: it starts earlier, or ends earlier. -/
def RangeLt (i j : StyleInterval) : Prop :=
  i.start < j.start ∨ i.start = j.start ∧ i.stop < j.stop

/-- The first range is the second one or comes before it. -/
def RangeLe (i j : StyleInterval) : Prop :=
  i.start < j.start ∨ i.start = j.start ∧ i.stop ≤ j.stop

theorem pairwise_rangeLe_insertByStart {i : StyleInterval} {js : List StyleInterval}
    (hjs : js.Pairwise RangeLe) (h : ∀ j ∈ js, i.start = j.start → i.stop ≤ j.stop) :
    (insertByStart i js).Pairwise RangeLe := by
  induction js with
  | nil => exact List.pairwise_singleton _ _
  | cons j js ih =>
    obtain ⟨hj, hrest⟩ := List.pairwise_cons.mp hjs
    rw [insertByStart]
    by_cases hle : i.start ≤ j.start
    · rw [if_pos hle]
      refine List.pairwise_cons.mpr ⟨?_, hjs⟩
      intro k hk
      have hik := h k hk
      have hjk : j.start ≤ k.start := by
        rcases List.mem_cons.mp hk with rfl | hk
        · exact Int.le_refl _
        · rcases hj k hk with hlt | ⟨heq, -⟩ <;> omega
      rw [RangeLe]
      omega
    · rw [if_neg hle]
      refine List.pairwise_cons.mpr ⟨?_, ih hrest fun k hk => h k (List.mem_cons_of_mem j hk)⟩
      intro k hk
      rcases List.mem_cons.mp ((insertByStart_perm i js).mem_iff.mp hk) with rfl | hk
      · exact Or.inl (by omega)
      · exact hj k hk

/-- Sorting by start sorts by range if among equal starts the shorter ranges come first. -/
theorem pairwise_rangeLe_sortByStart {is : List StyleInterval}
    (h : is.Pairwise fun i j => i.start = j.start → i.stop ≤ j.stop) :
    (sortByStart is).Pairwise RangeLe := by
  induction is with
  | nil => exact List.Pairwise.nil
  | cons i is ih =>
    obtain ⟨hi, his⟩ := List.pairwise_cons.mp h
    exact pairwise_rangeLe_insertByStart (ih his) fun j hj =>
      hi j ((sortByStart_perm is).mem_iff.mp hj)

theorem absorb_of_rangeLt {i : StyleInterval} {js : List StyleInterval}
    (h : ∀ j ∈ js, RangeLt j i) : absorb i js = js ++ [i] := by
  induction js with
  | nil => rfl
  | cons j js ih =>
    have hj := h j List.mem_cons_self
    have hne : (j.start == i.start && j.stop == i.stop) = false := by
      rw [RangeLt] at hj
      simp only [Bool.and_eq_false_iff, beq_eq_false_iff_ne]
      omega
    rw [absorb, hne, ih fun k hk => h k (List.mem_cons_of_mem j hk)]
    rfl

theorem absorb_append_of_range_eq {i m : StyleInterval} {js : List StyleInterval}
    (h : ∀ j ∈ js, RangeLt j m) (hstart : m.start = i.start) (hstop : m.stop = i.stop) :
    absorb i (js ++ [m]) = js ++ [{ m with style := m.style.merged i.style }] := by
  induction js with
  | nil => simp [absorb, hstart, hstop]
  | cons j js ih =>
    have hj := h j List.mem_cons_self
    have hne : (j.start == i.start && j.stop == i.stop) = false := by
      rw [RangeLt] at hj
      simp only [Bool.and_eq_false_iff, beq_eq_false_iff_ne]
      omega
    rw [List.cons_append, absorb, hne, ih fun k hk => h k (List.mem_cons_of_mem j hk)]
    rfl

/-- Merging an interval into the last one of equal range paints like adding it. -/
theorem paint_merge_last (init : List StyleInterval) {m i : StyleInterval}
    (hstart : m.start = i.start) (hstop : m.stop = i.stop) (p : Int) :
    paint (init ++ [{ m with style := m.style.merged i.style }]) p =
      paint (init ++ [m] ++ [i]) p := by
  have hi : i.covers p = m.covers p := (covers_eq_of_range_eq hstart hstop).symm
  have hmerged : covers p { m with style := m.style.merged i.style } = m.covers p := rfl
  rw [paint_concat, paint_concat, paint_concat, hi, hmerged]
  by_cases hm : m.covers p = true
  · rw [if_pos hm, if_pos hm, if_pos hm, TextStyle.merged_assoc]
  · rw [if_neg hm, if_neg hm, if_neg hm]

theorem paint_concat_congr {is js : List StyleInterval} {p : Int} (h : paint is p = paint js p)
    (i : StyleInterval) : paint (is ++ [i]) p = paint (js ++ [i]) p := by
  rw [paint_concat, paint_concat, h]

/--
Coalescing a list that is sorted by ranges puts each range once, in order, and paints the same. Its
last range is a range of the list.
-/
theorem coalesce_of_pairwise_rangeLe {is : List StyleInterval} (h : is.Pairwise RangeLe) :
    (coalesce is).Pairwise RangeLt ∧ (∀ p, paint (coalesce is) p = paint is p) ∧
      ∀ m, (coalesce is).getLast? = some m → ∃ l ∈ is, m.start = l.start ∧ m.stop = l.stop := by
  induction is using List.reverseRecOn with
  | nil => simp [coalesce]
  | append_singleton is i ih =>
    obtain ⟨his, hi⟩ := pairwise_concat_iff.mp h
    obtain ⟨hsorted, hpaint, hlast⟩ := ih his
    have hstep : coalesce (is ++ [i]) = absorb i (coalesce is) := by
      simp [coalesce, List.foldl_append]
    by_cases hsame : ∃ init m, coalesce is = init ++ [m] ∧ m.start = i.start ∧ m.stop = i.stop
    · -- The new interval has the last range: it is merged into the last entry.
      obtain ⟨init, m, hinit, hstart, hstop⟩ := hsame
      rw [hinit] at hsorted hpaint hstep
      obtain ⟨hinitSorted, hbefore⟩ := pairwise_concat_iff.mp hsorted
      rw [hstep, absorb_append_of_range_eq hbefore hstart hstop]
      refine ⟨pairwise_concat_iff.mpr ⟨hinitSorted, hbefore⟩, fun p => ?_, fun k hk => ?_⟩
      · rw [paint_merge_last init hstart hstop]
        exact paint_concat_congr (hpaint p) i
      · obtain rfl : _ = k := by simpa using hk
        exact ⟨i, by simp, hstart, hstop⟩
    · -- The new range comes after all others: it is put at the end.
      have hall : ∀ j ∈ coalesce is, RangeLt j i := by
        rcases List.eq_nil_or_concat' (coalesce is) with hnil | ⟨init, m, hinit⟩
        · simp [hnil]
        rw [hinit] at hsorted hlast ⊢
        obtain ⟨l, hl, hstart, hstop⟩ := hlast m (by simp)
        have hle := hi l hl
        have hm : RangeLt m i := by
          have hne : ¬ (m.start = i.start ∧ m.stop = i.stop) := fun h => hsame ⟨init, m, hinit, h⟩
          rw [RangeLe, ← hstart, ← hstop] at hle
          rw [RangeLt]
          omega
        intro j hj
        rcases List.mem_append.mp hj with hj | hj
        · have hjm := (pairwise_concat_iff.mp hsorted).2 j hj
          rw [RangeLt] at hjm hm ⊢
          omega
        · obtain rfl := List.mem_singleton.mp hj
          exact hm
      rw [hstep, absorb_of_rangeLt hall]
      refine ⟨pairwise_concat_iff.mpr ⟨hsorted, hall⟩, fun p => ?_, fun k hk => ?_⟩
      · exact paint_concat_congr (hpaint p) i
      · obtain rfl : i = k := by simpa using hk
        exact ⟨i, by simp, rfl, rfl⟩

end MarkupCompiler.StyleInterval
