import MarkupCompiler.Interval.Basic
import Mathlib.Data.List.Basic

/-!
# Intervals in order

Sorting by start is stable: it keeps the intervals, puts them in ascending order, and leaves those
with one start in their old order. Which interval comes last is therefore known from the list
before sorting. Clamping does nothing to intervals that lie within the text.
-/

namespace MarkupCompiler.StyleInterval

/-- The order that sorting by start establishes. -/
def SortedByStart (is : List StyleInterval) : Prop := is.Pairwise fun i j => i.start ≤ j.start

theorem insertByStart_of_le {i : StyleInterval} {js : List StyleInterval}
    (h : ∀ j ∈ js, i.start ≤ j.start) : insertByStart i js = i :: js := by
  cases js with
  | nil => rfl
  | cons j js => rw [insertByStart, if_pos (h j List.mem_cons_self)]

theorem insertByStart_of_lt {i : StyleInterval} {js : List StyleInterval}
    (h : ∀ j ∈ js, j.start < i.start) : insertByStart i js = js ++ [i] := by
  induction js with
  | nil => rfl
  | cons j js ih =>
    have hj := h j List.mem_cons_self
    rw [insertByStart, if_neg (by omega), ih fun k hk => h k (List.mem_cons_of_mem j hk),
      List.cons_append]

theorem insertByStart_perm (i : StyleInterval) (js : List StyleInterval) :
    (insertByStart i js).Perm (i :: js) := by
  induction js with
  | nil => exact List.Perm.refl _
  | cons j js ih =>
    rw [insertByStart]
    split
    · exact List.Perm.refl _
    · exact (ih.cons j).trans (List.Perm.swap i j js)

theorem sortByStart_perm (is : List StyleInterval) : (sortByStart is).Perm is := by
  induction is with
  | nil => exact List.Perm.refl _
  | cons i is ih => exact (insertByStart_perm i (sortByStart is)).trans (ih.cons i)

theorem sortedByStart_insertByStart {i : StyleInterval} {js : List StyleInterval}
    (h : SortedByStart js) : SortedByStart (insertByStart i js) := by
  induction js with
  | nil => exact List.pairwise_singleton _ _
  | cons j js ih =>
    obtain ⟨hj, hjs⟩ := List.pairwise_cons.mp h
    rw [insertByStart]
    by_cases hle : i.start ≤ j.start
    · rw [if_pos hle]
      refine List.pairwise_cons.mpr ⟨?_, h⟩
      intro k hk
      rcases List.mem_cons.mp hk with rfl | hk
      · exact hle
      · exact Int.le_trans hle (hj k hk)
    · rw [if_neg hle]
      refine List.pairwise_cons.mpr ⟨?_, ih hjs⟩
      intro k hk
      rcases List.mem_cons.mp ((insertByStart_perm i js).mem_iff.mp hk) with rfl | hk
      · omega
      · exact hj k hk

theorem sortedByStart_sortByStart (is : List StyleInterval) : SortedByStart (sortByStart is) := by
  induction is with
  | nil => exact List.Pairwise.nil
  | cons i is ih => exact sortedByStart_insertByStart ih

theorem sortByStart_eq_self {is : List StyleInterval} (h : SortedByStart is) :
    sortByStart is = is := by
  induction is with
  | nil => rfl
  | cons i is ih =>
    obtain ⟨hi, his⟩ := List.pairwise_cons.mp h
    rw [sortByStart, ih his, insertByStart_of_le hi]

/-- Lists of which one starts before the other are sorted apart. -/
theorem sortByStart_append {is js : List StyleInterval}
    (h : ∀ i ∈ is, ∀ j ∈ js, i.start ≤ j.start) :
    sortByStart (is ++ js) = sortByStart is ++ sortByStart js := by
  induction is with
  | nil => rfl
  | cons i is ih =>
    rw [List.cons_append, sortByStart, ih fun k hk => h k (List.mem_cons_of_mem i hk), sortByStart]
    have hi : ∀ j ∈ sortByStart js, i.start ≤ j.start := fun j hj =>
      h i List.mem_cons_self j ((sortByStart_perm js).mem_iff.mp hj)
    induction sortByStart is with
    | nil => simp [insertByStart_of_le hi, insertByStart]
    | cons k ks ihks =>
      rw [List.cons_append, insertByStart, insertByStart]
      split
      · rfl
      · rw [ihks, List.cons_append]

/-- Sorting parts first changes nothing. -/
theorem sortByStart_append_sortByStart {is js : List StyleInterval}
    (h : ∀ i ∈ is, ∀ j ∈ js, i.start ≤ j.start) :
    sortByStart (sortByStart is ++ sortByStart js) = sortByStart (is ++ js) := by
  have hsorted : ∀ i ∈ sortByStart is, ∀ j ∈ sortByStart js, i.start ≤ j.start := by
    intro i hi j hj
    exact h i ((sortByStart_perm is).mem_iff.mp hi) j ((sortByStart_perm js).mem_iff.mp hj)
  rw [sortByStart_append h, sortByStart_append hsorted,
    sortByStart_eq_self (sortedByStart_sortByStart is),
    sortByStart_eq_self (sortedByStart_sortByStart js)]

theorem filter_insertByStart {p : StyleInterval → Bool} {i : StyleInterval}
    {js : List StyleInterval} (h : SortedByStart js) (hi : p i = true) :
    (insertByStart i js).filter p = insertByStart i (js.filter p) := by
  induction js with
  | nil => simp [insertByStart, hi]
  | cons j js ih =>
    obtain ⟨hj, hjs⟩ := List.pairwise_cons.mp h
    rw [insertByStart]
    by_cases hle : i.start ≤ j.start
    · have hfront : ∀ k ∈ (j :: js).filter p, i.start ≤ k.start := by
        intro k hk
        rcases List.mem_cons.mp (List.mem_filter.mp hk).1 with rfl | hk
        · exact hle
        · exact Int.le_trans hle (hj k hk)
      rw [if_pos hle, List.filter_cons_of_pos hi, insertByStart_of_le hfront]
    · rw [if_neg hle]
      by_cases hpj : p j = true
      · rw [List.filter_cons_of_pos hpj, List.filter_cons_of_pos hpj, insertByStart, if_neg hle,
          ih hjs]
      · rw [List.filter_cons_of_neg hpj, List.filter_cons_of_neg hpj, ih hjs]

/-- Leaving intervals out commutes with sorting. -/
theorem filter_sortByStart (p : StyleInterval → Bool) (is : List StyleInterval) :
    (sortByStart is).filter p = sortByStart (is.filter p) := by
  induction is with
  | nil => rfl
  | cons i is ih =>
    by_cases hi : p i = true
    · rw [List.filter_cons_of_pos hi, sortByStart, sortByStart,
        filter_insertByStart (sortedByStart_sortByStart is) hi, ih]
    · rw [List.filter_cons_of_neg hi, sortByStart, ← ih]
      induction sortByStart is with
      | nil => simp [insertByStart, hi]
      | cons j js ihjs =>
        rw [insertByStart]
        split
        · rw [List.filter_cons_of_neg hi]
        · rw [List.filter_cons, List.filter_cons, ihjs]

theorem getLast?_insertByStart {i w : StyleInterval} {js : List StyleInterval}
    (h : js.getLast? = some w) (hi : i.start ≤ w.start) :
    (insertByStart i js).getLast? = some w := by
  induction js with
  | nil => simp at h
  | cons j js ih =>
    rw [insertByStart]
    split
    · rw [List.getLast?_cons_cons, h]
    · next hle =>
      cases js with
      | nil =>
        obtain rfl : j = w := by simpa using h
        exact absurd hi hle
      | cons k ks =>
        rw [List.getLast?_cons_cons] at h
        have hne : insertByStart i (k :: ks) ≠ [] := by
          intro hnil
          have hperm := (insertByStart_perm i (k :: ks)).length_eq
          simp [hnil] at hperm
        obtain ⟨m, ms, hms⟩ := List.exists_cons_of_ne_nil hne
        rw [hms, List.getLast?_cons_cons, ← hms, ih h]

/-- The last interval in order is the last one of those that start latest. -/
theorem getLast?_sortByStart {before behind : List StyleInterval} {w : StyleInterval}
    (hbefore : ∀ i ∈ before, i.start ≤ w.start) (hbehind : ∀ i ∈ behind, i.start < w.start) :
    (sortByStart (before ++ w :: behind)).getLast? = some w := by
  induction before with
  | nil =>
    rw [List.nil_append, sortByStart, insertByStart_of_lt]
    · simp
    · intro j hj
      exact hbehind j ((sortByStart_perm behind).mem_iff.mp hj)
  | cons i before ih =>
    have hrest := ih fun j hj => hbefore j (List.mem_cons_of_mem i hj)
    exact getLast?_insertByStart hrest (hbefore i List.mem_cons_self)

/-- The interval further on in a stream. -/
def shifted (offset : Int) (i : StyleInterval) : StyleInterval :=
  ⟨offset + i.start, offset + i.stop, i.style⟩

theorem insertByStart_map_shifted (offset : Int) (i : StyleInterval) (js : List StyleInterval) :
    insertByStart (i.shifted offset) (js.map (shifted offset)) =
      (insertByStart i js).map (shifted offset) := by
  induction js with
  | nil => rfl
  | cons j js ih =>
    have hle : (i.shifted offset).start ≤ (j.shifted offset).start ↔ i.start ≤ j.start := by
      simp only [shifted]
      omega
    rw [List.map_cons, insertByStart, insertByStart]
    by_cases h : i.start ≤ j.start
    · rw [if_pos h, if_pos (hle.mpr h)]
      rfl
    · rw [if_neg h, if_neg (mt hle.mp h), ih]
      rfl

theorem sortByStart_map_shifted (offset : Int) (is : List StyleInterval) :
    sortByStart (is.map (shifted offset)) = (sortByStart is).map (shifted offset) := by
  induction is with
  | nil => rfl
  | cons i is ih => rw [List.map_cons, sortByStart, ih, insertByStart_map_shifted, sortByStart]

/-- The interval is not empty and lies within a text of the given length. -/
structure Fits (length : Int) (i : StyleInterval) : Prop where
  start_nonneg : 0 ≤ i.start
  start_lt_stop : i.start < i.stop
  stop_le : i.stop ≤ length

theorem Fits.mono {m n : Int} {i : StyleInterval} (h : i.Fits m) (hmn : m ≤ n) : i.Fits n :=
  ⟨h.start_nonneg, h.start_lt_stop, Int.le_trans h.stop_le hmn⟩

/-- Moved behind a text, an interval fits the text with its own text at the end. -/
theorem Fits.shifted {length : Int} {i : StyleInterval} (h : i.Fits length) {offset : Int}
    (hoffset : 0 ≤ offset) : (i.shifted offset).Fits (offset + length) := by
  obtain ⟨h0, hlt, hle⟩ := h
  constructor <;> simp only [StyleInterval.shifted] <;> omega

theorem Fits.clamped_eq {length : Int} {i : StyleInterval} (h : i.Fits length) :
    i.clamped length = i := by
  obtain ⟨h0, hlt, hle⟩ := h
  have hstart : min (max i.start 0) length = i.start := by omega
  have hstop : min (max i.stop i.start) length = i.stop := by omega
  rw [clamped]
  simp only [hstart, hstop]

theorem Fits.isEmpty_eq {length : Int} {i : StyleInterval} (h : i.Fits length) :
    i.isEmpty = false := by
  have hlt := h.start_lt_stop
  simp [isEmpty, hlt]

theorem clampAll_eq_self {length : Int} {is : List StyleInterval}
    (h : ∀ i ∈ is, i.Fits length) : clampAll length is = is := by
  have hclamped : is.map (fun i => i.clamped length) = is :=
    (List.map_congr_left fun i hi => (h i hi).clamped_eq).trans (List.map_id' is)
  rw [clampAll, hclamped, List.filter_eq_self]
  intro i hi
  rw [(h i hi).isEmpty_eq]
  rfl

end MarkupCompiler.StyleInterval
