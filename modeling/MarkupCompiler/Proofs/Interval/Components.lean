import MarkupCompiler.Proofs.Interval.Painting
import MarkupCompiler.Proofs.Interval.Ranges
import Mathlib.Data.List.Pairwise
import Mathlib.Data.List.Sort
import Mathlib.Logic.Relation

/-!
# Registered ranges

Intervals that are registered one after another end up in ranges. These are the connected
components of the intervals: two intervals lie in one range exactly if a chain of intervals leads
from one to the other, each overlapping the next. A new interval is compared with the ranges that
exist, not with the span that grows out of them. That is enough because the span has no position
beyond those of the interval and of the ranges it touches.
-/

namespace MarkupCompiler.StyleInterval

/-- The ranges that registering intervals one after another leaves. -/
def registerAll (is : List StyleInterval) : List StyleInterval := is.foldl register []

/-- The interval lies in the range. -/
def Within (i r : StyleInterval) : Prop := r.start ≤ i.start ∧ i.stop ≤ r.stop

/-- Both intervals are in the list, and they overlap. -/
def Touching (is : List StyleInterval) (i j : StyleInterval) : Prop :=
  i ∈ is ∧ j ∈ is ∧ i.overlaps j = true

/-- A chain of intervals of the list leads from one to the other, each overlapping the next. -/
def Linked (is : List StyleInterval) : StyleInterval → StyleInterval → Prop :=
  Relation.ReflTransGen (Touching is)

/-- The two have no position in common. -/
def Apart (r s : StyleInterval) : Prop := r.overlaps s = false

/-- The ranges are the connected components of the intervals, in order. -/
structure Components (is rs : List StyleInterval) : Prop where
  sorted : SortedByStart rs
  apart : rs.Pairwise Apart
  nonempty : ∀ r ∈ rs, r.start < r.stop
  covers_iff : ∀ p, (∃ r ∈ rs, r.covers p = true) ↔ ∃ i ∈ is, i.covers p = true
  linked_iff : ∀ i ∈ is, ∀ j ∈ is, (∃ r ∈ rs, i.Within r ∧ j.Within r) ↔ Linked is i j

/-! ## Positions -/

theorem overlaps_comm (i j : StyleInterval) : i.overlaps j = j.overlaps i := by
  unfold overlaps
  exact Bool.and_comm _ _

theorem overlaps_of_covers {i j : StyleInterval} {p : Int} (hi : i.covers p = true)
    (hj : j.covers p = true) : i.overlaps j = true := by
  rw [covers_iff] at hi hj
  simp only [overlaps, Bool.and_eq_true, decide_eq_true_eq]
  omega

/-- Two intervals that overlap share the later one of their starts. -/
theorem exists_covers_of_overlaps {i j : StyleInterval} (hi : i.start < i.stop)
    (hj : j.start < j.stop) (h : i.overlaps j = true) :
    ∃ p, i.covers p = true ∧ j.covers p = true := by
  simp only [overlaps, Bool.and_eq_true, decide_eq_true_eq] at h
  refine ⟨max i.start j.start, ?_, ?_⟩
  · rw [covers_iff]
    omega
  · rw [covers_iff]
    omega

theorem covers_start {i : StyleInterval} (h : i.start < i.stop) : i.covers i.start = true :=
  covers_iff.mpr ⟨Int.le_refl _, h⟩

theorem Within.trans {i r s : StyleInterval} (hir : i.Within r) (hrs : r.Within s) : i.Within s :=
  ⟨Int.le_trans hrs.1 hir.1, Int.le_trans hir.2 hrs.2⟩

theorem Within.covers {i r : StyleInterval} (h : i.Within r) {p : Int} (hp : i.covers p = true) :
    r.covers p = true := by
  obtain ⟨hstart, hstop⟩ := h
  rw [covers_iff] at hp ⊢
  omega

/-- An interval lies in every range that has all its positions. -/
theorem within_of_forall_covers {i r : StyleInterval} (hi : i.start < i.stop)
    (h : ∀ p, i.covers p = true → r.covers p = true) : i.Within r := by
  have hfirst := covers_iff.mp (h i.start (covers_start hi))
  have hlast := covers_iff.mp (h (i.stop - 1) (covers_iff.mpr (by omega)))
  unfold Within
  omega

/-! ## The span of what an interval touches -/

theorem span_concat (touched : List StyleInterval) (t new : StyleInterval) :
    (span (touched ++ [t]) new).start = min (span touched new).start t.start ∧
      (span (touched ++ [t]) new).stop = max (span touched new).stop t.stop := by
  unfold span
  constructor
  · exact List.foldl_concat ..
  · exact List.foldl_concat ..

theorem within_span {touched : List StyleInterval} {new i : StyleInterval}
    (h : i = new ∨ i ∈ touched) : i.Within (span touched new) := by
  induction touched using List.reverseRecOn with
  | nil =>
    obtain rfl : i = new := by simpa using h
    exact ⟨Int.le_refl _, Int.le_refl _⟩
  | append_singleton touched t ih =>
    obtain ⟨hstart, hstop⟩ := span_concat touched t new
    have hcases : (i = new ∨ i ∈ touched) ∨ i = t := by
      rcases h with h | h
      · exact Or.inl (Or.inl h)
      · rcases List.mem_append.mp h with h | h
        · exact Or.inl (Or.inr h)
        · exact Or.inr (List.mem_singleton.mp h)
    unfold Within
    rcases hcases with h | rfl
    · obtain ⟨hs, ht⟩ := ih h
      omega
    · omega

theorem span_start_lt (touched : List StyleInterval) {new : StyleInterval}
    (hnew : new.start < new.stop) : (span touched new).start < (span touched new).stop := by
  have hwithin : new.Within (span touched new) := within_span (Or.inl rfl)
  unfold Within at hwithin
  omega

/-- The span begins where an interval begins and ends where an interval ends. -/
theorem span_ends (touched : List StyleInterval) (new : StyleInterval) :
    (∃ i, (i = new ∨ i ∈ touched) ∧ (span touched new).start = i.start) ∧
      ∃ i, (i = new ∨ i ∈ touched) ∧ (span touched new).stop = i.stop := by
  induction touched using List.reverseRecOn with
  | nil => exact ⟨⟨new, Or.inl rfl, rfl⟩, new, Or.inl rfl, rfl⟩
  | append_singleton touched t ih =>
    obtain ⟨⟨i, hi, hstart⟩, j, hj, hstop⟩ := ih
    obtain ⟨hmin, hmax⟩ := span_concat touched t new
    have hold : ∀ {k}, k = new ∨ k ∈ touched → k = new ∨ k ∈ touched ++ [t] :=
      Or.imp_right (List.mem_append_left _)
    have hlast : t = new ∨ t ∈ touched ++ [t] := Or.inr (by simp)
    constructor
    · by_cases hle : (span touched new).start ≤ t.start
      · exact ⟨i, hold hi, by omega⟩
      · exact ⟨t, hlast, by omega⟩
    · by_cases hle : t.stop ≤ (span touched new).stop
      · exact ⟨j, hold hj, by omega⟩
      · exact ⟨t, hlast, by omega⟩

/-- The span has no position of its own. -/
theorem covers_span_iff {touched : List StyleInterval} {new : StyleInterval}
    (hnew : new.start < new.stop) (htouched : ∀ t ∈ touched, t.overlaps new = true) {p : Int} :
    (span touched new).covers p = true ↔ ∃ i, (i = new ∨ i ∈ touched) ∧ i.covers p = true := by
  constructor
  · intro hp
    rw [covers_iff] at hp
    obtain ⟨⟨i, hi, hstart⟩, j, hj, hstop⟩ := span_ends touched new
    have hreach : ∀ k, k = new ∨ k ∈ touched → k.start < new.stop ∧ new.start < k.stop := by
      rintro k (rfl | hk)
      · exact ⟨hnew, hnew⟩
      · simpa [overlaps] using htouched k hk
    have hireach := hreach i hi
    have hjreach := hreach j hj
    -- Left of the new interval, what begins the span reaches on to it; right of it, what ends it.
    by_cases hleft : p < new.start
    · exact ⟨i, hi, covers_iff.mpr (by omega)⟩
    · by_cases hright : new.stop ≤ p
      · exact ⟨j, hj, covers_iff.mpr (by omega)⟩
      · exact ⟨new, Or.inl rfl, covers_iff.mpr (by omega)⟩
  · rintro ⟨i, hi, hp⟩
    exact (within_span hi).covers hp

/-! ## One interval more -/

/-- The ranges that an interval overlaps. -/
def touchedBy (new : StyleInterval) (rs : List StyleInterval) : List StyleInterval :=
  rs.filter fun r => r.overlaps new

theorem mem_register {rs : List StyleInterval} {new r : StyleInterval} :
    r ∈ register rs new ↔
      (r ∈ rs ∧ Apart r new) ∨ r = span (touchedBy new rs) new := by
  unfold register Apart
  rw [(sortByStart_perm _).mem_iff]
  simp [touchedBy]

theorem mem_touchedBy {rs : List StyleInterval} {new r : StyleInterval} :
    r ∈ touchedBy new rs ↔ r ∈ rs ∧ r.overlaps new = true := List.mem_filter

/-! ## Chains -/

theorem Linked.mono {is js : List StyleInterval} (h : is ⊆ js) {i j : StyleInterval}
    (hij : Linked is i j) : Linked js i j := by
  refine Relation.ReflTransGen.mono ?_ i j hij
  intro a b hab
  obtain ⟨ha, hb, hover⟩ := hab
  exact ⟨h ha, h hb, hover⟩

theorem Linked.symm {is : List StyleInterval} {i j : StyleInterval} (h : Linked is i j) :
    Linked is j i := by
  have hsymm : Std.Symm (Touching is) := by
    constructor
    intro a b hab
    obtain ⟨ha, hb, hover⟩ := hab
    exact ⟨hb, ha, overlaps_comm a b ▸ hover⟩
  exact Relation.ReflTransGen.stdSymm.symm i j h

instance : Std.Symm Apart where
  symm r s h := (overlaps_comm s r).trans h

theorem Apart.not_covers {r s : StyleInterval} (h : Apart r s) {p : Int} (hr : r.covers p = true) :
    ¬s.covers p = true := by
  intro hs
  unfold Apart at h
  rw [overlaps_of_covers hr hs] at h
  exact absurd h (by decide)

theorem eq_of_apart {rs : List StyleInterval} (h : rs.Pairwise Apart) {r s : StyleInterval}
    (hr : r ∈ rs) (hs : s ∈ rs) {p : Int} (hrp : r.covers p = true) (hsp : s.covers p = true) :
    r = s := by
  by_contra hne
  have hapart : Apart r s := h.forall hr hs hne
  exact hapart.not_covers hrp hsp

/-- A chain does not leave the range that it begins in. -/
theorem within_of_linked {is rs : List StyleInterval} (hpos : ∀ i ∈ is, i.start < i.stop)
    (hapart : rs.Pairwise Apart) (hwithin : ∀ i ∈ is, ∃ r ∈ rs, i.Within r)
    {r i j : StyleInterval} (hr : r ∈ rs) (hi : i.Within r) (h : Linked is i j) : j.Within r := by
  induction h with
  | refl => exact hi
  | tail _ hstep ih =>
    obtain ⟨ha, hb, hover⟩ := hstep
    obtain ⟨p, hap, hbp⟩ := exists_covers_of_overlaps (hpos _ ha) (hpos _ hb) hover
    obtain ⟨s, hs, hbs⟩ := hwithin _ hb
    obtain rfl : r = s := eq_of_apart hapart hr hs (ih.covers hap) (hbs.covers hbp)
    exact hbs

/-! ## Components -/

namespace Components

variable {is js rs ss : List StyleInterval} {i j r s new : StyleInterval}

theorem exists_within (h : Components is rs) (hi : i ∈ is) : ∃ r ∈ rs, i.Within r := by
  obtain ⟨r, hr, hir, -⟩ := (h.linked_iff i hi i hi).mpr .refl
  exact ⟨r, hr, hir⟩

/-- An interval lies in the range that has one of its positions. -/
theorem within_of_covers (h : Components is rs) (hi : i ∈ is) (hr : r ∈ rs) {p : Int}
    (hip : i.covers p = true) (hrp : r.covers p = true) : i.Within r := by
  obtain ⟨s, hs, his⟩ := h.exists_within hi
  obtain rfl : r = s := eq_of_apart h.apart hr hs hrp (his.covers hip)
  exact his

theorem nil : Components [] [] := by
  constructor
  · exact List.Pairwise.nil
  · exact List.Pairwise.nil
  · simp
  · simp
  · simp

/-- The range that a new interval makes has no position in common with a range that is kept. -/
theorem apart_span (h : Components is rs) (hnew : new.start < new.stop) (hr : r ∈ rs)
    (hkept : Apart r new) : Apart r (span (touchedBy new rs) new) := by
  have htouched : ∀ t ∈ touchedBy new rs, t.overlaps new = true := fun t ht =>
    (mem_touchedBy.mp ht).2
  unfold Apart
  by_contra hover
  rw [Bool.not_eq_false] at hover
  obtain ⟨p, hrp, hp⟩ :=
    exists_covers_of_overlaps (h.nonempty r hr) (span_start_lt _ hnew) hover
  obtain ⟨i, hi, hip⟩ := (covers_span_iff hnew htouched).mp hp
  rcases hi with rfl | hi
  · exact hkept.not_covers hrp hip
  · obtain ⟨hirs, hiover⟩ := mem_touchedBy.mp hi
    obtain rfl : r = i := eq_of_apart h.apart hr hirs hrp hip
    exact absurd (hkept.symm.trans hiover) (by decide)

theorem apart_register (h : Components is rs) (hnew : new.start < new.stop) :
    (register rs new).Pairwise Apart := by
  unfold register
  refine ((sortByStart_perm _).pairwise_iff fun hab => Std.Symm.symm _ _ hab).mpr ?_
  refine pairwise_concat_iff.mpr ⟨h.apart.sublist List.filter_sublist, ?_⟩
  intro r hr
  obtain ⟨hr, hkept⟩ := List.mem_filter.mp hr
  exact h.apart_span hnew hr ((Bool.not_eq_true' _).mp hkept)

theorem covers_register (h : Components is rs) (hnew : new.start < new.stop) (p : Int) :
    (∃ r ∈ register rs new, r.covers p = true) ↔ ∃ i ∈ is ++ [new], i.covers p = true := by
  have htouched : ∀ t ∈ touchedBy new rs, t.overlaps new = true := fun t ht =>
    (mem_touchedBy.mp ht).2
  have hold := h.covers_iff p
  constructor
  · rintro ⟨r, hr, hp⟩
    rcases mem_register.mp hr with ⟨hr, -⟩ | rfl
    · obtain ⟨i, hi, hip⟩ := hold.mp ⟨r, hr, hp⟩
      exact ⟨i, List.mem_append_left _ hi, hip⟩
    · obtain ⟨t, ht, htp⟩ := (covers_span_iff hnew htouched).mp hp
      rcases ht with rfl | ht
      · exact ⟨t, by simp, htp⟩
      · obtain ⟨i, hi, hip⟩ := hold.mp ⟨t, (mem_touchedBy.mp ht).1, htp⟩
        exact ⟨i, List.mem_append_left _ hi, hip⟩
  · rintro ⟨i, hi, hip⟩
    rcases List.mem_append.mp hi with hi | hi
    · obtain ⟨r, hr, hrp⟩ := hold.mpr ⟨i, hi, hip⟩
      by_cases hover : r.overlaps new = true
      · refine ⟨_, mem_register.mpr (Or.inr rfl), ?_⟩
        exact (covers_span_iff hnew htouched).mpr ⟨r, Or.inr (mem_touchedBy.mpr ⟨hr, hover⟩), hrp⟩
      · exact ⟨r, mem_register.mpr (Or.inl ⟨hr, Bool.eq_false_iff.mpr hover⟩), hrp⟩
    · obtain rfl := List.mem_singleton.mp hi
      refine ⟨_, mem_register.mpr (Or.inr rfl), ?_⟩
      exact (covers_span_iff hnew htouched).mpr ⟨i, Or.inl rfl, hip⟩

/-- An interval in the new range was in a range that the new interval touches. -/
theorem exists_touched (h : Components is rs) (hpos : ∀ i ∈ is, i.start < i.stop)
    (hnew : new.start < new.stop) (hi : i ∈ is)
    (hspan : i.Within (span (touchedBy new rs) new)) : ∃ t ∈ touchedBy new rs, i.Within t := by
  obtain ⟨t, ht, hit⟩ := h.exists_within hi
  refine ⟨t, mem_touchedBy.mpr ⟨ht, ?_⟩, hit⟩
  by_contra hkept
  have hapart := h.apart_span hnew ht (Bool.eq_false_iff.mpr hkept)
  have hfirst := covers_start (hpos i hi)
  exact hapart.not_covers (hit.covers hfirst) (hspan.covers hfirst)

/-- An interval in the new range is linked to the new interval: its old range touched that one. -/
theorem linked_span (h : Components is rs) (hpos : ∀ i ∈ is, i.start < i.stop)
    (hnew : new.start < new.stop) (hi : i ∈ is ++ [new])
    (hspan : i.Within (span (touchedBy new rs) new)) : Linked (is ++ [new]) i new := by
  rcases List.mem_append.mp hi with hi | hi
  · obtain ⟨t, htouched, hit⟩ := h.exists_touched hpos hnew hi hspan
    obtain ⟨ht, htover⟩ := mem_touchedBy.mp htouched
    obtain ⟨p, htp, hp⟩ := exists_covers_of_overlaps (h.nonempty t ht) hnew htover
    obtain ⟨j, hj, hjp⟩ := (h.covers_iff p).mp ⟨t, ht, htp⟩
    have hlinked : Linked is i j :=
      (h.linked_iff i hi j hj).mp ⟨t, ht, hit, h.within_of_covers hj ht hjp htp⟩
    have hstep : Touching (is ++ [new]) j new :=
      ⟨List.mem_append_left _ hj, by simp, overlaps_of_covers hjp hp⟩
    exact (hlinked.mono (List.subset_append_left _ _)).tail hstep
  · obtain rfl := List.mem_singleton.mp hi
    exact .refl

theorem within_register (h : Components is rs) (hi : i ∈ is ++ [new]) :
    ∃ r ∈ register rs new, i.Within r := by
  rcases List.mem_append.mp hi with hi | hi
  · obtain ⟨r, hr, hir⟩ := h.exists_within hi
    by_cases hover : r.overlaps new = true
    · have hspan : r.Within (span (touchedBy new rs) new) :=
        within_span (Or.inr (mem_touchedBy.mpr ⟨hr, hover⟩))
      refine ⟨_, mem_register.mpr (Or.inr rfl), ?_⟩
      exact hir.trans hspan
    · exact ⟨r, mem_register.mpr (Or.inl ⟨hr, Bool.eq_false_iff.mpr hover⟩), hir⟩
  · obtain rfl := List.mem_singleton.mp hi
    exact ⟨_, mem_register.mpr (Or.inr rfl), within_span (Or.inl rfl)⟩

/-- Registering one interval more gives the components with that interval. -/
theorem registered (h : Components is rs) (hpos : ∀ i ∈ is ++ [new], i.start < i.stop) :
    Components (is ++ [new]) (register rs new) := by
  have hold : ∀ i ∈ is, i.start < i.stop := fun i hi => hpos i (List.mem_append_left _ hi)
  have hnew : new.start < new.stop := hpos new (by simp)
  have hapart := h.apart_register hnew
  constructor
  · exact sortedByStart_sortByStart _
  · exact hapart
  · intro r hr
    rcases mem_register.mp hr with ⟨hr, -⟩ | rfl
    · exact h.nonempty r hr
    · exact span_start_lt _ hnew
  · exact h.covers_register hnew
  · intro i hi j hj
    constructor
    · rintro ⟨r, hr, hir, hjr⟩
      rcases mem_register.mp hr with ⟨hr, hkept⟩ | rfl
      · have hmem : ∀ k ∈ is ++ [new], k.Within r → k ∈ is := by
          intro k hk hkr
          rcases List.mem_append.mp hk with hk | hk
          · exact hk
          · obtain rfl := List.mem_singleton.mp hk
            have hfirst := covers_start hnew
            exact absurd hfirst (hkept.not_covers (hkr.covers hfirst))
        have hlinked := (h.linked_iff i (hmem i hi hir) j (hmem j hj hjr)).mp ⟨r, hr, hir, hjr⟩
        exact hlinked.mono (List.subset_append_left _ _)
      · exact (h.linked_span hold hnew hi hir).trans (h.linked_span hold hnew hj hjr).symm
    · intro hlinked
      obtain ⟨r, hr, hir⟩ := h.within_register hi
      exact ⟨r, hr, hir, within_of_linked hpos hapart (fun k hk => h.within_register hk) hr hir hlinked⟩

/-! ## Uniqueness -/

/-- A range lies in the range that components of the same intervals have there. -/
theorem exists_within_range (h : Components is rs) (h' : Components js ss) (hsub : is ⊆ js)
    (hr : r ∈ rs) : ∃ s ∈ ss, r.Within s := by
  have hfirst := covers_start (h.nonempty r hr)
  obtain ⟨i, hi, hip⟩ := (h.covers_iff r.start).mp ⟨r, hr, hfirst⟩
  have hir := h.within_of_covers hi hr hip hfirst
  obtain ⟨s, hs, his⟩ := h'.exists_within (hsub hi)
  refine ⟨s, hs, within_of_forall_covers (h.nonempty r hr) fun p hp => ?_⟩
  obtain ⟨j, hj, hjp⟩ := (h.covers_iff p).mp ⟨r, hr, hp⟩
  have hjr := h.within_of_covers hj hr hjp hp
  have hlinked : Linked js i j := ((h.linked_iff i hi j hj).mp ⟨r, hr, hir, hjr⟩).mono hsub
  obtain ⟨s', hs', his', hjs'⟩ := (h'.linked_iff i (hsub hi) j (hsub hj)).mpr hlinked
  obtain rfl : s = s' := eq_of_apart h'.apart hs hs' (his.covers hip) (his'.covers hip)
  exact hjs'.covers hjp

theorem range_mem (h : Components is rs) (h' : Components js ss) (hsub : is ⊆ js) (hsup : js ⊆ is)
    {a : Int × Int} (ha : a ∈ rs.map range) : a ∈ ss.map range := by
  obtain ⟨r, hr, rfl⟩ := List.mem_map.mp ha
  obtain ⟨s, hs, hrs⟩ := h.exists_within_range h' hsub hr
  obtain ⟨t, ht, hst⟩ := h'.exists_within_range h hsup hs
  have hfirst := covers_start (h.nonempty r hr)
  obtain rfl : r = t := eq_of_apart h.apart hr ht hfirst (hst.covers (hrs.covers hfirst))
  refine List.mem_map.mpr ⟨s, hs, ?_⟩
  obtain ⟨hstart, hstop⟩ := hrs
  obtain ⟨hstart', hstop'⟩ := hst
  unfold range
  rw [Prod.mk.injEq]
  omega

/-- Ranges that are apart and sorted start at different positions. -/
theorem pairwise_start_lt (h : Components is rs) : (rs.map range).Pairwise fun a b => a.1 < b.1 := by
  refine List.pairwise_map.mpr ?_
  refine (h.sorted.and h.apart).imp_of_mem fun {r s} hr hs hrs => ?_
  obtain ⟨hle, hapart⟩ := hrs
  have hrpos := h.nonempty r hr
  have hspos := h.nonempty s hs
  simp only [Apart, overlaps, Bool.and_eq_false_iff, decide_eq_false_iff_not] at hapart
  unfold range
  omega

/-- The intervals alone determine the ranges, in whatever order they come. -/
theorem ranges_eq (h : Components is rs) (h' : Components js ss) (hsub : is ⊆ js) (hsup : js ⊆ is) :
    rs.map range = ss.map range := by
  have hirrefl : Std.Irrefl fun a b : Int × Int => a.1 < b.1 := ⟨fun a => Int.lt_irrefl a.1⟩
  have hantisymm : Std.Antisymm fun a b : Int × Int => a.1 < b.1 :=
    ⟨fun a b hab hba => absurd (Int.lt_trans hab hba) (Int.lt_irrefl a.1)⟩
  refine h.pairwise_start_lt.eq_of_mem_iff h'.pairwise_start_lt fun a => ?_
  exact ⟨h.range_mem h' hsub hsup, h'.range_mem h hsup hsub⟩

end Components

theorem registerAll_concat (is : List StyleInterval) (new : StyleInterval) :
    registerAll (is ++ [new]) = register (registerAll is) new := List.foldl_concat ..

theorem components_registerAll {is : List StyleInterval} (hpos : ∀ i ∈ is, i.start < i.stop) :
    Components is (registerAll is) := by
  induction is using List.reverseRecOn with
  | nil => exact Components.nil
  | append_singleton is new ih =>
    have hold := ih fun i hi => hpos i (List.mem_append_left _ hi)
    rw [registerAll_concat]
    exact hold.registered hpos

/--
Registering intervals that are not empty leaves their connected components, whatever the order in
which they come.
-/
theorem registerAll_ranges {is : List StyleInterval} (hpos : ∀ i ∈ is, i.start < i.stop) :
    Components is (registerAll is) ∧
      ∀ js, js.Perm is → (registerAll js).map range = (registerAll is).map range := by
  have hcomponents := components_registerAll hpos
  refine ⟨hcomponents, fun js hperm => ?_⟩
  have hpos' : ∀ j ∈ js, j.start < j.stop := fun j hj => hpos j (hperm.subset hj)
  exact (components_registerAll hpos').ranges_eq hcomponents hperm.subset hperm.symm.subset

/-- The third interval joins the first two into one range, which the fourth one only touches. -/
theorem registerAll_ranges_bridged :
    let is : List StyleInterval := [⟨0, 3, {}⟩, ⟨6, 9, {}⟩, ⟨2, 7, {}⟩, ⟨9, 11, {}⟩]
    let js : List StyleInterval := [⟨2, 7, {}⟩, ⟨9, 11, {}⟩, ⟨6, 9, {}⟩, ⟨0, 3, {}⟩]
    (∀ i ∈ is, i.start < i.stop) ∧ js.Perm is ∧ Components is (registerAll is) ∧
      (registerAll is).map range = [(0, 9), (9, 11)] ∧
      (registerAll js).map range = (registerAll is).map range := by
  intro is js
  have hpos : ∀ i ∈ is, i.start < i.stop := by decide
  have hperm : js.Perm is := by decide
  obtain ⟨hcomponents, hranges⟩ := registerAll_ranges hpos
  exact ⟨hpos, hperm, hcomponents, rfl, hranges js hperm⟩

end MarkupCompiler.StyleInterval
