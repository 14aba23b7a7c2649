import MarkupCompiler.Proofs.Interval.Painting
import MarkupCompiler.Proofs.Interval.Ranges

/-!
# What a coalesced list paints

Coalescing gives each range one entry, with the styles of all intervals of this range, at the place where
the range comes up first. A style that comes late in the list is thereby painted early. So a slot of a
position is decided by the range that comes up last among those that reach it, and not by the
last interval that does.
-/

namespace MarkupCompiler.StyleInterval

/-- The place where a range comes up in a list. -/
def firstSeen (is : List StyleInterval) (a : Int × Int) : Nat := (is.map range).idxOf a

/-- The styles of the intervals with a given range, merged in order. -/
def styleOf (is : List StyleInterval) (a : Int × Int) : TextStyle :=
  mergedStyle (is.filter fun i => i.range == a)

/-- The intervals that cover a position and have a slot. -/
def reaching (is : List StyleInterval) (p : Int) (k : Slot) : List StyleInterval :=
  is.filter fun i => i.covers p && (i.style.slot k).isSome

/-- The last of the reaching intervals whose range comes up last. -/
structure IsLastOfNewest (is : List StyleInterval) (p : Int) (k : Slot) (d : StyleInterval) :
    Prop where
  newest : ∀ i ∈ reaching is p k, firstSeen is i.range ≤ firstSeen is d.range
  last : ((reaching is p k).filter fun i => i.range == d.range).getLast? = some d

variable {is js : List StyleInterval} {i c : StyleInterval} {p : Int} {k : Slot}

theorem coalesce_concat (is : List StyleInterval) (i : StyleInterval) :
    coalesce (is ++ [i]) = absorb i (coalesce is) := List.foldl_concat ..

/-- An entry stays as it is, or gets the new style on top, or is new. -/
theorem of_mem_absorb (hnodup : (js.map range).Nodup) (hc : c ∈ absorb i js) :
    (c ∈ js ∧ c.range ≠ i.range) ∨ (c = i ∧ i.range ∉ js.map range) ∨
      ∃ j ∈ js, j.range = i.range ∧ c = { j with style := j.style.merged i.style } := by
  induction js with
  | nil => exact Or.inr (Or.inl ⟨List.mem_singleton.mp hc, List.not_mem_nil⟩)
  | cons j js ih =>
    obtain ⟨hj, hnodup⟩ := List.nodup_cons.mp hnodup
    rw [absorb] at hc
    by_cases hsame : j.range = i.range
    · have hends : (j.start == i.start && j.stop == i.stop) = true := by
        simpa [range] using hsame
      rw [if_pos hends] at hc
      rcases List.mem_cons.mp hc with rfl | hc
      · exact Or.inr (Or.inr ⟨j, List.mem_cons_self, hsame, rfl⟩)
      · refine Or.inl ⟨List.mem_cons_of_mem j hc, fun heq => hj ?_⟩
        rw [hsame, ← heq]
        exact List.mem_map_of_mem hc
    · have hends : ¬(j.start == i.start && j.stop == i.stop) = true := by
        simpa [range] using hsame
      rw [if_neg hends] at hc
      rcases List.mem_cons.mp hc with rfl | hc
      · exact Or.inl ⟨List.mem_cons_self, hsame⟩
      · rcases ih hnodup hc with ⟨hc, hne⟩ | ⟨hci, hnew⟩ | ⟨l, hl, hli, hcl⟩
        · exact Or.inl ⟨List.mem_cons_of_mem j hc, hne⟩
        · refine Or.inr (Or.inl ⟨hci, ?_⟩)
          rw [List.map_cons, List.mem_cons, not_or]
          exact ⟨Ne.symm hsame, hnew⟩
        · exact Or.inr (Or.inr ⟨l, List.mem_cons_of_mem j hl, hli, hcl⟩)

theorem styleOf_concat (is : List StyleInterval) (i : StyleInterval) (a : Int × Int) :
    styleOf (is ++ [i]) a = if i.range = a then (styleOf is a).merged i.style else styleOf is a := by
  by_cases hi : i.range = a <;> simp [styleOf, mergedStyle, List.filter_append, hi]

theorem styleOf_eq_empty {a : Int × Int} (h : a ∉ is.map range) : styleOf is a = {} := by
  have hnone : is.filter (fun i => i.range == a) = [] := by
    refine List.filter_eq_nil_iff.mpr fun i hi hrange => h ?_
    exact List.mem_map.mpr ⟨i, hi, eq_of_beq hrange⟩
  rw [styleOf, hnone]
  rfl

/-- An entry has the styles of all intervals of its range. -/
theorem style_of_mem_coalesce (hc : c ∈ coalesce is) : c.style = styleOf is c.range := by
  induction is using List.reverseRecOn generalizing c with
  | nil => exact absurd hc List.not_mem_nil
  | append_singleton is i ih =>
    obtain ⟨hnodup, hranges⟩ := ranges_coalesce is
    rw [coalesce_concat] at hc
    rw [styleOf_concat]
    rcases of_mem_absorb hnodup hc with ⟨hc, hne⟩ | ⟨rfl, hnew⟩ | ⟨j, hj, hji, rfl⟩
    · rw [if_neg (Ne.symm hne), ih hc]
    · rw [if_pos rfl, styleOf_eq_empty (mt (hranges _).mpr hnew), TextStyle.empty_merged]
    · have hrange : range { j with style := j.style.merged i.style } = j.range := rfl
      rw [hrange, if_pos hji.symm, ← ih hj]

theorem firstSeen_concat_of_mem {a : Int × Int} (h : a ∈ is.map range) (i : StyleInterval) :
    firstSeen (is ++ [i]) a = firstSeen is a := by
  rw [firstSeen, List.map_append, List.idxOf_append_of_mem h, firstSeen]

/-- The entries stand in the order in which their ranges come up. -/
theorem pairwise_firstSeen_coalesce (is : List StyleInterval) :
    ((coalesce is).map range).Pairwise fun a b => firstSeen is a < firstSeen is b := by
  induction is using List.reverseRecOn with
  | nil => exact List.Pairwise.nil
  | append_singleton is i ih =>
    obtain ⟨-, hranges⟩ := ranges_coalesce is
    have hold : ((coalesce is).map range).Pairwise fun a b =>
        firstSeen (is ++ [i]) a < firstSeen (is ++ [i]) b := by
      refine ih.imp_of_mem fun {a b} ha hb hab => ?_
      rw [firstSeen_concat_of_mem ((hranges a).mp ha), firstSeen_concat_of_mem ((hranges b).mp hb)]
      exact hab
    rw [coalesce_concat, map_range_absorb]
    by_cases hmem : i.range ∈ (coalesce is).map range
    · rw [if_pos hmem]
      exact hold
    · rw [if_neg hmem]
      refine List.pairwise_append.mpr ⟨hold, List.pairwise_singleton _ _, fun a ha b hb => ?_⟩
      obtain rfl := List.mem_singleton.mp hb
      have hseen := List.idxOf_lt_length_of_mem ((hranges a).mp ha)
      rw [firstSeen_concat_of_mem ((hranges a).mp ha), firstSeen, firstSeen, List.map_append,
        List.idxOf_append_of_notMem (mt (hranges _).mpr hmem)]
      omega

theorem covers_eq_of_range {j : StyleInterval} (h : i.range = j.range) (p : Int) :
    i.covers p = j.covers p := by
  obtain ⟨hstart, hstop⟩ := Prod.mk.inj h
  exact covers_eq_of_range_eq hstart hstop

/-- Where an entry covers, the intervals of its range that have the slot reach. -/
theorem filter_reaching (hc : c.covers p = true) (k : Slot) :
    (reaching is p k).filter (fun i => i.range == c.range) =
      (is.filter fun i => i.range == c.range).filter fun i => (i.style.slot k).isSome := by
  rw [reaching, List.filter_filter, List.filter_filter]
  refine List.filter_congr fun i _ => ?_
  by_cases hi : i.range = c.range
  · rw [covers_eq_of_range hi p, hc, Bool.true_and, Bool.and_comm]
  · have hne : (i.range == c.range) = false := beq_eq_false_iff_ne.mpr hi
    rw [hne, Bool.false_and, Bool.and_false]

/-- An entry takes a slot from the last reaching interval of its range. -/
theorem slot_of_mem_coalesce (hc : c ∈ coalesce is) (hcovers : c.covers p = true) (k : Slot) :
    c.style.slot k =
      (((reaching is p k).filter fun i => i.range == c.range).getLast?).bind
        fun i => i.style.slot k := by
  rw [style_of_mem_coalesce hc, styleOf, slot_mergedStyle, filter_reaching hcovers]

/-- Each reaching interval has an entry of its range, which has the slot too. -/
theorem exists_entry (hi : i ∈ reaching is p k) :
    ∃ c ∈ coalesce is, c.range = i.range ∧
      (c.covers p = true ∧ (c.style.slot k).isSome = true) := by
  obtain ⟨hmem, hreach⟩ := List.mem_filter.mp hi
  obtain ⟨hcovers, -⟩ := Bool.and_eq_true_iff.mp hreach
  obtain ⟨c, hc, hrange⟩ :=
    List.mem_map.mp (((ranges_coalesce is).2 _).mpr (List.mem_map_of_mem hmem))
  have hccovers : c.covers p = true := (covers_eq_of_range hrange p).trans hcovers
  refine ⟨c, hc, hrange, hccovers, ?_⟩
  rw [slot_of_mem_coalesce hc hccovers k]
  cases hlast : ((reaching is p k).filter fun i => i.range == c.range).getLast? with
  | none =>
    have hnone := List.filter_eq_nil_iff.mp (List.getLast?_eq_none_iff.mp hlast) i hi
    exact absurd (beq_iff_eq.mpr hrange.symm) hnone
  | some d =>
    have hd := (List.mem_filter.mp (List.mem_filter.mp (List.mem_of_getLast? hlast)).1).2
    exact (Bool.and_eq_true_iff.mp hd).2

theorem slot_paint_coalesce_of_nil (h : reaching is p k = []) :
    (paint (coalesce is) p).slot k = none := by
  refine slot_mergedStyle_eq_none fun c hc hslot => ?_
  obtain ⟨hc, hcovers⟩ := List.mem_filter.mp hc
  rw [slot_of_mem_coalesce hc hcovers, h] at hslot
  exact absurd hslot Bool.false_ne_true

/-- The last entry that reaches has the range that comes up last. -/
theorem exists_isLastOfNewest (h : reaching is p k ≠ []) :
    ∃ d, IsLastOfNewest is p k d ∧ (paint (coalesce is) p).slot k = d.style.slot k := by
  obtain ⟨i, hi⟩ := List.exists_mem_of_ne_nil _ h
  obtain ⟨e, he, -, hereach⟩ := exists_entry hi
  obtain ⟨before, c, behind, hsplit, hreach, hbehind⟩ :=
    exists_last (P := fun c : StyleInterval => c.covers p = true ∧ (c.style.slot k).isSome = true)
      ⟨e, he, hereach⟩
  have hc : c ∈ coalesce is := by rw [hsplit]; simp
  have hpaint : (paint (coalesce is) p).slot k = c.style.slot k :=
    hsplit ▸ slot_paint_of_last hreach hbehind
  obtain ⟨value, hvalue⟩ := Option.isSome_iff_exists.mp hreach.2
  have hcslot := (slot_of_mem_coalesce hc hreach.1 k).symm.trans hvalue
  obtain ⟨d, hd, hdslot⟩ := Option.bind_eq_some_iff.mp hcslot
  have hdrange : d.range = c.range :=
    eq_of_beq (List.mem_filter.mp (List.mem_of_getLast? hd)).2
  refine ⟨d, ⟨fun j hj => ?_, hdrange ▸ hd⟩, ?_⟩
  · -- The entry of the other range reaches too, so it is not behind the last one.
    obtain ⟨f, hf, hfrange, hfreach⟩ := exists_entry hj
    rw [← hfrange, hdrange]
    have hsorted := pairwise_firstSeen_coalesce is
    rw [hsplit, List.map_append, List.map_cons] at hsorted
    rw [hsplit] at hf
    rcases List.mem_append.mp hf with hf | hf
    · exact Nat.le_of_lt ((List.pairwise_append.mp hsorted).2.2 _ (List.mem_map_of_mem hf) _
        List.mem_cons_self)
    · obtain rfl := (List.mem_cons.mp hf).resolve_right fun hf => hbehind f hf hfreach
      exact Nat.le_refl _
  · rw [hpaint, hvalue, hdslot]

/-- If no reaching range comes up after that of the last reaching interval, this one decides. -/
theorem IsLastOfNewest.eq_last {d l : StyleInterval} (hd : IsLastOfNewest is p k d)
    (hl : (reaching is p k).getLast? = some l)
    (hle : firstSeen is d.range ≤ firstSeen is l.range) : d = l := by
  have hmem : ∀ {i}, i ∈ reaching is p k → i.range ∈ is.map range := fun hi =>
    List.mem_map_of_mem (List.mem_filter.mp hi).1
  have hdmem := (List.mem_filter.mp (List.mem_of_getLast? hd.last)).1
  have hlmem := List.mem_of_getLast? hl
  -- Both ranges come up last, so they are one range, and the last of all is the last of its range.
  have hrange : l.range = d.range := by
    refine (List.idxOf_inj (hmem hlmem)).mp ?_
    exact Nat.le_antisymm (hd.newest l hlmem) hle
  obtain ⟨init, hinit⟩ := List.getLast?_eq_some_iff.mp hl
  have hlast := hd.last
  rw [hinit, List.filter_append, List.filter_cons_of_pos (by simp [hrange]), List.filter_nil,
    List.getLast?_concat] at hlast
  exact (Option.some.inj hlast).symm

/-- Entries in place of a list of intervals: each range has one, where it comes up first, with the
styles of all its intervals merged in order. -/
structure Coalesced (is entries : List StyleInterval) : Prop where
  nodup : (entries.map range).Nodup
  mem_iff : ∀ a, a ∈ entries.map range ↔ a ∈ is.map range
  ordered : (entries.map range).Pairwise fun a b => firstSeen is a < firstSeen is b
  style_eq : ∀ c ∈ entries, c.style = styleOf is c.range

/--
A coalesced list has one entry for each range. It gives a slot of a position the value of the last
reaching interval whose range comes up last, where the list itself gives it the value of the last
reaching interval. So it paints the same exactly if the two agree, and they are one interval unless
another reaching range comes up later.
-/
theorem slot_paint_coalesce (is : List StyleInterval) :
    Coalesced is (coalesce is) ∧ ∀ (p : Int) (k : Slot),
      (reaching is p k = [] ∧ (paint (coalesce is) p).slot k = none ∧
        (paint is p).slot k = none) ∨
      ∃ l d, (reaching is p k).getLast? = some l ∧ IsLastOfNewest is p k d ∧
        (paint (coalesce is) p).slot k = d.style.slot k ∧ (paint is p).slot k = l.style.slot k ∧
        ((paint (coalesce is) p).slot k = (paint is p).slot k ↔
          d.style.slot k = l.style.slot k) ∧
        (firstSeen is d.range ≤ firstSeen is l.range → d = l) := by
  obtain ⟨hnodup, hranges⟩ := ranges_coalesce is
  refine ⟨⟨hnodup, hranges, pairwise_firstSeen_coalesce is, fun c => style_of_mem_coalesce⟩, ?_⟩
  intro p k
  have hpaint : (paint is p).slot k = ((reaching is p k).getLast?).bind fun i => i.style.slot k :=
    slot_paint is p k
  by_cases hnone : reaching is p k = []
  · refine Or.inl ⟨hnone, ?_, ?_⟩
    · exact slot_paint_coalesce_of_nil hnone
    · rw [hpaint, hnone]
      rfl
  · obtain ⟨d, hd, hdslot⟩ := exists_isLastOfNewest hnone
    have hl := List.getLast?_eq_some_getLast hnone
    rw [hl, Option.bind_some] at hpaint
    exact Or.inr ⟨_, d, hl, hd, hdslot, hpaint, by rw [hdslot, hpaint], hd.eq_last hl⟩

/-- A font that comes last in the list is painted first, together with the interval of its range. -/
theorem coalesce_paints_early :
    let font : String → TextStyle := fun name => { fontFamily := some name }
    let is : List StyleInterval :=
      [⟨0, 2, font "Arial"⟩, ⟨0, 1, font "Courier"⟩, ⟨0, 2, font "Georgia"⟩]
    coalesce is = [⟨0, 2, font "Georgia"⟩, ⟨0, 1, font "Courier"⟩] ∧
      (paint is 0).slot .fontFamily = some (.name "Georgia") ∧
      (paint (coalesce is) 0).slot .fontFamily = some (.name "Courier") := by
  decide

end MarkupCompiler.StyleInterval
