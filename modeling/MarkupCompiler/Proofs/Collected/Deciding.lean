import MarkupCompiler.Proofs.Collected.Nesting

/-!
# The element that decides a slot

A position of a collected text takes each slot from one of the elements that reach it. It is the
innermost one, or rather the outermost of all those whose intervals start where that of the innermost
one starts: equal starts keep the order in which the walk left the elements.
-/

namespace MarkupCompiler

namespace Contribution

variable {t : Text} {p : Int} {k : Slot} {marks : List Contribution}

/-- Of the elements that reach a position with a slot, all others enclose this one. -/
structure IsInnermost (t : Text) (p : Int) (k : Slot) (marks : List Contribution)
    (inner : Contribution) : Prop where
  mem : inner ∈ marks
  reaches : inner.Reaches t p k = true
  encloses : ∀ m ∈ marks, m.Reaches t p k = true → m.place <+: inner.place

/-- Of the elements that reach a position with a slot from a given start on, this one encloses all. -/
structure IsOutermostFrom (t : Text) (p : Int) (k : Slot) (marks : List Contribution)
    (start : Int) (outer : Contribution) : Prop where
  mem : outer ∈ marks
  reaches : outer.Reaches t p k = true
  start_eq : (outer.intervalIn t).start = start
  encloses : ∀ m ∈ marks, m.Reaches t p k = true → (m.intervalIn t).start = start →
    outer.place <+: m.place

/-- The intervals that cover a position and have a slot are those of the elements that reach it. -/
theorem filter_intervalsIn (t : Text) (p : Int) (k : Slot) (marks : List Contribution) :
    (intervalsIn t 0 marks).filter (fun i => i.covers p && (i.style.slot k).isSome) =
      (marks.filter (Reaches t p k)).map fun m => m.intervalIn t := by
  rw [intervalsIn, List.filter_map, List.filter_filter]
  simp only [after_zero]
  congr 1
  refine List.filter_congr fun m _ => ?_
  simp only [Function.comp_apply, Reaches, intervalIn]
  exact Bool.and_comm .. |>.trans (Bool.and_assoc ..).symm

/-- The painted slot is that of the last of the reaching elements after sorting. -/
theorem slot_paint_intervalsIn (t : Text) (p : Int) (k : Slot) (marks : List Contribution) :
    (StyleInterval.paint (StyleInterval.sortByStart (intervalsIn t 0 marks)) p).slot k =
      ((StyleInterval.sortByStart
          ((marks.filter (Reaches t p k)).map fun m => m.intervalIn t)).getLast?).bind
        fun i => i.style.slot k := by
  rw [StyleInterval.slot_paint, StyleInterval.filter_sortByStart, filter_intervalsIn]

/--
Among elements that were left in order and enclose each other, those that start latest are the
innermost one and some around it; the last of them decides.
-/
theorem exists_deciding {inner : Contribution} {others : List Contribution}
    (hpair : (inner :: others).Pairwise Inside) (hreach : marks.filter (Reaches t p k) = inner :: others)
    (hwithin : ∀ m ∈ marks, m.Within (Text.solids t).length) :
    ∃ outer, IsInnermost t p k marks inner ∧
      IsOutermostFrom t p k marks (inner.intervalIn t).start outer ∧
      (StyleInterval.sortByStart
          ((inner :: others).map fun m => m.intervalIn t)).getLast? =
        some (outer.intervalIn t) := by
  have hmem : ∀ m, m ∈ inner :: others ↔ m ∈ marks ∧ m.Reaches t p k = true := by
    intro m
    rw [← hreach, List.mem_filter]
  obtain ⟨hinner, -⟩ := List.pairwise_cons.mp hpair
  have hle : ∀ m ∈ inner :: others, (m.intervalIn t).start ≤ (inner.intervalIn t).start := by
    intro m hm
    rcases List.mem_cons.mp hm with rfl | hin
    · exact Int.le_refl _
    · have hcount := (hmem inner).mp List.mem_cons_self
      simp only [Reaches, Bool.and_eq_true, isStyled_iff] at hcount
      exact ((hinner m hin).intervalIn hcount.2.1.1.2 (hwithin m ((hmem m).mp hm).1)).1
  -- a stable sort by start ends with the last of those that start latest
  obtain ⟨before, outer, behind, hsplit, hstart, hbehind⟩ :=
    StyleInterval.exists_last (P := fun m => (m.intervalIn t).start = (inner.intervalIn t).start)
      ⟨inner, List.mem_cons_self (l := others), rfl⟩
  have houter : outer ∈ inner :: others := by rw [hsplit]; simp
  refine ⟨outer, ⟨?_, ?_, ?_⟩, ⟨?_, ?_, hstart, ?_⟩, ?_⟩
  · exact ((hmem inner).mp List.mem_cons_self).1
  · exact ((hmem inner).mp List.mem_cons_self).2
  · intro m hm hr
    rcases List.mem_cons.mp ((hmem m).mpr ⟨hm, hr⟩) with rfl | hin
    · exact List.prefix_refl _
    · exact (hinner m hin).place_extends
  · exact ((hmem outer).mp houter).1
  · exact ((hmem outer).mp houter).2
  · intro m hm hr hms
    have hin := (hmem m).mpr ⟨hm, hr⟩
    rw [hsplit] at hin hpair
    rcases List.mem_append.mp hin with hin | hin
    · exact ((List.pairwise_append.mp hpair).2.2 m hin outer List.mem_cons_self).place_extends
    · rcases List.mem_cons.mp hin with rfl | hin
      · exact List.prefix_refl _
      · exact absurd hms (hbehind m hin)
  · rw [hsplit] at hle ⊢
    rw [List.map_append, List.map_cons]
    refine StyleInterval.getLast?_sortByStart ?_ ?_
    · intro i hi
      obtain ⟨m, hm, rfl⟩ := List.mem_map.mp hi
      rw [hstart]
      exact hle m (List.mem_append_left _ hm)
    · intro i hi
      obtain ⟨m, hm, rfl⟩ := List.mem_map.mp hi
      have hmle := hle m (List.mem_append_right _ (List.mem_cons_of_mem _ hm))
      have hne := hbehind m hm
      omega

/-- Elements that reach one position enclose each other in the order in which they were left. -/
theorem pairwise_reaching (hpair : marks.Pairwise LeftBefore)
    (hwithin : ∀ m ∈ marks, m.Within (Text.solids t).length) :
    (marks.filter (Reaches t p k)).Pairwise Inside := by
  refine List.Pairwise.imp_of_mem ?_ (hpair.filter _)
  intro a b ha hb hab
  obtain ⟨-, ha⟩ := List.mem_filter.mp ha
  obtain ⟨hbmem, hb⟩ := List.mem_filter.mp hb
  exact hab.inside_of_reaches ha hb (hwithin b hbmem)

/--
No element reaches the position with the slot, and it stays unset; or it takes the value of the
outermost element that starts where the innermost one starts.
-/
theorem slot_paint_sortByStart (hpair : marks.Pairwise LeftBefore)
    (hwithin : ∀ m ∈ marks, m.Within (Text.solids t).length) (p : Int) (k : Slot) :
    let painted := (StyleInterval.paint (StyleInterval.sortByStart (intervalsIn t 0 marks)) p).slot k
    ((∀ m ∈ marks, m.Reaches t p k = false) ∧ painted = none) ∨
      ∃ inner outer, IsInnermost t p k marks inner ∧
        IsOutermostFrom t p k marks (inner.intervalIn t).start outer ∧
        painted = outer.style.slot k := by
  intro painted
  have hpainted : painted = _ := slot_paint_intervalsIn t p k marks
  have hreaching := pairwise_reaching (p := p) (k := k) hpair hwithin
  cases hreach : marks.filter (Reaches t p k) with
  | nil =>
    refine Or.inl ⟨fun m hm => ?_, ?_⟩
    · simpa using List.filter_eq_nil_iff.mp hreach m hm
    · rw [hpainted, hreach]
      rfl
  | cons inner others =>
    rw [hreach] at hreaching
    obtain ⟨outer, hin, hout, hlast⟩ := exists_deciding hreaching hreach hwithin
    refine Or.inr ⟨inner, outer, hin, hout, ?_⟩
    rw [hpainted, hreach, hlast]
    rfl

end Contribution

end MarkupCompiler
