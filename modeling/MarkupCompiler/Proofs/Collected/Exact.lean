import MarkupCompiler.Proofs.Collected.Walk
import Mathlib.Data.List.Forall2

/-!
# Intervals are exact

Places tell which solid characters an element contributes: those whose source lies at or below the
element. The intervals of a collected text belong one to one to the styled elements that contribute
a solid character, and a solid character lies in an interval exactly when the element contributed it.
-/

namespace MarkupCompiler

namespace Node

theorem exists_place_of_mem_sourcesIn {skipLists : Bool} {index : Nat} {nodes : List Node}
    {s : Source} (h : s ∈ sourcesIn skipLists index nodes) :
    ∃ i rest, index ≤ i ∧ s.place = i :: rest := by
  induction nodes generalizing index with
  | nil => simp [sourcesIn] at h
  | cons node nodes ih =>
    rcases List.mem_append.mp h with h | h
    · obtain ⟨r, -, rfl⟩ := List.mem_map.mp h
      exact ⟨index, r.place, Nat.le_refl _, rfl⟩
    · obtain ⟨i, rest, hi, hplace⟩ := ih h
      exact ⟨i, rest, by omega, hplace⟩

theorem exists_place_of_mem_contributionsIn {skipLists : Bool} {index : Nat} {nodes : List Node}
    {m : Contribution} (h : m ∈ contributionsIn skipLists index nodes) :
    ∃ i rest, index ≤ i ∧ m.place = i :: rest := by
  induction nodes generalizing index m with
  | nil => simp [contributionsIn] at h
  | cons node nodes ih =>
    rcases List.mem_append.mp h with h | h
    · obtain ⟨r, -, rfl⟩ := List.mem_map.mp h
      exact ⟨index, r.place, Nat.le_refl _, rfl⟩
    · obtain ⟨r, hr, rfl⟩ := List.mem_map.mp h
      obtain ⟨i, rest, hi, hplace⟩ := ih hr
      exact ⟨i, rest, by omega, hplace⟩

end Node

namespace Contribution

/-- Of the sources in a list, those at or below the element's place are the element's own ones. -/
def Owns (sources : List Source) (m : Contribution) : Prop :=
  ∀ k s, sources[k]? = some s → (m.place <+: s.place ↔ m.first ≤ k ∧ k < m.first + m.count)

theorem owns_root (style : TextStyle) (sources : List Source) :
    Owns sources ⟨[], style, 0, sources.length⟩ := by
  intro k s hk
  have hlt := (List.getElem?_eq_some_iff.mp hk).1
  simp [hlt]

/-- An element below one sibling owns nothing of the siblings that follow. -/
theorem Owns.append_left {sources more : List Source} {m : Contribution} (index : Nat)
    (h : Owns sources m) (hin : m.Within sources.length)
    (hmore : ∀ s ∈ more, ∃ i rest, index < i ∧ s.place = i :: rest) :
    Owns (sources.map (·.under index) ++ more) (m.under index) := by
  intro k s hk
  by_cases hlt : k < sources.length
  · rw [List.getElem?_append_left (by simpa using hlt), List.getElem?_map,
      Option.map_eq_some_iff] at hk
    obtain ⟨r, hr, rfl⟩ := hk
    simpa [under, Source.under] using h k r hr
  · rw [List.getElem?_append_right (by simpa using hlt)] at hk
    obtain ⟨i, rest, hi, hplace⟩ := hmore s (List.mem_of_getElem? hk)
    rw [Within] at hin
    have hnot : ¬ (m.under index).place <+: s.place := by
      rw [hplace, under, List.cons_prefix_cons]
      omega
    refine iff_of_false hnot ?_
    simp only [under]
    omega

/-- An element below a later sibling owns nothing of the sibling before. -/
theorem Owns.append_right {sources more : List Source} {m : Contribution} {index : Nat}
    (h : Owns more m) (hm : ∃ i rest, index < i ∧ m.place = i :: rest) :
    Owns (sources.map (·.under index) ++ more) (m.after sources.length) := by
  intro k s hk
  by_cases hlt : k < sources.length
  · rw [List.getElem?_append_left (by simpa using hlt), List.getElem?_map,
      Option.map_eq_some_iff] at hk
    obtain ⟨r, -, rfl⟩ := hk
    obtain ⟨i, rest, hi, hplace⟩ := hm
    have hnot : ¬ m.place <+: (r.under index).place := by
      rw [hplace, Source.under, List.cons_prefix_cons]
      omega
    simp only [after, hnot, false_iff]
    omega
  · rw [List.getElem?_append_right (by simpa using hlt), List.length_map] at hk
    have hiff := h (k - sources.length) s hk
    simp only [after]
    rw [hiff]
    omega

end Contribution

namespace Node

mutual

theorem contributions_own (skipLists : Bool) (node : Node) :
    ∀ m ∈ contributions skipLists node, m.Owns (sources skipLists node) := by
  match node with
  | .text _ => simp [contributions]
  | .special _ _ => simp [contributions]
  | .element tag attributes children =>
    rw [contributions, sources]
    cases Role.of skipLists tag attributes with
    | lineBreak => simp
    | hidden => simp
    | checkBox => simp
    | content =>
      intro m hm
      rcases List.mem_append.mp hm with hm | hm
      · exact contributionsIn_own false 0 children m hm
      · obtain rfl := List.mem_singleton.mp hm
        exact Contribution.owns_root _ _

theorem contributionsIn_own (skipLists : Bool) (index : Nat) (nodes : List Node) :
    ∀ m ∈ contributionsIn skipLists index nodes, m.Owns (sourcesIn skipLists index nodes) := by
  match nodes with
  | [] => simp [contributionsIn]
  | node :: nodes =>
    intro m hm
    rw [sourcesIn]
    rcases List.mem_append.mp hm with hm | hm
    · obtain ⟨r, hr, rfl⟩ := List.mem_map.mp hm
      exact (contributions_own skipLists node r hr).append_left index
        (contributions_within skipLists node r hr) fun s hs =>
          exists_place_of_mem_sourcesIn hs
    · obtain ⟨r, hr, rfl⟩ := List.mem_map.mp hm
      exact (contributionsIn_own skipLists (index + 1) nodes r hr).append_right
        (exists_place_of_mem_contributionsIn hr)

end

theorem allContributions_own (skipLists : Bool) (tag : String) (attributes : Attributes)
    (children : List Node) :
    ∀ m ∈ allContributions skipLists tag attributes children,
      m.Owns (sourcesIn skipLists 0 children) := by
  intro m hm
  rcases List.mem_append.mp hm with hm | hm
  · exact contributionsIn_own skipLists 0 children m hm
  · obtain rfl := List.mem_singleton.mp hm
    exact Contribution.owns_root _ _

end Node

namespace CollectedText

/-- The interval marks what the element at a place contributed to a text with given sources. -/
structure Marks (t : Text) (sources : List Source) (place : Place) (i : StyleInterval) : Prop where
  fits : i.Fits t.length
  starts_solid : ∃ c, t[i.start.toNat]? = some c ∧ Text.isSolid c = true
  ends_solid : ∃ c, t[(i.stop - 1).toNat]? = some c ∧ Text.isSolid c = true
  covers_iff : ∀ (p : Nat) (c : Char), t[p]? = some c → Text.isSolid c = true →
    ((i.start ≤ p ∧ (p : Int) < i.stop) ↔
      ∃ s, sources[Text.rank t p]? = some s ∧ place <+: s.place)

/-- The interval of a contribution marks what the element owns. -/
theorem marks_intervalIn {t : Text} {sources : List Source} {m : Contribution}
    (ht : Text.solids t = sources.map Source.char) (hstyled : m.isStyled = true)
    (hin : m.Within sources.length) (howns : m.Owns sources) :
    Marks t sources m.place (m.intervalIn t) := by
  have hcount := (Contribution.isStyled_iff.mp hstyled).2
  have hlength : (Text.solids t).length = sources.length := by rw [ht, List.length_map]
  rw [← hlength] at hin
  have hfits := Contribution.intervalIn_fits hstyled hin
  rw [Contribution.Within] at hin
  refine ⟨hfits, ?_, ?_, ?_⟩
  · exact Text.mem_solidPositions.mp (Text.solidPosition_mem (by omega))
  · have hmem := Text.mem_solidPositions.mp
      (Text.solidPosition_mem (t := t) (k := m.first + m.count - 1) (by omega))
    simpa [Contribution.intervalIn] using hmem
  · intro p c hp hc
    have hrank := Text.rank_lt hp hc
    have hpos := Text.solidPosition_rank hp hc
    obtain ⟨s, hs⟩ : ∃ s, sources[Text.rank t p]? = some s :=
      ⟨_, List.getElem?_eq_getElem (by omega)⟩
    have hiff : (∃ s, sources[Text.rank t p]? = some s ∧ m.place <+: s.place) ↔
        m.first ≤ Text.rank t p ∧ Text.rank t p < m.first + m.count := by
      rw [← howns _ s hs]
      simp [hs]
    have hstart := Text.solidPosition_le_iff hp hc (j := m.first) (by omega)
    have hstop := Text.le_solidPosition_iff hp hc (j := m.first + m.count - 1) (by omega)
    rw [hiff]
    simp only [Contribution.intervalIn]
    omega

theorem isStyled_eq_any {sources : List Source} {m : Contribution} (hin : m.Within sources.length)
    (howns : m.Owns sources) :
    (!m.style.isEmpty && sources.any fun s => m.place.isPrefixOf s.place) = m.isStyled := by
  have hany : (sources.any fun s => m.place.isPrefixOf s.place) = (m.count != 0) := by
    rw [Bool.eq_iff_iff, List.any_eq_true, bne_iff_ne]
    constructor
    · rintro ⟨s, hs, hplace⟩
      obtain ⟨k, hk⟩ := List.getElem?_of_mem hs
      have hrange := (howns k s hk).mp (List.isPrefixOf_iff_prefix.mp hplace)
      omega
    · intro hcount
      rw [Contribution.Within] at hin
      have hfirst : m.first < sources.length := by omega
      have hget := List.getElem?_eq_getElem hfirst
      exact ⟨sources[m.first], List.getElem_mem hfirst,
        List.isPrefixOf_iff_prefix.mpr ((howns _ _ hget).mpr (by omega))⟩
  rw [hany, Contribution.isStyled]

/--
The intervals of a collected text are sorted by start and belong one to one to the elements that
have a style and a solid character at or below them; each marks exactly what its element
contributed. The solid characters of the text come from the sources, in order.
-/
theorem intervals_exact (skipLists preserve : Bool) (tag : String) (attributes : Attributes)
    (children : List Node) :
    let collected := ofElement skipLists preserve tag attributes children
    let sources := Node.sourcesIn skipLists 0 children
    let styled := (Node.allContributions skipLists tag attributes children).filter fun m =>
      !m.style.isEmpty && sources.any fun s => m.place.isPrefixOf s.place
    Text.solids collected.text = sources.map Source.char ∧
      StyleInterval.SortedByStart collected.intervals ∧
      ∃ intervals : List StyleInterval, intervals.Perm collected.intervals ∧
        List.Forall₂ (fun m i => i.style = m.style ∧ Marks collected.text sources m.place i)
          styled intervals := by
  intro collected sources styled
  obtain ⟨hsolids, hintervals⟩ := ofElement_eq skipLists preserve tag attributes children
  have hwithin := Node.allContributions_within skipLists tag attributes children
  have howns := Node.allContributions_own skipLists tag attributes children
  have hstyled : styled =
      (Node.allContributions skipLists tag attributes children).filter Contribution.isStyled :=
    List.filter_congr fun m hm => isStyled_eq_any (hwithin m hm) (howns m hm)
  refine ⟨hsolids, ?_, styled.map fun m => m.intervalIn collected.text, ?_, ?_⟩
  · rw [hintervals]
    exact StyleInterval.sortedByStart_sortByStart _
  · rw [hintervals, Contribution.intervalsIn, hstyled]
    simp only [Contribution.after_zero]
    exact (StyleInterval.sortByStart_perm _).symm
  · rw [List.forall₂_map_right_iff, List.forall₂_same]
    intro m hm
    rw [hstyled] at hm
    obtain ⟨hmem, hm⟩ := List.mem_filter.mp hm
    exact ⟨rfl, marks_intervalIn hsolids hm (hwithin m hmem) (howns m hmem)⟩

end CollectedText

end MarkupCompiler
