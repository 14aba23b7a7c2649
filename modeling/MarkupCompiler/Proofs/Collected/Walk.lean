import MarkupCompiler.Proofs.Collected.Contribution
import MarkupCompiler.Proofs.Interval.Sorted

/-!
# What a walk does to a collector

A walk changes the buffer behind the last solid character only: it may replace a space by a line
feed, but it moves no solid character and takes none away. So an offset that an open element has
recorded stays valid, and every interval that a walk records is the interval of a contribution.
The end of the walk trims whitespace and thereby changes no interval.
-/

namespace MarkupCompiler

namespace Collector

theorem isSpace_box (isChecked : Bool) : Text.isSpace (box isChecked) = false := by
  cases isChecked <;> rfl

theorem solids_box (isChecked : Bool) : Text.solids [box isChecked, ' '] = [box isChecked] := by
  rw [Text.solids_cons_of_solid (isSpace_box isChecked)]
  rfl

/-- A visited element does what its part in the walk says. -/
theorem visit_element (preserve skipLists : Bool) (tag : String) (attributes : Attributes)
    (children : List Node) (c : Collector) :
    visit preserve skipLists (.element tag attributes children) c =
      match Role.of skipLists tag attributes with
      | .lineBreak => c.addBreak preserve
      | .hidden => c
      | .checkBox => c.addText preserve [box (attributes.has "checked"), ' ']
      | .content =>
        (visitAll (preserve || Tags.preserving.contains (Text.lowerName tag)) false children
          c).record tag attributes c.buffer.length := by
  simp only [visit, Role.of]
  split_ifs <;> rfl

theorem buffer_record (tag : String) (attributes : Attributes) (start : Nat) (c : Collector) :
    (c.record tag attributes start).buffer = c.buffer := by
  rw [record]
  split <;> rfl

/-- An element without a style or without a solid character leaves no interval. -/
theorem record_eq_self {tag : String} {attributes : Attributes} {start : Nat} {c : Collector}
    (h : (TextStyle.ofElement tag attributes).isEmpty = true ∨
      Text.solids (c.buffer.drop start) = []) : c.record tag attributes start = c := by
  rw [record, if_pos]
  simpa [Text.trim_eq_nil_iff] using h

/-- Any other element leaves the interval from its first to its last solid character. -/
theorem record_eq {tag : String} {attributes : Attributes} {start : Nat} {c : Collector}
    (hstyle : (TextStyle.ofElement tag attributes).isEmpty = false) {chars : Text}
    (hchars : Text.solids (c.buffer.drop start) = chars) (hne : chars ≠ []) :
    c.record tag attributes start =
      { c with intervals := c.intervals ++
          [⟨(start + Text.solidPosition (c.buffer.drop start) 0 : Nat),
            (start + Text.solidPosition (c.buffer.drop start) (chars.length - 1) : Nat) + 1,
            TextStyle.ofElement tag attributes⟩] } := by
  subst hchars
  obtain ⟨hfirst, hlast⟩ := Text.solidPosition_ends hne
  have hstop : start + Text.solidPosition (c.buffer.drop start)
        ((Text.solids (c.buffer.drop start)).length - 1) + 1 =
      start + ((c.buffer.drop start).takeWhile Text.isSpace).length +
        (Text.trim Text.isSpace (c.buffer.drop start)).length := by
    omega
  rw [record, if_neg (by simpa [hstyle, Text.trim_eq_nil_iff] using hne), hfirst,
    ← Int.natCast_succ, Nat.succ_eq_add_one, hstop, Int.natCast_add (start + _)]

/--
From one collector to the next, the buffer keeps its outline and gains solid characters, and the
intervals of the contributions made on the way are recorded.
-/
structure Walks (chars : Text) (marks : List Contribution) (c c' : Collector) : Prop where
  outline : Text.outline c.buffer <+: Text.outline c'.buffer
  solids : Text.solids c'.buffer = Text.solids c.buffer ++ chars
  intervals : c'.intervals =
    c.intervals ++ Contribution.intervalsIn c'.buffer (Text.solids c.buffer).length marks

namespace Walks

theorem refl (c : Collector) : Walks [] [] c c :=
  ⟨List.prefix_refl _, (List.append_nil _).symm, (List.append_nil _).symm⟩

theorem trans {chars more : Text} {marks others : List Contribution} {c d e : Collector}
    (hcd : Walks chars marks c d) (hmarks : ∀ m ∈ marks, m.Within chars.length)
    (hde : Walks more others d e) :
    Walks (chars ++ more) (marks ++ others.map (·.after chars.length)) c e where
  outline := hcd.outline.trans hde.outline
  solids := by rw [hde.solids, hcd.solids, List.append_assoc]
  intervals := by
    have hkeep : Contribution.intervalsIn e.buffer (Text.solids c.buffer).length marks =
        Contribution.intervalsIn d.buffer (Text.solids c.buffer).length marks := by
      refine Contribution.intervalsIn_of_outline_extends hde.outline fun m hm => ?_
      have hin := hmarks m hm
      rw [hcd.solids, List.length_append]
      simp only [Contribution.Within, Contribution.after] at hin ⊢
      omega
    rw [hde.intervals, hcd.intervals, Contribution.intervalsIn_append, hkeep,
      Contribution.intervalsIn_map_after, hcd.solids, List.length_append, List.append_assoc]

theorem under {chars : Text} {marks : List Contribution} {c d : Collector}
    (h : Walks chars marks c d) (index : Nat) : Walks chars (marks.map (·.under index)) c d where
  outline := h.outline
  solids := h.solids
  intervals := by rw [Contribution.intervalsIn_map_under, h.intervals]

theorem addText (preserve : Bool) (raw : Text) (c : Collector) :
    Walks (Text.solids raw) [] c (c.addText preserve raw) := by
  have hadd : ∃ text, (c.addText preserve raw).buffer = c.buffer ++ text ∧
      (c.addText preserve raw).intervals = c.intervals ∧ Text.solids text = Text.solids raw := by
    rw [Collector.addText]
    split
    · exact ⟨raw, rfl, rfl, rfl⟩
    · refine ⟨_, rfl, rfl, ?_⟩
      split
      · next hspace =>
        simp only [Bool.and_eq_true, beq_iff_eq] at hspace
        obtain ⟨rest, hrest⟩ := List.head?_eq_some_iff.mp hspace.2
        rw [← Text.solids_collapse raw, hrest, List.drop_one, List.tail_cons,
          Text.solids_cons_of_space rfl]
      · exact Text.solids_collapse raw
  obtain ⟨text, hbuffer, hintervals, htext⟩ := hadd
  refine ⟨?_, ?_, ?_⟩
  · rw [hbuffer, Text.outline_append]
    exact List.prefix_append _ _
  · rw [hbuffer, Text.solids_append, htext]
  · simp [hintervals]

theorem addBreak (preserve : Bool) (c : Collector) : Walks [] [] c (c.addBreak preserve) := by
  rw [Collector.addBreak]
  by_cases hspace : (!preserve && c.buffer.getLast? == some ' ') = true
  · rw [if_pos hspace]
    simp only [Bool.and_eq_true, beq_iff_eq] at hspace
    obtain ⟨init, hinit⟩ := List.getLast?_eq_some_iff.mp hspace.2
    refine ⟨?_, ?_, by simp⟩
    · simp only [hinit, List.dropLast_concat, Text.outline_append]
      exact List.prefix_refl _
    · simp only [hinit, List.dropLast_concat, Text.solids_append, List.append_nil]
      rfl
  · rw [if_neg hspace]
    refine ⟨?_, ?_, by simp⟩
    · simp
    · simp only [Text.solids_append]
      rfl

/-- Leaving an element records the interval of its contribution. -/
theorem record {chars : Text} {marks : List Contribution} {c d : Collector}
    (h : Walks chars marks c d) (tag : String) (attributes : Attributes) :
    Walks chars (marks ++ [⟨[], TextStyle.ofElement tag attributes, 0, chars.length⟩]) c
      (d.record tag attributes c.buffer.length) := by
  have hbuffer := buffer_record tag attributes c.buffer.length d
  have hproduced : Text.solids (d.buffer.drop c.buffer.length) = chars :=
    Text.solids_drop_of_outline_extends h.outline h.solids
  refine ⟨hbuffer ▸ h.outline, hbuffer ▸ h.solids, ?_⟩
  rw [hbuffer, Contribution.intervalsIn_append, ← List.append_assoc, ← h.intervals]
  by_cases hempty : (TextStyle.ofElement tag attributes).isEmpty = true ∨ chars = []
  · have hnone : Contribution.isStyled
        ⟨[], TextStyle.ofElement tag attributes, 0, chars.length⟩ = false := by
      rcases hempty with hstyle | hchars <;> simp [Contribution.isStyled, *]
    rw [record_eq_self (hproduced.symm ▸ hempty)]
    simp [Contribution.intervalsIn, hnone]
  · obtain ⟨hstyle, hchars⟩ := not_or.mp hempty
    rw [Bool.not_eq_true] at hstyle
    have hsome : Contribution.isStyled
        ⟨[], TextStyle.ofElement tag attributes, 0, chars.length⟩ = true := by
      simpa [Contribution.isStyled, hstyle] using hchars
    have hlen : 0 < chars.length := List.length_pos_iff.mpr hchars
    have hstart := Text.solidPosition_of_outline_extends_right h.outline (k := 0)
      (by rw [hproduced]; exact hlen)
    have hstop := Text.solidPosition_of_outline_extends_right h.outline (k := chars.length - 1)
      (by rw [hproduced]; omega)
    rw [record_eq hstyle hproduced hchars, ← hstart, ← hstop,
      ← Nat.add_sub_assoc (by omega)]
    simp [Contribution.intervalsIn, hsome, Contribution.intervalIn, Contribution.after]

end Walks

mutual

theorem walks_visit (preserve skipLists : Bool) (node : Node) (c : Collector) :
    Walks ((Node.sources skipLists node).map Source.char) (Node.contributions skipLists node) c
      (visit preserve skipLists node c) := by
  match node with
  | .text content =>
    rw [visit, Node.sources, Node.contributions, List.map_map]
    simpa [Function.comp_def] using Walks.addText preserve content c
  | .special _ _ =>
    rw [visit, Node.sources, Node.contributions]
    exact Walks.refl c
  | .element tag attributes children =>
    rw [visit_element, Node.sources, Node.contributions]
    cases Role.of skipLists tag attributes with
    | lineBreak => exact Walks.addBreak preserve c
    | hidden => exact Walks.refl c
    | checkBox =>
      have hbox := Walks.addText preserve [box (attributes.has "checked"), ' '] c
      rwa [solids_box] at hbox
    | content =>
      have hchildren := walks_visitAll
        (preserve || Tags.preserving.contains (Text.lowerName tag)) false 0 children c
      simpa using hchildren.record tag attributes

theorem walks_visitAll (preserve skipLists : Bool) (index : Nat) (nodes : List Node)
    (c : Collector) :
    Walks ((Node.sourcesIn skipLists index nodes).map Source.char)
      (Node.contributionsIn skipLists index nodes) c (visitAll preserve skipLists nodes c) := by
  match nodes with
  | [] => exact Walks.refl c
  | node :: nodes =>
    have hnode := (walks_visit preserve skipLists node c).under index
    have hnodes := walks_visitAll preserve skipLists (index + 1) nodes
      (visit preserve skipLists node c)
    have hwithin : ∀ m ∈ (Node.contributions skipLists node).map (·.under index),
        m.Within ((Node.sources skipLists node).map Source.char).length := by
      intro m hm
      obtain ⟨r, hr, rfl⟩ := List.mem_map.mp hm
      simpa using Node.contributions_within skipLists node r hr
    have hboth := hnode.trans hwithin hnodes
    rw [Node.chars_sourcesIn_cons, Node.contributionsIn, visitAll]
    rwa [List.length_map] at hboth

end

/-- Trimming the end takes no solid character away and moves none. -/
theorem finish_text (preserve : Bool) (c : Collector) :
    Text.outline (c.finish preserve).text <+: Text.outline c.buffer ∧
      Text.solids (c.finish preserve).text = Text.solids c.buffer := by
  have hspace : ∀ ch, (Text.isSpace ch && (preserve || ch != '\n')) = true →
      Text.isSpace ch = true := by
    intro ch hch
    exact (Bool.and_eq_true_iff.mp hch).1
  obtain ⟨cut, hcut, -⟩ := Text.exists_trimEnd
    (fun ch => Text.isSpace ch && (preserve || ch != '\n')) c.buffer
  refine ⟨?_, Text.solids_trimEnd hspace c.buffer⟩
  rw [hcut, Text.outline_append]
  exact List.prefix_append _ _

end Collector

namespace Contribution

/-- The interval of a styled contribution is not empty and lies within the text. -/
theorem intervalIn_fits {t : Text} {s : Contribution} (hstyled : s.isStyled = true)
    (hin : s.Within (Text.solids t).length) : (s.intervalIn t).Fits t.length := by
  have hcount := (isStyled_iff.mp hstyled).2
  rw [Within] at hin
  have hle := Text.solidPosition_le (t := t) (j := s.first) (k := s.first + s.count - 1)
    (by omega) (by omega)
  have hlt := Text.solidPosition_lt_length (t := t) (k := s.first + s.count - 1) (by omega)
  constructor <;> simp only [intervalIn] <;> omega

theorem intervalsIn_fits {t : Text} {marks : List Contribution}
    (h : ∀ m ∈ marks, m.Within (Text.solids t).length) :
    ∀ i ∈ intervalsIn t 0 marks, i.Fits t.length ∧ i.style.isEmpty = false := by
  intro i hi
  obtain ⟨m, hm, rfl⟩ := List.mem_map.mp hi
  obtain ⟨hmem, hstyled⟩ := List.mem_filter.mp hm
  rw [after_zero]
  exact ⟨intervalIn_fits hstyled (h m hmem), (isStyled_iff.mp hstyled).1⟩

/-- Behind another text, the intervals of contributions stand further on. -/
theorem intervalsIn_append_right (before rest : Text) {t : Text} {marks : List Contribution}
    (h : ∀ m ∈ marks, m.Within (Text.solids t).length) :
    intervalsIn (before ++ t ++ rest) (Text.solids before).length marks =
      (intervalsIn t 0 marks).map (StyleInterval.shifted before.length) := by
  rw [intervalsIn, intervalsIn, List.map_map]
  refine List.map_congr_left fun m hm => ?_
  obtain ⟨hmem, hstyled⟩ := List.mem_filter.mp hm
  have hcount := (isStyled_iff.mp hstyled).2
  have hin := h m hmem
  rw [Within] at hin
  have hpos : ∀ k, k < (Text.solids t).length →
      Text.solidPosition (before ++ t ++ rest) ((Text.solids before).length + k) =
        before.length + Text.solidPosition t k := by
    intro k hk
    have hfront : Text.outline t <+: Text.outline (t ++ rest) := by simp
    have hlen : k < (Text.solids (t ++ rest)).length := by
      rw [Text.solids_append, List.length_append]
      omega
    rw [List.append_assoc, Text.solidPosition_append_right before hlen,
      Text.solidPosition_of_outline_extends hfront hk]
  have hstop : (Text.solids before).length + m.first + m.count - 1 =
      (Text.solids before).length + (m.first + m.count - 1) := by omega
  simp only [Function.comp_apply, intervalIn, after, StyleInterval.shifted, Nat.zero_add, hstop,
    hpos m.first (by omega), hpos (m.first + m.count - 1) (by omega), Int.natCast_add, Int.add_assoc]

end Contribution

namespace CollectedText

/--
The text of an element holds the solid characters that the walk takes, and its intervals are those
of the styled contributions, sorted by start.
-/
theorem ofElement_eq (skipLists preserve : Bool) (tag : String) (attributes : Attributes)
    (children : List Node) :
    Text.solids (ofElement skipLists preserve tag attributes children).text =
        (Node.sourcesIn skipLists 0 children).map Source.char ∧
      (ofElement skipLists preserve tag attributes children).intervals =
        StyleInterval.sortByStart
          (Contribution.intervalsIn (ofElement skipLists preserve tag attributes children).text 0
            (Node.allContributions skipLists tag attributes children)) := by
  let keeps := preserve || Tags.preserving.contains (Text.lowerName tag)
  let walked := Collector.visitAll keeps skipLists children {}
  let final := walked.record tag attributes 0
  have hwalk : Collector.Walks ((Node.sourcesIn skipLists 0 children).map Source.char)
      (Node.allContributions skipLists tag attributes children) {} final := by
    have h := (Collector.walks_visitAll keeps skipLists 0 children {}).record tag attributes
    rwa [List.length_map] at h
  have hsolids : Text.solids final.buffer = (Node.sourcesIn skipLists 0 children).map Source.char :=
    hwalk.solids
  obtain ⟨houtline, htext⟩ := Collector.finish_text keeps final
  have hlength : (Text.solids (final.finish keeps).text).length =
      (Node.sourcesIn skipLists 0 children).length := by
    rw [htext, hsolids, List.length_map]
  have hwithin : ∀ m ∈ Node.allContributions skipLists tag attributes children,
      (m.after 0).Within (Text.solids (final.finish keeps).text).length := by
    intro m hm
    rw [Contribution.after_zero, hlength]
    exact Node.allContributions_within skipLists tag attributes children m hm
  -- trimming keeps the outline, so the intervals the walk recorded are those of the final text
  have hintervals : final.intervals = Contribution.intervalsIn (final.finish keeps).text 0
      (Node.allContributions skipLists tag attributes children) :=
    hwalk.intervals.trans (Contribution.intervalsIn_of_outline_extends houtline hwithin)
  refine ⟨htext.trans hsolids, ?_⟩
  have hfits : ∀ i ∈ final.intervals, i.Fits (final.finish keeps).text.length := by
    intro i hi
    rw [hintervals] at hi
    refine (Contribution.intervalsIn_fits (fun m hm => ?_) i hi).1
    exact Contribution.after_zero m ▸ hwithin m hm
  have hclamp := StyleInterval.clampAll_eq_self hfits
  have hfinish : (final.finish keeps).intervals = StyleInterval.sortByStart
      (StyleInterval.clampAll (final.finish keeps).text.length final.intervals) := rfl
  change (final.finish keeps).intervals = _
  rw [hfinish, hclamp, hintervals]
  rfl

theorem allContributions_within_text (skipLists preserve : Bool) (tag : String)
    (attributes : Attributes) (children : List Node) :
    ∀ m ∈ Node.allContributions skipLists tag attributes children,
      m.Within (Text.solids (ofElement skipLists preserve tag attributes children).text).length := by
  obtain ⟨hsolids, -⟩ := ofElement_eq skipLists preserve tag attributes children
  rw [hsolids, List.length_map]
  exact Node.allContributions_within skipLists tag attributes children

end CollectedText

end MarkupCompiler
