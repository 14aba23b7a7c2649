import MarkupCompiler.Block.Extract
import MarkupCompiler.Proofs.Collected.Inline
import MarkupCompiler.Proofs.Fragment.Settled

/-!
# Loose content

Inline content outside any block is joined from fragments, and inside a paragraph it is collected in
one walk. Both ways space their text by the same machine and register the same intervals, so after
each node the extraction follows the collector, and both make one paragraph in the end.
-/

namespace MarkupCompiler

def Node.isLineBreak : Node → Bool
  | .element tag _ _ => tag == "br"
  | _ => false

namespace Extraction

def addLoose (raw fragment : Text) (is : List StyleInterval) (e : Extraction) : Extraction :=
  { e with
    loose := (e.loose.append fragment
      (e.gap || raw.isEmpty || Text.beginsWith Text.isSpace raw)).registerStyles
        e.loose.localLength is
    gap := raw.isEmpty || Text.endsWith Text.isSpace raw }

structure Follows (s : Spacing) (c : Collector) (e : Extraction) : Prop where
  blocks : e.blocks = []
  clean : s.Clean
  buffer : c.buffer = s.render
  text : e.loose.text = s.text
  gap : (e.gap && Text.endsWith Text.isSolid s.text) = s.due
  settled : e.loose.Settled
  fits : ∀ i ∈ c.intervals, i.Fits s.text.length
  ranges : e.loose.ranges = StyleInterval.sortByStart c.intervals

namespace Follows

variable {s : Spacing} {c c' : Collector} {e : Extraction} {ts : List Token}

theorem start : Follows {} {} {} :=
  ⟨rfl, Spacing.clean_empty, rfl, rfl, rfl, FragmentBuffer.settled_empty, by simp, rfl⟩

/-- Whitespace is remembered as a gap. -/
theorem skip (h : Follows s c e) (hts : (Spacing.run {} ts).text = [])
    (hbuffer : c'.buffer = (s.run ts).render) (hintervals : c'.intervals = c.intervals) :
    Follows (s.run ts) c' { e with gap := e.gap || !ts.isEmpty } := by
  obtain ⟨hrun, -⟩ := Spacing.run_of_text_eq_nil hts s
  have hgap := h.gap
  refine ⟨h.blocks, Spacing.clean_run h.clean ts, hbuffer, ?_, ?_, h.settled, ?_, ?_⟩
  · rw [hrun, h.text]
  · rw [hrun, Spacing.due]
    simp only [Bool.and_or_distrib_right, hgap, Spacing.due]
  · rw [hrun, hintervals]
    exact h.fits
  · rw [hintervals, ← h.ranges]

/-- A buffer puts the space before a fragment that spacing puts there. -/
theorem seam_eq (h : Follows s c e) (hne : (Spacing.run {} ts).text ≠ []) :
    e.loose.seam (e.gap || (Spacing.rawOf ts).isEmpty ||
        Text.beginsWith Text.isSpace (Spacing.rawOf ts)) (Spacing.run {} ts).text =
      s.seam ts := by
  have hgap := h.gap
  rw [Spacing.due] at hgap
  rw [FragmentBuffer.seam, Spacing.seam, h.text]
  by_cases hhead : (Spacing.run {} ts).text.head? = some '\n'
  · simp [hhead]
  · obtain ⟨hraw, hleads⟩ := Spacing.leads_eq hne hhead
    have hraw : (Spacing.rawOf ts).isEmpty = false := by simpa using hraw
    simp only [hraw, hleads, Bool.or_false, Bool.and_or_distrib_right, hgap]

/-- A fragment is put down with its intervals. -/
theorem append (h : Follows s c e) (hne : (Spacing.run {} ts).text ≠ [])
    (hbuffer : c'.buffer = (s.run ts).render) {js : List StyleInterval}
    (hjs : ∀ i ∈ js, i.Fits (Spacing.run {} ts).text.length ∧ i.style.isEmpty = false)
    (hintervals : c'.intervals =
      c.intervals ++ js.map (StyleInterval.shifted (s.text ++ s.seam ts).length)) :
    Follows (s.run ts) c' (e.addLoose (Spacing.rawOf ts) (Spacing.run {} ts).text
      (StyleInterval.sortByStart js)) := by
  obtain ⟨htext, hdue⟩ := Spacing.run_of_text_ne_nil hne s
  have happended := FragmentBuffer.append_of_settled h.settled hne (e.gap ||
    (Spacing.rawOf ts).isEmpty || Text.beginsWith Text.isSpace (Spacing.rawOf ts))
  rw [h.seam_eq hne] at happended
  have hregister := FragmentBuffer.registerStyles_of_appended h.settled happended
    (h.ranges ▸ StyleInterval.sortedByStart_sortByStart _) fun i hi =>
      hjs i ((StyleInterval.sortByStart_perm js).mem_iff.mp hi)
  rw [← StyleInterval.sortByStart_map_shifted, h.ranges, h.text] at hregister
  have hlength : ((s.run ts).text.length : Int) =
      (s.text ++ s.seam ts).length + (Spacing.run {} ts).text.length := by
    rw [htext, List.length_append, Int.natCast_add]
  have hfront : s.text.length ≤ (s.text ++ s.seam ts).length := by simp
  -- The new intervals start behind all intervals that are there.
  have hbehind : ∀ i ∈ c.intervals,
      ∀ j ∈ js.map (StyleInterval.shifted (s.text ++ s.seam ts).length), i.start ≤ j.start := by
    intro i hi k hk
    obtain ⟨j, hj, rfl⟩ := List.mem_map.mp hk
    have hlt := (h.fits i hi).start_lt_stop
    have hle := (h.fits i hi).stop_le
    have hstart := (hjs j hj).1.start_nonneg
    simp only [StyleInterval.shifted]
    omega
  rw [addLoose, hregister, StyleInterval.sortByStart_append_sortByStart hbehind, ← hintervals]
  refine ⟨h.blocks, Spacing.clean_run h.clean ts, hbuffer, ?_, ?_,
    happended.settled.with_ranges _, ?_, rfl⟩
  · rw [htext, ← h.text]
    exact happended.text
  · rw [hdue, ← Spacing.due_eq hne, htext, Spacing.endsWith_append _ hne]
  · intro i hi
    rw [hintervals] at hi
    rcases List.mem_append.mp hi with hi | hi
    · exact (h.fits i hi).mono (by omega)
    · obtain ⟨j, hj, rfl⟩ := List.mem_map.mp hi
      rw [hlength]
      exact (hjs j hj).1.shifted (by omega)

end Follows

/-- An inline element that is no line break is taken as a loose fragment. -/
theorem visit_of_isInline {tag : String} (htag : Tags.isInline tag = true) (hbreak : (tag == "br") = false)
    {children : List Node} (hchildren : Node.isInlineAll children = true) (attributes : Attributes)
    (e : Extraction) :
    visit {} (.element tag attributes children) e = e.addLooseElement {} tag attributes children := by
  simp only [visit, Tags.lowerName_of_isInline htag, Tags.not_skipped_of_isInline htag, hbreak,
    Tags.not_blockLevel_of_isInline htag, Node.not_blockLevel_of_isInlineAll hchildren,
    Bool.false_eq_true, if_false]

namespace Follows

variable {s : Spacing} {c : Collector} {e : Extraction}

theorem visit_text (h : Follows s c e) (content : Text) :
    Follows (s.run (content.map .char)) (c.addText false content) (e.addLooseText content) := by
  have htext := Spacing.normalize_eq_run content
  have hbuffer : (c.addText false content).buffer = (s.run (content.map .char)).render := by
    rw [Collector.addText_eq_run h.buffer]
  have hintervals : (c.addText false content).intervals = c.intervals := by
    rw [Collector.addText_eq_run h.buffer]
  rw [addLooseText]
  by_cases hempty : Text.normalize content = []
  · have hskip := h.skip (htext ▸ hempty) hbuffer hintervals
    cases content with
    | nil => simpa [hempty] using hskip
    | cons d content => simpa [hempty] using hskip
  · have hraw := Spacing.rawOf_chars content
    have hcontent : content.isEmpty = false := by
      rw [List.isEmpty_eq_false_iff]
      rintro rfl
      exact hempty rfl
    have hnone : ∀ i ∈ ([] : List StyleInterval),
        i.Fits (Spacing.run {} (content.map .char)).text.length ∧ i.style.isEmpty = false :=
      fun i hi => absurd hi List.not_mem_nil
    have happend := h.append (htext ▸ hempty) hbuffer hnone (by simpa using hintervals)
    rw [hraw, ← htext] at happend
    simpa [hempty, addLoose, hcontent, StyleInterval.sortByStart,
      FragmentBuffer.registerStyles] using happend

theorem visit_element (h : Follows s c e) {tag : String} (htag : Tags.isInline tag = true)
    (hbreak : (tag == "br") = false) {children : List Node}
    (hchildren : Node.isInlineAll children = true) (attributes : Attributes) :
    Follows (s.run (Node.tokensAll children))
      (Collector.visit false false (.element tag attributes children) c)
      (e.addLooseElement {} tag attributes children) := by
  have hinline : Node.isInline (.element tag attributes children) = true := by
    rw [Node.isInline, htag, hchildren]
    rfl
  have hbuffer := Collector.visit_buffer hinline h.buffer h.clean
  rw [Node.tokens, if_neg (Bool.eq_false_iff.mp hbreak)] at hbuffer
  have htext := CollectedText.ofElement_text (Tags.not_preserving_of_isInline htag) hchildren
    attributes
  obtain ⟨-, hintervals⟩ := CollectedText.ofElement_eq false false tag attributes children
  have hwithin := CollectedText.within_of_isInline htag hchildren attributes
  rw [addLooseElement, Node.rawText_of_isInline htag hchildren, hintervals, htext]
  by_cases hempty : (Spacing.run {} (Node.tokensAll children)).text = []
  · have hskip := h.skip hempty hbuffer
      (Collector.intervals_visit_of_text_eq_nil htag hbreak hchildren attributes hempty)
    have hends := Spacing.endsWith_rawOf hempty
    rw [hempty, hends]
    cases hnil : (Node.tokensAll children).isEmpty with
    | true => simpa [hnil] using hskip
    | false => simpa [hnil] using hskip
  · have happend := h.append hempty hbuffer (Contribution.intervalsIn_fits hwithin)
      (Collector.intervals_visit_of_text_ne_nil htag hbreak hchildren attributes h.buffer h.clean
        hempty)
    simpa [hempty, addLoose] using happend

theorem visit (h : Follows s c e) {node : Node} (hnode : node.isInline = true)
    (hbreak : node.isLineBreak = false) :
    Follows (s.run node.tokens) (Collector.visit false false node c) (Extraction.visit {} node e) := by
  cases node with
  | text content =>
    rw [Collector.visit, Extraction.visit]
    exact h.visit_text content
  | special kind content =>
    rw [Collector.visit, Extraction.visit]
    exact h
  | element tag attributes children =>
    rw [Node.isInline, Bool.and_eq_true] at hnode
    have hname : (tag == "br") = false := hbreak
    rw [visit_of_isInline hnode.1 hname hnode.2, Node.tokens, if_neg (by simp [hname])]
    exact h.visit_element hnode.1 hbreak hnode.2 attributes

theorem visitAll (h : Follows s c e) {nodes : List Node} (hnodes : Node.isInlineAll nodes = true)
    (hbreak : ∀ node ∈ nodes, node.isLineBreak = false) :
    Follows (s.run (Node.tokensAll nodes)) (Collector.visitAll false false nodes c)
      (Extraction.visitAll {} nodes e) := by
  induction nodes generalizing s c e with
  | nil => exact h
  | cons node nodes ih =>
    rw [Node.isInlineAll, Bool.and_eq_true] at hnodes
    have hnode := h.visit hnodes.1 (hbreak node List.mem_cons_self)
    rw [Node.tokensAll, Spacing.run_append, Collector.visitAll, Extraction.visitAll]
    exact ih hnode hnodes.2 fun n hn => hbreak n (List.mem_cons_of_mem node hn)

end Follows

end Extraction

/-- A document that holds one paragraph element makes one block of its text. -/
theorem Block.ofRoot_paragraph (nodes : List Node) :
    ofRoot (.document [.element "p" [] nodes]) =
      [{ text := (CollectedText.ofElement false false "p" [] nodes).text
         intervals := (CollectedText.ofElement false false "p" [] nodes).intervals }] := by
  rfl

/--
Loose inline content compiles like the same content inside a paragraph: to nothing if the paragraph
has no text, and to the block of the paragraph otherwise.
-/
theorem Block.ofRoot_loose {nodes : List Node} (hnodes : Node.isInlineAll nodes = true)
    (hbreak : ∀ node ∈ nodes, node.isLineBreak = false) :
    (∃ block, ofRoot (.document [.element "p" [] nodes]) = [block]) ∧
      ofRoot (.document nodes) =
        if (CollectedText.ofElement false false "p" [] nodes).text = [] then []
        else ofRoot (.document [.element "p" [] nodes]) := by
  refine ⟨⟨_, ofRoot_paragraph nodes⟩, ?_⟩
  have h := Extraction.Follows.start.visitAll hnodes hbreak
  generalize hc : Collector.visitAll false false nodes {} = c at h
  generalize he : Extraction.visitAll {} nodes {} = e at h
  generalize Spacing.run {} (Node.tokensAll nodes) = s at h
  have hcollected : CollectedText.ofElement false false "p" [] nodes = c.finish false := by
    have hrecord : c.record "p" [] 0 = c := Collector.record_eq_self (Or.inl rfl)
    rw [← hrecord, ← hc]
    rfl
  have htext : (c.finish false).text = s.text := Collector.finish_eq_text h.buffer h.clean
  have hsorted : ∀ i ∈ e.loose.ranges, i.Fits s.text.length := by
    intro i hi
    rw [h.ranges] at hi
    exact h.fits i ((StyleInterval.sortByStart_perm _).mem_iff.mp hi)
  have hintervals : (c.finish false).intervals = e.loose.ranges := by
    have hclamp := StyleInterval.clampAll_eq_self h.fits
    rw [h.ranges, ← hclamp, ← htext]
    rfl
  have hflush : ofRoot (.document nodes) = (e.flushLoose {}).blocks := by
    rw [← he]
    rfl
  rw [hflush, ofRoot_paragraph, hcollected, htext, hintervals, Extraction.flushLoose, h.text,
    StyleInterval.clampAll_eq_self hsorted]
  by_cases hempty : s.text = []
  · simp [hempty, h.blocks]
  · simp [hempty, h.blocks, Extraction.addParagraph, Extraction.addBlock, Surroundings.indented]

/-- Bold text with a line break in it, between other texts. -/
theorem Block.ofRoot_loose_bold :
    let bold : Node := .element "b" [] [.text ['x', ' '], .element "br" [] [], .text [' ', 'y']]
    let nodes : List Node := [.text ['a', ' '], .special .comment ['c'], bold, .text ['z']]
    ofRoot (.document nodes) = ofRoot (.document [.element "p" [] nodes]) := by
  intro bold nodes
  have hnodes : Node.isInlineAll nodes = true := by decide +kernel
  have hbreak : ∀ node ∈ nodes, node.isLineBreak = false := by decide +kernel
  have htext : (CollectedText.ofElement false false "p" [] nodes).text ≠ [] := by decide +kernel
  rw [(ofRoot_loose hnodes hbreak).2, if_neg htext]

end MarkupCompiler
