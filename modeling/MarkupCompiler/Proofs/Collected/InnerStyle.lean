import MarkupCompiler.Proofs.Collected.Deciding
import MarkupCompiler.Proofs.Collected.Laminar
import MarkupCompiler.Proofs.Request.Painting

/-!
# Inner and outer styles

What the intervals of a collected text paint is known for each position and slot, and the requests
for a block with this text paint the same. An inner style prevails over an outer one only where the
outer element has text before it; from a common start on, the outer style prevails.
-/

namespace MarkupCompiler

namespace CollectedText

/-- The intervals of a collected text lie within it, and none is empty. -/
theorem ofElement_fits (skipLists preserve : Bool) (tag : String) (attributes : Attributes)
    (children : List Node) :
    ∀ i ∈ (ofElement skipLists preserve tag attributes children).intervals,
      i.Fits (ofElement skipLists preserve tag attributes children).text.length := by
  obtain ⟨-, hintervals⟩ := ofElement_eq skipLists preserve tag attributes children
  intro i hi
  rw [hintervals, (StyleInterval.sortByStart_perm _).mem_iff] at hi
  exact (Contribution.intervalsIn_fits
    (allContributions_within_text skipLists preserve tag attributes children) i hi).1

/--
A slot of a position takes the value of the outermost of those elements that reach the position with
this slot and start where the innermost of them starts. So the innermost one prevails exactly if the
two agree. A run over a block with the text, in any surroundings, fails on nothing but what it has to
put on record and a level that is too large, and its requests paint what the intervals paint.
-/
theorem slot_paint_intervals (skipLists preserve : Bool) (tag : String) (attributes : Attributes)
    (children : List Node) :
    let collected := ofElement skipLists preserve tag attributes children
    let marks := Node.allContributions skipLists tag attributes children
    (∀ p k,
      let painted := (StyleInterval.paint collected.intervals p).slot k
      ((∀ m ∈ marks, m.Reaches collected.text p k = false) ∧ painted = none) ∨
        ∃ inner outer, Contribution.IsInnermost collected.text p k marks inner ∧
          Contribution.IsOutermostFrom collected.text p k marks
            (inner.intervalIn collected.text).start outer ∧
          painted = outer.style.slot k ∧
          (painted = inner.style.slot k ↔ outer.style.slot k = inner.style.slot k)) ∧
      ∀ (around : Surroundings) (name : String) (given : Attributes)
        (list? : Option ListMembership) (cell? : Option CellGeometry) (start : Int),
        let b : Block := ⟨collected.text, around.indented (ParagraphStyle.ofElement name given),
          collected.intervals, list?, cell?⟩
        ((∃ requests cursor, Generator.run {} [b] start = (.ok requests, cursor)) ↔
            Generator.Records b start) ∧
          ∀ requests cursor, Generator.run {} [b] start = (.ok requests, cursor) →
            ∀ p, Request.paint requests (start + p) =
              StyleInterval.paint collected.intervals p := by
  intro collected marks
  refine ⟨fun p k => ?_, fun around name given list? cell? start => ?_⟩
  · obtain ⟨-, hintervals⟩ := ofElement_eq skipLists preserve tag attributes children
    have hdecides := Contribution.slot_paint_sortByStart
      (Node.allContributions_pairwise skipLists tag attributes children)
      (allContributions_within_text skipLists preserve tag attributes children) p k
    rw [← hintervals] at hdecides
    rcases hdecides with hnone | ⟨inner, outer, hinner, houter, hpainted⟩
    · exact Or.inl hnone
    · exact Or.inr ⟨inner, outer, hinner, houter, hpainted, by rw [hpainted]⟩
  · exact Generator.run_paint start (Surroundings.exists_headingRank_indented around name given)
      (ofElement_fits skipLists preserve tag attributes children)
      (ofElement_pairwise_rangeLe skipLists preserve tag attributes children)

/-- Code that begins with a font of its own keeps the font of code there. -/
theorem code_font_prevails :
    let arial : Attributes := [("style", .text "font-family:Arial")]
    let children := [Node.element "code" [] [.element "span" arial [.text ['x']]]]
    let collected := ofElement false false "p" [] children
    let inner : Contribution := ⟨[0, 0], TextStyle.ofElement "span" arial, 0, 1⟩
    Contribution.IsInnermost collected.text 0 .fontFamily
        (Node.allContributions false "p" [] children) inner ∧
      inner.style.slot .fontFamily = some (.name "Arial") ∧
      (StyleInterval.paint collected.intervals 0).slot .fontFamily = some (.name "Consolas") ∧
      ∃ requests cursor, Generator.run {} (Block.ofRoot (.document [.element "p" [] children])) 1 =
          (.ok requests, cursor) ∧
        (Request.paint requests 1).slot .fontFamily = some (.name "Consolas") := by
  refine ⟨⟨?_, ?_, ?_⟩, rfl, ?_, Generator.exists_run_of_map_eq ?_⟩
  · decide +kernel
  · decide +kernel
  · decide +kernel
  · decide +kernel
  · decide +kernel

end CollectedText

end MarkupCompiler
