import MarkupCompiler.Proofs.Block.Origin
import MarkupCompiler.Proofs.Config.Kinds
import MarkupCompiler.Proofs.Interval.Ranges
import MarkupCompiler.Proofs.Request.Painting

/-!
# Well-formed blocks

Whatever a tree holds, its blocks are well formed: intervals lie within the text and are sorted, places
in lists and tables are counted from their least numbers on, and the style has a name that markup can
give. So under a configuration whose options hold styles of the right kind, the styles of a tree's blocks
can be computed. What is left to fail are numbers that are too large: the columns of a table, the position
behind the last block, and the level of a list item.
-/

namespace MarkupCompiler

namespace ParagraphStyle

/-- The names of the styles that markup can give a paragraph. -/
def markupNames : List String :=
  [normalName, "HEADING_1", "HEADING_2", "HEADING_3", "HEADING_4", "HEADING_5", "HEADING_6"]

def IsNamed (s : ParagraphStyle) : Prop := ∃ name ∈ markupNames, s.namedStyle = some name

theorem isNamed_ofElement (tag : String) (attributes : Attributes) :
    (ofElement tag attributes).IsNamed := by
  refine ⟨_, ?_, rfl⟩
  generalize Text.lowerName tag = name
  by_cases hmem : name ∈ ["h1", "h2", "h3", "h4", "h5", "h6"]
  · have hnames : ∀ name ∈ ["h1", "h2", "h3", "h4", "h5", "h6"],
        (headingName? name).getD normalName ∈ markupNames := by decide
    exact hnames name hmem
  · rw [headingName?, if_neg (by simpa using hmem)]
    exact List.mem_cons_self

/-- The rank of a style that markup can give can be read. -/
theorem IsNamed.exists_headingRank {s : ParagraphStyle} (h : s.IsNamed) :
    ∃ rank, s.headingRank = .ok rank := by
  obtain ⟨name, hname, hs⟩ := h
  rw [headingRank_of_namedStyle_eq hs]
  simp only [markupNames, List.mem_cons, List.not_mem_nil, or_false] at hname
  rcases hname with rfl | rfl | rfl | rfl | rfl | rfl | rfl
  · exact ⟨none, rfl⟩
  · exact ⟨some 1, rfl⟩
  · exact ⟨some 2, rfl⟩
  · exact ⟨some 3, rfl⟩
  · exact ⟨some 4, rfl⟩
  · exact ⟨some 5, rfl⟩
  · exact ⟨some 6, rfl⟩

/-- An indent leaves the name of a style alone. -/
theorem IsNamed.indented {s : ParagraphStyle} (h : s.IsNamed) (around : Surroundings) :
    (around.indented s).IsNamed := by
  obtain ⟨name, hname, hs⟩ := h
  exact ⟨name, hname, (around.namedStyle_indented s).trans hs⟩

end ParagraphStyle

namespace StyleInterval

/-- Clamping keeps the order of starts. -/
theorem SortedByStart.clampAll {is : List StyleInterval} (h : SortedByStart is) (length : Int) :
    SortedByStart (clampAll length is) := by
  refine List.Pairwise.filter _ (List.pairwise_map.mpr (h.imp fun {i j} hij => ?_))
  simp only [clamped]
  omega

theorem styled_clampAll {is : List StyleInterval} (h : ∀ i ∈ is, i.style.isEmpty = false)
    (length : Int) : ∀ i ∈ clampAll length is, i.style.isEmpty = false := by
  intro i hi
  obtain ⟨j, hj, rfl⟩ := List.mem_map.mp (List.mem_of_mem_filter hi)
  exact h j hj

end StyleInterval

namespace Block

/-- What every block of a tree satisfies. -/
structure WellFormed (block : Block) : Prop where
  fits : ∀ i ∈ block.intervals, i.Fits block.text.length
  styled : ∀ i ∈ block.intervals, i.style.isEmpty = false
  sorted : StyleInterval.SortedByStart block.intervals
  /-- A block has a place in a list or in a table, but not in both. -/
  apart : block.list? = none ∨ block.cell? = none
  list : ∀ list ∈ block.list?, 0 ≤ list.nestingLevel ∧ 1 ≤ list.position
  cell : ∀ cell ∈ block.cell?,
    0 ≤ cell.rowIndex ∧ 0 ≤ cell.columnIndex ∧ 1 ≤ cell.rowSpan ∧ 1 ≤ cell.columnSpan
  named : block.paragraphStyle.IsNamed

theorem wellFormed_of_sound {collected : CollectedText} (h : collected.Sound) {style : ParagraphStyle}
    (hnamed : style.IsNamed) {list? : Option ListMembership} {cell? : Option CellGeometry}
    (hapart : list? = none ∨ cell? = none)
    (hlist : ∀ list ∈ list?, 0 ≤ list.nestingLevel ∧ 1 ≤ list.position)
    (hcell : ∀ cell ∈ cell?,
      0 ≤ cell.rowIndex ∧ 0 ≤ cell.columnIndex ∧ 1 ≤ cell.rowSpan ∧ 1 ≤ cell.columnSpan) :
    WellFormed
      { text := collected.text, paragraphStyle := style, intervals := collected.intervals
        list? := list?, cell? := cell? } :=
  ⟨h.fits, h.styled, h.sorted, hapart, hlist, hcell, hnamed⟩

theorem WellFormed.lengthens {made block : Block} (h : made.WellFormed)
    (hlengthens : made.Lengthens block) : block.WellFormed := by
  obtain ⟨k, rfl⟩ := hlengthens
  have hlength : (made.text.length : Int) ≤ (made.text ++ List.replicate k '\n').length := by
    rw [List.length_append]
    omega
  exact ⟨fun i hi => (h.fits i hi).mono hlength, h.styled, h.sorted, h.apart, h.list, h.cell, h.named⟩

end Block

/-- A block is well formed as it is made, whatever it comes from. -/
theorem Origin.Makes.wellFormed {place : TextKind} {origin : Origin} {block : Block}
    (h : origin.Makes place block) : block.WellFormed := by
  cases h with
  | paragraph site =>
    have hnamed := ParagraphStyle.isNamed_ofElement (Text.lowerName site.node.tag) site.node.attributes
    exact Block.wellFormed_of_sound site.sound_collected (hnamed.indented _) (Or.inl rfl) (by simp)
      (by simp)
  | @loose around pieces t is ranges hjoined hperm hsorted =>
    have hsound : ∀ piece ∈ pieces.map Site.collected, piece.Sound := by
      intro piece hpiece
      obtain ⟨site, -, rfl⟩ := List.mem_map.mp hpiece
      exact site.sound_collected
    have hstyled : ∀ i ∈ ranges, i.style.isEmpty = false :=
      fun i hi => hjoined.styled hsound i (hperm.mem_iff.mp hi)
    have hnamed : ParagraphStyle.normal.IsNamed := ⟨_, List.mem_cons_self, rfl⟩
    -- Joined intervals may lie outside the text; clamping brings them in and keeps their order.
    exact ⟨fun i hi => StyleInterval.fits_of_mem_clampAll hi, StyleInterval.styled_clampAll hstyled _,
      hsorted.clampAll _, Or.inl rfl, by simp, by simp, hnamed.indented _⟩
  | item site ordered level past =>
    refine Block.wellFormed_of_sound (CollectedText.sound_ofElement true false _ _ _)
      (ParagraphStyle.isNamed_ofElement _ _) (Or.inr rfl) ?_ (by simp)
    rintro list ⟨⟩
    simp only
    omega
  | cell table cell n row column =>
    refine Block.wellFormed_of_sound (CollectedText.sound_ofElement false false _ _ _)
      (ParagraphStyle.isNamed_ofElement _ _) (Or.inl rfl) (by simp) ?_
    rintro geometry ⟨⟩
    exact ⟨Int.natCast_nonneg row, Int.natCast_nonneg column, Table.span_pos _ _, Table.span_pos _ _⟩

/-- Line breaks that are added later leave a block well formed. -/
theorem Origin.Gives.wellFormed {place : TextKind} {origin : Origin} {block : Block}
    (h : origin.Gives place block) : block.WellFormed := by
  obtain ⟨made, hmakes, hlengthens⟩ := h
  exact hmakes.wellFormed.lengthens hlengthens

theorem Block.wellFormed_of_gives {place : TextKind} {origins : List Origin} {blocks : List Block}
    (h : List.Forall₂ (Origin.Gives place) origins blocks) : ∀ block ∈ blocks, block.WellFormed := by
  induction h with
  | nil => exact fun block hblock => absurd hblock List.not_mem_nil
  | cons hgives _ ih => exact List.forall_mem_cons.mpr ⟨Origin.Gives.wellFormed hgives, ih⟩

namespace Config

theorem HoldsStyles.exists_paragraphStyleFor {config : Config} (h : config.HoldsStyles)
    {computed : ParagraphStyle} (hnamed : computed.IsNamed) :
    ∃ style, config.paragraphStyleFor computed = .ok style := by
  obtain ⟨style, hstyle⟩ := OptionValue.exists_overParagraph h.paragraph computed
  obtain ⟨rank?, hrank⟩ := hnamed.exists_headingRank
  rw [paragraphStyleFor, hstyle, hrank]
  cases rank? with
  | none => exact ⟨style, rfl⟩
  | some rank => exact OptionValue.exists_overParagraph h.heading style

end Config

namespace Block

theorem exists_textRequestsOf {config : Config} (h : config.HoldsStyles) (start : Int)
    (is : List StyleInterval) : ∃ requests, textRequestsOf config start is = .ok requests := by
  induction is with
  | nil => exact ⟨[], rfl⟩
  | cons i is ih =>
    obtain ⟨style, hstyle⟩ := OptionValue.exists_overText h.text i.style
    obtain ⟨rest, hrest⟩ := ih
    rw [textRequestsOf, Config.textStyleFor, hstyle, hrest]
    exact ⟨_, rfl⟩

/-- A well-formed block has requests. -/
theorem WellFormed.exists_requestsAt {b : Block} (hb : b.WellFormed) {config : Config}
    (h : config.HoldsStyles) (region? : Option TableRegion) (start : Int) :
    ∃ requests, b.requestsAt config region? start = .ok requests := by
  obtain ⟨style, hstyle⟩ := h.exists_paragraphStyleFor hb.named
  obtain ⟨text, htext⟩ := exists_textRequestsOf h start
    (StyleInterval.coalesce (StyleInterval.clampAll b.text.length b.intervals))
  have hparagraph : ∃ paragraph, b.paragraphRequests config start = .ok paragraph := by
    rw [paragraphRequests, hstyle]
    exact ⟨_, rfl⟩
  obtain ⟨paragraph, hparagraph⟩ := hparagraph
  refine ⟨_, requestsAt_eq_ok_iff.mpr ⟨paragraph, text, hparagraph, htext, ?_, rfl⟩⟩
  rw [skippedEnds_eq_nil hb.fits]
  exact fun n hn => absurd hn List.not_mem_nil

end Block

/-- All numbers that a run from a start index has to write or to compute with are small enough. -/
structure Generator.NumbersFit (blocks : List Block) (start : Int) : Prop where
  columns : ∀ r ∈ TableRegion.measure blocks, IntegerText.isWritable r.columns = true
  stop : IntegerText.isWritable (start + (Block.stream blocks).length) = true
  levels : ∀ b ∈ blocks, b.LevelFits

/-- Well-formed blocks give requests exactly if their numbers are small enough. -/
theorem Generator.exists_generate_iff {g : Generator} (h : g.config.HoldsStyles)
    {blocks : List Block} (hblocks : ∀ b ∈ blocks, b.WellFormed) {start : Int} (hstart : 1 ≤ start) :
    (∃ requests cursor,
        generate blocks (.int start) g = (.ok requests, { g with cursor := cursor })) ↔
      NumbersFit blocks start := by
  have hrun : (∃ requests cursor,
      generate blocks (.int start) g = (.ok requests, { g with cursor := cursor })) ↔
        ∃ requests cursor, run g.config blocks start = (.ok requests, cursor) := by
    constructor
    · rintro ⟨requests, cursor, hgenerate⟩
      exact ⟨requests, cursor, (run_of_generate hgenerate).2⟩
    · rintro ⟨requests, cursor, hrun⟩
      exact ⟨requests, cursor, generate_of_run hstart hrun⟩
  rw [hrun, exists_run_iff_of_nonneg (by omega)]
  constructor
  · rintro ⟨hcolumns, hstop, hlevels, -⟩
    exact ⟨hcolumns, hstop, hlevels⟩
  · rintro ⟨hcolumns, hstop, hlevels⟩
    refine ⟨hcolumns, hstop, hlevels, fun p hp => ?_⟩
    have hmem := List.mem_map_of_mem (f := PlacedBlock.block) hp
    rw [PlacedBlock.map_block_place] at hmem
    exact (hblocks p.block hmem).exists_requestsAt h _ _

/-- A span that is written as a positive number is read as it is. -/
theorem Table.span_toString (name : String) {n : Nat} (hlow : 1 ≤ n) (h : n < IntegerText.bound) :
    span [(name, .text (toString n))] name = n := by
  have hread : IntegerText.read (Text.trimBlank (toString n).toList) = .ok n := by
    rw [Text.trimBlank, IntegerText.trim_toString fun _ => IntegerText.isBlank_of_isDigit]
    exact IntegerText.read_toString h
  have hspan : ¬(n : Int) < 1 := by omega
  simp only [span, List.lookup_cons_self, hread, if_neg hspan]

/--
The blocks of a tree are well formed. A generator whose style options are unset or hold styles of the
right kind gives requests for them exactly if no number is too large: the columns of a table and the
position behind the last block can be written, and the levels of list items are within the range of
fractions.
-/
theorem Block.wellFormed_ofRoot (root : Root) :
    (∀ block ∈ ofRoot root, block.WellFormed) ∧
      ∀ (g : Generator) (start : Int), g.config.HoldsStyles → 1 ≤ start →
        ((∃ requests cursor, g.generate (ofRoot root) (.int start) =
            (.ok requests, { g with cursor := cursor })) ↔
          Generator.NumbersFit (ofRoot root) start) := by
  have hblocks : ∀ block ∈ ofRoot root, block.WellFormed := by
    have hgiven : List.Forall₂
        (fun block origin => block.WellFormed ∧ Origin.Gives root.place origin block)
        (ofRoot root) root.origins :=
      (gives_ofRoot root).flip.imp fun _ _ hgives => ⟨Origin.Gives.wellFormed hgives, hgives⟩
    exact ((List.forall₂_and_left _ _).mp hgiven).1
  exact ⟨hblocks, fun g start hg hstart => Generator.exists_generate_iff hg hblocks hstart⟩

/-- A heading that a line break follows, an item, and a cell whose span cannot be read. -/
theorem Block.wellFormed_ofRoot_mixed :
    let bold : TextStyle := { bold := some true }
    let root : Root := .document
      [.element "h2" [] [.element "b" [] [.text ['x']]], .element "br" [] [],
        .element "ol" [] [.element "li" [] [.text ['y']]],
        .element "table" []
          [.element "tr" [] [.element "td" [("rowspan", .text "-3"), ("colspan", .text "a")] []]]]
    let g : Generator :=
      { config := { paragraphDefault := .unset
                    headingDefault := .paragraphStyle { alignment := some "CENTER" } } }
    ofRoot root =
        [{ text := ['x', '\n'], paragraphStyle := { namedStyle := some "HEADING_2" },
           intervals := [⟨0, 1, bold⟩] },
          { text := ['y'], list? := some { ordered := true } },
          { text := [], cell? := some { rowIndex := 0, columnIndex := 0 } }] ∧
      (∀ block ∈ ofRoot root, block.WellFormed) ∧ g.config.HoldsStyles ∧ (1 : Int) ≤ 7 ∧
      ∃ requests cursor, g.generate (ofRoot root) (.int 7) =
        (.ok requests, { g with cursor := cursor }) := by
  intro bold root g
  have hg : g.config.HoldsStyles := ⟨rfl, rfl, rfl⟩
  have hstart : (1 : Int) ≤ 7 := by decide
  obtain ⟨hblocks, hgenerate⟩ := wellFormed_ofRoot root
  have hroot : ofRoot root =
      [{ text := ['x', '\n'], paragraphStyle := { namedStyle := some "HEADING_2" },
         intervals := [⟨0, 1, bold⟩] },
        { text := ['y'], list? := some { ordered := true } },
        { text := [], cell? := some { rowIndex := 0, columnIndex := 0 } }] := by
    decide +kernel
  have hfit : Generator.NumbersFit (ofRoot root) 7 := by
    rw [hroot]
    refine ⟨by decide +kernel, by decide +kernel, ?_⟩
    simp [LevelFits]
  exact ⟨hroot, hblocks, hg, hstart, (hgenerate g 7 hg hstart).mpr hfit⟩

/-- A table that is one column wider than can be written gives no requests. -/
theorem Block.wide_span_fails :
    let wide := toString (IntegerText.bound - 1)
    let root : Root := .document [.element "table" [] [.element "tr" []
      [.element "td" [] [.text ['a']],
        .element "td" [("colspan", .text wide)] [.text ['b']]]]]
    let g : Generator := {}
    g.config.HoldsStyles ∧ (g.generate (ofRoot root) (.int 1)).1 = .error .unwritable := by
  intro wide root g
  have hbound : 1 ≤ IntegerText.bound - 1 ∧ IntegerText.bound - 1 < IntegerText.bound := by
    decide +kernel
  have hspan : Table.span [("colspan", .text wide)] "colspan" = (IntegerText.bound - 1 : Nat) :=
    Table.span_toString "colspan" hbound.1 hbound.2
  have hroot : ofRoot root =
      [{ text := ['a'], cell? := some { rowIndex := 0, columnIndex := 0 } },
        { text := ['b'],
          cell? := some
            { rowIndex := 0, columnIndex := 1, columnSpan := (IntegerText.bound - 1 : Nat) } }] := by
    rw [← hspan]
    rfl
  refine ⟨⟨rfl, rfl, rfl⟩, ?_⟩
  rw [hroot, Generator.generate_of_start (by decide)]
  decide +kernel

end MarkupCompiler
