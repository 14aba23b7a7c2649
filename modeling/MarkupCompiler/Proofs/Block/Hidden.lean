import MarkupCompiler.Proofs.Block.Layout
import MarkupCompiler.Proofs.Block.ReadingOrder

/-!
# Hidden content among the blocks

The blocks of a tree depend on what it shows and on its layout. Nothing else of hidden elements and
comments has a part in them. The layout is a real exception: a paragraph inside a hidden element is
no text of any block, and still it changes the styles of the text around it.
-/

namespace MarkupCompiler

namespace Table

theorem rowsAmong_shown (nodes : List Node) :
    rowsAmong (Node.shownAll nodes) = (rowsAmong nodes).map Node.shownAll := by
  rw [rowsAmong, rowsAmong, Node.shownAll_eq_map, List.filterMap_map, List.map_filterMap]
  refine List.filterMap_congr fun node _ => ?_
  cases node with
  | text content => rfl
  | special kind content => rfl
  | element tag attributes children =>
    simp only [Function.comp_apply, Node.shown]
    by_cases hrow : (Text.lowerName tag == "tr") = true
    · rw [if_pos hrow, if_pos hrow, eq_of_beq hrow]
      rfl
    · rw [if_neg hrow, if_neg hrow]
      rfl

theorem rowsOf_shown (table : List Node) :
    rowsOf (Node.shownAll table) = (rowsOf table).map Node.shownAll := by
  rw [rowsOf, rowsOf, Node.shownAll_eq_map, List.flatMap_map, List.map_flatMap]
  refine List.flatMap_congr fun node _ => ?_
  cases node with
  | text content => rfl
  | special kind content => rfl
  | element tag attributes children =>
    have hsingle := rowsAmong_shown [.element tag attributes children]
    by_cases hsection : Tags.tableSections.contains (Text.lowerName tag) = true
    · have hshown := Node.shown_of_not_skipped
        (Node.not_skipped_of_contains (by decide) hsection) attributes children
      simp only [hshown, if_pos hsection]
      exact rowsAmong_shown children
    · simp only [Node.shown, if_neg hsection]
      exact hsingle

/-- The cell without the content of hidden elements and comments. -/
def shownCell (cell : String × Attributes × List Node) : String × Attributes × List Node :=
  (cell.1, cell.2.1, Node.shownAll cell.2.2)

theorem cellsOf_shown (row : List Node) :
    cellsOf (Node.shownAll row) = (cellsOf row).map shownCell := by
  rw [cellsOf, cellsOf, Node.shownAll_eq_map, List.filterMap_map, List.map_filterMap]
  refine List.filterMap_congr fun node _ => ?_
  cases node with
  | text content => rfl
  | special kind content => rfl
  | element tag attributes children =>
    by_cases hcell : Tags.cells.contains (Text.lowerName tag) = true
    · have hshown := Node.shown_of_not_skipped
        (Node.not_skipped_of_contains (by decide) hcell) attributes children
      simp only [Function.comp_apply, hshown, if_pos hcell]
      rfl
    · simp only [Function.comp_apply, Node.shown, if_neg hcell]
      rfl

theorem cellBlocks_shown (tableIndex : Nat) (table : List Node) :
    cellBlocks tableIndex (Node.shownAll table) = cellBlocks tableIndex table := by
  have hcells : cellsOf ∘ Node.shownAll = List.map shownCell ∘ cellsOf := funext cellsOf_shown
  have hfilled : ((fun row => !row.isEmpty) ∘ List.map shownCell) = fun row => !row.isEmpty := by
    funext row
    simp
  have hcell : ∀ (row column : Nat) (cell : String × Attributes × List Node),
      cellBlock tableIndex row column (shownCell cell) = cellBlock tableIndex row column cell := by
    intro row column cell
    simp only [cellBlock, shownCell, CollectedText.ofElement_shown]
  have hrows : ((rowsOf (Node.shownAll table)).map cellsOf).filter (fun row => !row.isEmpty) =
      (((rowsOf table).map cellsOf).filter fun row => !row.isEmpty).map (List.map shownCell) := by
    rw [rowsOf_shown, List.map_map, hcells, ← List.map_map, List.filter_map, hfilled]
  rw [cellBlocks, cellBlocks, hrows, List.zipIdx_map, List.map_map]
  simp only [List.zipIdx_map, List.map_map, Function.comp_def, Prod.map, id, hcell]

theorem captionBlocks_shown (around : Surroundings) (table : List Node) :
    captionBlocks around (Node.shownAll table) = captionBlocks around table := by
  rw [captionBlocks, captionBlocks, Node.shownAll_eq_map, List.filterMap_map]
  refine List.filterMap_congr fun node _ => ?_
  cases node with
  | text content => rfl
  | special kind content => rfl
  | element tag attributes children =>
    by_cases hcaption : (Text.lowerName tag == "caption") = true
    · have hshown := Node.shown_of_not_skipped
        (by rw [eq_of_beq hcaption]; decide) attributes children
      simp only [Function.comp_apply, hshown, CollectedText.ofElement_shown]
    · simp only [Function.comp_apply, Node.shown, hcaption, Bool.false_and, Bool.false_eq_true,
        if_false]

end Table

namespace Extraction

theorem addLooseElement_congr (around : Surroundings) {tag : String} {attributes : Attributes}
    {children children' : List Node}
    (hcollected : CollectedText.ofElement false false tag attributes children =
      CollectedText.ofElement false false tag attributes children')
    (hgaps : Node.gaps around.textKind tag attributes children =
      Node.gaps around.textKind tag attributes children') (e : Extraction) :
    e.addLooseElement around tag attributes children =
      e.addLooseElement around tag attributes children' := by
  simp only [Node.gaps, hcollected] at hgaps
  simp only [addLooseElement, hcollected]
  split
  · -- Without text there is no fragment, so what stands before it in the raw text is never asked.
    next hempty =>
    simp only [if_pos hempty, Prod.mk.injEq, true_and] at hgaps
    rw [hgaps]
  · next hempty =>
    simp only [if_neg hempty, Prod.mk.injEq] at hgaps
    simp only [Bool.or_assoc, hgaps.1, hgaps.2]

theorem addWhole_congr (around : Surroundings) {tag : String} {attributes : Attributes}
    {children children' : List Node}
    (hcollected : CollectedText.ofElement false false tag attributes children =
      CollectedText.ofElement false false tag attributes children')
    (hgaps : Tags.blockLevel.contains (Text.lowerName tag) = false →
      Node.gaps around.textKind tag attributes children =
        Node.gaps around.textKind tag attributes children') (e : Extraction) :
    e.addWhole around tag attributes children = e.addWhole around tag attributes children' := by
  simp only [addWhole, hcollected]
  split
  · rfl
  · split
    · rfl
    · next hblock =>
      exact addLooseElement_congr around hcollected (hgaps (Bool.eq_false_iff.mpr hblock)) e

theorem addListItem_congr (ordered : Bool) (level : Nat) (tag : String) (attributes : Attributes)
    {children children' : List Node} (hshown : Node.shownAll children = Node.shownAll children')
    (e : Extraction) :
    e.addListItem ordered level tag attributes children =
      e.addListItem ordered level tag attributes children' := by
  rw [addListItem, addListItem, CollectedText.ofElement_congr hshown]

theorem addTable_congr (around : Surroundings) {table table' : List Node}
    (hshown : Node.shownAll table = Node.shownAll table') (e : Extraction) :
    e.addTable around table = e.addTable around table' := by
  have hcaptions := Table.captionBlocks_shown around table
  have hcells := Table.cellBlocks_shown e.tableCount table
  rw [hshown, Table.captionBlocks_shown] at hcaptions
  rw [hshown, Table.cellBlocks_shown] at hcells
  rw [addTable, addTable, hcaptions, hcells]

mutual

/-- Nodes that show the same and have one layout are visited alike. -/
theorem visit_congr (around : Surroundings) {node node' : Node} (hshown : node.shown = node'.shown)
    (hlayout : node.layout around.textKind = node'.layout around.textKind) (e : Extraction) :
    visit around node e = visit around node' e := by
  match node with
  | .text content =>
    obtain rfl := Node.eq_of_shown_text hshown
    rfl
  | .special kind content =>
    obtain ⟨content', rfl⟩ := Node.of_shown_special hshown
    rw [visit, visit]
  | .element tag attributes children =>
    obtain ⟨children', rfl, hchildren⟩ := Node.of_shown_element hshown
    obtain ⟨hroute, hgaps, hinner⟩ := Layout.element.inj hlayout
    rw [visit_element, visit_element, ← hroute]
    -- Only of a hidden element the content may differ in what it shows, and its route ignores it.
    by_cases hskipped : Tags.skipped.contains (Text.lowerName tag) = true
    · rw [Node.route_eq_hidden_iff.mpr hskipped]
    have hsame := hchildren (Bool.eq_false_iff.mpr hskipped)
    rw [← hroute] at hgaps hinner
    cases hof : Route.of tag children with
    | hidden => rfl
    | lineBreak => rfl
    | rule => rfl
    | whole =>
      rw [hof] at hgaps
      refine addWhole_congr around (CollectedText.ofElement_congr hsame) (fun hblock => ?_) e
      simpa only [hblock, Bool.not_false, Bool.and_true, beq_self_eq_true, if_true] using hgaps
    | list =>
      rw [hof] at hinner
      simp only [visitList_congr (around.inside tag) _ 0 hsame hinner]
    | table => exact addTable_congr around hsame (e.flushLoose around)
    | entered =>
      rw [hof] at hinner
      simp only [enter, visitAll_congr (around.inside tag) hsame hinner]
termination_by structural node

theorem visitAll_congr (around : Surroundings) {nodes nodes' : List Node}
    (hshown : Node.shownAll nodes = Node.shownAll nodes')
    (hlayout : Node.layoutAll around.textKind nodes = Node.layoutAll around.textKind nodes')
    (e : Extraction) : visitAll around nodes e = visitAll around nodes' e := by
  match nodes with
  | [] =>
    obtain rfl := Node.eq_nil_of_shownAll hshown
    rfl
  | node :: nodes =>
    obtain ⟨node', rest, rfl, hnode, hnodes⟩ := Node.of_shownAll_cons hshown
    obtain ⟨hfirst, hrest⟩ := Layout.seq.inj hlayout
    rw [visitAll, visitAll, visit_congr around hnode hfirst, visitAll_congr around hnodes hrest]
termination_by structural nodes

theorem visitList_congr (around : Surroundings) (ordered : Bool) (level : Nat)
    {nodes nodes' : List Node} (hshown : Node.shownAll nodes = Node.shownAll nodes')
    (hlayout : Node.layoutList around.textKind nodes = Node.layoutList around.textKind nodes')
    (e : Extraction) :
    visitList around ordered level nodes e = visitList around ordered level nodes' e := by
  match nodes with
  | [] =>
    obtain rfl := Node.eq_nil_of_shownAll hshown
    rfl
  | .text content :: nodes =>
    obtain ⟨node', rest, rfl, hnode, hnodes⟩ := Node.of_shownAll_cons hshown
    obtain rfl := Node.eq_of_shown_text hnode
    obtain ⟨-, hrest⟩ := Layout.seq.inj hlayout
    rw [visitList, visitList, visitList_congr around ordered level hnodes hrest]
  | .special kind content :: nodes =>
    obtain ⟨node', rest, rfl, hnode, hnodes⟩ := Node.of_shownAll_cons hshown
    obtain ⟨content', rfl⟩ := Node.of_shown_special hnode
    obtain ⟨-, hrest⟩ := Layout.seq.inj hlayout
    rw [visitList, visitList, visit, visit, visitList_congr around ordered level hnodes hrest]
  | .element tag attributes children :: nodes =>
    obtain ⟨node', rest, rfl, hnode, hnodes⟩ := Node.of_shownAll_cons hshown
    obtain ⟨children', rfl, hchildren⟩ := Node.of_shown_element hnode
    obtain ⟨hfirst, hrest⟩ := Layout.seq.inj hlayout
    rw [visitList, visitList, visitList_congr around ordered level hnodes hrest]
    by_cases hitem : (Text.lowerName tag == "li") = true
    · have hsame := hchildren (by rw [eq_of_beq hitem]; decide)
      rw [if_pos hitem, if_pos hitem] at hfirst
      rw [if_pos hitem, if_pos hitem, addListItem_congr ordered level tag attributes hsame,
        visitSublists_congr (around.inside tag) level hsame hfirst]
    · rw [if_neg hitem, if_neg hitem] at hfirst
      rw [if_neg hitem, if_neg hitem]
      by_cases hlist : Tags.lists.contains (Text.lowerName tag) = true
      · have hsame := hchildren (Node.not_skipped_of_contains (by decide) hlist)
        rw [if_pos hlist, if_pos hlist] at hfirst
        rw [if_pos hlist, if_pos hlist, visitList_congr (around.inside tag) _ _ hsame hfirst]
      · -- What is neither an item nor a list is visited as anywhere else.
        rw [if_neg hlist, if_neg hlist] at hfirst
        rw [if_neg hlist, if_neg hlist, visit_congr around hnode hfirst]
termination_by structural nodes

theorem visitSublists_congr (around : Surroundings) (level : Nat)
    {nodes nodes' : List Node} (hshown : Node.shownAll nodes = Node.shownAll nodes')
    (hlayout : Node.layoutSublists around.textKind nodes =
      Node.layoutSublists around.textKind nodes') (e : Extraction) :
    visitSublists around level nodes e = visitSublists around level nodes' e := by
  match nodes with
  | [] =>
    obtain rfl := Node.eq_nil_of_shownAll hshown
    rfl
  | .text content :: nodes =>
    obtain ⟨node', rest, rfl, hnode, hnodes⟩ := Node.of_shownAll_cons hshown
    obtain rfl := Node.eq_of_shown_text hnode
    obtain ⟨-, hrest⟩ := Layout.seq.inj hlayout
    exact visitSublists_congr around level hnodes hrest e
  | .special kind content :: nodes =>
    obtain ⟨node', rest, rfl, hnode, hnodes⟩ := Node.of_shownAll_cons hshown
    obtain ⟨content', rfl⟩ := Node.of_shown_special hnode
    obtain ⟨-, hrest⟩ := Layout.seq.inj hlayout
    exact visitSublists_congr around level hnodes hrest e
  | .element tag attributes children :: nodes =>
    obtain ⟨node', rest, rfl, hnode, hnodes⟩ := Node.of_shownAll_cons hshown
    obtain ⟨children', rfl, hchildren⟩ := Node.of_shown_element hnode
    obtain ⟨hfirst, hrest⟩ := Layout.seq.inj hlayout
    rw [visitSublists, visitSublists, visitSublists_congr around level hnodes hrest]
    by_cases hlist : Tags.lists.contains (Text.lowerName tag) = true
    · have hsame := hchildren (Node.not_skipped_of_contains (by decide) hlist)
      rw [if_pos hlist, if_pos hlist] at hfirst
      rw [if_pos hlist, if_pos hlist, visitList_congr (around.inside tag) _ _ hsame hfirst]
    · rw [if_neg hlist, if_neg hlist]
termination_by structural nodes

end

end Extraction

theorem Block.ofRoot_congr {root root' : Root} (hshown : root.shown = root'.shown)
    (hlayout : root.layout = root'.layout) : ofRoot root = ofRoot root' := by
  cases root with
  | document children =>
    cases root' with
    | document children' =>
      have hchildren := Root.document.inj hshown
      rw [ofRoot, ofRoot, Extraction.visitAll_congr {} hchildren hlayout]
    | element place' tag' attributes' children' => exact Root.noConfusion hshown
  | element place tag attributes children =>
    cases root' with
    | document children' => exact Root.noConfusion hshown
    | element place' tag' attributes' children' =>
      obtain ⟨rfl, rfl, rfl, hchildren⟩ := Root.element.inj hshown
      have hnode : Node.shown (.element tag attributes children) =
          Node.shown (.element tag attributes children') := by
        rw [Node.shown, Node.shown, hchildren]
      rw [ofRoot, ofRoot, Extraction.visit_congr { textKind := place } hnode hlayout]

/--
Hidden content reaches the blocks of a tree through its layout only: trees that show the same have
the same blocks if their layouts agree, and so they do if their hidden content is quiet.
-/
theorem Block.ofRoot_eq_of_shown_eq {root root' : Root} (hshown : root.shown = root'.shown) :
    (root.layout = root'.layout → ofRoot root = ofRoot root') ∧
      (root.isQuiet = true → root'.isQuiet = true → ofRoot root = ofRoot root') := by
  refine ⟨ofRoot_congr hshown, fun hquiet hquiet' => ofRoot_congr hshown ?_⟩
  calc root.layout = root.shown.layout := (Root.layout_shown hquiet).symm
    _ = root'.shown.layout := by rw [hshown]
    _ = root'.layout := Root.layout_shown hquiet'

/-- Other text in the middle of a loose element, and another script before it. -/
theorem Block.ofRoot_eq_of_shown_eq_scripts :
    let bold (hidden : Text) : Node :=
      .element "b" [] [.text ['a', ' '], .element "noscript" [] [.text hidden], .text ['c']]
    let script (code : Text) : Node := .element "script" [] [.text code]
    ofRoot (.document [bold ['x']]) = ofRoot (.document [bold ['y', 'z']]) ∧
      ofRoot (.document [script ['x'], bold []]) = ofRoot (.document [script [' '], bold []]) := by
  intro bold script
  have hbold : Root.shown (.document [bold ['x']]) = Root.shown (.document [bold ['y', 'z']]) := rfl
  have hscript : Root.shown (.document [script ['x'], bold []]) =
      Root.shown (.document [script [' '], bold []]) := rfl
  exact ⟨(ofRoot_eq_of_shown_eq hbold).1 (by decide +kernel),
    (ofRoot_eq_of_shown_eq hscript).2 (by decide +kernel) (by decide +kernel)⟩

/-- A paragraph in a hidden element inside bold text takes the bold away. -/
theorem Block.hidden_paragraph_matters :
    ¬∀ root root' : Root, root.shown = root'.shown → ofRoot root = ofRoot root' := by
  intro h
  let bold (hidden : List Node) : Node :=
    .element "b" [] [.text ['a'], .element "noscript" [] hidden]
  have hsame := h (.document [bold [.element "p" [] [.text ['x']]]]) (.document [bold []]) rfl
  exact absurd hsame (by decide +kernel)

end MarkupCompiler
