import MarkupCompiler.Proofs.Block.Tables
import Mathlib.Data.Set.Insert

/-!
# Siblings do not touch

A walk carries state from node to node: loose content, a gap, list counters, the number of tables,
and the last block, which a line break lengthens. A paragraph ends the loose content and puts a
block of its own at the end, and every list starts its own count. So what stands behind a paragraph
is extracted as if it stood alone, but for the numbers of its tables.
-/

namespace MarkupCompiler

namespace Block

/-- The block when `n` more tables stand before it. -/
def renumbered (n : Nat) (b : Block) : Block :=
  { b with cell? := b.cell?.map fun cell => { cell with tableIndex := cell.tableIndex + n } }

theorem renumbered_of_plain (n : Nat) {b : Block} (h : b.cell? = none) : b.renumbered n = b := by
  cases b
  cases h
  rfl

theorem map_renumbered_of_plain (n : Nat) {blocks : List Block} (h : ∀ b ∈ blocks, b.cell? = none) :
    blocks.map (renumbered n) = blocks :=
  (List.map_congr_left fun b hb => renumbered_of_plain n (h b hb)).trans (List.map_id blocks)

end Block

theorem Table.cellBlocks_add (tableIndex n : Nat) (table : List Node) :
    cellBlocks (tableIndex + n) table = (cellBlocks tableIndex table).map (Block.renumbered n) := by
  have hcell : ∀ (row column : Nat) (cell : String × Attributes × List Node),
      cellBlock (tableIndex + n) row column cell =
        (cellBlock tableIndex row column cell).renumbered n := by
    intro row column cell
    simp [cellBlock, Block.renumbered]
  simp only [cellBlocks, List.map_flatten, List.map_map, Function.comp_def, hcell]

namespace Extraction

/--
The second extraction is the first one behind some blocks and `n` tables. What was counted for the
lists in `counted` is the same; other lists have not been started yet.
-/
structure Behind (front : List Block) (n : Nat) (counted : Set (Bool × Nat))
    (e e' : Extraction) : Prop where
  filled : e.blocks ≠ []
  blocks_eq : e'.blocks = front ++ e.blocks.map (Block.renumbered n)
  tables_eq : e'.tableCount = e.tableCount + n
  loose_eq : e'.loose = e.loose
  gap_eq : e'.gap = e.gap
  counters_eq : ∀ scope ∈ counted, e'.counters scope.1 scope.2 = e.counters scope.1 scope.2

namespace Behind

variable {front : List Block} {n : Nat} {counted : Set (Bool × Nat)} {e e' : Extraction}

theorem mono (h : Behind front n counted e e') {fewer : Set (Bool × Nat)}
    (hfewer : fewer ⊆ counted) : Behind front n fewer e e' :=
  { h with counters_eq := fun scope hscope => h.counters_eq scope (hfewer hscope) }

theorem addBlock (h : Behind front n counted e e') {block : Block} (hplain : block.cell? = none) :
    Behind front n counted (e.addBlock block) (e'.addBlock block) := by
  constructor
  case filled => exact List.append_ne_nil_of_right_ne_nil _ (List.cons_ne_nil _ _)
  case blocks_eq =>
    change e'.blocks ++ [block] = front ++ (e.blocks ++ [block]).map (Block.renumbered n)
    rw [h.blocks_eq, List.map_append, List.map_singleton, Block.renumbered_of_plain n hplain,
      List.append_assoc]
  case tables_eq => exact h.tables_eq
  case loose_eq => exact h.loose_eq
  case gap_eq => exact h.gap_eq
  case counters_eq => exact h.counters_eq

theorem withLoose (h : Behind front n counted e e') (loose : FragmentBuffer) (gap : Bool) :
    Behind front n counted { e with loose := loose, gap := gap }
      { e' with loose := loose, gap := gap } :=
  { h with loose_eq := rfl, gap_eq := rfl }

theorem flushLoose (h : Behind front n counted e e') (around : Surroundings) :
    Behind front n counted (e.flushLoose around) (e'.flushLoose around) := by
  have hcleared := h.withLoose {} false
  simp only [Extraction.flushLoose, h.loose_eq]
  split
  · exact hcleared
  · exact hcleared.addBlock rfl

theorem addLineBreak (h : Behind front n counted e e') :
    Behind front n counted e.addLineBreak e'.addLineBreak := by
  -- There is a block behind the front, so the break never reaches the front.
  obtain ⟨init, last, hlast⟩ := List.eq_nil_or_concat' e.blocks |>.resolve_left h.filled
  have hblocks := h.blocks_eq
  rw [hlast, List.map_append, List.map_singleton, ← List.append_assoc] at hblocks
  rw [Extraction.addLineBreak, Extraction.addLineBreak, hlast, hblocks]
  simp only [List.getLast?_concat, List.dropLast_concat]
  refine { h with filled := ?_, blocks_eq := ?_ }
  · exact List.append_ne_nil_of_right_ne_nil _ (List.cons_ne_nil _ _)
  · simp only [List.map_append, List.map_singleton, List.append_assoc]
    rfl

theorem addLooseText (h : Behind front n counted e e') (raw : Text) :
    Behind front n counted (e.addLooseText raw) (e'.addLooseText raw) := by
  simp only [Extraction.addLooseText, h.loose_eq, h.gap_eq]
  split
  · split
    · exact h
    · exact h.withLoose _ _
  · exact h.withLoose _ _

theorem addLooseElement (h : Behind front n counted e e') (around : Surroundings) (tag : String)
    (attributes : Attributes) (children : List Node) :
    Behind front n counted (e.addLooseElement around tag attributes children)
      (e'.addLooseElement around tag attributes children) := by
  simp only [Extraction.addLooseElement, h.loose_eq, h.gap_eq]
  split
  · split
    · exact h.withLoose _ _
    · exact h
  · exact h.withLoose _ _

theorem addWhole (h : Behind front n counted e e') (around : Surroundings) (tag : String)
    (attributes : Attributes) (children : List Node) :
    Behind front n counted (e.addWhole around tag attributes children)
      (e'.addWhole around tag attributes children) := by
  have hflushed := h.flushLoose around
  simp only [Extraction.addWhole]
  split
  · exact hflushed.addBlock rfl
  · split
    · split
      · exact hflushed
      · exact hflushed.addBlock rfl
    · exact h.addLooseElement around tag attributes children

theorem addTable (h : Behind front n counted e e') (around : Surroundings) (table : List Node) :
    Behind front n counted (e.addTable around table) (e'.addTable around table) := by
  refine { h with filled := ?_, blocks_eq := ?_, tables_eq := ?_ }
  · rw [Extraction.addTable, List.append_assoc]
    exact List.append_ne_nil_of_left_ne_nil h.filled _
  · have hcaptions := Block.map_renumbered_of_plain n (Table.cell?_captionBlocks around table)
    simp only [Extraction.addTable, h.blocks_eq, h.tables_eq, Table.cellBlocks_add,
      List.map_append, hcaptions, List.append_assoc]
  · have htables := h.tables_eq
    simp only [Extraction.addTable]
    omega

/-- A list that starts its count has the same one from then on, whatever it was before. -/
theorem startList (h : Behind front n counted e e') (ordered : Bool) (level : Nat) :
    Behind front n (insert (ordered, level) counted) (e.startList ordered level)
      (e'.startList ordered level) := by
  refine { h with counters_eq := ?_ }
  rintro ⟨o, l⟩ hscope
  simp only [Extraction.startList, ListCounters.set]
  split
  · rfl
  · next hother =>
    rcases hscope with heq | hscope
    · obtain ⟨rfl, rfl⟩ := Prod.mk.inj heq
      exact absurd (by simp) hother
    · exact h.counters_eq (o, l) hscope

theorem addListItem (h : Behind front n counted e e') {ordered : Bool} {level : Nat}
    (hcounted : (ordered, level) ∈ counted) (tag : String) (attributes : Attributes)
    (children : List Node) :
    Behind front n counted (e.addListItem ordered level tag attributes children)
      (e'.addListItem ordered level tag attributes children) := by
  have hposition := h.counters_eq (ordered, level) hcounted
  have hcounters : Behind front n counted
      { e with counters := e.counters.set ordered level (e.counters ordered level + 1) }
      { e' with counters := e'.counters.set ordered level (e.counters ordered level + 1) } := by
    refine { h with counters_eq := ?_ }
    rintro ⟨o, l⟩ hscope
    simp only [ListCounters.set]
    split
    · rfl
    · exact h.counters_eq (o, l) hscope
  simp only [Extraction.addListItem, hposition]
  exact hcounters.addBlock rfl

mutual

theorem visit {counted : Set (Bool × Nat)} {e e' : Extraction} (h : Behind front n counted e e')
    (around : Surroundings) (node : Node) :
    Behind front n counted (Extraction.visit around node e) (Extraction.visit around node e') := by
  match node with
  | .text content =>
    rw [Extraction.visit, Extraction.visit]
    exact h.addLooseText content
  | .special _ _ =>
    rw [Extraction.visit, Extraction.visit]
    exact h
  | .element tag attributes children =>
    have hflushed := h.flushLoose around
    rw [visit_element, visit_element]
    cases Route.of tag children with
    | hidden => exact h
    | lineBreak => exact hflushed.addLineBreak
    | whole => exact h.addWhole around tag attributes children
    | list =>
      -- The counter of the list agrees from its start on; behind the list it is forgotten again.
      have hstarted := hflushed.startList (Text.lowerName tag == "ol") 0
      have hlist := hstarted.visitList (around.inside tag) (Set.mem_insert _ _) children
      exact (hlist.mono (Set.subset_insert _ _)).flushLoose around
    | table => exact hflushed.addTable around children
    | rule => exact hflushed
    | entered =>
      have hinner := hflushed.visitAll (around.inside tag) children
      simp only [enter]
      split
      · exact hinner.flushLoose _
      · exact hinner

theorem visitAll {counted : Set (Bool × Nat)} {e e' : Extraction} (h : Behind front n counted e e')
    (around : Surroundings) (nodes : List Node) :
    Behind front n counted (Extraction.visitAll around nodes e)
      (Extraction.visitAll around nodes e') := by
  match nodes with
  | [] =>
    rw [Extraction.visitAll, Extraction.visitAll]
    exact h
  | node :: nodes =>
    rw [Extraction.visitAll, Extraction.visitAll]
    exact (h.visit around node).visitAll around nodes

theorem visitList {counted : Set (Bool × Nat)} {e e' : Extraction}
    (h : Behind front n counted e e') (around : Surroundings) {ordered : Bool} {level : Nat}
    (hcounted : (ordered, level) ∈ counted) (nodes : List Node) :
    Behind front n counted (Extraction.visitList around ordered level nodes e)
      (Extraction.visitList around ordered level nodes e') := by
  match nodes with
  | [] =>
    rw [Extraction.visitList, Extraction.visitList]
    exact h
  | .text content :: nodes =>
    rw [Extraction.visitList, Extraction.visitList]
    exact (h.visit around (.text content)).visitList around hcounted nodes
  | .special kind content :: nodes =>
    rw [Extraction.visitList, Extraction.visitList]
    exact (h.visit around (.special kind content)).visitList around hcounted nodes
  | .element tag attributes children :: nodes =>
    have hflushed := h.flushLoose around
    rw [Extraction.visitList, Extraction.visitList]
    refine Behind.visitList ?_ around hcounted nodes
    split
    · have hitem := hflushed.addListItem hcounted tag attributes children
      exact hitem.visitSublists _ level children
    · split
      · have hstarted := hflushed.startList (Text.lowerName tag == "ol") (level + 1)
        have hlist := hstarted.visitList (around.inside tag) (Set.mem_insert _ _) children
        exact (hlist.mono (Set.subset_insert _ _)).flushLoose around
      · exact h.visit around (.element tag attributes children)

theorem visitSublists {counted : Set (Bool × Nat)} {e e' : Extraction}
    (h : Behind front n counted e e') (around : Surroundings) (level : Nat) (nodes : List Node) :
    Behind front n counted (Extraction.visitSublists around level nodes e)
      (Extraction.visitSublists around level nodes e') := by
  match nodes with
  | [] =>
    rw [Extraction.visitSublists, Extraction.visitSublists]
    exact h
  | .text _ :: nodes =>
    rw [Extraction.visitSublists, Extraction.visitSublists]
    exact h.visitSublists around level nodes
  | .special _ _ :: nodes =>
    rw [Extraction.visitSublists, Extraction.visitSublists]
    exact h.visitSublists around level nodes
  | .element tag _ children :: nodes =>
    rw [Extraction.visitSublists, Extraction.visitSublists]
    refine Behind.visitSublists ?_ around level nodes
    split
    · have hstarted := h.startList (Text.lowerName tag == "ol") (level + 1)
      have hlist := hstarted.visitList (around.inside tag) (Set.mem_insert _ _) children
      exact (hlist.mono (Set.subset_insert _ _)).flushLoose around
    · exact h

end

end Behind

theorem visitAll_append (around : Surroundings) (before after : List Node) (e : Extraction) :
    visitAll around (before ++ after) e = visitAll around after (visitAll around before e) := by
  induction before generalizing e with
  | nil => rfl
  | cons node before ih =>
    rw [List.cons_append, visitAll, visitAll]
    exact ih _

theorem visit_paragraph (around : Surroundings) {tag : String}
    (h : Tags.paragraphs.contains (Text.lowerName tag) = true) (attributes : Attributes)
    (children : List Node) (e : Extraction) :
    visit around (.element tag attributes children) e =
      (e.flushLoose around).addParagraph around
        (CollectedText.ofElement false false tag attributes children)
        (ParagraphStyle.ofElement (Text.lowerName tag) attributes) := by
  have hnames : ∀ name ∈ Tags.paragraphs, Tags.skipped.contains name = false ∧
      (name == "br") = false := by decide
  obtain ⟨hskipped, hbreak⟩ := hnames _ (List.contains_iff_mem.mp h)
  have hroute : Route.of tag children = .whole := by
    simp only [Route.of, hskipped, hbreak, h, Bool.false_eq_true, if_false, if_true]
  rw [visit_element, hroute]
  simp only [addWhole, h, if_true]

theorem tableCount_flushLoose (around : Surroundings) (e : Extraction) :
    (e.flushLoose around).tableCount = e.tableCount := by
  simp only [flushLoose]
  split
  · rfl
  · rfl

/-- A paragraph ends what stands before it, and leaves the rest as if nothing stood there. -/
theorem behind_paragraph (around : Surroundings) {node : Node}
    (h : node.isNamed Tags.paragraphs = true) (e : Extraction) :
    Behind (e.flushLoose around).blocks e.tableCount ∅ (visit around node {})
      (visit around node e) := by
  cases node with
  | text content => exact Bool.noConfusion h
  | special kind content => exact Bool.noConfusion h
  | element tag attributes children =>
    obtain ⟨hloose, hgap⟩ := cleared_flushLoose around e
    rw [visit_paragraph around h, visit_paragraph around h]
    constructor
    case filled => exact List.append_ne_nil_of_right_ne_nil _ (List.cons_ne_nil _ _)
    case blocks_eq => rfl
    case tables_eq =>
      change (e.flushLoose around).tableCount = 0 + e.tableCount
      rw [tableCount_flushLoose, Nat.zero_add]
    case loose_eq => exact hloose
    case gap_eq => exact hgap
    case counters_eq => exact fun scope hscope => absurd hscope (Set.notMem_empty scope)

end Extraction

/--
What begins with a paragraph gives the blocks behind other nodes that it gives alone, and the nodes
before it give theirs. Only the tables behind are numbered on from those before.
-/
theorem Block.ofRoot_siblings (before : List Node) {node : Node}
    (h : node.isNamed Tags.paragraphs = true) (after : List Node) :
    ofRoot (.document (before ++ node :: after)) =
      ofRoot (.document before) ++
        (ofRoot (.document (node :: after))).map
          (renumbered (Root.tables (.document before)).length) := by
  have htables : (Extraction.visitAll {} before {}).tableCount =
      (Root.tables (.document before)).length :=
    (Extraction.tabulates_empty.visitAll {} before).count_eq
  have hnode := Extraction.behind_paragraph {} h (Extraction.visitAll {} before {})
  have hbehind := (hnode.visitAll {} after).flushLoose {}
  rw [htables] at hbehind
  have hwhole : ofRoot (.document (before ++ node :: after)) =
      ((Extraction.visitAll {} after (Extraction.visit {} node
        (Extraction.visitAll {} before {}))).flushLoose {}).blocks := by
    rw [ofRoot, Extraction.visitAll_append, Extraction.visitAll]
  rw [hwhole, hbehind.blocks_eq]
  rfl

/-- Loose text, a table and a list before a paragraph, and the like behind it. -/
theorem Block.ofRoot_siblings_mixed :
    let cell : Node := .element "td" [] [.text ['c']]
    let table : Node := .element "table" [] [.element "tr" [] [cell]]
    let list : Node := .element "ul" [] [.element "li" [] [.text ['i']]]
    let before : List Node := [table, list, .text ['x', ' ']]
    let paragraph : Node := .element "P" [] []
    let after : List Node := [.element "br" [] [], list, table, .element "br" [] []]
    paragraph.isNamed Tags.paragraphs = true ∧
      ofRoot (.document (before ++ paragraph :: after)) =
        [{ text := ['c'], cell? := some { rowIndex := 0, columnIndex := 0 } },
          { text := ['i'], list? := some { ordered := false } }, { text := ['x'] },
          { text := ['\n'] }, { text := ['i'], list? := some { ordered := false } },
          { text := ['c', '\n'],
            cell? := some { rowIndex := 0, columnIndex := 0, tableIndex := 1 } }] := by
  intro cell table list before paragraph after
  have hparagraph : paragraph.isNamed Tags.paragraphs = true := by decide +kernel
  have hbefore : ofRoot (.document before) =
      [{ text := ['c'], cell? := some { rowIndex := 0, columnIndex := 0 } },
        { text := ['i'], list? := some { ordered := false } }, { text := ['x'] }] := by
    decide +kernel
  have hafter : ofRoot (.document (paragraph :: after)) =
      [{ text := ['\n'] }, { text := ['i'], list? := some { ordered := false } },
        { text := ['c', '\n'], cell? := some { rowIndex := 0, columnIndex := 0 } }] := by
    decide +kernel
  have htables : (Root.tables (.document before)).length = 1 := by decide +kernel
  refine ⟨hparagraph, ?_⟩
  rw [ofRoot_siblings before hparagraph after, hbefore, hafter, htables]
  rfl

end MarkupCompiler
