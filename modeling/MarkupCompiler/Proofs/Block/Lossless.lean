import MarkupCompiler.Block.Extract
import MarkupCompiler.Proofs.Collected.Walk
import MarkupCompiler.Proofs.Tree.ReadingOrder

/-!
# Trees that lose no text

A walk takes no text from line breaks and rules, puts boxes for check boxes, and takes the text of a
table from captions and cells only. A tree is lossless if no visible text is affected by this. The
texts collected from a lossless tree then hold its visible solid characters.
-/

namespace MarkupCompiler

namespace Table

/-- The visible text of a row outside its cells. -/
def strayInRow (row : List Node) : Text :=
  row.flatMap fun node => if node.isNamed Tags.cells then [] else node.visible

/-- The visible text of a node outside the cells of a row. -/
def strayInRows : Node → Text
  | .element tag attributes children =>
    if Text.lowerName tag == "tr" then strayInRow children
    else Node.visible (.element tag attributes children)
  | node => node.visible

/-- The visible text of a child of a table outside captions and cells. -/
def strayInChild : Node → Text
  | .element tag attributes children =>
    if Text.lowerName tag == "caption" then []
    else if Tags.tableSections.contains (Text.lowerName tag) then children.flatMap strayInRows
    else strayInRows (.element tag attributes children)
  | node => node.visible

/-- The visible text of a table outside its captions and cells. -/
def stray (table : List Node) : Text := table.flatMap strayInChild

end Table

namespace Node

mutual

/--
Whether line breaks and rules at and below a node have no visible text, no input is a check box, and
all visible text of tables stands in their captions and cells.
-/
def isLossless : Node → Bool
  | .text _ => true
  | .special _ _ => true
  | .element tag attributes children =>
    let name := Text.lowerName tag
    (!(["br", "hr"].contains name) || (Text.solids (visibleAll children)).isEmpty) &&
      !(name == "input" && attributes.hasText "type" "checkbox") &&
      (name != "table" || (Text.solids (Table.stray children)).isEmpty) &&
      isLosslessAll children

/-- Whether all nodes are lossless. -/
def isLosslessAll : List Node → Bool
  | [] => true
  | node :: nodes => isLossless node && isLosslessAll nodes

end

structure LosslessElement (tag : String) (attributes : Attributes) (children : List Node) :
    Prop where
  empty : Text.lowerName tag ∈ ["br", "hr"] → Text.solids (visibleAll children) = []
  not_checkBox : (Text.lowerName tag == "input" && attributes.hasText "type" "checkbox") = false
  not_stray : Text.lowerName tag = "table" → Text.solids (Table.stray children) = []
  children : isLosslessAll children = true

theorem lossless_element {tag : String} {attributes : Attributes} {children : List Node}
    (h : isLossless (.element tag attributes children) = true) :
    LosslessElement tag attributes children := by
  simp only [isLossless, Bool.and_eq_true, Bool.or_eq_true, Bool.not_eq_true',
    List.isEmpty_iff] at h
  obtain ⟨⟨⟨hempty, hbox⟩, hstray⟩, hchildren⟩ := h
  refine ⟨fun hmem => ?_, hbox, fun hname => ?_, hchildren⟩
  · rw [List.contains_iff_mem.mpr hmem] at hempty
    exact hempty.resolve_left Bool.noConfusion
  · rw [hname] at hstray
    exact hstray.resolve_left (by decide)

theorem isLosslessAll_iff {nodes : List Node} :
    isLosslessAll nodes = true ↔ ∀ node ∈ nodes, isLossless node = true := by
  induction nodes with
  | nil => simp [isLosslessAll]
  | cons node nodes ih => rw [isLosslessAll, Bool.and_eq_true, ih, List.forall_mem_cons]

mutual

/-- A walk takes the visible solid characters of a lossless node. -/
theorem chars_sources {node : Node} (h : isLossless node = true) :
    (sources false node).map Source.char = Text.solids (visible node) := by
  match node with
  | .text content => simp [sources, visible, Function.comp_def]
  | .special _ _ => rfl
  | .element tag attributes children =>
    obtain ⟨hempty, hbox, -, hchildren⟩ := lossless_element h
    rw [sources, visible, Role.of]
    by_cases hbreak : (Text.lowerName tag == "br") = true
    · have hname := eq_of_beq hbreak
      rw [if_pos hbreak, hname, if_neg (by decide), hempty (by rw [hname]; decide)]
      rfl
    · rw [if_neg hbreak]
      by_cases hskipped : Tags.skipped.contains (Text.lowerName tag) = true
      · rw [if_pos hskipped, if_pos hskipped]
        rfl
      · rw [if_neg hskipped, if_neg hskipped, hbox]
        exact chars_sourcesIn hchildren 0

theorem chars_sourcesIn {nodes : List Node} (h : isLosslessAll nodes = true) (index : Nat) :
    (sourcesIn false index nodes).map Source.char = Text.solids (visibleAll nodes) := by
  match nodes with
  | [] => rfl
  | node :: nodes =>
    rw [isLosslessAll, Bool.and_eq_true] at h
    rw [chars_sourcesIn_cons, chars_sources h.1, chars_sourcesIn h.2, visibleAll,
      Text.solids_append]

end

/-- A walk that leaves lists out takes what it takes from the other nodes. -/
theorem chars_sourcesIn_others (nodes : List Node) (index other : Nat) :
    (sourcesIn true index nodes).map Source.char =
      (sourcesIn false other (nodes.filter fun node => !node.isNamed Tags.lists)).map
        Source.char := by
  induction nodes generalizing index other with
  | nil => rfl
  | cons node nodes ih =>
    rw [chars_sourcesIn_cons]
    by_cases hlist : node.isNamed Tags.lists = true
    · have hnone : sources true node = [] := by
        cases node with
        | text content => exact absurd hlist Bool.noConfusion
        | special kind content => rfl
        | element tag attributes children =>
          have hname : Text.lowerName tag = "ul" ∨ Text.lowerName tag = "ol" := by
            rw [isNamed, List.contains_iff_mem] at hlist
            simpa [Tags.lists] using hlist
          rw [sources, Role.of]
          rcases hname with hname | hname
          · rw [hname]
            rfl
          · rw [hname]
            rfl
      rw [List.filter_cons_of_neg (by rw [hlist]; decide), hnone]
      exact ih (index + 1) other
    · rw [Bool.not_eq_true] at hlist
      have hsame : sources true node = sources false node := by
        cases node with
        | text content => rfl
        | special kind content => rfl
        | element tag attributes children =>
          have hname : (true && Tags.lists.contains (Text.lowerName tag)) = false := hlist
          rw [sources, sources, Role.of_not_list hname]
      rw [List.filter_cons_of_pos (by rw [hlist]; rfl), hsame, chars_sourcesIn_cons,
        ih (index + 1) (other + 1)]

/-- A walk that leaves lists out takes what is visible outside them. -/
theorem chars_sourcesIn_skipLists {nodes : List Node} (h : isLosslessAll nodes = true)
    (index : Nat) :
    (sourcesIn true index nodes).map Source.char =
      Text.solids (visibleAll (nodes.filter fun node => !node.isNamed Tags.lists)) := by
  have hothers : isLosslessAll (nodes.filter fun node => !node.isNamed Tags.lists) = true :=
    isLosslessAll_iff.mpr fun node hnode =>
      isLosslessAll_iff.mp h node (List.mem_of_mem_filter hnode)
  rw [chars_sourcesIn_others nodes index 0, chars_sourcesIn hothers]

end Node

namespace CollectedText

/-- The text of a lossless element holds its visible solid characters. -/
theorem solids_ofElement {children : List Node} (h : Node.isLosslessAll children = true)
    (tag : String) (attributes : Attributes) :
    Text.solids (ofElement false false tag attributes children).text =
      Text.solids (Node.visibleAll children) := by
  rw [(ofElement_eq false false tag attributes children).1, Node.chars_sourcesIn h]

theorem solids_ofElement_skipLists {children : List Node} (h : Node.isLosslessAll children = true)
    (tag : String) (attributes : Attributes) :
    Text.solids (ofElement true false tag attributes children).text =
      Text.solids (Node.visibleAll (children.filter fun node => !node.isNamed Tags.lists)) := by
  rw [(ofElement_eq true false tag attributes children).1, Node.chars_sourcesIn_skipLists h]

end CollectedText

namespace Table

open Node (visible visibleAll isLossless isLosslessAll)

theorem solids_flatMap {α : Type} (f : α → Text) (l : List α) :
    Text.solids (l.flatMap f) = l.flatMap fun x => Text.solids (f x) :=
  List.filter_flatMap ..

theorem solids_flatMap_congr {α : Type} {f g : α → Text} {l : List α}
    (h : ∀ x ∈ l, Text.solids (f x) = Text.solids (g x)) :
    Text.solids (l.flatMap f) = Text.solids (l.flatMap g) := by
  rw [solids_flatMap, solids_flatMap, List.flatMap_congr h]

theorem solids_flatMap_eq_nil {α : Type} {f : α → Text} {l : List α}
    (h : Text.solids (l.flatMap f) = []) : ∀ x ∈ l, Text.solids (f x) = [] := by
  rw [solids_flatMap] at h
  exact List.flatMap_eq_nil_iff.mp h

theorem visibleAll_filter (p : Node → Bool) (nodes : List Node) :
    visibleAll (nodes.filter p) = nodes.flatMap fun node => if p node then visible node else [] := by
  induction nodes with
  | nil => rfl
  | cons node nodes ih =>
    rw [List.flatMap_cons, ← ih, List.filter_cons]
    split
    · rw [visibleAll]
    · rfl

def rowText (row : List Node) : Text :=
  (cellsOf row).flatMap fun cell => (CollectedText.ofElement false false cell.1 cell.2.1 cell.2.2).text

/-- Only the cells of a row count if nothing visible stands outside them. -/
theorem solids_rowText {row : List Node} (h : isLosslessAll row = true)
    (hstray : Text.solids (strayInRow row) = []) :
    Text.solids (rowText row) = Text.solids (visibleAll row) := by
  rw [rowText, cellsOf, List.filterMap_eq_flatMap_toList, List.flatMap_assoc,
    Node.visibleAll_eq_flatMap]
  refine solids_flatMap_congr fun node hnode => ?_
  have hlossless := Node.isLosslessAll_iff.mp h node hnode
  have hnone := solids_flatMap_eq_nil hstray node hnode
  cases node with
  | text content => exact hnone.symm
  | special kind content => rfl
  | element tag attributes children =>
    by_cases hcell : Tags.cells.contains (Text.lowerName tag) = true
    · rw [Node.visible_of_not_skipped (Node.not_skipped_of_contains (by decide) hcell)]
      simp only [if_pos hcell, Option.toList_some, List.flatMap_cons, List.flatMap_nil,
        List.append_nil]
      exact CollectedText.solids_ofElement (Node.lossless_element hlossless).children _ _
    · simp only [if_neg hcell]
      rw [Node.isNamed, if_neg hcell] at hnone
      exact hnone.symm

def rowsText (nodes : List Node) : Text := (rowsAmong nodes).flatMap rowText

theorem rowsText_eq (nodes : List Node) :
    rowsText nodes = nodes.flatMap fun node => rowsText [node] := by
  have hone : ∀ node, rowsText [node] = ((rowsAmong [node]).flatMap rowText) := fun _ => rfl
  induction nodes with
  | nil => rfl
  | cons node nodes ih =>
    have happend : rowsAmong (node :: nodes) = rowsAmong [node] ++ rowsAmong nodes :=
      List.filterMap_append (l := [node])
    rw [rowsText, happend, List.flatMap_append, List.flatMap_cons, ← ih]
    rfl

/-- Only the rows among some nodes count if nothing visible stands outside their cells. -/
theorem solids_rowsText_single {node : Node} (h : isLossless node = true)
    (hstray : Text.solids (strayInRows node) = []) :
    Text.solids (rowsText [node]) = Text.solids (visible node) := by
  cases node with
  | text content => exact hstray.symm
  | special kind content => rfl
  | element tag attributes children =>
    by_cases hrow : (Text.lowerName tag == "tr") = true
    · have hskipped : Tags.skipped.contains (Text.lowerName tag) = false := by
        rw [eq_of_beq hrow]
        decide
      rw [strayInRows, if_pos hrow] at hstray
      have hrows : rowsText [.element tag attributes children] = rowText children := by
        simp [rowsText, rowsAmong, eq_of_beq hrow]
      rw [hrows, Node.visible_of_not_skipped hskipped]
      exact solids_rowText (Node.lossless_element h).children hstray
    · have hrows : rowsText [.element tag attributes children] = [] := by
        have hname : Text.lowerName tag ≠ "tr" := by simpa using hrow
        simp [rowsText, rowsAmong, hname]
      rw [strayInRows, if_neg hrow] at hstray
      rw [hrows, hstray]
      rfl

theorem solids_rowsText {nodes : List Node} (h : isLosslessAll nodes = true)
    (hstray : Text.solids (nodes.flatMap strayInRows) = []) :
    Text.solids (rowsText nodes) = Text.solids (visibleAll nodes) := by
  rw [rowsText_eq, Node.visibleAll_eq_flatMap]
  exact solids_flatMap_congr fun node hnode =>
    solids_rowsText_single (Node.isLosslessAll_iff.mp h node hnode)
      (solids_flatMap_eq_nil hstray node hnode)

/-- The rows of a table hold what is visible in it outside its captions. -/
theorem solids_rowsOf {table : List Node} (h : isLosslessAll table = true)
    (hstray : Text.solids (stray table) = []) :
    Text.solids ((rowsOf table).flatMap rowText) =
      Text.solids (visibleAll (table.filter fun node => !node.isNamed ["caption"])) := by
  rw [rowsOf, List.flatMap_assoc, visibleAll_filter]
  refine solids_flatMap_congr fun node hnode => ?_
  have hlossless := Node.isLosslessAll_iff.mp h node hnode
  have hnone := solids_flatMap_eq_nil hstray node hnode
  cases node with
  | text content => exact hnone.symm
  | special kind content => rfl
  | element tag attributes children =>
    rw [strayInChild] at hnone
    by_cases hcaption : (Text.lowerName tag == "caption") = true
    · have hname := eq_of_beq hcaption
      simp [Node.isNamed, hname, rowsAmong, Tags.tableSections]
    · have hnot : (!Node.isNamed ["caption"] (.element tag attributes children)) = true := by
        simpa [Node.isNamed] using hcaption
      rw [if_neg hcaption] at hnone
      rw [if_pos hnot]
      by_cases hsection : Tags.tableSections.contains (Text.lowerName tag) = true
      · rw [if_pos hsection] at hnone
        simp only [if_pos hsection]
        rw [Node.visible_of_not_skipped (Node.not_skipped_of_contains (by decide) hsection)]
        exact solids_rowsText (Node.lossless_element hlossless).children hnone
      · rw [if_neg hsection] at hnone
        simp only [if_neg hsection]
        exact solids_rowsText_single hlossless hnone

theorem flatMap_zipIdx {α β : Type} (f : α → List β) (l : List α) :
    (l.zipIdx.flatMap fun x => f x.1) = l.flatMap f := by
  have hfst := List.zipIdx_map_fst 0 l
  conv_rhs => rw [← hfst, List.flatMap_map]

theorem flatMap_filter_nonempty {α β : Type} (f : α → List β) (ls : List (List α)) :
    (ls.filter fun l => !l.isEmpty).flatMap (fun l => l.flatMap f) =
      ls.flatMap fun l => l.flatMap f := by
  induction ls with
  | nil => rfl
  | cons l ls ih =>
    cases l with
    | nil => simpa using ih
    | cons x l => simpa using ih

/-- The texts of the blocks of cells are the texts of the rows. -/
theorem texts_cellBlocks (tableIndex : Nat) (table : List Node) :
    (cellBlocks tableIndex table).flatMap Block.text = (rowsOf table).flatMap rowText := by
  let text := fun cell : String × Attributes × List Node =>
    (CollectedText.ofElement false false cell.1 cell.2.1 cell.2.2).text
  let rows := ((rowsOf table).map cellsOf).filter fun row => !row.isEmpty
  have hrow : ∀ (row : List (String × Attributes × List Node)) (rowIndex : Nat),
      (row.zipIdx.map fun x => cellBlock tableIndex rowIndex x.2 x.1).flatMap Block.text =
        row.flatMap text := by
    intro row rowIndex
    rw [List.flatMap_map]
    exact flatMap_zipIdx text row
  calc (cellBlocks tableIndex table).flatMap Block.text
      = rows.zipIdx.flatMap fun x => x.1.flatMap text := by
        rw [cellBlocks, ← List.flatMap_def, List.flatMap_assoc]
        exact List.flatMap_congr fun x _ => hrow x.1 x.2
    _ = rows.flatMap fun row => row.flatMap text := flatMap_zipIdx _ rows
    _ = ((rowsOf table).map cellsOf).flatMap fun row => row.flatMap text :=
        flatMap_filter_nonempty text _
    _ = (rowsOf table).flatMap rowText := List.flatMap_map ..

/-- The blocks of captions hold what is visible in the captions. -/
theorem solids_captionBlocks {table : List Node} (h : isLosslessAll table = true)
    (around : Surroundings) :
    Text.solids ((captionBlocks around table).flatMap Block.text) =
      Text.solids (visibleAll (table.filter fun node => node.isNamed ["caption"])) := by
  rw [captionBlocks, List.filterMap_eq_flatMap_toList, List.flatMap_assoc, visibleAll_filter]
  refine solids_flatMap_congr fun node hnode => ?_
  have hlossless := Node.isLosslessAll_iff.mp h node hnode
  cases node with
  | text content => rfl
  | special kind content => rfl
  | element tag attributes children =>
    by_cases hcaption : (Text.lowerName tag == "caption") = true
    · have hname := eq_of_beq hcaption
      have hnamed : Node.isNamed ["caption"] (.element tag attributes children) = true := by
        simpa [Node.isNamed] using hname
      have htext := CollectedText.solids_ofElement (Node.lossless_element hlossless).children tag
        attributes
      rw [if_pos hnamed, Node.visible_of_not_skipped (by rw [hname]; decide), ← htext]
      cases hempty : (CollectedText.ofElement false false tag attributes children).text with
      | nil => simp [hcaption, hempty]
      | cons c rest => simp [hcaption, hempty]
    · have hnot : ¬ Node.isNamed ["caption"] (.element tag attributes children) = true := by
        simpa [Node.isNamed] using hcaption
      rw [if_neg hnot]
      simp [hcaption]

end Table

end MarkupCompiler
