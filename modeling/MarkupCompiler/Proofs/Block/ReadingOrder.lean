import MarkupCompiler.Proofs.Block.Lossless

/-!
# Blocks hold the text in reading order

What an extraction has taken so far is the text of its blocks and then its loose content. Each visit
adds the visible solid characters of what it visits, in reading order, and turning loose content
into a block changes nothing. So the blocks of a lossless tree hold all its visible solid characters,
each once.
-/

namespace MarkupCompiler

/-! ## Fragments -/

namespace FragmentBuffer

theorem solids_normalForm (preserve : Bool) (fragment : Text) :
    Text.solids (normalForm preserve fragment) = Text.solids fragment := by
  rw [normalForm]
  split
  · rfl
  · exact Text.solids_join_map_split Text.solids_normalize fragment

theorem solids_addBoundary (b : FragmentBuffer) :
    Text.solids b.addBoundary.text = Text.solids b.text := by
  rw [addBoundary]
  split
  · exact (Text.solids_append _ _).trans (List.append_nil _)
  · rfl

theorem solids_addSpace (isSeparate : Bool) (fragment : Text) (b : FragmentBuffer) :
    Text.solids (b.addSpace isSeparate fragment).text = Text.solids b.text := by
  rw [addSpace]
  split
  · exact (Text.solids_append _ _).trans (List.append_nil _)
  · rfl

/-- Appending a fragment adds its solid characters. -/
theorem solids_append (fragment : Text) (isSeparate : Bool) (b : FragmentBuffer) :
    Text.solids (b.append fragment isSeparate).text = Text.solids b.text ++ Text.solids fragment := by
  have hnormal := solids_normalForm b.preserve fragment
  rw [append]
  cases hempty : (normalForm b.preserve fragment).isEmpty with
  | true =>
    rw [List.isEmpty_iff.mp hempty] at hnormal
    simp [← hnormal]
  | false =>
    simp [addFragment, solids_addSpace, solids_addBoundary, hnormal]

theorem text_registerStyles (offset : Int) (is : List StyleInterval) (b : FragmentBuffer) :
    (b.registerStyles offset is).text = b.text := by
  simp only [registerStyles]
  split
  · rfl
  · rfl

end FragmentBuffer

/-! ## Steps of an extraction -/

namespace Extraction

/-- The solid characters taken so far: those of the blocks, then those of the loose content. -/
def taken (e : Extraction) : Text :=
  Text.solids (e.blocks.flatMap Block.text) ++ Text.solids e.loose.text

theorem taken_addBlock {e : Extraction} (h : e.loose.text = []) (block : Block) :
    (e.addBlock block).taken = e.taken ++ Text.solids block.text := by
  simp [taken, addBlock, h]

theorem taken_addParagraph {e : Extraction} (h : e.loose.text = []) (around : Surroundings)
    (collected : CollectedText) (style : ParagraphStyle) :
    (e.addParagraph around collected style).taken = e.taken ++ Text.solids collected.text :=
  taken_addBlock h _

theorem cleared_flushLoose (around : Surroundings) (e : Extraction) :
    (e.flushLoose around).loose = {} ∧ (e.flushLoose around).gap = false := by
  simp only [flushLoose]
  split
  · exact ⟨rfl, rfl⟩
  · exact ⟨rfl, rfl⟩

theorem loose_flushLoose (around : Surroundings) (e : Extraction) :
    (e.flushLoose around).loose.text = [] := by
  rw [(cleared_flushLoose around e).1]

/-- Loose content that becomes a block stays in its place. -/
theorem taken_flushLoose (around : Surroundings) (e : Extraction) :
    (e.flushLoose around).taken = e.taken := by
  simp only [flushLoose]
  split
  · next hempty => simp [taken, List.isEmpty_iff.mp hempty]
  · rw [taken_addParagraph rfl]
    simp [taken]

theorem taken_addLineBreak (e : Extraction) : e.addLineBreak.taken = e.taken := by
  rw [addLineBreak]
  cases hlast : e.blocks.getLast? with
  | none => rfl
  | some block =>
    obtain ⟨init, hinit⟩ := List.getLast?_eq_some_iff.mp hlast
    simp [taken, hinit, Block.appendText, Text.solids_cons_of_space, Text.isSpace]

theorem taken_addLooseText (raw : Text) (e : Extraction) :
    (e.addLooseText raw).taken = e.taken ++ Text.solids raw := by
  have hnormal := Text.solids_normalize raw
  simp only [addLooseText]
  cases hempty : (Text.normalize raw).isEmpty with
  | true =>
    rw [List.isEmpty_iff.mp hempty] at hnormal
    rw [← hnormal]
    cases raw.isEmpty with
    | true => simp
    | false => simp [taken]
  | false => simp [taken, FragmentBuffer.solids_append, hnormal]

theorem taken_addLooseElement (around : Surroundings) (tag : String) (attributes : Attributes)
    (children : List Node) (e : Extraction) :
    (e.addLooseElement around tag attributes children).taken =
      e.taken ++ Text.solids (CollectedText.ofElement false false tag attributes children).text := by
  simp only [addLooseElement]
  cases hempty : (CollectedText.ofElement false false tag attributes children).text.isEmpty with
  | true =>
    rw [List.isEmpty_iff.mp hempty]
    cases Text.endsWith Text.isSpace (Node.rawText around.textKind tag children) with
    | true => simp [taken]
    | false => simp
  | false => simp [taken, FragmentBuffer.solids_append, FragmentBuffer.text_registerStyles]

theorem taken_addListItem {e : Extraction} (h : e.loose.text = []) (ordered : Bool) (level : Nat)
    (tag : String) (attributes : Attributes) {children : List Node}
    (hchildren : Node.isLosslessAll children = true) :
    (e.addListItem ordered level tag attributes children).taken =
      e.taken ++ Text.solids
        (Node.visibleAll (children.filter fun node => !node.isNamed Tags.lists)) := by
  rw [← CollectedText.solids_ofElement_skipLists hchildren tag attributes, addListItem]
  exact taken_addBlock h _

theorem taken_addTable {e : Extraction} (h : e.loose.text = []) (around : Surroundings)
    {table : List Node} (htable : Node.isLosslessAll table = true)
    (hstray : Text.solids (Table.stray table) = []) :
    (e.addTable around table).taken =
      e.taken ++ Text.solids (Node.visibleFirst ["caption"] table) := by
  have hcells := Table.solids_rowsOf htable hstray
  rw [← Table.texts_cellBlocks e.tableCount] at hcells
  simp [taken, addTable, h, Node.visibleFirst, Table.solids_captionBlocks htable, hcells]

/-! ## Routes -/

/-- Takes an element as a whole: as a paragraph, as a container of inline content, or as loose. -/
def addWhole (around : Surroundings) (tag : String) (attributes : Attributes)
    (children : List Node) (e : Extraction) : Extraction :=
  let name := Text.lowerName tag
  let collected := CollectedText.ofElement false false tag attributes children
  if Tags.paragraphs.contains name then
    (e.flushLoose around).addParagraph around collected (ParagraphStyle.ofElement name attributes)
  else if Tags.blockLevel.contains name then
    if collected.text.isEmpty then e.flushLoose around
    else
      (e.flushLoose around).addParagraph (around.inside tag) collected
        (ParagraphStyle.ofElement name attributes)
  else e.addLooseElement around tag attributes children

/-- Enters an element: after a block-level one, the loose content inside it ends. -/
def enter (around : Surroundings) (tag : String) (children : List Node) (e : Extraction) :
    Extraction :=
  let inner := visitAll (around.inside tag) children (e.flushLoose around)
  if Tags.blockLevel.contains (Text.lowerName tag) then inner.flushLoose (around.inside tag)
  else inner

theorem not_contains_of_not_blockLevel {names : List String} {name : String}
    (hnames : ∀ n ∈ names, Tags.blockLevel.contains n = true)
    (h : Tags.blockLevel.contains name = false) : names.contains name = false := by
  by_contra hmem
  rw [Bool.not_eq_false, List.contains_iff_mem] at hmem
  rw [hnames name hmem] at h
  exact Bool.noConfusion h

/-- A visited element goes its route. -/
theorem visit_element (around : Surroundings) (tag : String) (attributes : Attributes)
    (children : List Node) (e : Extraction) :
    visit around (.element tag attributes children) e =
      match Route.of tag children with
      | .hidden => e
      | .lineBreak => (e.flushLoose around).addLineBreak
      | .whole => e.addWhole around tag attributes children
      | .list =>
        (visitList (around.inside tag) (Text.lowerName tag == "ol") 0 children
          ((e.flushLoose around).startList (Text.lowerName tag == "ol") 0)).flushLoose around
      | .table => (e.flushLoose around).addTable around children
      | .rule => e.flushLoose around
      | .entered => e.enter around tag children := by
  by_cases hskipped : Tags.skipped.contains (Text.lowerName tag) = true
  · simp only [visit, Route.of, hskipped, if_true]
  by_cases hbreak : (Text.lowerName tag == "br") = true
  · simp only [visit, Route.of, hskipped, hbreak, if_true, Bool.false_eq_true, if_false]
  rw [Bool.not_eq_true] at hskipped hbreak
  cases hblock : Tags.blockLevel.contains (Text.lowerName tag) with
  | false =>
    -- A name that is not block-level is in none of the other sets.
    have hparagraph : Tags.paragraphs.contains (Text.lowerName tag) = false :=
      not_contains_of_not_blockLevel (by decide) hblock
    have hlist : Tags.lists.contains (Text.lowerName tag) = false :=
      not_contains_of_not_blockLevel (by decide) hblock
    have hothers : ["table", "hr"].contains (Text.lowerName tag) = false :=
      not_contains_of_not_blockLevel (by decide) hblock
    simp only [List.contains_cons, List.contains_nil, Bool.or_false, Bool.or_eq_false_iff] at hothers
    cases hinner : Node.anyNamedIn Tags.blockLevel children with
    | false =>
      simp only [visit, Route.of, addWhole, hskipped, hbreak, hblock, hparagraph, hlist, hothers,
        hinner, Bool.false_eq_true, if_false, Bool.not_false, Bool.or_true, Bool.and_self, if_true]
    | true =>
      simp only [visit, Route.of, enter, hskipped, hbreak, hblock, hparagraph, hlist, hothers,
        hinner, Bool.false_eq_true, if_false, Bool.not_true, Bool.and_false, if_true]
  | true =>
    simp only [visit, Route.of, addWhole, enter, hskipped, hbreak, hblock, Bool.false_eq_true,
      if_false, if_true, Bool.not_true, Bool.or_false]
    split_ifs <;> rfl

theorem taken_addWhole (around : Surroundings) (tag : String) (attributes : Attributes)
    {children : List Node} (h : Node.isLosslessAll children = true) (e : Extraction) :
    (e.addWhole around tag attributes children).taken =
      e.taken ++ Text.solids (Node.visibleAll children) := by
  have hloose := loose_flushLoose around e
  rw [← CollectedText.solids_ofElement h tag attributes, addWhole]
  split
  · rw [taken_addParagraph hloose, taken_flushLoose]
  · split
    · cases hempty : (CollectedText.ofElement false false tag attributes children).text.isEmpty with
      | true => simp [List.isEmpty_iff.mp hempty, taken_flushLoose]
      | false => simp [taken_addParagraph hloose, taken_flushLoose]
    · exact taken_addLooseElement around tag attributes children e

/-! ## The walk -/

mutual

theorem taken_visit (around : Surroundings) {node : Node} (h : node.isLossless = true)
    (e : Extraction) :
    (visit around node e).taken = e.taken ++ Text.solids node.reading := by
  match node with
  | .text content =>
    rw [visit, Node.reading]
    exact taken_addLooseText content e
  | .special _ _ =>
    rw [visit, Node.reading]
    exact (List.append_nil _).symm
  | .element tag attributes children =>
    obtain ⟨hempty, -, hstray, hchildren⟩ := Node.lossless_element h
    obtain ⟨hbreak, hrule, htable⟩ := Node.name_of_route tag children
    have hloose := loose_flushLoose around e
    rw [visit_element, Node.reading]
    cases hroute : Route.of tag children with
    | hidden => exact (List.append_nil _).symm
    | lineBreak =>
      have hnone := hempty (by rw [hbreak hroute]; decide)
      simp only [taken_addLineBreak, taken_flushLoose, hnone, List.append_nil]
    | whole => exact taken_addWhole around tag attributes hchildren e
    | list =>
      have hlist := taken_visitList (around.inside tag) (Text.lowerName tag == "ol") 0 hchildren
        ((e.flushLoose around).startList (Text.lowerName tag == "ol") 0)
      simp only [taken_flushLoose]
      rw [hlist]
      exact congrArg (· ++ _) (taken_flushLoose around e)
    | table =>
      simp only [taken_addTable hloose around hchildren (hstray (htable hroute)), taken_flushLoose]
    | rule =>
      have hnone := hempty (by rw [hrule hroute]; decide)
      simp only [taken_flushLoose, hnone, List.append_nil]
    | entered =>
      have hall := taken_visitAll (around.inside tag) hchildren (e.flushLoose around)
      rw [taken_flushLoose] at hall
      simp only [enter]
      split
      · rw [taken_flushLoose, hall]
      · exact hall

theorem taken_visitAll (around : Surroundings) {nodes : List Node}
    (h : Node.isLosslessAll nodes = true) (e : Extraction) :
    (visitAll around nodes e).taken = e.taken ++ Text.solids (Node.readingAll nodes) := by
  match nodes with
  | [] => exact (List.append_nil _).symm
  | node :: nodes =>
    rw [Node.isLosslessAll, Bool.and_eq_true] at h
    rw [visitAll, taken_visitAll around h.2, taken_visit around h.1, Node.readingAll,
      Text.solids_append, List.append_assoc]

theorem taken_visitList (around : Surroundings) (ordered : Bool) (level : Nat) {nodes : List Node}
    (h : Node.isLosslessAll nodes = true) (e : Extraction) :
    (visitList around ordered level nodes e).taken =
      e.taken ++ Text.solids (Node.readingList nodes) := by
  match nodes with
  | [] => exact (List.append_nil _).symm
  | .text content :: nodes =>
    rw [Node.isLosslessAll, Bool.and_eq_true] at h
    rw [visitList, taken_visitList around ordered level h.2, taken_visit around h.1,
      Node.readingList, Text.solids_append, List.append_assoc]
    rfl
  | .special _ _ :: nodes =>
    rw [Node.isLosslessAll, Bool.and_eq_true] at h
    rw [visitList, taken_visitList around ordered level h.2, visit, Node.readingList]
  | .element tag attributes children :: nodes =>
    rw [Node.isLosslessAll, Bool.and_eq_true] at h
    have hchildren := (Node.lossless_element h.1).children
    have hloose := loose_flushLoose around e
    rw [visitList, taken_visitList around ordered level h.2, Node.readingList, Text.solids_append,
      ← List.append_assoc]
    refine congrArg (· ++ _) ?_
    by_cases hitem : (Text.lowerName tag == "li") = true
    · rw [if_pos hitem, if_pos hitem, taken_visitSublists _ _ hchildren,
        taken_addListItem hloose ordered level tag attributes hchildren, taken_flushLoose,
        Text.solids_append, List.append_assoc]
    · rw [if_neg hitem, if_neg hitem]
      by_cases hlist : Tags.lists.contains (Text.lowerName tag) = true
      · rw [if_pos hlist, if_pos hlist, taken_flushLoose, taken_visitList _ _ _ hchildren]
        exact congrArg (· ++ _) (taken_flushLoose around e)
      · rw [if_neg hlist, if_neg hlist]
        exact taken_visit around h.1 e

theorem taken_visitSublists (around : Surroundings) (level : Nat) {nodes : List Node}
    (h : Node.isLosslessAll nodes = true) (e : Extraction) :
    (visitSublists around level nodes e).taken =
      e.taken ++ Text.solids (Node.readingSublists nodes) := by
  match nodes with
  | [] => exact (List.append_nil _).symm
  | .text _ :: nodes =>
    rw [Node.isLosslessAll, Bool.and_eq_true] at h
    exact taken_visitSublists around level h.2 e
  | .special _ _ :: nodes =>
    rw [Node.isLosslessAll, Bool.and_eq_true] at h
    exact taken_visitSublists around level h.2 e
  | .element tag attributes children :: nodes =>
    rw [Node.isLosslessAll, Bool.and_eq_true] at h
    have hchildren := (Node.lossless_element h.1).children
    rw [visitSublists, taken_visitSublists around level h.2, Node.readingSublists,
      Text.solids_append, ← List.append_assoc]
    refine congrArg (· ++ _) ?_
    by_cases hlist : Tags.lists.contains (Text.lowerName tag) = true
    · rw [if_pos hlist, if_pos hlist, taken_flushLoose, taken_visitList _ _ _ hchildren]
      rfl
    · rw [if_neg hlist, if_neg hlist]
      exact (List.append_nil _).symm

end

/-- Once the loose content is turned into a block, the blocks hold all that was taken. -/
theorem solids_texts_flushLoose (around : Surroundings) (e : Extraction) :
    Text.solids ((e.flushLoose around).blocks.flatMap Block.text) = e.taken := by
  rw [← taken_flushLoose around e, taken, loose_flushLoose, Text.solids_nil, List.append_nil]

end Extraction

/-- Whether a root and all below it is lossless. -/
def Root.isLossless : Root → Bool
  | .document children => Node.isLosslessAll children
  | .element _ tag attributes children => Node.isLossless (.element tag attributes children)

/--
The blocks of a lossless tree hold its visible solid characters in reading order, which rearranges
the visible text: none is lost and none occurs twice.
-/
theorem Block.solids_ofRoot {root : Root} (h : root.isLossless = true) :
    Text.solids ((ofRoot root).flatMap Block.text) = Text.solids root.reading ∧
      root.reading.Perm root.visible := by
  refine ⟨?_, root.reading_perm⟩
  cases root with
  | document children =>
    rw [ofRoot, Extraction.solids_texts_flushLoose, Extraction.taken_visitAll _ h]
    rfl
  | element place tag attributes children =>
    rw [ofRoot, Extraction.solids_texts_flushLoose, Extraction.taken_visit _ h]
    rfl

/-- An item of a list that holds a list, and a table with its caption at the end. -/
theorem Block.solids_ofRoot_nested :
    let inner : Node := .element "ul" [] [.element "li" [] [.text ['b']]]
    let list : Node := .element "ul" [] [.element "li" [] [.text ['a'], inner, .text ['c']]]
    let row : Node := .element "tr" [] [.element "td" [] [.text ['d']]]
    let table : Node := .element "table" [] [row, .element "caption" [] [.text ['e']]]
    let root : Root := .document [list, table]
    root.isLossless = true ∧
      Text.solids ((ofRoot root).flatMap Block.text) = ['a', 'c', 'b', 'e', 'd'] := by
  intro inner list row table root
  have hroot : root.isLossless = true := by decide +kernel
  have hreading : Text.solids root.reading = ['a', 'c', 'b', 'e', 'd'] := by decide +kernel
  exact ⟨hroot, (solids_ofRoot hroot).1.trans hreading⟩

end MarkupCompiler
