import MarkupCompiler.Block.Basic
import MarkupCompiler.CollectedText
import MarkupCompiler.FragmentBuffer
import MarkupCompiler.Tree.Node

/-!
# Blocks of a document

A walk cuts a tree into blocks. Paragraph elements make one block each; containers make one when
they hold inline content only, and are entered otherwise. Inline content between blocks is joined
into paragraphs of its own. List items and table cells carry their place, and paragraphs inside
block quotes an indent for each level of quotation.
-/

namespace MarkupCompiler

/-- How many items were counted for each kind of list and level. -/
abbrev ListCounters := Bool → Nat → Nat

def ListCounters.set (counters : ListCounters) (ordered : Bool) (level count : Nat) :
    ListCounters :=
  fun o l => if o == ordered && l == level then count else counters o l

/-- What the place of a node decides: the depth of quotation and the kind of text. -/
structure Surroundings where
  quoteDepth : Nat := 0
  textKind : TextKind := .plain

namespace Surroundings

/-- The surroundings of the children of an element. -/
def inside (s : Surroundings) (tag : String) : Surroundings where
  quoteDepth := if Text.lowerName tag == "blockquote" then s.quoteDepth + 1 else s.quoteDepth
  textKind := (TextKind.ofName? tag).getD s.textKind

/-- The left margin of one level of quotation, in points. -/
def quoteIndent : Nat := 36

def indented (s : Surroundings) (style : ParagraphStyle) : ParagraphStyle :=
  if s.quoteDepth == 0 then style
  else
    let margin := Float.ofNat (quoteIndent * s.quoteDepth)
    ({ indentStart := some margin, indentFirstLine := some margin } : ParagraphStyle).merged style

end Surroundings

/-- What a walk has extracted, with the loose inline content that waits to become a block. -/
structure Extraction where
  blocks : List Block := []
  counters : ListCounters := fun _ _ => 0
  tableCount : Nat := 0
  loose : FragmentBuffer := {}
  gap : Bool := false

namespace Extraction

def addBlock (block : Block) (e : Extraction) : Extraction :=
  { e with blocks := e.blocks ++ [block] }

def addParagraph (around : Surroundings) (collected : CollectedText) (style : ParagraphStyle)
    (e : Extraction) : Extraction :=
  e.addBlock
    { text := collected.text, paragraphStyle := around.indented style,
      intervals := collected.intervals }

/-- Turns the loose content into a paragraph, if there is any. -/
def flushLoose (around : Surroundings) (e : Extraction) : Extraction :=
  let text := e.loose.text
  let cleared := { e with loose := {}, gap := false }
  if text.isEmpty then cleared
  else
    cleared.addParagraph around
      ⟨text, StyleInterval.clampAll text.length e.loose.ranges⟩ ParagraphStyle.normal

/-- Adds a line break to the last block; before the first block it counts for nothing. -/
def addLineBreak (e : Extraction) : Extraction :=
  match e.blocks.getLast? with
  | none => e
  | some block => { e with blocks := e.blocks.dropLast ++ [block.appendText ['\n']] }

/-- Takes a loose text; whitespace around it is remembered as a gap between words. -/
def addLooseText (raw : Text) (e : Extraction) : Extraction :=
  let text := Text.normalize raw
  if text.isEmpty then (if raw.isEmpty then e else { e with gap := true })
  else
    { e with
      loose := e.loose.append text (e.gap || Text.beginsWith Text.isSpace raw)
      gap := Text.endsWith Text.isSpace raw }

/-- Takes a loose element with its styles. An element without raw text has gaps around it. -/
def addLooseElement (around : Surroundings) (tag : String) (attributes : Attributes)
    (children : List Node) (e : Extraction) : Extraction :=
  let raw := Node.rawText around.textKind tag children
  let collected := CollectedText.ofElement false false tag attributes children
  if collected.text.isEmpty then
    (if Text.endsWith Text.isSpace raw then { e with gap := true } else e)
  else
    let start := e.loose.localLength
    let joined :=
      e.loose.append collected.text (e.gap || raw.isEmpty || Text.beginsWith Text.isSpace raw)
    { e with
      loose := joined.registerStyles start collected.intervals
      gap := raw.isEmpty || Text.endsWith Text.isSpace raw }

def startList (ordered : Bool) (level : Nat) (e : Extraction) : Extraction :=
  { e with counters := e.counters.set ordered level 0 }

/-- Counts a list item and adds its own text, without the lists among its children. -/
def addListItem (ordered : Bool) (level : Nat) (tag : String) (attributes : Attributes)
    (children : List Node) (e : Extraction) : Extraction :=
  let position := e.counters ordered level + 1
  let collected := CollectedText.ofElement true false tag attributes children
  addBlock
    { text := collected.text
      paragraphStyle := ParagraphStyle.ofElement "li" attributes
      intervals := collected.intervals
      list? := some { ordered := ordered, nestingLevel := level, position := position } }
    { e with counters := e.counters.set ordered level position }

end Extraction

namespace Table

def cellsOf (row : List Node) : List (String × Attributes × List Node) :=
  row.filterMap fun
    | .element tag attributes children =>
      if Tags.cells.contains (Text.lowerName tag) then some (tag, attributes, children) else none
    | _ => none

def rowsAmong (nodes : List Node) : List (List Node) :=
  nodes.filterMap fun
    | .element tag _ children => if Text.lowerName tag == "tr" then some children else none
    | _ => none

/-- The rows of a table: its own and those of its sections, in document order. -/
def rowsOf (table : List Node) : List (List Node) :=
  table.flatMap fun
    | .element tag attributes children =>
      if Tags.tableSections.contains (Text.lowerName tag) then rowsAmong children
      else rowsAmong [.element tag attributes children]
    | _ => []

/-- The span that an attribute's text gives a cell: one, unless it is a larger integer. -/
def span (attributes : Attributes) (name : String) : Int :=
  match attributes.lookup name with
  | some (.text raw) =>
    match IntegerText.read (Text.trimBlank raw.toList) with
    | .error _ => 1
    | .ok n => if n < 1 then 1 else n
  | _ => 1

def cellBlock (tableIndex rowIndex columnIndex : Nat)
    (cell : String × Attributes × List Node) : Block :=
  let (tag, attributes, children) := cell
  let collected := CollectedText.ofElement false false tag attributes children
  { text := collected.text
    paragraphStyle := ParagraphStyle.ofElement tag attributes
    intervals := collected.intervals
    cell? := some
      { rowIndex := rowIndex
        columnIndex := columnIndex
        rowSpan := span attributes "rowspan"
        columnSpan := span attributes "colspan"
        tableIndex := tableIndex } }

/-- The blocks of the rows of a table; rows without cells are not counted. -/
def cellBlocks (tableIndex : Nat) (table : List Node) : List Block :=
  let rows := ((rowsOf table).map cellsOf).filter fun row => !row.isEmpty
  (rows.zipIdx.map fun (row, rowIndex) =>
    row.zipIdx.map fun (cell, columnIndex) =>
      cellBlock tableIndex rowIndex columnIndex cell).flatten

/-- The paragraphs of a table's captions that have text. -/
def captionBlocks (around : Surroundings) (table : List Node) : List Block :=
  table.filterMap fun
    | .element tag attributes children =>
      let collected := CollectedText.ofElement false false tag attributes children
      if Text.lowerName tag == "caption" && !collected.text.isEmpty then
        some
          { text := collected.text
            paragraphStyle := around.indented (ParagraphStyle.ofElement "caption" attributes)
            intervals := collected.intervals }
      else none
    | _ => none

end Table

/-- Adds the blocks of a table: captions, then cells. -/
def Extraction.addTable (around : Surroundings) (table : List Node) (e : Extraction) :
    Extraction :=
  { e with
    blocks := e.blocks ++ Table.captionBlocks around table ++ Table.cellBlocks e.tableCount table
    tableCount := e.tableCount + 1 }

namespace Extraction

mutual

def visit (around : Surroundings) : Node → Extraction → Extraction
  | .text content, e => e.addLooseText content
  | .special _ _, e => e
  | .element tag attributes children, e =>
    let name := Text.lowerName tag
    let within := around.inside tag
    if Tags.skipped.contains name then e
    else if name == "br" then (e.flushLoose around).addLineBreak
    else if Tags.blockLevel.contains name then
      let e := e.flushLoose around
      if Tags.paragraphs.contains name then
        e.addParagraph around (CollectedText.ofElement false false tag attributes children)
          (ParagraphStyle.ofElement name attributes)
      else if Tags.lists.contains name then
        (visitList within (name == "ol") 0 children
          (e.startList (name == "ol") 0)).flushLoose around
      else if name == "table" then e.addTable around children
      else if name == "hr" then e
      else if Tags.containers.contains name && !Node.anyNamedIn Tags.blockLevel children then
        let collected := CollectedText.ofElement false false tag attributes children
        if collected.text.isEmpty then e
        else e.addParagraph within collected (ParagraphStyle.ofElement name attributes)
      else (visitAll within children e).flushLoose within
    else if Node.anyNamedIn Tags.blockLevel children then
      visitAll within children (e.flushLoose around)
    else e.addLooseElement around tag attributes children

/-- Visits nodes in order. -/
def visitAll (around : Surroundings) : List Node → Extraction → Extraction
  | [], e => e
  | node :: nodes, e => visitAll around nodes (visit around node e)

/-- Visits the children of a list: items, lists that follow an item, and other nodes. -/
def visitList (around : Surroundings) (ordered : Bool) (level : Nat) :
    List Node → Extraction → Extraction
  | [], e => e
  | .element tag attributes children :: nodes, e =>
    let name := Text.lowerName tag
    let within := around.inside tag
    let next :=
      if name == "li" then
        visitSublists within level children
          ((e.flushLoose around).addListItem ordered level tag attributes children)
      else if Tags.lists.contains name then
        (visitList within (name == "ol") (level + 1) children
          ((e.flushLoose around).startList (name == "ol") (level + 1))).flushLoose around
      else visit around (.element tag attributes children) e
    visitList around ordered level nodes next
  | .text content :: nodes, e =>
    visitList around ordered level nodes (visit around (.text content) e)
  | .special kind content :: nodes, e =>
    visitList around ordered level nodes (visit around (.special kind content) e)

/-- Visits the lists among the children of a list item. -/
def visitSublists (around : Surroundings) (level : Nat) : List Node → Extraction → Extraction
  | [], e => e
  | .element tag _ children :: nodes, e =>
    let name := Text.lowerName tag
    let next :=
      if Tags.lists.contains name then
        (visitList (around.inside tag) (name == "ol") (level + 1) children
          (e.startList (name == "ol") (level + 1))).flushLoose around
      else e
    visitSublists around level nodes next
  | .text _ :: nodes, e => visitSublists around level nodes e
  | .special _ _ :: nodes, e => visitSublists around level nodes e

end

end Extraction

/-- The blocks of a document or element, in document order. -/
def Block.ofRoot : Root → List Block
  | .document children =>
    ((Extraction.visitAll {} children {}).flushLoose {}).blocks
  | .element place tag attributes children =>
    let around : Surroundings := { textKind := place }
    ((Extraction.visit around (.element tag attributes children) {}).flushLoose around).blocks

end MarkupCompiler
