import MarkupCompiler.Interval.Basic
import MarkupCompiler.Style.ParagraphStyle

/-!
# Blocks

A block is the text of one paragraph, heading, list item or table cell, with the style of the
paragraph and style intervals that address the text.
-/

namespace MarkupCompiler

/-- A block's place in a list; `position` counts from 1 within its kind of list and level. -/
structure ListMembership where
  ordered : Bool
  nestingLevel : Int := 0
  position : Int := 1
  deriving Repr, DecidableEq, Inhabited

/--
A block's place in a table. Rows and columns count cells in document order, without regard to
spans; `tableIndex` tells the tables of a document apart.
-/
structure CellGeometry where
  rowIndex : Int
  columnIndex : Int
  rowSpan : Int := 1
  columnSpan : Int := 1
  tableIndex : Int := 0
  deriving Repr, DecidableEq, Inhabited

/-- A paragraph of text. -/
structure Block where
  text : Text
  paragraphStyle : ParagraphStyle := ParagraphStyle.normal
  intervals : List StyleInterval := []
  list? : Option ListMembership := none
  cell? : Option CellGeometry := none
  deriving Repr, DecidableEq, Inhabited

namespace Block

def isListItem (b : Block) : Bool := b.list?.isSome

/-- The block with more text at its end; its intervals stay. -/
def appendText (b : Block) (suffix : Text) : Block := { b with text := b.text ++ suffix }

end Block

end MarkupCompiler
