import MarkupCompiler.Block.Basic

/-!
# Table regions

A table region is a longest run of consecutive cell blocks with one table index. Its size is the
number of different row indices and the largest column that a cell of it reaches.
-/

namespace MarkupCompiler

/-- A table region: the position of its first block, and its size. -/
structure TableRegion where
  position : Nat
  rows : Nat
  columns : Int
  deriving Repr, DecidableEq, Inhabited

namespace TableRegion

/-- A region that is being measured; row indices are listed once. -/
structure Open where
  position : Nat
  tableIndex : Int
  rowIndices : List Int
  columns : Int
  deriving Repr, DecidableEq, Inhabited

namespace Open

def start (position : Nat) (cell : CellGeometry) : Open :=
  ⟨position, cell.tableIndex, [], 0⟩

def add (cell : CellGeometry) (o : Open) : Open :=
  { o with
    rowIndices :=
      if o.rowIndices.contains cell.rowIndex then o.rowIndices else cell.rowIndex :: o.rowIndices
    columns := max o.columns (cell.columnIndex + cell.columnSpan) }

/-- The region when its last cell is known. -/
def close (o : Open) : TableRegion := ⟨o.position, o.rowIndices.length, o.columns⟩

end Open

def measureFrom (position : Nat) : Option Open → List Block → List TableRegion
  | open?, [] => (open?.map Open.close).toList
  | open?, block :: blocks =>
    match block.cell? with
    | none => (open?.map Open.close).toList ++ measureFrom (position + 1) none blocks
    | some cell =>
      match open? with
      | some o =>
        if o.tableIndex == cell.tableIndex then
          measureFrom (position + 1) (some (o.add cell)) blocks
        else
          o.close :: measureFrom (position + 1) (some ((Open.start position cell).add cell)) blocks
      | none => measureFrom (position + 1) (some ((Open.start position cell).add cell)) blocks

def measure (blocks : List Block) : List TableRegion := measureFrom 0 none blocks

def startingAt? (position : Nat) (regions : List TableRegion) : Option TableRegion :=
  regions.find? fun r => r.position == position

end TableRegion

end MarkupCompiler
