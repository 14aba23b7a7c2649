import MarkupCompiler.Markdown.Definition
import MarkupCompiler.Markdown.Leaf
import MarkupCompiler.Markdown.Quote

/-!
# Reading blocks

Blocks are read line after line. A list is loose if an empty line stands between two of its items
or between two blocks directly in an item. Regions that are nested too deep are skipped.
-/

namespace MarkupCompiler.Markdown

/-- How many quotes, lists and items may be around a region that is read. -/
def maxLevel : Nat := 20

structure RegionReading where
  /-- The blocks, the last one first. -/
  blocks : List Block := []
  definitions : Definitions
  /-- The line after the last one read. -/
  next : Nat
  /-- Whether no empty line stands before the last block. -/
  isTight : Bool := true
  /-- Whether an empty line was met. -/
  hasEmpty : Bool := false

def RegionReading.add (reading : RegionReading) (block : Option Block) (definitions : Definitions)
    (next : Nat) : RegionReading :=
  { reading with
    blocks := block.toList ++ reading.blocks
    definitions, next
    isTight := !reading.hasEmpty }

/-- Notes an empty line at the end of a block or after it, and skips the latter. -/
def RegionReading.passEmpty (reading : RegionReading) (r : Region) (stop : Nat) : RegionReading :=
  let i := reading.next
  if i < stop && r.isEmpty i then { reading with next := i + 1, hasEmpty := true }
  else if i ≤ stop && r.isEmpty (i - 1) then { reading with hasEmpty := true }
  else reading

structure ItemsReading where
  /-- The items, the last one first. -/
  items : List (List Block) := []
  definitions : Definitions
  next : Nat
  isTight : Bool := true
  /-- Whether the last item ends with an empty line. -/
  endsEmpty : Bool := false

def ItemsReading.add (reading : ItemsReading) (r : Region) (i : Nat) (item : RegionReading) :
    ItemsReading :=
  { items := item.blocks.reverse :: reading.items
    definitions := item.definitions
    next := item.next
    isTight := reading.isTight && item.isTight && !reading.endsEmpty
    endsEmpty := i + 1 < item.next && r.isEmpty (item.next - 1) }

mutual

/-- Reads blocks on to line `stop`. `fuel` bounds how many lines are read and levels entered. -/
def readBlocks : (fuel : Nat) → Region → (stop : Nat) → RegionReading → RegionReading
  | 0, _, _, reading => reading
  | fuel + 1, r, stop, reading =>
    let i := if reading.next < stop then r.skipEmpty r.limit reading.next else reading.next
    let reading := { reading with next := i }
    if stop ≤ i || r.isOutside i then reading
    else if maxLevel ≤ r.level then { reading with next := stop }
    else
      let (block, definitions, next) := readBlock fuel r reading.definitions i stop
      readBlocks fuel r stop ((reading.add block definitions next).passEmpty r stop)

def readBlock : (fuel : Nat) → Region → Definitions → (i stop : Nat) →
    Option Block × Definitions × Nat
  | 0, _, definitions, _, stop => (none, definitions, stop)
  | fuel + 1, r, definitions, i, stop =>
    match Leaf.first? r i stop with
    | some (block, next) => (some block, definitions, next)
    | none =>
      if isQuoted (r.content i) then
        let (inner, last) := r.quote i stop
        let reading := readBlocks fuel inner last { definitions, next := i }
        (some (.quote reading.blocks.reverse), reading.definitions, reading.next)
      else
        match r.marker? i with
        | some m =>
          let reading := readItems fuel r m stop m { definitions, next := i }
          (some (.list m reading.isTight reading.items.reverse), reading.definitions,
            reading.next)
        | none =>
          match Definition.read? r i with
          | some (label, target, next) => (none, definitions.add label target, next)
          | none =>
            let (block, next) := Leaf.last r i stop
            (some block, definitions, next)

/-- Reads the items of a list that began with the marker `first`, from the next line on, where an
item has the marker `m`. An item without content ends at an empty line. -/
def readItems : (fuel : Nat) → Region → (first : Marker) → (stop : Nat) → (m : Marker) →
    ItemsReading → ItemsReading
  | 0, _, _, _, _, reading => reading
  | fuel + 1, r, first, stop, m, reading =>
    let i := reading.next
    let inner := r.item m i
    let item : RegionReading :=
      if inner.isEmpty i && r.isEmpty (i + 1) then
        { definitions := reading.definitions, next := min (i + 2) stop }
      else readBlocks fuel inner stop { definitions := reading.definitions, next := i }
    let reading := reading.add r i item
    if stop ≤ reading.next then reading
    else
      match r.continuesList first reading.next with
      | some m => readItems fuel r first stop m reading
      | none => reading

end

def blocksOf (t : Text) : List Block × Definitions :=
  let r := Region.ofText t
  let fuel := r.lines.size + 8 * maxLevel
  let reading := readBlocks fuel r r.limit { definitions := [], next := 0 }
  (reading.blocks.reverse, reading.definitions)

end MarkupCompiler.Markdown
