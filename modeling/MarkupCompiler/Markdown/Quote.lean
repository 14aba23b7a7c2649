import MarkupCompiler.Markdown.Table

/-!
# Lines inside quotes and list items

A quote takes the sign `>` and one blank after it away from its lines. Lines that only go on with a
paragraph need no sign. A list item takes its marker away and begins a region where its content
begins.
-/

namespace MarkupCompiler.Markdown

/-- A line without its sign and the blank after it; a tab may stand for more than that blank. -/
def Line.unquoted (l : Line) : Line :=
  let column := l.column.toNat + 1
  let body := l.content.drop 1
  let isAtStop := (l.base + column) % 4 == 3
  let (rest, start, shift, base) :=
    match body with
    | ' ' :: rest => (rest, column + 1, 0, column + 1)
    | '\t' :: rest =>
      if isAtStop then (rest, column + 1, 0, column + 1) else (body, column, 1, column + 1)
    | _ => (body, column, 0, column)
  let lead := rest.takeWhile isIndent
  { l with
    lead
    content := rest.drop lead.length
    column := (Line.columnAfterAll (l.base + shift) start lead : Int) - start
    base }

/-- The lines of a quote, the line after them, and whether another block stands there. -/
structure QuoteLines where
  lines : List Line
  next : Nat
  isInterrupted : Bool

/-- A line in front of others. -/
def QuoteLines.cons (l : Line) (q : QuoteLines) : QuoteLines := { q with lines := l :: q.lines }

/-- At most `count` lines of a quote from line `i` on; the flag says that the line before is
empty. -/
def quoteLines (r : Region) : (count : Nat) → (isAfterEmpty : Bool) → (i : Nat) → QuoteLines
  | 0, _, i => ⟨[], i, false⟩
  | count + 1, isAfterEmpty, i =>
    if r.isEmpty i then ⟨[], i, false⟩
    else if isQuoted (r.content i) && !r.isOutside i then
      let line := (r.line i).unquoted
      (quoteLines r count line.isEmpty (i + 1)).cons line
    else if isAfterEmpty then ⟨[], i, false⟩
    else if r.endsQuote i then ⟨[], i, true⟩
    else (quoteLines r count false (i + 1)).cons { r.line i with column := -1 }

/-- Puts lines into the place of others, from line `i` on. -/
def replaceLines (lines : Array Line) (i : Nat) : List Line → Array Line
  | [] => lines
  | line :: rest => replaceLines (lines.setIfInBounds i line) (i + 1) rest

/-- The region of a quote that begins with line `i`, and the line after it. -/
def Region.quote (r : Region) (i stop : Nat) : Region × Nat :=
  let q := quoteLines r (stop - i) false i
  ({ r with
      lines := replaceLines r.lines i q.lines
      limit := if q.isInterrupted then q.next else r.limit
      indent := 0
      level := r.level + 1 },
    q.next)

/-- The widest gap after a marker that belongs to it; after a wider one only one blank does. -/
def maxGap : Nat := 4

/-- The region of a list item that begins with line `i`. -/
def Region.item (r : Region) (m : Marker) (i : Nat) : Region :=
  let l := r.line i
  let start := l.column.toNat + m.length
  let body := l.content.drop m.length
  let gap := body.takeWhile isIndent
  let content := body.drop gap.length
  let column := Line.columnAfterAll l.base start gap
  let width := if content.isEmpty || maxGap < column - start then 1 else column - start
  let lead := l.lead ++ l.content.take m.length ++ gap
  { r with
    lines := r.lines.setIfInBounds i { l with lead, content, column }
    indent := start + width
    listIndent := some r.indent
    level := r.level + 2 }

/-- Whether another item of the list that a marker began stands at a line. -/
def Region.continuesList (r : Region) (m : Marker) (i : Nat) : Option Marker :=
  if r.isOutside i || r.isCode i || r.endsItem i then none
  else (Marker.of? (r.content i)).filter m.isLike

end MarkupCompiler.Markdown
