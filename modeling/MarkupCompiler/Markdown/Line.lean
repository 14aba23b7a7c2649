import MarkupCompiler.Text.Basic

/-!
# Lines

A line is its lead, which indents it, and its content, which begins with no blank. The lead of a
line inside a list item also holds the item's marker. Columns count tabs as stops every four
columns. A region is what a block reads: lines, some of them with a part cut away by the quotes
and items around them, and the column where the content of the innermost item begins.
-/

namespace MarkupCompiler.Markdown

def isIndent (c : Char) : Bool := c == ' ' || c == '\t'

def columnAfter (base column : Nat) (c : Char) : Nat :=
  if c == '\t' then column + 4 - (column + base) % 4 else column + 1

structure Line where
  lead : Text := []
  content : Text := []
  /-- The column of the content; a line that only continues a paragraph has a negative one. -/
  column : Int := 0
  /-- Where the tab stops of the lead are counted from. -/
  base : Nat := 0
  hasBreak : Bool := false
  deriving Repr, DecidableEq, Inhabited

namespace Line

/-- Whether nothing but blanks stands in the line. -/
def isEmpty (l : Line) : Bool := l.content.isEmpty

def columnAfterAll (base column : Nat) (lead : Text) : Nat := lead.foldl (columnAfter base) column

def ofText (hasBreak : Bool) (t : Text) : Line :=
  let lead := t.takeWhile isIndent
  { lead, content := t.drop lead.length, column := columnAfterAll 0 0 lead, hasBreak }

/-- The lead from a column on; columns that a cut tab leaves over become spaces. -/
def cutLead (base indent : Nat) : (column : Nat) → Text → Text
  | column, [] => List.replicate (column - indent) ' '
  | column, c :: rest =>
    if column < indent then cutLead base indent (columnAfter base column c) rest
    else List.replicate (column - indent) ' ' ++ c :: rest

def cut (indent : Nat) (l : Line) : Text := cutLead l.base indent 0 l.lead ++ l.content

def breakText (l : Line) : Text := if l.hasBreak then ['\n'] else []

/-- A text without carriage returns and null characters. -/
def cleanText : Text → Text
  | [] => []
  | '\r' :: '\n' :: rest => '\n' :: cleanText rest
  | c :: rest =>
    (if c == '\r' then '\n' else if c.toNat == 0 then Text.replacement else c) :: cleanText rest

/-- The lines of pieces of text that line feeds separate; blanks alone do not make a last line. -/
def ofPieces : List Text → List Line
  | [] => []
  | [last] => if last.all isIndent then [] else [ofText false last]
  | piece :: pieces => ofText true piece :: ofPieces pieces

end Line

/-- What blocks are read from. -/
structure Region where
  lines : Array Line
  /-- Lines from here on belong to no block of the region. -/
  limit : Nat
  /-- The column where the content of the innermost list item begins. -/
  indent : Nat := 0
  /-- The column where the list around that item begins. -/
  listIndent : Option Nat := none
  /-- How many quotes, lists and items are around the region. -/
  level : Nat := 0
  deriving Repr, Inhabited

namespace Region

def ofText (t : Text) : Region :=
  let lines := (Line.ofPieces (Text.split '\n' (Line.cleanText t))).toArray
  { lines, limit := lines.size }

/-- The line with a number; lines after the last one are empty. -/
def line (r : Region) (i : Nat) : Line := r.lines.getD i {}

def isEmpty (r : Region) (i : Nat) : Bool := (r.line i).isEmpty

def content (r : Region) (i : Nat) : Text := (r.line i).content

/-- How far a line is indented within the region. -/
def depth (r : Region) (i : Nat) : Int := (r.line i).column - r.indent

/-- Whether a line is indented like a code block. -/
def isCode (r : Region) (i : Nat) : Bool := 4 ≤ r.depth i

/-- Whether a line is indented less than the region. -/
def isOutside (r : Region) (i : Nat) : Bool := r.depth i < 0

def skipEmpty (r : Region) : (count : Nat) → (i : Nat) → Nat
  | 0, i => i
  | count + 1, i => if i < r.limit && r.isEmpty i then r.skipEmpty count (i + 1) else i

def cutLines (r : Region) (indent first next : Nat) : List Text :=
  (List.range' first (next - first)).map fun i => (r.line i).cut indent

/-- The text of lines, each from a column on, without the break after the last one. -/
def cut (r : Region) (indent first next : Nat) : Text :=
  Text.join ['\n'] (r.cutLines indent first next)

/-- The text of lines, each from a column on, with the break after the last one. -/
def cutWhole (r : Region) (indent first next : Nat) : Text :=
  if first < next then r.cut indent first next ++ (r.line (next - 1)).breakText else []

end Region

end MarkupCompiler.Markdown
