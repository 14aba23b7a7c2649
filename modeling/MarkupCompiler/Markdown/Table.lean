import MarkupCompiler.Markdown.BlockStart

/-!
# Tables

A table has a row of column titles, a line that marks its columns and any number of further rows.
Bars separate cells; a backslash before a bar makes it part of a cell. Rows are cut or filled up to
the count of columns.
-/

namespace MarkupCompiler.Markdown

/-- How the cells of a column are aligned. -/
inductive Alignment where
  | unset
  | left
  | center
  | right
  deriving Repr, DecidableEq, Inhabited

/-- The alignment that a mark of hyphens and colons gives a column. -/
def Alignment.ofMark? (t : Text) : Option Alignment :=
  let opensLeft := t.head? == some ':'
  let body := if opensLeft then t.drop 1 else t
  let hyphens := body.takeWhile (· == '-')
  match hyphens, body.drop hyphens.length with
  | [], _ => none
  | _, [] => some (if opensLeft then .left else .unset)
  | _, [':'] => some (if opensLeft then .center else .right)
  | _, _ => none

namespace Table

/-- Whether a content may mark columns: marks, bars and blanks only, and no list item. -/
def isMarkLine (t : Text) : Bool :=
  let isMark := fun c => c == '|' || c == '-' || c == ':'
  match t with
  | first :: second :: _ =>
    isMark first && !(first == '-' && isIndent second) && t.all fun c => isMark c || isIndent c
  | _ => false

/-- The columns that pieces between bars mark; the last piece may be empty. -/
def innerAlignments? : List Text → Option (List Alignment)
  | [] => some []
  | piece :: pieces =>
    let mark := Text.trimBlank piece
    if mark.isEmpty then if pieces.isEmpty then some [] else none
    else do
      let alignment ← Alignment.ofMark? mark
      let rest ← innerAlignments? pieces
      some (alignment :: rest)

/-- The columns that a content marks; the first and the last piece between bars may be empty. -/
def alignments? (t : Text) : Option (List Alignment) :=
  if !isMarkLine t then none
  else
    match Text.split '|' t with
    | [] => none
    | first :: pieces =>
      if (Text.trimBlank first).isEmpty then innerAlignments? pieces
      else innerAlignments? (first :: pieces)

/-- The pieces of a row between its bars; `isEscaped` says that a backslash stands before. -/
def pieces : (isEscaped : Bool) → Text → List Text
  | _, [] => [[]]
  | isEscaped, c :: rest =>
    if c == '|' && !isEscaped then [] :: pieces false rest
    else
      let isBar := c == '\\' && rest.head? == some '|'
      match pieces (c == '\\') rest with
      | [] => [[c]]
      | piece :: others => (if isBar then piece else c :: piece) :: others

def dropEmptyFirst : List Text → List Text
  | [] :: rest => rest
  | texts => texts

def cells (row : Text) : List Text :=
  (dropEmptyFirst (dropEmptyFirst (pieces false row)).reverse).reverse

/-- The columns and titles of a table that begins with line `i`; `stop` is the line after the last
one that may be read. -/
def header? (r : Region) (i stop : Nat) : Option (List Alignment × List Text) :=
  if stop < i + 2 || r.isOutside (i + 1) || r.isCode (i + 1) || r.isCode i then none
  else do
    let alignments ← alignments? (r.content (i + 1))
    let row := Text.trimBlank (r.content i)
    let titles := cells row
    if row.contains '|' && !titles.isEmpty && titles.length == alignments.length then
      some (alignments, titles.map Text.trimBlank)
    else none

/-- The most cells that are filled up in a table. -/
def maxFilled : Int := 0x10000

def fitRow (width : Nat) (row : List Text) : List Text :=
  (row.take width ++ List.replicate (width - row.length) []).map Text.trimBlank

/-- At most `count` rows from line `i` on, and the line after them; `filled` counts the cells that
were filled up so far, less those cut away. -/
def rows (r : Region) (width : Nat) : (count : Nat) → (filled : Int) → (i : Nat) →
    List (List Text) × Nat
  | 0, _, i => ([], i)
  | count + 1, filled, i =>
    let row := Text.trimBlank (r.content i)
    if r.isOutside i || r.endsQuote i || row.isEmpty || r.isCode i then ([], i)
    else
      let found := cells row
      let filled := filled + width - found.length
      if maxFilled < filled then ([], i)
      else
        let (others, next) := rows r width count filled (i + 1)
        (fitRow width found :: others, next)

end Table

/-- Whether a block begins that ends a paragraph. -/
def Region.interruptsParagraph (r : Region) (i stop : Nat) : Bool :=
  r.endsParagraph i || (Table.header? r i stop).isSome

/-- Whether a block begins that ends a definition. -/
def Region.interruptsDefinition (r : Region) (i stop : Nat) : Bool :=
  r.endsQuote i || (Table.header? r i stop).isSome

end MarkupCompiler.Markdown
