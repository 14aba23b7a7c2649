import MarkupCompiler.Markdown.Table

/-!
# Blocks

A Markdown text is a list of blocks. Quotes and list items hold blocks themselves; paragraphs,
headings and cells hold running text that is not read yet. The readers here are those of blocks
that hold no blocks: code, fences, rules, HTML, headings and paragraphs. Each reader gets the line
where the block begins and the line `stop` before which it has to end, and answers the line after
the block. A paragraph may also go on behind `stop`, up to the limit of the region.
-/

namespace MarkupCompiler.Markdown

inductive Block where
  | paragraph (content : Text)
  | heading (level : Nat) (content : Text)
  /-- Text shown as it is; `info` says what it is written in. -/
  | code (info content : Text)
  | html (content : Text)
  | rule
  | quote (children : List Block)
  /-- The marker is that of the first item; paragraphs of a tight list are shown without tags. -/
  | list (marker : Marker) (isTight : Bool) (items : List (List Block))
  | table (columns : List Alignment) (titles : List Text) (rows : List (List Text))
  deriving Inhabited

/-- A block and the line after it. -/
abbrev BlockReading := Block × Nat

namespace Leaf

/-- The line after the last indented line; `last` is the line after the last one found so far. -/
def codeEnd (r : Region) : (count : Nat) → (last i : Nat) → Nat
  | 0, last, _ => last
  | count + 1, last, i =>
    if r.isEmpty i then codeEnd r count last (i + 1)
    else if r.isCode i then codeEnd r count (i + 1) (i + 1)
    else last

def code (r : Region) (i stop : Nat) : BlockReading :=
  let next := codeEnd r (stop - (i + 1)) (i + 1) (i + 1)
  (.code [] (r.cut (4 + r.indent) i next ++ ['\n']), next)

/-- The line where a fenced block ends, and whether a fence closes it. -/
def fenceEnd (r : Region) (f : Fence) : (count i : Nat) → Nat × Bool
  | 0, i => (i, false)
  | count + 1, i =>
    let isTextEnd := r.isEmpty i && !(r.line i).hasBreak
    if isTextEnd || (!r.isEmpty i && r.isOutside i) then (i, false)
    else if r.has f.isClosedBy i then (i, true)
    else fenceEnd r f count (i + 1)

/-- Fenced code; its lines are cut where the fence begins. -/
def fenced (r : Region) (f : Fence) (i stop : Nat) : BlockReading :=
  let (last, isClosed) := fenceEnd r f (stop - (i + 1)) (i + 1)
  let content := r.cutWhole (r.line i).column.toNat (i + 1) last
  (.code f.info content, if isClosed then last + 1 else last)

/-- The line after HTML of a kind whose end is not found before line `i`. -/
def htmlEnd (r : Region) (kind : HtmlKind) : (count i : Nat) → Nat
  | 0, i => i
  | count + 1, i =>
    if r.isOutside i then i
    else if kind.endsIn (r.content i) then if r.isEmpty i then i else i + 1
    else htmlEnd r kind count (i + 1)

def html (r : Region) (kind : HtmlKind) (i stop : Nat) : BlockReading :=
  let next :=
    if kind.endsIn (r.content i) then i + 1 else htmlEnd r kind (stop - (i + 1)) (i + 1)
  (.html (r.cutWhole r.indent i next), next)

/-- Whether a line goes on with a paragraph whatever it holds. -/
def isLazy (r : Region) (i : Nat) : Bool := r.isCode i || (r.line i).column < 0

def paragraphText (r : Region) (i next : Nat) : Text := Text.trimBlank (r.cut r.indent i next)

/-- The line after a paragraph that goes on up to line `i`. -/
def paragraphEnd (r : Region) : (count i : Nat) → Nat
  | 0, i => i
  | count + 1, i =>
    if r.isEmpty i then i
    else if isLazy r i || !r.interruptsParagraph i r.limit then paragraphEnd r count (i + 1)
    else i

def paragraph (r : Region) (i : Nat) : BlockReading :=
  let next := paragraphEnd r (r.limit - (i + 1)) (i + 1)
  (.paragraph (paragraphText r i next), next)

/-- The level and the underline of a heading that goes on up to line `i`. -/
def underline? (r : Region) (stop : Nat) : (count i : Nat) → Option (Nat × Nat)
  | 0, _ => none
  | count + 1, i =>
    if r.isEmpty i then none
    else if r.isCode i then underline? r stop count (i + 1)
    else
      match if r.isOutside i then none else underlineLevel? (r.content i) with
      | some level => some (level, i)
      | none =>
        if (r.line i).column < 0 || !r.interruptsParagraph i stop then
          underline? r stop count (i + 1)
        else none

/-- A heading over an underline, or else a paragraph. -/
def underlinedOrParagraph (r : Region) (i stop : Nat) : BlockReading :=
  match underline? r stop (stop - (i + 1)) (i + 1) with
  | some (level, last) => (.heading level (paragraphText r i last), last + 1)
  | none => paragraph r i

/-- The table that begins with a line. -/
def table? (r : Region) (i stop : Nat) : Option BlockReading :=
  (Table.header? r i stop).map fun (columns, titles) =>
    let (rows, next) := Table.rows r columns.length (stop - (i + 2)) 0 (i + 2)
    (.table columns titles rows, next)

/-- The kinds that are looked for before quotes and lists. -/
def first? (r : Region) (i stop : Nat) : Option BlockReading :=
  match table? r i stop with
  | some reading => some reading
  | none =>
    if r.isCode i then some (code r i stop)
    else
      match Fence.of? (r.content i) with
      | some f => some (fenced r f i stop)
      | none => if isRule (r.content i) then some (.rule, i + 1) else none

/-- The kinds that are looked for after quotes, lists and definitions. -/
def last (r : Region) (i stop : Nat) : BlockReading :=
  match HtmlKind.of? (r.content i) with
  | some kind => html r kind i stop
  | none =>
    match heading? (r.content i) with
    | some (level, content) => (.heading level content, i + 1)
    | none => underlinedOrParagraph r i stop

end Leaf

end MarkupCompiler.Markdown
