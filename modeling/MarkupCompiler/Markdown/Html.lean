import MarkupCompiler.Markdown.BlockReader
import MarkupCompiler.Markdown.InlineReader

/-!
# HTML of Markdown text

Blocks become elements, each with a line of its own. In a tight list the paragraphs directly in
items have no tags. An item whose first paragraph begins with a box in brackets is a task: the box
becomes a checkbox that cannot be changed.
-/

namespace MarkupCompiler.Markdown

def htmlChar (c : Char) : Text :=
  if c == '&' then "&amp;".toList
  else if c == '<' then "&lt;".toList
  else if c == '>' then "&gt;".toList
  else if c == '"' then "&quot;".toList
  else [c]

def htmlText (t : Text) : Text := t.flatMap htmlChar

/-- An attribute with a space before it. -/
def htmlAttribute (name : String) (value : Text) : Text :=
  ' ' :: name.toList ++ "=\"".toList ++ htmlText value ++ ['"']

def htmlOpening (name : String) (attributes : List (String × Text)) : Text :=
  '<' :: name.toList ++ attributes.flatMap (fun (name, value) => htmlAttribute name value) ++ ['>']

/-- The closing tag of an element. -/
def htmlClosing (name : String) : Text := '<' :: '/' :: name.toList ++ ['>']

def htmlBreak : Text := "<br />\n".toList

def Emphasis.element : Emphasis → String
  | .plain => "em"
  | .strong => "strong"
  | .struck => "s"

def Target.titleAttribute (target : Target) : List (String × Text) :=
  if target.title.isEmpty then [] else [("title", target.title)]

mutual

/-- A piece as HTML; `breaks` says that every line break is kept. -/
def Inline.toHtml (breaks : Bool) : Inline → Text
  | .text content => htmlText content
  | .literal content => htmlText content
  | .softBreak => if breaks then htmlBreak else ['\n']
  | .hardBreak => htmlBreak
  | .code content => "<code>".toList ++ htmlText content ++ "</code>".toList
  | .html content => content
  | .opening kind => htmlOpening kind.element []
  | .closing kind => htmlClosing kind.element
  | .link target children =>
    htmlOpening "a" (("href", target.destination) :: target.titleAttribute) ++
      inlinesHtml breaks children ++ htmlClosing "a"
  | .image target children =>
    let attributes :=
      ("src", target.destination) :: ("alt", Inline.plainTextOf children) :: target.titleAttribute
    "<img".toList ++ attributes.flatMap (fun (name, value) => htmlAttribute name value) ++
      " />".toList

def inlinesHtml (breaks : Bool) : List Inline → Text
  | [] => []
  | piece :: pieces => piece.toHtml breaks ++ inlinesHtml breaks pieces

end

/-- The box of a task. One that is followed by other whitespace than a space is hidden. -/
inductive TaskBox where
  | unchecked
  | checked
  | hidden
  deriving Repr, DecidableEq, Inhabited

/-- The whitespace that may follow a box. -/
def isBoxEnd (c : Char) : Bool := Text.isSpace c || c == '\x0b'

/-- The box with which a paragraph begins. -/
def taskBox? : Text → Option TaskBox
  | '[' :: mark :: ']' :: next :: _ =>
    if !isBoxEnd next then none
    else if mark == ' ' then some (if next == ' ' then .unchecked else .hidden)
    else if mark == 'x' || mark == 'X' then some (if next == ' ' then .checked else .hidden)
    else none
  | _ => none

/-- How many characters a box has. -/
def taskBoxLength : Nat := 3

def TaskBox.toHtml (box : TaskBox) : Text :=
  let input (checked : String) : Text :=
    ("<input class=\"task-list-item-checkbox\" " ++ checked ++
      "disabled=\"disabled\" type=\"checkbox\">").toList
  match box with
  | .unchecked => input ""
  | .checked => input "checked=\"checked\" "
  | .hidden => []

def taskPieces (box : TaskBox) (pieces : List Inline) : List Inline :=
  let rest :=
    match pieces with
    | .text content :: rest => .text (content.drop taskBoxLength) :: rest
    | _ => pieces
  .html box.toHtml :: rest

def itemBox? : List Block → Option TaskBox
  | .paragraph content :: _ => taskBox? content
  | _ => none

/-- How a text is shown. -/
structure Setting where
  breaks : Bool
  definitions : Definitions

def Setting.inline (s : Setting) (content : Text) : Text :=
  inlinesHtml s.breaks (inlinesOf s.definitions content)

/-- An element with a line of its own. -/
def htmlElement (name : String) (attributes : List (String × Text)) (content : Text) : Text :=
  htmlOpening name attributes ++ content ++ htmlClosing name ++ ['\n']

/-- Code as HTML; the first word of the info string names the language. -/
def codeHtml (info content : Text) : Text :=
  let language := (Text.trimBlank (unescape info)).takeWhile fun c => !Text.isBlank c
  let attributes := if language.isEmpty then [] else [("class", "language-".toList ++ language)]
  "<pre>".toList ++ htmlOpening "code" attributes ++ htmlText content ++
    "</code></pre>\n".toList

def Alignment.attribute : Alignment → List (String × Text)
  | .unset => []
  | .left => [("style", "text-align:left".toList)]
  | .center => [("style", "text-align:center".toList)]
  | .right => [("style", "text-align:right".toList)]

def Setting.row (s : Setting) (name : String) (columns : List Alignment) (row : List Text) :
    Text :=
  let cells := (columns.zip row).flatMap fun (column, cell) =>
    htmlElement name column.attribute (s.inline cell)
  htmlElement "tr" [] ('\n' :: cells)

def Setting.table (s : Setting) (columns : List Alignment) (titles : List Text)
    (rows : List (List Text)) : Text :=
  let head := htmlElement "thead" [] ('\n' :: s.row "th" columns titles)
  let body := rows.flatMap (s.row "td" columns)
  let bodyElement := if rows.isEmpty then [] else htmlElement "tbody" [] ('\n' :: body)
  htmlElement "table" [] ('\n' :: head ++ bodyElement)

def listElement (marker : Marker) (items : List (List Block)) : String × List (String × Text) :=
  let tasks :=
    if items.any fun item => (itemBox? item).isSome then
      [("class", "contains-task-list".toList)]
    else []
  match marker with
  | .bullet _ => ("ul", tasks)
  | .number 1 _ _ => ("ol", tasks)
  | .number value _ _ => ("ol", ("start", (toString value).toList) :: tasks)

/-- Whether a block begins a new line after text without tags. -/
def Block.beginsLine : Block → Bool
  | .paragraph _ | .code _ _ | .html _ => false
  | _ => true

/-- Whether an item begins with text without tags, or is empty. -/
def beginsInline (isTight : Bool) : List Block → Bool
  | [] => true
  | .paragraph _ :: _ => isTight
  | _ => false

mutual

def Block.toHtml (s : Setting) : Block → Text
  | .paragraph content => htmlElement "p" [] (s.inline content)
  | .heading level content => htmlElement ("h" ++ toString level) [] (s.inline content)
  | .code info content => codeHtml info content
  | .html content => content
  | .rule => "<hr />\n".toList
  | .quote children =>
    let inner := blocksHtml s false none false children
    htmlElement "blockquote" [] (if children.isEmpty then [] else '\n' :: inner)
  | .list marker isTight items =>
    let (name, attributes) := listElement marker items
    htmlElement name attributes ('\n' :: itemsHtml s isTight items)
  | .table columns titles rows => s.table columns titles rows

/-- Blocks as HTML. Where `isTight`, paragraphs have no tags. The box, if any, belongs to a
paragraph at the start; `isAfterInline` says that text without tags stands before. -/
def blocksHtml (s : Setting) (isTight : Bool) (box : Option TaskBox) (isAfterInline : Bool) :
    List Block → Text
  | [] => []
  | .paragraph content :: rest =>
    let pieces := inlinesOf s.definitions content
    let pieces :=
      match box with
      | some box => taskPieces box pieces
      | none => pieces
    let inner := inlinesHtml s.breaks pieces
    (if isTight then inner else htmlElement "p" [] inner) ++ blocksHtml s isTight none isTight rest
  | block :: rest =>
    (if isAfterInline && block.beginsLine then ['\n'] else []) ++ block.toHtml s ++
      blocksHtml s isTight none false rest

def itemsHtml (s : Setting) (isTight : Bool) : List (List Block) → Text
  | [] => []
  | item :: items =>
    let box := itemBox? item
    let attributes := if box.isSome then [("class", "task-list-item".toList)] else []
    let inner := blocksHtml s isTight box false item
    htmlElement "li" attributes (if beginsInline isTight item then inner else '\n' :: inner) ++
      itemsHtml s isTight items

end

/-- The HTML of a Markdown text; `breaks` says that every line break in a paragraph is kept. -/
def toHtml (breaks : Bool) (t : Text) : Text :=
  let (blocks, definitions) := blocksOf t
  blocksHtml { breaks, definitions } false none false blocks

end MarkupCompiler.Markdown
