import MarkupCompiler.Markdown.HtmlTag
import MarkupCompiler.Markdown.Line

/-!
# Where blocks begin

The first line of a block tells its kind. A line that is indented like a code block begins no
other block. Some kinds of blocks end a paragraph or another block that stands before them.
-/

namespace MarkupCompiler.Markdown

structure Fence where
  marker : Char
  length : Nat
  info : Text
  deriving Repr, DecidableEq

/-- The fewest characters of a fence. -/
def minFenceLength : Nat := 3

/-- The fence that a content opens; the text after backticks holds none. -/
def Fence.of? (t : Text) : Option Fence :=
  match t with
  | [] => none
  | marker :: _ =>
    let length := (t.takeWhile (· == marker)).length
    let info := t.drop length
    let isMarker := marker == '~' || (marker == '\x60' && !info.contains marker)
    if isMarker && minFenceLength ≤ length then some ⟨marker, length, info⟩ else none

def Fence.isClosedBy (f : Fence) (t : Text) : Bool :=
  f.length ≤ (t.takeWhile (· == f.marker)).length &&
    (t.dropWhile (· == f.marker)).all isIndent

/-- The fewest characters of a rule. -/
def minRuleLength : Nat := 3

/-- Whether a content is a rule across the page. -/
def isRule (t : Text) : Bool :=
  match t with
  | [] => false
  | marker :: _ =>
    (marker == '*' || marker == '-' || marker == '_') &&
      t.all (fun c => c == marker || isIndent c) && minRuleLength ≤ t.count marker

/-- Whether a content is quoted. -/
def isQuoted (t : Text) : Bool := t.head? == some '>'

def maxHeadingLevel : Nat := 6

/-- A text without a run of number signs at its end that blanks precede. -/
def dropHeadingEnd (t : Text) : Text :=
  let body := Text.trimEnd isIndent t
  let kept := Text.trimEnd (· == '#') body
  if Text.endsWith isIndent kept then kept else body

/-- The level and the text of a heading that number signs begin. -/
def heading? (t : Text) : Option (Nat × Text) :=
  let level := (t.takeWhile (· == '#')).length
  let rest := t.drop level
  let isSeparate := rest.head?.all isIndent
  if 1 ≤ level && level ≤ maxHeadingLevel && isSeparate then
    some (level, Text.trimBlank (dropHeadingEnd rest))
  else none

/-- The level that a line under a heading gives it. -/
def underlineLevel? (t : Text) : Option Nat :=
  match t with
  | [] => none
  | marker :: _ =>
    if (t.dropWhile (· == marker)).all isIndent then
      if marker == '=' then some 1 else if marker == '-' then some 2 else none
    else none

/-- What stands before the content of a list item. -/
inductive Marker where
  | bullet (symbol : Char)
  | number (value digits : Nat) (symbol : Char)
  deriving Repr, DecidableEq

namespace Marker

/-- How many characters a marker has. -/
def length : Marker → Nat
  | .bullet _ => 1
  | .number _ digits _ => digits + 1

/-- Whether items with these markers belong to one list. -/
def isLike : Marker → Marker → Bool
  | .bullet a, .bullet b => a == b
  | .number _ _ a, .number _ _ b => a == b
  | _, _ => false

/-- The most digits of a number. -/
def maxDigits : Nat := 9

/-- The marker of an item whose content is set apart from it, or which has none. -/
def of? (t : Text) : Option Marker :=
  let isSeparate := fun (rest : Text) => rest.head?.all isIndent
  let digits := t.takeWhile Char.isDigit
  match t.drop digits.length with
  | symbol :: rest =>
    if !isSeparate rest then none
    else if digits.isEmpty then
      if symbol == '*' || symbol == '-' || symbol == '+' then some (.bullet symbol) else none
    else if (symbol == '.' || symbol == ')') && digits.length ≤ maxDigits then
      some (.number (digits.foldl (fun n c => 10 * n + (c.toNat - 0x30)) 0) digits.length symbol)
    else none
  | [] => none

/-- Whether an item may end a paragraph: it has content and is not numbered otherwise than 1. -/
def isInterrupting (m : Marker) (t : Text) : Bool :=
  let isFirst :=
    match m with
    | .bullet _ => true
    | .number value _ _ => value == 1
  isFirst && !(t.drop m.length).all isIndent

end Marker

/-- The kinds of HTML that may begin a block; they differ in how they end. -/
inductive HtmlKind where
  | raw
  | comment
  | instruction
  | declaration
  | characterData
  | element
  | tag
  deriving Repr, DecidableEq

namespace HtmlKind

/-- The elements whose content is not read. -/
def rawNames : List String := ["script", "pre", "style", "textarea"]

def elementNames : List String :=
  ["address", "article", "aside", "base", "basefont", "blockquote", "body", "caption", "center",
    "col", "colgroup", "dd", "details", "dialog", "dir", "div", "dl", "dt", "fieldset",
    "figcaption", "figure", "footer", "form", "frame", "frameset", "h1", "h2", "h3", "h4", "h5",
    "h6", "head", "header", "hr", "html", "iframe", "legend", "li", "link", "main", "menu",
    "menuitem", "nav", "noframes", "ol", "optgroup", "option", "p", "param", "search", "section",
    "summary", "table", "tbody", "td", "tfoot", "th", "thead", "title", "tr", "track", "ul"]

/-- The small ASCII letter that a character is a variant of; other characters stay. -/
def foldChar (c : Char) : Char :=
  if c.isUpper then Char.ofNat (c.toNat + 0x20)
  else if c.toNat == 0x130 || c.toNat == 0x131 then 'i'
  else if c.toNat == 0x17F then 's'
  else if c.toNat == 0x212A then 'k'
  else c

def name (t : Text) : String × Text :=
  let cs := (t.map foldChar).takeWhile Char.isAlphanum
  (String.ofList cs, t.drop cs.length)

def endsRawName : Text → Bool
  | [] => true
  | c :: _ => Text.isBlank c || c == '>'

/-- Whether what follows a name ends it, where a slash may stand before the end of the tag. -/
def endsName : Text → Bool
  | '/' :: '>' :: _ => true
  | t => endsRawName t

/-- Whether a name of an element that is a block follows. -/
def isElement (t : Text) : Bool :=
  let (name, rest) := name t
  elementNames.contains name && endsName rest

/-- Whether a name of an element follows whose content is not read. -/
def isRaw (t : Text) : Bool :=
  let (name, rest) := name t
  rawNames.contains name && endsRawName rest

def of? (t : Text) : Option HtmlKind :=
  let lone := if HtmlTag.isLoneTag t then some tag else none
  match t with
  | '<' :: '!' :: '-' :: '-' :: _ => some comment
  | '<' :: '!' :: rest =>
    if HtmlTag.characterData.isPrefixOf rest then some characterData
    else if rest.head?.any Char.isUpper then some declaration
    else none
  | '<' :: '?' :: _ => some instruction
  | '<' :: '/' :: rest => if isElement rest then some element else lone
  | '<' :: rest => if isRaw rest then some raw else if isElement rest then some element else lone
  | _ => none

def occurs (word : String) (t : Text) : Bool := (HtmlTag.afterFirst? word.toList t).isSome

/-- Whether a content holds the end of HTML of a kind; an empty line ends elements and tags. -/
def endsIn (t : Text) : HtmlKind → Bool
  | .raw => rawNames.any fun n => occurs ("</" ++ n ++ ">") (t.map foldChar)
  | .comment => occurs "-->" t
  | .instruction => occurs "?>" t
  | .declaration => occurs ">" t
  | .characterData => occurs "]]>" t
  | .element | .tag => t.isEmpty

end HtmlKind

namespace Region

/-- What a reader of contents finds in a line, unless it is indented like a code block. -/
def find? {α : Type} (r : Region) (of? : Text → Option α) (i : Nat) : Option α :=
  if r.isCode i then none else of? (r.content i)

/-- Whether a line has a content with a property and is not indented like a code block. -/
def has (r : Region) (p : Text → Bool) (i : Nat) : Bool := !r.isCode i && p (r.content i)

/-- The marker of a list item; one that only looks deeper than the list around is none. -/
def marker? (r : Region) (i : Nat) : Option Marker :=
  let column := (r.line i).column
  let isContinued := r.listIndent.any fun indent => 4 ≤ column - indent && r.isOutside i
  if isContinued then none else r.find? Marker.of? i

/-- Whether a list item begins that may end a paragraph. -/
def hasInterruptingItem (r : Region) (i : Nat) : Bool :=
  match r.marker? i with
  | some m => r.isOutside i || m.isInterrupting (r.content i)
  | none => false

/-- Whether HTML begins that may end another block. -/
def hasInterruptingHtml (r : Region) (i : Nat) : Bool :=
  match r.find? HtmlKind.of? i with
  | some kind => kind != .tag
  | none => false

/-- Whether a block begins that ends a list item. -/
def endsItem (r : Region) (i : Nat) : Bool :=
  (r.find? Fence.of? i).isSome || r.has isQuoted i || r.has isRule i

/-- Whether a block begins that ends a quote or a table. -/
def endsQuote (r : Region) (i : Nat) : Bool :=
  r.endsItem i || (r.marker? i).isSome || r.hasInterruptingHtml i ||
    (r.find? heading? i).isSome

/-- Whether a block, other than a table, begins that ends a paragraph. -/
def endsParagraph (r : Region) (i : Nat) : Bool :=
  r.endsItem i || r.hasInterruptingItem i || r.hasInterruptingHtml i ||
    (r.find? heading? i).isSome

end Region

end MarkupCompiler.Markdown
