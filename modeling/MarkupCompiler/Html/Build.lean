import MarkupCompiler.Html.Scan

/-!
# From tokens to the tree

A start tag opens an element and an end tag closes the nearest open element of its name together
with all elements inside it. Elements that can have no content close at once. Consecutive
character data makes one text; a text of spaces only shrinks to one character, unless whitespace is
kept. Nothing is added that the tokens do not say.
-/

namespace MarkupCompiler.Html

/-- Elements without content. -/
def voidElements : List String :=
  ["area", "base", "br", "col", "embed", "hr", "img", "input", "keygen", "link", "menuitem",
    "meta", "param", "source", "track", "wbr", "basefont", "bgsound", "command", "frame", "image",
    "isindex", "nextid", "spacer"]

def keepingElements : List String := ["pre", "textarea"]

/-- An element that is open, with its children so far, the last one first. -/
structure OpenElement where
  name : String
  attributes : Attributes
  children : List Node := []

structure Builder where
  /-- The open elements, the innermost first. -/
  openElements : List OpenElement := []
  /-- The nodes outside all open elements, the last one first. -/
  nodes : List Node := []
  /-- The text that is not yet a node. -/
  pending? : Option Text := none
  /-- Names of elements without content whose end tag may still follow. -/
  closedNames : List String := []

namespace Builder

/-- Adds a node to the innermost open element. -/
def addNode (node : Node) (b : Builder) : Builder :=
  match b.openElements with
  | [] => { b with nodes := node :: b.nodes }
  | e :: es => { b with openElements := { e with children := node :: e.children } :: es }

/-- Whether whitespace is kept here. -/
def keepsSpaces (b : Builder) : Bool :=
  b.openElements.any fun e => keepingElements.contains e.name

/-- The text that a node gets: spaces only become a line feed or a space. -/
def condensed (content : Text) (b : Builder) : Text :=
  if !b.keepsSpaces && content.all Text.isSpace then
    (if content.contains '\n' then ['\n'] else [' '])
  else content

/-- Adds character data. -/
def addText (content : Text) (b : Builder) : Builder :=
  if content.isEmpty then b else { b with pending? := some (b.pending?.getD [] ++ content) }

/-- Turns the pending text into a node. -/
def endText (b : Builder) : Builder :=
  match b.pending? with
  | none => b
  | some content => { b.addNode (.text (b.condensed content)) with pending? := none }

/-- Adds markup that is neither text nor an element. -/
def addSpecial (kind : SpecialKind) (content : Text) (b : Builder) : Builder :=
  let b := b.endText
  b.addNode (.special kind (b.condensed content))

/-- Closes the innermost open element. -/
def closeOne (b : Builder) : Builder :=
  match b.openElements with
  | [] => b
  | e :: es =>
    { b with openElements := es }.addNode (.element e.name e.attributes e.children.reverse)

/-- Closes a number of elements. -/
def closeMany : Nat → Builder → Builder
  | 0, b => b
  | count + 1, b => closeMany count b.closeOne

/-- Closes the nearest open element of a name and all elements inside it. -/
def close (name : String) (b : Builder) : Builder :=
  let b := b.endText
  match b.openElements.findIdx? fun e => e.name == name with
  | none => b
  | some depth => closeMany (depth + 1) b

/-- Opens an element. -/
def push (name : String) (attributes : Attributes) (b : Builder) : Builder :=
  let b := b.endText
  { b with openElements := { name := name, attributes := attributes } :: b.openElements }

def add (token : Token) (b : Builder) : Builder :=
  match token with
  | .text content => b.addText content
  | .special kind content => b.addSpecial kind content
  | .endTag name =>
    if b.closedNames.contains name then { b with closedNames := b.closedNames.erase name }
    else b.close name
  | .startTag name attributes isClosed =>
    let opened := b.push name attributes
    if isClosed then opened.close name
    else if voidElements.contains name then
      let closed := opened.close name
      { closed with closedNames := name :: closed.closedNames }
    else opened

def finish (b : Builder) : List Node :=
  (closeMany b.openElements.length b.endText).nodes.reverse

end Builder

/-- The tree that tokens make. -/
def ofTokens (tokens : List Token) : List Node :=
  (tokens.foldl (fun b token => b.add token) ({} : Builder)).finish

def parse (t : Text) : Except MarkupFault (List Node) := (scan t).map ofTokens

end MarkupCompiler.Html
