import MarkupCompiler.Text.Case

/-!
# The node tree

A document is a list of nodes: texts, elements with attributes and children, and markup that is
no text, such as comments. Names are kept as written. An attribute has a text, a list of words, or
no value at all. Text inside scripts, style sheets, templates and ruby annotations is text of its own
kind; all other text is plain. The raw text of an element is its plain text and its character data
sections; an element that makes a kind of text of its own has the text of that kind only.
-/

namespace MarkupCompiler

inductive AttributeValue where
  | text (value : String)
  | words (values : List String)
  | null
  deriving Repr, DecidableEq

/-- The attributes of an element; each name occurs once. -/
abbrev Attributes := List (String × AttributeValue)

namespace Attributes

/-- The text of an attribute; words are joined by single spaces. -/
def text? (attributes : Attributes) (name : String) : Option String :=
  match attributes.lookup name with
  | some (.text value) => some value
  | some (.words values) => some (" ".intercalate values)
  | some .null | none => none

/-- Whether an attribute is there, with or without a value. -/
def has (attributes : Attributes) (name : String) : Bool := (attributes.lookup name).isSome

/-- Whether an attribute has a given text, whatever its case. -/
def hasText (attributes : Attributes) (name value : String) : Bool :=
  match attributes.lookup name with
  | some (.text given) => Text.lowerName given == value
  | _ => false

end Attributes

inductive TextKind where
  | plain
  | script
  | styleSheet
  | template
  | rubyText
  | rubyParenthesis
  deriving Repr, DecidableEq, Inhabited

/-- The kind of text that an element makes, if it makes one. Names are compared as written. -/
def TextKind.ofName? (name : String) : Option TextKind :=
  if name == "script" then some .script
  else if name == "style" then some .styleSheet
  else if name == "template" then some .template
  else if name == "rt" then some .rubyText
  else if name == "rp" then some .rubyParenthesis
  else none

/-- Markup that is neither text nor an element. -/
inductive SpecialKind where
  | comment
  | cdata
  | declaration
  | doctype
  | instruction
  deriving Repr, DecidableEq

inductive Node where
  | text (content : Text)
  | special (kind : SpecialKind) (content : Text)
  | element (name : String) (attributes : Attributes) (children : List Node)
  deriving Inhabited, Repr

/-- What a walk starts from: a whole document, or one element in text of some kind. -/
inductive Root where
  | document (children : List Node)
  | element (place : TextKind) (name : String) (attributes : Attributes) (children : List Node)
  deriving Inhabited, Repr

namespace Node

mutual

/--
The first element with a given name, this node included, in document order. The node stands in
text of the kind `place`.
-/
def find? (place : TextKind) (name : String) : Node → Option Root
  | .text _ => none
  | .special _ _ => none
  | .element n attributes children =>
    if n == name then some (.element place n attributes children)
    else findIn? ((TextKind.ofName? n).getD place) name children

/-- The first element with a given name in a list of nodes, in document order. -/
def findIn? (place : TextKind) (name : String) : List Node → Option Root
  | [] => none
  | node :: nodes =>
    match find? place name node with
    | some found => some found
    | none => findIn? place name nodes

end

mutual

/-- Whether this node or a descendant is an element with one of the names. -/
def anyNamed (names : List String) : Node → Bool
  | .text _ => false
  | .special _ _ => false
  | .element n _ children => names.contains n || anyNamedIn names children

/-- Whether one of the nodes or their descendants is an element with one of the names. -/
def anyNamedIn (names : List String) : List Node → Bool
  | [] => false
  | node :: nodes => anyNamed names node || anyNamedIn names nodes

end

mutual

def textOfKind (wanted inherited : TextKind) : Node → Text
  | .text content => if inherited == wanted then content else []
  | .special kind content => if kind == .cdata && wanted == .plain then content else []
  | .element name _ children =>
    textOfKindIn wanted ((TextKind.ofName? name).getD inherited) children

def textOfKindIn (wanted inherited : TextKind) : List Node → Text
  | [] => []
  | node :: nodes => textOfKind wanted inherited node ++ textOfKindIn wanted inherited nodes

end

def rawText (inherited : TextKind) (name : String) (children : List Node) : Text :=
  let own := TextKind.ofName? name
  textOfKindIn (own.getD .plain) (own.getD inherited) children

end Node

namespace Root

/-- The first element below the root with a given name. -/
def find? (root : Root) (name : String) : Option Root :=
  match root with
  | .document children => Node.findIn? .plain name children
  | .element place n _ children => Node.findIn? ((TextKind.ofName? n).getD place) name children

end Root

end MarkupCompiler
