import MarkupCompiler.Number.DecimalText
import MarkupCompiler.Style.Declarations
import MarkupCompiler.Style.ParagraphStyle
import MarkupCompiler.Tree.Tags

/-!
# Styles of elements

An element's name and attributes give the text style of its content and the style of the
paragraph it makes. Unknown names and unreadable values give nothing.
-/

namespace MarkupCompiler

def Attributes.declarations (attributes : Attributes) : Declarations :=
  match attributes.text? "style" with
  | some style => Declarations.parse style.toList
  | none => []

namespace TextStyle

def codeFont : String := "Consolas"

/-- The slot that is set when a condition holds. -/
def flag (condition : Bool) : Option Bool := if condition then some true else none

/-- The first family of a font list, without quotes. -/
def fontFamily? (value : Text) : Option String :=
  let first := (Text.split ',' value).headD []
  let family := Text.trim (fun c => c == '\'' || c == '"') (Text.trimBlank first)
  if family.isEmpty then none else some (String.ofList family)

/-- A font size in points: digits with an optional fraction, then `pt` in either case. -/
def fontSize? (value : Text) : Option Float :=
  let (whole, afterWhole) := DecimalText.digits value
  let (part, unit) := DecimalText.fraction afterWhole
  let pointed := afterWhole.head? == some '.'
  if whole.isEmpty || (pointed && part.isEmpty) then none
  else if unit.map Text.lowerAsciiChar == ['p', 't'] then
    some (DecimalText.toFloat false (IntegerText.ofDigits (whole ++ part))
      (-Int.ofNat part.length))
  else none

/-- The address of a link, unless it is empty. -/
def linkUrl? (name : String) (attributes : Attributes) : Option String :=
  if name == "a" then
    match attributes.text? "href" with
    | some url => if url.isEmpty then none else some url
    | none => none
  else none

def ofElement (tag : String) (attributes : Attributes) : TextStyle :=
  let name := Text.lowerName tag
  let ds := attributes.declarations
  let ownFont := if Tags.monospace.contains name then some codeFont else none
  { bold := flag (Tags.bold.contains name)
    italic := flag (Tags.italic.contains name)
    underline := flag (Tags.underlined.contains name)
    strikethrough := flag (Tags.struck.contains name)
    linkUrl := linkUrl? name attributes
    foreground := (ds.value? "color").bind Color.ofHex?
    background := (ds.value? "background-color").bind Color.ofHex?
    fontFamily := ((ds.value? "font-family").bind fontFamily?).or ownFont
    fontSize := (ds.value? "font-size").bind fontSize? }

end TextStyle

namespace ParagraphStyle

def headingName? (name : String) : Option String :=
  if ["h1", "h2", "h3", "h4", "h5", "h6"].contains name then
    some (headingStart ++ String.ofList (name.toList.drop 1))
  else none

def alignment? (value : String) : Option String :=
  if value == "left" || value == "start" then some "START"
  else if value == "center" then some "CENTER"
  else if value == "right" || value == "end" then some "END"
  else if value == "justify" then some "JUSTIFIED"
  else none

def ofElement (tag : String) (attributes : Attributes) : ParagraphStyle where
  namedStyle := some ((headingName? (Text.lowerName tag)).getD normalName)
  alignment :=
    (attributes.declarations.value? "text-align").bind fun value =>
      alignment? (String.ofList (Text.lower value))

end ParagraphStyle

end MarkupCompiler
