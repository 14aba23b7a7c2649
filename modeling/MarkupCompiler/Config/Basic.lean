import MarkupCompiler.Style.ParagraphStyle
import MarkupCompiler.Json.Value

/-!
# Configuration

A configuration holds styles that are laid over the styles computed from markup, and the indent of
nested list items. Style options may be unset. An unset option takes any value, so what an option
holds is known only when it is used; a value that is no style of the right kind fails there.
-/

namespace MarkupCompiler

inductive OptionValue where
  | unset
  | textStyle (style : TextStyle)
  | paragraphStyle (style : ParagraphStyle)
  | scalar (value : Json)
  deriving Inhabited

/-- Why a style for a block could not be computed. -/
inductive StyleFault where
  | badRank (fault : IntegerFault)
  | foreignSlot (record slot : String)
  | notAStyle
  | levelTooLarge
  deriving Repr, DecidableEq

namespace StyleFault

def message : StyleFault → String
  | .badRank fault => fault.message
  | .foreignSlot record slot => s!"{record}.__init__() got an unexpected keyword argument '{slot}'"
  | .notAStyle => "must be called with a dataclass type or instance"
  | .levelTooLarge => "int too large to convert to float"

end StyleFault

def TextStyle.kindName : String := "TextStyle"

def ParagraphStyle.kindName : String := "ParagraphStyle"

def firstPresent? (slots : List (String × Bool)) : Option String :=
  (slots.find? Prod.snd).map Prod.fst

def TextStyle.firstSlot? (s : TextStyle) : Option String :=
  firstPresent?
    [("bold", s.bold.isSome), ("italic", s.italic.isSome), ("underline", s.underline.isSome),
      ("strikethrough", s.strikethrough.isSome), ("link_url", s.linkUrl.isSome),
      ("foreground_color", s.foreground.isSome), ("background_color", s.background.isSome),
      ("font_family", s.fontFamily.isSome), ("font_size_pt", s.fontSize.isSome)]

def ParagraphStyle.firstSlot? (s : ParagraphStyle) : Option String :=
  firstPresent?
    [("named_style", s.namedStyle.isSome), ("alignment", s.alignment.isSome),
      ("indent_start_pt", s.indentStart.isSome),
      ("indent_first_line_pt", s.indentFirstLine.isSome)]

namespace OptionValue

def overText (base : TextStyle) : OptionValue → Except StyleFault TextStyle
  | .unset => .ok base
  | .textStyle style => .ok (base.merged style)
  | .paragraphStyle style =>
    match style.firstSlot? with
    | none => .ok base
    | some slot => .error (.foreignSlot TextStyle.kindName slot)
  | .scalar _ => .error .notAStyle

def overParagraph (base : ParagraphStyle) : OptionValue → Except StyleFault ParagraphStyle
  | .unset => .ok base
  | .paragraphStyle style => .ok (base.merged style)
  | .textStyle style =>
    match style.firstSlot? with
    | none => .ok base
    | some slot => .error (.foreignSlot ParagraphStyle.kindName slot)
  | .scalar _ => .error .notAStyle

end OptionValue

/-- Style options for a conversion. -/
structure Config where
  /-- Laid over every paragraph style. -/
  paragraphDefault : OptionValue := .paragraphStyle {}
  /-- Laid over the style of headings, last. -/
  headingDefault : OptionValue := .paragraphStyle {}
  /-- Laid over every text style. -/
  textDefault : OptionValue := .textStyle {}
  /-- The indent of each level of list nesting, in points. -/
  listIndent : Float := 36.0
  deriving Inhabited

namespace Config

/-- How far the first line of a nested list item hangs out, in points. -/
def hangingIndent : Float := 18.0

def paragraphStyleFor (config : Config) (computed : ParagraphStyle) :
    Except StyleFault ParagraphStyle :=
  match config.paragraphDefault.overParagraph computed with
  | .error fault => .error fault
  | .ok style =>
    match computed.headingRank with
    | .error fault => .error (.badRank fault)
    | .ok none => .ok style
    | .ok (some _) => config.headingDefault.overParagraph style

/-- The style of a range of text, from the style that its markup gives. -/
def textStyleFor (config : Config) (computed : TextStyle) : Except StyleFault TextStyle :=
  config.textDefault.overText computed

/-- The larger of two lengths; the first one if they cannot be compared. -/
def larger (x y : Float) : Float := if x < y then y else x

/-- The indents of a list item whose level is not too large. -/
def levelIndent (config : Config) (nestingLevel : Int) : ParagraphStyle :=
  let start := config.listIndent * DecimalText.ofInt (nestingLevel + 1)
  { indentStart := some start, indentFirstLine := some (larger (start - hangingIndent) 0.0) }

def listItemIndent (config : Config) (nestingLevel : Int) : Except StyleFault ParagraphStyle :=
  if DecimalText.inRange (nestingLevel + 1) then .ok (config.levelIndent nestingLevel)
  else .error .levelTooLarge

end Config

end MarkupCompiler
