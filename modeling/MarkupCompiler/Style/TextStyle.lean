import MarkupCompiler.Style.Color

/-!
# Text styles

A text style is a closed set of optional slots. Merging goes slot by slot, and a slot that the
second style has wins. Only slots that are present are written, and the field mask lists exactly
the keys that are written.
-/

namespace MarkupCompiler

structure TextStyle where
  bold : Option Bool := none
  italic : Option Bool := none
  underline : Option Bool := none
  strikethrough : Option Bool := none
  linkUrl : Option String := none
  foreground : Option Color := none
  background : Option Color := none
  fontFamily : Option String := none
  fontSize : Option Float := none
  deriving Repr, DecidableEq, Inhabited

/-- A length in points as the document service takes it. -/
def pointsJson (x : Float) : Json := .obj [("magnitude", .float x), ("unit", .str "PT")]

def presentMembers (slots : List (String × Option Json)) : List (String × Json) :=
  slots.filterMap fun (key, value) => value.map fun v => (key, v)

namespace TextStyle

/-- The slots of both styles, those of `top` first. -/
def merged (base top : TextStyle) : TextStyle where
  bold := top.bold.or base.bold
  italic := top.italic.or base.italic
  underline := top.underline.or base.underline
  strikethrough := top.strikethrough.or base.strikethrough
  linkUrl := top.linkUrl.or base.linkUrl
  foreground := top.foreground.or base.foreground
  background := top.background.or base.background
  fontFamily := top.fontFamily.or base.fontFamily
  fontSize := top.fontSize.or base.fontSize

/-- Merging with a style that may be missing; a missing one changes nothing. -/
def mergedWith (base : TextStyle) : Option TextStyle → TextStyle
  | none => base
  | some top => base.merged top

/-- Whether no slot is present. -/
def isEmpty (s : TextStyle) : Bool :=
  s.bold.isNone && s.italic.isNone && s.underline.isNone && s.strikethrough.isNone &&
    s.linkUrl.isNone && s.foreground.isNone && s.background.isNone && s.fontFamily.isNone &&
    s.fontSize.isNone

def members (s : TextStyle) : List (String × Json) :=
  presentMembers
    [("bold", s.bold.map .bool),
      ("italic", s.italic.map .bool),
      ("underline", s.underline.map .bool),
      ("strikethrough", s.strikethrough.map .bool),
      ("link", s.linkUrl.map fun url => .obj [("url", .str url)]),
      ("foregroundColor", s.foreground.map Color.toJson),
      ("backgroundColor", s.background.map Color.toJson),
      ("weightedFontFamily",
        s.fontFamily.map fun family => .obj [("fontFamily", .str family), ("weight", .int 400)]),
      ("fontSize", s.fontSize.map pointsJson)]

def toJson (s : TextStyle) : Json := .obj s.members

/-- The field mask: the keys of the style object with commas between them. -/
def fields (s : TextStyle) : String := ",".intercalate (s.members.map Prod.fst)

end TextStyle

end MarkupCompiler
