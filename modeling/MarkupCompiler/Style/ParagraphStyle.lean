import MarkupCompiler.Number.IntegerText
import MarkupCompiler.Style.TextStyle

/-!
# Paragraph styles

A paragraph style names one of the document's styles and may set alignment and indents. Merging
goes slot by slot, as for text styles. The name of a heading style ends in the heading's rank.
-/

namespace MarkupCompiler

structure ParagraphStyle where
  namedStyle : Option String := none
  alignment : Option String := none
  indentStart : Option Float := none
  indentFirstLine : Option Float := none
  deriving Repr, DecidableEq, Inhabited

namespace ParagraphStyle

def normalName : String := "NORMAL_TEXT"

def headingStart : String := "HEADING_"

def normal : ParagraphStyle where
  namedStyle := some normalName

/-- The slots of both styles, those of `top` first. -/
def merged (base top : ParagraphStyle) : ParagraphStyle where
  namedStyle := top.namedStyle.or base.namedStyle
  alignment := top.alignment.or base.alignment
  indentStart := top.indentStart.or base.indentStart
  indentFirstLine := top.indentFirstLine.or base.indentFirstLine

/-- Merging with a style that may be missing; a missing one changes nothing. -/
def mergedWith (base : ParagraphStyle) : Option ParagraphStyle → ParagraphStyle
  | none => base
  | some top => base.merged top

/-- Whether no slot is present. -/
def isEmpty (s : ParagraphStyle) : Bool :=
  s.namedStyle.isNone && s.alignment.isNone && s.indentStart.isNone && s.indentFirstLine.isNone

def members (s : ParagraphStyle) : List (String × Json) :=
  presentMembers
    [("namedStyleType", s.namedStyle.map .str),
      ("alignment", s.alignment.map .str),
      ("indentStart", s.indentStart.map pointsJson),
      ("indentFirstLine", s.indentFirstLine.map pointsJson)]

def toJson (s : ParagraphStyle) : Json := .obj s.members

/-- The field mask: the keys of the style object with commas between them. -/
def fields (s : ParagraphStyle) : String := ",".intercalate (s.members.map Prod.fst)

def afterLastUnderscore (t : Text) : Text := (t.reverse.takeWhile (· != '_')).reverse

def headingRank (s : ParagraphStyle) : Except IntegerFault (Option Int) :=
  match s.namedStyle with
  | none => .ok none
  | some name =>
    if headingStart.toList.isPrefixOf name.toList then
      (IntegerText.read (afterLastUnderscore name.toList)).map some
    else .ok none

end ParagraphStyle

end MarkupCompiler
