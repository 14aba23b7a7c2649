import MarkupCompiler.Interval.Basic
import MarkupCompiler.Style.OfElement

/-!
# The text of an element

An element is flattened into one text with style intervals that address it. Whitespace is put
into normal form while the text is built: a run of HTML whitespace becomes one space, and none
stands at the start, after a line break or before one. Inside elements that keep whitespace the
text stays as it is. An interval covers what an element contributed, without the whitespace at
both ends; elements that contributed whitespace only have none.
-/

namespace MarkupCompiler

/-- A text and the style intervals that address it, sorted by start. -/
structure CollectedText where
  text : Text
  intervals : List StyleInterval
  deriving Repr, DecidableEq, Inhabited

structure Collector where
  buffer : Text := []
  intervals : List StyleInterval := []
  deriving Repr, DecidableEq, Inhabited

namespace Collector

def box (isChecked : Bool) : Char := Char.ofNat (if isChecked then 0x2611 else 0x2610)

/-- Adds text; unless whitespace is kept, its runs collapse and none follows other whitespace. -/
def addText (preserve : Bool) (raw : Text) (c : Collector) : Collector :=
  if preserve then { c with buffer := c.buffer ++ raw }
  else
    let text := Text.collapse raw
    let atGap := c.buffer.isEmpty || Text.endsWith Text.isSpace c.buffer
    let text := if atGap && text.head? == some ' ' then text.drop 1 else text
    { c with buffer := c.buffer ++ text }

/-- Adds a line break; unless whitespace is kept, it replaces a space before it. -/
def addBreak (preserve : Bool) (c : Collector) : Collector :=
  let before :=
    if !preserve && c.buffer.getLast? == some ' ' then c.buffer.dropLast else c.buffer
  { c with buffer := before ++ ['\n'] }

/-- Records the interval of an element whose content starts at `start` in the text. -/
def record (name : String) (attributes : Attributes) (start : Nat) (c : Collector) : Collector :=
  let style := TextStyle.ofElement name attributes
  let produced := c.buffer.drop start
  let content := Text.trim Text.isSpace produced
  if style.isEmpty || content.isEmpty then c
  else
    let first := start + (produced.takeWhile Text.isSpace).length
    { c with intervals := c.intervals ++ [⟨first, first + content.length, style⟩] }

mutual

/--
Visits a node. With `skipLists`, lists are left out; this reaches the children of the root only.
-/
def visit (preserve skipLists : Bool) : Node → Collector → Collector
  | .text content, c => c.addText preserve content
  | .special _ _, c => c
  | .element tag attributes children, c =>
    let name := Text.lowerName tag
    if name == "br" then c.addBreak preserve
    else if Tags.skipped.contains name then c
    else if name == "input" && attributes.hasText "type" "checkbox" then
      c.addText preserve [box (attributes.has "checked"), ' ']
    else if skipLists && Tags.lists.contains name then c
    else
      (visitAll (preserve || Tags.preserving.contains name) false children c).record tag
        attributes c.buffer.length

/-- Visits nodes in order. -/
def visitAll (preserve skipLists : Bool) : List Node → Collector → Collector
  | [], c => c
  | node :: nodes, c => visitAll preserve skipLists nodes (visit preserve skipLists node c)

end

/-- Trims the end of the text and clamps the intervals to it; line breaks at the end are kept. -/
def finish (preserve : Bool) (c : Collector) : CollectedText :=
  let text := Text.trimEnd (fun ch => Text.isSpace ch && (preserve || ch != '\n')) c.buffer
  ⟨text, StyleInterval.sortByStart (StyleInterval.clampAll text.length c.intervals)⟩

end Collector

namespace CollectedText

def ofElement (skipLists preserve : Bool) (tag : String) (attributes : Attributes)
    (children : List Node) : CollectedText :=
  let preserve := preserve || Tags.preserving.contains (Text.lowerName tag)
  let walked := Collector.visitAll preserve skipLists children {}
  (walked.record tag attributes 0).finish preserve

/-- The name under which a document takes part in a walk. -/
def documentName : String := "[document]"

def ofRoot (skipLists preserve : Bool) : Root → CollectedText
  | .document children => ofElement skipLists preserve documentName [] children
  | .element _ tag attributes children => ofElement skipLists preserve tag attributes children

end CollectedText

end MarkupCompiler
