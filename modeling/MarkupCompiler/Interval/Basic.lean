import MarkupCompiler.Style.TextStyle

/-!
# Style intervals

A style interval is a half-open range of character positions with a text style. Positions are
integers, so that an interval may also lie outside the text it was made for.
-/

namespace MarkupCompiler

/-- The positions from `start` up to but not including `stop`, with their style. -/
structure StyleInterval where
  start : Int
  stop : Int
  style : TextStyle := {}
  deriving Repr, DecidableEq, Inhabited

namespace StyleInterval

/-- Whether the interval holds no position. -/
def isEmpty (i : StyleInterval) : Bool := i.stop ≤ i.start

/-- The interval with both ends moved into a text of the given length. -/
def clamped (i : StyleInterval) (length : Int) : StyleInterval :=
  let start := min (max i.start 0) length
  { i with start := start, stop := min (max i.stop start) length }

/-- The intervals clamped to a text, less those that become empty. -/
def clampAll (length : Int) (is : List StyleInterval) : List StyleInterval :=
  (is.map fun i => i.clamped length).filter fun i => !i.isEmpty

/-- Whether two intervals share a position, when neither is empty. -/
def overlaps (a b : StyleInterval) : Bool := a.start < b.stop && b.start < a.stop

/-- Puts an interval before the first one that does not start earlier. -/
def insertByStart (i : StyleInterval) : List StyleInterval → List StyleInterval
  | [] => [i]
  | j :: js => if i.start ≤ j.start then i :: j :: js else j :: insertByStart i js

/-- The intervals sorted by start; those with equal starts keep their order. -/
def sortByStart : List StyleInterval → List StyleInterval
  | [] => []
  | i :: is => insertByStart i (sortByStart is)

end StyleInterval

end MarkupCompiler
