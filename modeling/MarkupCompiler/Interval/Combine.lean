import MarkupCompiler.Interval.Basic

/-!
# Combining style intervals

Two ways to put intervals together. Registering an interval replaces all intervals that it
overlaps by one that spans them. Coalescing joins intervals with the same range and leaves all
others alone.
-/

namespace MarkupCompiler.StyleInterval

def mergedStyle (is : List StyleInterval) : TextStyle :=
  is.foldl (fun style i => style.merged i.style) {}

def span (touched : List StyleInterval) (new : StyleInterval) : StyleInterval where
  start := touched.foldl (fun start i => min start i.start) new.start
  stop := touched.foldl (fun stop i => max stop i.stop) new.stop
  style := (mergedStyle touched).merged new.style

/--
Registers an interval: those that overlap it are replaced by one interval that spans them all.
Their styles are merged in order, then that of `new`. The result is sorted by start.
-/
def register (existing : List StyleInterval) (new : StyleInterval) : List StyleInterval :=
  let touched := existing.filter fun i => i.overlaps new
  let kept := existing.filter fun i => !i.overlaps new
  sortByStart (kept ++ [span touched new])

/-- Adds an interval to a list without equal ranges, merging it into one of equal range. -/
def absorb (i : StyleInterval) : List StyleInterval → List StyleInterval
  | [] => [i]
  | j :: js =>
    if j.start == i.start && j.stop == i.stop then
      { j with style := j.style.merged i.style } :: js
    else j :: absorb i js

/-- Joins intervals with equal ranges; each range keeps the place where it occurs first. -/
def coalesce (is : List StyleInterval) : List StyleInterval :=
  is.foldl (fun acc i => absorb i acc) []

end MarkupCompiler.StyleInterval
