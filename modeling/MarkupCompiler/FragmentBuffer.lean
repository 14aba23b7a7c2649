import MarkupCompiler.Interval.Combine

/-!
# Joining fragments of text

A buffer takes fragments of text one by one and puts a separator between them where one is
needed: a space between words, a line feed at a block boundary. Callers count the characters of
their fragments only, in normal form; these local offsets are converted into offsets of the
buffer, which also hold the separators.
-/

namespace MarkupCompiler

structure FragmentBuffer where
  /-- Where the buffer starts in the stream it belongs to. -/
  startIndex : Int := 0
  /-- Whether fragments are taken as they are. -/
  preserve : Bool := false
  /-- The fragments with their separators. -/
  text : Text := []
  /-- The number of characters of fragments. -/
  localLength : Int := 0
  /-- The local offsets before which a separator stands. -/
  separators : List Int := []
  /-- The registered styles, in offsets of the buffer. -/
  ranges : List StyleInterval := []
  afterNewline : Bool := false
  atBlockStart : Bool := true
  needsBoundary : Bool := false
  pendingSpace : Bool := false
  deriving Repr, DecidableEq, Inhabited

namespace FragmentBuffer

/-- A fragment in normal form: each line has its whitespace collapsed and trimmed. -/
def normalForm (preserve : Bool) (fragment : Text) : Text :=
  if preserve then fragment
  else Text.join ['\n'] ((Text.split '\n' fragment).map Text.normalize)

def addSeparator (separator : Char) (b : FragmentBuffer) : FragmentBuffer :=
  { b with text := b.text ++ [separator], separators := b.separators ++ [b.localLength] }

/-- Meets a requested block boundary by a line feed. -/
def addBoundary (b : FragmentBuffer) : FragmentBuffer :=
  if b.needsBoundary && !b.atBlockStart then
    { b.addSeparator '\n' with
      afterNewline := true, needsBoundary := false, pendingSpace := false }
  else b

def addSpace (isSeparate : Bool) (fragment : Text) (b : FragmentBuffer) : FragmentBuffer :=
  if isSeparate && b.pendingSpace && !b.atBlockStart && !b.afterNewline &&
      b.text.getLast? != some ' ' && fragment.head? != some ' ' && fragment.head? != some '\n' then
    b.addSeparator ' '
  else b

/-- Adds a fragment in normal form, not empty, after its separators. -/
def addFragment (fragment : Text) (b : FragmentBuffer) : FragmentBuffer :=
  let endsLine := fragment.getLast? == some '\n'
  { b with
    text := b.text ++ fragment
    localLength := b.localLength + fragment.length
    afterNewline := endsLine
    atBlockStart := false
    pendingSpace := !endsLine && !b.preserve && fragment.getLast? != some ' ' }

/--
Appends a fragment. With `isSeparate` false, no space is put before it, because its source had none
there. A fragment whose normal form is empty changes nothing.
-/
def append (fragment : Text) (isSeparate : Bool) (b : FragmentBuffer) : FragmentBuffer :=
  let normal := normalForm b.preserve fragment
  if normal.isEmpty then b
  else (b.addBoundary.addSpace isSeparate normal).addFragment normal

/-- Asks for the next fragment to start on a new line. -/
def markBoundary (b : FragmentBuffer) : FragmentBuffer :=
  if !b.atBlockStart && !b.afterNewline then { b with needsBoundary := true } else b

/-- Removes line feeds from the end of the buffer. -/
def trimNewlines (b : FragmentBuffer) : FragmentBuffer :=
  let trimmed := Text.trimEnd (· == '\n') b.text
  { b with
    localLength := b.localLength - (Int.ofNat b.text.length - Int.ofNat trimmed.length)
    text := trimmed
    afterNewline := false
    pendingSpace := !b.preserve }

/--
The place where a value belongs in a list of offsets, by halving the range from `low` to `high`;
`isBefore` tells the entries that stand before it. In an ascending list it is their number. The
first argument bounds the number of steps.
-/
def searchPlace (isBefore : Int → Bool) (offsets : List Int) : Nat → Nat → Nat → Nat
  | 0, low, _ => low
  | fuel + 1, low, high =>
    if low < high then
      let middle := (low + high) / 2
      if (offsets[middle]?).any isBefore then searchPlace isBefore offsets fuel (middle + 1) high
      else searchPlace isBefore offsets fuel low middle
    else low

/--
The offset in the buffer of a local offset. A separator stands before the character at its local
offset; the start of a range counts that separator and the end of a range does not.
-/
def toBufferOffset (b : FragmentBuffer) (offset : Int) (isStart : Bool) : Int :=
  let isBefore := fun s => if isStart then s ≤ offset else s < offset
  offset + searchPlace isBefore b.separators b.separators.length 0 b.separators.length

def toBufferInterval (b : FragmentBuffer) (offset : Int) (i : StyleInterval) : StyleInterval where
  start := b.toBufferOffset (offset + i.start) true
  stop := b.toBufferOffset (offset + i.stop) false
  style := i.style

/-- Registers a style over local offsets; ranges that overlap become one. -/
def registerStyle (i : StyleInterval) (b : FragmentBuffer) : FragmentBuffer :=
  if i.isEmpty || i.style.isEmpty then b
  else { b with ranges := StyleInterval.register b.ranges (b.toBufferInterval 0 i) }

def registerStyles (offset : Int) (is : List StyleInterval) (b : FragmentBuffer) :
    FragmentBuffer :=
  let added := (is.filter fun i => !i.isEmpty && !i.style.isEmpty).map (b.toBufferInterval offset)
  if added.isEmpty then b
  else { b with ranges := StyleInterval.sortByStart (b.ranges ++ added) }

/-- The index in the stream just after the buffer. -/
def endIndex (b : FragmentBuffer) : Int := b.startIndex + b.text.length

/-- The text of the buffer, and an empty buffer that starts after it. -/
def flush (b : FragmentBuffer) : Text × FragmentBuffer :=
  (b.text, { startIndex := b.endIndex, preserve := b.preserve })

end FragmentBuffer

end MarkupCompiler
