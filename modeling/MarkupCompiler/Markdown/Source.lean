import MarkupCompiler.Markdown.HtmlTag
import MarkupCompiler.Markdown.Inline
import MarkupCompiler.Markdown.Line
import MarkupCompiler.Url.Parts
import Std.Data.HashMap

/-!
# Reading running text by position

Running text is read by positions in an array of characters. A reader looks at a part of the text
that ends at a limit. Pieces that hold no other pieces are read here: escapes, references,
addresses in angle brackets, markup and code.
-/

namespace MarkupCompiler.Markdown

/-- Running text, and the definitions that its links may use. -/
structure Source where
  chars : Array Char
  definitions : Definitions

namespace Source

def at? (s : Source) (i : Nat) : Option Char := s.chars[i]?

/-- Whether a character stands at a position before a limit. -/
def has (s : Source) (c : Char) (limit i : Nat) : Bool := i < limit && s.at? i == some c

/-- The text between two positions. -/
def slice (s : Source) (first next : Nat) : Text := (s.chars.extract first next).toList

/-- The position after the characters of a class from a position on. -/
def runEnd (s : Source) (p : Char → Bool) (limit i : Nat) : Nat :=
  i + go (limit - i) i
where
  /-- The length of the run, of which at most `count` characters are looked at. -/
  go : (count i : Nat) → Nat
    | 0, _ => 0
    | count + 1, i => if (s.at? i).any p then go count (i + 1) + 1 else 0

/-- An escape; a backslash at the end of a line breaks it. -/
def escape? (s : Source) (limit i : Nat) : Option (Inline × Nat) :=
  if limit ≤ i + 1 then none
  else
    match s.at? (i + 1) with
    | none => none
    | some '\n' => some (.hardBreak, s.runEnd isIndent limit (i + 2))
    | some c =>
      some (.literal (if Text.isAsciiPunctuation c then [c] else ['\\', c]), i + 2)

/-- How many characters of a text at position `i` were read, if `rest` is left of it. -/
def after (s : Source) (rest : Text) : Nat := s.chars.size - rest.length

def reference? (s : Source) (limit i : Nat) : Option (Inline × Nat) :=
  if limit ≤ i + 1 then none
  else
    (textReference? (s.slice (i + 1) s.chars.size)).map fun (image, rest) =>
      (.literal image, s.after rest)

def dropLineFeed (t : Text) : Text := if t.getLast? == some '\n' then t.dropLast else t

/-- The characters of a scheme after its first letter. -/
def isSchemeChar (c : Char) : Bool := c.isAlphanum || c == '+' || c == '.' || c == '-'

/-- The most characters of a scheme. -/
def maxSchemeLength : Nat := 32

def isAbsoluteLink (t : Text) : Bool :=
  let scheme := t.takeWhile isSchemeChar
  match t.drop scheme.length with
  | ':' :: rest =>
    scheme.head?.any Char.isAlpha && 2 ≤ scheme.length && scheme.length ≤ maxSchemeLength &&
      (dropLineFeed rest).all (0x20 < ·.toNat)
  | _ => false

/-- The symbols in the local part of a mail address. -/
def localSymbols : Text := ".!#$%&'*+/=?^_\x60\x7b|\x7d~-".toList

/-- The most characters of a label in a mail address. -/
def maxMailLabelLength : Nat := 63

/-- Whether a text is a label of the domain in a mail address. -/
def isMailLabel (t : Text) : Bool :=
  t.length ≤ maxMailLabelLength && t.head?.any Char.isAlphanum && t.getLast?.any Char.isAlphanum &&
    t.all fun c => c.isAlphanum || c == '-'

def isMailAddress (t : Text) : Bool :=
  match Text.splitFirst? '@' (dropLineFeed t) with
  | some (name, domain) =>
    !name.isEmpty && name.all (fun c => c.isAlphanum || localSymbols.contains c) &&
      (Text.split '.' domain).all isMailLabel
  | none => false

/-- What a mail address begins with as a link. -/
def mailScheme : Text := "mailto:".toList

def addressLink? (address : Text) : Option Inline :=
  let link? := fun (t : Text) =>
    let destination := Url.normalize t
    if Url.isAllowed destination then
      some (Inline.link { destination } [.text (Url.readable address)])
    else none
  if isAbsoluteLink address then link? address
  else if isMailAddress address then link? (mailScheme ++ address)
  else none

/-- An address in angle brackets. -/
def address? (s : Source) (limit i : Nat) : Option (Inline × Nat) :=
  let last := s.runEnd (fun c => c != '<' && c != '>') limit (i + 1)
  if s.has '>' limit last then
    (addressLink? (s.slice (i + 1) last)).map fun piece => (piece, last + 1)
  else none

/-- A tag, comment or other markup. -/
def markup? (s : Source) (limit i : Nat) : Option (Inline × Nat) :=
  if limit ≤ i + 2 then none
  else
    (HtmlTag.markup? (s.slice i s.chars.size)).map fun rest =>
      (.html (s.slice i (s.after rest)), s.after rest)

/-- The piece at a position that depends on nothing before it and holds nothing else. -/
def simple? (s : Source) (limit i : Nat) : Option (Inline × Nat) :=
  match s.at? i with
  | some '\\' => s.escape? limit i
  | some '&' => s.reference? limit i
  | some '<' => (s.address? limit i).or (s.markup? limit i)
  | _ => none

end Source

/-- What was found out about a text. -/
structure Memory where
  /-- For a position, the position after the piece that begins there. -/
  skips : Std.HashMap Nat Nat := {}
  /-- For a length, the last run of backticks of that length that was met. -/
  runs : Std.HashMap Nat Nat := {}
  /-- Whether all runs of backticks to the end of the text were met. -/
  isScanned : Bool := false

/-- A reader that may use and add to what was found out. -/
abbrev Recall := StateM Memory

/-- A run of backticks: the code that it opens, if any, and the position after it or the code. -/
abbrev CodeReading := Option Text × Nat

/-- The code between two runs of backticks. -/
def codeContent (t : Text) : Text :=
  let flat := t.map fun c => if c == '\n' then ' ' else c
  if flat.head? == some ' ' && flat.getLast? == some ' ' && !(Text.trimBlank flat).isEmpty then
    (flat.drop 1).dropLast
  else flat

namespace Source

/-- Looks from position `i` on for a run of `length` backticks that closes what stands from
`first` on; runs of other lengths are remembered. -/
def codeFrom (s : Source) (length first limit : Nat) : (count i : Nat) → Recall (Option CodeReading)
  | 0, _ => do
    modify fun m => { m with isScanned := true }
    pure none
  | count + 1, i => do
    let start := s.runEnd (· != '\x60') s.chars.size i
    if s.chars.size ≤ start then
      modify fun m => { m with isScanned := true }
      pure none
    else
      let next := s.runEnd (· == '\x60') limit (start + 1)
      if next - start == length then
        pure (some (some (codeContent (s.slice first start)), next))
      else
        modify fun m => { m with runs := m.runs.insert (next - start) start }
        s.codeFrom length first limit count next

/-- Reads a run of backticks. -/
def code (s : Source) (limit i : Nat) : Recall CodeReading := do
  let first := s.runEnd (· == '\x60') limit (i + 1)
  let length := first - i
  let m ← get
  if m.isScanned && m.runs.getD length 0 ≤ i then pure (none, first)
  else
    let reading ← s.codeFrom length first limit (s.chars.size + 1) first
    pure (reading.getD (none, first))

end Source

end MarkupCompiler.Markdown
