import MarkupCompiler.Markdown.Inline

/-!
# Delimiters of emphasis

A run of asterisks, underscores or tildes may open and close emphasis, depending on the characters
around it. Each closing delimiter takes the nearest opening one before it that fits. Of a run that
can both open and close, lengths decide whether two delimiters fit: their sum may be divisible by
three only if both lengths are.
-/

namespace MarkupCompiler.Markdown

/-- White space in the sense of running text. -/
def isGapChar (c : Char) : Bool :=
  let n := c.toNat
  (0x09 ≤ n && n ≤ 0x0D) || n == 0x20 || n == 0xA0 || n == 0x1680 ||
    (0x2000 ≤ n && n ≤ 0x200A) || n == 0x202F || n == 0x205F || n == 0x3000

/-- Whether a run may open and close emphasis. -/
structure Flanks where
  canOpen : Bool
  canClose : Bool
  deriving Repr, DecidableEq

/-- What a run may do between two characters; `inWords` says that it may do so inside a word. -/
def Flanks.of (inWords : Bool) (before after : Char) : Flanks :=
  let isLeft :=
    !(isGapChar after ||
      (Text.isPunctuation after && !(isGapChar before || Text.isPunctuation before)))
  let isRight :=
    !(isGapChar before ||
      (Text.isPunctuation before && !(isGapChar after || Text.isPunctuation after)))
  { canOpen := isLeft && (inWords || !isRight || Text.isPunctuation before)
    canClose := isRight && (inWords || !isLeft || Text.isPunctuation after) }

structure Delimiter where
  marker : Char
  /-- The length of its run; zero if lengths do not matter. -/
  length : Nat
  /-- The number of its piece. -/
  place : Nat
  canOpen : Bool
  canClose : Bool
  /-- The number of the delimiter that closes what it opens. -/
  partner : Option Nat := none
  deriving Repr, Inhabited

/-- Whether two delimiters of one marker fit by their lengths. -/
def Delimiter.fits (opener closer : Delimiter) : Bool :=
  !((opener.canClose || closer.canOpen) && (opener.length + closer.length) % 3 == 0 &&
    (opener.length % 3 != 0 || closer.length % 3 != 0))

structure CloserKind where
  marker : Char
  canOpen : Bool
  remainder : Nat
  deriving Repr, DecidableEq

def Delimiter.closerKind (d : Delimiter) : CloserKind := ⟨d.marker, d.canOpen, d.length % 3⟩

structure Pairing where
  delimiters : Array Delimiter
  /-- How many delimiters before each one are passed over with it. -/
  jumps : Array Nat
  /-- For kinds of closing delimiters, how many first delimiters hold no opening one. -/
  searched : List (CloserKind × Nat) := []
  /-- The first delimiter of the run of the last one. -/
  header : Nat := 0
  /-- The place of the last delimiter, unless it was paired. -/
  lastPlace : Option Nat := none

namespace Pairing

def delimiter (p : Pairing) (i : Nat) : Delimiter := p.delimiters.getD i default

/-- How many delimiters are passed over with one. -/
def jump (p : Pairing) (i : Nat) : Nat := p.jumps.getD i 0

/-- The nearest delimiter among the first `above` ones that opens what `closer` closes; the first
`below` ones are not looked at. Each step leaves at least one behind, so `fuel` may be `above`. -/
def opener? (p : Pairing) (closer : Delimiter) (below : Nat) : (fuel above : Nat) → Option Nat
  | 0, _ => none
  | fuel + 1, above =>
    if above ≤ below then none
    else
      let i := above - 1
      let d := p.delimiter i
      if d.marker == closer.marker && d.canOpen && d.partner.isNone && d.fits closer then some i
      else opener? p closer below fuel (i - p.jump i)

def pair (p : Pairing) (opener closer : Nat) : Pairing :=
  let before :=
    if 0 < opener && !(p.delimiter (opener - 1)).canOpen then p.jump (opener - 1) + 1 else 0
  { p with
    delimiters :=
      (p.delimiters.modify closer fun d => { d with canOpen := false }).modify opener fun d =>
        { d with partner := some closer, canClose := false }
    jumps := (p.jumps.setIfInBounds closer (closer - opener + before)).setIfInBounds opener before
    lastPlace := none }

def noteSearched (p : Pairing) (kind : CloserKind) (above : Nat) : Pairing :=
  if above == 0 then p else { p with searched := (kind, above) :: p.searched }

/-- Looks for the partner of a delimiter. -/
def step (p : Pairing) (i : Nat) : Pairing :=
  let closer := p.delimiter i
  let isSameRun :=
    (p.delimiter p.header).marker == closer.marker && p.lastPlace.any fun n => n + 1 == closer.place
  let p := { p with header := if isSameRun then p.header else i, lastPlace := some closer.place }
  if !closer.canClose then p
  else
    let kind := closer.closerKind
    let below := (p.searched.lookup kind).getD 0
    let above := p.header - p.jump p.header
    match p.opener? closer below above above with
    | some opener => p.pair opener i
    | none => p.noteSearched kind above

end Pairing

def pairDelimiters (ds : Array Delimiter) : Array Delimiter :=
  let start : Pairing := { delimiters := ds, jumps := Array.replicate ds.size 0 }
  ((List.range ds.size).foldl Pairing.step start).delimiters

def placeMarks (kind : Emphasis) (opener closer : Delimiter) (pieces : Array Inline) :
    Array Inline :=
  (pieces.setIfInBounds opener.place (.opening kind)).setIfInBounds closer.place (.closing kind)

/-- The place after all marks from `i` on that close struck text. -/
def struckEnd (pieces : Array Inline) : (count i : Nat) → Nat
  | 0, i => i
  | count + 1, i =>
    if (pieces[i]?).any Inline.closesStruck then struckEnd pieces count (i + 1) else i

/-- Moves a single tilde behind the marks that close struck text after it. -/
def moveTilde (pieces : Array Inline) (i : Nat) : Array Inline :=
  pieces.swapIfInBounds i (struckEnd pieces (pieces.size - (i + 1)) (i + 1) - 1)

/-- Strikes through what a tilde delimiter opens; the list collects the places of single tildes
before closing marks. -/
def strikeStep (ds : Array Delimiter) (state : Array Inline × List Nat) (d : Delimiter) :
    Array Inline × List Nat :=
  match d.marker == '~', d.partner with
  | true, some partner =>
    let closer := ds.getD partner default
    let pieces := placeMarks .struck d closer state.1
    let before := closer.place - 1
    (pieces, if (pieces[before]?).any (Inline.isLone '~') then before :: state.2 else state.2)
  | _, _ => state

/-- Strikes through what tilde delimiters open. -/
def strike (ds : Array Delimiter) (pieces : Array Inline) : Array Inline :=
  let (pieces, tildes) := ds.toList.foldl (strikeStep ds) (pieces, [])
  tildes.foldl moveTilde pieces

/-- Whether delimiter `i` and the one before it open and close strong emphasis together. -/
def isStrong (ds : Array Delimiter) (i partner : Nat) : Bool :=
  match i with
  | 0 => false
  | j + 1 =>
    let outer := ds.getD j default
    let d := ds.getD i default
    outer.partner == some (partner + 1) && outer.marker == d.marker &&
      outer.place + 1 == d.place &&
      (ds.getD (partner + 1) default).place == (ds.getD partner default).place + 1

/-- Marks what the first `count` delimiters open, the last one first; `isDone` says that the last
one is already marked together with the one after it. -/
def emphasize (ds : Array Delimiter) : (count : Nat) → (isDone : Bool) → Array Inline →
    Array Inline
  | 0, _, pieces => pieces
  | i + 1, true, pieces => emphasize ds i false pieces
  | i + 1, false, pieces =>
    let d := ds.getD i default
    match d.marker == '~', d.partner with
    | false, some partner =>
      let closer := ds.getD partner default
      if isStrong ds i partner then
        let pieces := placeMarks .strong d closer pieces
        let outer := (ds.getD (i - 1) default).place
        emphasize ds i true
          ((pieces.setIfInBounds outer (.text [])).setIfInBounds (closer.place + 1) (.text []))
      else emphasize ds i false (placeMarks .plain d closer pieces)
    | _, _ => emphasize ds i false pieces

def resolveDelimiters (ds : Array Delimiter) (pieces : Array Inline) : List Inline :=
  let paired := pairDelimiters ds
  (emphasize paired paired.size false (strike paired pieces)).toList

end MarkupCompiler.Markdown
