import MarkupCompiler.Markdown.LinkParts
import MarkupCompiler.Markdown.Table
import MarkupCompiler.Url.Parts

/-!
# Definitions of link targets

A definition gives a label a destination and perhaps a title. Label and title may go over several
lines, and each of the three parts may begin on a new line. Where something follows the title on
its line, the definition ends before the title.
-/

namespace MarkupCompiler.Markdown.Definition

def lineText (r : Region) (i : Nat) : Text := r.content i ++ (r.line i).breakText

/-- Whether a definition that has begun may go on with a line. -/
def continuesAt (r : Region) (i : Nat) : Bool :=
  let isLazy := r.isCode i || (r.line i).column < 0
  i < r.limit && !r.isEmpty i && (isLazy || !r.interruptsDefinition i r.limit)

def nextLine? (r : Region) (i : Nat) : Option Text :=
  if continuesAt r i then some (lineText r i) else none

/-- Where reading stands: the rest of a line, and the number of the line after it. -/
structure Place where
  rest : Text
  next : Nat
  deriving Repr, DecidableEq

/-- Reads a part from a text and, as long as it is unfinished, from the lines after it. The result
also says whether more than one line was read. -/
def readAcross {α : Type} (r : Region) (read : Text → Partial α) :
    (count : Nat) → (isLater : Bool) → Text → (next : Nat) → Option (α × Place × Bool)
  | count, isLater, t, next =>
    match read t, count with
    | .done value rest, _ => some (value, ⟨rest, next⟩, isLater)
    | .failed, _ => none
    | .unfinished, 0 => none
    | .unfinished, count + 1 =>
      match nextLine? r next with
      | some line => readAcross r read count true (t ++ line) (next + 1)
      | none => none

/-- Skips blanks and at most one break. -/
def skipGap (r : Region) (p : Place) : Place :=
  match p.rest.dropWhile fun c => isIndent c || c == '\n' with
  | [] =>
    if p.rest.isEmpty then p
    else
      match nextLine? r p.next with
      | some line => ⟨line, p.next + 1⟩
      | none => { p with rest := [] }
  | rest => { p with rest }

/-- Whether nothing but blanks is left of the line. -/
def isLineEnd (p : Place) : Bool :=
  match p.rest.dropWhile isIndent with
  | [] => true
  | c :: _ => c == '\n'

/-- The title at a place, which something separates from what is before. -/
def title? (r : Region) (p : Place) : Option (Text × Place) :=
  let start := skipGap r p
  match readAcross r title r.limit false start.rest start.next with
  | some (title, after, isLater) => if start != p || isLater then some (title, after) else none
  | none => none

/-- The title after a destination and the place after it; the title is dropped if its line goes
on. -/
def titleOrNone (r : Region) (p : Place) : Text × Place :=
  match title? r p with
  | some (title, after) =>
    if isLineEnd after || title.isEmpty then (title, after) else ([], p)
  | none => ([], p)

/-- The definition that begins with line `i`: its label, its target and the line after it. -/
def read? (r : Region) (i : Nat) : Option (Text × Target × Nat) :=
  match lineText r i with
  | '[' :: t =>
    match readAcross r label r.limit false t (i + 1) with
    | some (label, ⟨':' :: rest, next⟩, _) => do
      let start := skipGap r ⟨rest, next⟩
      let (raw, after) ← destination? start.rest
      let destination := Url.normalize raw
      let (title, place) := titleOrNone r ⟨after, start.next⟩
      let label := normalizeLabel label
      if Url.isAllowed destination && isLineEnd place && !label.isEmpty then
        some (label, ⟨destination, title⟩, place.next)
      else none
    | _ => none
  | _ => none

end MarkupCompiler.Markdown.Definition
