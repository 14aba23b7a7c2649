import MarkupCompiler.Markdown.Delimiter
import MarkupCompiler.Markdown.LinkReader

/-!
# Reading running text

Pieces are read from left to right. Characters that begin no piece are collected as text, and
delimiters of emphasis become pieces of their own, which are paired when all pieces are read. The
label of a link is read with delimiters of its own; that of a picture is read on its own.
-/

namespace MarkupCompiler.Markdown

structure Draft where
  pieces : Array Inline := #[]
  /-- Text that is no piece yet, the last character first. -/
  pending : Text := []
  delimiters : Array Delimiter := #[]

namespace Draft

/-- Makes the pending text a piece. -/
def flush (d : Draft) : Draft :=
  if d.pending.isEmpty then d
  else { d with pieces := d.pieces.push (.text d.pending.reverse), pending := [] }

def push (d : Draft) (piece : Inline) : Draft :=
  let d := d.flush
  { d with pieces := d.pieces.push piece }

/-- Adds a character of text. -/
def pushChar (d : Draft) (c : Char) : Draft := { d with pending := c :: d.pending }

/-- Adds the end of a line; two spaces before it, or more, break the line. -/
def pushBreak (d : Draft) : Draft :=
  let kept := d.pending.dropWhile (· == ' ')
  match d.pending with
  | ' ' :: ' ' :: _ => { d with pending := kept }.push .hardBreak
  | _ => { d with pending := kept }.push .softBreak

/-- Adds a delimiter of a run; lengths matter only where `length` is not zero. -/
def pushDelimiter (d : Draft) (marker : Char) (content : Text) (length : Nat) (flanks : Flanks) :
    Draft :=
  let d := d.push (.text content)
  let delimiter : Delimiter :=
    { marker, length, place := d.pieces.size - 1,
      canOpen := flanks.canOpen, canClose := flanks.canClose }
  { d with delimiters := d.delimiters.push delimiter }

/-- Adds delimiters of one run. -/
def pushDelimiters (marker : Char) (content : Text) (length : Nat) (flanks : Flanks) :
    (count : Nat) → Draft → Draft
  | 0, d => d
  | count + 1, d =>
    pushDelimiters marker content length flanks count
      (d.pushDelimiter marker content length flanks)

/-- Adds a run of `count` tildes, of which two make a delimiter. -/
def pushTildes (d : Draft) (count : Nat) (flanks : Flanks) : Draft :=
  let d := if count % 2 == 1 then d.push (.text ['~']) else d
  pushDelimiters '~' ['~', '~'] 0 flanks (count / 2) d

/-- The pieces with their emphasis. -/
def finish (d : Draft) : List Inline :=
  let d := d.flush
  resolveDelimiters d.delimiters d.pieces

end Draft

/-- A run of one character: what it may do, and the position after it. -/
def Source.flanks (s : Source) (c : Char) (limit i : Nat) : Flanks × Nat :=
  let next := s.runEnd (· == c) limit i
  let before := if i == 0 then ' ' else (s.at? (i - 1)).getD ' '
  let after := if next < limit then (s.at? next).getD ' ' else ' '
  (Flanks.of (c != '_') before after, next)

/-- The fewest tildes that strike text through. -/
def minTildes : Nat := 2

/-- Reads the pieces from position `i` up to a limit. Each step reads a character at least, and
the text inside of a piece is shorter than the piece, so `fuel` may be twice the length. -/
def Source.read : (fuel : Nat) → Source → (level limit i : Nat) → Draft → Recall (List Inline)
  | 0, _, _, _, _, draft => pure draft.finish
  | fuel + 1, s, level, limit, i, draft => do
    if limit ≤ i then pure draft.finish
    else
      let skipFuel := s.chars.size + 8 * maxSkipLevel
      let c := (s.at? i).getD ' '
      let asText := read fuel s level limit (i + 1) (draft.pushChar c)
      match c with
      | '\n' => read fuel s level limit (s.runEnd isIndent limit (i + 1)) draft.pushBreak
      | '\x60' =>
        let (code, next) ← s.code limit i
        let draft :=
          match code with
          | some content => draft.push (.code content)
          | none => { draft with pending := List.replicate (next - i) c ++ draft.pending }
        read fuel s level limit next draft
      | '~' =>
        let (flanks, next) := s.flanks c limit i
        if next - i < minTildes then asText
        else read fuel s level limit next (draft.pushTildes (next - i) flanks)
      | '*' | '_' =>
        let (flanks, next) := s.flanks c limit i
        read fuel s level limit next
          (Draft.pushDelimiters c [c] (next - i) flanks (next - i) draft)
      | '[' =>
        match ← link? skipFuel s level limit i with
        | some link =>
          let children ← read fuel s (level + 1) link.labelNext link.labelFirst {}
          read fuel s level limit link.next (draft.push (.link link.target children))
        | none => asText
      | '!' =>
        match ← image? skipFuel s level limit i with
        | some image =>
          let label := s.chars.extract image.labelFirst image.labelNext
          let inner : Source := { s with chars := label }
          let (children, _) := ((read fuel inner 0 label.size 0 {}).run {}).run
          read fuel s level limit image.next (draft.push (.image image.target children))
        | none => asText
      | _ =>
        match s.simple? limit i with
        | some (piece, next) => read fuel s level limit next (draft.push piece)
        | none => asText

/-- The pieces of a running text, whose links may use definitions. -/
def inlinesOf (definitions : Definitions) (t : Text) : List Inline :=
  let s : Source := { chars := t.toArray, definitions }
  ((s.read (2 * s.chars.size + 2) 0 s.chars.size 0 {}).run {}).run.1

end MarkupCompiler.Markdown
