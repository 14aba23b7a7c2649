import MarkupCompiler.Markdown.Source

/-!
# Where links begin and end

To find the end of a label, the pieces in it are skipped one by one, so that brackets in code or
markup do not count. What a position skips to is remembered. Labels in labels are followed only to
a certain depth; deeper text is skipped to its end.
-/

namespace MarkupCompiler.Markdown

/-- How deep pieces may be nested that are skipped. -/
def maxSkipLevel : Nat := 20

/-- A link or picture: where its label stands, where it leads, and the position after it. -/
structure LinkReading where
  labelFirst : Nat
  labelNext : Nat
  target : Target
  next : Nat
  deriving Repr, Inhabited

/-- The characters that may begin a piece or stand alone. -/
def specialChars : Text := "\n!#$%&*+-:<=>@[\\]^_\x60\x7b\x7d~".toList

/-- Whether a character never begins a piece. -/
def isPlainChar (c : Char) : Bool := !specialChars.contains c

/-- What may stand around the parts of a link in parentheses. -/
def isLinkGap (c : Char) : Bool := isIndent c || c == '\n'

/-- The destination after an opening parenthesis and blanks, if it may be followed, and the text
after it. -/
def allowedDestination (t : Text) : Text × Text :=
  match destination? t with
  | some (raw, rest) =>
    let link := Url.normalize raw
    if Url.isAllowed link then (link, rest) else ([], t)
  | none => ([], t)

/-- The title after a destination, with blanks before and after it. -/
def inlineTitle (t : Text) : Text × Text :=
  let start := t.dropWhile isLinkGap
  if start.length == t.length then ([], start)
  else
    match title start with
    | .done value rest => (value, rest.dropWhile isLinkGap)
    | _ => ([], start)

/-- The target of a link that stands in parentheses, and the text from where the closing one is
expected; `none` if nothing but blanks follows the opening one. -/
def inlineTarget? (t : Text) : Option (Target × Text) :=
  let start := t.dropWhile isLinkGap
  if start.isEmpty then none
  else
    let (destination, rest) := allowedDestination start
    let (title, rest) := inlineTitle rest
    some ({ destination, title }, rest)

mutual

/-- The position after the piece at position `i`. -/
def skip : (fuel : Nat) → Source → (level limit i : Nat) → Recall Nat
  | 0, _, _, limit, _ => pure (limit + 1)
  | fuel + 1, s, level, limit, i => do
    let m ← get
    match m.skips[i]? with
    | some next => pure next
    | none =>
      let next ←
        if maxSkipLevel ≤ level then pure (limit + 1)
        else
          match s.at? i with
          | some '\n' => pure (s.runEnd isIndent limit (i + 1))
          | some '\x60' => pure (← s.code limit i).2
          | some '[' =>
            match ← link? fuel s (level + 1) limit i with
            | some reading => pure reading.next
            | none => pure (i + 1)
          | some '!' =>
            match ← image? fuel s (level + 1) limit i with
            | some reading => pure reading.next
            | none => pure (i + 1)
          | _ =>
            match s.simple? limit i with
            | some (_, next) => pure next
            | none => pure (max (i + 1) (s.runEnd isPlainChar limit i))
      remember i next
where
  /-- Remembers the position after a piece. -/
  remember (i next : Nat) : Recall Nat := do
    modify fun m => { m with skips := m.skips.insert i next }
    pure next

/-- The end of a label inside of which position `i` is, with `depth` brackets open. A label that
may hold no link has no end if there is one in it. -/
def labelEnd : (fuel : Nat) → Source → (level limit : Nat) → (mayHoldLinks : Bool) →
    (depth i : Nat) → Recall (Option Nat)
  | 0, _, _, _, _, _, _ => pure none
  | fuel + 1, s, level, limit, mayHoldLinks, depth, i => do
    if limit ≤ i then pure none
    else
      let c := s.at? i
      let depth := if c == some ']' then depth - 1 else depth
      if depth == 0 then pure (some i)
      else
        let next ← skip fuel s level limit i
        if c != some '[' then labelEnd fuel s level limit mayHoldLinks depth next
        else if next == i + 1 then labelEnd fuel s level limit mayHoldLinks (depth + 1) next
        else if mayHoldLinks then labelEnd fuel s level limit mayHoldLinks depth next
        else pure none

/-- The target of a label that is defined elsewhere: by the label in brackets at position `i`, or
else by itself. -/
def definedTarget? : (fuel : Nat) → Source → (level limit first last i : Nat) →
    Recall (Option LinkReading)
  | 0, _, _, _, _, _, _ => pure none
  | fuel + 1, s, level, limit, first, last, i => do
    if s.definitions.isEmpty then pure none
    else
      let second ←
        if s.has '[' limit i then labelEnd fuel s level limit true 1 (i + 1) else pure none
      let (named, next) :=
        match second with
        | some stop => (s.slice (i + 1) stop, stop + 1)
        | none => ([], last + 1)
      let name := if named.isEmpty then s.slice first last else named
      pure ((s.definitions.lookup (normalizeLabel name)).map fun target =>
        { labelFirst := first, labelNext := last, target, next })

def link? : (fuel : Nat) → Source → (level limit i : Nat) → Recall (Option LinkReading)
  | 0, _, _, _, _ => pure none
  | fuel + 1, s, level, limit, i => do
    match ← labelEnd fuel s level limit false 1 (i + 1) with
    | none => pure none
    | some last =>
      if s.has '(' limit (last + 1) then
        match inlineTarget? (s.slice (last + 2) limit) with
        | none => pure none
        | some (target, rest) =>
          let next := limit - rest.length + 1
          if rest.head? == some ')' then
            pure (some { labelFirst := i + 1, labelNext := last, target, next })
          else definedTarget? fuel s level limit (i + 1) last next
      else definedTarget? fuel s level limit (i + 1) last (last + 1)

/-- The picture at position `i`. -/
def image? : (fuel : Nat) → Source → (level limit i : Nat) → Recall (Option LinkReading)
  | 0, _, _, _, _ => pure none
  | fuel + 1, s, level, limit, i => do
    if !s.has '[' limit (i + 1) then pure none
    else
      match ← labelEnd fuel s level limit true 1 (i + 2) with
      | none => pure none
      | some last =>
        if s.has '(' limit (last + 1) then
          match inlineTarget? (s.slice (last + 2) limit) with
          | none => pure none
          | some (target, rest) =>
            let next := limit - rest.length + 1
            if rest.head? == some ')' then
              pure (some { labelFirst := i + 2, labelNext := last, target, next })
            else pure none
        else definedTarget? fuel s level limit (i + 2) last (last + 1)

end

end MarkupCompiler.Markdown
