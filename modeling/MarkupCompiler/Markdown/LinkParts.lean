import MarkupCompiler.Markdown.Escape
import MarkupCompiler.Text.Basic
import MarkupCompiler.Text.Case

/-!
# Parts of links

A link has a destination, which stands in angle brackets or has balanced parentheses, and may have
a title in quotes or parentheses. Labels are compared without regard to case and to the blanks
in them.
-/

namespace MarkupCompiler.Markdown

/-- A destination in angle brackets up to the closing one; the opening one is read. -/
def angledDestination? : Text → Option (Text × Text)
  | [] => none
  | '\\' :: c :: rest =>
    (angledDestination? rest).map fun (raw, after) => ('\\' :: c :: raw, after)
  | c :: rest =>
    if c == '\n' || c == '<' then none
    else if c == '>' then some ([], rest)
    else (angledDestination? rest).map fun (raw, after) => (c :: raw, after)

/-- How deep parentheses may be nested in a destination. -/
def maxParentheses : Nat := 32

/-- A destination without brackets; `depth` counts the open parentheses. -/
def bareDestination? : (depth : Nat) → Text → Option (Text × Text)
  | depth, [] => if depth == 0 then some ([], []) else none
  | depth, '\\' :: c :: rest =>
    if c == ' ' then if depth == 0 then some ([], '\\' :: c :: rest) else none
    else (bareDestination? depth rest).map fun (raw, after) => ('\\' :: c :: raw, after)
  | depth, c :: rest =>
    let isEnd := c.toNat ≤ 0x20 || c.toNat == 0x7F || (c == ')' && depth == 0)
    if isEnd then if depth == 0 then some ([], c :: rest) else none
    else if c == '(' && maxParentheses ≤ depth then none
    else
      let inner := if c == '(' then depth + 1 else if c == ')' then depth - 1 else depth
      (bareDestination? inner rest).map fun (raw, after) => (c :: raw, after)

def destination? : Text → Option (Text × Text)
  | '<' :: rest => (angledDestination? rest).map fun (raw, after) => (unescape raw, after)
  | t =>
    match bareDestination? 0 t with
    | some (raw, after) => if raw.isEmpty then none else some (unescape raw, after)
    | none => none

/-- What reading the start of a text gives, where more lines may follow the text. -/
inductive Partial (α : Type) where
  /-- The text does not begin with what is read. -/
  | failed
  /-- The text ends too early. -/
  | unfinished
  | done (value : α) (rest : Text)
  deriving Repr, DecidableEq

/-- Changes what was read. -/
def Partial.map {α β : Type} (f : α → β) : Partial α → Partial β
  | .failed => .failed
  | .unfinished => .unfinished
  | .done value rest => .done (f value) rest

def upTo (close refused : Char) : Text → Partial Text
  | [] => .unfinished
  | '\\' :: c :: rest => (upTo close refused rest).map ('\\' :: c :: ·)
  | c :: rest =>
    if c == close then .done [] rest
    else if c == refused then .failed
    else (upTo close refused rest).map (c :: ·)

def title : Text → Partial Text
  | '"' :: rest => (upTo '"' '"' rest).map unescape
  | '\'' :: rest => (upTo '\'' '\'' rest).map unescape
  | '(' :: rest => (upTo ')' '(' rest).map unescape
  | _ => .failed

/-- A label without its brackets; the opening one is read. -/
def label (t : Text) : Partial Text := upTo ']' '[' t

/-- Every run of blanks becomes one space; the flag says that the last character was one. -/
def collapseBlanks : (inRun : Bool) → Text → Text
  | _, [] => []
  | inRun, c :: rest =>
    if Text.isBlank c then
      if inRun then collapseBlanks true rest else ' ' :: collapseBlanks true rest
    else c :: collapseBlanks false rest

/-- The form in which labels are compared. -/
def normalizeLabel (t : Text) : Text :=
  Text.upper (Text.lower (collapseBlanks false (Text.trimBlank t)))

structure Target where
  destination : Text
  title : Text := []
  deriving Repr, DecidableEq, Inhabited

/-- The targets that a text defines, each with its label in the form for comparison. -/
abbrev Definitions := List (Text × Target)

/-- Adds a definition; of two with one label the earlier stays. -/
def Definitions.add (ds : Definitions) (label : Text) (target : Target) : Definitions :=
  if (ds.lookup label).isSome then ds else ds ++ [(label, target)]

end MarkupCompiler.Markdown
