import MarkupCompiler.Json.Value

/-!
# Writing JSON

Text is written in ASCII: other characters become escapes of their UTF-16 units. Two layouts are
offered, one on a single line and one with members and items on lines of their own, indented by
two spaces for each level. Infinite values and not-a-number are written as bare words.
-/

namespace MarkupCompiler.Json

def unitEscape (unit : Nat) : Text := '\\' :: 'u' :: Text.hexDigits 4 unit

/-- One character inside a string. -/
def escapedChar (c : Char) : Text :=
  let n := c.toNat
  if c == '"' then ['\\', '"']
  else if c == '\\' then ['\\', '\\']
  else if c == '\n' then ['\\', 'n']
  else if c == '\r' then ['\\', 'r']
  else if c == '\t' then ['\\', 't']
  else if n == 0x08 then ['\\', 'b']
  else if n == 0x0C then ['\\', 'f']
  else if 0x20 ≤ n && n ≤ 0x7E then [c]
  else if n < 0x10000 then unitEscape n
  else unitEscape (0xD800 + (n - 0x10000) / 0x400) ++ unitEscape (0xDC00 + (n - 0x10000) % 0x400)

def writeString (s : String) : String :=
  String.ofList ('"' :: s.toList.flatMap escapedChar ++ ['"'])

/-- A value that has no parts; brackets alone for an empty array or object. -/
def writeAtom : Json → String
  | .null => "null"
  | .bool true => "true"
  | .bool false => "false"
  | .int n => toString n
  | .float x => DecimalNotation.write .json x
  | .str s => writeString s
  | .arr _ => "[]"
  | .obj _ => "\x7b\x7d"

/-- How the parts of an array or object are set apart. -/
inductive Layout where
  | compact
  | indented
  deriving Repr, DecidableEq

def Layout.lineBreak (layout : Layout) (depth : Nat) : String :=
  match layout with
  | .compact => ""
  | .indented => String.ofList ('\n' :: List.replicate (2 * depth) ' ')

/-- What stands between two parts at a given depth. -/
def Layout.separator (layout : Layout) (depth : Nat) : String :=
  match layout with
  | .compact => ", "
  | .indented => "," ++ layout.lineBreak depth

mutual

/-- Writes a value whose parts stand one level below `depth`. -/
def write (layout : Layout) (depth : Nat) : Json → String
  | .arr (item :: items) =>
    "[" ++ layout.lineBreak (depth + 1) ++ write layout (depth + 1) item ++
      writeItems layout (depth + 1) items ++ layout.lineBreak depth ++ "]"
  | .obj ((name, value) :: members) =>
    "\x7b" ++ layout.lineBreak (depth + 1) ++ writeString name ++ ": " ++
      write layout (depth + 1) value ++ writeMembers layout (depth + 1) members ++
      layout.lineBreak depth ++ "\x7d"
  | .null => writeAtom .null
  | .bool b => writeAtom (.bool b)
  | .int n => writeAtom (.int n)
  | .float x => writeAtom (.float x)
  | .str s => writeAtom (.str s)
  | .arr [] => writeAtom (.arr [])
  | .obj [] => writeAtom (.obj [])

/-- The items after the first. -/
def writeItems (layout : Layout) (depth : Nat) : List Json → String
  | [] => ""
  | item :: items =>
    layout.separator depth ++ write layout depth item ++ writeItems layout depth items

/-- The members after the first. -/
def writeMembers (layout : Layout) (depth : Nat) : List (String × Json) → String
  | [] => ""
  | (name, value) :: members =>
    layout.separator depth ++ writeString name ++ ": " ++ write layout depth value ++
      writeMembers layout depth members

end

def compact (value : Json) : String := write .compact 0 value

/-- A value on several lines, indented by two spaces for each level. -/
def pretty (value : Json) : String := write .indented 0 value

end MarkupCompiler.Json
