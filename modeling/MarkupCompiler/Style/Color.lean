import MarkupCompiler.Json.Value
import MarkupCompiler.Text.Basic
import MarkupCompiler.Text.Digit

/-!
# Colours

A colour has three channels between 0 and 1. It is written in markup as `#` and three or six
hexadecimal digits; three digits stand for six with each one doubled.
-/

namespace MarkupCompiler

/-- A colour with each channel between 0 and 1. -/
structure Color where
  red : Float
  green : Float
  blue : Float
  deriving Repr, DecidableEq

namespace Color

/-- The values of the characters, if all of them are hexadecimal digits. -/
def nibbles? : Text → Option (List Nat)
  | [] => some []
  | c :: rest => do
    let d ← Text.hexValue? c
    let ds ← nibbles? rest
    some (d :: ds)

/-- A channel from its two hexadecimal digits. -/
def channel (high low : Nat) : Float := Float.ofNat (16 * high + low) / 255.0

def ofHex? (value : Text) : Option Color :=
  match Text.trimBlank value with
  | '#' :: digits =>
    match nibbles? digits with
    | some [r, g, b] => some ⟨channel r r, channel g g, channel b b⟩
    | some [r, r', g, g', b, b'] => some ⟨channel r r', channel g g', channel b b'⟩
    | _ => none
  | _ => none

/-- The colour as the document service takes it. -/
def toJson (c : Color) : Json :=
  .obj [("color", .obj [("rgbColor",
    .obj [("red", .float c.red), ("green", .float c.green), ("blue", .float c.blue)])])]

end Color

end MarkupCompiler
