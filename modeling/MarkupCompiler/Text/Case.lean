import MarkupCompiler.Text.Basic
import MarkupCompiler.Text.CaseTable

/-!
# Lower and upper case

Full Unicode case mapping. ASCII letters are mapped by arithmetic; other characters by the case
tables. A capital sigma at the end of a word becomes a final sigma, and a capital I with a dot
becomes two characters.
-/

namespace MarkupCompiler.Text

def lowerAsciiChar (c : Char) : Char :=
  if 'A' ≤ c && c ≤ 'Z' then Char.ofNat (c.toNat + 32) else c

def lowerChar (c : Char) : Text :=
  if c.toNat < 0x80 then [lowerAsciiChar c]
  else if c.toNat == 0x130 then ['i', Char.ofNat 0x307]
  else
    match applyShift? lowerShifts c.toNat with
    | some n => [Char.ofNat n]
    | none => [c]

/-- Whether a word goes on with a cased character, looking past ignorable ones. -/
def meetsCased : Text → Bool
  | [] => false
  | c :: rest =>
    if inRanges caseIgnorableRanges c.toNat then meetsCased rest
    else inRanges casedRanges c.toNat

/-- Lower case of the rest of a text; `before` holds what was read, latest first. -/
def lowerFrom (before : Text) : Text → Text
  | [] => []
  | c :: rest =>
    let image :=
      if c.toNat == 0x3A3 && meetsCased before && !meetsCased rest then [Char.ofNat 0x3C2]
      else lowerChar c
    image ++ lowerFrom (c :: before) rest

def lower (t : Text) : Text := lowerFrom [] t

def upperChar (c : Char) : Text :=
  if c.toNat < 0x80 then [if 'a' ≤ c && c ≤ 'z' then Char.ofNat (c.toNat - 32) else c]
  else
    match upperExpansions.find? fun (n, _) => n == c.toNat with
    | some (_, image) => image.map Char.ofNat
    | none =>
      match applyShift? upperShifts c.toNat with
      | some n => [Char.ofNat n]
      | none => [c]

def upper (t : Text) : Text := t.flatMap upperChar

def lowerName (name : String) : String := String.ofList (lower name.toList)

end MarkupCompiler.Text
