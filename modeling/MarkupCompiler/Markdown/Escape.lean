import MarkupCompiler.Html.NamedCharacters
import MarkupCompiler.Text.Digit
import MarkupCompiler.Text.Punctuation

/-!
# Escapes

A backslash takes the meaning from the ASCII punctuation after it. An ampersand may begin a
reference to a character by its name or its number, and the semicolon is never left out. A
number for which no character may stand is read in running text and left alone in links.
-/

namespace MarkupCompiler.Markdown

/-- Whether a character may be given by its number: no control, surrogate or noncharacter. -/
def isReferable (n : Nat) : Bool :=
  n.isValidChar && !(n ≤ 0x8) && n != 0xB && !(0xE ≤ n && n ≤ 0x1F) && !(0x7F ≤ n && n ≤ 0x9F) &&
    !(0xFDD0 ≤ n && n ≤ 0xFDEF) && n % 0x10000 != 0xFFFE && n % 0x10000 != 0xFFFF

structure DigitLimits where
  hexadecimal : Nat
  decimal : Nat

def textLimits : DigitLimits := ⟨6, 7⟩

def linkLimits : DigitLimits := ⟨8, 8⟩

/-- The number in a reference whose `&#` stands just before, and the text after the reference. -/
def referenceNumber? (limits : DigitLimits) (t : Text) : Option (Nat × Text) :=
  let (base, limit, body) :=
    match t with
    | 'x' :: rest | 'X' :: rest => (16, limits.hexadecimal, rest)
    | _ => (10, limits.decimal, t)
  let digits := body.takeWhile fun c => if base == 16 then Text.isHexDigit c else c.isDigit
  match body.drop digits.length with
  | ';' :: rest =>
    if digits.isEmpty || limit < digits.length then none
    else some (Text.digitsValue base digits, rest)
  | _ => none

/-- The most characters of a name in a reference. -/
def maxNameLength : Nat := 32

/-- The characters named by a reference whose `&` stands just before, and the text after it. -/
def referenceName? (t : Text) : Option (Text × Text) :=
  let name := t.takeWhile Char.isAlphanum
  match t.drop name.length with
  | ';' :: rest =>
    if maxNameLength < name.length then none
    else (Html.namedCharacters? (String.ofList name)).map fun image => (image, rest)
  | _ => none

/-- The reference whose `&` stands just before, in running text. -/
def textReference? : Text → Option (Text × Text)
  | '#' :: t =>
    (referenceNumber? textLimits t).map fun (n, rest) =>
      ([if isReferable n then Char.ofNat n else Text.replacement], rest)
  | t => referenceName? t

/-- The reference whose `&` stands just before, in a link. -/
def linkReference? : Text → Option (Text × Text)
  | '#' :: t =>
    match referenceNumber? linkLimits t with
    | some (n, rest) => if isReferable n then some ([Char.ofNat n], rest) else none
    | none => none
  | t => referenceName? t

/-- The meaning of an escape or reference at the start of a text, and how long it is. -/
def escapeAt? : Text → Option (Text × Nat)
  | '\\' :: c :: _ => if Text.isAsciiPunctuation c then some ([c], 2) else none
  | '&' :: t => (linkReference? t).map fun (image, rest) => (image, t.length + 1 - rest.length)
  | _ => none

/-- The meaning of a text whose first characters, already read, are skipped. -/
def unescapeFrom : (skip : Nat) → Text → Text
  | _, [] => []
  | skip + 1, _ :: rest => unescapeFrom skip rest
  | 0, c :: rest =>
    match escapeAt? (c :: rest) with
    | some (image, length) => image ++ unescapeFrom (length - 1) rest
    | none => c :: unescapeFrom 0 rest

/-- The text with escapes and references replaced by what they stand for. -/
def unescape (t : Text) : Text := unescapeFrom 0 t

end MarkupCompiler.Markdown
