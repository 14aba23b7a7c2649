import MarkupCompiler.Html.NamedCharacters
import MarkupCompiler.Number.IntegerText
import MarkupCompiler.Text.Digit

/-!
# Character references

A reference stands for a character by its number or its name. Numbers between 128 and 159 are read
in the Windows code page, where it has a character. In attribute values a reference needs no
semicolon, a name may be followed by other characters, and characters that HTML forbids vanish.
-/

namespace MarkupCompiler.Html.Reference

def windowsCodes : List (Nat × Nat) :=
  [(0x80, 0x20AC), (0x82, 0x201A), (0x83, 0x192), (0x84, 0x201E), (0x85, 0x2026), (0x86, 0x2020),
    (0x87, 0x2021), (0x88, 0x2C6), (0x89, 0x2030), (0x8A, 0x160), (0x8B, 0x2039), (0x8C, 0x152),
    (0x8E, 0x17D), (0x91, 0x2018), (0x92, 0x2019), (0x93, 0x201C), (0x94, 0x201D),
    (0x95, 0x2022), (0x96, 0x2013), (0x97, 0x2014), (0x98, 0x2DC), (0x99, 0x2122),
    (0x9A, 0x161), (0x9B, 0x203A), (0x9C, 0x153), (0x9E, 0x17E), (0x9F, 0x178)]

def character (n : Nat) : Char :=
  if n == 0 || !n.isValidChar then Text.replacement
  else Char.ofNat ((windowsCodes.lookup n).getD n)

/-- Whether an attribute value leaves out the character with a number. -/
def isForbidden (n : Nat) : Bool :=
  (1 ≤ n && n ≤ 0x8) || n == 0xB || (0xE ≤ n && n ≤ 0x1F) || n == 0x7F ||
    (0xFDD0 ≤ n && n ≤ 0xFDEF) || n % 0x10000 == 0xFFFE || n % 0x10000 == 0xFFFF

def attributeCharacter (n : Nat) : Text :=
  if n.isValidChar && isForbidden n then [] else [character n]

/-- Digits after `#`, of base ten or sixteen. -/
structure Digits where
  isHexadecimal : Bool
  digits : Text
  deriving Repr, DecidableEq

/-- The digits at the start of a text that follows `#`, and the text after them. -/
def digits? (t : Text) : Option (Digits × Text) :=
  let (isHex, body) :=
    match t with
    | 'x' :: rest => (true, rest)
    | 'X' :: rest => (true, rest)
    | _ => (false, t)
  let isDigit := if isHex then Text.isHexDigit else Char.isDigit
  let digits := body.takeWhile isDigit
  if digits.isEmpty then none else some (⟨isHex, digits⟩, body.dropWhile isDigit)

/-- The number that digits stand for; of decimal digits there may not be too many. -/
def Digits.value (d : Digits) : Except IntegerFault Nat :=
  let base := if d.isHexadecimal then 16 else 10
  if !d.isHexadecimal && d.digits.length > IntegerText.maxDigits then
    .error (.tooLong d.digits.length)
  else .ok (Text.digitsValue base d.digits)

def dropSemicolon : Text → Text
  | ';' :: rest => rest
  | t => t

def isNameChar (c : Char) : Bool :=
  !(c == '\t' || c == '\n' || c == '\x0c' || c == ' ' || c == '<' || c == '&' || c == '#' ||
    c == ';')

def maxNameLength : Nat := 32

/-- A name whose first `length` characters, or fewer, may be an old name. -/
def legacyStart (name : Text) : Nat → Text
  | 0 | 1 => '&' :: name
  | length + 1 =>
    match legacyCharacters? (String.ofList (name.take (length + 1))) with
    | some cs => cs ++ name.drop (length + 1)
    | none => legacyStart name length

/-- What a name stands for; a name that is unknown even in its beginnings stands for itself. -/
def named (name : Text) (isClosed : Bool) : Text :=
  let known :=
    if isClosed then namedCharacters? (String.ofList name)
    else legacyCharacters? (String.ofList name)
  match known with
  | some cs => cs
  | none =>
    if isClosed then legacyStart (name ++ [';']) name.length
    else legacyStart name (name.length - 1)

/-- A piece of an attribute value that follows an ampersand and holds none itself. -/
def decodePiece (piece : Text) : Except IntegerFault Text :=
  match piece with
  | '#' :: rest =>
    match digits? rest with
    | none => .ok ('&' :: piece)
    | some (digits, after) =>
      digits.value.map fun n => attributeCharacter n ++ dropSemicolon after
  | _ =>
    let name := (piece.take maxNameLength).takeWhile isNameChar
    let after := piece.drop name.length
    if name.isEmpty then .ok ('&' :: piece)
    else .ok (named name (after.head? == some ';') ++ dropSemicolon after)

/-- Pieces that each follow an ampersand. -/
def decodePieces : List Text → Except IntegerFault Text
  | [] => .ok []
  | piece :: pieces =>
    match decodePiece piece with
    | .error fault => .error fault
    | .ok decoded => (decodePieces pieces).map (decoded ++ ·)

def decode (value : Text) : Except IntegerFault Text :=
  match Text.split '&' value with
  | [] => .ok []
  | first :: pieces => (decodePieces pieces).map (first ++ ·)

end MarkupCompiler.Html.Reference
