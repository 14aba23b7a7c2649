/-!
# Text as a list of code points

Every length, offset and index of this library counts code points, so text is a list of
characters. HTML whitespace is the five ASCII characters that markup collapses; a no-break
space is not among them and survives as text. Blank characters are a larger set: those with the
Unicode property White_Space, together with the four ASCII information separators. Attribute
values, document identifiers and settings are trimmed of them.
-/

namespace MarkupCompiler

/-- Document text, one entry per code point. -/
abbrev Text := List Char

namespace Text

/-- What stands for a character that does not exist. -/
def replacement : Char := Char.ofNat 0xFFFD

/-- A space, tab, line feed, carriage return or form feed. -/
def isSpace (c : Char) : Bool :=
  c == ' ' || c == '\t' || c == '\n' || c == '\r' || c == '\x0c'

/-- Drops the longest prefix whose characters all satisfy `p`. -/
def trimStart (p : Char → Bool) (t : Text) : Text := t.dropWhile p

/-- Drops the longest suffix whose characters all satisfy `p`. -/
def trimEnd (p : Char → Bool) : Text → Text
  | [] => []
  | c :: rest =>
    match trimEnd p rest with
    | [] => if p c then [] else [c]
    | kept => c :: kept

/-- Drops matching characters at both ends. -/
def trim (p : Char → Bool) (t : Text) : Text := trimEnd p (trimStart p t)

/-- Collapses runs of HTML whitespace; the flag says that the previous character was one. -/
def collapseFrom : Bool → Text → Text
  | _, [] => []
  | inRun, c :: rest =>
    if isSpace c then
      if inRun then collapseFrom true rest else ' ' :: collapseFrom true rest
    else
      c :: collapseFrom false rest

/-- Every maximal run of HTML whitespace becomes one space. -/
def collapse (t : Text) : Text := collapseFrom false t

/-- Whitespace normal form of one line: runs collapsed, both ends trimmed. -/
def normalize (t : Text) : Text := trim (· == ' ') (collapse t)

/-- The pieces between occurrences of `sep`; there is always at least one. -/
def split (sep : Char) : Text → List Text
  | [] => [[]]
  | c :: rest =>
    if c == sep then [] :: split sep rest
    else
      match split sep rest with
      | [] => [[c]]
      | piece :: pieces => (c :: piece) :: pieces

/-- What stands before and after the first `sep`, if there is one. -/
def splitFirst? (sep : Char) : Text → Option (Text × Text)
  | [] => none
  | c :: rest =>
    if c == sep then some ([], rest)
    else (splitFirst? sep rest).map fun (before, after) => (c :: before, after)

/-- The pieces one after another with `sep` between them. -/
def join (sep : Text) : List Text → Text
  | [] => []
  | [piece] => piece
  | piece :: pieces => piece ++ sep ++ join sep pieces

/-- Whether the last character satisfies `p`; false for the empty text. -/
def endsWith (p : Char → Bool) (t : Text) : Bool := t.getLast?.any p

/-- Whether the first character satisfies `p`; false for the empty text. -/
def beginsWith (p : Char → Bool) (t : Text) : Bool := t.head?.any p

def isBlank (c : Char) : Bool :=
  let n := c.toNat
  (0x09 ≤ n && n ≤ 0x0D) || (0x1C ≤ n && n ≤ 0x20) || n == 0x85 || n == 0xA0 || n == 0x1680 ||
    (0x2000 ≤ n && n ≤ 0x200A) || n == 0x2028 || n == 0x2029 || n == 0x202F || n == 0x205F ||
    n == 0x3000

/-- Drops blank characters at both ends. -/
def trimBlank (t : Text) : Text := trim isBlank t

/-- Whether a code point lies in one of the ranges, both ends included. -/
def inRanges (ranges : List (Nat × Nat)) (n : Nat) : Bool :=
  ranges.any fun (first, last) => first ≤ n && n ≤ last

end Text

end MarkupCompiler
