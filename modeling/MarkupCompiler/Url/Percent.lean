import MarkupCompiler.Text.Digit

/-!
# Percent coding

A byte of a link is written as a percent sign and two hexadecimal digits. Encoding leaves alone
letters, digits, the characters that structure a link and escapes that are already there. Decoding
reads bytes as UTF-8, but leaves the characters that structure a link escaped.
-/

namespace MarkupCompiler.Url

def utf8 (c : Char) : List Nat :=
  let n := c.toNat
  if n < 0x80 then [n]
  else if n < 0x800 then [0xC0 + n / 0x40, 0x80 + n % 0x40]
  else if n < 0x10000 then [0xE0 + n / 0x1000, 0x80 + n / 0x40 % 0x40, 0x80 + n % 0x40]
  else [0xF0 + n / 0x40000, 0x80 + n / 0x1000 % 0x40, 0x80 + n / 0x40 % 0x40, 0x80 + n % 0x40]

/-- The value of a hexadecimal digit as a character, a letter in upper case. -/
def escapeDigit (n : Nat) : Char := Char.ofNat (if n < 10 then 0x30 + n else 0x37 + n)

def escapeByte (b : Nat) : Text := ['%', escapeDigit (b / 16), escapeDigit (b % 16)]

/-- The symbols that encoding leaves alone. -/
def keptSymbols : Text := ";/?:@&=+$,-_.!~*'()#".toList

def encodeChar (c : Char) : Text :=
  if c.isAlphanum || keptSymbols.contains c then [c] else (utf8 c).flatMap escapeByte

/-- A link with all characters escaped that may not stand in one. -/
def encode : Text → Text
  | [] => []
  | '%' :: a :: b :: rest =>
    if Text.isHexDigit a && Text.isHexDigit b then '%' :: a :: b :: encode rest
    else encodeChar '%' ++ encode (a :: b :: rest)
  | c :: rest => encodeChar c ++ encode rest

/-- The characters whose escapes decoding leaves alone. -/
def keptEscapes : Text := ";/?:@&=+$,#%".toList

/-- A byte below 128 as it stands in a decoded link. -/
def decodeAscii (b : Nat) : Text :=
  let c := Char.ofNat b
  if keptEscapes.contains c then escapeByte b else [c]

/-- How many bytes should follow a first byte; none follow a byte that begins no sequence. -/
def followingCount (b : Nat) : Nat :=
  if b / 0x20 == 6 then 1 else if b / 0x10 == 0xE then 2 else if b / 8 == 0x1E then 3 else 0

/-- The least code point that needs a number of following bytes. -/
def leastWith : Nat → Nat
  | 0 => 0
  | 1 => 0x80
  | 2 => 0x800
  | _ => 0x10000

/-- The code point of a first byte and the bytes that follow it. -/
def codePoint (b : Nat) (following : List Nat) : Nat :=
  following.foldl (fun n f => 0x40 * n + f % 0x40) (b % Nat.pow 2 (6 - following.length))

/-- A sequence of bytes; one that stands for no character becomes a replacement for each byte. -/
def decodeSequence (b : Nat) (following : List Nat) : Text :=
  let n := codePoint b following
  if leastWith following.length ≤ n && n.isValidChar then [Char.ofNat n]
  else List.replicate (following.length + 1) Text.replacement

/-- Bytes as text; a byte that belongs to no sequence becomes a replacement. -/
def decodeBytes : List Nat → Text
  | [] => []
  | b :: rest =>
    let count := followingCount b
    let following := rest.take count
    if b < 0x80 then decodeAscii b ++ decodeBytes rest
    else if count == 0 || following.length < count || following.any (fun f => f / 0x40 != 2) then
      Text.replacement :: decodeBytes rest
    else decodeSequence b following ++ decodeBytes (rest.drop count)
termination_by bytes => bytes.length
decreasing_by all_goals simp only [List.length_cons, List.length_drop]; omega

/-- The rest of a link; `run` holds the escaped bytes just before it, latest first. -/
def decodeFrom (run : List Nat) : Text → Text
  | [] => decodeBytes run.reverse
  | '%' :: a :: b :: rest =>
    match Text.hexValue? a, Text.hexValue? b with
    | some high, some low => decodeFrom ((16 * high + low) :: run) rest
    | _, _ => decodeBytes run.reverse ++ '%' :: decodeFrom [] (a :: b :: rest)
  | c :: rest => decodeBytes run.reverse ++ c :: decodeFrom [] rest

/-- A link with its escapes replaced by the characters that they stand for. -/
def decode (t : Text) : Text := decodeFrom [] t

end MarkupCompiler.Url
