import MarkupCompiler.Json.Value
import MarkupCompiler.Text.Digit

/-!
# Reading JSON

A number with a point or an exponent is a fraction and any other number an integer, which must not
have too many digits. In the extended dialect the bare words for infinity and not-a-number are read
as well. A repeated member name keeps its first place and takes the last value.
-/

namespace MarkupCompiler.Json

/-- Drops blanks before a token. -/
def skipBlanks (t : Text) : Text :=
  Text.trimStart (fun c => c == ' ' || c == '\t' || c == '\n' || c == '\r') t

def afterWord? : List Char → Text → Option Text
  | [], t => some t
  | w :: word, c :: rest => if w == c then afterWord? word rest else none
  | _ :: _, [] => none

/-- The UTF-16 unit of four hexadecimal digits. -/
def unit? : Text → Option (Nat × Text)
  | a :: b :: c :: d :: rest => do
    let a ← Text.hexValue? a
    let b ← Text.hexValue? b
    let c ← Text.hexValue? c
    let d ← Text.hexValue? d
    some (((a * 16 + b) * 16 + c) * 16 + d, rest)
  | _ => none

/-- The character of a Unicode escape, whose first unit may need a second one. -/
def escapedUnit? (t : Text) : Option (Char × Text) := do
  let (high, rest) ← unit? t
  match high / 0x400 == 0x36, rest with
  | true, '\\' :: 'u' :: more =>
    match unit? more with
    | some (low, after) =>
      if low / 0x400 == 0x37 then
        some (Char.ofNat (0x10000 + (high - 0xD800) * 0x400 + (low - 0xDC00)), after)
      else some (Char.ofNat high, rest)
    | none => some (Char.ofNat high, rest)
  | _, _ => some (Char.ofNat high, rest)

def escapedLetter? (c : Char) : Option Char :=
  match c with
  | '"' | '\\' | '/' => some c
  | 'b' => some (Char.ofNat 0x08)
  | 'f' => some (Char.ofNat 0x0C)
  | 'n' => some '\n'
  | 'r' => some '\r'
  | 't' => some '\t'
  | _ => none

/-- The characters of a string up to its closing quote; `fuel` bounds their number. -/
def string? : Nat → Text → Option (Text × Text)
  | 0, _ => none
  | _ + 1, [] => none
  | fuel + 1, c :: rest =>
    if c == '"' then some ([], rest)
    else if c == '\\' then
      match rest with
      | 'u' :: digits => do
        let (c, after) ← escapedUnit? digits
        let (cs, rest) ← string? fuel after
        some (c :: cs, rest)
      | letter :: after => do
        let c ← escapedLetter? letter
        let (cs, rest) ← string? fuel after
        some (c :: cs, rest)
      | [] => none
    else do
      let (cs, rest) ← string? fuel rest
      some (c :: cs, rest)

/-- Digits, at least one, and the text after them. -/
def digits? (t : Text) : Option (Text × Text) :=
  match t.takeWhile Char.isDigit with
  | [] => none
  | ds => some (ds, t.dropWhile Char.isDigit)

/-- Splits a minus from what follows; true is minus. -/
def minus : Text → Bool × Text
  | '-' :: rest => (true, rest)
  | t => (false, t)

/-- The whole part of a number: zero alone, or digits that do not begin with zero. -/
def wholePart? : Text → Option (Text × Text)
  | '0' :: rest => some (['0'], rest)
  | t => digits? t

/-- The digits after a point, if there are a point and digits. -/
def fractionPart : Text → Text × Text
  | '.' :: rest => (digits? rest).getD ([], '.' :: rest)
  | t => ([], t)

/-- The exponent, if a letter and digits for it are there. -/
def exponentPart (t : Text) : Option Int × Text :=
  match t with
  | letter :: rest =>
    if letter == 'e' || letter == 'E' then
      let (negative, body) := IntegerText.sign rest
      match digits? body with
      | none => (none, t)
      | some (ds, after) =>
        let n := Int.ofNat (Text.digitsValue 10 ds)
        (some (if negative then -n else n), after)
    else (none, t)
  | [] => (none, [])

def number? (t : Text) : Option (Json × Text) := do
  let (negative, magnitude) := minus t
  let (whole, afterWhole) ← wholePart? magnitude
  let (part, afterPart) := fractionPart afterWhole
  let (exponent?, rest) := exponentPart afterPart
  if part.isEmpty && exponent?.isNone then
    if whole.length > IntegerText.maxDigits then none
    else
      let n := Int.ofNat (Text.digitsValue 10 whole)
      some (.int (if negative then -n else n), rest)
  else
    let exponent := exponent?.getD 0 - Int.ofNat part.length
    some (.float (DecimalText.toFloat negative (Text.digitsValue 10 (whole ++ part)) exponent), rest)

/-- What readers agree on, and what some of them read besides. -/
inductive Dialect where
  | standard
  | extended
  deriving Repr, DecidableEq, Inhabited

/-- The words that stand for values. -/
def Dialect.words (dialect : Dialect) : List (String × Json) :=
  [("null", .null), ("true", .bool true), ("false", .bool false)] ++
    match dialect with
    | .standard => []
    | .extended =>
      [("NaN", .float (0.0 / 0.0)), ("Infinity", .float (1.0 / 0.0)),
        ("-Infinity", .float (-(1.0 / 0.0)))]

section

variable (dialect : Dialect)

/-- A word or a number. -/
def scalar? (t : Text) : Option (Json × Text) :=
  let word := dialect.words.findSome? fun (word, v) =>
    (afterWord? word.toList t).map fun rest => (v, rest)
  word <|> number? t

/-- Sets a member, in its old place if the name is there already. -/
def setMember (name : String) (value : Json) : List (String × Json) → List (String × Json)
  | [] => [(name, value)]
  | (n, v) :: members =>
    if n == name then (n, value) :: members else (n, v) :: setMember name value members

mutual

/-- A value; `fuel` bounds the number of steps. -/
def value? : Nat → Text → Option (Json × Text)
  | 0, _ => none
  | fuel + 1, t =>
    match skipBlanks t with
    | '[' :: rest =>
      match skipBlanks rest with
      | ']' :: after => some (.arr [], after)
      | _ => (items? fuel rest).map fun (items, after) => (.arr items, after)
    | '\x7b' :: rest =>
      match skipBlanks rest with
      | '\x7d' :: after => some (.obj [], after)
      | _ => (members? fuel [] rest).map fun (members, after) => (.obj members, after)
    | '"' :: rest =>
      (string? (rest.length + 1) rest).map fun (cs, after) => (.str (String.ofList cs), after)
    | body => scalar? dialect body

/-- The items of an array, up to its closing bracket. -/
def items? : Nat → Text → Option (List Json × Text)
  | 0, _ => none
  | fuel + 1, t =>
    match value? fuel t with
    | none => none
    | some (item, after) =>
      match skipBlanks after with
      | ',' :: rest => (items? fuel rest).map fun (items, after) => (item :: items, after)
      | ']' :: rest => some ([item], rest)
      | _ => none

/-- The members of an object, up to its closing brace. -/
def members? : Nat → List (String × Json) → Text → Option (List (String × Json) × Text)
  | 0, _, _ => none
  | fuel + 1, before, t =>
    match skipBlanks t with
    | '"' :: rest =>
      match string? (rest.length + 1) rest with
      | none => none
      | some (name, afterName) =>
        match skipBlanks afterName with
        | ':' :: body =>
          match value? fuel body with
          | none => none
          | some (value, after) =>
            let members := setMember (String.ofList name) value before
            match skipBlanks after with
            | ',' :: more => members? fuel members more
            | '\x7d' :: more => some (members, more)
            | _ => none
        | _ => none
    | _ => none

end

/-- Reads a text that holds one value and blanks. -/
def parse? (t : Text) : Option Json :=
  match value? dialect (t.length + 1) t with
  | some (value, rest) => if (skipBlanks rest).isEmpty then some value else none
  | none => none

end

end MarkupCompiler.Json
