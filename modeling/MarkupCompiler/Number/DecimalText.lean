import MarkupCompiler.Number.IntegerText
import MarkupCompiler.Number.Shortest
import MarkupCompiler.Text.Case

/-!
# Decimal fractions written as text

A number is an optional sign, digits with an optional point and an optional exponent, or one of
the words for infinity and not-a-number in any case. Underscores may stand between digits. The
value is the nearest double; what is too large becomes infinite.
-/

namespace MarkupCompiler.DecimalText

def infinityBits : Nat := 2047 * Nat.pow 2 52

/-- The whole number nearest to a fraction; of two equally near ones, the even one. -/
def rounded (fraction : Nat × Nat) : Nat :=
  let below := fraction.1 / fraction.2
  let twice := 2 * (fraction.1 % fraction.2)
  if twice < fraction.2 || (twice == fraction.2 && below % 2 == 0) then below else below + 1

/-- The exponent of the last of the 53 bits of a positive fraction; the least exponent if it has
fewer. -/
def lastPlace (fraction : Nat × Nat) : Int :=
  let first := max (Int.ofNat fraction.1.log2 - Int.ofNat fraction.2.log2 - 53) (-1074)
  let (num, den) := Shortest.divided 2 fraction first
  if num / den < Nat.pow 2 53 then first else first + 1

def nearestBits (fraction : Nat × Nat) : Nat :=
  let q := lastPlace fraction
  min ((q + 1074).natAbs * Nat.pow 2 52 + rounded (Shortest.divided 2 fraction q)) infinityBits

/-- The double nearest to `mantissa * 10 ^ exponent`, for exponents of any size. -/
def toFloat (negative : Bool) (mantissa : Nat) (exponent : Int) : Float :=
  let magnitude := Int.ofNat (Nat.toDigits 10 mantissa).length + exponent
  let bits :=
    if mantissa == 0 || magnitude < -400 then 0
    else if magnitude > 400 then infinityBits
    else nearestBits (Shortest.scaled 10 mantissa exponent)
  Float.ofBits (UInt64.ofNat (if negative then bits + Nat.pow 2 63 else bits))

/-- The least whole number that is nearer to infinity than to any double. -/
@[irreducible]
def bound : Nat := Nat.pow 2 1024 - Nat.pow 2 970

/-- Whether the double nearest to an integer is finite. -/
def inRange (n : Int) : Bool := n.natAbs < bound

/-- The double nearest to an integer. -/
def ofInt (n : Int) : Float := toFloat (n < 0) n.natAbs 0

/--
Removes underscores, each of which must stand between two digits. The flag says that the previous
character was a digit.
-/
def dropUnderscores (afterDigit : Bool) : Text → Option Text
  | [] => some []
  | c :: rest =>
    if c == '_' then
      if afterDigit && Text.beginsWith Text.isDigit rest then dropUnderscores false rest else none
    else
      (dropUnderscores (Text.isDigit c) rest).map (c :: ·)

/-- The values of the leading digits, and the text after them. -/
def digits : Text → List Nat × Text
  | [] => ([], [])
  | c :: rest =>
    match Text.digitValue? c with
    | some d => let (ds, after) := digits rest; (d :: ds, after)
    | none => ([], c :: rest)

/-- The digits after a point, if there is a point. -/
def fraction : Text → List Nat × Text
  | '.' :: rest => digits rest
  | t => ([], t)

/-- The exponent that makes up a whole text; an empty text is exponent zero. -/
def exponent? : Text → Option Int
  | [] => some 0
  | c :: rest =>
    if c == 'e' || c == 'E' then
      let (negative, body) := IntegerText.sign rest
      match digits body with
      | (d :: ds, []) =>
        let n := Int.ofNat (IntegerText.ofDigits (d :: ds))
        some (if negative then -n else n)
      | _ => none
    else none

/-- Reads digits with optional point and exponent. -/
def finite? (negative : Bool) (t : Text) : Option Float :=
  let (whole, afterWhole) := digits t
  let (part, afterPart) := fraction afterWhole
  if whole.isEmpty && part.isEmpty then none
  else
    (exponent? afterPart).map fun e =>
      toFloat negative (IntegerText.ofDigits (whole ++ part)) (e - Int.ofNat part.length)

def read? (given : Text) : Option Float := do
  let body ← dropUnderscores false (Text.trim IntegerText.isPadding given)
  let (negative, magnitude) := IntegerText.sign body
  let word := String.ofList (magnitude.map Text.lowerAsciiChar)
  if word == "inf" || word == "infinity" then
    some (if negative then -(1.0 / 0.0) else 1.0 / 0.0)
  else if word == "nan" then
    some (0.0 / 0.0)
  else
    finite? negative magnitude

end MarkupCompiler.DecimalText
