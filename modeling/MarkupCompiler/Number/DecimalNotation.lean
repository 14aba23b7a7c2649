import MarkupCompiler.Number.Shortest
import MarkupCompiler.Text.Basic

/-!
# How numbers are written

A double is written with its shortest digits: positionally, with at least one digit on each side
of the point, when its decimal exponent lies between -4 and 15, and otherwise with an exponent of
a sign and at least two digits.
-/

namespace MarkupCompiler

/-- The digits of a number on the left filled up with zeros. -/
def padZeros (width n : Nat) : Text :=
  let digits := (toString n).toList
  List.replicate (width - digits.length) '0' ++ digits

namespace DecimalNotation

structure Words where
  nan : String
  infinity : String

/-- The words used in messages. -/
def Words.plain : Words := ⟨"nan", "inf"⟩

def Words.json : Words := ⟨"NaN", "Infinity"⟩

/-- Writes digits with a point among them or before them. -/
def positional (digits : Text) (point : Int) : Text :=
  if point ≤ 0 then '0' :: '.' :: List.replicate point.natAbs '0' ++ digits
  else
    let whole := digits.take point.natAbs ++ List.replicate (point.natAbs - digits.length) '0'
    let part := digits.drop point.natAbs
    whole ++ '.' :: if part.isEmpty then ['0'] else part

/-- Writes digits with a point behind the first one, and an exponent. -/
def scientific (digits : Text) (exponent : Int) : Text :=
  let mantissa :=
    match digits with
    | first :: second :: rest => first :: '.' :: second :: rest
    | _ => digits
  mantissa ++ 'e' :: (if exponent < 0 then '-' else '+') :: padZeros 2 exponent.natAbs

def ofDecimal (d : Shortest.Decimal) : Text :=
  let digits := (toString d.digits).toList
  if -4 < d.point && d.point ≤ 16 then positional digits d.point
  else scientific digits (d.point - 1)

def write (words : Words) (x : Float) : String :=
  if x.isNaN then words.nan
  else
    let bits := x.toBits.toNat
    let minus := if bits / Nat.pow 2 63 % 2 == 1 then "-" else ""
    let magnitude := bits % Nat.pow 2 63
    if x.isInf then minus ++ words.infinity
    else if magnitude == 0 then minus ++ "0.0"
    else minus ++ String.ofList (ofDecimal (Shortest.Decimal.ofBits magnitude))

end DecimalNotation

end MarkupCompiler
