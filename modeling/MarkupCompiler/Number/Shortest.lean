/-!
# The fewest decimal digits that read back

A finite double is `m * 2 ^ q` exactly. The decimals that read back as it form an interval around
it, which includes its ends when `m` is even. Of the decimals with the fewest digits in that
interval the nearest one is taken; of two equally near ones, the one with an even last digit.
-/

namespace MarkupCompiler.Shortest

/-- A positive finite double as `m * 2 ^ q`; `narrow` says that its lower neighbour is half as
far. -/
structure Binary where
  m : Nat
  q : Int
  narrow : Bool
  deriving Repr, DecidableEq

/-- A decimal `0.d₁d₂… * 10 ^ point`, the digits given as one number. -/
structure Decimal where
  digits : Nat
  point : Int
  deriving Repr, DecidableEq

/-- Decodes the exponent and mantissa bits of a finite double other than zero. -/
def Binary.ofBits (bits : Nat) : Binary :=
  let mantissa := bits % Nat.pow 2 52
  let exponent := bits / Nat.pow 2 52 % Nat.pow 2 11
  if exponent == 0 then ⟨mantissa, -1074, false⟩
  else ⟨mantissa + Nat.pow 2 52, Int.ofNat exponent - 1075, mantissa == 0 && exponent > 1⟩

/-- Numerator and denominator of `n * base ^ e`. -/
def scaled (base n : Nat) (e : Int) : Nat × Nat :=
  if e < 0 then (n, base.pow e.natAbs) else (n * base.pow e.natAbs, 1)

/-- Numerator and denominator of a fraction divided by `base ^ e`. -/
def divided (base : Nat) (fraction : Nat × Nat) (e : Int) : Nat × Nat :=
  let power := base.pow e.natAbs
  if e < 0 then (fraction.1 * power, fraction.2) else (fraction.1, fraction.2 * power)

/-- Whether `digits * 10 ^ e` reads back as the double; both are compared four times enlarged. -/
def Binary.admits (b : Binary) (digits : Nat) (e : Int) : Bool :=
  let (num, den) := scaled 10 (4 * digits) e
  let (low, lowDen) := scaled 2 (4 * b.m - (if b.narrow then 1 else 2)) b.q
  let (high, highDen) := scaled 2 (4 * b.m + 2) b.q
  if b.m % 2 == 0 then low * den ≤ num * lowDen && num * highDen ≤ high * den
  else low * den < num * lowDen && num * highDen < high * den

/-- The double divided by `10 ^ e`, as numerator and denominator. -/
def Binary.dividedBy (b : Binary) (e : Int) : Nat × Nat := divided 10 (scaled 2 b.m b.q) e

/-- The decimal on the grid of multiples of `10 ^ e` that reads back, if there is one. -/
def Binary.onGrid? (b : Binary) (e : Int) : Option Nat :=
  let (num, den) := b.dividedBy e
  let below := num / den
  let above := below + 1
  match b.admits below e && below > 0, b.admits above e with
  | false, false => none
  | true, false => some below
  | false, true => some above
  | true, true =>
    let twice := 2 * (num % den)
    if twice < den || (twice == den && below % 2 == 0) then some below else some above

/-- The least `point` with the double below `10 ^ point`, searched upward from `start`. -/
def Binary.pointFrom (b : Binary) : Nat → Int → Int
  | 0, start => start
  | fuel + 1, start =>
    let (num, den) := b.dividedBy start
    if num < den then start else b.pointFrom fuel (start + 1)

/-- Tries grids with `length` digits and up, `tries` of them. -/
def Binary.search (b : Binary) (point : Int) : Nat → Nat → Decimal
  | 0, _ => ⟨b.m, point⟩
  | tries + 1, length =>
    match b.onGrid? (point - Int.ofNat length) with
    | none => b.search point tries (length + 1)
    | some digits =>
      if digits == Nat.pow 10 length then ⟨1, point + 1⟩ else ⟨digits, point⟩

/-- A lower bound of the decimal point: `30103 / 100000` is just above the logarithm of two. -/
def Binary.pointBound (b : Binary) : Int :=
  Int.fdiv ((b.q + Int.ofNat b.m.log2) * 30103) 100000 - 1

/-- The shortest decimal of a finite double other than zero, given by its bits without the sign. -/
def Decimal.ofBits (bits : Nat) : Decimal :=
  let b := Binary.ofBits bits
  b.search (b.pointFrom 8 b.pointBound) 17 1

end MarkupCompiler.Shortest
