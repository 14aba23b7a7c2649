import MarkupCompiler.Text.Printable

/-!
# Integers written as text

An integer is an optional sign and decimal digits of any script, with single underscores allowed
between digits and blanks allowed around the whole. The ASCII information separators are not
among these blanks. More than 4300 digits are refused, in reading as in writing.
-/

namespace MarkupCompiler

/-- Why a text is no integer, or an integer has no text. -/
inductive IntegerFault where
  | malformed (given : Text)
  | tooLong (digits : Nat)
  | unwritable
  deriving Repr, DecidableEq

namespace IntegerFault

/-- The message; a malformed text is quoted and cut to 200 characters. -/
def message : IntegerFault → String
  | .malformed given =>
    s!"invalid literal for int() with base 10: {String.ofList ((Text.quoted given).take 200)}"
  | .tooLong digits =>
    "Exceeds the limit (4300 digits) for integer string conversion: value has " ++
      s!"{digits} digits; use sys.set_int_max_str_digits() to increase the limit"
  | .unwritable =>
    "Exceeds the limit (4300 digits) for integer string conversion; " ++
      "use sys.set_int_max_str_digits() to increase the limit"

end IntegerFault

namespace IntegerText

/-- Blank around a number: blank, but no ASCII information separator. -/
def isPadding (c : Char) : Bool :=
  Text.isBlank c && !(0x1C ≤ c.toNat && c.toNat ≤ 0x1F)

/-- Splits an optional sign from what follows; true is minus. -/
def sign : Text → Bool × Text
  | '-' :: rest => (true, rest)
  | '+' :: rest => (false, rest)
  | t => (false, t)

/--
The values of the leading digits and the text after them. Single underscores may stand between
digits; the flag says that the previous character was a digit. `none` if there is no digit or an
underscore stands elsewhere.
-/
def digitRun (afterDigit : Bool) : Text → Option (List Nat × Text)
  | [] => if afterDigit then some ([], []) else none
  | c :: rest =>
    match Text.digitValue? c with
    | some d => (digitRun true rest).map fun (ds, after) => (d :: ds, after)
    | none =>
      if !afterDigit then none
      else if c == '_' then digitRun false rest
      else some ([], c :: rest)

/-- The number whose decimal digits, leading digit first, are given. -/
def ofDigits (ds : List Nat) : Nat := ds.foldl (fun n d => 10 * n + d) 0

def maxDigits : Nat := 4300

/-- The least number that has too many digits. -/
@[irreducible]
def bound : Nat := Nat.pow 10 maxDigits

/-- Whether an integer can be written; its sign is no digit. -/
def isWritable (n : Int) : Bool := n.natAbs < bound

def read (given : Text) : Except IntegerFault Int :=
  let (negative, body) := sign (Text.trim isPadding given)
  match digitRun false body with
  | none => .error (.malformed given)
  | some (ds, after) =>
    if ds.length > maxDigits then .error (.tooLong ds.length)
    else if !after.isEmpty then .error (.malformed given)
    else
      let n := Int.ofNat (ofDigits ds)
      .ok (if negative then -n else n)

end IntegerText

end MarkupCompiler
