import MarkupCompiler.Text.Case

/-!
# Punycode

A label of a host name that is not all ASCII is written in ASCII: its ASCII characters, a hyphen
if there are any, and numbers that say where the other characters stand, in ascending order of
code points. A number has digits of base 36, the least first, and ends with the first digit below
a threshold; the thresholds adapt to the numbers before.
-/

namespace MarkupCompiler.Url.Punycode

/-- The count of digits. -/
def base : Nat := 36

/-- The adaptation before the first number. -/
def firstBias : Nat := 72

def threshold (place bias : Nat) : Nat := max 1 (min 26 (base * (place + 1) - bias))

/-- Divides a number until it is small; the second part counts the divisions. -/
def shrink (n : Nat) : Nat × Nat :=
  if 455 < n then
    let (least, count) := shrink (n / 35)
    (least, count + 1)
  else (n, 0)
termination_by n
decreasing_by omega

/-- The adaptation after a number; `size` counts the characters that now stand in the label. -/
def adapt (number size : Nat) (isFirst : Bool) : Nat :=
  let halved := if isFirst then number / 700 else number / 2
  let (least, count) := shrink (halved + halved / size)
  base * count + base * least / (least + 38)

def digit (n : Nat) : Char := Char.ofNat (if n < 26 then 0x61 + n else 0x16 + n)

theorem threshold_pos (place bias : Nat) : 1 ≤ threshold place bias := Nat.le_max_left _ _

theorem threshold_le (place bias : Nat) : threshold place bias ≤ 26 := by
  unfold threshold
  omega

def digitsFrom (bias place n : Nat) : Text :=
  let t := threshold place bias
  if n < t then [digit n]
  else digit (t + (n - t) % (base - t)) :: digitsFrom bias (place + 1) ((n - t) / (base - t))
termination_by n
decreasing_by
  have low := threshold_pos place bias
  have high := threshold_le place bias
  have : (n - threshold place bias) / (base - threshold place bias) ≤ n - threshold place bias :=
    Nat.div_le_self _ _
  omega

structure Writing where
  /-- The code point from which `number` counts. -/
  least : Nat := 0x80
  number : Nat := 0
  bias : Nat := firstBias
  /-- How many characters of the label are written. -/
  size : Nat
  isFirst : Bool := true
  /-- What is written, latest first. -/
  output : Text := []

/-- Counts past a character of the label while the character with code point `n` is written. -/
def Writing.step (n : Nat) (w : Writing) (c : Char) : Writing :=
  if c.toNat < n then { w with number := w.number + 1 }
  else if c.toNat == n then
    { w with
      number := 0
      bias := adapt w.number (w.size + 1) w.isFirst
      size := w.size + 1
      isFirst := false
      output := (digitsFrom w.bias 0 w.number).reverse ++ w.output }
  else w

def Writing.place (label : Text) (w : Writing) (n : Nat) : Writing :=
  let start := { w with number := w.number + (n - w.least) * (w.size + 1), least := n }
  let done := label.foldl (Writing.step n) start
  { done with number := done.number + 1, least := n + 1 }

/-- Inserts a number into an ascending list, unless it is there. -/
def insertDistinct (n : Nat) : List Nat → List Nat
  | [] => [n]
  | m :: rest =>
    if n < m then n :: m :: rest
    else if n == m then m :: rest
    else m :: insertDistinct n rest

def encode (label : Text) : Text :=
  let ascii := label.filter (·.toNat < 0x80)
  let others := (label.map Char.toNat).filter (0x80 ≤ ·)
  let codePoints := others.foldr insertDistinct []
  let written := codePoints.foldl (Writing.place label) { size := ascii.length }
  (if ascii.isEmpty then [] else ascii ++ ['-']) ++ written.output.reverse

def digitValue? (c : Char) : Option Nat :=
  if 'a' ≤ c && c ≤ 'z' then some (c.toNat - 0x61)
  else if 'A' ≤ c && c ≤ 'Z' then some (c.toNat - 0x41)
  else if c.isDigit then some (c.toNat - 0x16)
  else none

/-- Reads a number: its digits from a place on, each counting `weight` times. -/
def number? (bias : Nat) : (place weight : Nat) → Text → Option (Nat × Text)
  | _, _, [] => none
  | place, weight, c :: rest =>
    match digitValue? c with
    | none => none
    | some d =>
      let t := threshold place bias
      if d < t then some (d * weight, rest)
      else
        (number? bias (place + 1) (weight * (base - t)) rest).map
          fun (n, after) => (d * weight + n, after)

structure Reading where
  label : Text
  codePoint : Nat := 0x80
  /-- The place from which the next number counts. -/
  next : Nat := 0
  bias : Nat := firstBias
  isFirst : Bool := true

/-- Puts a character into the label where a number says. -/
def Reading.insert? (r : Reading) (n : Nat) : Option Reading :=
  let size := r.label.length + 1
  let codePoint := r.codePoint + (r.next + n) / size
  let place := (r.next + n) % size
  if codePoint.isValidChar then
    some
      { label := r.label.take place ++ Char.ofNat codePoint :: r.label.drop place
        codePoint
        next := place + 1
        bias := adapt n size r.isFirst
        isFirst := false }
  else none

/-- Reads numbers to the end of the text; each takes at least one character, so `fuel` may be
the length. -/
def readNumbers? : (fuel : Nat) → Reading → Text → Option Text
  | _, r, [] => some r.label
  | 0, _, _ :: _ => none
  | fuel + 1, r, t => do
    let (n, rest) ← number? r.bias 0 1 t
    let r ← r.insert? n
    readNumbers? fuel r rest

/-- The label that an ASCII text stands for. -/
def decode? (t : Text) : Option Text :=
  let hasHyphen := t.contains '-'
  let numbers := (t.reverse.takeWhile (· != '-')).reverse
  let ascii := if hasHyphen then t.take (t.length - numbers.length - 1) else []
  if t.all (·.toNat < 0x80) then readNumbers? numbers.length { label := ascii } numbers else none

/-- The characters that separate the labels of a host name. -/
def isSeparator (c : Char) : Bool :=
  c == '.' || c.toNat == 0x3002 || c.toNat == 0xFF0E || c.toNat == 0xFF61

def labels (host : Text) : List Text :=
  Text.split '.' (host.map fun c => if isSeparator c then '.' else c)

/-- What a label in Punycode begins with. -/
def mark : Text := "xn--".toList

def toAscii (host : Text) : Text :=
  Text.join ['.'] ((labels host).map fun label =>
    if label.any (0x7F ≤ ·.toNat) then mark ++ encode label else label)

def readLabel? (label : Text) : Option Text :=
  if mark.isPrefixOf label then decode? (Text.lower (label.drop mark.length)) else some label

/-- A host name as it is meant to be read; one with a label that cannot be read stays. -/
def toReadable (host : Text) : Text :=
  match (labels host).mapM readLabel? with
  | some read => Text.join ['.'] read
  | none => host

end MarkupCompiler.Url.Punycode
