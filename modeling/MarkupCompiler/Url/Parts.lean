import MarkupCompiler.Text.Basic
import MarkupCompiler.Text.Case
import MarkupCompiler.Url.Percent
import MarkupCompiler.Url.Punycode

/-!
# Parts of a link

A link may have a scheme, two slashes, a user and a host with a number before its path. Schemes
that are usually followed by slashes have a host only after slashes; other schemes always have
one, and without a scheme there is one after slashes. What stands in the host's place but cannot
belong to a host name is left to the path.
-/

namespace MarkupCompiler.Url

structure Parts where
  /-- The scheme with its colon. -/
  scheme : Text := []
  hasSlashes : Bool := false
  user : Text := []
  host : Text := []
  /-- What follows the host after a colon. -/
  number : Text := []
  /-- Path, query and fragment. -/
  path : Text := []
  deriving Repr, DecidableEq

namespace Parts

/-- A letter of ASCII, or one that becomes such a letter in the other case. -/
def isSchemeLetter (c : Char) : Bool :=
  c.isAlpha || c.toNat == 0x130 || c.toNat == 0x131 || c.toNat == 0x17F || c.toNat == 0x212A

def isSchemeChar (c : Char) : Bool :=
  isSchemeLetter c || c.isDigit || c == '.' || c == '+' || c == '-'

/-- The scheme of a link with its colon, and the rest; without one the first part is empty. -/
def splitScheme (t : Text) : Text × Text :=
  let name := t.takeWhile isSchemeChar
  match t.dropWhile isSchemeChar with
  | ':' :: rest => if name.isEmpty then ([], t) else (name ++ [':'], rest)
  | _ => ([], t)

def slashedSchemes : List String := ["http:", "https:", "ftp:", "gopher:", "file:"]

def hostlessScheme : String := "javascript:"

/-- The characters that end the part in which a user may stand. -/
def isPathStart (c : Char) : Bool := c == '/' || c == '?' || c == '#'

/-- The characters that never stand in a host. -/
def hostEnds : Text := "%/?;#'\x7b\x7d|\\^`<>\" \r\n\t".toList

def splitLast? (c : Char) (t : Text) : Option (Text × Text) :=
  if t.contains c then
    let after := (t.reverse.takeWhile (· != c)).reverse
    some (t.take (t.length - after.length - 1), after)
  else none

/-- A host and the number after its colon; one without digits is dropped. -/
def splitNumber (t : Text) : Text × Text :=
  match splitLast? ':' t with
  | some (host, number) => if number.all Char.isDigit then (host, number) else (t, [])
  | none => (t, [])

def isLabelChar (c : Char) : Bool := c.isAlphanum || c == '+' || c == '_' || c == '-'

/-- The most characters of a label. -/
def maxLabelLength : Nat := 63

/-- The most characters of a host name. -/
def maxHostLength : Nat := 255

/-- Whether a label may stand in a host name. -/
def isLabel (label : Text) : Bool :=
  label.length ≤ maxLabelLength && label.all fun c => isLabelChar c || 0x7F < c.toNat

/-- The labels up to the first bad one, of which only the good beginning stays; and the rest. -/
def goodLabels : List Text → List Text × Option (List Text)
  | [] => ([], none)
  | label :: labels =>
    if isLabel label then
      let (good, rest) := goodLabels labels
      (label :: good, rest)
    else
      let start := (label.take maxLabelLength).takeWhile isLabelChar
      ([start], some (label.drop start.length :: labels))

/-- A host name, and what after it cannot belong to one. -/
def splitHost (t : Text) : Text × Text :=
  let (good, rest) := goodLabels (Text.split '.' t)
  (Text.join ['.'] good, Text.join ['.'] (rest.getD []))

def isBracketed (host : Text) : Bool := host.head? == some '[' && host.getLast? == some ']'

/-- A host name that is too long is dropped. -/
def limitHost (host : Text) : Text := if maxHostLength < host.length then [] else host

/-- Reads user, host and number at the start of a text; the rest becomes the path. -/
def readHost (p : Parts) (t : Text) : Parts :=
  let place := t.takeWhile fun c => !isPathStart c
  let (user, t) :=
    match splitLast? '@' place with
    | some (user, _) => (user, t.drop (user.length + 1))
    | none => ([], t)
  let whole := t.takeWhile fun c => !hostEnds.contains c
  let place := if whole.getLast? == some ':' then whole.dropLast else whole
  let rest := t.drop place.length
  let (host, number) := splitNumber place
  if isBracketed host then
    { p with user, number, host := (limitHost host).tail.dropLast, path := rest }
  else
    let (good, bad) := splitHost host
    { p with user, number, host := limitHost good, path := bad ++ rest }

/-- The parts of a link; blanks around it do not count. -/
def ofText (t : Text) : Parts :=
  let (scheme, rest) := splitScheme (Text.trimBlank t)
  let name := String.ofList scheme
  let isHostless := name == hostlessScheme
  let hasSlashes := "//".toList.isPrefixOf rest && !isHostless
  let parts : Parts := { scheme, hasSlashes }
  let hasHost :=
    !isHostless && (hasSlashes || (!scheme.isEmpty && !slashedSchemes.contains name))
  let rest := if hasSlashes then rest.drop 2 else rest
  if hasHost then parts.readHost rest else { parts with path := rest }

/-- The link that has the given parts; an address with colons stands in brackets. -/
def toText (p : Parts) : Text :=
  let user := if p.user.isEmpty then [] else p.user ++ ['@']
  let host := if p.host.contains ':' then '[' :: p.host ++ [']'] else p.host
  let number := if p.number.isEmpty then [] else ':' :: p.number
  p.scheme ++ (if p.hasSlashes then ['/', '/'] else []) ++ user ++ host ++ number ++ p.path

/-- The schemes whose hosts have a form in ASCII; no scheme is one of them. -/
def codedSchemes : List String := ["", "http:", "https:", "mailto:"]

/-- Changes the host, if the scheme is known to have one. -/
def mapHost (f : Text → Text) (p : Parts) : Parts :=
  if codedSchemes.contains (String.ofList p.scheme) && !p.host.isEmpty then
    { p with host := f p.host }
  else p

end Parts

/-- A link as it is written into an attribute. -/
def normalize (t : Text) : Text := encode ((Parts.ofText t).mapHost Punycode.toAscii).toText

/-- A link as it is shown. -/
def readable (t : Text) : Text := decode ((Parts.ofText t).mapHost Punycode.toReadable).toText

/-- The schemes of links that are not followed. -/
def refusedSchemes : List String := ["vbscript:", "javascript:", "file:", "data:"]

/-- What links to pictures begin with that carry the picture themselves. -/
def pictureSchemes : List String :=
  ["data:image/gif;", "data:image/png;", "data:image/jpeg;", "data:image/webp;"]

/-- Whether a link may be followed. -/
def isAllowed (t : Text) : Bool :=
  let link := Text.lower (Text.trimBlank t)
  let beginsWithAny := fun (starts : List String) => starts.any fun s => s.toList.isPrefixOf link
  !beginsWithAny refusedSchemes || beginsWithAny pictureSchemes

end MarkupCompiler.Url
