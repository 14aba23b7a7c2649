import MarkupCompiler.Html.Token
import MarkupCompiler.Text.Basic

/-!
# Tags in running text

Markdown passes tags, comments and declarations on as they are. A reader answers the text after
what it reads. Where one text can be read in several ways, the longest reading of each part is
tried first; a reader of a part is given the reader of all that follows, so that the shorter
readings are tried when the rest does not fit.
-/

namespace MarkupCompiler.Markdown.HtmlTag

/-- A reader of a text: what is left after it, if the text begins with what it reads. -/
abbrev Reader := Text → Option Text

/-- One or more characters of a class, the longest run first. -/
def oneOrMore (p : Char → Bool) (next : Reader) : Reader
  | [] => none
  | c :: rest => if p c then (oneOrMore p next rest).or (next rest) else none

/-- Any number of characters of a class, the longest run first. -/
def zeroOrMore (p : Char → Bool) (next : Reader) : Reader := fun t =>
  (oneOrMore p next t).or (next t)

def one (c : Char) (next : Reader) : Reader
  | [] => none
  | d :: rest => if d == c then next rest else none

/-- The characters that an attribute's name begins with. -/
def isAttributeStart (c : Char) : Bool := Html.isLetter c || c == '_' || c == ':'

/-- The characters that an attribute's name goes on with. -/
def isAttributeChar (c : Char) : Bool := isAttributeStart c || c.isDigit || c == '.' || c == '-'

def isBareValueChar (c : Char) : Bool :=
  !(c.toNat ≤ 0x20 || c == '"' || c == '\'' || c == '=' || c == '<' || c == '>' || c == '\x60')

def isNameChar (c : Char) : Bool := Html.isLetter c || c.isDigit || c == '-'

def quotedValue (quote : Char) (next : Reader) : Reader
  | [] => none
  | c :: rest => if c == quote then next rest else quotedValue quote next rest

def value (next : Reader) : Reader
  | '"' :: rest => quotedValue '"' next rest
  | '\'' :: rest => quotedValue '\'' next rest
  | t => oneOrMore isBareValueChar next t

/-- An equals sign and a value, with blanks around the sign, or nothing. -/
def optionalValue (next : Reader) : Reader := fun t =>
  (zeroOrMore Text.isBlank (one '=' (zeroOrMore Text.isBlank (value next))) t).or (next t)

/-- An attribute with the blanks before it; its name is not cut. -/
def oneAttribute (next : Reader) : Reader := fun t =>
  match t with
  | [] => none
  | c :: _ =>
    let start := t.dropWhile Text.isBlank
    if Text.isBlank c && start.head?.any isAttributeStart then
      optionalValue next (start.dropWhile isAttributeChar)
    else none

/-- Any number of attributes, as many as fit first; each takes a character at least, so `fuel`
may be the length of the text. -/
def attributes : (fuel : Nat) → (next : Reader) → Reader
  | 0, next => next
  | fuel + 1, next => fun t => (oneAttribute (attributes fuel next) t).or (next t)

/-- Blanks, an optional slash and the end of an opening tag. -/
def openingEnd (next : Reader) : Reader :=
  zeroOrMore Text.isBlank fun t =>
    match t with
    | '/' :: '>' :: rest => next rest
    | '>' :: rest => next rest
    | _ => none

def opening (next : Reader) : Reader := fun t =>
  if Text.beginsWith Html.isLetter t then
    attributes t.length (openingEnd next) (t.dropWhile isNameChar)
  else none

def closing (next : Reader) : Reader := fun t =>
  if Text.beginsWith Html.isLetter t then
    one '>' next ((t.dropWhile isNameChar).dropWhile Text.isBlank)
  else none

/-- An opening or closing tag. -/
def tag (next : Reader) : Reader
  | '<' :: '/' :: rest => closing next rest
  | '<' :: rest => opening next rest
  | _ => none

/-- The rest of a comment. Hyphens are read in pairs, so a third one before `>` hides the end. -/
def commentEnd? : Reader
  | '-' :: '-' :: '>' :: rest => some rest
  | '-' :: '-' :: _ :: rest => commentEnd? rest
  | ['-', '-'] | ['-'] | [] => none
  | '-' :: _ :: rest => commentEnd? rest
  | _ :: rest => commentEnd? rest

def comment? : Reader
  | '>' :: rest => some rest
  | '-' :: '>' :: rest => some rest
  | t => commentEnd? t

def afterFirst? (word : Text) : Reader
  | [] => if word.isEmpty then some [] else none
  | c :: rest =>
    if word.isPrefixOf (c :: rest) then some ((c :: rest).drop word.length)
    else afterFirst? word rest

/-- What a section of character data begins with, after `<!`. -/
def characterData : Text := "[CDATA[".toList

def declaration? : Reader
  | '-' :: '-' :: rest => comment? rest
  | t =>
    if characterData.isPrefixOf t then
      afterFirst? "]]>".toList (t.drop characterData.length)
    else if Text.beginsWith Html.isLetter t then afterFirst? ['>'] t
    else none

def markup? : Reader
  | '<' :: '!' :: rest => declaration? rest
  | '<' :: '?' :: rest => afterFirst? "?>".toList rest
  | t => tag some t

/-- Whether a text is one tag with blanks after it. -/
def isLoneTag (t : Text) : Bool :=
  let ending : Reader := fun rest => if rest.all Text.isBlank then some rest else none
  (tag ending t).isSome

end MarkupCompiler.Markdown.HtmlTag
