import MarkupCompiler.Html.Token

/-!
# Start tags

A start tag is a name with attributes. Attributes are set apart by blanks and slashes; a value may
be quoted, and a value in quotes may be followed by the next attribute at once. A quote without its
partner is no value: it is part of the next attribute's name.
-/

namespace MarkupCompiler

/-- Sets an attribute, in its old place if it is there already. -/
def Attributes.set (name : String) (value : AttributeValue) : Attributes → Attributes
  | [] => [(name, value)]
  | (n, v) :: rest =>
    if n == name then (n, value) :: rest else (n, v) :: Attributes.set name value rest

namespace Html

/-- Either kind of quotation mark. -/
def isQuote (c : Char) : Bool := c == '\'' || c == '"'

/-- Drops blanks and slashes; a slash before `>` stays, because it ends the tag. -/
def skipGap : Text → Text
  | [] => []
  | c :: rest =>
    if Text.isBlank c then skipGap rest
    else if c == '/' && rest.head? != some '>' then skipGap rest
    else c :: rest

/-- A character that an attribute's name goes on with. -/
def isAttributeChar (c : Char) : Bool := !(Text.isBlank c || c == '/' || c == '=' || c == '>')

/-- The name of an attribute; its first character may be an equals sign. -/
def attributeName? : Text → Option (Text × Text)
  | [] => none
  | c :: rest =>
    if Text.isBlank c || c == '/' || c == '>' then none
    else some (c :: rest.takeWhile isAttributeChar, rest.dropWhile isAttributeChar)

def isValueChar (c : Char) : Bool := !(c == '>' || Text.isBlank c)

/-- A value, and whether it ends in a quotation mark. -/
structure ValueReading where
  value : Text
  rest : Text
  endsInQuote : Bool := false

def unquoted (t : Text) : ValueReading := ⟨t.takeWhile isValueChar, t.dropWhile isValueChar, false⟩

/--
The value after an attribute's name, if there is one. Before a quotation mark without its partner
the value is empty if a blank precedes it, begins with the last of several equals signs, or is
missing.
-/
def value? (t : Text) : Option ValueReading :=
  let fromSign := skipBlanks t
  let signs := fromSign.takeWhile (· == '=')
  let afterSigns := fromSign.dropWhile (· == '=')
  if signs.isEmpty then none
  else
    match skipBlanks afterSigns with
    | [] => some ⟨[], [], false⟩
    | c :: body =>
      if isQuote c then
        match splitAtClose? (after? c) body with
        | some (value, rest) => some ⟨value, rest, true⟩
        | none =>
          if afterSigns.head?.any Text.isBlank then some ⟨[], afterSigns, false⟩
          else if signs.length > 1 then some (unquoted ('=' :: c :: body))
          else none
      else some (unquoted (c :: body))

/--
Attributes as they are written, and the text after them. The flag says that an attribute may begin
here, because a blank, a slash or a quotation mark stands before; the number bounds the attributes.
-/
def rawAttributes : Nat → Bool → Text → List (Text × Text) × Text
  | 0, _, t => ([], t)
  | fuel + 1, mayBegin, t =>
    match if mayBegin then attributeName? t else none with
    | none => ([], t)
    | some (name, afterName) =>
      let reading := (value? afterName).getD ⟨[], afterName, Text.endsWith isQuote name⟩
      let rest := skipGap reading.rest
      let mayGoOn := reading.endsInQuote || rest.length < reading.rest.length
      let (others, after) := rawAttributes fuel mayGoOn rest
      ((name, reading.value) :: others, after)

/-- Attributes with names in lower case and references replaced; a repeated one is set again. -/
def attributesOf : Attributes → List (Text × Text) → Except MarkupFault Attributes
  | attributes, [] => .ok attributes
  | attributes, (name, raw) :: others =>
    match Reference.decode raw with
    | .error fault => .error (.number fault)
    | .ok value =>
      attributesOf
        (attributes.set (String.ofList (Text.lower name)) (.text (String.ofList value))) others

/-- What comes of reading markup. -/
inductive Reading where
  | token (token : Token) (rest : Text)
  | nothing (rest : Text)
  | unfinished
  deriving Repr

/--
Reads a start tag; `t` is the text from `<` on, and a letter follows. A tag that breaks off at a
character it cannot hold is text up to there.
-/
def startTag (t : Text) : Except MarkupFault Reading :=
  let body := t.drop 1
  let name := body.takeWhile isTagNameChar
  let afterName := body.dropWhile isTagNameChar
  let inner := skipGap afterName
  let mayBegin := inner.length < afterName.length || Text.endsWith isQuote name
  let (raw, rest) := rawAttributes inner.length mayBegin inner
  let tag (isClosed : Bool) (after : Text) : Except MarkupFault Reading :=
    (attributesOf [] raw).map fun attributes =>
      .token (.startTag (String.ofList (Text.lower name)) attributes isClosed) after
  match rest with
  | [] => .ok .unfinished
  | c :: after =>
    if c == '>' then tag false after
    else if c == '/' then tag true (after.drop 1)
    else if isLetter c || c == '=' then .ok .unfinished
    else .ok (.token (.text (t.take (t.length - rest.length))) rest)

end Html

end MarkupCompiler
