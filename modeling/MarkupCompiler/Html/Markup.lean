import MarkupCompiler.Html.StartTag

/-!
# Markup

What begins with `<`: tags, comments, declarations, instructions and sections. Markup that does not
end before the text does is unfinished.
-/

namespace MarkupCompiler.Html

/-- Markup that ends at the next `>`. -/
def upToAngle (t : Text) (make : Text → Token) : Reading :=
  match splitAtAngle? t with
  | some (content, rest) => .token (make content) rest
  | none => .unfinished

def isEndNameChar (c : Char) : Bool :=
  isLetter c || c.isDigit || c == '-' || c == '.' || c == ':' || c == '_'

/-- An end tag that holds only a name, with blanks around it. -/
def plainEndTag? (t : Text) : Option (Text × Text) :=
  let fromName := skipBlanks t
  if Text.beginsWith isLetter fromName then
    (after? '>' (skipBlanks (fromName.dropWhile isEndNameChar))).map fun rest =>
      (fromName.takeWhile isEndNameChar, rest)
  else none

/-- Reads an end tag; `t` follows `</`. What follows the name up to `>` is dropped. -/
def endTag (t : Text) : Reading :=
  let close (name : Text) : Token := .endTag (String.ofList (Text.lower name))
  match splitAtAngle? t, plainEndTag? t with
  | none, _ => .unfinished
  | some _, some (name, rest) => .token (close name) rest
  | some (content, rest), none =>
    if content.isEmpty then .nothing rest
    else if Text.beginsWith isLetter content then
      .token (close (content.takeWhile isTagNameChar)) rest
    else .token (.special .comment content) rest

/-- The end of a comment: two hyphens, blanks, `>`. -/
def commentClose? : Text → Option Text
  | '-' :: '-' :: rest => after? '>' (skipBlanks rest)
  | _ => none

def comment (t : Text) : Reading :=
  match splitAtClose? commentClose? t with
  | some (content, rest) => .token (.special .comment content) rest
  | none => .unfinished

/-- The end of a conditional section: a bracket, blanks, `>`. -/
def conditionalClose? : Text → Option Text
  | ']' :: rest => after? '>' (skipBlanks rest)
  | _ => none

/-- The end of a standard section: two brackets and `>`, with blanks between them. -/
def standardClose? : Text → Option Text
  | ']' :: rest => conditionalClose? (skipBlanks rest)
  | _ => none

def standardKeywords : List String := ["temp", "cdata", "ignore", "include", "rcdata"]

def conditionalKeywords : List String := ["if", "else", "endif"]

def isKeywordChar (c : Char) : Bool :=
  isLetter c || c.isDigit || c == '-' || c == '_' || c == '.'

/-- What the content of a character data section begins with. -/
def characterDataOpening : Text := "CDATA[".toList

def sectionToken (content : Text) : Token :=
  if characterDataOpening.isPrefixOf (Text.upper content) then
    .special .cdata (content.drop characterDataOpening.length)
  else .special .declaration content

/-- How much of a text a message about a nameless section shows. -/
def shownLength : Nat := 20

def markedSection (t : Text) : Except MarkupFault Reading :=
  let upTo (close? : Text → Option Text) : Except MarkupFault Reading :=
    match splitAtClose? close? t with
    | some (content, rest) => .ok (.token (sectionToken content) rest)
    | none => .ok .unfinished
  if t.isEmpty then .ok .unfinished
  else if !Text.beginsWith isLetter t then
    .error (.namelessSection (("<![".toList ++ t).take shownLength))
  else
    let keyword := t.takeWhile isKeywordChar
    let afterKeyword := t.dropWhile isKeywordChar
    let name := String.ofList (Text.lower keyword)
    if (skipBlanks afterKeyword).isEmpty then .ok .unfinished
    else if standardKeywords.contains name then upTo standardClose?
    else if conditionalKeywords.contains name then upTo conditionalClose?
    else .error (.unknownSection (keyword ++ afterKeyword.takeWhile Text.isBlank))

/-- The word that makes a declaration name the document's type. -/
def documentTypeWord : Text := "doctype".toList

/-- Reads a declaration; `t` follows `<!`. One that names no document type is a comment. -/
def declaration (t : Text) : Reading :=
  let length := documentTypeWord.length
  if (t.take length).map Text.lowerAsciiChar == documentTypeWord then
    upToAngle (t.drop length) fun content => .special .doctype (content.drop 1)
  else upToAngle t (.special .comment)

def markup (t : Text) : Except MarkupFault Reading :=
  match t.drop 1 with
  | '/' :: rest => .ok (endTag rest)
  | '!' :: '-' :: '-' :: rest => .ok (comment rest)
  | '!' :: '[' :: rest => markedSection rest
  | '!' :: rest => .ok (declaration rest)
  | '?' :: rest => .ok (upToAngle rest (.special .instruction))
  | rest =>
    if Text.beginsWith isLetter rest then startTag t
    else .ok (.token (.text (t.take 1)) rest)

end MarkupCompiler.Html
