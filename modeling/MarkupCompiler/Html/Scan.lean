import MarkupCompiler.Html.Markup

/-!
# From HTML text to tokens

The text is read from its start. Scripts and style sheets are raw up to their end tag. References
in character data need a character after them. A text is read as if more of it might follow, up to
the first place where reading cannot go on; from there it is read as complete, and markup that is
unfinished there is character data.
-/

namespace MarkupCompiler.Html

def rawElements : List String := ["script", "style"]

/-- The end of a raw element: its end tag, in any case and with blanks around the name. -/
def rawClose? (name : Text) : Text → Option Text
  | '<' :: '/' :: rest =>
    let fromName := skipBlanks rest
    if (fromName.take name.length).map Text.lowerAsciiChar == name then
      after? '>' (skipBlanks (fromName.drop name.length))
    else none
  | _ => none

/-- Character data and the text after it, of unfinished markup: up to `>`, or else up to `<`. -/
def stray (t : Text) : Text × Text :=
  let body := t.drop 1
  match splitAtAngle? body with
  | some (content, rest) => (t.take 1 ++ content ++ ['>'], rest)
  | none =>
    if body.contains '<' then (t.take 1 ++ body.takeWhile (· != '<'), body.dropWhile (· != '<'))
    else (t.take 1, body)

/-- How reading goes on after an ampersand in character data. -/
inductive ReferenceReading where
  /-- The characters read, and the text after them. -/
  | proceed (content rest : Text)
  /-- The same, where reading could not go on. -/
  | cutOff (content rest : Text)
  deriving Repr

/-- The characters that a name goes on with. -/
def isReferenceChar (c : Char) : Bool := isLetter c || c.isDigit || c == '-' || c == '.'

/-- What a name in character data stands for; an unknown one stands for itself. -/
def namedText (name : Text) : Text :=
  (namedCharacters? (String.ofList name)).getD ('&' :: name)

/-- The part before the last hyphen or point of a name, and the part from there on. -/
def splitName? (name : Text) : Option (Text × Text) :=
  let tail := (name.reverse.takeWhile fun c => !(c == '-' || c == '.')).reverse
  let start := name.take (name.length - tail.length)
  if start.isEmpty then none else some (start.dropLast, name.drop (start.length - 1))

/-- Reads a reference by name; `t` follows the ampersand and begins with a letter. -/
def nameReference (t : Text) : ReferenceReading :=
  let name := t.takeWhile isReferenceChar
  match t.dropWhile isReferenceChar with
  | [] =>
    match splitName? name with
    | some (start, rest) => .proceed (namedText start) rest
    | none => if t.length == 1 then .proceed t [] else .proceed ('&' :: t) []
  | c :: rest => .proceed (namedText name) (if c == ';' then rest else c :: rest)

def numberReference (t : Text) : Except MarkupFault ReferenceReading :=
  let noReference : ReferenceReading :=
    if t.contains ';' then .cutOff ['&', '#'] t else .proceed ('&' :: '#' :: t) []
  match Reference.digits? t with
  | none => .ok noReference
  | some (digits, after) =>
    if after.head?.any fun c => !Text.isHexDigit c then
      match digits.value with
      | .error fault => .error (.number fault)
      | .ok n => .ok (.proceed [Reference.character n] (Reference.dropSemicolon after))
    else .ok noReference

/-- Reads what follows an ampersand in character data. -/
def reference (t : Text) : Except MarkupFault ReferenceReading :=
  match t with
  | '#' :: rest => numberReference rest
  | _ => .ok (if Text.beginsWith isLetter t then nameReference t else .proceed ['&'] t)

/-- What the content of an element is read as. -/
def rawNameAfter? : Token → Option Text
  | .startTag name _ false => if rawElements.contains name then some name.toList else none
  | _ => none

def isPlain (c : Char) : Bool := !(c == '<' || c == '&')

/--
The tokens of a text. `isComplete` says that the text is read as complete, and `raw?` names the raw
element that is open. The first argument bounds the number of steps.
-/
def scanFrom : Nat → Bool → Option Text → Text → Except MarkupFault (List Token)
  | 0, _, _, _ => .ok []
  | fuel + 1, isComplete, some name, t =>
    match splitAtClose? (rawClose? name) t with
    | none => .ok []
    | some (content, rest) =>
      (scanFrom fuel isComplete none rest).map fun tokens =>
        .text content :: .endTag (String.ofList name) :: tokens
  | fuel + 1, isComplete, none, t =>
    match t with
    | [] => .ok []
    | '<' :: _ =>
      match markup t with
      | .error fault => .error fault
      | .ok (.token token rest) =>
        (scanFrom fuel isComplete (rawNameAfter? token) rest).map fun tokens => token :: tokens
      | .ok (.nothing rest) => scanFrom fuel isComplete none rest
      | .ok .unfinished =>
        if isComplete then
          let (content, rest) := stray t
          (scanFrom fuel isComplete none rest).map fun tokens => .text content :: tokens
        else scanFrom fuel true none t
    | '&' :: body =>
      match reference body with
      | .error fault => .error fault
      | .ok (.proceed content rest) =>
        (scanFrom fuel isComplete none rest).map fun tokens => .text content :: tokens
      | .ok (.cutOff content rest) =>
        if isComplete then .ok [.text content, .text rest]
        else (scanFrom fuel true none rest).map fun tokens => .text content :: tokens
    | _ =>
      (scanFrom fuel isComplete none (t.dropWhile isPlain)).map fun tokens =>
        .text (t.takeWhile isPlain) :: tokens

def scan (t : Text) : Except MarkupFault (List Token) := scanFrom (t.length + 2) false none t

end MarkupCompiler.Html
