import MarkupCompiler.Html.CharacterReference
import MarkupCompiler.Tree.Node

/-!
# Tokens of HTML text

A text in HTML is a sequence of character data, tags and other markup. Nearly everything is read as
something; only a section with an unknown or missing keyword, and a number with too many digits,
are refused.
-/

namespace MarkupCompiler.Html

/-- A piece of HTML text. -/
inductive Token where
  | text (content : Text)
  | startTag (name : String) (attributes : Attributes) (isClosed : Bool)
  | endTag (name : String)
  | special (kind : SpecialKind) (content : Text)
  deriving Repr, DecidableEq

/-- Why a text is refused. -/
inductive MarkupFault where
  | unknownSection (keyword : Text)
  | namelessSection (start : Text)
  | number (fault : IntegerFault)
  deriving Repr, DecidableEq

namespace MarkupFault

/-- What comes before the reason when a section is refused. -/
def rejection : String :=
  "The markup you provided was rejected by the parser. Trying a different parser or a different " ++
    "encoding may help.\n\nOriginal exception(s) from parser:\n AssertionError: "

def message : MarkupFault → String
  | .unknownSection keyword =>
    s!"{rejection}unknown status keyword {String.ofList (Text.quoted keyword)} in marked section"
  | .namelessSection start =>
    s!"{rejection}expected name token at {String.ofList (Text.quoted start)}"
  | .number fault => fault.message

end MarkupFault

def isLetter (c : Char) : Bool := ('a' ≤ c && c ≤ 'z') || ('A' ≤ c && c ≤ 'Z')

def isTagNameChar (c : Char) : Bool :=
  !(c == '\t' || c == '\n' || c == '\r' || c == '\x0c' || c == ' ' || c == '/' || c == '>' ||
    c.toNat == 0)

def skipBlanks (t : Text) : Text := t.dropWhile Text.isBlank

def after? (c : Char) : Text → Option Text
  | [] => none
  | d :: rest => if d == c then some rest else none

/--
Splits a text at the first place where `close?` succeeds: what stands before it, and what `close?`
leaves after it.
-/
def splitAtClose? (close? : Text → Option Text) : Text → Option (Text × Text)
  | [] => none
  | c :: rest =>
    match close? (c :: rest) with
    | some after => some ([], after)
    | none => (splitAtClose? close? rest).map fun (before, after) => (c :: before, after)

def splitAtAngle? (t : Text) : Option (Text × Text) := splitAtClose? (after? '>') t

end MarkupCompiler.Html
