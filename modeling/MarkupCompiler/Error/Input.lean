import MarkupCompiler.Error.Basic
import MarkupCompiler.Json.Value
import MarkupCompiler.Text.Alphanumeric

/-!
# Checks of input

Callers hand in values of any type. Markup must be a string that is not empty, a document
identifier a word of letters, digits, underscores and hyphens, an index a positive integer. True
and false are no integers here.
-/

namespace MarkupCompiler

/-- Why an input was refused. -/
inductive InputFault where
  | notText (kind typeName : String)
  | emptyText (kind : String)
  | missing (parameter : String)
  | invalidCharacters (parameter : String)
  | notPositive (parameter : String)
  | tooLarge (parameter : String) (limit : Int)
  | badStart (given : String)
  | requestsNotList
  deriving Repr, DecidableEq, Inhabited

namespace InputFault

/-- The error that callers see. -/
def toError : InputFault → CompilerError
  | .notText kind typeName => .validation s!"{kind} input must be a string, got {typeName}"
  | .emptyText kind => .ofEmptyInput kind ""
  | .missing parameter => .validation s!"{parameter} is required"
  | .invalidCharacters parameter => .validation s!"{parameter} contains invalid characters"
  | .notPositive parameter => .validation s!"{parameter} must be a positive integer"
  | .tooLarge parameter limit => .validation s!"{parameter} cannot exceed {limit}"
  | .badStart given => .validation s!"start_index must be an integer >= 1, got {given}"
  | .requestsNotList => .validation "requests must be a list"

end InputFault

namespace Input

def markup (kind : String) : Json → Except InputFault Text
  | .str s => if s.isEmpty then .error (.emptyText kind) else .ok s.toList
  | value => .error (.notText kind value.typeName)

def isIdentifierChar (c : Char) : Bool := Text.isWordChar c || c == '-'

/-- Checks a document identifier; blanks around it are dropped. -/
def documentId (parameter : String) : Json → Except InputFault String
  | .str s =>
    let trimmed := Text.trimBlank s.toList
    if trimmed.isEmpty then .error (.missing parameter)
    else if trimmed.all isIdentifierChar then .ok (String.ofList trimmed)
    else .error (.invalidCharacters parameter)
  | _ => .error (.missing parameter)

/-- Checks a positive integer with an optional upper limit. -/
def positive (parameter : String) (limit : Option Int) : Json → Except InputFault Int
  | .int n =>
    if n < 1 then .error (.notPositive parameter)
    else
      match limit with
      | none => .ok n
      | some most => if n > most then .error (.tooLarge parameter most) else .ok n
  | _ => .error (.notPositive parameter)

def startIndex (given : Json) : Except InputFault Int :=
  match given with
  | .int n => if n < 1 then .error (.badStart given.literal) else .ok n
  | _ => .error (.badStart given.literal)

def requests : Json → Except InputFault (List Json)
  | .arr items => .ok items
  | _ => .error .requestsNotList

end Input

end MarkupCompiler
