import MarkupCompiler.Number.DecimalNotation
import MarkupCompiler.Number.DecimalText

/-!
# JSON values

Values keep the order of an object's members and the difference between integers and fractions;
integers are unbounded. Callers pass arguments of any type, so the type of a value has a name
that messages use. A message shows an offending value as a literal: strings in quotes, `None`,
`True` and `False` for the constants, lists and dictionaries with their parts.
-/

namespace MarkupCompiler

inductive Json where
  | null
  | bool (b : Bool)
  | int (n : Int)
  | float (x : Float)
  | str (s : String)
  | arr (items : List Json)
  | obj (members : List (String × Json))
  deriving Inhabited

namespace Json

def typeName : Json → String
  | .null => "NoneType"
  | .bool _ => "bool"
  | .int _ => "int"
  | .float _ => "float"
  | .str _ => "str"
  | .arr _ => "list"
  | .obj _ => "dict"

/-- The member of an object with a given name. -/
def get? (name : String) : Json → Option Json
  | .obj members => members.lookup name
  | _ => none

mutual

def literal : Json → String
  | .null => "None"
  | .bool true => "True"
  | .bool false => "False"
  | .int n => toString n
  | .float x => DecimalNotation.write .plain x
  | .str s => String.ofList (Text.quoted s.toList)
  | .arr items => "[" ++ ", ".intercalate (literals items) ++ "]"
  | .obj members => "\x7b" ++ ", ".intercalate (memberLiterals members) ++ "\x7d"

def literals : List Json → List String
  | [] => []
  | item :: items => literal item :: literals items

/-- Members as literals, name and value with a colon between them. -/
def memberLiterals : List (String × Json) → List String
  | [] => []
  | (name, value) :: members =>
    (String.ofList (Text.quoted name.toList) ++ ": " ++ literal value) :: memberLiterals members

end

mutual

/-- Whether all integers in a value can be written. -/
def isWritable : Json → Bool
  | .int n => IntegerText.isWritable n
  | .arr items => areWritable items
  | .obj members => membersAreWritable members
  | .null | .bool _ | .float _ | .str _ => true

def areWritable : List Json → Bool
  | [] => true
  | item :: items => isWritable item && areWritable items

def membersAreWritable : List (String × Json) → Bool
  | [] => true
  | (_, value) :: members => isWritable value && membersAreWritable members

end

end Json

end MarkupCompiler
