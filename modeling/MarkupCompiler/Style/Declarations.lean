import MarkupCompiler.Text.Basic
import MarkupCompiler.Text.Case

/-!
# Style declarations

A style attribute holds declarations `property: value` with semicolons between them. Properties
are put into lower case and both sides are trimmed; a declaration without a colon, a property or
a value counts for nothing. A repeated property keeps its first place and takes its last value.
-/

namespace MarkupCompiler

/-- Properties with their values, each property once. -/
abbrev Declarations := List (Text × Text)

namespace Declarations

/-- Sets a property, in its old place if it is there already. -/
def set (property value : Text) : Declarations → Declarations
  | [] => [(property, value)]
  | (p, v) :: rest =>
    if p == property then (p, value) :: rest else (p, v) :: set property value rest

/-- Sets the properties of `later` one after another. -/
def update (earlier later : Declarations) : Declarations :=
  later.foldl (fun ds (p, v) => set p v ds) earlier

def declaration? (t : Text) : Option (Text × Text) :=
  match Text.splitFirst? ':' t with
  | none => none
  | some (before, after) =>
    let property := Text.lower (Text.trimBlank before)
    let value := Text.trimBlank after
    if property.isEmpty || value.isEmpty then none else some (property, value)

/-- Reads a style attribute. -/
def parse (t : Text) : Declarations :=
  update [] ((Text.split ';' t).filterMap declaration?)

def value? (ds : Declarations) (property : String) : Option Text := ds.lookup property.toList

end Declarations

end MarkupCompiler
