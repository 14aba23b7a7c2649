/-!
# Errors

The errors of the compiler belong to one family. An error carries its message, and errors of some
classes carry one more thing: the stage of the conversion, the kind of the input or the status of
the service. What a call raises may also be foreign to the family; then only its text is of
interest.
-/

namespace MarkupCompiler

/-- Why the document service refused a call. -/
inductive Refusal where
  | permissionDenied
  | notFound
  | rateLimit
  | other
  deriving Repr, DecidableEq, Inhabited

/-- An error of the compiler or of the delivery to the document service. -/
inductive CompilerError where
  | general (message : String)
  | configuration (message : String)
  | validation (message : String)
  | emptyInput (kind message : String)
  | conversion (stage : Option String) (message : String)
  | service (refusal : Refusal) (status : Option Int) (message : String)
  | network (message : String)
  deriving Repr, DecidableEq, Inhabited

namespace CompilerError

def message : CompilerError → String
  | .general message => message
  | .configuration message => message
  | .validation message => message
  | .emptyInput _ message => message
  | .conversion _ message => message
  | .service _ _ message => message
  | .network message => message

def ofEmptyInput (kind message : String) : CompilerError :=
  let usual := s!"{kind} input must be a non-empty string"
  .emptyInput kind (if message.isEmpty then usual else message)

/-- An error as users see it, with the operation that failed. -/
def format (operation : String) (e : CompilerError) : String :=
  s!"{operation} failed: {e.message}"

end CompilerError

/-- What a call raises instead of an answer. -/
inductive Raised where
  | family (error : CompilerError)
  | foreign (text : String)
  deriving Repr, DecidableEq, Inhabited

end MarkupCompiler
