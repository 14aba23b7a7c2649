import MarkupCompiler.Error.Basic
import MarkupCompiler.Json.Value

/-!
# Calls of the document service

A call may return a value or fail in several ways. Whatever happens, the caller is to see a value or
an error of the compiler's family. Only a failure of the secure connection is tried again, only for
calls that read, and only twice; each pause is twice as long as the one before.
-/

namespace MarkupCompiler

/-- What one call of the service does. -/
inductive Outcome where
  | returned (value : Json)
  | connectionLost (reason : String)
  | refused (status : Option Int) (text : String)
  | failed (error : CompilerError)
  | crashed (reason : String)
  deriving Inhabited

def Text.occursIn (part : Text) : Text → Bool
  | [] => part.isEmpty
  | c :: rest => part.isPrefixOf (c :: rest) || Text.occursIn part rest

namespace Refusal

/-- Whether a refusal is of a status: it says so, or has no status but names it in its text. -/
def isStatus (code : Nat) (status : Option Int) (text : String) : Bool :=
  match status with
  | some given => given == code
  | none => Text.occursIn (toString code).toList text.toList

def ofStatus (status : Option Int) (text : String) : Refusal :=
  if isStatus 404 status text then .notFound
  else if isStatus 403 status text then .permissionDenied
  else if isStatus 429 status text then .rateLimit
  else .other

/-- The status of the error for a refusal, whose own status may be missing. -/
def status (given : Option Int) : Refusal → Option Int
  | .notFound => some 404
  | .permissionDenied => some 403
  | .rateLimit => some 429
  | .other => given

/-- What the error for a refusal says. -/
def message (document text : String) : Refusal → String
  | .notFound => s!"Document not found: {document}"
  | .permissionDenied =>
    "Permission denied. You may not have write access to this document."
  | .rateLimit => "Rate limit exceeded. Please wait and try again."
  | .other => s!"Google API error: {text}"

end Refusal

/-- A document as messages name it: by its identifier, unless that is missing or empty. -/
def shownDocument : Option String → String
  | some id => if id.isEmpty then "unknown" else id
  | none => "unknown"

def refusalError (status : Option Int) (text : String) (document : Option String) : CompilerError :=
  let refusal := Refusal.ofStatus status text
  .service refusal (refusal.status status) (refusal.message (shownDocument document) text)

structure Operation where
  name : String
  isReadOnly : Bool := false
  /-- The document that messages name. -/
  document : Option String := none

/-- What is done in the course of an operation: the service is called, or so many seconds pass. -/
inductive Action where
  | call
  | pause (seconds : Nat)
  deriving Repr, DecidableEq, Inhabited

/-- How far an operation has come: what was done, in order, and its answer once one is decided. -/
structure Attempts where
  actions : List Action := []
  answer? : Option (Except Raised Json) := none

namespace Attempts

/-- What the caller of the operation sees; an operation that ends undecided has answered nothing. -/
def answer (a : Attempts) : Except Raised Json := a.answer?.getD (.ok .null)

def calls (a : Attempts) : Nat := a.actions.count .call

def pauses (a : Attempts) : List Nat :=
  a.actions.filterMap fun
    | .call => none
    | .pause seconds => some seconds

end Attempts

namespace Operation

/-- How many calls an operation makes at most. -/
def maxCalls : Nat := 3

def firstPause : Nat := 1

/-- The seconds of the pause after the `index`-th call. -/
def pauseAfter : Nat → Nat
  | 0 => firstPause
  | index + 1 => 2 * pauseAfter index

/-- The error when the connection was lost in the last of so many calls. -/
def connectionError (op : Operation) (calls : Nat) : CompilerError :=
  .network (s!"A transient SSL error occurred in '{op.name}' after {calls} attempt(s). " ++
    "This is likely a temporary network or certificate issue. Please try again shortly.")

/-- The answer that a call decides, unless it lost the connection. -/
def answer? (op : Operation) : Outcome → Option (Except Raised Json)
  | .returned value => some (.ok value)
  | .connectionLost _ => none
  | .refused status text =>
    let refusal := Refusal.ofStatus status text
    let message := refusal.message (shownDocument op.document) text
    some (.error (.family
      (.service refusal (refusal.status status) s!"API error in {op.name}: {message}")))
  | .failed error => some (.error (.family error))
  | .crashed reason =>
    some (.error (.family
      (.service .other none s!"An unexpected error occurred in {op.name}: {reason}")))

/-- One pass: unless there is an answer already, the service is called for the `index`-th time. -/
def pass (op : Operation) (outcome : Nat → Outcome) (done : Attempts) (index : Nat) : Attempts :=
  match done.answer? with
  | some _ => done
  | none =>
    let called := done.actions ++ [.call]
    match op.answer? (outcome index) with
    | some answer => ⟨called, some answer⟩
    | none =>
      if op.isReadOnly && index < maxCalls - 1 then
        ⟨called ++ [.pause (pauseAfter index)], none⟩
      else ⟨called, some (.error (.family (op.connectionError (index + 1))))⟩

/-- Calls the service until an answer is decided; `outcome` tells what each call does. -/
def attempt (op : Operation) (outcome : Nat → Outcome) : Attempts :=
  (List.range maxCalls).foldl (op.pass outcome) {}

end Operation

end MarkupCompiler
