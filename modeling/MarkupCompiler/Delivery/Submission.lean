import MarkupCompiler.Converter
import MarkupCompiler.Delivery.Attempt

/-!
# Submitting requests

Requests are submitted in one call, which is never repeated; an empty list needs no call. An
insertion compiles markup and submits the requests. Its input is checked before the markup is
compiled, and nothing is submitted unless the markup compiles.
-/

namespace MarkupCompiler

structure ServiceCall where
  documentId : String
  body : Json

/-- A service, by what it does at each call. -/
abbrev Service := Nat → Outcome

/-- A service that does the same at each call. -/
instance : Coe Outcome Service where
  coe outcome _ := outcome

structure Delivered (α : Type) where
  answer : Except Raised α
  calls : List ServiceCall := []

namespace Delivery

def updateName : String := "batch_update_doc"

/-- What is wrong with a response whose replies cannot be counted. -/
def uncountable? : Json → Option String
  | .arr _ | .str _ | .obj _ => none
  | value => some s!"object of type '{value.typeName}' has no len()"

def badResponse? : Json → Option String
  | .obj members => (members.lookup "replies").bind uncountable?
  | value => some s!"'{value.typeName}' object has no attribute 'get'"

/-- What a call comes to when the replies in its response are counted. -/
def counted : Outcome → Outcome
  | .returned value =>
    match badResponse? value with
    | some reason => .crashed reason
    | none => .returned value
  | outcome => outcome

/-- What one try at submitting requests does, and the calls that it makes. -/
def submission (documentId requests : Json) (outcome : Outcome) : Outcome × List ServiceCall :=
  match Input.documentId "document_id" documentId with
  | .error fault => (.failed fault.toError, [])
  | .ok id =>
    match Input.requests requests with
    | .error fault => (.failed fault.toError, [])
    | .ok [] => (.returned (.obj [("documentId", .str id), ("replies", .arr [])]), [])
    | .ok _ =>
      match Converter.checkedUpdateBody (.str id) requests with
      | .error fault => (.failed fault.toError, [])
      | .ok body => (counted outcome, [⟨id, body⟩])

/-- The operation that submits requests to a document; it writes, so it is not tried again. -/
def updateOperation (documentId : Json) : Operation where
  name := updateName
  document :=
    match documentId with
    | .str id => some id
    | _ => none

/-- Submits requests; each try at it makes its own calls. -/
def update (documentId requests : Json) (service : Service) : Delivered Json :=
  let tried (index : Nat) := submission documentId requests (service index)
  let done := (updateOperation documentId).attempt fun index => (tried index).1
  ⟨done.answer, (List.range done.calls).flatMap fun index => (tried index).2⟩

def link (documentId : String) : String := s!"https://docs.google.com/document/d/{documentId}/edit"

/-- What an insertion says when it is done. -/
def confirmation (kind : MarkupKind) (index : Int) (documentId : String) (count : Nat) : String :=
  s!"Inserted {kind.label} content at index {index} in document {documentId} " ++
    s!"({count} requests). Link: {link documentId}"

/-- Compiles markup and submits the requests. What is asked for is put on record before that. -/
def insert (frontEnds : FrontEnds) (config : Config) (kind : MarkupKind)
    (documentId source index : Json) (service : Service) : Delivered String :=
  match Input.documentId "document_id" documentId with
  | .error fault => { answer := .error (.family fault.toError) }
  | .ok id =>
    match Input.positive "index" none index with
    | .error fault => { answer := .error (.family fault.toError) }
    | .ok position =>
      if !IntegerText.isWritable position then
        { answer := .error (.foreign IntegerFault.unwritable.message) }
      else
        match Converter.compile frontEnds config kind source index with
        | .error e => { answer := .error (.family e) }
        | .ok requests =>
          let delivered := update (.str id) (Request.listToJson requests) service
          { answer := delivered.answer.map fun _ => confirmation kind position id requests.length
            calls := delivered.calls }

end Delivery

end MarkupCompiler
