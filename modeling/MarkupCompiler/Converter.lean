import MarkupCompiler.Block.Extract
import MarkupCompiler.Config.Update
import MarkupCompiler.Html.Build
import MarkupCompiler.Markdown.Html
import MarkupCompiler.Request.Generator

/-!
# From markup to requests

Markup in HTML is read into a tree, cut into blocks and turned into requests; markup in Markdown is
turned into HTML first. Input is checked before it is read, and the start index after that. Reading
HTML and rendering Markdown is left to two front ends, either of which may fail.
-/

namespace MarkupCompiler

inductive MarkupKind where
  | html
  | markdown
  deriving Repr, DecidableEq, Inhabited

def MarkupKind.label : MarkupKind → String
  | .html => "HTML"
  | .markdown => "Markdown"

/-- What reads HTML into a tree, and what renders Markdown as HTML. A failure comes with its text. -/
structure FrontEnds where
  parse : Text → Except String (List Node)
  render : Text → Except String Text

/-- The front ends of this library; line breaks in Markdown are kept. -/
def FrontEnds.standard : FrontEnds where
  parse html := (Html.parse html).mapError Html.MarkupFault.message
  render text := .ok (Markdown.toHtml true text)

namespace Converter

def stageError (stage failed reason : String) : CompilerError :=
  .conversion (some stage) s!"Failed to {failed}: {reason}"

/-- The error that callers see when no requests could be generated. -/
def generateError : GenerateFault → CompilerError
  | .input fault => fault.toError
  | fault => stageError "compile" "convert HTML to document requests" fault.message

section

variable (frontEnds : FrontEnds)

def rendered (text : Text) : Except CompilerError Text :=
  if text.isEmpty then .ok []
  else (frontEnds.render text).mapError (stageError "markdown" "convert Markdown to HTML")

/-- The HTML that an input of a kind stands for, once it is checked. -/
def htmlOf (kind : MarkupKind) (source : Json) : Except CompilerError Text :=
  match Input.markup kind.label source with
  | .error fault => .error fault.toError
  | .ok text =>
    match kind with
    | .html => .ok text
    | .markdown => rendered frontEnds text

def blocksOf (html : Text) : Except CompilerError (List Block) :=
  match frontEnds.parse html with
  | .error reason => .error (stageError "html" "parse HTML" reason)
  | .ok nodes => .ok (Block.ofRoot (.document nodes))

/-- The blocks of an input in HTML. -/
def extract (source : Json) : Except CompilerError (List Block) :=
  match htmlOf frontEnds .html source with
  | .error e => .error e
  | .ok html => blocksOf frontEnds html

def compile (config : Config) (kind : MarkupKind) (source start : Json) :
    Except CompilerError (List Request) :=
  match htmlOf frontEnds kind source with
  | .error e => .error e
  | .ok html =>
    match blocksOf frontEnds html with
    | .error e => .error e
    | .ok blocks => (Generator.generate blocks start { config := config }).1.mapError generateError

end

def updateBody (requests : List Json) : Json := .obj [("requests", .arr requests)]

def checkedUpdateBody (documentId requests : Json) : Except InputFault Json :=
  match Input.documentId "document_id" documentId with
  | .error fault => .error fault
  | .ok _ => (Input.requests requests).map updateBody

end Converter

end MarkupCompiler
