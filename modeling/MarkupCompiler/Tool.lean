import MarkupCompiler.Delivery.Submission
import MarkupCompiler.Json.Writer
import MarkupCompiler.Settings

/-!
# Tools

Four tools answer with text: two convert markup and show the requests, two insert it into a
document. A tool puts on record what it is asked for, and then does it. An error of the compiler's
family becomes part of the text. Anything else that goes wrong leaves a tool without an answer.
-/

namespace MarkupCompiler

inductive Tool where
  | convert (kind : MarkupKind)
  | insert (kind : MarkupKind)
  deriving Repr, DecidableEq, Inhabited

structure ToolAnswer where
  text : String
  calls : List ServiceCall := []

/-- Why a tool gives no answer: its arguments do not fit, the settings make no configuration, or
something foreign to the family of errors was raised. -/
inductive ToolFault where
  | arguments
  | configuration (fault : ConfigFault)
  | foreign (text : String)
  deriving Repr, DecidableEq

namespace Tool

def name : Tool → String
  | .convert .html => "convert_html_to_requests"
  | .convert .markdown => "convert_markdown_to_requests"
  | .insert .html => "insert_html_into_doc"
  | .insert .markdown => "insert_markdown_into_doc"

def ofName? (name : String) : Option Tool :=
  [Tool.convert .html, .convert .markdown, .insert .html, .insert .markdown].find? fun tool =>
    tool.name == name

/-- The argument that holds the markup. -/
def markupParameter : MarkupKind → String
  | .html => "html"
  | .markdown => "markdown_text"

/-- The arguments that a tool must have, and the one that it may have. -/
def parameters : Tool → List String × String
  | .convert kind => ([markupParameter kind], "start_index")
  | .insert kind => (["document_id", markupParameter kind], "index")

/-- Whether a tool has all arguments that it needs and none that it does not know. -/
def accepts (tool : Tool) (arguments : List (String × Json)) : Bool :=
  let (needed, optional) := tool.parameters
  needed.all (fun p => (arguments.lookup p).isSome) &&
    arguments.all fun (p, _) => needed.contains p || p == optional

/-- Whether a value has a length. -/
def hasLength : Json → Bool
  | .str _ | .arr _ | .obj _ => true
  | _ => false

def errorText (tool : Tool) (e : CompilerError) : String := s!"Error: {e.format tool.name}"

def noCredentials : CompilerError :=
  .configuration ("GOOGLE_APPLICATION_CREDENTIALS is not set; document insertion needs a " ++
    "service-account key")

def config (settings : Settings) : Except ConfigFault Config :=
  Config.checked {} (.scalar (.float settings.listIndent))

/-- A record that shows some arguments. -/
def recorded (shown : List Json) : Except ToolFault Unit :=
  if shown.all Json.isWritable then .ok () else .error (.foreign IntegerFault.unwritable.message)

def dumped (value : Json) : Except ToolFault String :=
  if value.isWritable then .ok value.pretty else .error (.foreign IntegerFault.unwritable.message)

section

variable (frontEnds : FrontEnds)

def convertText (config : Config) (kind : MarkupKind) (source start : Json) :
    Except ToolFault String :=
  match Converter.compile frontEnds config kind source start with
  | .ok requests => dumped (Request.listToJson requests)
  | .error e => .ok (errorText (.convert kind) e)

/-- Converts markup; its length is asked for first. -/
def convertAnswer (settings : Settings) (kind : MarkupKind) (source start : Json) :
    Except ToolFault ToolAnswer :=
  if hasLength source then do
    recorded [start]
    let config ← (config settings).mapError .configuration
    let text ← convertText frontEnds config kind source start
    .ok { text := text }
  else .error .arguments

/-- What a tool makes of an insertion. -/
def relayed (kind : MarkupKind) (delivered : Delivered String) : Except ToolFault ToolAnswer :=
  match delivered.answer with
  | .ok text => .ok ⟨text, delivered.calls⟩
  | .error (.family e) => .ok ⟨errorText (.insert kind) e, delivered.calls⟩
  | .error (.foreign text) => .error (.foreign text)

def insertAnswer (settings : Settings) (kind : MarkupKind)
    (connection : Except CompilerError Service) (documentId source index : Json) :
    Except ToolFault ToolAnswer := do
  recorded [documentId, index]
  match connection with
  | .error e => .ok { text := errorText (.insert kind) e }
  | .ok service =>
    let config ← (config settings).mapError .configuration
    relayed kind (Delivery.insert frontEnds config kind documentId source index service)

/-- Answers a call with arguments by name. The service is reached, or an error says why not. -/
def answer (tool : Tool) (settings : Settings) (connection : Except CompilerError Service)
    (arguments : List (String × Json)) : Except ToolFault ToolAnswer :=
  let argument (name : String) : Json := (arguments.lookup name).getD .null
  let index (name : String) : Json := (arguments.lookup name).getD (.int 1)
  if !tool.accepts arguments then .error .arguments
  else
    match tool with
    | .convert kind =>
      convertAnswer frontEnds settings kind (argument (markupParameter kind)) (index "start_index")
    | .insert kind =>
      insertAnswer frontEnds settings kind connection (argument "document_id")
        (argument (markupParameter kind)) (index "index")

/-- Runs a tool where the service is at hand or no credentials are configured. -/
def run (tool : Tool) (settings : Settings) (hasService : Bool) (arguments : List (String × Json))
    (service : Service) : Except ToolFault ToolAnswer :=
  tool.answer frontEnds settings (if hasService then .ok service else .error noCredentials) arguments

end

end Tool

end MarkupCompiler
