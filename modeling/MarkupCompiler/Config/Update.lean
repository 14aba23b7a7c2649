import MarkupCompiler.Config.Basic

/-!
# Changing a configuration

Options are changed by name. A style is merged into the style that the option holds and must be of
the same kind; an option that holds no style takes the new value as it is. Changes are checked in
the order given, and a refused list of changes changes nothing. Call after call, a configuration
is changed or set back to the defaults.
-/

namespace MarkupCompiler

/-- Why a configuration was refused. -/
inductive ConfigFault where
  | unknownOption (name : String)
  | wrongKind (name expected : String)
  | negativeIndent (value : Float)
  | unusable
  deriving Repr, DecidableEq

namespace ConfigFault

/-- The message; an unusable value has none of its own. -/
def message : ConfigFault → String
  | .unknownOption name => s!"Unknown converter option: {name}"
  | .wrongKind name expected => s!"{name} must be a {expected}"
  | .negativeIndent value =>
    s!"list_indent_pt must be non-negative, got {DecimalNotation.write .plain value}"
  | .unusable => ""

end ConfigFault

namespace OptionValue

def updated (name : String) (current new : OptionValue) : Except ConfigFault OptionValue :=
  match current, new with
  | _, .unset => .ok .unset
  | .textStyle old, .textStyle style => .ok (.textStyle (old.merged style))
  | .textStyle _, _ => .error (.wrongKind name TextStyle.kindName)
  | .paragraphStyle old, .paragraphStyle style => .ok (.paragraphStyle (old.merged style))
  | .paragraphStyle _, _ => .error (.wrongKind name ParagraphStyle.kindName)
  | _, value => .ok value

def number? : OptionValue → Option Float
  | .scalar (.float x) => some x
  | .scalar (.int n) => some (DecimalText.ofInt n)
  | .scalar (.bool b) => some (if b then 1.0 else 0.0)
  | _ => none

end OptionValue

namespace Config

/-- The names of the options. -/
def paragraphName : String := "default_paragraph_style"

def headingName : String := "default_heading_style"

def textName : String := "default_text_style"

def indentName : String := "list_indent_pt"

/-- Names that a configuration knows and that are no options; setting one is refused last. -/
def reservedNames : List String :=
  ["with_updates", "paragraph_style_for", "text_style_for", "list_item_indent", "__post_init__",
    "__annotations__", "__class__", "__dataclass_fields__", "__dataclass_params__",
    "__delattr__", "__dict__", "__dir__", "__doc__", "__eq__", "__format__", "__ge__",
    "__getattribute__", "__getstate__", "__gt__", "__hash__", "__init__", "__init_subclass__",
    "__le__", "__lt__", "__match_args__", "__module__", "__ne__", "__new__", "__reduce__",
    "__reduce_ex__", "__repr__", "__setattr__", "__sizeof__", "__str__", "__subclasshook__",
    "__weakref__"]

def checked (config : Config) (indent : OptionValue) : Except ConfigFault Config :=
  match indent.number? with
  | none => .error .unusable
  | some x => if x < 0 then .error (.negativeIndent x) else .ok { config with listIndent := x }

structure Draft where
  config : Config
  indent : OptionValue
  namesReserved : Bool := false

def Draft.change (draft : Draft) (name : String) (value : OptionValue) :
    Except ConfigFault Draft :=
  let config := draft.config
  if name == paragraphName then
    (config.paragraphDefault.updated name value).map fun v =>
      { draft with config := { config with paragraphDefault := v } }
  else if name == headingName then
    (config.headingDefault.updated name value).map fun v =>
      { draft with config := { config with headingDefault := v } }
  else if name == textName then
    (config.textDefault.updated name value).map fun v =>
      { draft with config := { config with textDefault := v } }
  else if name == indentName then .ok { draft with indent := value }
  else if reservedNames.contains name then .ok { draft with namesReserved := true }
  else .error (.unknownOption name)

def Draft.changeAll (draft : Draft) : List (String × OptionValue) → Except ConfigFault Draft
  | [] => .ok draft
  | (name, value) :: changes =>
    match draft.change name value with
    | .error fault => .error fault
    | .ok draft => draft.changeAll changes

def withUpdates (config : Config) (changes : List (String × OptionValue)) :
    Except ConfigFault Config :=
  if changes.any fun (name, _) => name == "self" then .error .unusable
  else
    match Draft.changeAll ⟨config, .scalar (.float config.listIndent), false⟩ changes with
    | .error fault => .error fault
    | .ok draft =>
      if draft.namesReserved then .error .unusable else draft.config.checked draft.indent

end Config

/-- Whether a refusal is one of a value, not one of a call that cannot be made at all. -/
def ConfigFault.isValueFault : ConfigFault → Bool
  | .unusable => false
  | _ => true

/-- Changes of options by name; no name comes twice. -/
structure ConfigChanges where
  entries : List (String × OptionValue)
  nodup : (entries.map Prod.fst).Nodup

inductive ConfigCall where
  | update (changes : ConfigChanges)
  | reset

namespace ConfigCall

def run (config : Config) : ConfigCall → Except ConfigFault Config
  | .update changes => config.withUpdates changes.entries
  | .reset => .ok {}

def after (config : Config) (call : ConfigCall) : Config :=
  match call.run config with
  | .ok changed => changed
  | .error _ => config

end ConfigCall

end MarkupCompiler
