import MarkupCompiler.Number.DecimalNotation
import MarkupCompiler.Number.DecimalText

/-!
# Settings

The server is set up by environment variables, each with a default. The settings in use are read
once and kept until they are asked to be read again; variables that are refused leave them alone.
-/

namespace MarkupCompiler

/-- The variables of an environment. -/
abbrev Environment := List (String × String)

/-- How the server talks to its clients. -/
inductive Transport where
  | stdio
  | http
  | sse
  deriving Repr, DecidableEq, Inhabited

def Transport.name : Transport → String
  | .stdio => "stdio"
  | .http => "http"
  | .sse => "sse"

def Transport.ofName? (name : String) : Option Transport :=
  [Transport.stdio, .http, .sse].find? fun t => t.name == name

structure Settings where
  serverName : String
  logLevel : String
  listIndent : Float
  transport : Transport
  credentials? : Option String
  deriving Repr, Inhabited

/-- Why an environment was refused. -/
inductive SettingsFault where
  | unknownLevel (level : String)
  | indentNotNumber (raw : String)
  | negativeIndent
  | unknownTransport
  deriving Repr, DecidableEq

namespace SettingsFault

def message : SettingsFault → String
  | .unknownLevel level => s!"GDOCS_COMPILER_LOG_LEVEL has unknown level '{level}'"
  | .indentNotNumber raw => s!"GDOCS_COMPILER_LIST_INDENT_PT must be a number, got '{raw}'"
  | .negativeIndent => "GDOCS_COMPILER_LIST_INDENT_PT cannot be negative"
  | .unknownTransport => "GDOCS_COMPILER_TRANSPORT must be one of stdio, http, sse"

end SettingsFault

namespace Settings

/-- The levels of log messages. -/
def levels : List String :=
  ["CRITICAL", "FATAL", "ERROR", "WARN", "WARNING", "INFO", "DEBUG", "NOTSET"]

def valueOf (env : Environment) (name default : String) : String :=
  (env.lookup name).getD default

def readLevel (raw : String) : Except SettingsFault String :=
  let level := String.ofList (Text.upper raw.toList)
  if levels.contains level then .ok level else .error (.unknownLevel level)

/-- Reads the indent of nested list items. -/
def readIndent (raw : String) : Except SettingsFault Float :=
  match DecimalText.read? raw.toList with
  | none => .error (.indentNotNumber raw)
  | some x => if x < 0 then .error .negativeIndent else .ok x

def readTransport (raw : String) : Except SettingsFault Transport :=
  match Transport.ofName? (Text.lowerName raw) with
  | none => .error .unknownTransport
  | some transport => .ok transport

/-- The settings that an environment gives; the level is checked first, the transport last. -/
def ofEnvironment (env : Environment) : Except SettingsFault Settings := do
  let level ← readLevel (valueOf env "GDOCS_COMPILER_LOG_LEVEL" "INFO")
  let indent ← readIndent (valueOf env "GDOCS_COMPILER_LIST_INDENT_PT" "36.0")
  let transport ← readTransport (valueOf env "GDOCS_COMPILER_TRANSPORT" "stdio")
  let credentials := valueOf env "GOOGLE_APPLICATION_CREDENTIALS" ""
  .ok
    { serverName := valueOf env "GDOCS_COMPILER_SERVER_NAME" "GDocs HTML Compiler"
      logLevel := level
      listIndent := indent
      transport := transport
      credentials? := if credentials.isEmpty then none else some credentials }

/-- Whether requests can be submitted. -/
def isConfigured (s : Settings) : Bool := s.credentials?.isSome

/-- The settings on one line, without the credentials themselves. -/
def summary (s : Settings) : String :=
  s!"server_name={s.serverName}, log_level={s.logLevel}, " ++
    s!"list_indent_pt={DecimalNotation.write .plain s.listIndent}, " ++
    s!"transport={s.transport.name}, credentials=" ++
    (if s.isConfigured then "configured" else "missing")

end Settings

/-- The settings in use, once they were read. -/
structure SettingsCache where
  current? : Option Settings := none

namespace SettingsCache

/-- Reads the settings from an environment and keeps them. -/
def reload (env : Environment) (cache : SettingsCache) :
    Except SettingsFault Settings × SettingsCache :=
  match Settings.ofEnvironment env with
  | .error fault => (.error fault, cache)
  | .ok settings => (.ok settings, ⟨some settings⟩)

/-- The settings in use; they are read if that did not happen yet. -/
def get (env : Environment) (cache : SettingsCache) :
    Except SettingsFault Settings × SettingsCache :=
  match cache.current? with
  | some settings => (.ok settings, cache)
  | none => cache.reload env

end SettingsCache

end MarkupCompiler
