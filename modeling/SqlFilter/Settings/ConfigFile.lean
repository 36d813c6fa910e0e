import SqlFilter.Host.Basic
import SqlFilter.Json.Reader
import SqlFilter.Settings.Basic
/-! The configuration files of a host, and the settings that they make together. -/
namespace SqlFilter

/-- Why the configuration files make no settings. -/
inductive SettingsError
  | notFound (path : String)
  | unreadable (path : String) (fault : ReadFault)
  | malformed (path : String)
  | unusableSchema (name : String) (fault : SchemaFault)
deriving DecidableEq, Repr

namespace SettingsError

def message : SettingsError → String
  | .notFound path => "Config file not found: " ++ path
  | .unreadable path _ => "Failed to read config file: " ++ path
  | .malformed path => "Failed to parse config file: " ++ path
  | .unusableSchema name fault => fault.message name

/-- What is behind an error, if anything is known. -/
def cause? : SettingsError → Option String
  | .unreadable _ fault => some fault.message
  | _ => none

end SettingsError

/-- A layer, with the members of its text that mean nothing. A configuration file is an object. -/
def Layer.parse? (text : String) : Option (Layer × List String) := do
  let members ← (← Json.Written.parse? text).members?
  return (← Layer.ofMembers? members, ← Layer.unknownMembers? members)

/-- A place for a configuration file, under the path that messages give, and what is there. -/
structure ConfigFile where
  path : String
  required : Bool
  content : Except ReadFault String

namespace ConfigFile

/-- The layer of a file. One that is not required may be absent. -/
def layer (f : ConfigFile) : Except SettingsError (Option (Layer × List String)) :=
  match f.content with
  | .error fault =>
    if !fault.isAbsent then .error (.unreadable f.path fault)
    else if f.required then .error (.notFound f.path)
    else .ok none
  | .ok text =>
    match Layer.parse? text with
    | some read => .ok (some read)
    | none => .error (.malformed f.path)

/-- One warning for all members of a file that mean nothing. -/
def warnings (unknown : List String) : List String :=
  if unknown.isEmpty then [] else [", ".intercalate unknown]

/-- Lays files over a layer, the last on top. The warnings are those of the files before an error. -/
def stack (base : Layer) : List ConfigFile → List String × Except SettingsError Layer
  | [] => ([], .ok base)
  | f :: rest =>
    match f.layer with
    | .error e => ([], .error e)
    | .ok none => stack base rest
    | .ok (some (upper, unknown)) =>
      let (later, result) := stack (base.merge upper) rest
      (warnings unknown ++ later, result)

/-- The name of a configuration file. -/
def fileName : String := "predsql.json"

/-- The file for all working directories of a user. -/
def userPath (home : String) : String :=
  Path.join (Path.join home ".predsql") fileName

end ConfigFile

namespace Host
variable {m : Type → Type} [Monad m]

def configFile (host : Host m) (path : String) (required : Bool) : m ConfigFile := do
  return ⟨path, required, ← host.readText path⟩

/-- The files that count: the one of the user, and over it the one that is asked for, or else the one
of the working directory. -/
def configFiles (host : Host m) (config : Option String) : m (List ConfigFile) := do
  let user ← match host.home with
    | some home => pure [← host.configFile (ConfigFile.userPath home) false]
    | none => pure []
  let top ← match config with
    | some path => host.configFile (host.expandPath path) true
    | none => host.configFile ConfigFile.fileName false
  return user ++ [top]

end Host

namespace Settings

/-- Settings whose schemas can all be used. -/
def checked (s : Settings) : Except SettingsError Settings :=
  match s.fault? with
  | some (name, fault) => .error (.unusableSchema name fault)
  | none => .ok s

/-- The settings that files make under overrides, with warnings. -/
def ofFiles (o : Overrides) (files : List ConfigFile) :
    List String × Except SettingsError Settings :=
  let (warnings, result) := ConfigFile.stack .empty files
  (warnings, result.bind fun l => (resolve l o).checked)

/-- The settings of a host. -/
def load {m : Type → Type} [Monad m] (host : Host m) (o : Overrides) :
    m (List String × Except SettingsError Settings) := do
  return ofFiles o (← host.configFiles o.config)

end Settings
end SqlFilter
