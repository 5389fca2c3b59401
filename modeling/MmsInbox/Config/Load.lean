import MmsInbox.Config.Reading
import MmsInbox.File.Directory
import MmsInbox.Ron.Grammar

namespace MmsInbox

/-!
# Loading the configuration

The configuration is a file in RON. An override names it; without one the first that exists of a list
of places is taken.
-/

/-- Why no configuration was loaded. -/
inductive ConfigError where
  /-- The override names a file that is not there. -/
  | missingOverride (path : String)
  /-- None of the places has a file. -/
  | notFound (tried : String)
  | unreadable (path : String) (cause : File.Error)
  /-- The text of the file is no configuration. -/
  | invalid
  deriving Repr, DecidableEq

namespace ConfigError

/-- The error as it is reported. -/
def message : ConfigError → String
  | .missingOverride path => s!"MMSRX_CONFIG points to non-existent file: {path}"
  | .notFound tried =>
      "No configuration file found. Tried:\n  - MMSRX_CONFIG environment variable\n" ++ tried
  | .unreadable path cause => s!"Failed to read config from {path}: " ++ cause.message
  | .invalid => "Invalid configuration"

/-- The messages of the errors behind this one. -/
def causes : ConfigError → List String
  | .unreadable _ cause => [cause.message]
  | _ => []

end ConfigError

namespace Config

/-- The configuration that a text in RON lays over the standard values. -/
def parse (text : String) : Except ConfigError Config :=
  match (Ron.parse? text).bind (Config.read Ron.Value.dialect) with
  | some config => .ok config
  | none => .error .invalid

/-- The places of the configuration, in the order in which they are tried. -/
def places : List String :=
  ["./mmsrx.config.ron", "/etc/mmsrx/mmsrx.config.ron"]

/-- The path of the configuration. -/
def find
    (directory : File.Directory)
    (override : Option String) :
    Except ConfigError String :=
  match override with
  | some path =>
      if directory.holds path then .ok path else .error (.missingOverride path)
  | none =>
      match places.find? directory.holds with
      | some path => .ok path
      | none => .error (.notFound ("\n".intercalate (places.map ("  - " ++ ·))))

/-- Load the configuration from a path. -/
def loadFrom
    (directory : File.Directory)
    (path : String) :
    Except ConfigError Config :=
  match directory.readText path with
  | .ok text => parse text
  | .error cause => .error (.unreadable path cause)

/-- Find and load the configuration. -/
def load
    (directory : File.Directory)
    (override : Option String) :
    Except ConfigError Config := do
  loadFrom directory (← find directory override)

end Config

end MmsInbox
