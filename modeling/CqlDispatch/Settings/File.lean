import CqlDispatch.Settings.Toml
import CqlDispatch.Settings.Yaml
/-!
# Settings files

The extension of a file's name says in which format its settings are written.  A file may be
absent; then the reason stands in for its content.
-/
namespace CqlDispatch

inductive SettingsFormat where
  | yaml | toml
  deriving DecidableEq, Repr

namespace SettingsFormat

def name : SettingsFormat → String
  | yaml => "YAML" | toml => "TOML"

def unreadable (f : SettingsFormat) : Failure :=
  .configuration ("failed to parse " ++ f.name ++ " config")

def document? : SettingsFormat → String → Option SettingsDocument
  | yaml, s => (Yaml.parse? s).bind SettingsDocument.read?
  | toml, s => (Toml.parse? s).bind SettingsDocument.read?

def settings (f : SettingsFormat) (s : String) : Except Failure Settings :=
  match f.document? s with
  | some d => d.settings
  | none => .error f.unreadable

/-- The name that a path ends in: its last part, unless that leads one step back.  Empty parts and
single points lead nowhere. -/
def fileName? (path : String) : Option String :=
  match ((path.splitOn "/").filter fun part => part != "" && part != ".").getLast? with
  | some ".." | none => none
  | some name => some name

/-- What follows the last point of a name; a point at the start opens no extension. -/
def extension? (fileName : String) : Option String :=
  match fileName.toList.reverse.span (· ≠ '.') with
  | (_, []) | (_, ['.']) => none
  | (ending, _) => some (String.ofList ending.reverse)

/-- The format that the name at the end of a path announces. -/
def ofPath (path : String) : Except Failure SettingsFormat :=
  match (fileName? path).bind extension? with
  | some "yaml" | some "yml" => .ok yaml
  | some "toml" => .ok toml
  | some other =>
    .error (.configuration ("unsupported config file extension: ." ++ other ++
      " (expected .yaml, .yml, or .toml)"))
  | none => .error (.configuration "config file has no extension; expected .yaml, .yml, or .toml")

/-- Why a file that is not there cannot be read. -/
def absent : String := "No such file or directory (os error 2)"

/-- The settings in the file at a path, given its content or why that cannot be read. -/
def load (path : String) (content : Except String String) : Except Failure Settings := do
  let f ← ofPath path
  match content with
  | .ok s => f.settings s
  | .error reason => throw (.configuration ("failed to read " ++ f.name ++ " config file: " ++ reason))

end SettingsFormat

end CqlDispatch
