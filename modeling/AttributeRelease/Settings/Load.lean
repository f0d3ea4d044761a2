import AttributeRelease.Declaration.Basic
import AttributeRelease.Settings.Variable
import AttributeRelease.Toml.Reader

/-!
Loading a declaration from several layers of settings.

Defaults come first, then the file of the user, the file of the project, the local file beside it,
and the environment. A later layer goes over an earlier one.
-/

namespace AttributeRelease.Settings

/-- The texts of the files that are there, and the environment. -/
structure Sources where
  user : Option String := none
  project : Option String := none
  beside : Option String := none
  environment : List (String × String) := []
  /-- What the names of variables start with. -/
  stem : String := "LANYARD"

/-- The file of a project, and the one with changes that are not shared. -/
def projectFile : String := "lanyard.toml"

def besideFile : String := "lanyard.local.toml"

/-- Adds the settings of a file. -/
def addFile (settings : Json) (text : String) : Option Json := do
  return (fieldsOf (← Toml.read? text)).foldl (fun settings f => set settings f.1 f.2) settings

/-- All settings together. -/
def merged? (s : Sources) : Option Json := do
  let files := s.user.toList ++ s.project.toList ++ s.beside.toList
  let settings ← files.foldlM addFile ({} : Declaration).toJson
  return addVariables s.stem settings s.environment

def load? (s : Sources) : Option Declaration := do
  Declaration.ofJson? .converting (← merged? s)

end AttributeRelease.Settings
