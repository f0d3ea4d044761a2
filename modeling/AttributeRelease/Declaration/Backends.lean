import AttributeRelease.Policy.Error
import AttributeRelease.Policy.Party
import AttributeRelease.Resolution.ConfigError
import AttributeRelease.Resolution.Template

/-!
The backends that declarations refer to by name, and why a declaration cannot be built.
-/

namespace AttributeRelease

inductive BackendKind where
  | directory
  | relational
  | script
deriving DecidableEq, Repr

def BackendKind.name : BackendKind → String
  | directory => "directory"
  | relational => "relational"
  | script => "script"

inductive BuildError where
  | resolver (e : ResolverError)
  | filter (e : FilterError)
  | unknownBackend (plugin : String) (kind : BackendKind) (backend : String)
  | template (plugin : String) (e : TemplateError)
  | pattern (plugin text : String)
deriving DecidableEq, Repr

/-- The text of an error. What is wrong with a pattern follows the text of its error. -/
def BuildError.message : BuildError → String
  | resolver e => s!"Invalid resolver configuration: {e.message}"
  | filter e => s!"Invalid filter configuration: {e.message}"
  | unknownBackend plugin kind backend =>
    s!"Plugin '{plugin}' references unknown {kind.name} backend '{backend}'"
  | template plugin e => s!"Plugin '{plugin}' has an invalid query template: {e.message}"
  | pattern plugin text => s!"Plugin '{plugin}' has an invalid pattern '{text}': "

structure Backends (σ : Type) where
  directories : SortedMap (DirectoryClient σ) := .empty
  databases : SortedMap (DatabaseClient σ) := .empty
  scripts : SortedMap (ScriptEngine σ) := .empty
  metadata : Option Metadata := none
  /-- Whether a backend that is not registered is taken for one that cannot be reached. -/
  offline : Bool := false

namespace Backends

variable {σ : Type} (b : Backends σ)

def lookUp {α : Type} (registry : SortedMap α) (kind : BackendKind) (unavailable : String → α)
    (plugin name : String) : Except BuildError α :=
  match registry.find? name with
  | some client => .ok client
  | none =>
    if b.offline then .ok (unavailable name) else .error (.unknownBackend plugin kind name)

def directory : (plugin name : String) → Except BuildError (DirectoryClient σ) :=
  b.lookUp b.directories .directory .unavailable

def database : (plugin name : String) → Except BuildError (DatabaseClient σ) :=
  b.lookUp b.databases .relational .unavailable

def script : (plugin name : String) → Except BuildError (ScriptEngine σ) :=
  b.lookUp b.scripts .script .unavailable

end Backends

end AttributeRelease
