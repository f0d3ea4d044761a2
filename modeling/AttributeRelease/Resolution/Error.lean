import AttributeRelease.Attribute.Value

/-!
What goes wrong in a resolution, from the inside out: a backend fails, then the plugin that used
it, then the resolution.
-/

namespace AttributeRelease

inductive BackendFault where
  | connection
  | query
  | timeout
  | script
  | unavailable
deriving DecidableEq, Repr

def BackendFault.name : BackendFault → String
  | connection => "connection"
  | query => "query"
  | timeout => "timeout"
  | script => "script"
  | unavailable => "unavailable"

structure BackendError where
  fault : BackendFault
  text : String
  /-- The text of the error behind this one. -/
  source : Option String := none
deriving DecidableEq, Repr

def BackendError.message (e : BackendError) : String := s!"{e.fault.name} error: {e.text}"

inductive PluginError where
  | backend (e : BackendError)
  | noResult
  /-- A textual value was needed. -/
  | unsupportedValueType (actual : ValueKind)
  | missingTemplateValue (name : String)
  /-- What a backend returned makes no attributes. -/
  | mapping (reason : String)
deriving DecidableEq, Repr

namespace PluginError

/-- A search gave several entries where one was expected. -/
@[match_pattern] def ambiguousSearch (reason : String) : PluginError := mapping reason

def message : PluginError → String
  | backend e => s!"backend failure: {e.message}"
  | noResult => "no result returned from backend"
  | unsupportedValueType actual =>
    s!"unsupported value type: expected string, got {actual.name}"
  | missingTemplateValue name => s!"no value for query template parameter '{name}'"
  | mapping reason => s!"result mapping failed: {reason}"

def isUnsupportedValueType : PluginError → Bool
  | unsupportedValueType _ => true
  | _ => false

/-- The texts of an error and of those behind it. -/
def chain : PluginError → List String
  | backend e => (backend e).message :: e.message :: e.source.toList
  | e => [e.message]

end PluginError

/-! ### Resolutions -/

inductive ResolutionError where
  | plugin (id : String) (cause : PluginError)
  | failoverFailed (id failover : String) (primary : PluginError) (cause : ResolutionError)
deriving DecidableEq, Repr

namespace ResolutionError

/-- The plugin that failed. -/
def pluginId : ResolutionError → String
  | plugin id _ => id
  | failoverFailed id _ _ _ => id

def message : ResolutionError → String
  | plugin id cause => s!"plugin '{id}' failed: {cause.message}"
  | failoverFailed id failover primary cause =>
    s!"data connector '{id}' failed ({primary.message}) and failover '{failover}' " ++
      s!"also failed: {cause.message}"

/-- Whether it all began with a value of a kind that a plugin cannot use. -/
def isUnsupportedValueType : ResolutionError → Bool
  | plugin _ cause => cause.isUnsupportedValueType
  | failoverFailed _ _ _ cause => cause.isUnsupportedValueType

/-- The texts of the errors behind an error, the nearest first. -/
def causes : ResolutionError → List String
  | plugin _ cause => cause.chain
  | failoverFailed _ _ _ cause => cause.message :: cause.causes

end ResolutionError

/-- A connector whose backend did not pass its check. -/
structure ValidationError where
  plugin : String
  cause : BackendError
deriving DecidableEq, Repr

namespace ValidationError

def message (e : ValidationError) : String :=
  s!"data connector '{e.plugin}' failed validation: {e.cause.message}"

end ValidationError

end AttributeRelease
