import AttributeRelease.Resolution.Request

/-!
What all plugins of a resolver have in common: an id, the plugins whose attributes they use, and
the contexts in which they are active.
-/

namespace AttributeRelease

/-- A use of another plugin: of all of its attributes, or of one. -/
structure Dependency where
  plugin : String
  sourceAttribute : Option String := none
deriving DecidableEq, Repr

/-- The contexts in which a plugin does its work. In others the resolution goes on without its
attributes. -/
abbrev Activation := ResolutionContext → Bool

namespace Activation

def always : Activation := fun _ => true

def isListed (l : List String) : Option String → Bool
  | some s => l.contains s
  | none => false

/-- A restriction to recipients and to authentication methods. An empty list restricts nothing. -/
def ofLists (recipients methods : List String) : Activation := fun c =>
  (recipients.isEmpty || isListed recipients c.request.recipient) &&
    (methods.isEmpty || isListed methods c.request.authenticationMethod)

def ofPrincipals (principals : List String) : Activation := fun c =>
  isListed principals c.request.principal

end Activation

structure PluginSpec where
  id : String
  dependencies : List Dependency := []
  isActive : Activation := .always

/-! ### Settings -/

inductive Setting where
  | staticValue
  | searchFilter
  | queryTemplate
  | dependency
  | scope
  | scriptSource
deriving DecidableEq, Repr

def Setting.shown : Setting → String
  | staticValue => "static value"
  | searchFilter => "search filter"
  | queryTemplate => "query template"
  | dependency => "dependency"
  | scope => "scope"
  | scriptSource => "script source"

end AttributeRelease
