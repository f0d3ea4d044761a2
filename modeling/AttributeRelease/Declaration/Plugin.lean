import AttributeRelease.Json.Decode
import AttributeRelease.Resolution.Mapping
import AttributeRelease.Resolution.Plugin

/-!
What the declarations of all plugins share.
-/

namespace AttributeRelease

open Json

namespace Dependency

def toJson (d : Dependency) : Json :=
  .obj ([("plugin", .str d.plugin)] ++ field? "source_attribute" (d.sourceAttribute.map .str))

def ofJson? (m : Manner) (j : Json) : Option Dependency := do
  let f ← fields? m ["plugin", "source_attribute"] j
  return {
    plugin := ← f.get? "plugin" m.text?
    sourceAttribute := ← f.maybe? "source_attribute" m.text? }

end Dependency

/-- Restricts a plugin to some recipients and to some authentication methods. -/
structure ActivationDecl where
  recipients : List String := []
  methods : List String := []
deriving DecidableEq, Repr

namespace ActivationDecl

def toJson (a : ActivationDecl) : Json :=
  .obj [("recipients", ofStrings a.recipients), ("authentication_methods", ofStrings a.methods)]

def ofJson? (m : Manner) (j : Json) : Option ActivationDecl := do
  let f ← fields? m ["recipients", "authentication_methods"] j
  return {
    recipients := ← f.getD? "recipients" (strings? m) []
    methods := ← f.getD? "authentication_methods" (strings? m) [] }

def build (a : ActivationDecl) : Activation := .ofLists a.recipients a.methods

end ActivationDecl

structure RenameDecl where
  source : String
  target : String
deriving DecidableEq, Repr

namespace RenameDecl

def toJson (r : RenameDecl) : Json := .obj [("from", .str r.source), ("to", .str r.target)]

def ofJson? (m : Manner) (j : Json) : Option RenameDecl := do
  let f ← fields? m ["from", "to"] j
  return ⟨← f.get? "from" m.text?, ← f.get? "to" m.text?⟩

def buildAll (l : List RenameDecl) : Renames := .ofList (l.map fun r => (r.source, r.target))

end RenameDecl

/-- The common part of a plugin. -/
def PluginSpec.ofDecl (id : String) (dependencies : List Dependency)
    (activation : Option ActivationDecl) : PluginSpec where
  id
  dependencies
  isActive := (activation.map (·.build)).getD .always

/-! ### Tagged choices -/

namespace Json

/-- The tag of a choice among several names, and what is beside it. -/
def tagged? (m : Manner) (names : List String) : Json → Option (String × Json)
  | obj fields => do return (← (← fields.lookup "type") |> m.tag? names, obj fields)
  | arr (tag :: rest) => do return (← m.tag? names tag, arr rest)
  | _ => none

/-- What is beside the tag of a choice that has no fields. -/
def unit? : Json → Option Unit
  | arr (_ :: _) => none
  | _ => some ()

end Json

end AttributeRelease
