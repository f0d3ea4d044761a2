import AttributeRelease.Attribute.Codec
import AttributeRelease.Declaration.Plugin

/-!
Declared attribute definitions.
-/

namespace AttributeRelease

open Json

inductive KindDecl where
  | simple
  | withScope (scope : String)
  | regexSplit (pattern : String) (caseSensitive : Bool)
  | scripted (engine script : String)
  | principalAuthenticationMethod
deriving DecidableEq, Repr

structure DefinitionDecl where
  id : String
  dependencies : List Dependency := []
  activation : Option ActivationDecl := none
  dependencyOnly : Bool := false
  displayNames : Localized := .empty
  displayDescriptions : Localized := .empty
  encoders : List Encoder := []
  kind : KindDecl
deriving DecidableEq

namespace KindDecl

def typeName : KindDecl → String
  | simple => "simple"
  | withScope _ => "scoped"
  | regexSplit _ _ => "regex-split"
  | scripted _ _ => "scripted"
  | principalAuthenticationMethod => "principal-authentication-method"

def typeNames : List String :=
  ["simple", "scoped", "regex-split", "scripted", "principal-authentication-method"]

def fields : KindDecl → List (String × Json)
  | simple => []
  | withScope scope => [("scope", .str scope)]
  | regexSplit pattern caseSensitive =>
    [("pattern", .str pattern), ("case_sensitive", .bool caseSensitive)]
  | scripted engine script => [("engine", .str engine), ("script", .str script)]
  | principalAuthenticationMethod => []

def withScope? (m : Manner) (j : Json) : Option KindDecl := do
  let f ← fields? m ["scope"] j
  return withScope (← f.get? "scope" m.text?)

def regexSplit? (m : Manner) (j : Json) : Option KindDecl := do
  let f ← fields? m ["pattern", "case_sensitive"] j
  return regexSplit (← f.get? "pattern" m.text?) (← f.getD? "case_sensitive" m.flag? true)

def scripted? (m : Manner) (j : Json) : Option KindDecl := do
  let f ← fields? m ["engine", "script"] j
  return scripted (← f.get? "engine" m.text?) (← f.get? "script" m.text?)

/-- Reads the kind from the fields of a definition. -/
def ofJson? (m : Manner) (j : Json) : Option KindDecl := do
  let (tag, rest) ← tagged? m typeNames j
  match tag with
  | "simple" => return simple
  | "scoped" => withScope? m rest
  | "regex-split" => regexSplit? m rest
  | "scripted" => scripted? m rest
  | "principal-authentication-method" => return principalAuthenticationMethod
  | _ => none

end KindDecl

namespace DefinitionDecl

def toJson (d : DefinitionDecl) : Json :=
  .obj ([("id", .str d.id)] ++
    field? "dependencies" (unlessEmpty (d.dependencies.map (·.toJson))) ++
    field? "activation" (d.activation.map (·.toJson)) ++
    [("dependency_only", .bool d.dependencyOnly)] ++
    field? "display_names" (if d.displayNames.isEmpty then none else stringMap d.displayNames) ++
    field? "display_descriptions"
      (if d.displayDescriptions.isEmpty then none else stringMap d.displayDescriptions) ++
    field? "encoders" (unlessEmpty (d.encoders.map (·.toJson))) ++
    [("type", .str d.kind.typeName)] ++ d.kind.fields)

def ofJson? (m : Manner) : Json → Option DefinitionDecl
  | .obj f => do
    let f : Fields := f
    return {
      id := ← f.get? "id" m.text?
      dependencies := ← f.getD? "dependencies" (list? (Dependency.ofJson? m)) []
      activation := ← f.maybe? "activation" (ActivationDecl.ofJson? m)
      dependencyOnly := ← f.getD? "dependency_only" m.flag? false
      displayNames := ← f.getD? "display_names" (mapOf? m.text?) .empty
      displayDescriptions := ← f.getD? "display_descriptions" (mapOf? m.text?) .empty
      encoders := ← f.getD? "encoders" (list? (Encoder.ofJson? m)) []
      kind := ← KindDecl.ofJson? m.below (.obj f) }
  | _ => none

end DefinitionDecl

end AttributeRelease
