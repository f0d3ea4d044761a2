import AttributeRelease.Declaration.Connector
import AttributeRelease.Declaration.Definition
import AttributeRelease.Declaration.Filter

/-!
Everything that can be declared: a resolver, a filter, metadata of parties, and what is logged.
Whatever is left out has a default.
-/

namespace AttributeRelease

open Json

structure ResolverDecl where
  id : String := "default"
  connectors : List ConnectorDecl := []
  definitions : List DefinitionDecl := []

structure LoggingDecl where
  level : String := "info"
deriving DecidableEq, Repr

structure Declaration where
  resolver : ResolverDecl := {}
  filter : FilterDecl := {}
  metadata : MetadataDecl := {}
  logging : LoggingDecl := {}

namespace ResolverDecl

def toJson (d : ResolverDecl) : Json :=
  .obj [("id", .str d.id), ("connectors", .arr (d.connectors.map (·.toJson))),
    ("definitions", .arr (d.definitions.map (·.toJson)))]

def ofJson? (m : Manner) (j : Json) : Option ResolverDecl := do
  let f ← fields? m ["id", "connectors", "definitions"] j
  return {
    id := ← f.getD? "id" m.text? "default"
    connectors := ← f.getD? "connectors" (list? (ConnectorDecl.ofJson? m)) []
    definitions := ← f.getD? "definitions" (list? (DefinitionDecl.ofJson? m)) [] }

end ResolverDecl

namespace LoggingDecl

def toJson (d : LoggingDecl) : Json := .obj [("level", .str d.level)]

def ofJson? (m : Manner) (j : Json) : Option LoggingDecl := do
  let f ← fields? m ["level"] j
  return { level := ← f.getD? "level" m.text? "info" }

end LoggingDecl

namespace Declaration

def toJson (d : Declaration) : Json :=
  .obj [("resolver", d.resolver.toJson), ("filter", d.filter.toJson),
    ("metadata", d.metadata.toJson), ("logging", d.logging.toJson)]

def ofJson? (m : Manner) (j : Json) : Option Declaration := do
  let f ← fields? m ["resolver", "filter", "metadata", "logging"] j
  return {
    resolver := ← f.getD? "resolver" (ResolverDecl.ofJson? m) {}
    filter := ← f.getD? "filter" (FilterDecl.ofJson? m) {}
    metadata := ← f.getD? "metadata" (MetadataDecl.ofJson? m) {}
    logging := ← f.getD? "logging" (LoggingDecl.ofJson? m) {} }

end Declaration

end AttributeRelease
