import AttributeRelease.Declaration.Plugin

/-!
Declared connectors.
-/

namespace AttributeRelease

open Json

structure StaticAttributeDecl where
  id : String
  values : List String
deriving DecidableEq, Repr

structure DirectoryDecl where
  backend : String
  baseDn : String
  filter : String
  returnAttributes : List String := []
  mapping : List RenameDecl := []
  binary : List String := []
  multipleResults : Bool := false
deriving DecidableEq, Repr

structure RelationalDecl where
  backend : String
  query : String
  mapping : List RenameDecl := []
  lowercase : Bool := false
deriving DecidableEq, Repr

inductive SourceDecl where
  | fixed (attributes : List StaticAttributeDecl)
  | directory (d : DirectoryDecl)
  | relational (d : RelationalDecl)
deriving DecidableEq, Repr

structure ConnectorDecl where
  id : String
  dependencies : List Dependency := []
  activation : Option ActivationDecl := none
  failover : Option String := none
  noResultIsError : Bool := false
  source : SourceDecl
deriving DecidableEq, Repr

/-! ### Writing -/

namespace StaticAttributeDecl

def toJson (a : StaticAttributeDecl) : Json :=
  .obj [("id", .str a.id), ("values", ofStrings a.values)]

def ofJson? (m : Manner) (j : Json) : Option StaticAttributeDecl := do
  let f ← fields? m ["id", "values"] j
  return ⟨← f.get? "id" m.text?, ← f.get? "values" (strings? m)⟩

end StaticAttributeDecl

namespace SourceDecl

def typeName : SourceDecl → String
  | fixed _ => "static"
  | directory _ => "directory"
  | relational _ => "relational"

def typeNames : List String := ["static", "directory", "relational"]

def fields : SourceDecl → List (String × Json)
  | fixed attributes => [("attributes", .arr (attributes.map (·.toJson)))]
  | directory d =>
    [("backend", .str d.backend), ("base_dn", .str d.baseDn), ("filter", .str d.filter),
      ("return_attributes", ofStrings d.returnAttributes),
      ("mapping", .arr (d.mapping.map (·.toJson))), ("binary_attributes", ofStrings d.binary),
      ("multiple_results_allowed", .bool d.multipleResults)]
  | relational d =>
    [("backend", .str d.backend), ("query", .str d.query),
      ("mapping", .arr (d.mapping.map (·.toJson))), ("lowercase_columns", .bool d.lowercase)]

def fixed? (m : Manner) (j : Json) : Option SourceDecl := do
  let f ← fields? m ["attributes"] j
  return fixed (← f.get? "attributes" (list? (StaticAttributeDecl.ofJson? m)))

def directory? (m : Manner) (j : Json) : Option SourceDecl := do
  let f ← fields? m ["backend", "base_dn", "filter", "return_attributes", "mapping",
    "binary_attributes", "multiple_results_allowed"] j
  return directory {
    backend := ← f.get? "backend" m.text?
    baseDn := ← f.get? "base_dn" m.text?
    filter := ← f.get? "filter" m.text?
    returnAttributes := ← f.getD? "return_attributes" (strings? m) []
    mapping := ← f.getD? "mapping" (list? (RenameDecl.ofJson? m)) []
    binary := ← f.getD? "binary_attributes" (strings? m) []
    multipleResults := ← f.getD? "multiple_results_allowed" m.flag? false }

def relational? (m : Manner) (j : Json) : Option SourceDecl := do
  let f ← fields? m ["backend", "query", "mapping", "lowercase_columns"] j
  return relational {
    backend := ← f.get? "backend" m.text?
    query := ← f.get? "query" m.text?
    mapping := ← f.getD? "mapping" (list? (RenameDecl.ofJson? m)) []
    lowercase := ← f.getD? "lowercase_columns" m.flag? false }

/-- Reads the source from the fields of a connector. -/
def ofJson? (m : Manner) (j : Json) : Option SourceDecl := do
  let (tag, rest) ← tagged? m typeNames j
  match tag with
  | "static" => fixed? m rest
  | "directory" => directory? m rest
  | "relational" => relational? m rest
  | _ => none

end SourceDecl

namespace ConnectorDecl

def toJson (c : ConnectorDecl) : Json :=
  .obj ([("id", .str c.id)] ++
    field? "dependencies" (unlessEmpty (c.dependencies.map (·.toJson))) ++
    field? "activation" (c.activation.map (·.toJson)) ++
    field? "failover" (c.failover.map .str) ++
    [("no_result_is_error", .bool c.noResultIsError), ("type", .str c.source.typeName)] ++
    c.source.fields)

def ofJson? (m : Manner) : Json → Option ConnectorDecl
  | .obj f => do
    let f : Fields := f
    return {
      id := ← f.get? "id" m.text?
      dependencies := ← f.getD? "dependencies" (list? (Dependency.ofJson? m)) []
      activation := ← f.maybe? "activation" (ActivationDecl.ofJson? m)
      failover := ← f.maybe? "failover" m.text?
      noResultIsError := ← f.getD? "no_result_is_error" m.flag? false
      source := ← SourceDecl.ofJson? m.below (.obj f) }
  | _ => none

end ConnectorDecl

end AttributeRelease
