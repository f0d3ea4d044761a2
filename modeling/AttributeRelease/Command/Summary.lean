import AttributeRelease.Declaration.Basic
import AttributeRelease.Service
import AttributeRelease.Text.Lines

/-!
Short accounts of a declaration and of a release, for reading.
-/

namespace AttributeRelease

open Text

def SourceDecl.shown : SourceDecl → String
  | fixed _ => "static"
  | directory d => s!"directory ({d.backend})"
  | relational d => s!"relational ({d.backend})"

def ConnectorDecl.line (d : ConnectorDecl) : String :=
  s!"    {d.id} [{d.source.shown}]" ++
    match d.failover with
    | some failover => s!" failover -> {failover}"
    | none => ""

def DefinitionDecl.line (d : DefinitionDecl) : String :=
  s!"    {d.id} [{d.kind.typeName}] <- " ++ commaList (d.dependencies.map (·.plugin)) ++
    if d.dependencyOnly then " (dependency only)" else ""

def PolicyDecl.line (d : PolicyDecl) : String :=
  s!"  Policy {d.id}: " ++ commaList (d.rules.map (·.attributeId))

def Declaration.summary (d : Declaration) : String :=
  unlines (
    ["Lanyard Configuration",
      "=====================",
      "",
      s!"Resolver '{d.resolver.id}':",
      "  Connectors:"] ++
    d.resolver.connectors.map (·.line) ++
    ["  Definitions:"] ++
    d.resolver.definitions.map (·.line) ++
    ["",
      s!"Filter '{d.filter.id}':",
      s!"  Audit: {d.filter.audit}"] ++
    d.filter.policies.map (·.line) ++
    ["",
      "Metadata:",
      s!"  Parties: {d.metadata.parties.length}",
      "",
      "Logging:",
      s!"  Level: {d.logging.level}"])

/-! ### Releases -/

def RuleSide.shown : RuleSide → String
  | permit => "Permit"
  | deny => "Deny"

def ValueFailure.line (f : ValueFailure) : String :=
  s!"Failed {f.side.shown} evaluation: policy {f.policy} attribute {f.attributeId} " ++
    s!"value {f.value.shown}"

def Attribute.line (key : String) (a : Attribute) : String :=
  s!"  {key}: " ++ commaList (a.values.map (·.shown))

def Release.summary (r : Release) (request : ReleaseRequest) : String :=
  let requester := request.requester.getD "(no requester)"
  unlines (
    [s!"Release for '{request.principal}' to {requester}", ""] ++
    (if r.attributes.entries.isEmpty then ["  (nothing released)"]
      else r.attributes.entries.map fun e => e.2.line e.1) ++
    ["", "Policies:"] ++
    r.report.policies.map (fun o => s!"  {o.policy}: {o.requirement.shown}") ++
    (if r.report.removed.isEmpty then []
      else ["Withheld: " ++ commaList r.report.removed]) ++
    r.report.valueFailures.map (·.line))

end AttributeRelease
