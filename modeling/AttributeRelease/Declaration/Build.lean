import AttributeRelease.Declaration.Backends
import AttributeRelease.Declaration.Basic
import AttributeRelease.Policy.Filter
import AttributeRelease.Resolution.Resolver

/-!
From declarations to resolvers and filters.

Plugins are built in the order in which they are declared, connectors first, and then fitted
together. Of policies, all trees are built before any of them is checked.
-/

namespace AttributeRelease

namespace TestDecl

def build : TestDecl → Except FilterError TextTest
  | string value caseSensitive => .ok (.ofValue value caseSensitive)
  | regex pattern caseSensitive =>
    match ValuePattern.ofText pattern caseSensitive with
    | .ok p => .ok (.pattern p)
    | .error _ => .error (.invalidPattern pattern)

end TestDecl

namespace SubjectDecl

def matcher (test : TextTest) : SubjectDecl → Matcher
  | requester => .partyId .requester test
  | issuer => .partyId .issuer test
  | principal => .principal test
  | value target => .attributeValue target test
  | scope target => .attributeScope target test
  | entityAttribute party name => .entityAttribute party name test

end SubjectDecl

namespace MatcherDecl

mutual

def build : MatcherDecl → Except FilterError MatchRule
  | any => .ok (.leaf .any)
  | and rules => return .all (← buildAll rules)
  | or rules => return .any (← buildAll rules)
  | not rule => return .not (← build rule)
  | test subject how => return .leaf (subject.matcher (← how.build))
  | inEntityGroup party group =>
    if Text.isBlank group then .error .blankEntityGroup
    else .ok (.leaf (.inEntityGroup party group))

def buildAll : List MatcherDecl → Except FilterError (List MatchRule)
  | [] => .ok []
  | r :: rest => return (← build r) :: (← buildAll rest)

end

end MatcherDecl

def RuleDecl.build (r : RuleDecl) : Except FilterError AttributeRule :=
  return ⟨r.attributeId, ← r.permit.mapM (·.build), ← r.deny.mapM (·.build)⟩

def PolicyDecl.build (p : PolicyDecl) : Except FilterError FilterPolicy :=
  return ⟨p.id, ← p.requirement.build, ← p.rules.mapM (·.build)⟩

def FilterDecl.build (d : FilterDecl) : Except FilterError AttributeFilter := do
  AttributeFilter.build d.id (← d.policies.mapM (·.build))

/-! ### Plugins -/

variable {σ : Type} (b : Backends σ)

def template (plugin source : String) : Except BuildError QueryTemplate :=
  (QueryTemplate.ofText source).mapError (.template plugin)

def StaticAttributeDecl.build (a : StaticAttributeDecl) : Attribute :=
  Attribute.addAll { id := a.id } (a.values.map .string)

def DirectoryDecl.mappingOf (d : DirectoryDecl) : EntryMapping where
  renames := RenameDecl.buildAll d.mapping
  binary := .ofNames d.binary
  multipleResults := d.multipleResults

def RelationalDecl.mappingOf (d : RelationalDecl) : RowMapping where
  renames := RenameDecl.buildAll d.mapping
  lowercase := d.lowercase

def SourceDecl.build (plugin : String) : SourceDecl → Except BuildError (ConnectorSource σ)
  | fixed attributes => .ok (.ofAttributes (attributes.map (·.build)))
  | directory d => do
    let client ← b.directory plugin d.backend
    let filter ← template plugin d.filter
    return .directory client d.baseDn filter d.returnAttributes d.mappingOf.map
  | relational d => do
    let client ← b.database plugin d.backend
    return .relational client (← template plugin d.query) d.mappingOf.mapResult

def ConnectorDecl.build (c : ConnectorDecl) : Except BuildError (DataConnector σ) :=
  return {
    PluginSpec.ofDecl c.id c.dependencies c.activation with
    source := ← c.source.build b c.id
    failover := c.failover
    noResultIsError := c.noResultIsError }

def KindDecl.build (plugin : String) : KindDecl → Except BuildError (DefinitionKind σ)
  | simple => .ok .simple
  | withScope scope => .ok (.withScope scope)
  | regexSplit pattern caseSensitive =>
    match ValuePattern.ofText pattern caseSensitive with
    | .ok p => .ok (.regexSplit p)
    | .error _ => .error (.pattern plugin pattern)
  | scripted engine script => return .scripted (← b.script plugin engine) script
  | principalAuthenticationMethod => .ok .principalAuthenticationMethod

def DefinitionDecl.build (d : DefinitionDecl) : Except BuildError (AttributeDefinition σ) :=
  return {
    PluginSpec.ofDecl d.id d.dependencies d.activation with
    kind := ← d.kind.build b d.id
    dependencyOnly := d.dependencyOnly
    displayNames := d.displayNames
    displayDescriptions := d.displayDescriptions
    encoders := d.encoders }

def ResolverDecl.build (d : ResolverDecl) : Except BuildError (Resolver σ) := do
  let connectors ← d.connectors.mapM (·.build b)
  let definitions ← d.definitions.mapM (·.build b)
  (Resolver.build d.id connectors definitions).mapError .resolver

namespace Declaration

def buildResolver (d : Declaration) : Except BuildError (Resolver σ) := d.resolver.build b

def buildFilter (d : Declaration) : Except BuildError AttributeFilter :=
  d.filter.build.mapError .filter

/-- Builds everything for the sake of its errors. -/
def validate (d : Declaration) : Except BuildError Unit := do
  let _ ← d.buildResolver b
  let _ ← d.buildFilter

end Declaration

end AttributeRelease
