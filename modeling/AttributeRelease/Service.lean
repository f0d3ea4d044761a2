import AttributeRelease.Attribute.Codec
import AttributeRelease.Declaration.Build
import AttributeRelease.Policy.Codec
import AttributeRelease.Resolution.Pass
import AttributeRelease.Text.Literal

/-!
Releasing attributes: a resolver, a filter behind it, and what is known about the parties.
-/

namespace AttributeRelease

structure ReleaseRequest where
  principal : String
  requester : Option String := none
  issuer : Option String := none
  authenticationMethod : Option String := none
  allowCached : Bool := true
  requested : List String := []

/-- The request to the resolver, where the requester is the recipient. -/
def ReleaseRequest.toRequest (r : ReleaseRequest) : Request where
  principal := some r.principal
  issuer := r.issuer
  recipient := r.requester
  authenticationMethod := r.authenticationMethod
  allowCached := r.allowCached
  requested := .ofNames r.requested

structure Release where
  attributes : AttributeMap
  report : FilterReport

def Release.toJson (r : Release) : Json :=
  .obj [("attributes", r.attributes.toJson), ("report", r.report.toJson)]

structure ReleaseService (σ : Type) where
  resolver : Resolver σ
  filter : AttributeFilter
  metadata : Option Metadata := none

namespace ReleaseService

variable {σ : Type}

/-- The service of a declaration. Metadata that is registered goes before what is declared. -/
def build (d : Declaration) (b : Backends σ) : Except BuildError (ReleaseService σ) := do
  let resolver ← d.buildResolver b
  let filter ← d.buildFilter
  let declared := if d.metadata.parties.isEmpty then none else some d.metadata.build
  return { resolver, filter, metadata := b.metadata <|> declared }

/-- A service in a line, for those who look for it in a log. -/
def shown (s : ReleaseService σ) : String :=
  "AttributeService \x7b resolver: " ++ Text.literal s.resolver.id ++
    ", filter: " ++ Text.literal s.filter.id ++
    ", metadata: " ++ (if s.metadata.isSome then "true" else "false") ++ " \x7d"

/-- The context in which resolved attributes are filtered. -/
def filterContext (s : ReleaseService σ) (r : ReleaseRequest) (resolved : AttributeMap) :
    FilterContext :=
  let c : FilterContext := {
    principal := some r.principal
    requester := r.requester
    issuer := r.issuer
    unfiltered := resolved }
  match s.metadata with
  | some m => c.withMetadata m
  | none => c

/-- Resolves the attributes of a request and filters them. -/
def release (s : ReleaseService σ) (r : ReleaseRequest) (world : σ) :
    Except ResolutionError Release × σ :=
  match s.resolver.resolve r.toRequest world with
  | (.error e, _, world) => (.error e, world)
  | (.ok (), c, world) =>
    let (report, filtered) := s.filter.run (s.filterContext r c.resolved)
    (.ok ⟨filtered.filtered, report⟩, world)

/-- The text of a failed release. -/
def errorMessage (e : ResolutionError) : String := s!"attribute resolution failed: {e.message}"

end ReleaseService

end AttributeRelease
