import AttributeRelease.Proofs.Query.Rendering
import AttributeRelease.Proofs.Resolution.Steps

/-!
What a plugin takes in.

A connector looks up the names in its template, a definition the attributes that it is given, and
only two kinds of definitions look at the request. What agrees on that much makes no difference to
the work of the plugin.
-/

namespace AttributeRelease.Proofs.Inputs

open AttributeRelease.Proofs.AnyPlugin AttributeRelease.Proofs.Rendering

variable {σ : Type} {v v' : TemplateValues}

/-- The names that a source looks up. -/
def lookedUp : ConnectorSource σ → List String
  | .fixed _ => []
  | .directory _ _ filter _ _ => filter.placeholders
  | .relational _ statement _ => statement.placeholders

lemma fetch_congr {source : ConnectorSource σ}
    (hcached : v.request.allowCached = v'.request.allowCached)
    (hget : ∀ name ∈ lookedUp source, v.get name = v'.get name) :
    source.fetch v = source.fetch v' := by
  cases source with
  | fixed attributes => rfl
  | directory client baseDn filter returnAttributes mapping =>
    have hquery : ConnectorSource.directoryQuery baseDn filter returnAttributes v =
        ConnectorSource.directoryQuery baseDn filter returnAttributes v' := by
      rw [ConnectorSource.directoryQuery, ConnectorSource.directoryQuery, render_congr hget,
        hcached]
    rw [ConnectorSource.fetch, ConnectorSource.fetch, hquery]
  | relational client template mapping =>
    have hstatement :
        ConnectorSource.statement template v = ConnectorSource.statement template v' := by
      rw [ConnectorSource.statement, ConnectorSource.statement, renderParameterized_congr hget,
        hcached]
    rw [ConnectorSource.fetch, ConnectorSource.fetch, hstatement]

/-- What a definition sees is the same twice. -/
def SameForKind (v v' : TemplateValues) : DefinitionKind σ → Prop
  | .scripted _ _ => DefinitionKind.bindings v = DefinitionKind.bindings v'
  | .principalAuthenticationMethod =>
    v.request.authenticationMethod = v'.request.authenticationMethod
  | _ => v.attributes = v'.attributes

lemma values_congr {kind : DefinitionKind σ} (h : SameForKind v v' kind) (id : String) :
    kind.values id v = kind.values id v' := by
  cases kind with
  | simple =>
    have hattributes : v.attributes = v'.attributes := h
    rw [DefinitionKind.values, DefinitionKind.values, hattributes]
  | withScope scope =>
    have hattributes : v.attributes = v'.attributes := h
    rw [DefinitionKind.values, DefinitionKind.values, hattributes]
  | regexSplit p =>
    have hattributes : v.attributes = v'.attributes := h
    rw [DefinitionKind.values, DefinitionKind.values, hattributes]
  | scripted engine source =>
    have hbindings : DefinitionKind.bindings v = DefinitionKind.bindings v' := h
    rw [DefinitionKind.values, DefinitionKind.values, hbindings]
  | principalAuthenticationMethod =>
    have hmethod : v.request.authenticationMethod = v'.request.authenticationMethod := h
    rw [DefinitionKind.values, DefinitionKind.values, hmethod]

/-- What a plugin sees is the same twice. -/
def SameFor (v v' : TemplateValues) : AnyPlugin σ → Prop
  | .connector c => v.request.allowCached = v'.request.allowCached ∧
      ∀ name ∈ lookedUp c.source, v.get name = v'.get name
  | .definition d => SameForKind v v' d.kind

lemma work_congr {p : AnyPlugin σ} (h : SameFor v v' p) (s : σ) : p.work v s = p.work v' s := by
  cases p with
  | connector c => simp only [work, DataConnector.retrieve, fetch_congr h.1 h.2]
  | definition d => simp only [work, AttributeDefinition.compute, values_congr h]

end AttributeRelease.Proofs.Inputs
