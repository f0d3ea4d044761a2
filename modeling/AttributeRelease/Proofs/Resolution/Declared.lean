import AttributeRelease.Declaration.Build
import AttributeRelease.Proofs.Resolution.Build

/-!
Where the plugins of a declared resolver come from.

Nothing is in such a resolver but what is declared for it, and what plugins have in common is taken
over from their declarations as it stands. Only sources and kinds are made of what they refer to.
-/

namespace AttributeRelease.Proofs.Declared

open AttributeRelease.Proofs.AnyPlugin AttributeRelease.Proofs.Build
open AttributeRelease.Proofs.Checks

variable {σ : Type}

/-- A declared connector, with its source. -/
def withSource (decl : ConnectorDecl) (source : ConnectorSource σ) : DataConnector σ :=
  { PluginSpec.ofDecl decl.id decl.dependencies decl.activation with
    source
    failover := decl.failover
    noResultIsError := decl.noResultIsError }

/-- A declared definition, with its kind. -/
def withKind (decl : DefinitionDecl) (kind : DefinitionKind σ) : AttributeDefinition σ :=
  { PluginSpec.ofDecl decl.id decl.dependencies decl.activation with
    kind
    dependencyOnly := decl.dependencyOnly
    displayNames := decl.displayNames
    displayDescriptions := decl.displayDescriptions
    encoders := decl.encoders }

/-- An activation looks at the recipient and at the authentication method, if it lists any. -/
lemma ofDecl_congr (id : String) (dependencies : List Dependency) {a : Option ActivationDecl}
    {c c' : ResolutionContext}
    (hrecipient : (∀ x ∈ a, x.recipients = []) ∨ c.request.recipient = c'.request.recipient)
    (hmethod : (∀ x ∈ a, x.methods = []) ∨
      c.request.authenticationMethod = c'.request.authenticationMethod) :
    (PluginSpec.ofDecl id dependencies a).isActive c =
      (PluginSpec.ofDecl id dependencies a).isActive c' := by
  have hlist : ∀ {l : List String} {s s' : Option String}, l = [] ∨ s = s' →
      (l.isEmpty || Activation.isListed l s) = (l.isEmpty || Activation.isListed l s') := by
    rintro l s s' (rfl | rfl)
    · rfl
    · rfl
  cases a with
  | none => rfl
  | some a =>
    exact congrArg₂ and (hlist (hrecipient.imp_left fun h => h a rfl))
      (hlist (hmethod.imp_left fun h => h a rfl))

/-- The sources that are made of declared ones. -/
inductive SourceOf (b : Backends σ) (plugin : String) : SourceDecl → ConnectorSource σ → Prop
  | fixed (attributes : List StaticAttributeDecl) :
      SourceOf b plugin (.fixed attributes) (.ofAttributes (attributes.map (·.build)))
  | directory {d : DirectoryDecl} {client t} (hclient : b.directory plugin d.backend = .ok client)
      (ht : QueryTemplate.ofText d.filter = .ok t) :
      SourceOf b plugin (.directory d)
        (.directory client d.baseDn t d.returnAttributes d.mappingOf.map)
  | relational {d : RelationalDecl} {client t} (hclient : b.database plugin d.backend = .ok client)
      (ht : QueryTemplate.ofText d.query = .ok t) :
      SourceOf b plugin (.relational d) (.relational client t d.mappingOf.mapResult)

/-- The kinds that are made of declared ones. -/
inductive KindOf (b : Backends σ) (plugin : String) : KindDecl → DefinitionKind σ → Prop
  | simple : KindOf b plugin .simple .simple
  | withScope (scope : String) : KindOf b plugin (.withScope scope) (.withScope scope)
  | regexSplit {pattern caseSensitive p} (hp : ValuePattern.ofText pattern caseSensitive = .ok p) :
      KindOf b plugin (.regexSplit pattern caseSensitive) (.regexSplit p)
  | scripted {engine script client} (hclient : b.script plugin engine = .ok client) :
      KindOf b plugin (.scripted engine script) (.scripted client script)
  | principalAuthenticationMethod :
      KindOf b plugin .principalAuthenticationMethod .principalAuthenticationMethod

variable {b : Backends σ}

lemma sourceOf_build {plugin : String} {decl : SourceDecl} {source : ConnectorSource σ}
    (h : decl.build b plugin = .ok source) : SourceOf b plugin decl source := by
  cases decl with
  | fixed attributes =>
    obtain rfl := Except.ok.inj h
    exact .fixed attributes
  | directory d =>
    obtain ⟨client, hclient, h⟩ := bind_eq_ok_iff.1 h
    obtain ⟨t, ht, h⟩ := bind_eq_ok_iff.1 h
    obtain rfl := Except.ok.inj h
    exact .directory hclient (mapError_eq_ok_iff.1 ht)
  | relational d =>
    obtain ⟨client, hclient, h⟩ := bind_eq_ok_iff.1 h
    obtain ⟨t, ht, h⟩ := bind_eq_ok_iff.1 h
    obtain rfl := Except.ok.inj h
    exact .relational hclient (mapError_eq_ok_iff.1 ht)

lemma kindOf_build {plugin : String} {decl : KindDecl} {kind : DefinitionKind σ}
    (h : decl.build b plugin = .ok kind) : KindOf b plugin decl kind := by
  cases decl with
  | simple =>
    obtain rfl := Except.ok.inj h
    exact .simple
  | withScope scope =>
    obtain rfl := Except.ok.inj h
    exact .withScope scope
  | regexSplit pattern caseSensitive =>
    rw [KindDecl.build] at h
    split at h
    · next p hp =>
      obtain rfl := Except.ok.inj h
      exact .regexSplit hp
    · cases h
  | scripted engine script =>
    obtain ⟨client, hclient, h⟩ := bind_eq_ok_iff.1 h
    obtain rfl := Except.ok.inj h
    exact .scripted hclient
  | principalAuthenticationMethod =>
    obtain rfl := Except.ok.inj h
    exact .principalAuthenticationMethod

/-! ### Plugins -/

lemma connector_of_build {decl : ConnectorDecl} {c : DataConnector σ} (h : decl.build b = .ok c) :
    ∃ source, SourceOf b decl.id decl.source source ∧ withSource decl source = c := by
  obtain ⟨source, hsource, h⟩ := bind_eq_ok_iff.1 h
  exact ⟨source, sourceOf_build hsource, Except.ok.inj h⟩

lemma definition_of_build {decl : DefinitionDecl} {a : AttributeDefinition σ}
    (h : decl.build b = .ok a) :
    ∃ kind, KindOf b decl.id decl.kind kind ∧ withKind decl kind = a := by
  obtain ⟨kind, hkind, h⟩ := bind_eq_ok_iff.1 h
  exact ⟨kind, kindOf_build hkind, Except.ok.inj h⟩

variable {d : ResolverDecl} {r : Resolver σ}

/-- All plugins are built one by one, and a resolver is then built of them. -/
lemma build_eq_ok_iff : d.build b = .ok r ↔ ∃ cs ds, d.connectors.mapM (·.build b) = .ok cs ∧
    d.definitions.mapM (·.build b) = .ok ds ∧ Resolver.build d.id cs ds = .ok r := by
  rw [ResolverDecl.build, bind_eq_ok_iff]
  simp only [bind_eq_ok_iff, mapError_eq_ok_iff, exists_and_left]

lemma connector_declared (h : d.build b = .ok r) {c : DataConnector σ}
    (hc : .connector c ∈ all r.plugins) : ∃ decl ∈ d.connectors, ∃ source,
      SourceOf b decl.id decl.source source ∧ withSource decl source = c := by
  obtain ⟨cs, ds, hcs, -, hbuild⟩ := build_eq_ok_iff.1 h
  have hgiven := connector_mem_together.1 ((mem_all_of_build hbuild _).1 hc)
  obtain ⟨decl, hdecl, hmade⟩ := exists_of_mapM_eq_ok hcs hgiven
  exact ⟨decl, hdecl, connector_of_build hmade⟩

lemma definition_declared (h : d.build b = .ok r) {a : AttributeDefinition σ}
    (ha : .definition a ∈ all r.plugins) : ∃ decl ∈ d.definitions, ∃ kind,
      KindOf b decl.id decl.kind kind ∧ withKind decl kind = a := by
  obtain ⟨cs, ds, -, hds, hbuild⟩ := build_eq_ok_iff.1 h
  have hgiven := definition_mem_together.1 ((mem_all_of_build hbuild _).1 ha)
  obtain ⟨decl, hdecl, hmade⟩ := exists_of_mapM_eq_ok hds hgiven
  exact ⟨decl, hdecl, definition_of_build hmade⟩

end AttributeRelease.Proofs.Declared
