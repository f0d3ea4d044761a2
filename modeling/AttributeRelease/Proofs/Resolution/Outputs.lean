import AttributeRelease.Proofs.Provenance
import AttributeRelease.Proofs.Resolution.Declared

/-!
The attributes that a declared resolver deals with are in order.

Whatever backends answer, a source puts values together under the ids that they go by, and so does
everything that is made of what others put out. A failover hands on what is in order already, so
one rule after the other records nothing else.
-/

namespace AttributeRelease.Proofs.Outputs

open AttributeRelease.Proofs.Account AttributeRelease.Proofs.AnyPlugin
open AttributeRelease.Proofs.Attributes AttributeRelease.Proofs.Declared
open AttributeRelease.Proofs.Checks AttributeRelease.Proofs.Provenance
open AttributeRelease.Proofs.Rules

variable {σ : Type}

lemma entryMapping_wellFormed {mapping : EntryMapping} {entries : List DirectoryEntry}
    {m : AttributeMap} (h : mapping.map entries = .ok m) : WellFormed m := by
  unfold EntryMapping.map at h
  split at h
  · exact absurd h (by simp)
  · obtain rfl := Except.ok.inj h
    exact ofValues_wellFormed _

/-- What a source hands out each time is in order, and so is what it maps answers to. -/
def SoundSource : ConnectorSource σ → Prop
  | .fixed attributes => WellFormed attributes
  | .directory _ _ _ _ mapping => ∀ entries m, mapping entries = .ok m → WellFormed m
  | .relational _ _ mapping => ∀ rows m, mapping rows = .ok m → WellFormed m

lemma source_sound {b : Backends σ} {plugin : String} {decl : SourceDecl}
    {source : ConnectorSource σ} (h : SourceOf b plugin decl source) : SoundSource source := by
  cases h with
  | fixed attributes =>
    refine ofList_wellFormed fun a ha => ?_
    obtain ⟨decl, -, rfl⟩ := List.mem_map.1 ha
    exact addAll_distinct_of_nil rfl _
  | directory _ _ => exact fun entries m h => entryMapping_wellFormed h
  | relational _ _ =>
    rintro rows m ⟨⟩
    exact ofValues_wellFormed _

/-- What comes of a question was mapped from an answer. -/
lemma exists_of_ask_eq_ok {α β γ : Type} {query : Except PluginError α}
    {send : α → BackendCall σ β} {map : β → Except PluginError γ} {s : σ} {out : γ}
    (h : (ConnectorSource.ask query send map s).1 = .ok out) : ∃ answer, map answer = .ok out := by
  unfold ConnectorSource.ask at h
  split at h
  · exact absurd h (by simp)
  · split at h
    · exact absurd h (by simp)
    · exact ⟨_, h⟩

lemma fetch_wellFormed {source : ConnectorSource σ} (hsource : SoundSource source)
    {v : TemplateValues} {s : σ} {m : AttributeMap} (h : (source.fetch v s).1 = .ok m) :
    WellFormed m := by
  cases source with
  | fixed attributes =>
    obtain rfl := Except.ok.inj h
    exact hsource
  | directory client baseDn filter returnAttributes mapping =>
    obtain ⟨entries, hentries⟩ := exists_of_ask_eq_ok h
    exact hsource entries m hentries
  | relational client template mapping =>
    obtain ⟨rows, hrows⟩ := exists_of_ask_eq_ok h
    exact hsource rows m hrows

/-- The attributes in an output are in order. -/
def Sound : PluginOutput → Prop
  | .inactive => True
  | .definition value => ∀ a ∈ value, Distinct a.values
  | .connector attributes => WellFormed attributes

lemma outcome_wellFormed {c : DataConnector σ} {m : AttributeMap} {out : Option AttributeMap}
    (hm : WellFormed m) (h : c.outcome m = .ok out) : WellFormed (out.getD .empty) := by
  unfold DataConnector.outcome at h
  split at h
  · obtain rfl := Except.ok.inj h
    exact hm
  · split at h
    · exact absurd h (by simp)
    · obtain rfl := Except.ok.inj h
      exact empty_wellFormed

lemma retrieve_wellFormed {c : DataConnector σ} (hc : SoundSource c.source) {v : TemplateValues}
    {s : σ} {out : Option AttributeMap} (h : (c.retrieve v s).1 = .ok out) :
    WellFormed (out.getD .empty) := by
  unfold DataConnector.retrieve at h
  split at h
  · exact absurd h (by simp)
  · next m s' hfetch => exact outcome_wellFormed (fetch_wellFormed hc (by rw [hfetch])) h

lemma compute_distinct {d : AttributeDefinition σ} {v : TemplateValues} {s : σ} {a : Attribute}
    (h : (d.compute v s).1 = .ok (some a)) : Distinct a.values := by
  unfold AttributeDefinition.compute at h
  split at h
  · exact absurd h (by simp)
  · have hvalues := Except.ok.inj h
    unfold AttributeDefinition.ofValues at hvalues
    split at hvalues
    · exact absurd hvalues (by simp)
    · obtain rfl := Option.some.inj hvalues
      show Distinct (Attribute.addAll ⟨d.id, [], .empty, .empty, []⟩ _).values
      exact addAll_distinct_of_nil rfl _

/-- Whatever such a plugin puts out is in order. -/
def Tidy (p : AnyPlugin σ) : Prop :=
  ∀ v s out, (p.work v s).1 = .ok out → Sound out

lemma connector_tidy {c : DataConnector σ} (hc : SoundSource c.source) :
    Tidy (.connector c) := by
  intro v s out h
  obtain ⟨attributes, hget, rfl⟩ := map_eq_ok_iff.1 h
  exact retrieve_wellFormed hc hget

lemma definition_tidy (d : AttributeDefinition σ) : Tidy (.definition d) := by
  intro v s out h
  obtain ⟨value, hcomp, rfl⟩ := map_eq_ok_iff.1 h
  rintro a rfl
  exact compute_distinct hcomp

lemma declared_tidy {b : Backends σ} {d : ResolverDecl} {r : Resolver σ} (h : d.build b = .ok r) :
    ∀ p ∈ all r.plugins, Tidy p := by
  intro p hp
  cases p with
  | connector c =>
    obtain ⟨decl, -, source, hsource, rfl⟩ := connector_declared h hp
    exact connector_tidy (source_sound hsource)
  | definition a => exact definition_tidy a

/-- All that is recorded is in order. -/
def SoundRecord (w : Work σ) : Prop := ∀ id out, w.outputs.find? id = some out → Sound out

lemma SoundRecord.record {w : Work σ} (h : SoundRecord w) (id : String) {out : PluginOutput}
    (hout : Sound out) : SoundRecord (w.record id out) := by
  intro id' out' h'
  rw [Work.record_outputs, SortedMap.find?_insert] at h'
  split at h'
  · exact Option.some.inj h' ▸ hout
  · exact h id' out' h'

lemma SoundRecord.connectorAttributes {w : Work σ} (h : SoundRecord w) (id : String) :
    WellFormed (w.connectorAttributes id) := by
  unfold Work.connectorAttributes
  split
  · next m hm => exact h id (.connector m) hm
  · exact empty_wellFormed

variable {ps : Plugins σ} {ctx : ResolutionContext}

/-- **Every rule keeps the record in order**, if all plugins do. -/
theorem resolves_sound (htidy : ∀ p ∈ all ps, Tidy p) {job : Job σ} {w : Work σ}
    {out : Except ResolutionError Unit × Work σ} (h : Resolves ps ctx job w out)
    (hfound : Found ps ctx job) (hw : SoundRecord w) : SoundRecord out.2 := by
  induction h with
  | nil => exact hw
  | next _ _ ihfirst ihrest => exact ihrest trivial (ihfirst trivial hw)
  | stop _ ihfirst => exact ihfirst trivial hw
  | recorded _ => exact hw
  | unknown _ _ => exact hw
  | enter _ hp _ ih =>
    obtain rfl := spec_id_of_lookup hp
    exact ih hp hw
  | inactive _ => exact hw.record _ trivial
  | blocked _ _ ih => exact ih trivial hw
  | proceed on _ _ ihdeps ihact => exact ihact ⟨hfound, on⟩ (ihdeps trivial hw)
  | done work =>
    have hp := (lookup_eq_some_iff.1 hfound.1).1
    refine SoundRecord.record ?_ _ (htidy _ hp _ _ _ (congrArg Prod.fst work))
    exact hw
  | failed _ _ => exact hw
  | substituted _ _ _ ih =>
    have hsub := ih trivial hw
    exact hsub.record _ (hsub.connectorAttributes _)
  | failedTwice _ _ _ ih => exact ih trivial hw

lemma pass_sound {r : Resolver σ} (htidy : ∀ p ∈ all r.plugins, Tidy p) (ctx : ResolutionContext)
    (s : σ) : SoundRecord (r.pass ctx s).2 :=
  resolves_sound htidy (pass_resolves r ctx s) trivial fun _ _ h =>
    absurd h (by simp [SortedMap.find?_empty])

/-! ### What is resolved -/

/-- The texts that are declared, trimmed, and without those that are blank. -/
def ShownAs (declared shown : Localized) : Prop :=
  ∀ tag text, shown.find? tag = some text ↔
    ∃ s, declared.find? tag = some s ∧ Text.isBlank s = false ∧ text = Text.trim s

lemma trimmed_shownAs (texts : Localized) : ShownAs texts texts.trimmed := by
  intro tag text
  rw [Localized.trimmed, SortedMap.find?_filterMap, Option.bind_eq_some_iff]
  refine exists_congr fun s => and_congr_right fun _ => ?_
  cases Text.isBlank s <;> simp [eq_comm]

/-- An attribute with values, and with what is declared of it beside them. -/
structure AsDeclared (decl : DefinitionDecl) (a : Attribute) : Prop where
  released : decl.dependencyOnly = false
  values_ne_nil : a.values ≠ []
  encoders : a.encoders = decl.encoders
  displayNames : ShownAs decl.displayNames a.displayNames
  displayDescriptions : ShownAs decl.displayDescriptions a.displayDescriptions

section

variable {b : Backends σ} {d : ResolverDecl} {r : Resolver σ} {s : σ}

lemma resolved_wellFormed (h : d.build b = .ok r) (hok : (r.resolve ctx s).1 = .ok ()) :
    WellFormed (r.resolve ctx s).2.1.resolved := by
  refine ⟨fun k a ha => ?_, fun k a ha => ?_⟩
  · obtain ⟨definition, hdef, -, hdescribes⟩ := resolved_made hok ha
    exact hdescribes.id.trans (r.plugins.definition_id hdef)
  · rw [Agreement.resolve_fst] at hok
    rw [Agreement.find?_resolved hok, Option.bind_eq_some_iff] at ha
    obtain ⟨out, hout, hreleased⟩ := ha
    obtain ⟨rfl, -, -⟩ := Agreement.released?_eq_some_iff.1 hreleased
    exact pass_sound (declared_tidy h) ctx s k _ hout a rfl

lemma resolved_asDeclared (h : d.build b = .ok r) (hok : (r.resolve ctx s).1 = .ok ())
    {k : String} {a : Attribute} (ha : (r.resolve ctx s).2.1.resolved.find? k = some a) :
    ∃ decl ∈ d.definitions, decl.id = k ∧ AsDeclared decl a := by
  obtain ⟨definition, hdef, hmakes, hdescribes⟩ := resolved_made hok ha
  have hmem : .definition definition ∈ all r.plugins :=
    (lookup_eq_some_iff.1 (lookup_definition_iff.2 hdef)).1
  obtain ⟨decl, hdecl, kind, -, rfl⟩ := definition_declared h hmem
  rw [Agreement.resolve_fst] at hok
  rw [Agreement.find?_resolved hok, Option.bind_eq_some_iff] at ha
  obtain ⟨out, -, hreleased⟩ := ha
  obtain ⟨-, -, hne⟩ := Agreement.released?_eq_some_iff.1 hreleased
  refine ⟨decl, hdecl, r.plugins.definition_id hdef, hmakes.releasable, hne,
    hdescribes.encoders, ?_, ?_⟩
  · rw [hdescribes.displayNames]
    exact trimmed_shownAs _
  · rw [hdescribes.displayDescriptions]
    exact trimmed_shownAs _

end

/-- What there is of attributes in a resolution, whether it succeeds or fails. -/
structure KeepsOrder (d : ResolverDecl) (r : Resolver σ) (ctx : ResolutionContext) (s : σ) :
    Prop where
  recorded : ∀ id m, (r.pass ctx s).2.outputs.find? id = some (.connector m) → WellFormed m
  visible : ∀ (w : Work σ) (dependencies : List Dependency), WellFormed (w.visible dependencies)
  resolved : (r.resolve ctx s).1 = .ok () → WellFormed (r.resolve ctx s).2.1.resolved
  declared : (r.resolve ctx s).1 = .ok () → ∀ k a,
    (r.resolve ctx s).2.1.resolved.find? k = some a →
      ∃ decl ∈ d.definitions, decl.id = k ∧ AsDeclared decl a

/-- **A declared resolver keeps attributes in order**, whatever its backends answer. -/
theorem build_keepsOrder {b : Backends σ} {d : ResolverDecl} {r : Resolver σ}
    (h : d.build b = .ok r) (ctx : ResolutionContext) (s : σ) : KeepsOrder d r ctx s where
  recorded id _ hm := pass_sound (declared_tidy h) ctx s id _ hm
  visible := visible_wellFormed
  resolved hok := resolved_wellFormed h hok
  declared hok _ _ ha := resolved_asDeclared h hok ha

/-- Each time the same person is found. -/
def people : DirectoryClient ℕ where
  search _ s := (.ok [{ attributes := .ofList [
    ("alias", [.text "ada@c.example", .text "ada@b.example"]),
    ("mail", [.text "ada@b.example", .text "ada@b.example"])] }], s + 1)
  checkConnection s := (.ok (), s)

/-- The register cannot be reached, and guests stand in for it. -/
def twoNamed : ResolverDecl where
  connectors := [
    { id := "guests", source := .fixed [⟨"email", ["ada@b.example", "ada@d.example"]⟩] },
    { id := "people"
      source := .directory {
        backend := "people", baseDn := "ou=people", filter := "(uid=$\x7bprincipal\x7d)"
        mapping := [⟨"mail", "email"⟩, ⟨"alias", "email"⟩] } },
    { id := "register", failover := some "guests"
      source := .relational {
        backend := "register", query := "SELECT email FROM accounts", lowercase := true } }]
  definitions := [
    { id := "email", kind := .simple
      dependencies := [⟨"people", none⟩, ⟨"register", some "email"⟩]
      displayNames := .ofList [("de", " "), ("en", " Email ")]
      encoders := [{ protocol := "saml2", name := "urn:oid:0.9.2342.19200300.100.1.3" }] },
    { id := "raw", kind := .simple, dependencyOnly := true
      dependencies := [⟨"register", none⟩] }]

def twoNamedBackends : Backends ℕ where
  directories := .ofList [("people", people)]
  offline := true

def twoNamedResolver : Resolver ℕ := (twoNamed.build twoNamedBackends).toOption.get rfl

def adasRequest : ResolutionContext := { request := { principal := some "ada" } }

/-- What comes of the request. -/
def adas : AttributeMap := (twoNamedResolver.resolve adasRequest 0).2.1.resolved

theorem twoNamed_keepsOrder : twoNamed.build twoNamedBackends = .ok twoNamedResolver ∧
    KeepsOrder twoNamed twoNamedResolver adasRequest 0 ∧
    (twoNamedResolver.resolve adasRequest 0).1 = .ok () ∧ adas.keys = ["email"] ∧
    (adas.find? "email").map (fun a => a.values.map (·.shown)) =
      some ["ada@c.example", "ada@b.example", "ada@d.example"] ∧
    (adas.find? "email").map (·.displayNames.entries) = some [("en", "Email")] :=
  have hbuild : twoNamed.build twoNamedBackends = .ok twoNamedResolver := rfl
  ⟨hbuild, build_keepsOrder hbuild adasRequest 0, by decide +kernel, by decide +kernel,
    by decide +kernel, by decide +kernel⟩

end AttributeRelease.Proofs.Outputs
