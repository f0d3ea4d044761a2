import AttributeRelease.Proofs.Resolution.Calls
import AttributeRelease.Proofs.Resolution.Declared
import AttributeRelease.Proofs.Resolution.Inputs

/-!
The channels by which a request gets into a resolution.

A part of the request is seen through a placeholder in a template, a list of an activation, or a
kind of definition that looks at it. Where none of these is declared, requests that differ in that
part alone are treated alike, down to what backends are asked and however the resolution ends.
-/

namespace AttributeRelease.Proofs.Channels

open AttributeRelease.Proofs.AnyPlugin AttributeRelease.Proofs.Calls
open AttributeRelease.Proofs.Declared AttributeRelease.Proofs.Inputs
open AttributeRelease.Proofs.Rendering AttributeRelease.Proofs.Steps

variable {σ : Type}

/-- The parts of a request that say who is asked about, by whom and for whom. -/
inductive Channel where
  | principal
  | issuer
  | recipient
  | authenticationMethod
deriving DecidableEq

namespace Channel

def read (q : Request) : Channel → Option String
  | principal => q.principal
  | issuer => q.issuer
  | recipient => q.recipient
  | authenticationMethod => q.authenticationMethod

/-- The name that is reserved for it in templates. -/
def placeholder : Channel → String
  | principal => "principal"
  | issuer => "issuer"
  | recipient => "recipient"
  | authenticationMethod => "authn_method"

end Channel

/-- Two contexts are the same but for one part of the request. -/
structure DifferOnlyIn (f : Channel) (c c' : ResolutionContext) : Prop where
  others : ∀ g, g ≠ f → g.read c.request = g.read c'.request
  allowCached : c.request.allowCached = c'.request.allowCached
  requested : c.request.requested = c'.request.requested
  resolved : c.resolved = c'.resolved

/-- The texts of the templates of a source. -/
def templates : SourceDecl → List String
  | .fixed _ => []
  | .directory d => [d.filter]
  | .relational d => [d.query]

/-- The activations that are declared for plugins. -/
def activations (d : ResolverDecl) : List ActivationDecl :=
  d.connectors.filterMap (·.activation) ++ d.definitions.filterMap (·.activation)

/-- Nothing that is declared looks at a part of the request. -/
structure Undeclared (f : Channel) (d : ResolverDecl) : Prop where
  templates : ∀ c ∈ d.connectors, ∀ text ∈ templates c.source, ∀ t,
    QueryTemplate.ofText text = .ok t → f.placeholder ∉ t.placeholders
  recipients : f = .recipient → ∀ a ∈ activations d, a.recipients = []
  methods : f = .authenticationMethod → ∀ a ∈ activations d, a.methods = []
  scripts : f ≠ .authenticationMethod → ∀ a ∈ d.definitions, ∀ engine script,
    a.kind ≠ .scripted engine script
  definitions : f = .authenticationMethod → ∀ a ∈ d.definitions,
    a.kind ≠ .principalAuthenticationMethod

/-- The part of the request makes no difference to a plugin. -/
structure Blind (f : Channel) (p : AnyPlugin σ) : Prop where
  active : ∀ c c', DifferOnlyIn f c c' → p.spec.isActive c' = p.spec.isActive c
  input : ∀ c c' a, DifferOnlyIn f c c' → SameFor ⟨c'.request, a⟩ ⟨c.request, a⟩ p

lemma channel_of_reserved {name : String} {field : Request → Option String}
    (h : Reserved name field) : ∃ g : Channel, name = g.placeholder ∧ ∀ q, field q = g.read q := by
  cases h with
  | principal => exact ⟨.principal, rfl, fun _ => rfl⟩
  | issuer => exact ⟨.issuer, rfl, fun _ => rfl⟩
  | recipient => exact ⟨.recipient, rfl, fun _ => rfl⟩
  | method => exact ⟨.authenticationMethod, rfl, fun _ => rfl⟩

section

variable {f : Channel} {c c' : ResolutionContext} (h : DifferOnlyIn f c c')

include h

/-- Under any other name the same is found. -/
lemma get_eq {name : String} (hname : name ≠ f.placeholder) (a : AttributeMap) :
    TemplateValues.get ⟨c'.request, a⟩ name = TemplateValues.get ⟨c.request, a⟩ name := by
  have hreserved : TemplateValues.reserved? c'.request name =
      TemplateValues.reserved? c.request name := by
    rcases reserved_or name with ⟨field, hfield⟩ | hnone
    · obtain ⟨g, rfl, hread⟩ := channel_of_reserved hfield
      have hne : g ≠ f := fun heq => hname (heq ▸ rfl)
      rw [reserved?_of_reserved hfield, reserved?_of_reserved hfield, hread, hread,
        h.others g hne]
    · rw [reserved?_eq_none_iff.2 hnone, reserved?_eq_none_iff.2 hnone]
  simp only [TemplateValues.get, hreserved]

lemma bindings_eq (hf : f = .authenticationMethod) (a : AttributeMap) :
    DefinitionKind.bindings ⟨c'.request, a⟩ = DefinitionKind.bindings ⟨c.request, a⟩ := by
  subst hf
  have hprincipal : c.request.principal = c'.request.principal := h.others .principal (by simp)
  have hissuer : c.request.issuer = c'.request.issuer := h.others .issuer (by simp)
  have hrecipient : c.request.recipient = c'.request.recipient := h.others .recipient (by simp)
  rw [DefinitionKind.bindings, DefinitionKind.bindings, hprincipal, hissuer, hrecipient]

lemma ofDecl_active (id : String) (dependencies : List Dependency) {a : Option ActivationDecl}
    (hrecipients : f = .recipient → ∀ x ∈ a, x.recipients = [])
    (hmethods : f = .authenticationMethod → ∀ x ∈ a, x.methods = []) :
    (PluginSpec.ofDecl id dependencies a).isActive c' =
      (PluginSpec.ofDecl id dependencies a).isActive c := by
  refine ofDecl_congr id dependencies ?_ ?_
  · by_cases hf : f = .recipient
    · exact .inl (hrecipients hf)
    · exact .inr (h.others .recipient (Ne.symm hf)).symm
  · by_cases hf : f = .authenticationMethod
    · exact .inl (hmethods hf)
    · exact .inr (h.others .authenticationMethod (Ne.symm hf)).symm

end

section

variable {f : Channel} {d : ResolverDecl} (h : Undeclared f d) {b : Backends σ}

include h

/-- No name that a declared source looks up is that of the part of the request. -/
lemma placeholder_not_mem {decl : ConnectorDecl} (hdecl : decl ∈ d.connectors)
    {source : ConnectorSource σ} (hsource : SourceOf b decl.id decl.source source) :
    f.placeholder ∉ lookedUp source := by
  have htemplates := h.templates decl hdecl
  generalize decl.source = declared at hsource htemplates
  cases hsource with
  | fixed attributes => exact List.not_mem_nil
  | directory _ ht => exact htemplates _ (List.mem_singleton_self _) _ ht
  | relational _ ht => exact htemplates _ (List.mem_singleton_self _) _ ht

lemma connector_blind {decl : ConnectorDecl} (hdecl : decl ∈ d.connectors)
    {source : ConnectorSource σ} (hsource : SourceOf b decl.id decl.source source) :
    Blind f (.connector (withSource decl source)) := by
  have hmem : ∀ x ∈ decl.activation, x ∈ activations d := fun x hx =>
    List.mem_append_left _ (List.mem_filterMap.2 ⟨decl, hdecl, hx⟩)
  refine ⟨fun c c' hc => ?_, fun c c' a hc => ⟨hc.allowCached.symm, fun name hname => ?_⟩⟩
  · exact ofDecl_active hc _ _ (fun hf x hx => h.recipients hf x (hmem x hx))
      fun hf x hx => h.methods hf x (hmem x hx)
  · refine get_eq hc ?_ a
    rintro rfl
    exact placeholder_not_mem h hdecl hsource hname

lemma definition_blind {decl : DefinitionDecl} (hdecl : decl ∈ d.definitions)
    {kind : DefinitionKind σ} (hkind : KindOf b decl.id decl.kind kind) :
    Blind f (.definition (withKind decl kind)) := by
  have hmem : ∀ x ∈ decl.activation, x ∈ activations d := fun x hx =>
    List.mem_append_right _ (List.mem_filterMap.2 ⟨decl, hdecl, hx⟩)
  refine ⟨fun c c' hc => ?_, fun c c' a hc => ?_⟩
  · exact ofDecl_active hc _ _ (fun hf x hx => h.recipients hf x (hmem x hx))
      fun hf x hx => h.methods hf x (hmem x hx)
  · show SameForKind _ _ kind
    generalize hdeclared : decl.kind = declared at hkind
    cases hkind with
    | simple => exact rfl
    | withScope scope => exact rfl
    | regexSplit hp => exact rfl
    | scripted hclient =>
      have hf : f = .authenticationMethod := by
        by_contra hne
        exact h.scripts hne decl hdecl _ _ hdeclared
      exact bindings_eq hc hf a
    | principalAuthenticationMethod =>
      have hf : Channel.authenticationMethod ≠ f := fun hf =>
        h.definitions hf.symm decl hdecl hdeclared
      exact (hc.others .authenticationMethod hf).symm

/-- No plugin of a resolver sees what nothing that is declared looks at. -/
lemma declared_blind {r : Resolver σ} (hr : d.build b = .ok r) :
    ∀ p ∈ all r.plugins, Blind f p := by
  intro p hp
  cases p with
  | connector c =>
    obtain ⟨decl, hdecl, source, hsource, rfl⟩ := connector_declared hr hp
    exact connector_blind h hdecl hsource
  | definition a =>
    obtain ⟨decl, hdecl, kind, hkind, rfl⟩ := definition_declared hr hp
    exact definition_blind h hdecl hkind

end

/-! ### Resolutions -/

lemma sameFor_logged {v v' : TemplateValues} {p : AnyPlugin σ} (h : SameFor v v' p) :
    SameFor v v' (loggedPlugin p) := by
  cases p with
  | connector c =>
    have hnames : lookedUp (loggedSource c.id c.source) = lookedUp c.source := by
      cases c.source <;> rfl
    exact ⟨h.1, fun name hname => h.2 name (hnames ▸ hname)⟩
  | definition d =>
    have hkind : SameForKind v v' d.kind → SameForKind v v' (loggedKind d.id d.kind) := by
      cases d.kind <;> exact fun h => h
    exact hkind h

section

variable {f : Channel} {c c' : ResolutionContext} (hc : DifferOnlyIn f c c')

include hc

lemma Blind.logged_indifferent {p : AnyPlugin σ} (h : Blind f p) :
    Indifferent c c' (loggedPlugin p) := by
  refine ⟨?_, fun a s => work_congr (sameFor_logged (h.input c c' a hc)) s⟩
  rw [loggedPlugin_spec]
  exact h.active c c' hc

/-- Contexts that no plugin can tell apart make for the same pass. -/
lemma pass_eq {r : Resolver σ} (h : ∀ p ∈ all r.plugins, Indifferent c c' p) (s : σ) :
    r.pass c s = r.pass c' s := by
  have hgo : ∀ id, r.plugins.resolve c id = r.plugins.resolve c' id := fun id =>
    mirrors_self_iff.1 (resolveWithin_mirrors (mirrorsAll_of_indifferent h) _ id)
  have htargets : r.plugins.targets c.request = r.plugins.targets c'.request := by
    rw [Plugins.targets, hc.requested, Plugins.targets]
  rw [Resolver.pass, Resolver.pass, htargets, stepAll_congr fun id _ => hgo id]

end

/-- A resolver treats two contexts alike: it asks backends the same, in the same order, ends with
the same success or the same error, and has resolved the same in the end. -/
structure TreatsAlike (r : Resolver σ) (c c' : ResolutionContext) (s : σ) : Prop where
  calls : calls r c s = calls r c' s
  result : (r.resolve c s).1 = (r.resolve c' s).1
  resolved : (r.resolve c s).2.1.resolved = (r.resolve c' s).2.1.resolved
  world : (r.resolve c s).2.2 = (r.resolve c' s).2.2
  pass : r.pass c s = r.pass c' s

lemma resolve_of_pass {r : Resolver σ} {c c' : ResolutionContext} {s : σ}
    (hpass : r.pass c s = r.pass c' s) (hresolved : c.resolved = c'.resolved) :
    (r.resolve c s).1 = (r.resolve c' s).1 ∧
      (r.resolve c s).2.1.resolved = (r.resolve c' s).2.1.resolved ∧
      (r.resolve c s).2.2 = (r.resolve c' s).2.2 := by
  unfold Resolver.resolve
  rw [hpass]
  rcases r.pass c' s with ⟨_ | _, w⟩
  · exact ⟨rfl, hresolved, rfl⟩
  · exact ⟨rfl, rfl, rfl⟩

/-- **A request is seen through what is declared only.** -/
theorem build_treatsAlike {b : Backends σ} {d : ResolverDecl} {r : Resolver σ}
    (hr : d.build b = .ok r) {f : Channel} (hf : Undeclared f d) {c c' : ResolutionContext}
    (hc : DifferOnlyIn f c c') (s : σ) : TreatsAlike r c c' s := by
  have hpass : (logged r).pass c ([], s) = (logged r).pass c' ([], s) := by
    refine pass_eq hc (fun p hp => ?_) _
    have hp' : p ∈ (all r.plugins).map loggedPlugin := all_logged r.plugins ▸ hp
    obtain ⟨q, hq, rfl⟩ := List.mem_map.1 hp'
    exact (declared_blind hf hr q hq).logged_indifferent hc
  -- what comes of the resolution can be read off that with a log
  obtain ⟨hresult, hresolved, hworld⟩ := resolve_of_pass hpass hc.resolved
  obtain ⟨hresult₁, hcontext₁, hworld₁⟩ := resolve_logged r c [] s
  obtain ⟨hresult₂, hcontext₂, hworld₂⟩ := resolve_logged r c' [] s
  refine ⟨congrArg Prod.fst hworld, ?_, ?_, ?_, ?_⟩
  · rw [← hresult₁, hresult, hresult₂]
  · rw [← hcontext₁, hresolved, hcontext₂]
  · rw [← hworld₁, hworld, hworld₂]
  · rw [pass_logged r c [] s, hpass, ← pass_logged]

/-- Finds one entry in answer to the first question, and nothing after that. -/
def onlyOnce : DirectoryClient ℕ where
  search _ s := (.ok (if s = 0 then [{ attributes := .ofList [("mail", [.text "ada@b.example"])] }]
    else []), s + 1)
  checkConnection s := (.ok (), s)

/-- Phone numbers are given out to those who signed in with a token. -/
def directories : ResolverDecl where
  connectors := [
    { id := "people"
      source := .directory {
        backend := "ldap", baseDn := "ou=people", filter := "(uid=$\x7bprincipal\x7d)" } },
    { id := "phones", dependencies := [⟨"mail", none⟩]
      activation := some { methods := ["token"] }
      source := .directory {
        backend := "ldap", baseDn := "ou=phones", filter := "(mail=$\x7b mail \x7d)" } }]
  definitions := [
    { id := "mail", kind := .simple, dependencies := [⟨"people", some "mail"⟩] },
    { id := "phone", kind := .simple, dependencies := [⟨"phones", none⟩] },
    { id := "method", kind := .principalAuthenticationMethod }]

def directoryBackends : Backends ℕ := { directories := .ofList [("ldap", onlyOnce)] }

def directoryResolver : Resolver ℕ := (directories.build directoryBackends).toOption.get rfl

/-- Ada signed in with a token. -/
def signedIn (recipient : Option String) : ResolutionContext where
  request := { principal := some "ada", recipient, authenticationMethod := some "token" }

lemma directories_undeclared : Undeclared .recipient directories where
  templates := by
    have hpeople : QueryTemplate.ofText "(uid=$\x7bprincipal\x7d)" = .ok ⟨_, _⟩ := rfl
    have hphones : QueryTemplate.ofText "(mail=$\x7b mail \x7d)" = .ok ⟨_, _⟩ := rfl
    intro c hc text htext t ht
    rcases List.mem_cons.1 hc with rfl | hc
    · obtain rfl := List.mem_singleton.1 htext
      obtain rfl := Except.ok.inj (hpeople.symm.trans ht)
      decide
    · obtain rfl := List.mem_singleton.1 hc
      obtain rfl := List.mem_singleton.1 htext
      obtain rfl := Except.ok.inj (hphones.symm.trans ht)
      decide
  recipients _ := by decide
  methods h := nomatch h
  scripts _ := by simp [directories]
  definitions h := nomatch h

theorem directories_treatAlike : directories.build directoryBackends = .ok directoryResolver ∧
    Undeclared .recipient directories ∧
    DifferOnlyIn .recipient (signedIn none) (signedIn "https://sp.example") ∧
    TreatsAlike directoryResolver (signedIn none) (signedIn "https://sp.example") 0 ∧
    (calls directoryResolver (signedIn none) 0).length = 2 ∧
    (directoryResolver.resolve (signedIn none) 0).2.1.resolved.keys = ["mail", "method"] := by
  have hbuild : directories.build directoryBackends = .ok directoryResolver := rfl
  have hdiffer : DifferOnlyIn .recipient (signedIn none) (signedIn "https://sp.example") := by
    refine ⟨fun g hg => ?_, rfl, rfl, rfl⟩
    cases g with
    | recipient => exact absurd rfl hg
    | _ => rfl
  exact ⟨hbuild, directories_undeclared, hdiffer,
    build_treatsAlike hbuild directories_undeclared hdiffer 0, by decide +kernel,
    by decide +kernel⟩

end AttributeRelease.Proofs.Channels
