import AttributeRelease.Proofs.Resolution.Build
import AttributeRelease.Proofs.Resolution.Steps

/-!
The calls that a resolution makes to backends.

Beside the world of a resolver a log is kept, and whatever a plugin asks its backend is noted there
before it is asked. Nothing else in a resolver changes with that, so the resolution goes on as
before, and in the end the log lists its calls in order.
-/

namespace AttributeRelease.Proofs.Calls

open AttributeRelease.Proofs.AnyPlugin AttributeRelease.Proofs.Build
open AttributeRelease.Proofs.Steps

variable {σ : Type}

/-- What a plugin asks its backend. -/
inductive Call where
  | search (plugin : String) (query : DirectoryQuery)
  | query (plugin : String) (statement : Statement)
  | evaluate (plugin source : String) (bindings : ScriptBindings) (output : String)

/-- A world with a log. -/
abbrev Logged (σ : Type) := List Call × σ

/-- Notes a call and makes it. -/
def noting {α : Type} (call : Call) (run : BackendCall σ α) : BackendCall (Logged σ) α :=
  fun s => ((run s.2).1, s.1 ++ [call], (run s.2).2)

/-- Is no call of a resolution, and leaves the log as it is. -/
def aside {α : Type} (run : BackendCall σ α) : BackendCall (Logged σ) α :=
  fun s => ((run s.2).1, s.1, (run s.2).2)

def loggedSource (plugin : String) : ConnectorSource σ → ConnectorSource (Logged σ)
  | .fixed attributes => .fixed attributes
  | .directory client baseDn filter returnAttributes mapping =>
    .directory
      { search := fun q => noting (.search plugin q) (client.search q)
        checkConnection := aside client.checkConnection }
      baseDn filter returnAttributes mapping
  | .relational client statement mapping =>
    .relational
      { query := fun q => noting (.query plugin q) (client.query q)
        checkConnection := aside client.checkConnection }
      statement mapping

def loggedKind (plugin : String) : DefinitionKind σ → DefinitionKind (Logged σ)
  | .simple => .simple
  | .withScope scope => .withScope scope
  | .regexSplit p => .regexSplit p
  | .scripted engine source =>
    .scripted
      { evaluate := fun source b output =>
          noting (.evaluate plugin source b output) (engine.evaluate source b output)
        checkSource := engine.checkSource }
      source
  | .principalAuthenticationMethod => .principalAuthenticationMethod

def loggedConnector (c : DataConnector σ) : DataConnector (Logged σ) :=
  { c.toPluginSpec with
    source := loggedSource c.id c.source
    failover := c.failover
    noResultIsError := c.noResultIsError }

def loggedDefinition (d : AttributeDefinition σ) : AttributeDefinition (Logged σ) :=
  { d.toPluginSpec with
    kind := loggedKind d.id d.kind
    dependencyOnly := d.dependencyOnly
    displayNames := d.displayNames
    displayDescriptions := d.displayDescriptions
    encoders := d.encoders }

def loggedPlugin : AnyPlugin σ → AnyPlugin (Logged σ)
  | .connector c => .connector (loggedConnector c)
  | .definition d => .definition (loggedDefinition d)

@[simp] lemma loggedPlugin_spec (p : AnyPlugin σ) : (loggedPlugin p).spec = p.spec := by
  cases p <;> rfl

@[simp] lemma loggedPlugin_failover (p : AnyPlugin σ) : (loggedPlugin p).failover = p.failover := by
  cases p <;> rfl

@[simp] lemma loggedPlugin_dependencies (p : AnyPlugin σ) :
    (loggedPlugin p).dependencies = p.dependencies := by
  rw [dependencies, loggedPlugin_spec, dependencies]

lemma loggedPlugin_checkSettings (p : AnyPlugin σ) :
    (loggedPlugin p).checkSettings = p.checkSettings := by
  cases p with
  | connector c =>
    have hsetting : (loggedSource c.id c.source).missingSetting? = c.source.missingSetting? := by
      cases c.source <;> rfl
    simp only [loggedPlugin, checkSettings, DataConnector.checkSettings, loggedConnector, hsetting]
  | definition d =>
    have hfault : (loggedKind d.id d.kind).fault? d.toPluginSpec =
        d.kind.fault? d.toPluginSpec := by
      cases d.kind <;> rfl
    simp only [loggedPlugin, checkSettings, AttributeDefinition.checkSettings, loggedDefinition,
      hfault]

lemma ask_noting {α β γ : Type} (query : Except PluginError α) (call : α → Call)
    (send : α → BackendCall σ β) (map : β → Except PluginError γ) (s : Logged σ) :
    ConnectorSource.ask query send map s.2 =
      ((ConnectorSource.ask query (fun q => noting (call q) (send q)) map s).1,
        (ConnectorSource.ask query (fun q => noting (call q) (send q)) map s).2.2) := by
  unfold ConnectorSource.ask
  cases query with
  | error e => rfl
  | ok q =>
    simp only [noting]
    rcases send q s.2 with ⟨_ | _, _⟩
    · rfl
    · rfl

lemma fetch_logged (plugin : String) (source : ConnectorSource σ) (v : TemplateValues)
    (s : Logged σ) : source.fetch v s.2 =
      (((loggedSource plugin source).fetch v s).1,
        ((loggedSource plugin source).fetch v s).2.2) := by
  cases source with
  | fixed attributes => rfl
  | directory client baseDn filter returnAttributes mapping => exact ask_noting _ _ _ _ s
  | relational client statement mapping => exact ask_noting _ _ _ _ s

lemma values_logged (plugin : String) (kind : DefinitionKind σ) (id : String) (v : TemplateValues)
    (s : Logged σ) : kind.values id v s.2 =
      (((loggedKind plugin kind).values id v s).1,
        ((loggedKind plugin kind).values id v s).2.2) := by
  cases kind with
  | scripted engine source =>
    exact ask_noting (.ok (DefinitionKind.bindings v)) (fun b => .evaluate plugin source b id)
      (fun b => engine.evaluate source b id) (fun out => .ok (out.getD [])) s
  | _ => rfl

lemma work_logged (p : AnyPlugin σ) (v : TemplateValues) (s : Logged σ) :
    p.work v s.2 = (((loggedPlugin p).work v s).1, ((loggedPlugin p).work v s).2.2) := by
  cases p with
  | connector c =>
    have hfetch := fetch_logged c.id c.source v s
    simp only [work, loggedPlugin, DataConnector.retrieve, loggedConnector, hfetch]
    rcases (loggedSource c.id c.source).fetch v s with ⟨_ | _, _⟩
    · rfl
    · rfl
  | definition d =>
    have hvalues := values_logged d.id d.kind d.id v s
    simp only [work, loggedPlugin, AttributeDefinition.compute, loggedDefinition, hvalues]
    rcases (loggedKind d.id d.kind).values d.id v s with ⟨_ | _, _⟩
    · rfl
    · rfl

def loggedPlugins (ps : Plugins σ) : Plugins (Logged σ) where
  connectors := ps.connectors.map fun _ => loggedConnector
  definitions := ps.definitions.map fun _ => loggedDefinition
  connector_id := by
    intro id c hc
    rw [SortedMap.find?_map, Option.map_eq_some_iff] at hc
    obtain ⟨c', hc', rfl⟩ := hc
    exact ps.connector_id hc'
  definition_id := by
    intro id d hd
    rw [SortedMap.find?_map, Option.map_eq_some_iff] at hd
    obtain ⟨d', hd', rfl⟩ := hd
    exact ps.definition_id hd'
  disjoint := by
    intro id hc
    rw [SortedMap.contains, SortedMap.find?_map, Option.isSome_map] at hc ⊢
    exact ps.disjoint hc

variable (ps : Plugins σ)

lemma lookup_logged (id : String) :
    lookup (loggedPlugins ps) id = (lookup ps id).map loggedPlugin := by
  simp only [lookup, loggedPlugins, SortedMap.find?_map]
  cases ps.connectors.find? id with
  | some c => rfl
  | none => cases ps.definitions.find? id <;> rfl

lemma all_logged : all (loggedPlugins ps) = (all ps).map loggedPlugin := by
  simp only [all, together, loggedPlugins, SortedMap.values, SortedMap.map, List.map_append,
    List.map_map]
  rfl

lemma leadsTo_logged {l : List (AnyPlugin σ)} {a b : String} :
    LeadsTo (l.map loggedPlugin) a b ↔ LeadsTo l a b := by
  simp [leadsTo_iff]

/-- Plugins fit together with a log as they do without. -/
lemma check_logged (h : ps.check = .ok ()) : (loggedPlugins ps).check = .ok () := by
  have hcoheres := (check_eq_ok_iff ps).1 h
  rw [check_eq_ok_iff, all_logged]
  refine ⟨?_, ?_, ?_, fun id hcyc => hcoheres.acyclic id ?_⟩
  · simpa [loggedPlugin_checkSettings] using hcoheres.settings
  · simpa using hcoheres.dependencies
  · simp only [List.forall_mem_map, loggedPlugin_failover, loggedPlugin_spec]
    intro p hp f hf
    obtain ⟨hne, c, hc, hid⟩ := hcoheres.failovers p hp f hf
    exact ⟨hne, loggedConnector c, List.mem_map.2 ⟨_, hc, rfl⟩, hid⟩
  · exact Relation.TransGen.mono (fun _ _ => leadsTo_logged.1) _ _ hcyc

/-- The resolver that keeps a log. -/
def logged (r : Resolver σ) : Resolver (Logged σ) :=
  ⟨r.id, loggedPlugins r.plugins, check_logged r.plugins r.checked⟩

/-- The calls that a resolution makes, in order. -/
def calls (r : Resolver σ) (c : ResolutionContext) (s : σ) : List Call :=
  ((logged r).resolve c ([], s)).2.2.1

/-! ### The log changes nothing -/

lemma mirrors_logged (c : ResolutionContext) :
    MirrorsAll Prod.snd c c (loggedPlugins ps) ps := by
  intro id
  rw [lookup_logged]
  cases lookup ps id with
  | none => exact .none
  | some p =>
    refine .some ⟨?_, ?_, ?_, ?_, fun a s => work_logged p ⟨c.request, a⟩ s⟩
    · rw [loggedPlugin_spec]
    · rw [loggedPlugin_spec]
    · rw [loggedPlugin_failover]
    · rw [loggedPlugin_spec]

lemma size_logged : (loggedPlugins ps).size = ps.size := by
  simp [Plugins.size, loggedPlugins, SortedMap.size, SortedMap.map]

lemma targets_logged (q : Request) : (loggedPlugins ps).targets q = ps.targets q := by
  have hkeys : (loggedPlugins ps).definitions.keys = ps.definitions.keys := by
    simp [loggedPlugins, SortedMap.keys, SortedMap.map]
  have hcontains : (loggedPlugins ps).definitions.contains = ps.definitions.contains := by
    funext id
    simp [loggedPlugins, SortedMap.contains, SortedMap.find?_map]
  rw [Plugins.targets, hkeys, hcontains, Plugins.targets]

lemma released?_logged : (loggedPlugins ps).released? = ps.released? := by
  funext id out
  rcases out with _ | (_ | a) | m
  · rfl
  · rfl
  · have hfind : (loggedPlugins ps).definitions.find? id =
        (ps.definitions.find? id).map loggedDefinition := SortedMap.find?_map _ _ _
    have honly : ((ps.definitions.find? id).map loggedDefinition).any (·.dependencyOnly) =
        (ps.definitions.find? id).any (·.dependencyOnly) := by
      cases ps.definitions.find? id <;> rfl
    simp only [Plugins.released?, hfind, honly]
  · rfl

variable (r : Resolver σ) (c : ResolutionContext) (log : List Call) (s : σ)

lemma pass_logged : r.pass c s =
    (((logged r).pass c (log, s)).1, seen Prod.snd ((logged r).pass c (log, s)).2) := by
  have hgo : ∀ id, Mirrors Prod.snd ((loggedPlugins r.plugins).resolve c id)
      (r.plugins.resolve c id) := by
    intro id
    rw [Plugins.resolve, size_logged]
    exact resolveWithin_mirrors (mirrors_logged r.plugins c) _ id
  rw [Resolver.pass, ← targets_logged]
  exact stepAll_mirrors (fun id _ => hgo id) { world := (log, s) }

/-- **A resolution with a log** is the resolution, and what else the world has become is the
same. -/
theorem resolve_logged : ((logged r).resolve c (log, s)).1 = (r.resolve c s).1 ∧
    ((logged r).resolve c (log, s)).2.1 = (r.resolve c s).2.1 ∧
    ((logged r).resolve c (log, s)).2.2.2 = (r.resolve c s).2.2 := by
  have hreleased : (logged r).plugins.released? = r.plugins.released? := released?_logged r.plugins
  unfold Resolver.resolve
  rw [pass_logged r c log s, hreleased]
  rcases (logged r).pass c (log, s) with ⟨_ | _, w⟩
  · exact ⟨rfl, rfl, rfl⟩
  · exact ⟨rfl, rfl, rfl⟩

end AttributeRelease.Proofs.Calls
