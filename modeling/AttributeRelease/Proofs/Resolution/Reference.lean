import AttributeRelease.Proofs.Attributes
import AttributeRelease.Proofs.Resolution.Rules

/-!
What a plugin puts out, by recursion along dependencies and failovers.

Nothing is remembered from one use of a plugin to the next, and no world changes: the recursion is
the meaning of a resolver whose backends answer a question in the same way each time.
-/

namespace AttributeRelease.Proofs.Reference

open AttributeRelease.Proofs.AnyPlugin AttributeRelease.Proofs.Attributes
open AttributeRelease.Proofs.Build AttributeRelease.Proofs.Maps

variable {σ : Type}

def SteadyCall {α : Type} (call : BackendCall σ α) : Prop := ∀ s s', (call s).1 = (call s').1

def SteadySource : ConnectorSource σ → Prop
  | .fixed _ => True
  | .directory client _ _ _ _ => ∀ q, SteadyCall (client.search q)
  | .relational client _ _ => ∀ q, SteadyCall (client.query q)

def SteadyKind : DefinitionKind σ → Prop
  | .scripted engine _ => ∀ source b output, SteadyCall (engine.evaluate source b output)
  | _ => True

def SteadyPlugin : AnyPlugin σ → Prop
  | .connector c => SteadySource c.source
  | .definition d => SteadyKind d.kind

def Steady (ps : Plugins σ) : Prop := ∀ p ∈ all ps, SteadyPlugin p

lemma ask_steady {α β γ : Type} (query : Except PluginError α) {send : α → BackendCall σ β}
    (map : β → Except PluginError γ) (hsend : ∀ q, SteadyCall (send q)) (s s' : σ) :
    (ConnectorSource.ask query send map s).1 = (ConnectorSource.ask query send map s').1 := by
  cases query with
  | error e => rfl
  | ok q =>
    have hq := hsend q s s'
    simp only [ConnectorSource.ask]
    rcases h : send q s with ⟨_ | _, t⟩ <;> rcases h' : send q s' with ⟨_ | _, t'⟩ <;>
      simp_all

lemma fetch_steady {src : ConnectorSource σ} (h : SteadySource src) (v : TemplateValues)
    (s s' : σ) : (src.fetch v s).1 = (src.fetch v s').1 := by
  cases src with
  | fixed attributes => rfl
  | directory client baseDn filter returnAttributes mapping => exact ask_steady _ _ h s s'
  | relational client template mapping => exact ask_steady _ _ h s s'

lemma values_steady {kind : DefinitionKind σ} (h : SteadyKind kind) (id : String)
    (v : TemplateValues) (s s' : σ) : (kind.values id v s).1 = (kind.values id v s').1 := by
  cases kind with
  | scripted engine source => exact ask_steady _ _ (fun b => h source b id) s s'
  | _ => rfl

/-- What a steady plugin does does not depend on the world. -/
lemma work_steady {p : AnyPlugin σ} (h : SteadyPlugin p) (v : TemplateValues) (s s' : σ) :
    (p.work v s).1 = (p.work v s').1 := by
  cases p with
  | connector c =>
    have hretrieve : ∀ s, (c.retrieve v s).1 = (c.source.fetch v s).1.bind c.outcome := by
      intro s
      unfold DataConnector.retrieve
      rcases c.source.fetch v s with ⟨_ | _, t⟩ <;> rfl
    simp only [work, hretrieve, fetch_steady h v s s']
  | definition d =>
    have hcompute : ∀ s, (d.compute v s).1 = (d.kind.values d.id v s).1.map d.ofValues := by
      intro s
      unfold AttributeDefinition.compute
      rcases d.kind.values d.id v s with ⟨_ | _, t⟩ <;> rfl
    simp only [work, hcompute, values_steady h d.id v s s']

/-- What several attributes come to. Under each of their ids there are the values of all that go by
it, the first of equal ones. -/
def combined (seen : List Attribute) : AttributeMap :=
  .ofList <| seen.map fun a =>
    (a.id, { id := a.id, values := ((seen.filter (·.id = a.id)).flatMap (·.values)).eraseDups })

/-- The attribute of an id takes the values of all that go by it, one after the other. -/
lemma find?_foldl_merge (seen : List Attribute) (x : String) :
    (seen.foldl Work.merge .empty).find? x =
      if seen.filter (·.id = x) = [] then none
      else some (Attribute.addAll { id := x } ((seen.filter (·.id = x)).flatMap (·.values))) := by
  induction seen using List.reverseRecOn with
  | nil => rfl
  | append_singleton seen a ih =>
    rw [List.foldl_append, List.foldl_cons, List.foldl_nil, Work.merge, SortedMap.update,
      SortedMap.find?_insert]
    by_cases hx : x = a.id
    · subst hx
      have hold : (((seen.foldl Work.merge .empty).find? a.id).getD { id := a.id }) =
          Attribute.addAll { id := a.id } ((seen.filter (·.id = a.id)).flatMap (·.values)) := by
        rw [ih]
        split
        · next h => rw [h]; rfl
        · rfl
      rw [if_pos rfl, hold]
      simp [Attribute.addAll, List.filter_append]
    · simp [hx, Ne.symm hx, ih, List.filter_append]

/-- Attributes that are merged one after the other come to the same. -/
lemma foldl_merge_eq_combined (seen : List Attribute) :
    seen.foldl Work.merge .empty = combined seen := by
  refine eq_of_find? fun x => Option.ext fun b => ?_
  rw [find?_foldl_merge, combined, find?_ofList_iff]
  constructor
  · intro h
    split at h
    · exact absurd h (by simp)
    · next hne =>
      obtain ⟨a, ha⟩ := Option.isSome_iff_exists.1 (List.getLast?_isSome.2 hne)
      obtain ⟨-, rfl⟩ := LastBy.mem ha
      exact ⟨a, ha, (addAll_of_nil _ _).symm.trans (Option.some.inj h)⟩
  · rintro ⟨a, ha, rfl⟩
    obtain ⟨hmem, rfl⟩ := LastBy.mem ha
    rw [if_neg (List.ne_nil_of_mem (List.mem_filter.2 ⟨hmem, by simp⟩)), addAll_of_nil]

section Evaluate

variable (ctx : ResolutionContext) (world : σ) (go : String → Except ResolutionError PluginOutput)

/-- What the dependencies of a plugin let it see, taken in order up to the first error. -/
def inputs (p : AnyPlugin σ) : Except ResolutionError AttributeMap :=
  (p.spec.dependencies.mapM fun d => (go d.plugin).map (Work.exposed d)).map fun seen =>
    combined seen.flatten

def attributesOf : PluginOutput → AttributeMap
  | .connector attributes => attributes
  | _ => .empty

/-- What comes of a plugin, given what it does by itself. -/
def conclude (p : AnyPlugin σ) : Except PluginError PluginOutput →
    Except ResolutionError PluginOutput
  | .ok out => .ok out
  | .error e =>
    match p.failover with
    | none => .error (.plugin p.spec.id e)
    | some f =>
      match go f with
      | .ok out => .ok (.connector (attributesOf out))
      | .error e' => .error (.failoverFailed p.spec.id f e e')

def evaluate (p : AnyPlugin σ) : Except ResolutionError PluginOutput :=
  if p.spec.isActive ctx then
    match inputs go p with
    | .error e => .error e
    | .ok seen => conclude go p (p.work ⟨ctx.request, seen⟩ world).1
  else .ok .inactive

end Evaluate

variable {ctx : ResolutionContext} {world : σ}
variable {go go' : String → Except ResolutionError PluginOutput}

lemma inputs_congr {p : AnyPlugin σ} (h : ∀ d ∈ p.dependencies, go d = go' d) :
    inputs go p = inputs go' p := by
  have hmap : ∀ l : List Dependency, (∀ d ∈ l, go d.plugin = go' d.plugin) →
      (l.mapM fun d => (go d.plugin).map (Work.exposed d)) =
        l.mapM fun d => (go' d.plugin).map (Work.exposed d) := by
    intro l hl
    induction l with
    | nil => rfl
    | cons d l ih =>
      rw [List.mapM_cons, List.mapM_cons, hl d (by simp), ih fun d' hd' => hl d' (by simp [hd'])]
  rw [inputs, inputs, hmap _ fun d hd => h _ (List.mem_map_of_mem hd)]

/-- A plugin depends on nothing but what it leads to. -/
lemma evaluate_congr {p : AnyPlugin σ}
    (h : ∀ b ∈ p.dependencies ++ p.failover.toList, go b = go' b) :
    evaluate ctx world go p = evaluate ctx world go' p := by
  have hconclude : conclude go p = conclude go' p := by
    funext res
    cases res with
    | ok out => rfl
    | error e =>
      unfold conclude
      cases hf : p.failover with
      | none => rfl
      | some f => simp only [h f (by simp [hf])]
  simp only [evaluate, hconclude, inputs_congr fun d hd => h d (List.mem_append_left _ hd)]

/-! ### All plugins of a resolver -/

lemma edges_wellFounded (r : Resolver σ) : WellFounded fun b a => b ∈ r.plugins.edges a := by
  obtain ⟨rank, hrank, -⟩ := exists_rank r
  exact Subrelation.wf (fun h => hrank _ _ h) (measure rank).wf

/-- What a plugin puts out in a context, or the error that it ends in. -/
noncomputable def reference (r : Resolver σ) (ctx : ResolutionContext) (world : σ) :
    String → Except ResolutionError PluginOutput :=
  (edges_wellFounded r).fix fun id go =>
    match lookup r.plugins id with
    | some p => evaluate ctx world
        (fun b => if h : b ∈ r.plugins.edges id then go b h else .ok .inactive) p
    | none => .ok .inactive

variable {r : Resolver σ}

lemma reference_eq {id : String} {p : AnyPlugin σ} (hp : lookup r.plugins id = some p) :
    reference r ctx world id = evaluate ctx world (reference r ctx world) p := by
  rw [reference, WellFounded.fix_eq, hp]
  refine evaluate_congr fun b hb => ?_
  have hedge : b ∈ r.plugins.edges id := by
    rw [edges_eq, hp]
    exact hb
  exact dif_pos hedge

/-- Whether something fails, and how. -/
def outcome {ε α : Type} (x : Except ε α) : Except ε Unit := x.map fun _ => ()

lemma outcome_eq_error_iff {ε α : Type} {x : Except ε α} {e : ε} :
    outcome x = .error e ↔ x = .error e := by
  cases x <;> simp [outcome, Except.map]

lemma conclude_connector {c : DataConnector σ} {v : TemplateValues} {value : Option Attribute} :
    conclude go (.connector c) (work v world (.connector c)).1 ≠ .ok (.definition value) := by
  simp only [work]
  cases (c.retrieve v world).1 with
  | ok attributes => simp [Except.map, conclude]
  | error e =>
    simp only [Except.map, conclude, failover]
    cases c.failover with
    | none => simp
    | some f =>
      simp only []
      cases go f with
      | ok out => simp
      | error e' => simp

/-- What connectors put out are no outputs of definitions. -/
lemma evaluate_connector {c : DataConnector σ} {value : Option Attribute} :
    evaluate ctx world go (.connector c) ≠ .ok (.definition value) := by
  unfold evaluate
  split
  · cases inputs go (.connector c) with
    | error e => simp
    | ok seen => exact conclude_connector
  · simp

/-- An active plugin calls its dependencies, and its failover if it fails by itself. -/
inductive Calls (r : Resolver σ) (ctx : ResolutionContext) (world : σ) : String → String → Prop
  | dependency {a b : String} {p : AnyPlugin σ} (hp : lookup r.plugins a = some p)
      (on : p.spec.isActive ctx = true) (hd : b ∈ p.dependencies) : Calls r ctx world a b
  | failover {a b : String} {p : AnyPlugin σ} {seen : AttributeMap} {e : PluginError}
      (hp : lookup r.plugins a = some p) (on : p.spec.isActive ctx = true)
      (hseen : inputs (reference r ctx world) p = .ok seen)
      (hfail : (p.work ⟨ctx.request, seen⟩ world).1 = .error e) (hf : p.failover = some b) :
      Calls r ctx world a b

lemma calls_iff {a b : String} {p : AnyPlugin σ} (hp : lookup r.plugins a = some p) :
    Calls r ctx world a b ↔ p.spec.isActive ctx = true ∧ (b ∈ p.dependencies ∨
      ∃ seen e, inputs (reference r ctx world) p = .ok seen ∧
        (p.work ⟨ctx.request, seen⟩ world).1 = .error e ∧ p.failover = some b) := by
  constructor
  · rintro (⟨hp', on, hd⟩ | ⟨hp', on, hseen, hfail, hf⟩)
    · obtain rfl := Option.some.inj (hp.symm.trans hp')
      exact ⟨on, .inl hd⟩
    · obtain rfl := Option.some.inj (hp.symm.trans hp')
      exact ⟨on, .inr ⟨_, _, hseen, hfail, hf⟩⟩
  · rintro ⟨on, hd | ⟨seen, e, hseen, hfail, hf⟩⟩
    · exact .dependency hp on hd
    · exact .failover hp on hseen hfail hf

/-- The plugins that are called on the way from what is asked for. -/
inductive Reached (r : Resolver σ) (ctx : ResolutionContext) (world : σ) : String → Prop
  | target {id : String} (h : id ∈ r.plugins.targets ctx.request) : Reached r ctx world id
  | call {a b : String} (ha : Reached r ctx world a) (hab : Calls r ctx world a b) :
      Reached r ctx world b

/-- What is called is there, since the references of a resolver are in order. -/
lemma Reached.known {id : String} (h : Reached r ctx world id) :
    ∃ p, lookup r.plugins id = some p := by
  have hcoheres := (check_eq_ok_iff r.plugins).1 r.checked
  cases h with
  | target h =>
    have hdef : r.plugins.definitions.contains id = true := by
      unfold Plugins.targets at h
      split at h
      · exact (SortedMap.mem_keys_iff _ _).1 h
      · exact (List.mem_filter.1 h).2
    obtain ⟨d, hd⟩ := (SortedMap.contains_iff _ _).1 hdef
    exact ⟨.definition d, lookup_definition_iff.2 hd⟩
  | call _ hab =>
    cases hab with
    | dependency hp _ hd =>
      obtain ⟨q, hq⟩ := hcoheres.dependencies _ (lookup_eq_some_iff.1 hp).1 id hd
      exact ⟨q, lookup_eq_some_iff.2 hq⟩
    | failover hp _ _ _ hf =>
      obtain ⟨-, c, hc⟩ := hcoheres.failovers _ (lookup_eq_some_iff.1 hp).1 id hf
      exact ⟨.connector c, lookup_eq_some_iff.2 hc⟩

end AttributeRelease.Proofs.Reference
