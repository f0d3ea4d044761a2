import AttributeRelease.Resolution.Pass
import Mathlib.Tactic.Common

/-!
Plugins of either kind.

A pass treats connectors and definitions alike but for the work that they do and for what stands in
when it fails. Seen this way, a set of plugins is one list in which every id is found at most once.
-/

namespace AttributeRelease.Proofs

variable {σ : Type}

inductive AnyPlugin (σ : Type) where
  | connector (c : DataConnector σ)
  | definition (d : AttributeDefinition σ)

namespace AnyPlugin

def spec : AnyPlugin σ → PluginSpec
  | connector c => c.toPluginSpec
  | definition d => d.toPluginSpec

def checkSettings : AnyPlugin σ → Except ResolverError Unit
  | connector c => c.checkSettings
  | definition d => d.checkSettings

/-- What stands in for a plugin that fails. -/
def failover : AnyPlugin σ → Option String
  | connector c => c.failover
  | definition _ => none

/-- What a plugin retrieves or computes by itself. -/
def work (v : TemplateValues) (s : σ) : AnyPlugin σ → Except PluginError PluginOutput × σ
  | connector c => ((c.retrieve v s).1.map fun out => .connector (out.getD .empty),
      (c.retrieve v s).2)
  | definition d => ((d.compute v s).1.map .definition, (d.compute v s).2)

/-- The plugins that it depends on, in order. -/
def dependencies (p : AnyPlugin σ) : List String := p.spec.dependencies.map (·.plugin)

def together (cs : List (DataConnector σ)) (ds : List (AttributeDefinition σ)) :
    List (AnyPlugin σ) :=
  cs.map .connector ++ ds.map .definition

lemma connector_mem_together {cs : List (DataConnector σ)} {ds : List (AttributeDefinition σ)}
    {c : DataConnector σ} : connector c ∈ together cs ds ↔ c ∈ cs := by
  simp [together]

lemma definition_mem_together {cs : List (DataConnector σ)} {ds : List (AttributeDefinition σ)}
    {d : AttributeDefinition σ} : definition d ∈ together cs ds ↔ d ∈ ds := by
  simp [together]

lemma forall_mem_together {cs : List (DataConnector σ)} {ds : List (AttributeDefinition σ)}
    {P : AnyPlugin σ → Prop} : (∀ p ∈ together cs ds, P p) ↔
      (∀ c ∈ cs, P (.connector c)) ∧ ∀ d ∈ ds, P (.definition d) := by
  simp [together, or_imp, forall_and]

/-! ### Plugins under their ids -/

/-- All plugins of a set. -/
def all (ps : Plugins σ) : List (AnyPlugin σ) :=
  together ps.connectors.values ps.definitions.values

def lookup (ps : Plugins σ) (id : String) : Option (AnyPlugin σ) :=
  match ps.connectors.find? id with
  | some c => some (.connector c)
  | none => (ps.definitions.find? id).map .definition

variable {ps : Plugins σ} {id : String}

lemma lookup_connector_iff {c : DataConnector σ} :
    lookup ps id = some (.connector c) ↔ ps.connectors.find? id = some c := by
  unfold lookup
  cases ps.connectors.find? id <;> simp

lemma lookup_definition_iff {d : AttributeDefinition σ} :
    lookup ps id = some (.definition d) ↔ ps.definitions.find? id = some d := by
  unfold lookup
  cases hc : ps.connectors.find? id with
  | none => simp
  | some c =>
    have hdisj := ps.disjoint ((SortedMap.contains_iff _ _).2 ⟨c, hc⟩)
    have hd : ps.definitions.find? id = none := by simpa [SortedMap.contains] using hdisj
    simp [hd]

lemma spec_id_of_lookup {p : AnyPlugin σ} (h : lookup ps id = some p) : p.spec.id = id := by
  cases p with
  | connector c => exact ps.connector_id (lookup_connector_iff.1 h)
  | definition d => exact ps.definition_id (lookup_definition_iff.1 h)

lemma mem_all_iff {p : AnyPlugin σ} : p ∈ all ps ↔ lookup ps p.spec.id = some p := by
  cases p with
  | connector c =>
    rw [all, connector_mem_together, SortedMap.mem_values_iff, lookup_connector_iff]
    exact ⟨fun ⟨_, h⟩ => (ps.connector_id h).symm ▸ h, fun h => ⟨_, h⟩⟩
  | definition d =>
    rw [all, definition_mem_together, SortedMap.mem_values_iff, lookup_definition_iff]
    exact ⟨fun ⟨_, h⟩ => (ps.definition_id h).symm ▸ h, fun h => ⟨_, h⟩⟩

lemma lookup_eq_some_iff {p : AnyPlugin σ} :
    lookup ps id = some p ↔ p ∈ all ps ∧ p.spec.id = id := by
  constructor
  · intro h
    obtain rfl := spec_id_of_lookup h
    exact ⟨mem_all_iff.2 h, rfl⟩
  · rintro ⟨hp, rfl⟩
    exact mem_all_iff.1 hp

lemma contains_connector_iff :
    ps.connectors.contains id = true ↔ ∃ c, .connector c ∈ all ps ∧ c.id = id := by
  simp only [SortedMap.contains_iff, ← lookup_connector_iff, lookup_eq_some_iff]
  rfl

lemma contains_iff : ps.contains id = true ↔ ∃ p ∈ all ps, p.spec.id = id := by
  simp only [← lookup_eq_some_iff, Plugins.contains, Bool.or_eq_true, SortedMap.contains_iff,
    ← lookup_connector_iff, ← lookup_definition_iff]
  constructor
  · rintro (⟨c, hc⟩ | ⟨d, hd⟩)
    · exact ⟨_, hc⟩
    · exact ⟨_, hd⟩
  · rintro ⟨p, hp⟩
    cases p with
    | connector c => exact .inl ⟨c, hp⟩
    | definition d => exact .inr ⟨d, hp⟩

lemma specs_eq : ps.specs = (all ps).map spec := by
  simp [Plugins.specs, all, together, spec, Function.comp_def]

lemma lookup_eq_none_iff : lookup ps id = none ↔ ps.contains id = false := by
  rw [← Bool.not_eq_true, contains_iff, Option.eq_none_iff_forall_ne_some]
  simp only [ne_eq, lookup_eq_some_iff, not_exists]

lemma edges_eq : ps.edges id = match lookup ps id with
    | some p => p.dependencies ++ p.failover.toList
    | none => [] := by
  unfold Plugins.edges lookup
  cases ps.connectors.find? id with
  | some c => rfl
  | none =>
    cases ps.definitions.find? id with
    | some d => exact (List.append_nil _).symm
    | none => rfl

end AnyPlugin

end AttributeRelease.Proofs
