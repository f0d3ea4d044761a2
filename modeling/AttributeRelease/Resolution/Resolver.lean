import AttributeRelease.Graph
import AttributeRelease.Resolution.Definition

/-!
Resolvers: sets of plugins that fit together.

Ids are unique, settings are complete, every dependency and failover names a plugin that is there,
and following dependencies and failovers never leads back to where it began. Plugins are gone
through in the order of their ids, connectors before definitions.
-/

namespace AttributeRelease

/-- Plugins under their ids. An id belongs to a connector or to a definition, not to both. -/
structure Plugins (σ : Type) where
  connectors : SortedMap (DataConnector σ) := .empty
  definitions : SortedMap (AttributeDefinition σ) := .empty
  connector_id : ∀ {id c}, connectors.find? id = some c → c.id = id := by
    simp [SortedMap.find?_empty]
  definition_id : ∀ {id d}, definitions.find? id = some d → d.id = id := by
    simp [SortedMap.find?_empty]
  disjoint : ∀ {id}, connectors.contains id = true → definitions.contains id = false := by
    simp [SortedMap.contains, SortedMap.find?_empty]

namespace Plugins

variable {σ : Type} (ps : Plugins σ)

def contains (id : String) : Bool := ps.connectors.contains id || ps.definitions.contains id

def size : Nat := ps.connectors.size + ps.definitions.size

def addConnector (c : DataConnector σ) : Except ResolverError (Plugins σ) :=
  if h : ps.contains c.id = true then .error (.duplicatePlugin c.id)
  else .ok { ps with
    connectors := ps.connectors.insert c.id c
    connector_id := by
      intro id c' hc
      rw [SortedMap.find?_insert] at hc
      split at hc
      · next heq => rw [← Option.some.inj hc, heq]
      · exact ps.connector_id hc
    disjoint := by
      intro id hc
      rw [contains, Bool.not_eq_true, Bool.or_eq_false_iff] at h
      rw [SortedMap.contains, SortedMap.find?_insert] at hc
      split at hc
      · next heq => rw [heq, h.2]
      · exact ps.disjoint hc }

def addDefinition (d : AttributeDefinition σ) : Except ResolverError (Plugins σ) :=
  if h : ps.contains d.id = true then .error (.duplicatePlugin d.id)
  else .ok { ps with
    definitions := ps.definitions.insert d.id d
    definition_id := by
      intro id d' hd
      rw [SortedMap.find?_insert] at hd
      split at hd
      · next heq => rw [← Option.some.inj hd, heq]
      · exact ps.definition_id hd
    disjoint := by
      intro id hc
      rw [contains, Bool.not_eq_true, Bool.or_eq_false_iff] at h
      rw [SortedMap.contains, SortedMap.find?_insert, if_neg]
      · exact ps.disjoint hc
      · rintro rfl
        exact Bool.noConfusion (h.1.symm.trans hc) }

def ofLists (connectors : List (DataConnector σ)) (definitions : List (AttributeDefinition σ)) :
    Except ResolverError (Plugins σ) := do
  definitions.foldlM addDefinition (← connectors.foldlM addConnector {})

/-! ### Checking -/

def ids : List String := ps.connectors.keys ++ ps.definitions.keys

def specs : List PluginSpec :=
  ps.connectors.values.map (·.toPluginSpec) ++ ps.definitions.values.map (·.toPluginSpec)

def checkSettings : Except ResolverError Unit := do
  ps.connectors.values.forM (·.checkSettings)
  ps.definitions.values.forM (·.checkSettings)

def checkDependency (spec : PluginSpec) (d : Dependency) : Except ResolverError Unit :=
  if ps.contains d.plugin then .ok () else .error (.missingDependency spec.id d.plugin)

def checkDependencies : Except ResolverError Unit :=
  ps.specs.forM fun spec => spec.dependencies.forM (ps.checkDependency spec)

def failoverFault? (id failover : String) : Option FailoverFault :=
  if failover = id then some .itself
  else if ps.definitions.contains failover then some .definition
  else if ps.connectors.contains failover then none
  else some .unknown

def checkFailover (c : DataConnector σ) : Except ResolverError Unit :=
  match c.failover with
  | none => .ok ()
  | some failover =>
    match ps.failoverFault? c.id failover with
    | none => .ok ()
    | some fault => .error (.invalidFailover c.id failover fault)

/-- Where a plugin leads to: its dependencies, then its failover. -/
def edges (id : String) : List String :=
  match ps.connectors.find? id with
  | some c => c.dependencies.map (·.plugin) ++ c.failover.toList
  | none =>
    match ps.definitions.find? id with
    | some d => d.dependencies.map (·.plugin)
    | none => []

def checkAcyclic : Except ResolverError Unit :=
  match Graph.findCycle? ps.edges ps.ids with
  | none => .ok ()
  | some path => .error (.dependencyCycle path)

def check : Except ResolverError Unit := do
  ps.checkSettings
  ps.checkDependencies
  ps.connectors.values.forM ps.checkFailover
  ps.checkAcyclic

end Plugins

structure Resolver (σ : Type) where
  id : String
  plugins : Plugins σ
  checked : plugins.check = .ok ()

namespace Resolver

variable {σ : Type}

def build (id : String) (connectors : List (DataConnector σ))
    (definitions : List (AttributeDefinition σ)) : Except ResolverError (Resolver σ) := do
  let plugins ← Plugins.ofLists connectors definitions
  match h : plugins.check with
  | .ok () => .ok ⟨id, plugins, h⟩
  | .error e => .error e

/-- Checks the backends of all connectors up to the first that fails. -/
def validateAll : List (DataConnector σ) → σ → Except ValidationError Unit × σ
  | [], s => (.ok (), s)
  | c :: rest, s =>
    match c.validate s with
    | (.error e, s) => (.error ⟨c.id, e⟩, s)
    | (.ok (), s) => validateAll rest s

def validate (r : Resolver σ) (s : σ) : Except ValidationError Unit × σ :=
  validateAll r.plugins.connectors.values s

end Resolver

end AttributeRelease
