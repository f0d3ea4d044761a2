import AttributeRelease.Resolution.Resolver

/-!
One pass through the plugins of a resolver.

A pass goes from the attributes that are asked for to all that they depend on, and records what
each plugin put out, so that no plugin does its work twice. A connector that fails is replaced by
its failover; any other failure ends the pass.
-/

namespace AttributeRelease

inductive PluginOutput where
  | inactive
  | definition (value : Option Attribute)
  | connector (attributes : AttributeMap)

/-- What happens to a plugin in a pass. -/
inductive PassEvent where
  | entered (id : String)
  /-- It retrieved or computed, and may have failed. -/
  | worked (id : String) (failure : Option PluginError)
  | recorded (id : String)
  | left (id : String)
  /-- It is passed over because too many plugins are entered. -/
  | passedOver (id : String)
deriving DecidableEq, Repr

/-- Where a pass stands: the outputs so far, what happened in order, and the world outside. -/
structure Work (σ : Type) where
  outputs : SortedMap PluginOutput := .empty
  trace : List PassEvent := []
  world : σ

/-- A part of a pass. -/
abbrev Step (σ : Type) := Work σ → Except ResolutionError Unit × Work σ

namespace Work

variable {σ : Type}

def isResolved (w : Work σ) (id : String) : Bool := w.outputs.contains id

def note (w : Work σ) (e : PassEvent) : Work σ := { w with trace := w.trace ++ [e] }

def record (w : Work σ) (id : String) (out : PluginOutput) : Work σ :=
  { w with outputs := w.outputs.insert id out }.note (.recorded id)

/-- The state after a plugin has done its own work, which leaves the world in a state. -/
def afterWork (w : Work σ) (id : String) (failure : Option PluginError) (world : σ) : Work σ :=
  { w with world }.note (.worked id failure)

@[simp] theorem note_trace (w : Work σ) (e : PassEvent) : (w.note e).trace = w.trace ++ [e] := rfl

@[simp] theorem note_outputs (w : Work σ) (e : PassEvent) : (w.note e).outputs = w.outputs := rfl

@[simp] theorem record_trace (w : Work σ) (id : String) (out : PluginOutput) :
    (w.record id out).trace = w.trace ++ [.recorded id] := rfl

@[simp] theorem record_outputs (w : Work σ) (id : String) (out : PluginOutput) :
    (w.record id out).outputs = w.outputs.insert id out := rfl

theorem isResolved_record_iff {w : Work σ} {id id' : String} {out : PluginOutput} :
    (w.record id out).isResolved id' ↔ id' = id ∨ w.isResolved id' :=
  SortedMap.contains_insert_iff _ _ _ _

@[simp] theorem afterWork_trace (w : Work σ) (id : String) (failure : Option PluginError)
    (world : σ) : (w.afterWork id failure world).trace = w.trace ++ [.worked id failure] := rfl

@[simp] theorem afterWork_outputs (w : Work σ) (id : String) (failure : Option PluginError)
    (world : σ) : (w.afterWork id failure world).outputs = w.outputs := rfl

/-- The attributes of an output that a dependency lets through. -/
def exposed (d : Dependency) : PluginOutput → List Attribute
  | .inactive => []
  | .definition value => value.toList
  | .connector attributes =>
    match d.sourceAttribute with
    | some name => (attributes.find? name).toList
    | none => attributes.values

/-- Adds the values of an attribute to those that are there under its id. -/
def merge (m : AttributeMap) (a : Attribute) : AttributeMap :=
  m.update a.id fun old => (old.getD { id := a.id }).addAll a.values

/-- The attributes that the dependencies of a plugin let through. -/
def visible (w : Work σ) (dependencies : List Dependency) : AttributeMap :=
  (dependencies.flatMap fun d => ((w.outputs.find? d.plugin).map (exposed d)).getD []).foldl
    merge .empty

/-- What a connector put out. Another plugin counts as one with nothing. -/
def connectorAttributes (w : Work σ) (id : String) : AttributeMap :=
  match w.outputs.find? id with
  | some (.connector attributes) => attributes
  | _ => .empty

end Work

/-! ### Steps -/

namespace Plugins

variable {σ : Type} (ctx : ResolutionContext) (go : String → Step σ)

/-- Takes a step for each of several plugins, up to the first failure. -/
def stepAll : List String → Step σ
  | [], w => (.ok (), w)
  | id :: rest, w =>
    match go id w with
    | (.error e, w) => (.error e, w)
    | (.ok (), w) => stepAll rest w

/-- Goes about the dependencies of a plugin and hands on what they let through, or records that
the plugin is not active. -/
def stepSpec (spec : PluginSpec) (act : TemplateValues → Step σ) : Step σ := fun w =>
  if !spec.isActive ctx then (.ok (), w.record spec.id .inactive)
  else
    match stepAll go (spec.dependencies.map (·.plugin)) w with
    | (.error e, w) => (.error e, w)
    | (.ok (), w) => act ⟨ctx.request, w.visible spec.dependencies⟩ w

def actDefinition (d : AttributeDefinition σ) (v : TemplateValues) : Step σ := fun w =>
  match d.compute v w.world with
  | (.error e, s) => (.error (.plugin d.id e), w.afterWork d.id (some e) s)
  | (.ok out, s) => (.ok (), (w.afterWork d.id none s).record d.id (.definition out))

/-- Puts the output of the failover in the place of a connector that failed. -/
def actFailover (c : DataConnector σ) (primary : PluginError) : Step σ := fun w =>
  match c.failover with
  | none => (.error (.plugin c.id primary), w)
  | some failover =>
    match go failover w with
    | (.error e, w) => (.error (.failoverFailed c.id failover primary e), w)
    | (.ok (), w) => (.ok (), w.record c.id (.connector (w.connectorAttributes failover)))

def actConnector (c : DataConnector σ) (v : TemplateValues) : Step σ := fun w =>
  match c.retrieve v w.world with
  | (.ok out, s) =>
    (.ok (), (w.afterWork c.id none s).record c.id (.connector (out.getD .empty)))
  | (.error e, s) => actFailover go c e (w.afterWork c.id (some e) s)

/-- Notes when a plugin is entered and when it is left. -/
def within (id : String) (act : Step σ) : Step σ := fun w =>
  match act (w.note (.entered id)) with
  | (result, w) => (result, w.note (.left id))

/-- The step for a plugin, given those for the plugins that it leads to. What is recorded already
is left as it is, and an unknown plugin does nothing. -/
def step (ps : Plugins σ) (id : String) : Step σ := fun w =>
  if w.isResolved id then (.ok (), w)
  else
    match ps.connectors.find? id with
    | some c => within id (stepSpec ctx go c.toPluginSpec (actConnector go c)) w
    | none =>
      match ps.definitions.find? id with
      | some d => within id (stepSpec ctx go d.toPluginSpec (actDefinition d)) w
      | none => (.ok (), w)

/-- Resolves a plugin, following no more than a number of plugins in a row. -/
def resolveWithin (ps : Plugins σ) (ctx : ResolutionContext) : Nat → String → Step σ
  | 0, id => fun w => (.ok (), w.note (.passedOver id))
  | depth + 1, id => ps.step ctx (resolveWithin ps ctx depth) id

/-- Resolves a plugin and what it leads to. No more plugins can follow each other than there are. -/
def resolve (ps : Plugins σ) (ctx : ResolutionContext) (id : String) : Step σ :=
  ps.resolveWithin ctx (ps.size + 1) id

/-- The definitions that a request is for. -/
def targets (ps : Plugins σ) (q : Request) : List String :=
  if q.requested.isEmpty then ps.definitions.keys
  else q.requested.keys.filter ps.definitions.contains

/-- What is given out of an output: the attribute of a definition that is not for others only. -/
def released? (ps : Plugins σ) (id : String) : PluginOutput → Option Attribute
  | .definition (some a) =>
    if (ps.definitions.find? id).any (·.dependencyOnly) || a.isEmpty then none else some a
  | _ => none

end Plugins

namespace Resolver

variable {σ : Type} (r : Resolver σ)

/-- A pass in a context, which starts with nothing recorded. -/
def pass (c : ResolutionContext) (world : σ) : Except ResolutionError Unit × Work σ :=
  Plugins.stepAll (r.plugins.resolve c) (r.plugins.targets c.request) { world }

/-- Resolves the request of a context, which is left as it is if the pass fails. -/
def resolve (c : ResolutionContext) (world : σ) :
    Except ResolutionError Unit × ResolutionContext × σ :=
  match r.pass c world with
  | (.error e, w) => (.error e, c, w.world)
  | (.ok (), w) =>
    (.ok (), { c with resolved := w.outputs.filterMap r.plugins.released? }, w.world)

end Resolver

end AttributeRelease
