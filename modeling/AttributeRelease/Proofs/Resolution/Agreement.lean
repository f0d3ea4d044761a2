import AttributeRelease.Proofs.Resolution.Reference

/-!
A pass gives what the recursion gives.

What is recorded in a pass is what the recursion says of the plugin, and with a plugin all that it
calls is recorded. Since the failure of a plugin is never recorded, an output that is taken from
the record cannot hide an error of the recursion.
-/

namespace AttributeRelease.Proofs.Agreement

open AttributeRelease.Proofs.AnyPlugin AttributeRelease.Proofs.Build
open AttributeRelease.Proofs.Reference AttributeRelease.Proofs.Rules

variable {σ : Type}

variable {r : Resolver σ} {ctx : ResolutionContext} {world : σ}

/-- What is recorded is what the recursion gives, it is called for, and so is all it calls. -/
structure Faithful (r : Resolver σ) (ctx : ResolutionContext) (world : σ)
    (m : SortedMap PluginOutput) : Prop where
  value : ∀ id out, m.find? id = some out → reference r ctx world id = .ok out
  reached : ∀ id, m.contains id = true → Reached r ctx world id
  closed : ∀ a b, m.contains a = true → Calls r ctx world a b → m.contains b = true

lemma Faithful.insert {m : SortedMap PluginOutput} {id : String} {out : PluginOutput}
    (h : Faithful r ctx world m) (hvalue : reference r ctx world id = .ok out)
    (hreached : Reached r ctx world id)
    (hcalls : ∀ b, Calls r ctx world id b → m.contains b = true) :
    Faithful r ctx world (m.insert id out) := by
  have hmem := fun k => m.contains_insert_iff id k out
  refine ⟨fun k out' hk => ?_, fun k hk => ?_, fun a b ha hab => ?_⟩
  · rw [SortedMap.find?_insert] at hk
    split at hk
    · next heq => rw [heq, hvalue, Option.some.inj hk]
    · exact h.value k out' hk
  · rcases (hmem k).1 hk with rfl | hk
    · exact hreached
    · exact h.reached k hk
  · rw [hmem]
    rcases (hmem a).1 ha with rfl | ha
    · exact .inr (hcalls b hab)
    · exact .inr (h.closed a b ha hab)

lemma outcome_inputs (go : String → Except ResolutionError PluginOutput) (p : AnyPlugin σ) :
    (p.dependencies.forM fun id => outcome (go id)) = outcome (inputs go p) := by
  have hrow : ∀ l : List Dependency, ((l.map (·.plugin)).forM fun id => outcome (go id)) =
      outcome (l.mapM fun d => (go d.plugin).map (Work.exposed d)) := by
    intro l
    induction l with
    | nil => rfl
    | cons d l ih =>
      rw [List.map_cons, List.mapM_cons]
      show (outcome (go d.plugin) >>= fun _ => _) = _
      rw [ih]
      cases go d.plugin with
      | error e => rfl
      | ok out =>
        cases l.mapM fun d => (go d.plugin).map (Work.exposed d) with
        | error e => rfl
        | ok seen => rfl
  rw [dependencies, hrow, inputs]
  cases p.spec.dependencies.mapM fun d => (go d.plugin).map (Work.exposed d) with
  | error e => rfl
  | ok seen => rfl

/-- Once its dependencies are recorded, a plugin sees in the record what the recursion shows it. -/
lemma inputs_eq_visible {w : Work σ} {p : AnyPlugin σ} (h : Faithful r ctx world w.outputs)
    (hdeps : ∀ d ∈ p.dependencies, w.isResolved d = true) :
    inputs (reference r ctx world) p = .ok (w.visible p.spec.dependencies) := by
  have hrow : ∀ l : List Dependency, (∀ d ∈ l, w.isResolved d.plugin = true) →
      (l.mapM fun d => (reference r ctx world d.plugin).map (Work.exposed d)) =
        .ok (l.map fun d => ((w.outputs.find? d.plugin).map (Work.exposed d)).getD []) := by
    intro l hl
    induction l with
    | nil => rfl
    | cons d l ih =>
      obtain ⟨out, hout⟩ := (SortedMap.contains_iff _ _).1 (hl d (by simp))
      rw [List.mapM_cons, ih fun d' hd' => hl d' (by simp [hd']), h.value _ _ hout, List.map_cons,
        hout]
      rfl
  rw [inputs, hrow _ fun d hd => hdeps _ (List.mem_map_of_mem hd)]
  simp only [Except.map, Work.visible, List.flatMap_def, foldl_merge_eq_combined]

lemma reference_eq_of_inputs {p : AnyPlugin σ} {seen : AttributeMap}
    (hp : lookup r.plugins p.spec.id = some p) (on : p.spec.isActive ctx = true)
    (hseen : inputs (reference r ctx world) p = .ok seen) :
    reference r ctx world p.spec.id =
      conclude (reference r ctx world) p (p.work ⟨ctx.request, seen⟩ world).1 := by
  simp only [reference_eq hp, evaluate, if_pos on, hseen]

/-- What a plugin does in the world of a pass is what it does in the world of the recursion. -/
lemma work_eq (world : σ) {w : Work σ} {p : AnyPlugin σ} {s : σ}
    {res : Except PluginError PluginOutput} (hsteady : Steady r.plugins)
    (hp : lookup r.plugins p.spec.id = some p)
    (hwork : p.work (input ctx p w) w.world = (res, s)) :
    (p.work ⟨ctx.request, w.visible p.spec.dependencies⟩ world).1 = res := by
  rw [work_steady (hsteady p (lookup_eq_some_iff.1 hp).1) _ world w.world]
  exact congrArg Prod.fst hwork

/-- When a job comes up: what it is about is called for, and before it acts, what a plugin depends
on is recorded. -/
def Called (r : Resolver σ) (ctx : ResolutionContext) (world : σ) (w : Work σ) : Job σ → Prop
  | .row ids => ∀ id ∈ ids, Reached r ctx world id
  | .plugin id => Reached r ctx world id
  | .inside p => lookup r.plugins p.spec.id = some p ∧ Reached r ctx world p.spec.id
  | .act p => lookup r.plugins p.spec.id = some p ∧ Reached r ctx world p.spec.id ∧
      p.spec.isActive ctx = true ∧ ∀ d ∈ p.dependencies, w.isResolved d = true

noncomputable def expected (r : Resolver σ) (ctx : ResolutionContext) (world : σ) :
    Job σ → Except ResolutionError Unit
  | .row ids => ids.forM fun id => outcome (reference r ctx world id)
  | .plugin id => outcome (reference r ctx world id)
  | .inside p => outcome (reference r ctx world p.spec.id)
  | .act p => outcome (reference r ctx world p.spec.id)

lemma expected_cons (id : String) (ids : List String) :
    expected r ctx world (.row (id :: ids)) = (outcome (reference r ctx world id) >>= fun _ =>
      expected r ctx world (.row ids)) := rfl

/-- A job that ends as the recursion says, and leaves what it records faithful. -/
structure Agrees (r : Resolver σ) (ctx : ResolutionContext) (world : σ) (job : Job σ)
    (w : Work σ) (out : Except ResolutionError Unit × Work σ) : Prop where
  result : out.1 = expected r ctx world job
  faithful : Faithful r ctx world out.2.outputs
  grows : ∀ id, w.isResolved id = true → out.2.isResolved id = true
  resolved : out.1 = .ok () → ∀ id ∈ subjects job, out.2.isResolved id = true

/-- A plugin is recorded with what the recursion gives it. -/
lemma record_agrees {w w₁ : Work σ} {p : AnyPlugin σ} {out : PluginOutput} {job : Job σ}
    (hexp : expected r ctx world job = outcome (reference r ctx world p.spec.id))
    (hsub : subjects job = [p.spec.id]) (hf : Faithful r ctx world w₁.outputs)
    (hgrows : ∀ id, w.isResolved id = true → w₁.isResolved id = true)
    (hreached : Reached r ctx world p.spec.id)
    (hvalue : reference r ctx world p.spec.id = .ok out)
    (hcalls : ∀ b, Calls r ctx world p.spec.id b → w₁.isResolved b = true) :
    Agrees r ctx world job w (.ok (), w₁.record p.spec.id out) := by
  refine ⟨?_, hf.insert hvalue hreached hcalls, fun id hid => ?_, fun _ id hid => ?_⟩
  · rw [hexp, hvalue]
    rfl
  · exact Work.isResolved_record_iff.2 (.inr (hgrows id hid))
  · rw [hsub, List.mem_singleton] at hid
    exact Work.isResolved_record_iff.2 (.inl hid)

/-- A plugin fails as the recursion does. -/
lemma fail_agrees {w w₁ : Work σ} {p : AnyPlugin σ} {e : ResolutionError} {job : Job σ}
    (hexp : expected r ctx world job = outcome (reference r ctx world p.spec.id))
    (hf : Faithful r ctx world w₁.outputs)
    (hgrows : ∀ id, w.isResolved id = true → w₁.isResolved id = true)
    (hvalue : reference r ctx world p.spec.id = .error e) :
    Agrees r ctx world job w (.error e, w₁) := by
  refine ⟨?_, hf, hgrows, by simp⟩
  rw [hexp, hvalue]
  rfl

/-- **Whatever is done by the rules agrees with the recursion.** -/
theorem resolves_agrees (hsteady : Steady r.plugins) {job : Job σ} {w : Work σ}
    {out : Except ResolutionError Unit × Work σ} (h : Resolves r.plugins ctx job w out)
    (hf : Faithful r ctx world w.outputs) (hc : Called r ctx world w job) :
    Agrees r ctx world job w out := by
  induction h with
  | nil => exact ⟨rfl, hf, fun _ => id, fun _ _ hid => absurd hid (by simp [subjects])⟩
  | @next id ids w w₁ out _ _ ihfirst ihrest =>
    have hfirst := ihfirst hf (hc id (by simp))
    have hrest := ihrest hfirst.faithful fun id hid => hc id (by simp [hid])
    refine ⟨?_, hrest.faithful, fun k hk => hrest.grows k (hfirst.grows k hk), fun hok k hk => ?_⟩
    · have hid : outcome (reference r ctx world id) = .ok () := hfirst.result.symm
      rw [hrest.result, expected_cons, hid]
      rfl
    · rcases List.mem_cons.1 hk with rfl | hk
      · exact hrest.grows _ (hfirst.resolved rfl _ (by simp [subjects]))
      · exact hrest.resolved hok k hk
  | @stop id ids w w₁ e _ ihfirst =>
    have hfirst := ihfirst hf (hc id (by simp))
    have hid : outcome (reference r ctx world id) = .error e := hfirst.result.symm
    refine ⟨?_, hfirst.faithful, hfirst.grows, by simp⟩
    rw [expected_cons, hid]
    rfl
  | @recorded id w old =>
    obtain ⟨out, hout⟩ := (SortedMap.contains_iff _ _).1 old
    refine ⟨?_, hf, fun _ hk => hk, fun _ k hk => ?_⟩
    · rw [expected, hf.value id out hout]
      rfl
    · obtain rfl := List.mem_singleton.1 hk
      exact old
  | @unknown id w _ hnone =>
    obtain ⟨p, hp⟩ := hc.known
    exact absurd (hnone.symm.trans hp) (by simp)
  | @enter id p w result w₁ _ hp _ ih =>
    obtain rfl := spec_id_of_lookup hp
    have hinner := ih hf ⟨hp, hc⟩
    exact ⟨hinner.result, hinner.faithful, hinner.grows, hinner.resolved⟩
  | @inactive p w off =>
    obtain ⟨hp, hreached⟩ := hc
    refine record_agrees rfl rfl hf (fun _ hk => hk) hreached ?_ fun b hb => ?_
    · rw [reference_eq hp, evaluate, if_neg (by simp [off])]
    · exact absurd ((calls_iff hp).1 hb).1 (by simp [off])
  | @blocked p w w₁ e on _ ih =>
    obtain ⟨hp, hreached⟩ := hc
    have hrow := ih hf fun d hd => hreached.call (.dependency hp on hd)
    have hinputs : inputs (reference r ctx world) p = .error e := by
      rw [← outcome_eq_error_iff, ← outcome_inputs]
      exact hrow.result.symm
    refine fail_agrees rfl hrow.faithful hrow.grows ?_
    rw [reference_eq hp, evaluate, if_pos on, hinputs]
  | @proceed p w w₁ out on _ _ ihdeps ihact =>
    obtain ⟨hp, hreached⟩ := hc
    have hrow := ihdeps hf fun d hd => hreached.call (.dependency hp on hd)
    have hact := ihact hrow.faithful ⟨hp, hreached, on, hrow.resolved rfl⟩
    exact ⟨hact.result, hact.faithful, fun k hk => hact.grows k (hrow.grows k hk), hact.resolved⟩
  | @done p w out s work =>
    obtain ⟨hp, hreached, on, hdeps⟩ := hc
    have hseen := inputs_eq_visible hf hdeps
    have hwork := work_eq world hsteady hp work
    refine record_agrees rfl rfl hf (fun _ hk => hk) hreached ?_ fun b hb => ?_
    · rw [reference_eq_of_inputs hp on hseen, hwork, conclude]
    · rcases ((calls_iff hp).1 hb).2 with hd | ⟨seen, e, hseen', hfail, -⟩
      · exact hdeps b hd
      · rw [hseen] at hseen'
        obtain rfl := Except.ok.inj hseen'
        exact absurd (hwork.symm.trans hfail) (by simp)
  | @failed p w e s work alone =>
    obtain ⟨hp, hreached, on, hdeps⟩ := hc
    have hseen := inputs_eq_visible hf hdeps
    refine fail_agrees rfl hf (fun _ hk => hk) ?_
    rw [reference_eq_of_inputs hp on hseen, work_eq world hsteady hp work]
    simp only [conclude, alone]
  | @substituted p w e s f w₁ work hfail _ ih =>
    obtain ⟨hp, hreached, on, hdeps⟩ := hc
    have hseen := inputs_eq_visible hf hdeps
    have hwork := work_eq world hsteady hp work
    have hsub := ih hf (hreached.call (.failover hp on hseen hwork hfail))
    have hrec : w₁.isResolved f = true := hsub.resolved rfl f (by simp [subjects])
    obtain ⟨out, hout⟩ := (SortedMap.contains_iff _ _).1 hrec
    have hvalue : reference r ctx world f = .ok out := hsub.faithful.value f out hout
    refine record_agrees rfl rfl hsub.faithful hsub.grows hreached ?_ fun b hb => ?_
    · rw [reference_eq_of_inputs hp on hseen, hwork]
      simp only [conclude, hfail, hvalue, Work.connectorAttributes, hout]
      cases out <;> rfl
    · rcases ((calls_iff hp).1 hb).2 with hd | ⟨_, _, -, -, hf'⟩
      · exact hsub.grows b (hdeps b hd)
      · obtain rfl := Option.some.inj (hfail.symm.trans hf')
        exact hrec
  | @failedTwice p w e s f e' w₁ work hfail _ ih =>
    obtain ⟨hp, hreached, on, hdeps⟩ := hc
    have hseen := inputs_eq_visible hf hdeps
    have hwork := work_eq world hsteady hp work
    have hsub := ih hf (hreached.call (.failover hp on hseen hwork hfail))
    have hvalue : reference r ctx world f = .error e' :=
      outcome_eq_error_iff.1 hsub.result.symm
    refine fail_agrees rfl hsub.faithful hsub.grows ?_
    rw [reference_eq_of_inputs hp on hseen, hwork]
    simp only [conclude, hfail, hvalue]

/-! ### Whole resolutions -/

/-- What is asked for comes in the order of its names, and without names, it is all definitions. -/
lemma targets_spec (ps : Plugins σ) (q : Request) : (ps.targets q).Pairwise (· < ·) ∧
    ∀ id, id ∈ ps.targets q ↔ ps.definitions.contains id = true ∧
      (q.requested.isEmpty = true ∨ q.requested.contains id = true) := by
  unfold Plugins.targets
  split
  · next hall =>
    refine ⟨List.pairwise_map.2 ps.definitions.sorted, fun id => ?_⟩
    rw [SortedMap.mem_keys_iff]
    simp [hall]
  · next hsome =>
    refine ⟨(List.pairwise_map.2 q.requested.sorted).filter _, fun id => ?_⟩
    rw [List.mem_filter, SortedMap.mem_keys_iff]
    simp [hsome, and_comm]

lemma released?_eq_some_iff {ps : Plugins σ} {id : String} {out : PluginOutput} {a : Attribute} :
    ps.released? id out = some a ↔ out = .definition (some a) ∧
      (∀ d, ps.definitions.find? id = some d → d.dependencyOnly = false) ∧ a.values ≠ [] := by
  rcases out with _ | (_ | b) | m
  · simp [Plugins.released?]
  · simp [Plugins.released?]
  · cases hd : ps.definitions.find? id with
    | none => simp [Plugins.released?, hd, Attribute.isEmpty]; grind
    | some d => simp [Plugins.released?, hd, Attribute.isEmpty]; grind
  · simp [Plugins.released?]

lemma resolve_fst (r : Resolver σ) (ctx : ResolutionContext) (s : σ) :
    (r.resolve ctx s).1 = (r.pass ctx s).1 := by
  unfold Resolver.resolve
  rcases r.pass ctx s with ⟨_ | _, w⟩ <;> rfl

lemma find?_resolved {s : σ} (h : (r.pass ctx s).1 = .ok ()) (id : String) :
    (r.resolve ctx s).2.1.resolved.find? id =
      ((r.pass ctx s).2.outputs.find? id).bind (r.plugins.released? id) := by
  unfold Resolver.resolve
  rcases hpass : r.pass ctx s with ⟨e | u, w⟩
  · rw [hpass] at h
    exact absurd h (by simp)
  · exact SortedMap.find?_filterMap _ _ _

lemma empty_faithful : Faithful r ctx world .empty :=
  ⟨fun _ _ h => absurd h (by simp [SortedMap.find?_empty]), fun _ h => Bool.noConfusion h,
    fun _ _ h => Bool.noConfusion h⟩

/-- Once all targets are recorded, so is all that is reached from them. -/
lemma Faithful.contains_of_reached {m : SortedMap PluginOutput} (h : Faithful r ctx world m)
    (htargets : ∀ id ∈ r.plugins.targets ctx.request, m.contains id = true) {id : String}
    (hid : Reached r ctx world id) : m.contains id = true := by
  induction hid with
  | target hid => exact htargets _ hid
  | call _ hab ih => exact h.closed _ _ ih hab

/-- What puts out an attribute of its own is a definition. -/
lemma definition_of_reference {id : String} {value : Option Attribute}
    (hid : Reached r ctx world id) (h : reference r ctx world id = .ok (.definition value)) :
    ∃ d, r.plugins.definitions.find? id = some d := by
  obtain ⟨p, hp⟩ := hid.known
  cases p with
  | connector c =>
    rw [reference_eq hp] at h
    exact absurd h evaluate_connector
  | definition d => exact ⟨d, lookup_definition_iff.1 hp⟩

/-- A resolution that fails just as the recursion does for the first of its targets, and otherwise
releases the attributes of all definitions that the recursion reaches. -/
structure FollowsReference (r : Resolver σ) (ctx : ResolutionContext) (world s : σ) : Prop where
  targets : (r.plugins.targets ctx.request).Pairwise (· < ·) ∧
    ∀ id, id ∈ r.plugins.targets ctx.request ↔ r.plugins.definitions.contains id = true ∧
      (ctx.request.requested.isEmpty = true ∨ ctx.request.requested.contains id = true)
  result : (r.resolve ctx s).1 = (r.plugins.targets ctx.request).forM fun id =>
    outcome (reference r ctx world id)
  released : (r.resolve ctx s).1 = .ok () → ∀ id a,
    (r.resolve ctx s).2.1.resolved.find? id = some a ↔
      Reached r ctx world id ∧ reference r ctx world id = .ok (.definition (some a)) ∧
        (∃ d, r.plugins.definitions.find? id = some d ∧ d.dependencyOnly = false) ∧ a.values ≠ []

/-- **A resolution agrees with the recursion** over the graph of plugins, which remembers nothing
and sees one world all the time. -/
theorem resolve_follows_reference (r : Resolver σ) (hsteady : Steady r.plugins)
    (ctx : ResolutionContext) (world s : σ) : FollowsReference r ctx world s := by
  have htargets : ∀ id ∈ r.plugins.targets ctx.request, Reached r ctx world id :=
    fun id hid => .target hid
  have hpass := resolves_agrees hsteady (pass_resolves r ctx s) empty_faithful htargets
  refine ⟨targets_spec r.plugins ctx.request, ?_, ?_⟩
  · rw [resolve_fst, hpass.result]
    rfl
  · intro hok id a
    rw [resolve_fst] at hok
    have hdone : ∀ k ∈ r.plugins.targets ctx.request,
        (r.pass ctx s).2.outputs.contains k = true := hpass.resolved hok
    rw [find?_resolved hok, Option.bind_eq_some_iff]
    constructor
    · rintro ⟨out, hout, hrel⟩
      obtain ⟨rfl, honly, hvalues⟩ := released?_eq_some_iff.1 hrel
      have hvalue := hpass.faithful.value id _ hout
      have hreached := hpass.faithful.reached id ((SortedMap.contains_iff _ _).2 ⟨_, hout⟩)
      obtain ⟨d, hd⟩ := definition_of_reference hreached hvalue
      exact ⟨hreached, hvalue, ⟨d, hd, honly d hd⟩, hvalues⟩
    · rintro ⟨hreached, hvalue, ⟨d, hd, honly⟩, hvalues⟩
      have hrec := hpass.faithful.contains_of_reached hdone hreached
      obtain ⟨out, hout⟩ := (SortedMap.contains_iff _ _).1 hrec
      obtain rfl : out = .definition (some a) :=
        Except.ok.inj ((hpass.faithful.value id out hout).symm.trans hvalue)
      refine ⟨_, hout, released?_eq_some_iff.2 ⟨rfl, fun d' hd' => ?_, hvalues⟩⟩
      obtain rfl := Option.some.inj (hd.symm.trans hd')
      exact honly

/-- It fails and counts how often. -/
def silent : DirectoryClient ℕ where
  search _ := fun n => (.error (.unavailable "directory"), n + 1)
  checkConnection := .unavailable "directory"

def directory : DataConnector ℕ where
  id := "directory"
  source := .directory silent "" ⟨"uid=a", [.literal "uid=a".toList]⟩ []
    ({} : EntryMapping).map
  failover := some "spare"

def spare : DataConnector ℕ where
  id := "spare"
  source := .ofAttributes [{ id := "mail", values := [.string "a@b.example"] }]

def mail : AttributeDefinition ℕ where
  id := "mail"
  kind := .simple
  dependencies := [⟨"directory", none⟩]

def mirrored : Resolver ℕ :=
  (Resolver.build "mirrored" [directory, spare] [mail]).toOption.get rfl

/-- The world of the recursion need not be that of the resolution. -/
theorem mirrored_follows_reference : Steady mirrored.plugins ∧
    FollowsReference mirrored {} 0 5 ∧ (mirrored.resolve {} 5).1 = .ok () ∧
      (mirrored.resolve {} 5).2.1.resolved.keys = ["mail"] := by
  have hsteady : Steady mirrored.plugins := by
    have hall : all mirrored.plugins =
        [.connector directory, .connector spare, .definition mail] := rfl
    intro p hp
    simp only [hall, List.mem_cons, List.not_mem_nil, or_false] at hp
    rcases hp with rfl | rfl | rfl
    · exact fun _ _ _ => rfl
    · trivial
    · trivial
  exact ⟨hsteady, resolve_follows_reference mirrored hsteady {} 0 5, rfl, rfl⟩

end AttributeRelease.Proofs.Agreement
