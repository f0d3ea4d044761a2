import AttributeRelease.Proofs.Checks
import AttributeRelease.Proofs.Cycles
import AttributeRelease.Proofs.Resolution.AnyPlugin

/-!
Which plugins make a resolver.

The conditions are said of the plugins alone, in whatever order they are given. That no way along
dependencies and failovers leads back is the last of them, and it gives each plugin of a resolver a
rank above all plugins that it leads to.
-/

namespace AttributeRelease.Proofs.Build

open Relation
open AttributeRelease.Proofs.AnyPlugin AttributeRelease.Proofs.Checks

variable {σ : Type}

/-- A plugin leads to those that it depends on, and a connector to its failover. -/
inductive LeadsTo (l : List (AnyPlugin σ)) : String → String → Prop
  | dependency {p : AnyPlugin σ} {id : String} (hp : p ∈ l) (hd : id ∈ p.dependencies) :
      LeadsTo l p.spec.id id
  | failover {p : AnyPlugin σ} {id : String} (hp : p ∈ l) (hf : p.failover = some id) :
      LeadsTo l p.spec.id id

/-- Plugins whose settings and references are in order. -/
structure Coheres (l : List (AnyPlugin σ)) : Prop where
  settings : ∀ p ∈ l, p.checkSettings = .ok ()
  dependencies : ∀ p ∈ l, ∀ id ∈ p.dependencies, ∃ q ∈ l, q.spec.id = id
  failovers : ∀ p ∈ l, ∀ f, p.failover = some f →
    f ≠ p.spec.id ∧ ∃ c, .connector c ∈ l ∧ c.id = f
  acyclic : ∀ id, ¬ TransGen (LeadsTo l) id id

/-- Plugins that fit together. -/
structure Fits (l : List (AnyPlugin σ)) : Prop extends Coheres l where
  distinct : (l.map (·.spec.id)).Nodup

lemma leadsTo_iff {l : List (AnyPlugin σ)} {a b : String} : LeadsTo l a b ↔
    ∃ p ∈ l, p.spec.id = a ∧ b ∈ p.dependencies ++ p.failover.toList := by
  simp only [List.mem_append, Option.mem_toList]
  constructor
  · rintro (⟨hp, hd⟩ | ⟨hp, hf⟩)
    · exact ⟨_, hp, rfl, .inl hd⟩
    · exact ⟨_, hp, rfl, .inr hf⟩
  · rintro ⟨p, hp, rfl, hd | hf⟩
    · exact .dependency hp hd
    · exact .failover hp hf

lemma Coheres.congr {l l' : List (AnyPlugin σ)} (hmem : ∀ p, p ∈ l ↔ p ∈ l') (h : Coheres l) :
    Coheres l' := by
  have hleads : ∀ a b, LeadsTo l' a b → LeadsTo l a b := by
    simp only [leadsTo_iff, hmem]
    exact fun _ _ => id
  refine ⟨?_, ?_, ?_, fun id hcyc => h.acyclic id (TransGen.mono hleads _ _ hcyc)⟩
  · simpa only [hmem] using h.settings
  · simpa only [hmem] using h.dependencies
  · simpa only [hmem] using h.failovers

variable (ps : Plugins σ)

def add (ps : Plugins σ) : AnyPlugin σ → Except ResolverError (Plugins σ)
  | .connector c => ps.addConnector c
  | .definition d => ps.addDefinition d

/-- A plugin is added if its id is new, and then it is there beside those that were. -/
lemma add_spec (p : AnyPlugin σ) :
    match add ps p with
    | .ok ps' => ps.contains p.spec.id = false ∧ ∀ q, q ∈ all ps' ↔ q ∈ all ps ∨ q = p
    | .error _ => ps.contains p.spec.id = true := by
  cases p with
  | connector c =>
    simp only [add, Plugins.addConnector, spec]
    by_cases h : ps.contains c.id = true
    · simp [h]
    · have hnew := Bool.or_eq_false_iff.1 (Bool.not_eq_true _ ▸ h)
      rw [dif_neg h]
      refine ⟨Bool.not_eq_true _ ▸ h, fun q => ?_⟩
      cases q with
      | connector c' =>
        simp [all, connector_mem_together, SortedMap.mem_values_insert_iff hnew.1]
      | definition d' => simp [all, definition_mem_together]
  | definition d =>
    simp only [add, Plugins.addDefinition, spec]
    by_cases h : ps.contains d.id = true
    · simp [h]
    · have hnew := Bool.or_eq_false_iff.1 (Bool.not_eq_true _ ▸ h)
      rw [dif_neg h]
      refine ⟨Bool.not_eq_true _ ▸ h, fun q => ?_⟩
      cases q with
      | connector c' => simp [all, connector_mem_together]
      | definition d' =>
        simp [all, definition_mem_together, SortedMap.mem_values_insert_iff hnew.2]

/-- A list of plugins is collected if no id comes twice, and then all of them are there. -/
lemma foldlM_add_spec (l : List (AnyPlugin σ)) :
    match l.foldlM add ps with
    | .ok ps' => (l.map (·.spec.id)).Nodup ∧ (∀ p ∈ l, ps.contains p.spec.id = false) ∧
        ∀ q, q ∈ all ps' ↔ q ∈ all ps ∨ q ∈ l
    | .error _ => ¬ ((l.map (·.spec.id)).Nodup ∧ ∀ p ∈ l, ps.contains p.spec.id = false) := by
  induction l generalizing ps with
  | nil => exact ⟨.nil, by simp, by simp⟩
  | cons p l ih =>
    have hp := add_spec ps p
    rw [List.foldlM_cons]
    cases hres : add ps p with
    | error e =>
      rw [hres] at hp
      exact fun h => Bool.noConfusion (hp.symm.trans (h.2 p (by simp)))
    | ok ps₁ =>
      rw [hres] at hp
      obtain ⟨hnew, hmem⟩ := hp
      have hcontains : ∀ q : AnyPlugin σ, ps₁.contains q.spec.id = false ↔
          ps.contains q.spec.id = false ∧ p.spec.id ≠ q.spec.id := by
        intro q
        simp only [← Bool.not_eq_true, contains_iff, hmem]
        grind
      have hl := ih ps₁
      show match l.foldlM add ps₁ with
        | .ok ps' => _
        | .error _ => _
      cases hres₂ : l.foldlM add ps₁ with
      | error e =>
        rw [hres₂] at hl
        intro h
        refine hl ⟨(List.nodup_cons.1 h.1).2, fun q hq => (hcontains q).2 ⟨?_, fun heq => ?_⟩⟩
        · exact h.2 q (by simp [hq])
        · exact (List.nodup_cons.1 h.1).1 (List.mem_map.2 ⟨q, hq, heq.symm⟩)
      | ok ps₂ =>
        rw [hres₂] at hl
        obtain ⟨hnodup, hfresh, hmem₂⟩ := hl
        refine ⟨List.nodup_cons.2 ⟨?_, hnodup⟩, ?_, fun q => ?_⟩
        · rw [List.mem_map]
          rintro ⟨q, hq, heq⟩
          exact ((hcontains q).1 (hfresh q hq)).2 heq.symm
        · rw [List.forall_mem_cons]
          exact ⟨hnew, fun q hq => ((hcontains q).1 (hfresh q hq)).1⟩
        · rw [hmem₂, hmem, List.mem_cons, or_assoc]

lemma ofLists_eq (cs : List (DataConnector σ)) (ds : List (AttributeDefinition σ)) :
    Plugins.ofLists cs ds = (together cs ds).foldlM add {} := by
  rw [together, List.foldlM_append, List.foldlM_map, Plugins.ofLists]
  congr 1
  funext ps
  rw [List.foldlM_map]
  rfl

/-- Collecting succeeds if no id comes twice, and gathers just the plugins that were given. -/
lemma ofLists_spec (cs : List (DataConnector σ)) (ds : List (AttributeDefinition σ)) :
    match Plugins.ofLists cs ds with
    | .ok ps => ((together cs ds).map (·.spec.id)).Nodup ∧ ∀ p, p ∈ all ps ↔ p ∈ together cs ds
    | .error _ => ¬ ((together cs ds).map (·.spec.id)).Nodup := by
  have h := foldlM_add_spec {} (together cs ds)
  have hempty : ∀ p : AnyPlugin σ, ({} : Plugins σ).contains p.spec.id = false := fun _ => rfl
  rw [← ofLists_eq] at h
  cases hres : Plugins.ofLists cs ds with
  | error e =>
    rw [hres] at h
    exact fun hnodup => h ⟨hnodup, fun p _ => hempty p⟩
  | ok ps =>
    rw [hres] at h
    obtain ⟨hnodup, -, hmem⟩ := h
    refine ⟨hnodup, fun p => ?_⟩
    simpa [all, together, SortedMap.values, SortedMap.empty] using hmem p

lemma checkSettings_eq_ok_iff :
    ps.checkSettings = .ok () ↔ ∀ p ∈ all ps, p.checkSettings = .ok () := by
  rw [Plugins.checkSettings, andThen_eq_ok_iff, forM_eq_ok_iff, forM_eq_ok_iff, all,
    forall_mem_together]
  rfl

lemma checkDependencies_eq_ok_iff : ps.checkDependencies = .ok () ↔
    ∀ p ∈ all ps, ∀ id ∈ p.dependencies, ps.contains id = true := by
  have hone : ∀ (spec : PluginSpec) (d : Dependency),
      ps.checkDependency spec d = .ok () ↔ ps.contains d.plugin = true := by
    intro spec d
    unfold Plugins.checkDependency
    split <;> simp_all
  rw [Plugins.checkDependencies, forM_eq_ok_iff, specs_eq]
  simp only [List.forall_mem_map, forM_eq_ok_iff, hone, dependencies]

/-- The failover of a connector is another connector; that it is no definition need not be said. -/
lemma checkFailover_eq_ok_iff (c : DataConnector σ) : ps.checkFailover c = .ok () ↔
    ∀ f, c.failover = some f → f ≠ c.id ∧ ps.connectors.contains f = true := by
  unfold Plugins.checkFailover
  cases c.failover with
  | none => simp
  | some f =>
    have hdisj := @ps.disjoint f
    simp only [Plugins.failoverFault?, Option.some.injEq, forall_eq']
    by_cases hself : f = c.id
    · simp [hself]
    · by_cases hdef : ps.definitions.contains f = true
      · have hcon : ¬ ps.connectors.contains f = true := fun h =>
          Bool.noConfusion (hdef.symm.trans (hdisj h))
        simp [hself, hdef, hcon]
      · by_cases hcon : ps.connectors.contains f = true
        · simp [hself, hdef, hcon]
        · simp [hself, hdef, hcon]

lemma checkFailovers_eq_ok_iff : ps.connectors.values.forM ps.checkFailover = .ok () ↔
    ∀ p ∈ all ps, ∀ f, p.failover = some f →
      f ≠ p.spec.id ∧ ps.connectors.contains f = true := by
  rw [forM_eq_ok_iff, all, forall_mem_together]
  simp only [checkFailover_eq_ok_iff, failover, reduceCtorEq, false_imp_iff, implies_true,
    and_true]
  rfl

/-- The edges along which cycles are sought are the ways along dependencies and failovers. -/
lemma mem_edges_iff (a b : String) : b ∈ ps.edges a ↔ LeadsTo (all ps) a b := by
  rw [leadsTo_iff, edges_eq]
  cases h : lookup ps a with
  | none =>
    rw [lookup_eq_none_iff, ← Bool.not_eq_true, contains_iff] at h
    refine ⟨fun hb => absurd hb (by simp), fun ⟨p, hp, hid, _⟩ => absurd ⟨p, hp, hid⟩ h⟩
  | some p =>
    obtain ⟨hp, hid⟩ := lookup_eq_some_iff.1 h
    refine ⟨fun hb => ⟨p, hp, hid, hb⟩, ?_⟩
    rintro ⟨q, hq, hqid, hb⟩
    have hpq : some p = some q := h.symm.trans (lookup_eq_some_iff.2 ⟨hq, hqid⟩)
    exact Option.some.inj hpq ▸ hb

lemma mem_ids_iff (id : String) : id ∈ ps.ids ↔ ps.contains id = true := by
  rw [Plugins.ids, List.mem_append, SortedMap.mem_keys_iff, SortedMap.mem_keys_iff,
    Plugins.contains, Bool.or_eq_true]

/-- References in order keep all edges among the plugins. -/
lemma edges_subset_ids (hdep : ps.checkDependencies = .ok ())
    (hfail : ps.connectors.values.forM ps.checkFailover = .ok ()) (a : String) :
    ps.edges a ⊆ ps.ids := by
  intro b hb
  rw [mem_ids_iff]
  rcases (mem_edges_iff ps a b).1 hb with ⟨hp, hd⟩ | ⟨hp, hf⟩
  · exact (checkDependencies_eq_ok_iff ps).1 hdep _ hp _ hd
  · have := ((checkFailovers_eq_ok_iff ps).1 hfail _ hp _ hf).2
    simp [Plugins.contains, this]

lemma edges_eq_nil (a : String) (ha : a ∉ ps.ids) : ps.edges a = [] := by
  rw [mem_ids_iff, Bool.not_eq_true, ← lookup_eq_none_iff] at ha
  rw [edges_eq, ha]

lemma checkAcyclic_eq_ok_iff :
    ps.checkAcyclic = .ok () ↔ Graph.findCycle? ps.edges ps.ids = none := by
  unfold Plugins.checkAcyclic
  split <;> simp_all

/-- **What the checks of a set of plugins establish.** -/
theorem check_eq_ok_iff : ps.check = .ok () ↔ Coheres (all ps) := by
  rw [Plugins.check, andThen_eq_ok_iff, andThen_eq_ok_iff, andThen_eq_ok_iff]
  have hacyc (hdep : ps.checkDependencies = .ok ())
      (hfail : ps.connectors.values.forM ps.checkFailover = .ok ()) :
      ps.checkAcyclic = .ok () ↔ ∀ id, ¬ TransGen (LeadsTo (all ps)) id id := by
    have hleads : Cycles.Leads ps.edges = LeadsTo (all ps) := by
      funext a b
      exact propext (mem_edges_iff ps a b)
    rw [checkAcyclic_eq_ok_iff, Cycles.findCycle?_eq_none_iff (edges_subset_ids ps hdep hfail)
      (edges_eq_nil ps), Cycles.Acyclic, hleads]
  constructor
  · rintro ⟨hset, hdep, hfail, hcyc⟩
    refine ⟨(checkSettings_eq_ok_iff ps).1 hset, fun p hp id hid => ?_, fun p hp f hf => ?_,
      (hacyc hdep hfail).1 hcyc⟩
    · exact contains_iff.1 ((checkDependencies_eq_ok_iff ps).1 hdep p hp id hid)
    · obtain ⟨hne, hcon⟩ := (checkFailovers_eq_ok_iff ps).1 hfail p hp f hf
      exact ⟨hne, contains_connector_iff.1 hcon⟩
  · intro h
    have hdep := (checkDependencies_eq_ok_iff ps).2 fun p hp id hid =>
      contains_iff.2 (h.dependencies p hp id hid)
    have hfail := (checkFailovers_eq_ok_iff ps).2 fun p hp f hf =>
      ⟨(h.failovers p hp f hf).1, contains_connector_iff.2 (h.failovers p hp f hf).2⟩
    exact ⟨(checkSettings_eq_ok_iff ps).2 h.settings, hdep, hfail,
      (hacyc hdep hfail).2 h.acyclic⟩

/-! ### Building -/

/-- A resolver ranks its plugins: ranks fall along every edge and stay within their number. -/
lemma exists_rank (r : Resolver σ) : ∃ rank : String → ℕ,
    (∀ a b, b ∈ r.plugins.edges a → rank b < rank a) ∧ ∀ a, rank a ≤ r.plugins.size := by
  have hcheck := r.checked
  rw [Plugins.check, andThen_eq_ok_iff, andThen_eq_ok_iff, andThen_eq_ok_iff] at hcheck
  obtain ⟨-, hdep, hfail, hcyc⟩ := hcheck
  obtain ⟨rank, hfall, hbound⟩ := Cycles.exists_rank (edges_subset_ids r.plugins hdep hfail)
    (edges_eq_nil r.plugins) ((checkAcyclic_eq_ok_iff r.plugins).1 hcyc)
  refine ⟨rank, hfall, fun a => (hbound a).trans ?_⟩
  simp [Plugins.ids, Plugins.size, SortedMap.keys, SortedMap.size]

lemma build_eq_ok_iff {id : String} {cs : List (DataConnector σ)}
    {ds : List (AttributeDefinition σ)} {r : Resolver σ} : Resolver.build id cs ds = .ok r ↔
      r.id = id ∧ Plugins.ofLists cs ds = .ok r.plugins := by
  rw [Resolver.build, bind_eq_ok_iff]
  constructor
  · rintro ⟨ps, hps, h⟩
    split at h
    · obtain rfl := Except.ok.inj h
      exact ⟨rfl, hps⟩
    · cases h
  · obtain ⟨_, ps, hcheck⟩ := r
    rintro ⟨rfl, hps⟩
    refine ⟨ps, hps, ?_⟩
    split
    · rfl
    · next e he => exact absurd (hcheck.symm.trans he) nofun

/-- A resolver has just the plugins that it is built of. -/
lemma mem_all_of_build {id : String} {cs : List (DataConnector σ)}
    {ds : List (AttributeDefinition σ)} {r : Resolver σ} (h : Resolver.build id cs ds = .ok r)
    (p : AnyPlugin σ) : p ∈ all r.plugins ↔ p ∈ together cs ds := by
  have hspec := ofLists_spec cs ds
  rw [(build_eq_ok_iff.1 h).2] at hspec
  exact hspec.2 p

/-- Plugins are refused when they are collected or when they are checked. -/
lemma build_eq_error_iff {id : String} {cs : List (DataConnector σ)}
    {ds : List (AttributeDefinition σ)} {e : ResolverError} :
    Resolver.build id cs ds = .error e ↔ Plugins.ofLists cs ds = .error e ∨
      ∃ ps, Plugins.ofLists cs ds = .ok ps ∧ ps.check = .error e := by
  unfold Resolver.build
  cases hres : Plugins.ofLists cs ds with
  | error e' =>
    show (Except.error e' : Except ResolverError (Resolver σ)) = .error e ↔ _
    simp
  | ok ps =>
    simp only [bind, Except.bind]
    split
    · next hcheck => simp [hcheck]
    · next e' hcheck => simp [hcheck]

/-- **Which plugins make a resolver**, in whatever order they are given, and the ranks that a
resolver gives them. -/
theorem build_succeeds_iff (id : String) (cs : List (DataConnector σ))
    (ds : List (AttributeDefinition σ)) :
    ((∃ r, Resolver.build id cs ds = .ok r) ↔ Fits (together cs ds)) ∧
    ∀ r, Resolver.build id cs ds = .ok r → ∃ rank : String → ℕ, ∀ a b,
      LeadsTo (together cs ds) a b → rank b < rank a := by
  have hcollect := ofLists_spec cs ds
  refine ⟨⟨?_, fun hfits => ?_⟩, fun r hr => ?_⟩
  · rintro ⟨r, hr⟩
    rw [(build_eq_ok_iff.1 hr).2] at hcollect
    obtain ⟨hnodup, hmem⟩ := hcollect
    exact ⟨((check_eq_ok_iff r.plugins).1 r.checked).congr hmem, hnodup⟩
  · cases hres : Plugins.ofLists cs ds with
    | error e =>
      rw [hres] at hcollect
      exact absurd hfits.distinct hcollect
    | ok ps =>
      rw [hres] at hcollect
      obtain ⟨-, hmem⟩ := hcollect
      have hcheck := (check_eq_ok_iff ps).2 (hfits.toCoheres.congr fun p => (hmem p).symm)
      exact ⟨⟨id, ps, hcheck⟩, build_eq_ok_iff.2 ⟨rfl, hres⟩⟩
  · rw [(build_eq_ok_iff.1 hr).2] at hcollect
    obtain ⟨-, hmem⟩ := hcollect
    obtain ⟨rank, hfall, -⟩ := exists_rank r
    refine ⟨rank, fun a b hab => hfall a b ((mem_edges_iff r.plugins a b).2 ?_)⟩
    simpa only [leadsTo_iff, hmem] using hab

end AttributeRelease.Proofs.Build
