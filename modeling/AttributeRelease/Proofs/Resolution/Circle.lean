import AttributeRelease.Proofs.Resolution.Build

/-!
The circle that is reported of plugins that lead back to themselves.

No check before the search for cycles speaks of one, and those that passed vouch for all references.
So the search has every plugin before it and nothing else, and the path on which it is stopped goes
from plugin to plugin along dependencies and failovers.
-/

namespace AttributeRelease.Proofs.Circle

open AttributeRelease.Proofs.AnyPlugin AttributeRelease.Proofs.Build
open AttributeRelease.Proofs.Checks

variable {σ : Type}

/-- A way from plugin to plugin that ends where it began, and meets none twice before that. -/
structure IsCircle (l : List (AnyPlugin σ)) (path : List String) : Prop where
  long : 2 ≤ path.length
  closed : path.head? = path.getLast?
  simple : path.dropLast.Nodup
  registered : ∀ id ∈ path.dropLast, ∃ p ∈ l, p.spec.id = id
  leads : path.IsChain (LeadsTo l)

/-- Plugins that fit together, but for ways that lead back. -/
structure InOrder (l : List (AnyPlugin σ)) : Prop where
  distinct : (l.map (·.spec.id)).Nodup
  settings : ∀ p ∈ l, p.checkSettings = .ok ()
  dependencies : ∀ p ∈ l, ∀ id ∈ p.dependencies, ∃ q ∈ l, q.spec.id = id
  failovers : ∀ p ∈ l, ∀ f, p.failover = some f →
    f ≠ p.spec.id ∧ ∃ c, .connector c ∈ l ∧ c.id = f

/-- Whatever is not the end of a chain has something behind it. -/
lemma exists_of_mem_dropLast {r : String → String → Prop} {path : List String} {a : String}
    (h : path.IsChain r) (ha : a ∈ path.dropLast) : ∃ b, r a b := by
  induction path with
  | nil => simp at ha
  | cons x path ih =>
    cases path with
    | nil => simp at ha
    | cons y path =>
      obtain ⟨hxy, hrest⟩ := List.isChain_cons_cons.1 h
      rw [List.dropLast_cons_cons] at ha
      rcases List.mem_cons.1 ha with rfl | ha
      · exact ⟨y, hxy⟩
      · exact ih hrest ha

lemma isCircle_iff (ps : Plugins σ) {path : List String} :
    IsCircle (all ps) path ↔ Cycles.IsCycle ps.edges path := by
  have hleads : Cycles.Leads ps.edges = LeadsTo (all ps) := by
    funext a b
    exact propext (mem_edges_iff ps a b)
  constructor
  · intro h
    exact ⟨h.long, h.closed, h.simple, hleads ▸ h.leads⟩
  · intro h
    have hchain : path.IsChain (LeadsTo (all ps)) := hleads ▸ h.leads
    refine ⟨h.long, h.closed, h.simple, fun id hid => ?_, hchain⟩
    obtain ⟨b, hb⟩ := exists_of_mem_dropLast hchain hid
    obtain ⟨p, hp, hpid, -⟩ := leadsTo_iff.1 hb
    exact ⟨p, hp, hpid⟩

/-- Which plugins there are makes a circle, not in what order they are given. -/
lemma IsCircle.congr {l l' : List (AnyPlugin σ)} {path : List String} (h : IsCircle l path)
    (hmem : ∀ p, p ∈ l ↔ p ∈ l') : IsCircle l' path := by
  have hleads : LeadsTo l = LeadsTo l' := by
    funext a b
    simp only [leadsTo_iff, hmem]
  refine ⟨h.long, h.closed, h.simple, ?_, hleads ▸ h.leads⟩
  simpa only [hmem] using h.registered

/-- The errors that are about plugins taken together. -/
def AboutAll : ResolverError → Prop
  | .duplicatePlugin _ | .dependencyCycle _ => True
  | _ => False

/-- A check that reports no such error, whatever else it may report. -/
def Silent (x : Except ResolverError Unit) : Prop := ∀ e, AboutAll e → x ≠ .error e

lemma forM_silent {α : Type} {l : List α} {f : α → Except ResolverError Unit}
    (h : ∀ x ∈ l, Silent (f x)) : Silent (l.forM f) := by
  intro e he herror
  obtain ⟨x, hx, hfx⟩ := exists_of_forM_eq_error herror
  exact h x hx e he hfx

lemma connector_checkSettings_silent (c : DataConnector σ) : Silent c.checkSettings := by
  intro e he h
  unfold DataConnector.checkSettings at h
  split at h
  · obtain rfl := Except.error.inj h
    exact he
  · cases h

/-- The faults of definitions are about the definition alone. -/
lemma fault?_not_aboutAll {kind : DefinitionKind σ} {spec : PluginSpec} {e : ResolverError}
    (h : kind.fault? spec = some e) : ¬ AboutAll e := by
  have hdependency : DefinitionKind.fault?.needsDependency spec = some e → ¬ AboutAll e := by
    unfold DefinitionKind.fault?.needsDependency
    split
    · rintro ⟨⟩
      exact id
    · exact nofun
  cases kind with
  | simple => exact hdependency h
  | withScope scope =>
    rw [DefinitionKind.fault?] at h
    split at h
    · obtain rfl := Option.some.inj h
      exact id
    · exact hdependency h
  | regexSplit p =>
    rw [DefinitionKind.fault?] at h
    cases hneeds : DefinitionKind.fault?.needsDependency spec with
    | some e' =>
      rw [hneeds] at h
      exact hdependency (hneeds.trans h)
    | none =>
      rw [hneeds] at h
      change (if p.regex.groups = 0 then _ else none) = _ at h
      split at h
      · obtain rfl := Option.some.inj h
        exact id
      · cases h
  | scripted engine source =>
    rw [DefinitionKind.fault?] at h
    split at h
    · obtain rfl := Option.some.inj h
      exact id
    · split at h
      · cases h
      · obtain rfl := Option.some.inj h
        exact id
  | principalAuthenticationMethod => cases h

lemma definition_checkSettings_silent (d : AttributeDefinition σ) : Silent d.checkSettings := by
  intro e he h
  unfold AttributeDefinition.checkSettings at h
  split at h
  · next e' hfault =>
    obtain rfl := Except.error.inj h
    exact fault?_not_aboutAll hfault he
  · cases h

variable (ps : Plugins σ)

lemma checkSettings_silent : Silent ps.checkSettings := by
  intro e he h
  rcases andThen_eq_error_iff.1 h with h | ⟨-, h⟩
  · exact forM_silent (fun c _ => connector_checkSettings_silent c) e he h
  · exact forM_silent (fun d _ => definition_checkSettings_silent d) e he h

lemma checkDependencies_silent : Silent ps.checkDependencies := by
  refine forM_silent fun spec _ => forM_silent fun d _ e he h => ?_
  unfold Plugins.checkDependency at h
  split at h
  · cases h
  · obtain rfl := Except.error.inj h
    exact he

lemma checkFailovers_silent : Silent (ps.connectors.values.forM ps.checkFailover) := by
  refine forM_silent fun c _ e he h => ?_
  unfold Plugins.checkFailover at h
  split at h
  · cases h
  · split at h
    · cases h
    · obtain rfl := Except.error.inj h
      exact he

/-- Only an id that is there already can be said against a plugin when it is added. -/
lemma add_eq_error {ps : Plugins σ} {p : AnyPlugin σ} {e : ResolverError}
    (h : add ps p = .error e) : e = .duplicatePlugin p.spec.id := by
  cases p with
  | connector c =>
    rw [add, Plugins.addConnector] at h
    split at h
    · exact (Except.error.inj h).symm
    · cases h
  | definition d =>
    rw [add, Plugins.addDefinition] at h
    split at h
    · exact (Except.error.inj h).symm
    · cases h

lemma ofLists_eq_error {cs : List (DataConnector σ)} {ds : List (AttributeDefinition σ)}
    {e : ResolverError} (h : Plugins.ofLists cs ds = .error e) :
    ∃ id, e = .duplicatePlugin id := by
  rw [ofLists_eq] at h
  generalize together cs ds = l, ({} : Plugins σ) = ps at h
  induction l generalizing ps with
  | nil => cases h
  | cons p l ih =>
    rw [List.foldlM_cons] at h
    cases hres : add ps p with
    | error e' =>
      rw [hres] at h
      obtain rfl := Except.error.inj h
      exact ⟨_, add_eq_error hres⟩
    | ok ps₁ =>
      rw [hres] at h
      exact ih ps₁ h

lemma checkAcyclic_eq_error_iff {path : List String} :
    ps.checkAcyclic = .error (.dependencyCycle path) ↔
      Graph.findCycle? ps.edges ps.ids = some path := by
  unfold Plugins.checkAcyclic
  split <;> simp_all

/-- A cycle is reported by the search for cycles, and once all other checks have passed. -/
lemma check_eq_cycle_iff {path : List String} :
    ps.check = .error (.dependencyCycle path) ↔ ps.checkSettings = .ok () ∧
      ps.checkDependencies = .ok () ∧ ps.connectors.values.forM ps.checkFailover = .ok () ∧
        Graph.findCycle? ps.edges ps.ids = some path := by
  have hsettings := checkSettings_silent ps (.dependencyCycle path) trivial
  have hdependencies := checkDependencies_silent ps (.dependencyCycle path) trivial
  have hfailovers := checkFailovers_silent ps (.dependencyCycle path) trivial
  rw [Plugins.check, andThen_eq_error_iff, andThen_eq_error_iff, andThen_eq_error_iff,
    checkAcyclic_eq_error_iff]
  tauto

/-! ### Building -/

lemma build_eq_cycle_iff {id : String} {cs : List (DataConnector σ)}
    {ds : List (AttributeDefinition σ)} {path : List String} :
    Resolver.build id cs ds = .error (.dependencyCycle path) ↔
      ∃ ps, Plugins.ofLists cs ds = .ok ps ∧ ps.check = .error (.dependencyCycle path) := by
  rw [build_eq_error_iff]
  refine or_iff_right fun h => ?_
  obtain ⟨_, hduplicate⟩ := ofLists_eq_error h
  cases hduplicate

/-- The other checks establish that the plugins are in order. -/
lemma inOrder_iff {cs : List (DataConnector σ)} {ds : List (AttributeDefinition σ)}
    (hps : Plugins.ofLists cs ds = .ok ps) : InOrder (together cs ds) ↔
      ps.checkSettings = .ok () ∧ ps.checkDependencies = .ok () ∧
        ps.connectors.values.forM ps.checkFailover = .ok () := by
  have hcollect := ofLists_spec cs ds
  rw [hps] at hcollect
  obtain ⟨hnodup, hmem⟩ := hcollect
  rw [checkSettings_eq_ok_iff, checkDependencies_eq_ok_iff, checkFailovers_eq_ok_iff]
  simp only [AnyPlugin.contains_iff, contains_connector_iff, hmem]
  exact ⟨fun h => ⟨h.settings, h.dependencies, h.failovers⟩,
    fun ⟨hset, hdep, hfail⟩ => ⟨hnodup, hset, hdep, hfail⟩⟩

/-- **The cycle that is reported is a circle of plugins**, and one is reported just if there is a
circle and nothing else is wrong with the plugins. -/
theorem build_reports_circle (id : String) (cs : List (DataConnector σ))
    (ds : List (AttributeDefinition σ)) :
    (∀ path, Resolver.build id cs ds = .error (.dependencyCycle path) →
      IsCircle (together cs ds) path) ∧
    ((∃ path, Resolver.build id cs ds = .error (.dependencyCycle path)) ↔
      InOrder (together cs ds) ∧ ∃ path, IsCircle (together cs ds) path) := by
  have hreported : ∀ path, Resolver.build id cs ds = .error (.dependencyCycle path) →
      InOrder (together cs ds) ∧ IsCircle (together cs ds) path := by
    intro path h
    obtain ⟨ps, hps, hcheck⟩ := build_eq_cycle_iff.1 h
    obtain ⟨hset, hdep, hfail, hfound⟩ := (check_eq_cycle_iff ps).1 hcheck
    have hcycle := Cycles.findCycle?_isCycle (edges_subset_ids ps hdep hfail) hfound
    have hcollect := ofLists_spec cs ds
    rw [hps] at hcollect
    exact ⟨(inOrder_iff ps hps).2 ⟨hset, hdep, hfail⟩,
      ((isCircle_iff ps).2 hcycle).congr hcollect.2⟩
  refine ⟨fun path h => (hreported path h).2, ?_, ?_⟩
  · rintro ⟨path, h⟩
    exact ⟨(hreported path h).1, path, (hreported path h).2⟩
  · rintro ⟨horder, path, hcircle⟩
    have hcollect := ofLists_spec cs ds
    cases hps : Plugins.ofLists cs ds with
    | error e =>
      rw [hps] at hcollect
      exact absurd horder.distinct hcollect
    | ok ps =>
      rw [hps] at hcollect
      obtain ⟨hset, hdep, hfail⟩ := (inOrder_iff ps hps).1 horder
      have hcycle := (isCircle_iff ps).1 (hcircle.congr fun p => (hcollect.2 p).symm)
      cases hfound : Graph.findCycle? ps.edges ps.ids with
      | none =>
        have hacyclic := (Cycles.findCycle?_eq_none_iff (edges_subset_ids ps hdep hfail)
          (edges_eq_nil ps)).1 hfound
        exact absurd hacyclic hcycle.not_acyclic
      | some found =>
        exact ⟨found, build_eq_cycle_iff.2
          ⟨ps, hps, (check_eq_cycle_iff ps).2 ⟨hset, hdep, hfail, hfound⟩⟩⟩

/-- The mail address is made from the directory, which stands in for another one. -/
def waiting : List (DataConnector ℕ) := [
  { id := "archive", source := .ofAttributes [{ id := "mail", values := [.string "a@b.example"] }]
    failover := some "directory" },
  { id := "directory", source := .ofAttributes [{ id := "mail", values := [.string "a@b.example"] }]
    dependencies := [⟨"name", none⟩, ⟨"mail", none⟩] }]

def fed : List (AttributeDefinition ℕ) := [
  { id := "mail", kind := .simple, dependencies := [⟨"name", none⟩, ⟨"archive", none⟩] },
  { id := "name", kind := .principalAuthenticationMethod }]

/-- The search has been through the name, which leads nowhere, before it comes back. -/
theorem waiting_reports_circle :
    Resolver.build "waiting" waiting fed =
      .error (.dependencyCycle ["archive", "directory", "mail", "archive"]) ∧
    IsCircle (together waiting fed) ["archive", "directory", "mail", "archive"] :=
  have hbuild : Resolver.build "waiting" waiting fed =
      .error (.dependencyCycle ["archive", "directory", "mail", "archive"]) := rfl
  ⟨hbuild, (build_reports_circle "waiting" waiting fed).1 _ hbuild⟩

end AttributeRelease.Proofs.Circle
