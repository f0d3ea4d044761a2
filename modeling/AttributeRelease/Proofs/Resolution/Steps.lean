import AttributeRelease.Proofs.Resolution.AnyPlugin

/-!
Steps of plugins of either kind, and steps that mirror each other.

All that a plugin does is to work, to be recorded, and to send on to other plugins. So if two sets
of plugins work alike, maybe one of them in a world of which the other has only a part, then one
pass can be read off the other at every point.
-/

namespace AttributeRelease.Proofs.Steps

open AttributeRelease.Proofs.AnyPlugin

variable {σ τ : Type}

/-- What a plugin does once its dependencies are resolved. -/
def actPlugin (go : String → Step σ) : AnyPlugin σ → TemplateValues → Step σ
  | .connector c => Plugins.actConnector go c
  | .definition d => Plugins.actDefinition d

/-- What follows on the work of a plugin: it is recorded, or what stands in for it is tried. -/
def finish (go : String → Step σ) (p : AnyPlugin σ) (w : Work σ) :
    Except PluginError PluginOutput × σ → Except ResolutionError Unit × Work σ
  | (.ok out, s) => (.ok (), (w.afterWork p.spec.id none s).record p.spec.id out)
  | (.error e, s) =>
    match p.failover with
    | none => (.error (.plugin p.spec.id e), w.afterWork p.spec.id (some e) s)
    | some f =>
      match go f (w.afterWork p.spec.id (some e) s) with
      | (.error e', w) => (.error (.failoverFailed p.spec.id f e e'), w)
      | (.ok (), w) => (.ok (), w.record p.spec.id (.connector (w.connectorAttributes f)))

lemma actPlugin_eq (go : String → Step σ) (p : AnyPlugin σ) (v : TemplateValues) (w : Work σ) :
    actPlugin go p v w = finish go p w (p.work v w.world) := by
  cases p with
  | definition d =>
    simp only [actPlugin, Plugins.actDefinition, work]
    rcases d.compute v w.world with ⟨_ | out, s⟩
    · rfl
    · rfl
  | connector c =>
    simp only [actPlugin, Plugins.actConnector, work]
    rcases c.retrieve v w.world with ⟨e | out, s⟩
    · rfl
    · rfl

variable {ps : Plugins σ} {ctx : ResolutionContext} {go : String → Step σ}

lemma step_eq (id : String) (w : Work σ) : ps.step ctx go id w =
    if w.isResolved id then (.ok (), w)
    else
      match lookup ps id with
      | some p => Plugins.within id (Plugins.stepSpec ctx go p.spec (actPlugin go p)) w
      | none => (.ok (), w) := by
  unfold Plugins.step lookup
  cases ps.connectors.find? id with
  | some c => rfl
  | none =>
    cases ps.definitions.find? id with
    | some d => rfl
    | none => rfl

/-! ### Mirrored steps -/

/-- A point of a pass, with only a part of the world in sight. -/
def seen (view : τ → σ) (w : Work τ) : Work σ := ⟨w.outputs, w.trace, view w.world⟩

/-- A step does what another one does in a world of which that one has a part. -/
def Mirrors (view : τ → σ) (x : Step τ) (y : Step σ) : Prop :=
  ∀ w, y (seen view w) = ((x w).1, seen view (x w).2)

/-- Two plugins that work alike and lead to the same. -/
structure MirrorsPlugin (view : τ → σ) (ctx ctx' : ResolutionContext) (p : AnyPlugin τ)
    (q : AnyPlugin σ) : Prop where
  id : q.spec.id = p.spec.id
  dependencies : q.spec.dependencies = p.spec.dependencies
  failover : q.failover = p.failover
  active : q.spec.isActive ctx' = p.spec.isActive ctx
  work : ∀ a s, q.work ⟨ctx'.request, a⟩ (view s) =
    ((p.work ⟨ctx.request, a⟩ s).1, view (p.work ⟨ctx.request, a⟩ s).2)

section

variable {view : τ → σ} {ctx ctx' : ResolutionContext} {go : String → Step τ}
  {go' : String → Step σ}

lemma stepAll_mirrors {ids : List String} (hgo : ∀ id ∈ ids, Mirrors view (go id) (go' id)) :
    Mirrors view (Plugins.stepAll go ids) (Plugins.stepAll go' ids) := by
  induction ids with
  | nil => exact fun _ => rfl
  | cons id ids ih =>
    intro w
    have hfirst := hgo id (by simp) w
    have hrest := ih fun m hm => hgo m (by simp [hm])
    rw [Plugins.stepAll, Plugins.stepAll, hfirst]
    rcases go id w with ⟨_ | _, w₁⟩
    · rfl
    · exact hrest w₁

variable {p : AnyPlugin τ} {q : AnyPlugin σ}

/-- Plugins that work alike also finish alike. -/
lemma actPlugin_mirrors (h : MirrorsPlugin view ctx ctx' p q)
    (hgo : ∀ f, p.failover = some f → Mirrors view (go f) (go' f)) (a : AttributeMap) :
    Mirrors view (actPlugin go p ⟨ctx.request, a⟩) (actPlugin go' q ⟨ctx'.request, a⟩) := by
  intro w
  have hwork : q.work ⟨ctx'.request, a⟩ (seen view w).world = _ := h.work a w.world
  rw [actPlugin_eq, actPlugin_eq, hwork]
  rcases p.work ⟨ctx.request, a⟩ w.world with ⟨e | out, s⟩
  · simp only [finish, h.id, h.failover]
    cases hf : p.failover with
    | none => rfl
    | some f =>
      have hsub := hgo f hf (w.afterWork p.spec.id (some e) s)
      have hseen : (seen view w).afterWork p.spec.id (some e) (view s) =
          seen view (w.afterWork p.spec.id (some e) s) := rfl
      simp only [hseen, hsub]
      rcases go f (w.afterWork p.spec.id (some e) s) with ⟨_ | _, w₁⟩
      · rfl
      · rfl
  · simp only [finish, h.id]
    rfl

lemma stepSpec_mirrors (h : MirrorsPlugin view ctx ctx' p q)
    (hdeps : ∀ d ∈ p.dependencies, Mirrors view (go d) (go' d))
    (hfail : ∀ f, p.failover = some f → Mirrors view (go f) (go' f)) :
    Mirrors view (Plugins.stepSpec ctx go p.spec (actPlugin go p))
      (Plugins.stepSpec ctx' go' q.spec (actPlugin go' q)) := by
  intro w
  unfold Plugins.stepSpec
  rw [h.active, h.id, h.dependencies]
  by_cases hon : p.spec.isActive ctx = true
  · have hrow : Plugins.stepAll go' (p.spec.dependencies.map (·.plugin)) (seen view w) = _ :=
      stepAll_mirrors hdeps w
    rw [if_neg (by simp [hon]), if_neg (by simp [hon]), hrow, dependencies]
    generalize hres : Plugins.stepAll go (p.spec.dependencies.map (·.plugin)) w = res
    rcases res with ⟨_ | _, w₁⟩
    · rfl
    · exact actPlugin_mirrors h hfail _ w₁
  · rw [if_pos (by simp [hon]), if_pos (by simp [hon])]
    rfl

variable {ps : Plugins τ} {ps' : Plugins σ}

/-- Sets of plugins that work alike under all ids. -/
def MirrorsAll (view : τ → σ) (ctx ctx' : ResolutionContext) (ps : Plugins τ)
    (ps' : Plugins σ) : Prop :=
  ∀ id, Option.Rel (MirrorsPlugin view ctx ctx') (lookup ps id) (lookup ps' id)

/-- A step mirrors another one if the steps for what the plugin leads to do. -/
lemma step_mirrors (h : MirrorsAll view ctx ctx' ps ps') {id : String}
    (hgo : ∀ b ∈ ps.edges id, Mirrors view (go b) (go' b)) :
    Mirrors view (ps.step ctx go id) (ps'.step ctx' go' id) := by
  intro w
  have hresolved : (seen view w).isResolved id = w.isResolved id := rfl
  rw [step_eq, step_eq, hresolved]
  by_cases hold : w.isResolved id = true
  · simp only [hold, if_true]
  · simp only [hold]
    have hrel := h id
    rw [edges_eq] at hgo
    cases hp : lookup ps id with
    | none =>
      rw [hp] at hrel
      cases hq : lookup ps' id with
      | none => rfl
      | some q => rw [hq] at hrel; cases hrel
    | some p =>
      rw [hp] at hrel hgo
      cases hq : lookup ps' id with
      | none => rw [hq] at hrel; cases hrel
      | some q =>
        rw [hq] at hrel
        cases hrel with
        | some hpq =>
          have hinner := stepSpec_mirrors hpq
            (fun d hd => hgo d (List.mem_append_left _ hd))
            (fun f hf => hgo f (List.mem_append_right _ (by simp [hf]))) (w.note (.entered id))
          have hseen : (seen view w).note (.entered id) = seen view (w.note (.entered id)) := rfl
          simp only [Plugins.within, hseen, hinner]
          rfl

lemma resolveWithin_mirrors (h : MirrorsAll view ctx ctx' ps ps') (depth : ℕ) (id : String) :
    Mirrors view (ps.resolveWithin ctx depth id) (ps'.resolveWithin ctx' depth id) := by
  induction depth generalizing id with
  | zero => exact fun _ => rfl
  | succ depth ih => exact step_mirrors h fun b _ => ih b

end

/-- To a plugin two contexts are the same. -/
def Indifferent (ctx ctx' : ResolutionContext) (p : AnyPlugin σ) : Prop :=
  p.spec.isActive ctx' = p.spec.isActive ctx ∧
    ∀ a s, p.work ⟨ctx'.request, a⟩ s = p.work ⟨ctx.request, a⟩ s

variable {ctx' : ResolutionContext}

lemma mirrors_self_iff {x y : Step σ} : Mirrors (fun s => s) x y ↔ x = y :=
  ⟨fun h => funext fun w => (h w).symm, fun h _ => h ▸ rfl⟩

lemma mirrorsAll_of_indifferent (h : ∀ p ∈ all ps, Indifferent ctx ctx' p) :
    MirrorsAll (fun s => s) ctx ctx' ps ps := by
  intro id
  cases hp : lookup ps id with
  | none => exact .none
  | some p =>
    obtain ⟨hactive, hwork⟩ := h p (lookup_eq_some_iff.1 hp).1
    exact .some ⟨rfl, rfl, rfl, hactive, hwork⟩

/-- A step depends on nothing but the steps for what the plugin leads to. -/
lemma step_congr {go' : String → Step σ} {id : String} (hgo : ∀ b ∈ ps.edges id, go b = go' b) :
    ps.step ctx go id = ps.step ctx go' id :=
  mirrors_self_iff.1 (step_mirrors (mirrorsAll_of_indifferent fun _ _ => ⟨rfl, fun _ _ => rfl⟩)
    fun b hb => mirrors_self_iff.2 (hgo b hb))

lemma stepAll_congr {go' : String → Step σ} {ids : List String}
    (hgo : ∀ id ∈ ids, go id = go' id) : Plugins.stepAll go ids = Plugins.stepAll go' ids :=
  mirrors_self_iff.1 (stepAll_mirrors fun id hid => mirrors_self_iff.2 (hgo id hid))

end AttributeRelease.Proofs.Steps
