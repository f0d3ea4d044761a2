import AttributeRelease.Proofs.Resolution.Build
import AttributeRelease.Proofs.Resolution.Steps

/-!
The rules of a pass.

They say what it is to resolve a plugin without a bound on how many plugins follow each other. The
ranks of a resolver show that its passes never meet their bound, so all that a pass does is done by
the rules, and it can be reasoned about by induction on their use.
-/

namespace AttributeRelease.Proofs.Rules

open AttributeRelease.Proofs.AnyPlugin AttributeRelease.Proofs.Build
open AttributeRelease.Proofs.Steps

variable {σ : Type}

/-- What there is to do in a pass. A plugin that is not resolved yet is entered, its dependencies
are a row of others, and then it acts. -/
inductive Job (σ : Type) where
  | row (ids : List String)
  | plugin (id : String)
  | inside (p : AnyPlugin σ)
  | act (p : AnyPlugin σ)

/-- The plugins that are to be recorded when a job is done. -/
def subjects : Job σ → List String
  | .row ids => ids
  | .plugin id => [id]
  | .inside p => [p.spec.id]
  | .act p => [p.spec.id]

/-- What a plugin works with. -/
def input (ctx : ResolutionContext) (p : AnyPlugin σ) (w : Work σ) : TemplateValues :=
  ⟨ctx.request, w.visible p.spec.dependencies⟩

inductive Resolves (ps : Plugins σ) (ctx : ResolutionContext) :
    Job σ → Work σ → Except ResolutionError Unit × Work σ → Prop
  | nil {w} : Resolves ps ctx (.row []) w (.ok (), w)
  | next {id ids w w₁ out} (first : Resolves ps ctx (.plugin id) w (.ok (), w₁))
      (rest : Resolves ps ctx (.row ids) w₁ out) : Resolves ps ctx (.row (id :: ids)) w out
  | stop {id ids w w₁ e} (first : Resolves ps ctx (.plugin id) w (.error e, w₁)) :
      Resolves ps ctx (.row (id :: ids)) w (.error e, w₁)
  | recorded {id w} (old : w.isResolved id = true) : Resolves ps ctx (.plugin id) w (.ok (), w)
  | unknown {id w} (new : w.isResolved id = false) (none : lookup ps id = none) :
      Resolves ps ctx (.plugin id) w (.ok (), w)
  | enter {id p w result w₁} (new : w.isResolved id = false) (hp : lookup ps id = some p)
      (inner : Resolves ps ctx (.inside p) (w.note (.entered id)) (result, w₁)) :
      Resolves ps ctx (.plugin id) w (result, w₁.note (.left id))
  | inactive {p w} (off : p.spec.isActive ctx = false) :
      Resolves ps ctx (.inside p) w (.ok (), w.record p.spec.id .inactive)
  | blocked {p w w₁ e} (on : p.spec.isActive ctx = true)
      (deps : Resolves ps ctx (.row p.dependencies) w (.error e, w₁)) :
      Resolves ps ctx (.inside p) w (.error e, w₁)
  | proceed {p w w₁ out} (on : p.spec.isActive ctx = true)
      (deps : Resolves ps ctx (.row p.dependencies) w (.ok (), w₁))
      (act : Resolves ps ctx (.act p) w₁ out) : Resolves ps ctx (.inside p) w out
  | done {p w out s} (work : p.work (input ctx p w) w.world = (.ok out, s)) :
      Resolves ps ctx (.act p) w (.ok (), (w.afterWork p.spec.id none s).record p.spec.id out)
  | failed {p w e s} (work : p.work (input ctx p w) w.world = (.error e, s))
      (alone : p.failover = none) :
      Resolves ps ctx (.act p) w
        (.error (.plugin p.spec.id e), w.afterWork p.spec.id (some e) s)
  | substituted {p w e s f w₁} (work : p.work (input ctx p w) w.world = (.error e, s))
      (hf : p.failover = some f)
      (sub : Resolves ps ctx (.plugin f) (w.afterWork p.spec.id (some e) s) (.ok (), w₁)) :
      Resolves ps ctx (.act p) w
        (.ok (), w₁.record p.spec.id (.connector (w₁.connectorAttributes f)))
  | failedTwice {p w e s f e' w₁} (work : p.work (input ctx p w) w.world = (.error e, s))
      (hf : p.failover = some f)
      (sub : Resolves ps ctx (.plugin f) (w.afterWork p.spec.id (some e) s) (.error e', w₁)) :
      Resolves ps ctx (.act p) w (.error (.failoverFailed p.spec.id f e e'), w₁)

variable {ps : Plugins σ} {ctx : ResolutionContext} {go : String → Step σ}

lemma stepAll_resolves {ids : List String} (w : Work σ)
    (hgo : ∀ id ∈ ids, ∀ w, Resolves ps ctx (.plugin id) w (go id w)) :
    Resolves ps ctx (.row ids) w (Plugins.stepAll go ids w) := by
  induction ids generalizing w with
  | nil => exact .nil
  | cons id ids ih =>
    have hfirst := hgo id (by simp) w
    rw [Plugins.stepAll]
    split
    · next e w₁ heq => exact .stop (heq ▸ hfirst)
    · next w₁ heq => exact .next (heq ▸ hfirst) (ih w₁ fun m hm => hgo m (by simp [hm]))

lemma actPlugin_resolves {p : AnyPlugin σ} (w : Work σ)
    (hgo : ∀ f, p.failover = some f → ∀ w, Resolves ps ctx (.plugin f) w (go f w)) :
    Resolves ps ctx (.act p) w (actPlugin go p (input ctx p w) w) := by
  rw [actPlugin_eq]
  rcases hwork : p.work (input ctx p w) w.world with ⟨e | out, s⟩
  · rw [finish]
    split
    · next hf => exact .failed hwork hf
    · next f hf =>
      have hsub := hgo f hf (w.afterWork p.spec.id (some e) s)
      split
      · next e' w₁ heq => exact .failedTwice hwork hf (heq ▸ hsub)
      · next w₁ heq => exact .substituted hwork hf (heq ▸ hsub)
  · exact .done hwork

lemma stepSpec_resolves {p : AnyPlugin σ} (w : Work σ)
    (hdep : ∀ d ∈ p.dependencies, ∀ w, Resolves ps ctx (.plugin d) w (go d w))
    (hfail : ∀ f, p.failover = some f → ∀ w, Resolves ps ctx (.plugin f) w (go f w)) :
    Resolves ps ctx (.inside p) w (Plugins.stepSpec ctx go p.spec (actPlugin go p) w) := by
  unfold Plugins.stepSpec
  split
  · next hoff => exact .inactive (by simpa using hoff)
  · next hon =>
    have hrow := stepAll_resolves w hdep
    split
    · next e w₁ heq => exact .blocked (by simpa using hon) (heq ▸ hrow)
    · next w₁ heq =>
      exact .proceed (by simpa using hon) (heq ▸ hrow) (actPlugin_resolves w₁ hfail)

/-- A step follows the rules if the steps for what the plugin leads to do. -/
lemma step_resolves {id : String} (w : Work σ)
    (hgo : ∀ b ∈ ps.edges id, ∀ w, Resolves ps ctx (.plugin b) w (go b w)) :
    Resolves ps ctx (.plugin id) w (ps.step ctx go id w) := by
  rw [step_eq]
  split
  · next hold => exact .recorded hold
  · next hnew =>
    rw [Bool.not_eq_true] at hnew
    cases hp : lookup ps id with
    | none => exact .unknown hnew hp
    | some p =>
      rw [edges_eq, hp] at hgo
      have hinner := stepSpec_resolves (w.note (.entered id))
        (fun d hd => hgo d (List.mem_append_left _ hd))
        (fun f hf => hgo f (List.mem_append_right _ (by simp [hf])))
      exact .enter hnew hp hinner

/-! ### Passes by the rules -/

/-- A plugin is resolved in the same way within all bounds above its rank. -/
lemma resolveWithin_eq {rank : String → ℕ} (hrank : ∀ a b, b ∈ ps.edges a → rank b < rank a) :
    ∀ (depth depth' : ℕ) (id : String), rank id < depth → rank id < depth' →
      ps.resolveWithin ctx depth id = ps.resolveWithin ctx depth' id := by
  intro depth
  induction depth with
  | zero => exact fun _ _ h => absurd h (Nat.not_lt_zero _)
  | succ depth ih =>
    intro depth' id h h'
    obtain ⟨depth', rfl⟩ := Nat.exists_eq_succ_of_ne_zero (Nat.ne_zero_of_lt h')
    refine step_congr fun b hb => ih depth' b ?_ ?_
    · have := hrank id b hb
      omega
    · have := hrank id b hb
      omega

lemma resolveWithin_resolves {rank : String → ℕ}
    (hrank : ∀ a b, b ∈ ps.edges a → rank b < rank a) :
    ∀ (depth : ℕ) (id : String), rank id < depth → ∀ w,
      Resolves ps ctx (.plugin id) w (ps.resolveWithin ctx depth id w) := by
  intro depth
  induction depth with
  | zero => exact fun id h => absurd h (Nat.not_lt_zero _)
  | succ depth ih =>
    intro id hid w
    exact step_resolves w fun b hb => ih b (by have := hrank id b hb; omega)

/-- A higher bound on how many plugins follow each other makes no difference to a pass. -/
lemma pass_eq (r : Resolver σ) (ctx : ResolutionContext) (world : σ) {depth : ℕ}
    (hdepth : r.plugins.size < depth) :
    Plugins.stepAll (r.plugins.resolveWithin ctx depth) (r.plugins.targets ctx.request) { world } =
      r.pass ctx world := by
  obtain ⟨rank, hrank, hbound⟩ := exists_rank r
  have hgo : ∀ id, r.plugins.resolveWithin ctx depth id = r.plugins.resolve ctx id := fun id =>
    resolveWithin_eq hrank _ _ id ((hbound id).trans_lt hdepth)
      (Nat.lt_succ_of_le (hbound id))
  exact congrFun (stepAll_congr fun id _ => hgo id) _

/-- **A pass of a resolver follows the rules**, which know no bound. -/
theorem pass_resolves (r : Resolver σ) (ctx : ResolutionContext) (world : σ) :
    Resolves r.plugins ctx (.row (r.plugins.targets ctx.request)) { world } (r.pass ctx world) := by
  obtain ⟨rank, hrank, hbound⟩ := exists_rank r
  refine stepAll_resolves _ fun id _ w => resolveWithin_resolves hrank _ id ?_ w
  exact Nat.lt_succ_of_le (hbound id)

end AttributeRelease.Proofs.Rules
