import AttributeRelease.Proofs.Resolution.Account

/-!
What the error of a resolution tells.

It leads from what was asked for to the plugin where it all began. Each connector on the way has
failed by itself and was to be replaced by its failover; from there, as from what was asked for, the
next plugin that failed is met along dependencies.
-/

namespace AttributeRelease.Proofs.Failure

open Relation
open AttributeRelease.Proofs.AnyPlugin AttributeRelease.Proofs.Account
open AttributeRelease.Proofs.Course AttributeRelease.Proofs.Rules AttributeRelease.Proofs.Trace

variable {σ : Type}

/-- A connector that failed, as did its failover. -/
structure Link where
  id : String
  failover : String
  primary : PluginError

/-- The error of a plugin that failed for some cause, as it is seen through links. -/
def behind (links : List Link) (id : String) (cause : PluginError) : ResolutionError :=
  links.foldr (fun l e => .failoverFailed l.id l.failover l.primary e) (.plugin id cause)

lemma pluginId_behind (links : List Link) (id : String) (cause : PluginError) :
    (links.map (·.id) ++ [id]).head? = some (behind links id cause).pluginId := by
  cases links <;> rfl

lemma isUnsupportedValueType_behind (links : List Link) (id : String) (cause : PluginError) :
    (behind links id cause).isUnsupportedValueType = true ↔
      ∃ kind, cause = .unsupportedValueType kind := by
  induction links with
  | nil => cases cause <;> simp [behind, ResolutionError.isUnsupportedValueType,
      PluginError.isUnsupportedValueType]
  | cons l links ih => exact ih

/-- A way from a plugin to the one where it all began: from where one connector was to be replaced
to the next plugin that failed, it goes along dependencies. -/
structure Explains (ps : Plugins σ) (ctx : ResolutionContext)
    (failed : AnyPlugin σ → PluginError → Prop) (start : String) (links : List Link) (id : String)
    (cause : PluginError) : Prop where
  ways : List.Forall₂ (ReflTransGen (Uses ps ctx)) (start :: links.map (·.failover))
    (links.map (·.id) ++ [id])
  links : ∀ l ∈ links, ∃ c, ps.connectors.find? l.id = some c ∧ c.isActive ctx = true ∧
    c.failover = some l.failover ∧ failed (.connector c) l.primary
  last : ∃ p, lookup ps id = some p ∧ p.spec.isActive ctx = true ∧ p.failover = none ∧
    failed p cause

variable {ps : Plugins σ} {ctx : ResolutionContext} {s : σ}
variable {failed failed' : AnyPlugin σ → PluginError → Prop}
variable {start id : String} {links : List Link} {cause : PluginError}

lemma Explains.mono (h : Explains ps ctx failed start links id cause)
    (himp : ∀ p e, lookup ps p.spec.id = some p → failed p e → failed' p e) :
    Explains ps ctx failed' start links id cause := by
  refine ⟨h.ways, fun l hl => ?_, ?_⟩
  · obtain ⟨c, hc, on, hf, hfail⟩ := h.links l hl
    have hp := lookup_connector_iff.2 hc
    exact ⟨c, hc, on, hf, himp (.connector c) _ ((spec_id_of_lookup hp).symm ▸ hp) hfail⟩
  · obtain ⟨p, hp, on, hf, hfail⟩ := h.last
    exact ⟨p, hp, on, hf, himp p _ ((spec_id_of_lookup hp).symm ▸ hp) hfail⟩

/-- A plugin that uses the one where a way starts may stand before it. -/
lemma Explains.before {a : String} (h : Explains ps ctx failed start links id cause)
    (hab : Uses ps ctx a start) : Explains ps ctx failed a links id cause := by
  refine ⟨?_, h.links, h.last⟩
  have hways := h.ways
  cases links with
  | nil =>
    cases hways with
    | cons hfirst hrest => exact .cons (.head hab hfirst) hrest
  | cons l links =>
    cases hways with
    | cons hfirst hrest => exact .cons (.head hab hfirst) hrest

lemma Explains.link {c : DataConnector σ} {e : PluginError}
    (h : Explains ps ctx failed start links id cause)
    (hc : ps.connectors.find? c.id = some c) (on : c.isActive ctx = true)
    (hf : c.failover = some start) (hfail : failed (.connector c) e) :
    Explains ps ctx failed c.id (⟨c.id, start, e⟩ :: links) id cause :=
  ⟨.cons .refl h.ways, List.forall_mem_cons.2 ⟨⟨c, hc, on, hf, hfail⟩, h.links⟩, h.last⟩

/-- The events of a trace explain an error that is met from a plugin on. -/
def Explained (ps : Plugins σ) (ctx : ResolutionContext) (t : List PassEvent) (start : String)
    (e : ResolutionError) : Prop :=
  ∃ links id cause, e = behind links id cause ∧
    Explains ps ctx (fun p e => .worked p.spec.id (some e) ∈ t) start links id cause

lemma Explained.mono {t t' : List PassEvent} {e : ResolutionError}
    (h : Explained ps ctx t start e) (ht : t ⊆ t') : Explained ps ctx t' start e := by
  obtain ⟨links, id, cause, rfl, hexp⟩ := h
  exact ⟨links, id, cause, rfl, hexp.mono fun _ _ _ hmem => ht hmem⟩

/-- **The error of a job is explained by what happened**, from a plugin on that the job is about. -/
theorem resolves_explained {job : Job σ} {w : Work σ}
    {out : Except ResolutionError Unit × Work σ} (h : Resolves ps ctx job w out)
    (hfound : Found ps ctx job) : ∀ e, out.1 = .error e →
      ∃ start ∈ subjects job, Explained ps ctx out.2.trace start e := by
  induction h with
  | nil => simp
  | next _ _ _ ihrest =>
    intro e he
    obtain ⟨start, hmem, hexp⟩ := ihrest trivial e he
    exact ⟨start, List.mem_cons_of_mem _ hmem, hexp⟩
  | stop _ ihfirst =>
    intro e he
    obtain ⟨start, hmem, hexp⟩ := ihfirst trivial e he
    obtain rfl := List.mem_singleton.1 hmem
    exact ⟨start, List.mem_cons_self, hexp⟩
  | recorded _ => simp
  | unknown _ _ => simp
  | enter _ hp _ ih =>
    intro e he
    obtain rfl := spec_id_of_lookup hp
    obtain ⟨start, hmem, hexp⟩ := ih hp e he
    exact ⟨start, hmem, hexp.mono (List.subset_append_left _ _)⟩
  | inactive _ => simp
  | @blocked p w w₁ e on _ ih =>
    intro e he
    obtain ⟨d, hd, links, id, cause, rfl, hexp⟩ := ih trivial e he
    exact ⟨_, List.mem_singleton_self _, links, id, cause, rfl, hexp.before ⟨p, hfound, on, hd⟩⟩
  | proceed on _ _ _ ihact => exact ihact ⟨hfound, on⟩
  | done _ => simp
  | @failed p w e s' _ alone =>
    rintro _ ⟨⟩
    obtain ⟨hp, on⟩ := hfound
    refine ⟨_, List.mem_singleton_self _, [], p.spec.id, e, rfl, .cons .refl .nil, by simp, ?_⟩
    exact ⟨p, hp, on, alone, List.mem_append_right _ (List.mem_singleton_self _)⟩
  | substituted _ _ _ _ => simp
  | @failedTwice p w e s' f e' w₁ _ hf sub ih =>
    rintro _ ⟨⟩
    obtain ⟨hp, on⟩ := hfound
    obtain ⟨_, hmem, links, id, cause, rfl, hexp⟩ := ih trivial e' rfl
    obtain rfl := List.mem_singleton.1 hmem
    have hworked : .worked p.spec.id (some e) ∈ w₁.trace :=
      (resolves_grows sub).1.trace.subset (List.mem_append_right _ (List.mem_singleton_self _))
    cases p with
    | definition d => simp [failover] at hf
    | connector c =>
      exact ⟨_, List.mem_singleton_self _, _, id, cause, rfl,
        hexp.link (lookup_connector_iff.1 hp) on hf hworked⟩

/-- A resolution that fails leaves its context as it was, and its error leads from a definition that
was asked for to the plugin where it all began. -/
structure FailsWith (r : Resolver σ) (ctx : ResolutionContext) (s : σ) (e : ResolutionError) :
    Prop where
  unchanged : (r.resolve ctx s).2.1 = ctx
  explained : ∃ target links id cause, Asked r.plugins ctx.request target ∧
    e = behind links id cause ∧
    Explains r.plugins ctx
      (fun p e => Did r.plugins ctx s (r.pass ctx s).2 p (.error e)) target links id cause ∧
    (links.map (·.id) ++ [id]).head? = some e.pluginId ∧
    (e.isUnsupportedValueType = true ↔ ∃ kind, cause = .unsupportedValueType kind)

lemma resolve_unchanged {r : Resolver σ} {e : ResolutionError}
    (h : (r.resolve ctx s).1 = .error e) : (r.resolve ctx s).2.1 = ctx := by
  unfold Resolver.resolve at h ⊢
  rcases hpass : r.pass ctx s with ⟨_ | _, w⟩
  · rfl
  · rw [hpass] at h
    exact absurd h (by simp)

/-- **What comes of a resolution that fails**, whatever its backends answer. -/
theorem resolve_failsWith (r : Resolver σ) (ctx : ResolutionContext) (s : σ) (e : ResolutionError)
    (h : (r.resolve ctx s).1 = .error e) : FailsWith r ctx s e := by
  refine ⟨resolve_unchanged h, ?_⟩
  rw [Agreement.resolve_fst] at h
  obtain ⟨target, htarget, links, id, cause, rfl, hexp⟩ :=
    resolves_explained (pass_resolves r ctx s) trivial e h
  refine ⟨target, links, id, cause, mem_targets_iff.1 htarget, rfl, hexp.mono fun p e hp hmem => ?_,
    pluginId_behind links id cause, isUnsupportedValueType_behind links id cause⟩
  exact did_of_failed (pass_orderly r ctx s).history hp hmem

/-! ### A spare directory that does not answer either -/

def deaf : DataConnector ℕ := { Agreement.directory with id := "spare", failover := none }

def doubled : Resolver ℕ :=
  (Resolver.build "doubled" [Agreement.directory, deaf] [Agreement.mail]).toOption.get rfl

theorem doubled_failsWith :
    (doubled.resolve {} 0).1 = .error (behind
      [⟨"directory", "spare", .backend (.unavailable "directory")⟩] "spare"
      (.backend (.unavailable "directory"))) ∧
    FailsWith doubled {} 0 (behind
      [⟨"directory", "spare", .backend (.unavailable "directory")⟩] "spare"
      (.backend (.unavailable "directory"))) :=
  ⟨rfl, resolve_failsWith doubled {} 0 _ rfl⟩

end AttributeRelease.Proofs.Failure
