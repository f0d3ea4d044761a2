import AttributeRelease.Proofs.Resolution.Account

/-!
A pass does what is needed and nothing else.

What is recorded after a success is closed under all that makes a plugin needed, so nothing that is
needed is missing. That a connector has failed is told by the one event of its work.
-/

namespace AttributeRelease.Proofs.Needs

open AttributeRelease.Proofs.AnyPlugin AttributeRelease.Proofs.Account
open AttributeRelease.Proofs.Course AttributeRelease.Proofs.Rules AttributeRelease.Proofs.Trace

variable {σ : Type} {ps : Plugins σ} {ctx : ResolutionContext} {s : σ} {w : Work σ}

/-- A plugin that is there and active. -/
def Active (ps : Plugins σ) (ctx : ResolutionContext) (id : String) : Prop :=
  ∃ p, lookup ps id = some p ∧ p.spec.isActive ctx = true

lemma worked_unique {id : String} {f f' : Option PluginError} (h : Orderly ps ctx s w)
    (hf : .worked id f ∈ w.trace) (hf' : .worked id f' ∈ w.trace) : f = f' := by
  obtain ⟨t₁, t₂, heq⟩ := List.append_of_mem hf
  have honce := h.worked_once id
  rw [heq] at honce hf'
  simp only [List.countP_append, List.countP_cons, isWork, beq_self_eq_true, if_true] at honce
  have hnone : ∀ t : List PassEvent, t.countP (isWork id) = 0 → .worked id f' ∉ t := by
    intro t ht hmem
    simpa [isWork] using List.countP_eq_zero.1 ht _ hmem
  rw [List.mem_append, List.mem_cons] at hf'
  rcases hf' with hf' | hf' | hf'
  · exact absurd hf' (hnone t₁ (by omega))
  · exact (PassEvent.worked.inj hf').2.symm
  · exact absurd hf' (hnone t₂ (by omega))

lemma worked_of_resolved {id : String} (h : Orderly ps ctx s w) (hid : w.isResolved id = true)
    (hactive : Active ps ctx id) : ∃ f, .worked id f ∈ w.trace := by
  obtain ⟨t₁, t₂, heq⟩ := List.append_of_mem ((h.memo id).1 hid)
  obtain ⟨p, hp, hworked⟩ := h.own t₁ id t₂ heq
  obtain ⟨q, hq, on⟩ := hactive
  obtain rfl := Option.some.inj (hp.symm.trans hq)
  obtain ⟨f, hf⟩ := hworked on
  exact ⟨f, heq ▸ List.mem_append_left _ hf⟩

lemma resolved_of_uses {a b : String} (h : Orderly ps ctx s w) (ha : w.isResolved a = true)
    (hab : Uses ps ctx a b) : w.isResolved b = true := by
  obtain ⟨p, hp, on, hb⟩ := hab
  obtain ⟨f, hf⟩ := worked_of_resolved h ha ⟨p, hp, on⟩
  obtain ⟨t₁, t₂, heq⟩ := List.append_of_mem hf
  obtain ⟨q, hq, -, hdeps⟩ := h.prepared t₁ a f t₂ heq
  obtain rfl := Option.some.inj (hp.symm.trans hq)
  exact (h.memo b).2 (heq ▸ List.mem_append_left _ (hdeps b hb))

/-- A plugin that failed is recorded only with what its failover put out. -/
lemma resolved_of_failed {a b : String} {p : AnyPlugin σ} {e : PluginError}
    (h : Orderly ps ctx s w) (ha : w.isResolved a = true)
    (hp : lookup ps a = some p) (on : p.spec.isActive ctx = true)
    (failed : .worked a (some e) ∈ w.trace) (hb : p.failover = some b) :
    w.isResolved b = true := by
  obtain rfl := spec_id_of_lookup hp
  obtain ⟨out, hout⟩ := (SortedMap.contains_iff _ _).1 ha
  obtain ⟨q, hq, hcomes⟩ := History.comes h.history hout
  obtain rfl := Option.some.inj (hp.symm.trans hq)
  cases hcomes with
  | inactive off => exact absurd (off.symm.trans on) (by simp)
  | work did => exact absurd (worked_unique h failed did.mem) (by simp [failure?])
  | failover _ hf resolved =>
    obtain rfl := Option.some.inj (hb.symm.trans hf)
    exact resolved

/-- Once all that is asked for is recorded, so is all that is needed. -/
lemma resolved_of_needed (h : Orderly ps ctx s w)
    (hasked : ∀ id, Asked ps ctx.request id → w.isResolved id = true) {id : String}
    (hid : Needed ps ctx w.trace id) : w.isResolved id = true := by
  induction hid with
  | asked hid => exact hasked _ hid
  | used _ hab ih => exact resolved_of_uses h ih hab
  | failover _ hp on failed hf ih => exact resolved_of_failed h ih hp on failed hf

lemma resolved_of_asked {r : Resolver σ} (hok : (r.pass ctx s).1 = .ok ()) {id : String}
    (hid : Asked r.plugins ctx.request id) : (r.pass ctx s).2.isResolved id = true := by
  obtain ⟨d, hd⟩ := (SortedMap.contains_iff _ _).1 hid.1
  exact (resolves_grows (pass_resolves r ctx s)).2 hok id (mem_targets_iff.2 hid) (.definition d)
    (lookup_definition_iff.2 hd)

/-- A pass that does what is needed. If it succeeds, it records all of that and has its active
plugins work; in any case only plugins work that are needed, and nothing else touches the world. -/
structure Thrifty (r : Resolver σ) (ctx : ResolutionContext) (s : σ) : Prop where
  recorded : (r.resolve ctx s).1 = .ok () → ∀ id, (r.pass ctx s).2.isResolved id = true ↔
    Needed r.plugins ctx (r.pass ctx s).2.trace id
  worked : (r.resolve ctx s).1 = .ok () → ∀ id, (∃ f, .worked id f ∈ (r.pass ctx s).2.trace) ↔
    Needed r.plugins ctx (r.pass ctx s).2.trace id ∧ Active r.plugins ctx id
  within : ∀ id f, .worked id f ∈ (r.pass ctx s).2.trace →
    Needed r.plugins ctx (r.pass ctx s).2.trace id ∧ Active r.plugins ctx id
  history : History r.plugins ctx s (r.pass ctx s).2
  world : (r.resolve ctx s).2.2 = (r.pass ctx s).2.world
  idle : (∀ id, ¬ Asked r.plugins ctx.request id) → r.pass ctx s = (.ok (), { world := s })

lemma resolve_world (r : Resolver σ) (ctx : ResolutionContext) (s : σ) :
    (r.resolve ctx s).2.2 = (r.pass ctx s).2.world := by
  unfold Resolver.resolve
  rcases r.pass ctx s with ⟨_ | _, w⟩ <;> rfl

/-- **A resolution does what is needed and nothing else**, whatever its backends answer. -/
theorem resolve_thrifty (r : Resolver σ) (ctx : ResolutionContext) (s : σ) : Thrifty r ctx s := by
  have horderly := pass_orderly r ctx s
  have hneeded := pass_needed r ctx s
  have hrecorded (hok : (r.resolve ctx s).1 = .ok ()) (id : String) :
      (r.pass ctx s).2.isResolved id = true ↔
        Needed r.plugins ctx (r.pass ctx s).2.trace id := by
    rw [Agreement.resolve_fst] at hok
    exact ⟨fun hid => hneeded _ ((horderly.memo id).1 hid), fun hid =>
      resolved_of_needed horderly (fun _ => resolved_of_asked hok) hid⟩
  have hwithin (id : String) (f : Option PluginError)
      (hf : .worked id f ∈ (r.pass ctx s).2.trace) :
      Needed r.plugins ctx (r.pass ctx s).2.trace id ∧ Active r.plugins ctx id := by
    obtain ⟨p, _, hp, on, -⟩ := History.did horderly.history hf
    exact ⟨hneeded _ hf, p, hp, on⟩
  refine ⟨hrecorded, fun hok id => ⟨fun ⟨f, hf⟩ => hwithin id f hf, fun ⟨hid, hactive⟩ => ?_⟩,
    hwithin, horderly.history, resolve_world r ctx s, fun hnone => ?_⟩
  · exact worked_of_resolved horderly ((hrecorded hok id).2 hid) hactive
  · have htargets : r.plugins.targets ctx.request = [] :=
      List.eq_nil_iff_forall_not_mem.2 fun id hid => hnone id (mem_targets_iff.1 hid)
    rw [Resolver.pass, htargets]
    rfl

end AttributeRelease.Proofs.Needs
