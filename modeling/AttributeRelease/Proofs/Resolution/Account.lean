import AttributeRelease.Proofs.Resolution.Agreement
import AttributeRelease.Proofs.Resolution.Trace

/-!
What a pass accounts for.

Every event of it is about a plugin that is needed: one that is asked for, that an active plugin
uses, or that stands in for one that failed.
-/

namespace AttributeRelease.Proofs.Account

open AttributeRelease.Proofs.AnyPlugin AttributeRelease.Proofs.Course
open AttributeRelease.Proofs.Rules AttributeRelease.Proofs.Trace

variable {σ : Type}

variable {ps : Plugins σ} {ctx : ResolutionContext}

/-- A definition that a request is for. -/
def Asked (ps : Plugins σ) (q : Request) (id : String) : Prop :=
  ps.definitions.contains id = true ∧
    (q.requested.isEmpty = true ∨ q.requested.contains id = true)

/-- An active plugin uses those that it depends on. -/
def Uses (ps : Plugins σ) (ctx : ResolutionContext) (a b : String) : Prop :=
  ∃ p, lookup ps a = some p ∧ p.spec.isActive ctx = true ∧ b ∈ p.dependencies

/-- The plugins that cannot be done without, given what failed in a trace. -/
inductive Needed (ps : Plugins σ) (ctx : ResolutionContext) (t : List PassEvent) : String → Prop
  | asked {id : String} (h : Asked ps ctx.request id) : Needed ps ctx t id
  | used {a b : String} (ha : Needed ps ctx t a) (hab : Uses ps ctx a b) : Needed ps ctx t b
  | failover {a b : String} {p : AnyPlugin σ} {e : PluginError} (ha : Needed ps ctx t a)
      (hp : lookup ps a = some p) (on : p.spec.isActive ctx = true)
      (failed : .worked a (some e) ∈ t) (hf : p.failover = some b) : Needed ps ctx t b

lemma Needed.mono {t t' : List PassEvent} (ht : t ⊆ t') {id : String} (h : Needed ps ctx t id) :
    Needed ps ctx t' id := by
  induction h with
  | asked h => exact .asked h
  | used _ hab ih => exact .used ih hab
  | failover _ hp on failed hf ih => exact .failover ih hp on (ht failed) hf

/-- Nothing that happened or was recorded is taken back. -/
structure Grows (w w' : Work σ) : Prop where
  trace : w.trace <+: w'.trace
  resolved : ∀ id, w.isResolved id = true → w'.isResolved id = true

lemma Grows.refl (w : Work σ) : Grows w w := ⟨List.prefix_rfl, fun _ h => h⟩

lemma Grows.trans {w w₁ w₂ : Work σ} (h₁ : Grows w w₁) (h₂ : Grows w₁ w₂) : Grows w w₂ :=
  ⟨h₁.trace.trans h₂.trace, fun id h => h₂.resolved id (h₁.resolved id h)⟩

lemma Grows.note (w : Work σ) (e : PassEvent) : Grows w (w.note e) :=
  ⟨List.prefix_append _ _, fun _ h => h⟩

lemma Grows.afterWork (w : Work σ) (id : String) (f : Option PluginError) (s : σ) :
    Grows w (w.afterWork id f s) :=
  ⟨List.prefix_append _ _, fun _ h => h⟩

lemma Grows.record (w : Work σ) (id : String) (out : PluginOutput) : Grows w (w.record id out) :=
  ⟨List.prefix_append _ _, fun _ h => Work.isResolved_record_iff.2 (.inr h)⟩

/-- A job that does not fail leaves the plugins recorded that it is about. -/
theorem resolves_grows {job : Job σ} {w : Work σ} {out : Except ResolutionError Unit × Work σ}
    (h : Resolves ps ctx job w out) : Grows w out.2 ∧
      (out.1 = .ok () → ∀ id ∈ subjects job, ∀ p, lookup ps id = some p →
        out.2.isResolved id = true) := by
  induction h with
  | nil => exact ⟨.refl _, by simp [subjects]⟩
  | next _ _ ihfirst ihrest =>
    refine ⟨ihfirst.1.trans ihrest.1, fun hok id hid p hp => ?_⟩
    rcases List.mem_cons.1 hid with rfl | hid
    · exact ihrest.1.resolved _ (ihfirst.2 rfl _ (by simp [subjects]) p hp)
    · exact ihrest.2 hok id hid p hp
  | stop _ ihfirst => exact ⟨ihfirst.1, by simp⟩
  | @recorded id w old =>
    refine ⟨.refl _, fun _ id' hid' _ _ => ?_⟩
    obtain rfl := List.mem_singleton.1 hid'
    exact old
  | @unknown id w _ hnone =>
    refine ⟨.refl _, fun _ id' hid' p hp => ?_⟩
    obtain rfl := List.mem_singleton.1 hid'
    exact absurd (hnone.symm.trans hp) (by simp)
  | enter _ hp _ ih =>
    obtain rfl := spec_id_of_lookup hp
    exact ⟨((Grows.note _ _).trans ih.1).trans (Grows.note _ _), ih.2⟩
  | inactive _ =>
    refine ⟨.record _ _ _, fun _ id hid _ _ => ?_⟩
    exact Work.isResolved_record_iff.2 (.inl (List.mem_singleton.1 hid))
  | blocked _ _ ih => exact ⟨ih.1, by simp⟩
  | proceed _ _ _ ihdeps ihact => exact ⟨ihdeps.1.trans ihact.1, ihact.2⟩
  | done _ =>
    refine ⟨(Grows.afterWork _ _ _ _).trans (.record _ _ _), fun _ id hid _ _ => ?_⟩
    exact Work.isResolved_record_iff.2 (.inl (List.mem_singleton.1 hid))
  | failed _ _ => exact ⟨.afterWork _ _ _ _, by simp⟩
  | substituted _ _ _ ih =>
    refine ⟨((Grows.afterWork _ _ _ _).trans ih.1).trans (.record _ _ _), fun _ id hid _ _ => ?_⟩
    exact Work.isResolved_record_iff.2 (.inl (List.mem_singleton.1 hid))
  | failedTwice _ _ _ ih => exact ⟨(Grows.afterWork _ _ _ _).trans ih.1, by simp⟩

/-! ### Only what is needed -/

/-- All events of a trace are about what is needed. -/
def AllNeeded (ps : Plugins σ) (ctx : ResolutionContext) (t : List PassEvent) : Prop :=
  ∀ e ∈ t, Needed ps ctx t (subject e)

lemma AllNeeded.snoc {t : List PassEvent} {e : PassEvent} (h : AllNeeded ps ctx t)
    (he : Needed ps ctx t (subject e)) : AllNeeded ps ctx (t ++ [e]) := by
  intro e' he'
  refine .mono (List.subset_append_left _ _) ?_
  rw [List.mem_append, List.mem_singleton] at he'
  rcases he' with he' | rfl
  · exact h e' he'
  · exact he

variable {w : Work σ} {p : AnyPlugin σ}

/-- A job is about a plugin that is there, and one that is active if it is to work. -/
def Found (ps : Plugins σ) (ctx : ResolutionContext) : Job σ → Prop
  | .row _ => True
  | .plugin _ => True
  | .inside p => lookup ps p.spec.id = some p
  | .act p => lookup ps p.spec.id = some p ∧ p.spec.isActive ctx = true

/-- One that fails needs its failover. -/
lemma failover_needed {e : PluginError} {f : String} {s' : σ} (hp : lookup ps p.spec.id = some p)
    (on : p.spec.isActive ctx = true) (hneed : Needed ps ctx w.trace p.spec.id)
    (hf : p.failover = some f) :
    Needed ps ctx (w.afterWork p.spec.id (some e) s').trace f :=
  .failover (hneed.mono (Grows.afterWork w _ _ s').trace.subset) hp on
    (List.mem_append_right _ (List.mem_singleton_self _)) hf

/-- **Whatever is done by the rules is needed**, if what the job is about is. -/
theorem resolves_needed {job : Job σ} {out : Except ResolutionError Unit × Work σ}
    (h : Resolves ps ctx job w out) (hfound : Found ps ctx job)
    (hneed : ∀ id ∈ subjects job, Needed ps ctx w.trace id) (ha : AllNeeded ps ctx w.trace) :
    AllNeeded ps ctx out.2.trace := by
  induction h with
  | nil => exact ha
  | next first _ ihfirst ihrest =>
    obtain ⟨hid, hids⟩ := List.forall_mem_cons.1 hneed
    have hgrows := (resolves_grows first).1.trace.subset
    have ha₁ := ihfirst trivial (List.forall_mem_singleton.2 hid) ha
    exact ihrest trivial (fun id hmem => (hids id hmem).mono hgrows) ha₁
  | stop _ ihfirst =>
    obtain ⟨hid, -⟩ := List.forall_mem_cons.1 hneed
    exact ihfirst trivial (List.forall_mem_singleton.2 hid) ha
  | recorded _ => exact ha
  | unknown _ _ => exact ha
  | @enter id p w result w₁ _ hp inner ih =>
    obtain rfl := spec_id_of_lookup hp
    have hid : Needed ps ctx w.trace p.spec.id := List.forall_mem_singleton.1 hneed
    have hstart : Grows w (w.note (.entered p.spec.id)) := .note _ _
    have hgrows := hstart.trans (resolves_grows inner).1
    have ha₁ := ih hp (List.forall_mem_singleton.2 (hid.mono hstart.trace.subset)) (ha.snoc hid)
    exact ha₁.snoc (hid.mono hgrows.trace.subset)
  | inactive _ => exact ha.snoc (List.forall_mem_singleton.1 hneed)
  | @blocked p w w₁ e on _ ih =>
    have hid : Needed ps ctx w.trace p.spec.id := List.forall_mem_singleton.1 hneed
    exact ih trivial (fun d hd => .used hid ⟨p, hfound, on, hd⟩) ha
  | @proceed p w w₁ out on deps _ ihdeps ihact =>
    have hid : Needed ps ctx w.trace p.spec.id := List.forall_mem_singleton.1 hneed
    have hgrows := (resolves_grows deps).1.trace.subset
    have ha₁ := ihdeps trivial (fun d hd => .used hid ⟨p, hfound, on, hd⟩) ha
    exact ihact ⟨hfound, on⟩ (List.forall_mem_singleton.2 (hid.mono hgrows)) ha₁
  | @done p w out s' work =>
    have hid : Needed ps ctx w.trace p.spec.id := List.forall_mem_singleton.1 hneed
    have hid' := hid.mono (Grows.afterWork w p.spec.id none s').trace.subset
    have ha₁ : AllNeeded ps ctx (w.afterWork p.spec.id none s').trace := ha.snoc hid
    exact ha₁.snoc hid'
  | failed _ _ => exact ha.snoc (List.forall_mem_singleton.1 hneed)
  | @substituted p w e s' f w₁ _ hf sub ih =>
    obtain ⟨hp, on⟩ := hfound
    have hid : Needed ps ctx w.trace p.spec.id := List.forall_mem_singleton.1 hneed
    have hgrows := (Grows.afterWork w p.spec.id (some e) s').trans (resolves_grows sub).1
    have ha₁ := ih trivial (List.forall_mem_singleton.2 (failover_needed hp on hid hf))
      (ha.snoc hid)
    exact ha₁.snoc (hid.mono hgrows.trace.subset)
  | failedTwice _ hf _ ih =>
    obtain ⟨hp, on⟩ := hfound
    have hid : Needed ps ctx _ _ := List.forall_mem_singleton.1 hneed
    exact ih trivial (List.forall_mem_singleton.2 (failover_needed hp on hid hf)) (ha.snoc hid)

lemma mem_targets_iff {q : Request} {id : String} : id ∈ ps.targets q ↔ Asked ps q id :=
  (Agreement.targets_spec ps q).2 id

/-- **A pass does only what is needed**, whether it succeeds or fails. -/
theorem pass_needed (r : Resolver σ) (ctx : ResolutionContext) (s : σ) :
    AllNeeded r.plugins ctx (r.pass ctx s).2.trace :=
  resolves_needed (pass_resolves r ctx s) trivial (fun _ hid => .asked (mem_targets_iff.1 hid))
    (fun _ he => absurd he (by simp))

end AttributeRelease.Proofs.Account
