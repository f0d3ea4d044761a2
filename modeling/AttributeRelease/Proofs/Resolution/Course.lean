import AttributeRelease.Proofs.Resolution.Rules
import Mathlib.Logic.Relation

/-!
The course of a pass, one thing after the other.

All that can happen is listed, with the state before and the state afterwards. A plugin is called
where it works and nowhere else, and on no other attributes than those that its dependencies have
put out by then; what is recorded is what came of a call, or what the failover of a plugin has put
out. So the trace of a pass tells of the calls that were made.
-/

namespace AttributeRelease.Proofs.Course

open Relation
open AttributeRelease.Proofs.AnyPlugin AttributeRelease.Proofs.Rules

variable {σ : Type}

/-- A plugin that is there, but not recorded yet. -/
structure Due (ps : Plugins σ) (w : Work σ) (p : AnyPlugin σ) : Prop where
  found : lookup ps p.spec.id = some p
  new : w.isResolved p.spec.id = false

/-- A plugin that may do its work. -/
structure Able (ps : Plugins σ) (ctx : ResolutionContext) (w : Work σ) (p : AnyPlugin σ) : Prop
    extends Due ps w p where
  active : p.spec.isActive ctx = true
  dependencies : ∀ d ∈ p.dependencies, w.isResolved d = true

/-- The state once a plugin has done its work. What it put out is recorded at once. -/
def afterwards (p : AnyPlugin σ) (w : Work σ) : Except PluginError PluginOutput × σ → Work σ
  | (.ok out, s) => (w.afterWork p.spec.id none s).record p.spec.id out
  | (.error e, s) => w.afterWork p.spec.id (some e) s

/-- What can happen next. -/
inductive Happens (ps : Plugins σ) (ctx : ResolutionContext) (w : Work σ) : Work σ → Prop
  | entered {p} (due : Due ps w p) : Happens ps ctx w (w.note (.entered p.spec.id))
  | left (id : String) : Happens ps ctx w (w.note (.left id))
  | inactive {p} (due : Due ps w p) (off : p.spec.isActive ctx = false) :
      Happens ps ctx w (w.record p.spec.id .inactive)
  | worked {p} (able : Able ps ctx w p) :
      Happens ps ctx w (afterwards p w (p.work (input ctx p w) w.world))
  | replaced {p e f} (due : Due ps w p) (failed : .worked p.spec.id (some e) ∈ w.trace)
      (hf : p.failover = some f) (resolved : w.isResolved f = true) :
      Happens ps ctx w (w.record p.spec.id (.connector (w.connectorAttributes f)))

/-- A later point of the same pass. -/
abbrev Later (ps : Plugins σ) (ctx : ResolutionContext) : Work σ → Work σ → Prop :=
  ReflTransGen (Happens ps ctx)

/-- A point of a pass that began in a world, with nothing recorded. -/
abbrev History (ps : Plugins σ) (ctx : ResolutionContext) (s : σ) (w : Work σ) : Prop :=
  Later ps ctx { world := s } w

/-- Before some point of a pass a plugin did its work, and this came of it. -/
def Did (ps : Plugins σ) (ctx : ResolutionContext) (s : σ) (w : Work σ) (p : AnyPlugin σ)
    (res : Except PluginError PluginOutput) : Prop :=
  ∃ w₁ s', History ps ctx s w₁ ∧ Able ps ctx w₁ p ∧
    p.work (input ctx p w₁) w₁.world = (res, s') ∧ Later ps ctx (afterwards p w₁ (res, s')) w

/-- Where an output comes from that is recorded for a plugin. -/
inductive Comes (ps : Plugins σ) (ctx : ResolutionContext) (s : σ) (w : Work σ)
    (p : AnyPlugin σ) : PluginOutput → Prop
  | inactive (off : p.spec.isActive ctx = false) : Comes ps ctx s w p .inactive
  | work {out : PluginOutput} (did : Did ps ctx s w p (.ok out)) : Comes ps ctx s w p out
  | failover {e : PluginError} {f : String} (did : Did ps ctx s w p (.error e))
      (hf : p.failover = some f) (resolved : w.isResolved f = true) :
      Comes ps ctx s w p (.connector (w.connectorAttributes f))

variable {ps : Plugins σ} {ctx : ResolutionContext} {s : σ} {w w' : Work σ} {p : AnyPlugin σ}

lemma Able.happens {res : Except PluginError PluginOutput} {s' : σ} (able : Able ps ctx w p)
    (hwork : p.work (input ctx p w) w.world = (res, s')) :
    Happens ps ctx w (afterwards p w (res, s')) :=
  hwork ▸ .worked able

lemma Happens.trace_prefix (h : Happens ps ctx w w') : w.trace <+: w'.trace := by
  cases h with
  | @worked p _ =>
    rcases p.work (input ctx p w) w.world with ⟨_ | _, _⟩
    · exact List.prefix_append _ _
    · exact (List.prefix_append _ _).trans (List.prefix_append _ _)
  | _ => exact List.prefix_append _ _

lemma Later.trace_prefix (h : Later ps ctx w w') : w.trace <+: w'.trace := by
  induction h with
  | refl => exact List.prefix_rfl
  | tail _ hstep ih => exact ih.trans hstep.trace_prefix

lemma find?_record_of_new {id : String} {out out' : PluginOutput}
    (hnew : w.isResolved p.spec.id = false) (h : w.outputs.find? id = some out) :
    (w.record p.spec.id out').outputs.find? id = some out := by
  have hne : id ≠ p.spec.id := by
    rintro rfl
    have hrec : w.isResolved p.spec.id = true := (SortedMap.contains_iff _ _).2 ⟨out, h⟩
    exact Bool.noConfusion (hnew.symm.trans hrec)
  rw [Work.record_outputs, SortedMap.find?_insert_ne _ hne, h]

lemma find?_record {id id' : String} {out out' : PluginOutput}
    (h : (w.record id out).outputs.find? id' = some out') :
    w.outputs.find? id' = some out' ∨ id' = id ∧ out' = out := by
  rw [Work.record_outputs, SortedMap.find?_insert] at h
  split at h
  · next heq => exact .inr ⟨heq, (Option.some.inj h).symm⟩
  · exact .inl h

/-- What is recorded stays. -/
lemma Happens.find?_outputs (h : Happens ps ctx w w') {id : String} {out : PluginOutput}
    (hout : w.outputs.find? id = some out) : w'.outputs.find? id = some out := by
  cases h with
  | entered _ => exact hout
  | left _ => exact hout
  | inactive due _ => exact find?_record_of_new due.new hout
  | @worked p able =>
    rcases p.work (input ctx p w) w.world with ⟨_ | _, _⟩
    · exact hout
    · exact find?_record_of_new (w := w.afterWork p.spec.id none _) able.new hout
  | replaced due _ _ _ => exact find?_record_of_new due.new hout

lemma Later.find?_outputs (h : Later ps ctx w w') {id : String} {out : PluginOutput}
    (hout : w.outputs.find? id = some out) : w'.outputs.find? id = some out := by
  induction h with
  | refl => exact hout
  | tail _ hstep ih => exact hstep.find?_outputs ih

lemma Later.outputs_eq (h : Later ps ctx w w') {id : String} (hid : w.isResolved id = true) :
    w'.outputs.find? id = w.outputs.find? id := by
  obtain ⟨out, hout⟩ := (SortedMap.contains_iff _ _).1 hid
  rw [hout, h.find?_outputs hout]

lemma Later.isResolved (h : Later ps ctx w w') {id : String} (hid : w.isResolved id = true) :
    w'.isResolved id = true := by
  obtain ⟨out, hout⟩ := (SortedMap.contains_iff _ _).1 hid
  exact (SortedMap.contains_iff _ _).2 ⟨out, h.find?_outputs hout⟩

/-- What a plugin works with is what its dependencies have put out at the end. -/
lemma Later.input_eq (h : Later ps ctx w w') (hdeps : ∀ d ∈ p.dependencies, w.isResolved d = true) :
    input ctx p w' = input ctx p w := by
  have hout : ∀ d ∈ p.spec.dependencies, w'.outputs.find? d.plugin = w.outputs.find? d.plugin :=
    fun d hd => h.outputs_eq (hdeps _ (List.mem_map_of_mem hd))
  rw [input, input, Work.visible, Work.visible, List.flatMap_congr fun d hd => by rw [hout d hd]]

lemma Did.mono {res : Except PluginError PluginOutput} (h : Did ps ctx s w p res)
    (hw : Later ps ctx w w') : Did ps ctx s w' p res := by
  obtain ⟨w₁, s', hist, able, hwork, hlater⟩ := h
  exact ⟨w₁, s', hist, able, hwork, hlater.trans hw⟩

lemma connectorAttributes_eq {f : String} (hw : Later ps ctx w w')
    (hf : w.isResolved f = true) : w'.connectorAttributes f = w.connectorAttributes f := by
  rw [Work.connectorAttributes, Work.connectorAttributes, hw.outputs_eq hf]

lemma Comes.mono {out : PluginOutput} (h : Comes ps ctx s w p out) (hw : Later ps ctx w w') :
    Comes ps ctx s w' p out := by
  cases h with
  | inactive off => exact .inactive off
  | work did => exact .work (did.mono hw)
  | failover did hf resolved =>
    rw [← connectorAttributes_eq hw resolved]
    exact .failover (did.mono hw) hf (hw.isResolved resolved)

/-! ### What the trace tells -/

/-- The error that some work ended in. -/
def failure? : Except PluginError PluginOutput → Option PluginError
  | .ok _ => none
  | .error e => some e

lemma mem_afterwards (p : AnyPlugin σ) (w : Work σ) (res : Except PluginError PluginOutput)
    (s : σ) : .worked p.spec.id (failure? res) ∈ (afterwards p w (res, s)).trace := by
  cases res <;> simp [afterwards, failure?]

lemma Did.mem {res : Except PluginError PluginOutput} (h : Did ps ctx s w p res) :
    .worked p.spec.id (failure? res) ∈ w.trace := by
  obtain ⟨w₁, s', -, -, -, hlater⟩ := h
  exact (Later.trace_prefix hlater).subset (mem_afterwards p w₁ res s')

lemma did_of_able {res : Except PluginError PluginOutput} {s' : σ} (h : History ps ctx s w)
    (able : Able ps ctx w p) (hwork : p.work (input ctx p w) w.world = (res, s')) :
    Did ps ctx s (afterwards p w (res, s')) p res :=
  ⟨w, s', h, able, hwork, .refl⟩

lemma mem_trace_afterwards {id : String} {f : Option PluginError}
    {res : Except PluginError PluginOutput} {s' : σ}
    (h : .worked id f ∈ (afterwards p w (res, s')).trace) :
    .worked id f ∈ w.trace ∨ id = p.spec.id ∧ f = failure? res := by
  cases res with
  | error e => simpa [afterwards, failure?] using h
  | ok out => simpa [afterwards, failure?] using h

/-- Behind every event of work there is a plugin that did it. -/
theorem History.did (h : History ps ctx s w) {id : String} {f : Option PluginError}
    (hmem : .worked id f ∈ w.trace) :
    ∃ p res, lookup ps id = some p ∧ p.spec.isActive ctx = true ∧ failure? res = f ∧
      Did ps ctx s w p res := by
  induction h with
  | refl => exact absurd hmem (by simp)
  | @tail w w' hist hstep ih =>
    have hold (hmem : .worked id f ∈ w.trace) : ∃ p res, lookup ps id = some p ∧
        p.spec.isActive ctx = true ∧ failure? res = f ∧ Did ps ctx s w' p res := by
      obtain ⟨p, res, hp, on, hres, hdid⟩ := ih hmem
      exact ⟨p, res, hp, on, hres, hdid.mono (.single hstep)⟩
    cases hstep with
    | @worked p able =>
      rcases hwork : p.work (input ctx p w) w.world with ⟨res, s'⟩
      rw [hwork] at hmem hold
      rcases mem_trace_afterwards hmem with hmem | ⟨rfl, rfl⟩
      · exact hold hmem
      · exact ⟨p, res, able.found, able.active, rfl, did_of_able hist able hwork⟩
    | _ => exact hold (by simpa using hmem)

lemma did_of_failed {e : PluginError} (h : History ps ctx s w)
    (hp : lookup ps p.spec.id = some p) (hmem : .worked p.spec.id (some e) ∈ w.trace) :
    Did ps ctx s w p (.error e) := by
  obtain ⟨q, res, hq, -, hres, hdid⟩ := History.did h hmem
  obtain rfl := Option.some.inj (hp.symm.trans hq)
  cases res with
  | ok out => exact absurd hres (by simp [failure?])
  | error e' =>
    obtain rfl := Option.some.inj hres
    exact hdid

/-- Behind everything that is recorded there is the plugin that it is recorded for. -/
theorem History.comes (h : History ps ctx s w) {id : String} {out : PluginOutput}
    (hout : w.outputs.find? id = some out) :
    ∃ p, lookup ps id = some p ∧ Comes ps ctx s w p out := by
  induction h with
  | refl => exact absurd hout (by simp [SortedMap.find?_empty])
  | @tail w w' hist hstep ih =>
    have hlater : Later ps ctx w w' := .single hstep
    -- what a step records is told by the step, and the rest was recorded before
    have hold (hout : w.outputs.find? id = some out) :
        ∃ p, lookup ps id = some p ∧ Comes ps ctx s w' p out := by
      obtain ⟨p, hp, hcomes⟩ := ih hout
      exact ⟨p, hp, hcomes.mono hlater⟩
    cases hstep with
    | entered _ => exact hold hout
    | left _ => exact hold hout
    | @inactive p due off =>
      rcases find?_record hout with hout | ⟨rfl, rfl⟩
      · exact hold hout
      · exact ⟨p, due.found, .inactive off⟩
    | @worked p able =>
      rcases hwork : p.work (input ctx p w) w.world with ⟨e | out', s'⟩
      · rw [hwork] at hout hold
        exact hold hout
      · rw [hwork] at hout hold
        rcases find?_record hout with hout | ⟨rfl, rfl⟩
        · exact hold hout
        · exact ⟨p, able.found, .work (did_of_able hist able hwork)⟩
    | @replaced p _ _ due failed hf resolved =>
      rcases find?_record hout with hout | ⟨rfl, rfl⟩
      · exact hold hout
      · have hdid := (did_of_failed hist due.found failed).mono hlater
        have hcomes : Comes ps ctx s _ p _ := .failover hdid hf (hlater.isResolved resolved)
        rw [connectorAttributes_eq hlater resolved] at hcomes
        exact ⟨p, due.found, hcomes⟩

end AttributeRelease.Proofs.Course
