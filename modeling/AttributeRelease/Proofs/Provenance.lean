import AttributeRelease.Proofs.Attributes
import AttributeRelease.Proofs.Policy.Release
import AttributeRelease.Proofs.Policy.Report
import AttributeRelease.Proofs.Resolution.Account
import AttributeRelease.Service

/-!
Where released attributes come from.

What goes out under an id has been computed in the same pass by the definition of that id, which is
not for other plugins only, from what its dependencies put out in that pass. Connectors and such
definitions are recorded beside it, but nothing of theirs is resolved, and a filter adds nothing to
what is.
-/

namespace AttributeRelease.Proofs.Provenance

open AttributeRelease.Proofs.AnyPlugin AttributeRelease.Proofs.Attributes
open AttributeRelease.Proofs.Course AttributeRelease.Proofs.Rules

variable {σ : Type}

/-- An attribute that carries what its definition says about it, with the texts as attributes keep
them: trimmed, and without blank ones. -/
structure Describes (d : AttributeDefinition σ) (a : Attribute) : Prop where
  id : a.id = d.id
  displayNames : a.displayNames = d.displayNames.trimmed
  displayDescriptions : a.displayDescriptions = d.displayDescriptions.trimmed
  encoders : a.encoders = d.encoders

lemma ofValues_describes {d : AttributeDefinition σ} {vs : List AttributeValue} {a : Attribute}
    (h : d.ofValues vs = some a) : Describes d a := by
  unfold AttributeDefinition.ofValues at h
  split at h
  · exact absurd h (by simp)
  · obtain rfl := Option.some.inj h
    exact ⟨addAll_id _ _, rfl, rfl, rfl⟩

lemma compute_describes {d : AttributeDefinition σ} {v : TemplateValues} {s : σ} {a : Attribute}
    (h : (d.compute v s).1 = .ok (some a)) : Describes d a := by
  unfold AttributeDefinition.compute at h
  split at h
  · exact absurd h (by simp)
  · exact ofValues_describes (Except.ok.inj h)

/-- At some point of a pass a definition computed an attribute, from what its dependencies have put
out in that pass, and the pass went on with it. -/
def Computes (r : Resolver σ) (ctx : ResolutionContext) (s : σ) (d : AttributeDefinition σ)
    (a : Attribute) : Prop :=
  ∃ w s', History r.plugins ctx s w ∧
    d.compute ⟨ctx.request, (r.pass ctx s).2.visible d.dependencies⟩ w.world = (.ok (some a), s') ∧
    Later r.plugins ctx ((w.afterWork d.id none s').record d.id (.definition (some a)))
      (r.pass ctx s).2

/-- In a pass, a definition that may be released made an attribute. -/
structure Makes (r : Resolver σ) (ctx : ResolutionContext) (s : σ) (d : AttributeDefinition σ)
    (a : Attribute) : Prop where
  releasable : d.dependencyOnly = false
  active : d.isActive ctx = true
  computed : Computes r ctx s d a
  recorded : (r.pass ctx s).2.outputs.find? d.id = some (.definition (some a))

/-- What a simple definition makes has the values that its dependencies put out, and no others. -/
lemma Makes.ofValues_eq {r : Resolver σ} {ctx : ResolutionContext} {s : σ}
    {d : AttributeDefinition σ} {a : Attribute} (h : Makes r ctx s d a) (hd : d.kind = .simple) :
    d.ofValues ((r.pass ctx s).2.visible d.dependencies).allValues = some a := by
  obtain ⟨w, s', -, hcomp, -⟩ := h.computed
  rw [AttributeDefinition.compute, hd] at hcomp
  exact Except.ok.inj (congrArg Prod.fst hcomp)

lemma definition_of_work {p : AnyPlugin σ} {v : TemplateValues} {s s' : σ} {a : Attribute}
    (h : p.work v s = (.ok (.definition (some a)), s')) :
    ∃ d, p = .definition d ∧ d.compute v s = (.ok (some a), s') := by
  cases p with
  | connector c =>
    rcases hget : c.retrieve v s with ⟨_ | _, _⟩ <;> simp [work, hget, Except.map] at h
  | definition d =>
    refine ⟨d, rfl, ?_⟩
    rcases hcomp : d.compute v s with ⟨_ | out, _⟩
    · simp [work, hcomp, Except.map] at h
    · obtain ⟨rfl, rfl⟩ : out = some a ∧ _ := by simpa [work, hcomp, Except.map] using h
      rfl

/-- An output of a definition is the work of that definition. -/
lemma computes_of_did {r : Resolver σ} {ctx : ResolutionContext} {s : σ} {p : AnyPlugin σ}
    {a : Attribute} (h : Did r.plugins ctx s (r.pass ctx s).2 p (.ok (.definition (some a)))) :
    ∃ d, p = .definition d ∧ d.isActive ctx = true ∧ Computes r ctx s d a := by
  obtain ⟨w, s', hist, able, hwork, hlater⟩ := h
  -- what the dependencies had put out by then is what they have put out at the end
  rw [← Later.input_eq ((Relation.ReflTransGen.single (able.happens hwork)).trans hlater)
    able.dependencies] at hwork
  obtain ⟨d, rfl, hcomp⟩ := definition_of_work hwork
  exact ⟨d, rfl, able.active, w, s', hist, hcomp, hlater⟩

/-- Whatever is resolved was made by the definition of its id. -/
theorem resolved_made {r : Resolver σ} {ctx : ResolutionContext} {s : σ}
    (hok : (r.resolve ctx s).1 = .ok ()) {k : String} {a : Attribute}
    (h : (r.resolve ctx s).2.1.resolved.find? k = some a) :
    ∃ d, r.plugins.definitions.find? k = some d ∧ Makes r ctx s d a ∧ Describes d a := by
  rw [Agreement.resolve_fst] at hok
  rw [Agreement.find?_resolved hok, Option.bind_eq_some_iff] at h
  obtain ⟨out, hout, hrel⟩ := h
  obtain ⟨rfl, honly, -⟩ := Agreement.released?_eq_some_iff.1 hrel
  obtain ⟨p, hp, hcomes⟩ := History.comes (Trace.pass_orderly r ctx s).history hout
  cases hcomes with
  | work did =>
    obtain ⟨d, rfl, on, hcomp⟩ := computes_of_did did
    have hd := lookup_definition_iff.1 hp
    obtain rfl := r.plugins.definition_id hd
    obtain ⟨_, _, -, hcomp', -⟩ := id hcomp
    exact ⟨d, hd, ⟨honly d hd, on, hcomp, hout⟩, compute_describes (congrArg Prod.fst hcomp')⟩

/-! ### What is released -/

lemma filterContext_unfiltered (s : ReleaseService σ) (q : ReleaseRequest) (m : AttributeMap) :
    (s.filterContext q m).unfiltered = m := by
  unfold ReleaseService.filterContext
  split <;> rfl

lemma release_eq_ok {s : ReleaseService σ} {q : ReleaseRequest} {world : σ} {out : Release}
    (h : (s.release q world).1 = .ok out) :
    (s.resolver.resolve q.toRequest world).1 = .ok () ∧
      let (report, filtered) := s.filter.run
        (s.filterContext q (s.resolver.resolve q.toRequest world).2.1.resolved)
      out = ⟨filtered.filtered, report⟩ := by
  unfold ReleaseService.release at h
  rcases hres : s.resolver.resolve q.toRequest world with ⟨e | u, c, world'⟩
  · rw [hres] at h
    exact absurd h (by simp)
  · rw [hres] at h
    exact ⟨rfl, (Except.ok.inj h).symm⟩

/-- What comes out of a filter came in under the same key, with no less of it. -/
lemma filtered_sublist {f : AttributeFilter} {c : FilterContext} {k : String} {a : Attribute}
    (h : (f.run c).2.filtered.find? k = some a) : ∃ b, c.unfiltered.find? k = some b ∧
      a = { b with values := a.values } ∧ a.values ≠ [] ∧ a.values.Sublist b.values := by
  rw [Release.find?_filtered, Option.bind_eq_some_iff] at h
  obtain ⟨b, hb, h⟩ := h
  split at h
  · exact absurd h (by simp)
  · next hne =>
    obtain rfl := Option.some.inj h
    rw [Release.keepAt_survives] at hne ⊢
    exact ⟨b, hb, rfl, by simpa [Attribute.isEmpty] using hne, List.filter_sublist⟩

/-- A released attribute: some of the values that a definition made in this pass. -/
structure Released (r : Resolver σ) (ctx : ResolutionContext) (s : σ) (k : String)
    (a : Attribute) : Prop where
  id : a.id = k
  values_ne_nil : a.values ≠ []
  made : ∃ d b, r.plugins.definitions.find? k = some d ∧
    (r.resolve ctx s).2.1.resolved.find? k = some b ∧ Makes r ctx s d b ∧ Describes d a ∧
    a.values.Sublist b.values

/-- **Where released attributes come from**, whatever the filter permits. -/
theorem release_made (s : ReleaseService σ) (q : ReleaseRequest) (world : σ) (out : Release)
    (h : (s.release q world).1 = .ok out) :
    (∀ k a, out.attributes.find? k = some a → Released s.resolver q.toRequest world k a) ∧
    (out.report.released ++ out.report.removed).Perm
      (s.resolver.resolve q.toRequest world).2.1.resolved.keys := by
  obtain ⟨hok, rfl⟩ := release_eq_ok h
  refine ⟨fun k a ha => ?_, ?_⟩
  · obtain ⟨b, hb, heq, hne, hsub⟩ := filtered_sublist ha
    rw [filterContext_unfiltered] at hb
    obtain ⟨d, hd, hmakes, hdescribes⟩ := resolved_made hok hb
    have hda : Describes d a := by
      rw [heq]
      exact ⟨hdescribes.id, hdescribes.displayNames, hdescribes.displayDescriptions,
        hdescribes.encoders⟩
    exact ⟨hda.id.trans (s.resolver.plugins.definition_id hd), hne, d, b, hd, hb, hmakes, hda,
      hsub⟩
  · have hperm := Report.released_append_removed_perm s.filter
      (s.filterContext q (s.resolver.resolve q.toRequest world).2.1.resolved)
    rwa [filterContext_unfiltered] at hperm

def mail : AttributeDefinition ℕ :=
  { Agreement.mail with displayNames := .ofList [("en", " Mail ")] }

/-- What the mail address is made from is not released itself. -/
def raw : AttributeDefinition ℕ := { Agreement.mail with id := "raw", dependencyOnly := true }

def permitAny (id : String) : AttributeRule := { attributeId := id, permit := [.leaf .any] }

def permissive : ReleaseService ℕ where
  resolver :=
    (Resolver.build "open" [Agreement.directory, Agreement.spare] [mail, raw]).toOption.get rfl
  filter := (AttributeFilter.build "open" [{
    id := "everything"
    requirement := .leaf .any
    rules := ["directory", "mail", "raw", "spare"].map permitAny }]).toOption.get rfl

def ada : ReleaseRequest := { principal := "ada" }

theorem permissive_release_made : ∃ out, (permissive.release ada 0).1 = .ok out ∧
    out.attributes.keys = ["mail"] ∧
    (∀ k a, out.attributes.find? k = some a →
      Released permissive.resolver ada.toRequest 0 k a) ∧
    (out.report.released ++ out.report.removed).Perm
      (permissive.resolver.resolve ada.toRequest 0).2.1.resolved.keys :=
  ⟨_, rfl, rfl, release_made permissive ada 0 _ rfl⟩

end AttributeRelease.Proofs.Provenance
