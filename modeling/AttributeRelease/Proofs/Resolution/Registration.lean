import AttributeRelease.Proofs.Maps
import AttributeRelease.Proofs.Resolution.Calls
import AttributeRelease.Proofs.Resolution.Circle

/-!
Plugins that are registered in another order.

A resolver keeps its plugins under their ids and goes through them in the order of these. That an id
comes twice is seen in any order, and if none does, the order of the registrations is gone as soon
as the plugins are collected: what is checked, reported, resolved and validated after that is the
same.
-/

namespace AttributeRelease.Proofs.Registration

open AttributeRelease.Proofs.AnyPlugin AttributeRelease.Proofs.Build
open AttributeRelease.Proofs.Calls AttributeRelease.Proofs.Checks AttributeRelease.Proofs.Circle
open AttributeRelease.Proofs.Maps

variable {σ : Type} {l l' : List (AnyPlugin σ)}

def connector? : AnyPlugin σ → Option (DataConnector σ)
  | .connector c => some c
  | .definition _ => none

def definition? : AnyPlugin σ → Option (AttributeDefinition σ)
  | .connector _ => none
  | .definition d => some d

/-- Builds a resolver of plugins that are registered one after the other, of either kind as they
come. -/
def register (id : String) (l : List (AnyPlugin σ)) : Except ResolverError (Resolver σ) :=
  Resolver.build id (l.filterMap connector?) (l.filterMap definition?)

/-- What is built of is what was registered, with the connectors in front. -/
lemma together_perm (l : List (AnyPlugin σ)) :
    (together (l.filterMap connector?) (l.filterMap definition?)).Perm l := by
  induction l with
  | nil => exact .nil
  | cons p l ih =>
    cases p with
    | connector c => exact ih.cons _
    | definition d => exact List.perm_middle.trans (ih.cons _)

lemma ids_perm (l : List (AnyPlugin σ)) :
    ((together (l.filterMap connector?) (l.filterMap definition?)).map (·.spec.id)).Perm
      (l.map (·.spec.id)) :=
  (together_perm l).map _

lemma check_ne_duplicate (ps : Plugins σ) (id : String) :
    ps.check ≠ .error (.duplicatePlugin id) := by
  have hsettings := checkSettings_silent ps (.duplicatePlugin id) trivial
  have hdependencies := checkDependencies_silent ps (.duplicatePlugin id) trivial
  have hfailovers := checkFailovers_silent ps (.duplicatePlugin id) trivial
  have hacyclic : ps.checkAcyclic ≠ .error (.duplicatePlugin id) := by
    unfold Plugins.checkAcyclic
    split <;> simp
  rw [Plugins.check, ne_eq, andThen_eq_error_iff, andThen_eq_error_iff, andThen_eq_error_iff]
  tauto

/-- A plugin is refused as a duplicate just if there is one. -/
lemma register_duplicate_iff (id : String) :
    (∃ x, register id l = .error (.duplicatePlugin x)) ↔ ¬ (l.map (·.spec.id)).Nodup := by
  have hcollect := ofLists_spec (l.filterMap connector?) (l.filterMap definition?)
  simp only [register, build_eq_error_iff]
  rw [← (ids_perm l).nodup_iff]
  cases hps : Plugins.ofLists (l.filterMap connector?) (l.filterMap definition?) with
  | error e =>
    rw [hps] at hcollect
    obtain ⟨x, rfl⟩ := ofLists_eq_error hps
    exact iff_of_true ⟨x, .inl rfl⟩ hcollect
  | ok ps =>
    rw [hps] at hcollect
    refine iff_of_false ?_ (not_not_intro hcollect.1)
    rintro ⟨x, h | ⟨ps', -, h⟩⟩
    · cases h
    · exact check_ne_duplicate ps' x h

/-- A set of plugins is what is in it. -/
lemma plugins_ext {ps ps' : Plugins σ} (h : ∀ p, p ∈ all ps ↔ p ∈ all ps') : ps = ps' := by
  have hlookup : ∀ id, lookup ps id = lookup ps' id := fun id => Option.ext fun p => by
    rw [lookup_eq_some_iff, lookup_eq_some_iff, h]
  have hconnectors : ps.connectors = ps'.connectors := eq_of_find? fun id => Option.ext fun c => by
    rw [← lookup_connector_iff, hlookup, lookup_connector_iff]
  have hdefinitions : ps.definitions = ps'.definitions :=
    eq_of_find? fun id => Option.ext fun d => by
      rw [← lookup_definition_iff, hlookup, lookup_definition_iff]
  cases ps
  cases ps'
  cases hconnectors
  cases hdefinitions
  rfl

/-- Without duplicates, the same plugins are collected in any order. -/
lemma ofLists_eq_of_perm (h : l.Perm l') (hnodup : (l.map (·.spec.id)).Nodup) :
    Plugins.ofLists (l.filterMap connector?) (l.filterMap definition?) =
      Plugins.ofLists (l'.filterMap connector?) (l'.filterMap definition?) := by
  have hnodup' : (l'.map (·.spec.id)).Nodup := (h.map _).nodup_iff.1 hnodup
  have hcollect := ofLists_spec (l.filterMap connector?) (l.filterMap definition?)
  have hcollect' := ofLists_spec (l'.filterMap connector?) (l'.filterMap definition?)
  rw [(ids_perm l).nodup_iff] at hcollect
  rw [(ids_perm l').nodup_iff] at hcollect'
  cases hps : Plugins.ofLists (l.filterMap connector?) (l.filterMap definition?) with
  | error e =>
    rw [hps] at hcollect
    exact absurd hnodup hcollect
  | ok ps =>
    rw [hps] at hcollect
    cases hps' : Plugins.ofLists (l'.filterMap connector?) (l'.filterMap definition?) with
    | error e =>
      rw [hps'] at hcollect'
      exact absurd hnodup' hcollect'
    | ok ps' =>
      rw [hps'] at hcollect'
      refine congrArg Except.ok (plugins_ext fun p => ?_)
      rw [hcollect.2, hcollect'.2, (together_perm l).mem_iff, (together_perm l').mem_iff,
        h.mem_iff]

lemma register_eq_of_perm (id : String) (h : l.Perm l') (hnodup : (l.map (·.spec.id)).Nodup) :
    register id l = register id l' := by
  unfold register Resolver.build
  rw [ofLists_eq_of_perm h hnodup]

/-! ### Whatever the order -/

/-- Two attempts that are refused with one error, or give resolvers that nothing tells apart: not
what they resolve or how it fails, not the calls they make on the way, and not their validation. -/
inductive Alike : Except ResolverError (Resolver σ) → Except ResolverError (Resolver σ) → Prop
  | refused (e : ResolverError) : Alike (.error e) (.error e)
  | built {r r' : Resolver σ} (hresolve : ∀ c s, r.resolve c s = r'.resolve c s)
      (hpass : ∀ c s, r.pass c s = r'.pass c s) (hcalls : ∀ c s, calls r c s = calls r' c s)
      (hvalidate : ∀ s, r.validate s = r'.validate s) : Alike (.ok r) (.ok r')

lemma alike_of_eq {x y : Except ResolverError (Resolver σ)} (h : x = y) : Alike x y := by
  subst h
  cases x with
  | error e => exact .refused e
  | ok r => exact .built (fun _ _ => rfl) (fun _ _ => rfl) (fun _ _ => rfl) fun _ => rfl

/-- **The order of registrations does not matter**, neither to whether an id comes twice nor, if
none does, to anything else. -/
theorem register_reordered (id : String) (h : l.Perm l') :
    ((∃ x, register id l = .error (.duplicatePlugin x)) ↔
      ∃ x, register id l' = .error (.duplicatePlugin x)) ∧
    ((l.map (·.spec.id)).Nodup → Alike (register id l) (register id l')) := by
  constructor
  · rw [register_duplicate_iff, register_duplicate_iff, (h.map _).nodup_iff]
  · intro hnodup
    exact alike_of_eq (register_eq_of_perm id h hnodup)

/-- Counts the searches, and answers none. -/
def outOfReach : DirectoryClient ℕ where
  search _ s := (.error ⟨.connection, "refused", none⟩, s + 1)
  checkConnection s := (.error ⟨.connection, "refused", none⟩, s)

/-- Plugins of both kinds, from the last id to the first. -/
def registrations : List (AnyPlugin ℕ) := [
  .connector {
    id := "people"
    source := .directory outOfReach "" ⟨"(uid=ada)", [.literal "(uid=ada)".toList]⟩ []
      ({} : EntryMapping).map
    failover := some "archive" },
  .definition { id := "method", kind := .principalAuthenticationMethod },
  .definition { id := "mail", kind := .simple, dependencies := [⟨"people", none⟩] },
  .connector {
    id := "archive"
    source := .ofAttributes [{ id := "mail", values := [.string "a@b.example"] }] }]

/-- The resolver that comes of either order. -/
def ofRegistrations : Resolver ℕ := (register "people" registrations).toOption.get rfl

theorem registrations_reordered : registrations.Perm registrations.reverse ∧
    (registrations.map (·.spec.id)).Nodup ∧
    Alike (register "people" registrations) (register "people" registrations.reverse) ∧
    register "people" registrations = .ok ofRegistrations ∧
    (ofRegistrations.resolve {} 0).2.1.resolved.keys = ["mail"] ∧
    (calls ofRegistrations {} 0).length = 1 ∧
    (ofRegistrations.validate 0).1 = .error ⟨"people", ⟨.connection, "refused", none⟩⟩ := by
  have hperm : registrations.Perm registrations.reverse := (List.reverse_perm _).symm
  have hnodup : (registrations.map (·.spec.id)).Nodup := by decide
  exact ⟨hperm, hnodup, (register_reordered "people" hperm).2 hnodup, rfl, by decide +kernel,
    by decide +kernel, rfl⟩

end AttributeRelease.Proofs.Registration
