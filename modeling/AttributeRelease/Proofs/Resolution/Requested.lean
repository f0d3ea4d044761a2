import AttributeRelease.Proofs.Maps
import AttributeRelease.Proofs.Resolution.Declared
import AttributeRelease.Proofs.Resolution.Failure
import AttributeRelease.Proofs.Resolution.Inputs
import AttributeRelease.Service

/-!
What is asked for says where a resolution begins, and nothing else.

No plugin gets to see the names in a request, so the recursion gives each the same whatever is asked
for. A resolution for several names then reaches what resolutions for some of them reach together,
and fails if one of those fails.
-/

namespace AttributeRelease.Proofs.Requested

open Relation
open AttributeRelease.Proofs.AnyPlugin AttributeRelease.Proofs.Checks
open AttributeRelease.Proofs.Declared AttributeRelease.Proofs.Inputs
open AttributeRelease.Proofs.Reference AttributeRelease.Proofs.Agreement
open AttributeRelease.Proofs.Maps

variable {σ : Type}

/-- A context in which some names are asked for. -/
def asking (ctx : ResolutionContext) (names : NameSet) : ResolutionContext :=
  { ctx with request := { ctx.request with requested := names } }

variable (ctx : ResolutionContext) (names : NameSet) (seen : AttributeMap)

lemma work_asking (p : AnyPlugin σ) (s : σ) :
    p.work ⟨(asking ctx names).request, seen⟩ s = p.work ⟨ctx.request, seen⟩ s := by
  have hsame : SameFor ⟨(asking ctx names).request, seen⟩ ⟨ctx.request, seen⟩ p := by
    cases p with
    | connector c => exact ⟨rfl, fun _ _ => rfl⟩
    | definition d =>
      show SameForKind _ _ d.kind
      cases d.kind <;> exact rfl
  exact work_congr hsame s

/-- Recipient and authentication method alone say which plugins are active. -/
def Switched (ps : Plugins σ) : Prop :=
  ∀ p ∈ all ps, ∀ c c' : ResolutionContext, c.request.recipient = c'.request.recipient →
    c.request.authenticationMethod = c'.request.authenticationMethod →
      p.spec.isActive c = p.spec.isActive c'

/-- Declared plugins can be switched in no other way. -/
lemma build_switched {b : Backends σ} {d : ResolverDecl} {r : Resolver σ}
    (h : d.build b = .ok r) : Switched r.plugins := by
  intro p hp x y hrecipient hmethod
  cases p with
  | connector c =>
    obtain ⟨decl, -, source, -, rfl⟩ := connector_declared h hp
    exact ofDecl_congr _ _ (.inr hrecipient) (.inr hmethod)
  | definition a =>
    obtain ⟨decl, -, kind, -, rfl⟩ := definition_declared h hp
    exact ofDecl_congr _ _ (.inr hrecipient) (.inr hmethod)

variable {ctx names} {r : Resolver σ} {world : σ}

lemma isActive_asking (hswitched : Switched r.plugins) {id : String} {p : AnyPlugin σ}
    (hp : lookup r.plugins id = some p) :
    p.spec.isActive (asking ctx names) = p.spec.isActive ctx :=
  hswitched p (lookup_eq_some_iff.1 hp).1 _ _ rfl rfl

lemma reference_unknown {id : String} (h : lookup r.plugins id = none) :
    reference r ctx world id = .ok .inactive := by
  rw [reference, WellFounded.fix_eq, h]

lemma reference_asking (hswitched : Switched r.plugins) :
    reference r (asking ctx names) world = reference r ctx world := by
  funext id
  induction id using (edges_wellFounded r).induction with
  | h id ih =>
    cases hp : lookup r.plugins id with
    | none => rw [reference_unknown hp, reference_unknown hp]
    | some p =>
      have hgo : ∀ b ∈ p.dependencies ++ p.failover.toList,
          reference r (asking ctx names) world b = reference r ctx world b := by
        intro b hb
        refine ih b ?_
        rw [edges_eq, hp]
        exact hb
      rw [reference_eq hp, reference_eq hp, evaluate_congr hgo]
      simp only [evaluate, isActive_asking hswitched hp, work_asking]

lemma calls_asking (hswitched : Switched r.plugins) {a b : String} :
    Calls r (asking ctx names) world a b ↔ Calls r ctx world a b := by
  cases hp : lookup r.plugins a with
  | none =>
    have hnone : ∀ c, ¬ Calls r c world a b := by
      rintro c (⟨hp', -, -⟩ | ⟨hp', -, -, -, -⟩) <;> exact absurd (hp.symm.trans hp') (by simp)
    exact iff_of_false (hnone _) (hnone _)
  | some p =>
    simp only [calls_iff hp, isActive_asking hswitched hp, reference_asking hswitched, work_asking]

lemma reached_iff {id : String} : Reached r ctx world id ↔
    ∃ t ∈ r.plugins.targets ctx.request, ReflTransGen (Calls r ctx world) t id := by
  constructor
  · intro h
    induction h with
    | target h => exact ⟨_, h, .refl⟩
    | call _ hab ih =>
      obtain ⟨t, ht, hreach⟩ := ih
      exact ⟨t, ht, hreach.tail hab⟩
  · rintro ⟨t, ht, hreach⟩
    induction hreach with
    | refl => exact .target ht
    | tail _ hab ih => exact ih.call hab

lemma reached_asking (hswitched : Switched r.plugins) {id : String} :
    Reached r (asking ctx names) world id ↔
      ∃ t ∈ r.plugins.targets (asking ctx names).request,
        ReflTransGen (Calls r ctx world) t id := by
  have hcalls : Calls r (asking ctx names) world = Calls r ctx world := by
    funext a b
    exact propext (calls_asking hswitched)
  rw [reached_iff, hcalls]

/-! ### Resolutions -/

/-- What a plugin gives out by the recursion. -/
def Gives (r : Resolver σ) (ctx : ResolutionContext) (world : σ) (id : String) (a : Attribute) :
    Prop :=
  reference r ctx world id = .ok (.definition (some a)) ∧
    (∃ d, r.plugins.definitions.find? id = some d ∧ d.dependencyOnly = false) ∧ a.values ≠ []

lemma resolve_ok_iff (hsteady : Steady r.plugins) (hswitched : Switched r.plugins) (world s : σ) :
    (r.resolve (asking ctx names) s).1 = .ok () ↔
      ∀ t ∈ r.plugins.targets (asking ctx names).request,
        outcome (reference r ctx world t) = .ok () := by
  rw [(resolve_follows_reference r hsteady (asking ctx names) world s).result, forM_eq_ok_iff,
    reference_asking hswitched]

lemma find?_resolved_asking (hsteady : Steady r.plugins) (hswitched : Switched r.plugins)
    (world : σ) {s : σ} (hok : (r.resolve (asking ctx names) s).1 = .ok ()) {id : String}
    {a : Attribute} : (r.resolve (asking ctx names) s).2.1.resolved.find? id = some a ↔
      (∃ t ∈ r.plugins.targets (asking ctx names).request,
        ReflTransGen (Calls r ctx world) t id) ∧ Gives r ctx world id a := by
  rw [(resolve_follows_reference r hsteady (asking ctx names) world s).released hok,
    reached_asking hswitched, reference_asking hswitched, Gives]

lemma mem_targets_asking {t : String} (h : names.isEmpty = false) :
    t ∈ r.plugins.targets (asking ctx names).request ↔
      r.plugins.definitions.contains t = true ∧ names.contains t = true := by
  rw [(targets_spec r.plugins (asking ctx names).request).2]
  simp [asking, h]

lemma mem_targets_union {S T : NameSet} {t : String} (hS : S.isEmpty = false)
    (hT : T.isEmpty = false) : t ∈ r.plugins.targets (asking ctx (union S T)).request ↔
      t ∈ r.plugins.targets (asking ctx S).request ∨
        t ∈ r.plugins.targets (asking ctx T).request := by
  have hunion : (union S T).isEmpty = false := by
    obtain ⟨n, hn⟩ := isEmpty_eq_false_iff.1 hS
    exact isEmpty_eq_false_iff.2 ⟨n, contains_union.2 (.inl hn)⟩
  rw [mem_targets_asking hS, mem_targets_asking hT, mem_targets_asking hunion, contains_union,
    and_or_left]

/-- A resolution for all names of two sets, in terms of those for each of them. -/
structure Unites (r : Resolver σ) (ctx : ResolutionContext) (S T : NameSet) (s s₁ s₂ : σ) :
    Prop where
  succeeds : (r.resolve (asking ctx (union S T)) s).1 = .ok () ↔
    (r.resolve (asking ctx S) s₁).1 = .ok () ∧ (r.resolve (asking ctx T) s₂).1 = .ok ()
  agree : (r.resolve (asking ctx (union S T)) s).1 = .ok () → ∀ id a b,
    (r.resolve (asking ctx S) s₁).2.1.resolved.find? id = some a →
    (r.resolve (asking ctx T) s₂).2.1.resolved.find? id = some b → a = b
  resolved : (r.resolve (asking ctx (union S T)) s).1 = .ok () → ∀ id a,
    (r.resolve (asking ctx (union S T)) s).2.1.resolved.find? id = some a ↔
      (r.resolve (asking ctx S) s₁).2.1.resolved.find? id = some a ∨
        (r.resolve (asking ctx T) s₂).2.1.resolved.find? id = some a

lemma resolve_unites (hsteady : Steady r.plugins) (hswitched : Switched r.plugins)
    {S T : NameSet} (hS : S.isEmpty = false) (hT : T.isEmpty = false) (s s₁ s₂ : σ) :
    Unites r ctx S T s s₁ s₂ := by
  have hsucceeds : (r.resolve (asking ctx (union S T)) s).1 = .ok () ↔
      (r.resolve (asking ctx S) s₁).1 = .ok () ∧ (r.resolve (asking ctx T) s₂).1 = .ok () := by
    rw [resolve_ok_iff hsteady hswitched s s, resolve_ok_iff hsteady hswitched s s₁,
      resolve_ok_iff hsteady hswitched s s₂]
    simp only [mem_targets_union hS hT, or_imp, forall_and]
  refine ⟨hsucceeds, fun hok id a b ha hb => ?_, fun hok id a => ?_⟩
  · obtain ⟨hok₁, hok₂⟩ := hsucceeds.1 hok
    obtain ⟨-, hgives, -⟩ := (find?_resolved_asking hsteady hswitched s hok₁).1 ha
    obtain ⟨-, hgives', -⟩ := (find?_resolved_asking hsteady hswitched s hok₂).1 hb
    have hsame := Except.ok.inj (hgives.symm.trans hgives')
    exact Option.some.inj (PluginOutput.definition.inj hsame)
  · obtain ⟨hok₁, hok₂⟩ := hsucceeds.1 hok
    rw [find?_resolved_asking hsteady hswitched s hok,
      find?_resolved_asking hsteady hswitched s hok₁,
      find?_resolved_asking hsteady hswitched s hok₂, ← or_and_right]
    simp only [mem_targets_union hS hT, or_and_right, exists_or]

/-- Two resolutions that end alike and leave the same attributes. -/
def SameOutcome (x y : Except ResolutionError Unit × ResolutionContext × σ) : Prop :=
  x.1 = y.1 ∧ x.2.1.resolved = y.2.1.resolved

/-- What comes of a resolution hangs on its targets, in whatever world it takes place. -/
lemma sameOutcome_of_targets (hsteady : Steady r.plugins) (hswitched : Switched r.plugins)
    {S T : NameSet}
    (h : r.plugins.targets (asking ctx S).request = r.plugins.targets (asking ctx T).request)
    (s s' : σ) : SameOutcome (r.resolve (asking ctx S) s) (r.resolve (asking ctx T) s') := by
  have hresult : (r.resolve (asking ctx S) s).1 = (r.resolve (asking ctx T) s').1 := by
    rw [(resolve_follows_reference r hsteady (asking ctx S) s s).result,
      (resolve_follows_reference r hsteady (asking ctx T) s s').result, h,
      reference_asking hswitched, reference_asking hswitched]
  refine ⟨hresult, ?_⟩
  cases hok : (r.resolve (asking ctx S) s).1 with
  | error e =>
    rw [Failure.resolve_unchanged hok, Failure.resolve_unchanged (hresult.symm.trans hok)]
    rfl
  | ok u =>
    refine eq_of_find? fun id => Option.ext fun a => ?_
    rw [find?_resolved_asking hsteady hswitched s hok,
      find?_resolved_asking hsteady hswitched s (hresult.symm.trans hok), h]

lemma targets_empty : r.plugins.targets (asking ctx .empty).request =
    r.plugins.targets (asking ctx (.ofNames r.plugins.definitions.keys)).request := by
  obtain ⟨hsorted, hmem⟩ := targets_spec r.plugins (asking ctx .empty).request
  obtain ⟨hsorted', hmem'⟩ := targets_spec r.plugins
    (asking ctx (.ofNames r.plugins.definitions.keys)).request
  refine sorted_ext id hsorted hsorted' fun t => ?_
  rw [hmem, hmem']
  refine and_congr_right fun ht => iff_of_true (.inl rfl) (.inr ?_)
  exact contains_ofNames.2 ((SortedMap.mem_keys_iff _ _).2 ht)

/-- **What the names in a request do.** Names that are asked for together give together what they
give apart. Asking for no name is asking for every definition, and neither order nor repetition
of names is seen by anyone. -/
theorem resolve_by_names (r : Resolver σ) (hsteady : Steady r.plugins)
    (hswitched : Switched r.plugins) (ctx : ResolutionContext) :
    (∀ S T : NameSet, S.isEmpty = false → T.isEmpty = false → ∀ s s₁ s₂ : σ,
      Unites r ctx S T s s₁ s₂) ∧
    (∀ s s' : σ, SameOutcome (r.resolve (asking ctx .empty) s)
      (r.resolve (asking ctx (.ofNames r.plugins.definitions.keys)) s')) ∧
    ∀ l l' : List String, (∀ n, n ∈ l ↔ n ∈ l') →
      (∀ s : σ, r.resolve (asking ctx (.ofNames l)) s = r.resolve (asking ctx (.ofNames l')) s) ∧
      ∀ (service : ReleaseService σ) (q : ReleaseRequest) (s : σ),
        service.release { q with requested := l } s =
          service.release { q with requested := l' } s := by
  refine ⟨fun S T hS hT s s₁ s₂ => resolve_unites hsteady hswitched hS hT s s₁ s₂,
    sameOutcome_of_targets hsteady hswitched targets_empty, fun l l' h => ⟨fun s => ?_, ?_⟩⟩
  · rw [ofNames_eq h]
  · intro service q s
    have hrequest : ReleaseRequest.toRequest { q with requested := l } =
        ReleaseRequest.toRequest { q with requested := l' } := by
      simp only [ReleaseRequest.toRequest, ofNames_eq h]
    unfold ReleaseService.release
    rw [hrequest]
    rfl

/-- Names go to one recipient only. -/
def roster : ResolverDecl where
  connectors := [{
    id := "roster", source := .fixed [⟨"mail", ["ada@b.example"]⟩, ⟨"name", ["Ada"]⟩] }]
  definitions := [
    { id := "mail", dependencies := [⟨"roster", some "mail"⟩], kind := .simple },
    { id := "name", dependencies := [⟨"roster", some "name"⟩]
      activation := some { recipients := ["https://sp.example"] }, kind := .simple }]

def listed : Resolver ℕ := (roster.build {}).toOption.get rfl

def visit : ResolutionContext := { request := { recipient := some "https://sp.example" } }

theorem listed_by_names : Steady listed.plugins ∧ Switched listed.plugins ∧
    Unites listed visit (.ofNames ["mail"]) (.ofNames ["name", "phone"]) 0 1 2 ∧
    (listed.resolve (asking visit (.ofNames ["mail"])) 1).2.1.resolved.keys = ["mail"] ∧
    (listed.resolve (asking visit .empty) 0).2.1.resolved.keys = ["mail", "name"] := by
  have hbuild : roster.build ({} : Backends ℕ) = .ok listed := rfl
  have hswitched := build_switched hbuild
  have hsteady : Steady listed.plugins := by
    intro p hp
    cases p with
    | connector c =>
      have hc : c ∈ listed.plugins.connectors.values := connector_mem_together.1 hp
      obtain rfl := List.mem_singleton.1 hc
      trivial
    | definition d =>
      have hd : d ∈ listed.plugins.definitions.values := definition_mem_together.1 hp
      obtain rfl | hd := List.mem_cons.1 hd
      · trivial
      · obtain rfl := List.mem_singleton.1 hd
        trivial
  exact ⟨hsteady, hswitched,
    (resolve_by_names listed hsteady hswitched visit).1 _ _ rfl rfl 0 1 2, rfl, rfl⟩

end AttributeRelease.Proofs.Requested
