import AttributeRelease.Proofs.Policy.Exact

/-!
Filters that say the same in another order.

An attribute is settled by what some rule says and what no rule says, so neither the order of the
policies nor that of the rules in them nor that of the matchers on their sides can matter to it.
Order shows only where a report goes through policies and rules one by one.
-/

namespace AttributeRelease.Proofs.Reordering

open AttributeRelease.Proofs.Built AttributeRelease.Proofs.Exact AttributeRelease.Proofs.Maps
open AttributeRelease.Proofs.Outcomes AttributeRelease.Proofs.Release
open AttributeRelease.Proofs.Verdicts

section

variable {α β : Type} {R : α → α → Prop} {l l' : List α}

/-- The same list in another order, but for what is related. -/
def Rearranged (R : α → α → Prop) (l l' : List α) : Prop :=
  ∃ m, l.Perm m ∧ List.Forall₂ R m l'

lemma Rearranged.symm (hR : ∀ a a', R a a' → R a' a) (h : Rearranged R l l') :
    Rearranged R l' l := by
  obtain ⟨m, hperm, hall⟩ := h
  have hback : List.Forall₂ R l' m := hall.flip.imp fun a a' h => hR a' a h
  -- the order of the two steps is turned round
  have hcomp := List.forall₂_comp_perm_eq_perm_comp_forall₂ (r := R)
  have hleft : Relation.Comp (List.Forall₂ R) List.Perm l' l := ⟨m, hback, hperm.symm⟩
  rw [hcomp] at hleft
  exact hleft

lemma Rearranged.exists_of_mem (h : Rearranged R l l') {a : α} (ha : a ∈ l) :
    ∃ a' ∈ l', R a a' := by
  obtain ⟨m, hperm, hall⟩ := h
  have ham : a ∈ m := hperm.mem_iff.1 ha
  clear hperm ha
  induction hall with
  | nil => cases ham
  | cons hx _ ih =>
    rcases List.mem_cons.1 ham with rfl | ham
    · exact ⟨_, by simp, hx⟩
    · obtain ⟨a', ha', hr⟩ := ih ham
      exact ⟨a', by simp [ha'], hr⟩

lemma Rearranged.flatMap_perm {g : α → List β} (hg : ∀ a a', R a a' → (g a).Perm (g a'))
    (h : Rearranged R l l') : (l.flatMap g).Perm (l'.flatMap g) := by
  obtain ⟨m, hperm, hall⟩ := h
  refine (hperm.flatMap_right g).trans ?_
  clear hperm
  induction hall with
  | nil => exact .refl _
  | cons hx _ ih =>
    rw [List.flatMap_cons, List.flatMap_cons]
    exact (hg _ _ hx).append ih

lemma Rearranged.map_perm {g : α → β} (hg : ∀ a a', R a a' → g a = g a')
    (h : Rearranged R l l') : (l.map g).Perm (l'.map g) := by
  rw [List.map_eq_flatMap, List.map_eq_flatMap]
  exact h.flatMap_perm fun a a' hr => .of_eq (by rw [hg a a' hr])

end

structure RuleReordered (r r' : AttributeRule) : Prop where
  attributeId : r.attributeId = r'.attributeId
  permit : r.permit.Perm r'.permit
  deny : r.deny.Perm r'.deny

structure PolicyReordered (p p' : FilterPolicy) : Prop where
  id : p.id = p'.id
  requirement : p.requirement = p'.requirement
  rules : Rearranged RuleReordered p.rules p'.rules

lemma RuleReordered.symm {r r' : AttributeRule} (h : RuleReordered r r') : RuleReordered r' r :=
  ⟨h.attributeId.symm, h.permit.symm, h.deny.symm⟩

lemma PolicyReordered.symm {p p' : FilterPolicy} (h : PolicyReordered p p') :
    PolicyReordered p' p :=
  ⟨h.id.symm, h.requirement.symm, h.rules.symm fun _ _ => RuleReordered.symm⟩

/-- The same policies, rules and matchers in both filters, each in some order. -/
def Reordered (ps ps' : List FilterPolicy) : Prop := Rearranged PolicyReordered ps ps'

lemma Reordered.symm {ps ps' : List FilterPolicy} (h : Reordered ps ps') : Reordered ps' ps :=
  Rearranged.symm (fun _ _ => PolicyReordered.symm) h

/-- Which outcomes there are makes a disjunction. -/
lemma any_perm {l l' : List Tristate} (h : l.Perm l') : Tristate.any l = Tristate.any l' := by
  exact any_congr h.mem_iff fun _ => h.mem_iff

section

variable {r r' : AttributeRule} (h : RuleReordered r r') (c : FilterContext) (v : AttributeValue)

include h

lemma permits_eq : r.permits c v = r'.permits c v := by
  unfold AttributeRule.permits
  rw [h.attributeId]
  exact any_perm (h.permit.map _)

lemma denies_eq : r.denies c v = r'.denies c v := by
  unfold AttributeRule.denies
  rw [h.attributeId]
  exact any_perm (h.deny.map _)

lemma ruling_eq : r.ruling c v = r'.ruling c v := by
  unfold AttributeRule.ruling
  rw [permits_eq h, denies_eq h, h.permit.isEmpty_eq, h.deny.isEmpty_eq]

lemma failuresOf_eq (policy : String) : failuresOf c (policy, r) = failuresOf c (policy, r') := by
  unfold failuresOf
  simp only [h.attributeId, ruling_eq h]

lemma rule_check_of (policy : String) (hr : r.check policy = .ok ()) :
    r'.check policy = .ok () := by
  rw [rule_check_eq_ok_iff] at hr ⊢
  obtain ⟨hblank, hempty, hpermit, hdeny⟩ := hr
  rw [← h.attributeId, ← h.permit.isEmpty_eq, ← h.deny.isEmpty_eq]
  refine ⟨hblank, hempty, fun t ht => ?_, fun t ht => ?_⟩
  · exact hpermit t (h.permit.mem_iff.2 ht)
  · exact hdeny t (h.deny.mem_iff.2 ht)

end

lemma policy_check_of {p p' : FilterPolicy} (h : PolicyReordered p p') (hp : p.check = .ok ()) :
    p'.check = .ok () := by
  rw [policy_check_eq_ok_iff] at hp ⊢
  rw [← h.requirement, ← h.id]
  refine ⟨hp.1, fun r' hr' => ?_⟩
  obtain ⟨r, hr, hrr'⟩ := (h.rules.symm fun _ _ => RuleReordered.symm).exists_of_mem hr'
  exact rule_check_of hrr'.symm p.id (hp.2 r hr)

/-- What makes a filter makes one in any order. -/
lemma build_of_reordered {id : String} (id' : String) {ps ps' : List FilterPolicy}
    {f : AttributeFilter} (h : Reordered ps ps') (hf : AttributeFilter.build id ps = .ok f) :
    AttributeFilter.build id' ps' = .ok ⟨id', ps'⟩ := by
  obtain ⟨-, hids, hchecks⟩ := build_eq_ok_iff.1 hf
  have hperm : (ps.map (·.id)).Perm (ps'.map (·.id)) := h.map_perm fun p p' hp => hp.id
  refine build_eq_ok_iff.2 ⟨rfl, hperm.nodup_iff.1 hids, fun p' hp' => ?_⟩
  obtain ⟨p, hp, hpp'⟩ := h.symm.exists_of_mem hp'
  exact policy_check_of hpp'.symm (hchecks p hp)

/-! ### Filtering -/

variable {f f' : AttributeFilter} (c : FilterContext)

/-- Each rule that applies is there in the other filter and applies as well. -/
lemma exists_applies (h : Reordered f.policies f'.policies) {k : String} {r : AttributeRule}
    (hr : Applies f c k r) : ∃ r', Applies f' c k r' ∧ RuleReordered r r' := by
  obtain ⟨p, hp, hreq, hmem, hk⟩ := hr
  obtain ⟨p', hp', hpp'⟩ := h.exists_of_mem hp
  obtain ⟨r', hr', hrr'⟩ := hpp'.rules.exists_of_mem hmem
  exact ⟨r', ⟨p', hp', hpp'.requirement ▸ hreq, hr', hrr'.attributeId ▸ hk⟩, hrr'⟩

lemma permitted_of_reordered (h : Reordered f.policies f'.policies) {k : String}
    {v : AttributeValue}
    (hv : (verdict c (rulesFor k (applicable f c)) v).permitted = true) :
    (verdict c (rulesFor k (applicable f' c)) v).permitted = true := by
  rw [verdict_permitted] at hv ⊢
  obtain ⟨r, hr, hyes⟩ := hv
  obtain ⟨r', hr', hrr'⟩ := exists_applies c h (mem_rulesFor_iff.1 hr)
  exact ⟨r', mem_rulesFor_iff.2 hr', permits_eq hrr' c v ▸ hyes⟩

lemma denied_of_reordered (h : Reordered f.policies f'.policies) {k : String}
    {v : AttributeValue}
    (hv : (verdict c (rulesFor k (applicable f c)) v).denied = true) :
    (verdict c (rulesFor k (applicable f' c)) v).denied = true := by
  rw [verdict_denied] at hv ⊢
  obtain ⟨r, hr, -, hdeny⟩ := hv
  obtain ⟨r', hr', hrr'⟩ := exists_applies c h (mem_rulesFor_iff.1 hr)
  rw [denies_eq hrr'] at hdeny
  exact ⟨r', mem_rulesFor_iff.2 hr', deny_ne_nil hdeny, hdeny⟩

lemma verdict_ext {m m' : Verdict} (hpermitted : m.permitted = m'.permitted)
    (hdenied : m.denied = m'.denied) : m = m' := by
  obtain ⟨_, _⟩ := m
  obtain ⟨rfl, rfl⟩ := And.intro hpermitted hdenied
  rfl

/-- The mark of a value does not tell in which order it was made. -/
lemma verdict_eq (h : Reordered f.policies f'.policies) (k : String) :
    verdict c (rulesFor k (applicable f c)) = verdict c (rulesFor k (applicable f' c)) := by
  funext v
  refine verdict_ext (Bool.eq_iff_iff.2 ⟨?_, ?_⟩) (Bool.eq_iff_iff.2 ⟨?_, ?_⟩)
  · exact permitted_of_reordered c h
  · exact permitted_of_reordered c h.symm
  · exact denied_of_reordered c h
  · exact denied_of_reordered c h.symm

/-- All attributes are settled alike. -/
lemma settled_eq (h : Reordered f.policies f'.policies) :
    c.unfiltered.map (f.tally c).settle = c.unfiltered.map (f'.tally c).settle := by
  refine eq_of_find? fun k => ?_
  rw [SortedMap.find?_map, SortedMap.find?_map]
  cases ha : c.unfiltered.find? k with
  | none => rfl
  | some a =>
    have hverdict := verdict_eq c h k
    have hfst : ((f.tally c).settle k a).1 = ((f'.tally c).settle k a).1 := by
      rw [tally_eq, tally_eq, settle_fst c _ ha, settle_fst c _ ha, hverdict]
    have hsnd : ((f.tally c).settle k a).2 = ((f'.tally c).settle k a).2 := by
      rw [settle_snd f c ha, settle_snd f' c ha]
      unfold contested
      rw [hverdict]
    exact congrArg some (Prod.ext hfst hsnd)

lemma valueFailures_perm (h : Reordered f.policies f'.policies) :
    (f.run c).1.valueFailures.Perm (f'.run c).1.valueFailures := by
  rw [valueFailures_eq, valueFailures_eq]
  refine h.flatMap_perm fun p p' hpp' => ?_
  rw [hpp'.requirement, hpp'.id]
  split
  · exact hpp'.rules.flatMap_perm fun r r' hrr' => .of_eq (failuresOf_eq hrr' c p'.id)
  · exact .refl _

/-- Two filters do the same in a context, and report it in some order. -/
structure Concur (f f' : AttributeFilter) (c : FilterContext) : Prop where
  context : (f.run c).2 = (f'.run c).2
  released : (f.run c).1.released = (f'.run c).1.released
  removed : (f.run c).1.removed = (f'.run c).1.removed
  deniedValues : (f.run c).1.deniedValues = (f'.run c).1.deniedValues
  policies : (f.run c).1.policies.Perm (f'.run c).1.policies
  valueFailures : (f.run c).1.valueFailures.Perm (f'.run c).1.valueFailures

lemma concur_of_reordered (h : Reordered f.policies f'.policies) : Concur f f' c := by
  have hsettled := settled_eq c h
  refine ⟨?_, ?_, ?_, ?_, h.map_perm fun p p' hp => ?_, valueFailures_perm c h⟩
  · simp only [AttributeFilter.run, hsettled]
  · simp only [AttributeFilter.run, hsettled]
  · simp only [AttributeFilter.run, hsettled]
  · simp only [AttributeFilter.run, hsettled]
  · rw [hp.id, hp.requirement]

/-- **Order does not matter to a filter**, neither that of its policies nor that of the rules in
them nor that of the matchers on their sides. -/
theorem build_reordered {id : String} (id' : String) {ps ps' : List FilterPolicy}
    {f : AttributeFilter} (hf : AttributeFilter.build id ps = .ok f) (h : Reordered ps ps') :
    ∃ f', AttributeFilter.build id' ps' = .ok f' ∧ ∀ c, Concur f f' c := by
  obtain ⟨rfl, -⟩ := build_eq_ok_iff.1 hf
  exact ⟨⟨id', ps'⟩, build_of_reordered id' h hf, fun c => concur_of_reordered c h⟩

def addresses : AttributeRule where
  attributeId := "mail"
  permit := [.leaf (.partyId .requester (.same "https://library.example")), .leaf .any]
  deny := [.leaf (.inEntityGroup .requester "https://blocked.example"),
    .leaf (.attributeValue none (.same "ada@private.example"))]

def names : AttributeRule where
  attributeId := "name"
  permit := [.leaf (.principal (.same "ada"))]

def guests : FilterPolicy where
  id := "guests"
  requirement := .not (.leaf (.principal (.same "ada")))
  rules := [names]

def forwards : List FilterPolicy :=
  [{ id := "staff", requirement := .leaf .any, rules := [names, addresses] }, guests]

/-- Policies, rules and matchers from the last to the first. -/
def backwards : List FilterPolicy :=
  [guests, {
    id := "staff", requirement := .leaf .any
    rules := [{
      addresses with permit := addresses.permit.reverse, deny := addresses.deny.reverse }, names] }]

def listed : AttributeFilter := (AttributeFilter.build "listed" forwards).toOption.get rfl

/-- It is not known who asks. -/
def someone : FilterContext where
  principal := some "ada"
  unfiltered := .ofList [
    ("mail", { id := "mail", values := [.string "ada@b.example", .string "ada@private.example"] }),
    ("name", { id := "name", values := [.string "Ada"] })]

lemma backwards_reordered : Reordered forwards backwards := by
  have hnames : RuleReordered names names := ⟨rfl, .refl _, .refl _⟩
  have haddresses : RuleReordered addresses
      { addresses with permit := addresses.permit.reverse, deny := addresses.deny.reverse } :=
    ⟨rfl, (List.reverse_perm _).symm, (List.reverse_perm _).symm⟩
  have hguests : PolicyReordered guests guests :=
    ⟨rfl, rfl, [names], .refl _, .cons hnames .nil⟩
  exact ⟨_, .swap _ _ _, .cons hguests (.cons
    ⟨rfl, rfl, _, .swap _ _ _, .cons haddresses (.cons hnames .nil)⟩ .nil)⟩

theorem listed_reordered : AttributeFilter.build "listed" forwards = .ok listed ∧
    Reordered forwards backwards ∧
    (∃ f', AttributeFilter.build "listed" backwards = .ok f' ∧ ∀ c, Concur listed f' c) ∧
    (listed.run someone).1.policies.map (·.policy) = ["staff", "guests"] ∧
    (listed.run someone).1.released = ["name"] ∧ (listed.run someone).1.removed = ["mail"] ∧
    (listed.run someone).1.valueFailures.length = 1 :=
  ⟨rfl, backwards_reordered, build_reordered "listed" rfl backwards_reordered, rfl, rfl, rfl, rfl⟩

end AttributeRelease.Proofs.Reordering
