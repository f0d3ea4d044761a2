import AttributeRelease.Proofs.Listing
import AttributeRelease.Proofs.Maps
import AttributeRelease.Proofs.Policy.Built
import AttributeRelease.Proofs.Policy.Release
import AttributeRelease.Proofs.Policy.Report

/-!
The report of a filter is exact.

What is reported is said about positions: of policies in a filter, of rules in a policy and of
values in an attribute. A failure is reported where a side of a rule fails for a value, whatever
other rules say about that value, and a denial is counted where a value is permitted as well.
-/

namespace AttributeRelease.Proofs.Exact

open AttributeRelease.Proofs.Listing AttributeRelease.Proofs.Maps AttributeRelease.Proofs.Outcomes
open AttributeRelease.Proofs.Release AttributeRelease.Proofs.Verdicts

inductive SideBefore : RuleSide → RuleSide → Prop
  | permit_deny : SideBefore .permit .deny

/-- Where something is asked: of which policy, by which rule, about which value, on which side. -/
abbrev Place := ℕ × ℕ × ℕ × RuleSide

def Before : Place → Place → Prop :=
  Prod.Lex (· < ·) (Prod.Lex (· < ·) (Prod.Lex (· < ·) SideBefore))

/-- A side of a rule fails for the value at a position under the key of the rule. -/
def RuleFails (c : FilterContext) (policy : String) (r : AttributeRule) :
    ℕ × RuleSide → ValueFailure → Prop :=
  fun (n, side) x => ∃ a, c.unfiltered.find? r.attributeId = some a ∧
    ∃ v, a.values[n]? = some v ∧ matchers r side ≠ [] ∧ Answers c v r side .fail ∧
      x = ⟨policy, r.attributeId, v, side⟩

/-- A rule fails that stands in a policy whose requirement is met. -/
def FailsAt (f : AttributeFilter) (c : FilterContext) : Place → ValueFailure → Prop :=
  fun (i, j, u) x => ∃ p, f.policies[i]? = some p ∧ p.requirement.ofRequest c = .yes ∧
    ∃ r, p.rules[j]? = some r ∧ RuleFails c p.id r u x

lemma ruling_permit_iff {c : FilterContext} {r : AttributeRule} {v : AttributeValue}
    {o : Tristate} : (r.ruling c v).permit = some o ↔ r.permit ≠ [] ∧ r.permits c v = o := by
  unfold AttributeRule.ruling
  cases h : r.permit with
  | nil => simp
  | cons t rest => simp

/-- The failures of a ruling, the permitting side before the denying one. -/
lemma ruling_lists (c : FilterContext) (policy : String) (r : AttributeRule)
    (v : AttributeValue) : Lists SideBefore
      (fun side x => matchers r side ≠ [] ∧ Answers c v r side .fail ∧
        x = ⟨policy, r.attributeId, v, side⟩)
      ((r.ruling c v).failures policy r.attributeId v) := by
  have hpermit := @ruling_permit_iff c r v .fail
  have hdeny := @ruling_deny c r v .fail
  refine ⟨(if (r.ruling c v).permit = some .fail then [.permit] else []) ++
    (if (r.ruling c v).deny = some .fail then [.deny] else []), ?_, fun side => ?_, ?_⟩
  · split <;> split <;> simp [SideBefore.permit_deny]
  · cases side with
    | permit => simp [matchers, hpermit]
    | deny => simp [matchers, hdeny]
  · unfold Ruling.failures
    split <;> split <;> simp_all [matchers]

/-- The failures that a rule leaves. -/
def failuresOf (c : FilterContext) (u : String × AttributeRule) : List ValueFailure :=
  match c.unfiltered.find? u.2.attributeId with
  | none => []
  | some a => a.values.flatMap fun v => (u.2.ruling c v).failures u.1 u.2.attributeId v

lemma failures_tallyOf (c : FilterContext) (l : List (String × AttributeRule)) :
    (tallyOf c l).failures = l.flatMap (failuresOf c) := by
  induction l using List.reverseRecOn with
  | nil => rfl
  | append_singleton l u ih =>
    rw [tallyOf_snoc, List.flatMap_append, List.flatMap_singleton, ← ih, Tally.applyRule,
      failuresOf]
    cases c.unfiltered.find? u.2.attributeId with
    | none => simp
    | some a => simp [List.flatMap_map]

/-- Failures are left policy by policy and rule by rule. -/
lemma valueFailures_eq (f : AttributeFilter) (c : FilterContext) :
    (f.run c).1.valueFailures = f.policies.flatMap fun p =>
      if p.requirement.ofRequest c = .yes then p.rules.flatMap fun r => failuresOf c (p.id, r)
      else [] := by
  show (f.tally c).failures = _
  rw [tally_eq, failures_tallyOf, applicable]
  induction f.policies with
  | nil => rfl
  | cons p rest ih =>
    rw [List.flatMap_cons, ← ih, List.filter_cons]
    by_cases h : p.requirement.ofRequest c = .yes
    · simp [h, List.flatMap_map]
    · simp [h]

lemma failuresOf_lists (c : FilterContext) (policy : String) (r : AttributeRule) :
    Lists (Prod.Lex (· < ·) SideBefore) (RuleFails c policy r) (failuresOf c (policy, r)) := by
  unfold failuresOf
  cases ha : c.unfiltered.find? r.attributeId with
  | none => exact lists_nil (by simp [RuleFails, ha])
  | some a =>
    refine (lists_flatMap a.values fun v _ => ruling_lists c policy r v).congr fun i x => ?_
    simp [RuleFails, ha]

lemma valueFailures_lists (f : AttributeFilter) (c : FilterContext) :
    Lists Before (FailsAt f c) (f.run c).1.valueFailures := by
  have hpolicy : ∀ p ∈ f.policies, Lists (Prod.Lex (· < ·) (Prod.Lex (· < ·) SideBefore))
      (fun (i : ℕ × ℕ × RuleSide) x => p.requirement.ofRequest c = .yes ∧
        ∃ r, p.rules[i.1]? = some r ∧ RuleFails c p.id r i.2 x)
      (if p.requirement.ofRequest c = .yes then p.rules.flatMap fun r => failuresOf c (p.id, r)
        else []) := by
    intro p _
    by_cases hp : p.requirement.ofRequest c = .yes
    · rw [if_pos hp]
      refine (lists_flatMap p.rules fun r _ => failuresOf_lists c p.id r).congr fun i x => ?_
      exact ⟨fun h => ⟨hp, h⟩, fun h => h.2⟩
    · rw [if_neg hp]
      exact lists_nil fun i x h => hp h.1
  rw [valueFailures_eq]
  exact lists_flatMap f.policies hpolicy

/-- The value at a position under a key is permitted by a rule and denied by a rule. -/
def DeniedAt (f : AttributeFilter) (c : FilterContext) (u : String × ℕ) : Prop :=
  ∃ a, c.unfiltered.find? u.1 = some a ∧ ∃ v, a.values[u.2]? = some v ∧
    (∃ r, Applies f c u.1 r ∧ Answers c v r .permit .yes) ∧
    ∃ r, Applies f c u.1 r ∧ (Answers c v r .deny .yes ∨ Answers c v r .deny .fail)

/-- The value is marked on both sides. -/
def contested (f : AttributeFilter) (c : FilterContext) (k : String) (v : AttributeValue) : Bool :=
  (verdict c (rulesFor k (applicable f c)) v).permitted &&
    (verdict c (rulesFor k (applicable f c)) v).denied

/-- An empty list of denials denies nothing and never fails. -/
lemma deny_ne_nil {r : AttributeRule} {c : FilterContext} {v : AttributeValue}
    (h : r.denies c v = .yes ∨ r.denies c v = .fail) : r.deny ≠ [] := by
  intro hnil
  simp [AttributeRule.denies, hnil, any_eq_yes_iff, any_eq_fail_iff] at h

lemma contested_iff {f : AttributeFilter} {c : FilterContext} {k : String} {v : AttributeValue} :
    contested f c k v = true ↔ (∃ r, Applies f c k r ∧ Answers c v r .permit .yes) ∧
      ∃ r, Applies f c k r ∧ (Answers c v r .deny .yes ∨ Answers c v r .deny .fail) := by
  rw [contested, Bool.and_eq_true, verdict_permitted, verdict_denied]
  simp only [mem_rulesFor_iff, answers_permit_iff, answers_deny_iff]
  exact and_congr_right fun _ => exists_congr fun r => and_congr_right fun _ =>
    ⟨fun h => h.2, fun h => ⟨deny_ne_nil h, h⟩⟩

lemma settle_snd (f : AttributeFilter) (c : FilterContext) {k : String} {a : Attribute}
    (ha : c.unfiltered.find? k = some a) :
    ((f.tally c).settle k a).2 = a.values.countP (contested f c k) := by
  have hm := marked_tallyOf c (applicable f c) k
  rw [ha, Option.bind_some] at hm
  unfold Tally.settle contested
  rw [tally_eq, hm]
  by_cases hnil : rulesFor k (applicable f c) = []
  · simp [hnil, verdict]
  · simp [hnil, List.countP_map, Function.comp_def]

lemma deniedValues_eq (f : AttributeFilter) (c : FilterContext) : (f.run c).1.deniedValues =
    (c.unfiltered.entries.map fun e => e.2.values.countP (contested f c e.1)).sum := by
  have hrow : ∀ e ∈ c.unfiltered.entries, ((f.tally c).settle e.1 e.2).2 =
      e.2.values.countP (contested f c e.1) := by
    intro e he
    exact settle_snd f c ((SortedMap.find?_eq_some_iff _ _ _).2 he)
  show List.foldl _ 0 (List.map _ (List.map _ _)) = _
  rw [List.map_map, ← List.map_congr_left hrow, List.sum_eq_foldl, List.foldl_map, List.foldl_map]
  rfl

/-- As many values are reported as denied as there are positions of such values. -/
lemma deniedValues_encard (f : AttributeFilter) (c : FilterContext) :
    {u | DeniedAt f c u}.encard = (f.run c).1.deniedValues := by
  have hkeys : ((c.unfiltered.entries.map fun e => (e.1, e.2.values)).map (·.1)).Nodup := by
    rw [List.map_map]
    exact keys_nodup c.unfiltered
  have hset : {u | DeniedAt f c u} = {u : String × ℕ | ∃ vs,
      (u.1, vs) ∈ (c.unfiltered.entries.map fun e => (e.1, e.2.values)) ∧
        ∃ v, vs[u.2]? = some v ∧ contested f c u.1 v = true} := by
    ext u
    simp only [Set.mem_ofPred_eq, DeniedAt, contested_iff, SortedMap.find?_eq_some_iff,
      List.mem_map, Prod.mk.injEq]
    constructor
    · rintro ⟨a, ha, hv⟩
      exact ⟨a.values, ⟨(u.1, a), ha, rfl, rfl⟩, hv⟩
    · rintro ⟨vs, ⟨⟨k, a⟩, ha, rfl, rfl⟩, hv⟩
      exact ⟨a, ha, hv⟩
  rw [hset, encard_places (contested f c) hkeys, deniedValues_eq, List.map_map]
  rfl

/-! ### Reports -/

/-- A report on some policies in a context: which of them apply, what became of each attribute, how
many values were permitted and denied at once, and which sides of rules failed. -/
structure Reports (ps : List FilterPolicy) (f : AttributeFilter) (c : FilterContext) : Prop where
  policies : (f.run c).1.policies = ps.map fun p => ⟨p.id, p.requirement.ofRequest c⟩
  once : ((f.run c).1.policies.map (·.policy)).Nodup
  released : (f.run c).1.released = (f.run c).2.filtered.keys
  released_sorted : (f.run c).1.released.Pairwise (· < ·)
  removed_sorted : (f.run c).1.removed.Pairwise (· < ·)
  disjoint : (f.run c).1.released.Disjoint (f.run c).1.removed
  attributes : ∀ k, k ∈ (f.run c).1.released ∨ k ∈ (f.run c).1.removed ↔
    c.unfiltered.contains k = true
  denied : {u | DeniedAt f c u}.encard = (f.run c).1.deniedValues
  failures : Lists Before (FailsAt f c) (f.run c).1.valueFailures

/-- **The report of a filter is exact**, whatever the filter and the attributes are. -/
theorem run_reports {id : String} {ps : List FilterPolicy} {f : AttributeFilter}
    (h : AttributeFilter.build id ps = .ok f) (c : FilterContext) : Reports ps f c := by
  obtain ⟨rfl, hnodup, -⟩ := Built.build_eq_ok_iff.1 h
  have hperm := Report.released_append_removed_perm ⟨id, ps⟩ c
  have hkeys := hperm.nodup_iff.2 (keys_nodup c.unfiltered)
  refine ⟨rfl, ?_, rfl, keys_sorted _, keys_sorted (SortedMap.filter _ _), ?_, fun k => ?_,
    deniedValues_encard _ c, valueFailures_lists _ c⟩
  · show (List.map _ (List.map _ ps)).Nodup
    rw [List.map_map]
    exact hnodup
  · exact List.disjoint_of_nodup_append hkeys
  · rw [← List.mem_append, hperm.mem_iff, SortedMap.mem_keys_iff]

/-- Everything goes to everyone but one requester. -/
def shunning : List FilterPolicy := [
  { id := "contact", requirement := .leaf .any
    rules := [{
      attributeId := "mail", permit := [.leaf .any]
      deny := [.leaf (.partyId .requester (.same "https://crawler.example"))] }] },
  { id := "guests", requirement := .leaf (.principal (.same "guest"))
    rules := [{ attributeId := "mail", permit := [.leaf .any] }] }]

def shunned : AttributeFilter := (AttributeFilter.build "shunned" shunning).toOption.get rfl

/-- Nothing is known of who asks. -/
def unasked : FilterContext where
  principal := some "ada"
  unfiltered := .ofList [("mail", {
    id := "mail", values := [.string "ada@b.example", .string "ada@c.example"] })]

theorem shunned_reports : AttributeFilter.build "shunned" shunning = .ok shunned ∧
    Reports shunning shunned unasked ∧ (shunned.run unasked).1.removed = ["mail"] ∧
    (shunned.run unasked).1.deniedValues = 2 ∧
    (shunned.run unasked).1.valueFailures.map (·.side) = [.deny, .deny] :=
  ⟨rfl, run_reports rfl unasked, rfl, rfl, rfl⟩

end AttributeRelease.Proofs.Exact
