import AttributeRelease.Policy.Filter
import AttributeRelease.Proofs.Policy.Outcomes
import Mathlib.Data.List.Induction

/-!
What the tally of a filter has marked, after any number of rules.

The rules that apply form one list, and the tally is a fold over it. After each of them the marks
under a key are those of the rules for that key alone, one for every value in order, so that a mark
never moves to another value.
-/

namespace AttributeRelease.Proofs.Verdicts

open AttributeRelease.Proofs.Outcomes

/-- The rules whose policies apply in a context, in order, each with the id of its policy. -/
def applicable (f : AttributeFilter) (c : FilterContext) : List (String × AttributeRule) :=
  (f.policies.filter fun p => p.requirement.ofRequest c = .yes).flatMap fun p =>
    p.rules.map (p.id, ·)

/-- The tally after a list of rules. -/
def tallyOf (c : FilterContext) (l : List (String × AttributeRule)) : Tally :=
  l.foldl (fun t u => t.applyRule c u.1 u.2) {}

lemma tallyOf_snoc (c : FilterContext) (l : List (String × AttributeRule))
    (u : String × AttributeRule) : tallyOf c (l ++ [u]) = (tallyOf c l).applyRule c u.1 u.2 := by
  simp [tallyOf]

/-- Going through policies and their rules is going through the applicable rules. -/
lemma tally_eq (f : AttributeFilter) (c : FilterContext) :
    f.tally c = tallyOf c (applicable f c) := by
  unfold AttributeFilter.tally tallyOf applicable
  generalize ({} : Tally) = t
  induction f.policies generalizing t with
  | nil => rfl
  | cons p rest ih =>
    rw [List.foldl_cons, ih, Tally.applyPolicy]
    by_cases h : p.requirement.ofRequest c = .yes
    · simp [h, List.foldl_map]
    · simp [h]

/-- The rules for a key among some rules. -/
def rulesFor (k : String) (l : List (String × AttributeRule)) : List AttributeRule :=
  (l.map (·.2)).filter (·.attributeId = k)

lemma rulesFor_snoc_self (l : List (String × AttributeRule)) (u : String × AttributeRule) :
    rulesFor u.2.attributeId (l ++ [u]) = rulesFor u.2.attributeId l ++ [u.2] := by
  simp [rulesFor]

lemma rulesFor_snoc_ne {k : String} {u : String × AttributeRule} (h : k ≠ u.2.attributeId)
    (l : List (String × AttributeRule)) : rulesFor k (l ++ [u]) = rulesFor k l := by
  simp [rulesFor, Ne.symm h]

/-- The mark that some rules leave on a value. -/
def verdict (c : FilterContext) (rules : List AttributeRule) (v : AttributeValue) : Verdict :=
  rules.foldl (fun m r => (r.ruling c v).mark m) {}

/-- The marks are those of the rules gone through so far: none under a key that no rule has named,
otherwise one for every value stored there. -/
def Marked (c : FilterContext) (l : List (String × AttributeRule)) (t : Tally) : Prop :=
  ∀ k, t.verdicts.find? k = (c.unfiltered.find? k).bind fun a =>
    if rulesFor k l = [] then none else some (a.values.map (verdict c (rulesFor k l)))

lemma marked_nil (c : FilterContext) : Marked c [] {} := by
  intro k
  cases c.unfiltered.find? k with
  | none => rfl
  | some a => simp [rulesFor, SortedMap.find?_empty]

lemma mark_again (c : FilterContext) (rules : List AttributeRule) (r : AttributeRule)
    (vs : List AttributeValue) :
    (vs.map fun v => (v, r.ruling c v)).zipWith (fun u m => u.2.mark m)
        (vs.map (verdict c rules)) =
      vs.map (verdict c (rules ++ [r])) := by
  induction vs with
  | nil => rfl
  | cons v vs ih => simp [verdict, ← ih]

lemma marked_step {c : FilterContext} {l : List (String × AttributeRule)} {t : Tally}
    (h : Marked c l t) (u : String × AttributeRule) :
    Marked c (l ++ [u]) (t.applyRule c u.1 u.2) := by
  intro k
  rw [Tally.applyRule]
  by_cases hk : k = u.2.attributeId
  · subst hk
    have hu := h u.2.attributeId
    rw [rulesFor_snoc_self]
    cases ha : c.unfiltered.find? u.2.attributeId with
    | none => simpa [ha] using hu
    | some a =>
      rw [ha, Option.bind_some] at hu
      simp only [Option.bind_some, SortedMap.find?_insert_self, List.append_eq_nil_iff,
        List.cons_ne_nil, and_false, if_false, Option.some.injEq]
      -- a rule that is the first for its key starts from blank marks
      have hmarks : (t.verdicts.find? u.2.attributeId).getD (a.values.map fun _ => {}) =
          a.values.map (verdict c (rulesFor u.2.attributeId l)) := by
        rw [hu]
        split
        · next hnil => rw [hnil]; rfl
        · rfl
      rw [hmarks, mark_again]
  · rw [rulesFor_snoc_ne hk, ← h k]
    cases c.unfiltered.find? u.2.attributeId with
    | none => rfl
    | some a => exact SortedMap.find?_insert_ne _ hk _

/-- **The marks of a tally**, whatever rules it has gone through. -/
theorem marked_tallyOf (c : FilterContext) (l : List (String × AttributeRule)) :
    Marked c l (tallyOf c l) := by
  induction l using List.reverseRecOn with
  | nil => exact marked_nil c
  | append_singleton l u ih => rw [tallyOf_snoc]; exact marked_step ih u

lemma permitted_foldl (c : FilterContext) (rules : List AttributeRule) (v : AttributeValue)
    (m : Verdict) :
    (rules.foldl (fun m r => (r.ruling c v).mark m) m).permitted = true ↔
      m.permitted = true ∨ ∃ r ∈ rules, (r.ruling c v).permit = some .yes := by
  induction rules generalizing m with
  | nil => simp
  | cons r rest ih =>
    rw [List.foldl_cons, ih]
    simp [Ruling.mark, or_assoc]

lemma denied_foldl (c : FilterContext) (rules : List AttributeRule) (v : AttributeValue)
    (m : Verdict) :
    (rules.foldl (fun m r => (r.ruling c v).mark m) m).denied = true ↔
      m.denied = true ∨ ∃ r ∈ rules,
        (r.ruling c v).deny = some .yes ∨ (r.ruling c v).deny = some .fail := by
  induction rules generalizing m with
  | nil => simp
  | cons r rest ih =>
    rw [List.foldl_cons, ih]
    simp [Ruling.mark, or_assoc]

/-- An empty list of permissions permits nothing, so it needs no case of its own. -/
lemma ruling_permit {c : FilterContext} {r : AttributeRule} {v : AttributeValue} :
    (r.ruling c v).permit = some .yes ↔ r.permits c v = .yes := by
  unfold AttributeRule.ruling AttributeRule.permits
  cases h : r.permit with
  | nil => simp [any_eq_yes_iff]
  | cons t rest => simp

lemma ruling_deny {c : FilterContext} {r : AttributeRule} {v : AttributeValue} {o : Tristate} :
    (r.ruling c v).deny = some o ↔ r.deny ≠ [] ∧ r.denies c v = o := by
  unfold AttributeRule.ruling AttributeRule.denies
  cases h : r.deny with
  | nil => simp
  | cons t rest => simp

lemma verdict_permitted {c : FilterContext} {rules : List AttributeRule} {v : AttributeValue} :
    (verdict c rules v).permitted = true ↔ ∃ r ∈ rules, r.permits c v = .yes := by
  simp [verdict, permitted_foldl, ruling_permit]

lemma verdict_denied {c : FilterContext} {rules : List AttributeRule} {v : AttributeValue} :
    (verdict c rules v).denied = true ↔
      ∃ r ∈ rules, r.deny ≠ [] ∧ (r.denies c v = .yes ∨ r.denies c v = .fail) := by
  simp [verdict, denied_foldl, ruling_deny, ← and_or_left]

/-! ### Settling -/

lemma kept_eq_filter (vs : List AttributeValue) (mark : AttributeValue → Verdict) :
    ((vs.zip (vs.map mark)).filterMap fun u => if u.2.survives then some u.1 else none) =
      vs.filter fun v => (mark v).survives := by
  induction vs with
  | nil => rfl
  | cons v vs ih =>
    rw [List.map_cons, List.zip_cons_cons, List.filterMap_cons, List.filter_cons, ih]
    by_cases h : (mark v).survives = true <;> simp [h]

/-- An attribute is settled value by value. -/
lemma settle_fst (c : FilterContext) (l : List (String × AttributeRule)) {k : String}
    {a : Attribute} (ha : c.unfiltered.find? k = some a) :
    ((tallyOf c l).settle k a).1 =
      { a with values := a.values.filter fun v => (verdict c (rulesFor k l) v).survives } := by
  have hm := marked_tallyOf c l k
  rw [ha, Option.bind_some] at hm
  unfold Tally.settle
  rw [hm]
  by_cases hnil : rulesFor k l = []
  · simp [hnil, verdict, Verdict.survives]
  · simp only [hnil, if_false]
    rw [kept_eq_filter]

end AttributeRelease.Proofs.Verdicts
