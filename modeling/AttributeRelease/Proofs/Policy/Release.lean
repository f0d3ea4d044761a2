import AttributeRelease.Proofs.Policy.Verdicts

/-!
What a filter releases, said without the pass.

A value goes out if some rule for its key permits it and no rule for its key, having something to
say about denial, denies it or fails to decide. All that the pass keeps in between is gone in the
end: the result is settled position by position, and nothing left over from earlier passes counts.
-/

namespace AttributeRelease.Proofs.Release

open AttributeRelease.Proofs.Outcomes AttributeRelease.Proofs.Verdicts

/-- A rule for a key, of a policy whose requirement is met. -/
def Applies (f : AttributeFilter) (c : FilterContext) (k : String) (r : AttributeRule) : Prop :=
  ∃ p ∈ f.policies, p.requirement.ofRequest c = .yes ∧ r ∈ p.rules ∧ r.attributeId = k

/-- The matchers on a side of a rule. -/
def matchers (r : AttributeRule) : RuleSide → List MatchRule
  | .permit => r.permit
  | .deny => r.deny

/-- What a side of a rule comes out as for a value, by the table of disjunctions. -/
def Answers (c : FilterContext) (v : AttributeValue) (r : AttributeRule) (side : RuleSide)
    (o : Tristate) : Prop :=
  IsDisjunction ((matchers r side).map fun t => t.ofValue c r.attributeId v) o

/-- What policies say about a value under a key. -/
structure Releases (f : AttributeFilter) (c : FilterContext) (k : String) (v : AttributeValue) :
    Prop where
  permitted : ∃ r, Applies f c k r ∧ Answers c v r .permit .yes
  not_denied : ∀ r, Applies f c k r → r.deny ≠ [] →
    ¬ Answers c v r .deny .yes ∧ ¬ Answers c v r .deny .fail

/-- The value at a position of an attribute goes out. -/
def Survives (f : AttributeFilter) (c : FilterContext) (k : String) (a : Attribute) (i : ℕ) :
    Prop :=
  ∃ v, a.values[i]? = some v ∧ Releases f c k v

open Classical in
/-- An attribute with the values at some positions only. -/
noncomputable def keepAt (a : Attribute) (p : ℕ → Prop) : Attribute :=
  { a with values := (a.values.zipIdx.filter fun u => p u.2).map (·.1) }

@[simp] lemma answers_permit_iff {c : FilterContext} {v : AttributeValue} {r : AttributeRule}
    {o : Tristate} : Answers c v r .permit o ↔ r.permits c v = o := isDisjunction_iff

@[simp] lemma answers_deny_iff {c : FilterContext} {v : AttributeValue} {r : AttributeRule}
    {o : Tristate} : Answers c v r .deny o ↔ r.denies c v = o := isDisjunction_iff

lemma mem_rulesFor_iff {f : AttributeFilter} {c : FilterContext} {k : String}
    {r : AttributeRule} : r ∈ rulesFor k (applicable f c) ↔ Applies f c k r := by
  simp only [rulesFor, applicable, Applies, List.mem_filter, List.mem_map, List.mem_flatMap,
    decide_eq_true_eq]
  constructor
  · rintro ⟨⟨_, ⟨p, ⟨hp, hreq⟩, r', hr', rfl⟩, rfl⟩, hk⟩
    exact ⟨p, hp, hreq, hr', hk⟩
  · rintro ⟨p, hp, hreq, hr, hk⟩
    exact ⟨⟨(p.id, r), ⟨p, ⟨hp, hreq⟩, r, hr, rfl⟩, rfl⟩, hk⟩

lemma survives_iff {f : AttributeFilter} {c : FilterContext} {k : String} {v : AttributeValue} :
    (verdict c (rulesFor k (applicable f c)) v).survives = true ↔ Releases f c k v := by
  rw [Verdict.survives, Bool.and_eq_true, Bool.not_eq_true', verdict_permitted,
    ← Bool.not_eq_true, verdict_denied]
  simp only [mem_rulesFor_iff, not_exists, not_and, not_or]
  constructor
  · rintro ⟨hpermit, hdeny⟩
    exact ⟨by simpa using hpermit, by simpa using hdeny⟩
  · rintro ⟨hpermit, hdeny⟩
    exact ⟨by simpa using hpermit, by simpa using hdeny⟩

lemma zipIdx_filter_map {vs : List AttributeValue} {p : ℕ → Bool} {q : AttributeValue → Bool}
    {n : ℕ} (h : ∀ i v, vs[i]? = some v → p (n + i) = q v) :
    ((vs.zipIdx n).filter fun u => p u.2).map (·.1) = vs.filter q := by
  induction vs generalizing n with
  | nil => rfl
  | cons v vs ih =>
    have h0 : p n = q v := h 0 v rfl
    have ih' := ih (n := n + 1) fun i w hw => by
      rw [Nat.add_right_comm]; exact h (i + 1) w hw
    rw [List.zipIdx_cons, List.filter_cons, List.filter_cons, h0, ← ih']
    split <;> rfl

/-- Keeping the positions that survive is keeping the values that are released. -/
lemma keepAt_survives (f : AttributeFilter) (c : FilterContext) (k : String) (a : Attribute) :
    keepAt a (Survives f c k a) = { a with values := a.values.filter fun v =>
      (verdict c (rulesFor k (applicable f c)) v).survives } := by
  classical
  have hpos : ∀ i v, a.values[i]? = some v → (decide (Survives f c k a (0 + i)) =
      (verdict c (rulesFor k (applicable f c)) v).survives) := by
    intro i v hv
    have hS : Survives f c k a i ↔ Releases f c k v := by simp [Survives, hv]
    rw [Nat.zero_add, Bool.eq_iff_iff, decide_eq_true_eq, survives_iff, hS]
  rw [keepAt, zipIdx_filter_map (p := fun i => decide (Survives f c k a i)) hpos]

lemma keepAt_isEmpty_iff (f : AttributeFilter) (c : FilterContext) (k : String) (a : Attribute) :
    (keepAt a (Survives f c k a)).isEmpty = true ↔ ¬ ∃ i, Survives f c k a i := by
  rw [keepAt_survives, Attribute.isEmpty, List.isEmpty_iff, List.filter_eq_nil_iff]
  simp only [survives_iff, Survives, List.mem_iff_getElem?]
  grind

/-! ### The pass -/

lemma find?_filtered (f : AttributeFilter) (c : FilterContext) (k : String) :
    (f.run c).2.filtered.find? k = (c.unfiltered.find? k).bind fun a =>
      if (keepAt a (Survives f c k a)).isEmpty then none
      else some (keepAt a (Survives f c k a)) := by
  show ((c.unfiltered.map (f.tally c).settle).filterMap _).find? k = _
  rw [SortedMap.find?_filterMap, SortedMap.find?_map, tally_eq]
  cases ha : c.unfiltered.find? k with
  | none => rfl
  | some a => simp only [Option.map_some, Option.bind_some, keepAt_survives, settle_fst c _ ha]

/-- Nothing that a rule looks at was filtered before, so both passes are the same by computation. -/
lemma run_setFiltered (f : AttributeFilter) (c : FilterContext) (m : AttributeMap) :
    f.run { c with filtered := m } = f.run c := rfl

/-- **What a filter releases.** An attribute comes out under the key that it went in under, if a
position of it survives, and comes out with the surviving positions in order and otherwise as it
was. The rest of the context stays, and what an earlier pass left in it makes no difference. -/
theorem run_releases (f : AttributeFilter) (c : FilterContext) :
    (∀ k b, (f.run c).2.filtered.find? k = some b ↔
      ∃ a, c.unfiltered.find? k = some a ∧ (∃ i, Survives f c k a i) ∧
        b = keepAt a (Survives f c k a)) ∧
    (f.run c).2 = { c with filtered := (f.run c).2.filtered } ∧
    ∀ m, f.run { c with filtered := m } = f.run c := by
  refine ⟨fun k b => ?_, rfl, run_setFiltered f c⟩
  rw [find?_filtered]
  cases ha : c.unfiltered.find? k with
  | none => simp
  | some a =>
    by_cases hS : ∃ i, Survives f c k a i
    · have hne : ¬ (keepAt a (Survives f c k a)).isEmpty = true := fun he =>
        (keepAt_isEmpty_iff f c k a).1 he hS
      rw [Option.bind_some, if_neg hne]
      constructor
      · intro h
        exact ⟨a, rfl, hS, (Option.some.inj h).symm⟩
      · rintro ⟨a', ha', -, rfl⟩
        rw [Option.some.inj ha']
    · have he := (keepAt_isEmpty_iff f c k a).2 hS
      simp [hS, he]

end AttributeRelease.Proofs.Release
