import AttributeRelease.Policy.Filter
import AttributeRelease.Proofs.Checks

/-!
Which policies make a filter.
-/

namespace AttributeRelease.Proofs.Built

open AttributeRelease.Proofs.Checks

lemma checkList_eq_ok_iff {policy : String} {place : RulePlace} {ts : List MatchRule} :
    MatchRule.checkList policy place ts = .ok () ↔ ∀ t ∈ ts, t.check policy place = .ok () := by
  induction ts with
  | nil => simp [MatchRule.checkList]
  | cons t ts ih =>
    unfold MatchRule.checkList
    rw [andThen_eq_ok_iff, ih, List.forall_mem_cons]

/-- A rule has a key and something to say about the values there. -/
lemma rule_check_eq_ok_iff {policy : String} {r : AttributeRule} :
    r.check policy = .ok () ↔ Text.isBlank r.attributeId = false ∧
      ¬ (r.permit.isEmpty ∧ r.deny.isEmpty) ∧
      (∀ t ∈ r.permit, t.check policy (.permit r.attributeId) = .ok ()) ∧
      ∀ t ∈ r.deny, t.check policy (.deny r.attributeId) = .ok () := by
  unfold AttributeRule.check
  by_cases hblank : Text.isBlank r.attributeId = true
  · simp [hblank, throw, throwThe, MonadExceptOf.throw, bind, Except.bind]
  · rw [if_neg hblank]
    by_cases hempty : r.permit.isEmpty ∧ r.deny.isEmpty
    · simp [hempty, throw, throwThe, MonadExceptOf.throw, bind, Except.bind]
    · rw [if_neg hempty, ← checkList_eq_ok_iff, ← checkList_eq_ok_iff, ← andThen_eq_ok_iff]
      exact ⟨fun h => ⟨Bool.eq_false_iff.2 hblank, hempty, h⟩, fun h => h.2.2⟩

/-- A policy is checked in its requirement and rule by rule. -/
lemma policy_check_eq_ok_iff {p : FilterPolicy} : p.check = .ok () ↔
    p.requirement.check p.id .requirement = .ok () ∧ ∀ r ∈ p.rules, r.check p.id = .ok () := by
  rw [FilterPolicy.check, andThen_eq_ok_iff, forM_eq_ok_iff]

lemma checkPolicies_eq_ok_iff {seen : List String} {ps : List FilterPolicy} :
    AttributeFilter.checkPolicies seen ps = .ok () ↔
      (∀ p ∈ ps, p.id ∉ seen) ∧ (ps.map (·.id)).Nodup ∧ ∀ p ∈ ps, p.check = .ok () := by
  induction ps generalizing seen with
  | nil => simp [AttributeFilter.checkPolicies]
  | cons p ps ih =>
    unfold AttributeFilter.checkPolicies
    by_cases hp : p.id ∈ seen
    · have hcontains : seen.contains p.id = true := List.contains_iff_mem.2 hp
      rw [if_pos hcontains]
      refine iff_of_false nofun fun h => h.1 p (by simp) hp
    · have hcontains : ¬ seen.contains p.id = true := fun h => hp (List.contains_iff_mem.1 h)
      rw [if_neg hcontains]
      show (p.check >>= fun _ => AttributeFilter.checkPolicies (p.id :: seen) ps) = .ok () ↔ _
      rw [andThen_eq_ok_iff, ih]
      simp only [List.mem_cons, not_or, List.map_cons, List.nodup_cons, List.mem_map]
      grind

/-- A filter holds the policies that it was built of, and no id among them comes twice. -/
lemma build_eq_ok_iff {id : String} {ps : List FilterPolicy} {f : AttributeFilter} :
    AttributeFilter.build id ps = .ok f ↔
      f = ⟨id, ps⟩ ∧ (ps.map (·.id)).Nodup ∧ ∀ p ∈ ps, p.check = .ok () := by
  have hcheck := @checkPolicies_eq_ok_iff [] ps
  rw [AttributeFilter.build, bind_eq_ok_iff]
  constructor
  · rintro ⟨_, hps, h⟩
    exact ⟨(Except.ok.inj h).symm, (hcheck.1 hps).2⟩
  · rintro ⟨rfl, hps⟩
    exact ⟨(), hcheck.2 ⟨by simp, hps⟩, rfl⟩

end AttributeRelease.Proofs.Built
