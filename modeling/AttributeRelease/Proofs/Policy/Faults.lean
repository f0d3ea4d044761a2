import AttributeRelease.Declaration.Build
import AttributeRelease.Proofs.Checks

/-!
Which declared filters are refused, and for what.

The faults of a declaration are listed in the order in which it is written. Those of leaves, which
are patterns and groups, come to light while trees are built, and all trees are built before any
policy is checked. So the first fault of a leaf goes before every fault in how policies are put
together, wherever that is.
-/

namespace AttributeRelease.Proofs.Faults

open AttributeRelease.Proofs.Checks

mutual

/-- A tree and the trees within it, each before those within it. -/
def nodes : MatcherDecl → List MatcherDecl
  | .any => [.any]
  | .and rules => .and rules :: nodesAll rules
  | .or rules => .or rules :: nodesAll rules
  | .not rule => .not rule :: nodes rule
  | .test subject how => [.test subject how]
  | .inEntityGroup party group => [.inEntityGroup party group]

def nodesAll : List MatcherDecl → List MatcherDecl
  | [] => []
  | m :: rest => nodes m ++ nodesAll rest

end

/-- The trees of a rule, permissions before denials. -/
def ruleTrees (r : RuleDecl) : List MatcherDecl := r.permit ++ r.deny

def policyTrees (p : PolicyDecl) : List MatcherDecl := p.requirement :: p.rules.flatMap ruleTrees

/-- All nodes of all trees of a declaration, as it is written. -/
def allNodes (d : FilterDecl) : List MatcherDecl :=
  (d.policies.flatMap policyTrees).flatMap nodes

/-- What is wrong with a leaf by itself. -/
def leafFault? : MatcherDecl → Option FilterError
  | .test _ (.regex pattern caseSensitive) =>
    match ValuePattern.ofText pattern caseSensitive with
    | .ok _ => none
    | .error _ => some (.invalidPattern pattern)
  | .inEntityGroup _ group => if Text.isBlank group then some .blankEntityGroup else none
  | _ => none

def leafFaults (d : FilterDecl) : List FilterError := (allNodes d).filterMap leafFault?

/-- A conjunction or disjunction of nothing. -/
def emptyNode? (policy : String) (place : RulePlace) : MatcherDecl → Option FilterError
  | .and [] => some (.emptyCombinator policy .all place)
  | .or [] => some (.emptyCombinator policy .any place)
  | _ => none

def treeFaults (policy : String) (place : RulePlace) (m : MatcherDecl) : List FilterError :=
  (nodes m).filterMap (emptyNode? policy place)

def ruleFaults (policy : String) (r : RuleDecl) : List FilterError :=
  (if Text.isBlank r.attributeId then [.missingAttributeId policy] else []) ++
    ((if r.permit.isEmpty ∧ r.deny.isEmpty then [.emptyRule policy r.attributeId] else []) ++
      (r.permit.flatMap (treeFaults policy (.permit r.attributeId)) ++
        r.deny.flatMap (treeFaults policy (.deny r.attributeId))))

def policyFaults (p : PolicyDecl) : List FilterError :=
  treeFaults p.id .requirement p.requirement ++ p.rules.flatMap (ruleFaults p.id)

/-- The faults in how policies are put together, where some ids have been given out before. -/
def structureFaults (earlier : List String) : List PolicyDecl → List FilterError
  | [] => []
  | p :: rest =>
    (if earlier.contains p.id then [.duplicatePolicy p.id] else []) ++
      (policyFaults p ++ structureFaults (p.id :: earlier) rest)

lemma filterMap_one {α β : Type} (f : α → Option β) (a : α) : [a].filterMap f = (f a).toList := by
  rw [List.filterMap_cons]
  cases f a <;> rfl

lemma test_failsFirst (subject : SubjectDecl) (how : TestDecl) :
    FailsFirst how.build (leafFault? (.test subject how)).toList := by
  cases how with
  | string value caseSensitive => exact .ok _
  | regex pattern caseSensitive =>
    rw [TestDecl.build, leafFault?]
    cases ValuePattern.ofText pattern caseSensitive with
    | ok p => exact .ok _
    | error e => exact .error _ []

mutual

/-- A tree is built unless there is something wrong with a leaf. -/
lemma tree_failsFirst : ∀ m : MatcherDecl, FailsFirst m.build ((nodes m).filterMap leafFault?)
  | .any => .ok _
  | .and rules => by
    rw [nodes, List.filterMap_cons_none rfl, MatcherDecl.build]
    exact (trees_failsFirst rules).finish
  | .or rules => by
    rw [nodes, List.filterMap_cons_none rfl, MatcherDecl.build]
    exact (trees_failsFirst rules).finish
  | .not rule => by
    rw [nodes, List.filterMap_cons_none rfl, MatcherDecl.build]
    exact (tree_failsFirst rule).finish
  | .test subject how => by
    rw [nodes, filterMap_one, MatcherDecl.build]
    exact (test_failsFirst subject how).finish
  | .inEntityGroup party group => by
    rw [nodes, filterMap_one, MatcherDecl.build, leafFault?]
    split
    · exact .error _ []
    · exact .ok _

lemma trees_failsFirst : ∀ ms : List MatcherDecl,
    FailsFirst (MatcherDecl.buildAll ms) ((nodesAll ms).filterMap leafFault?)
  | [] => .ok []
  | m :: rest => by
    rw [nodesAll, List.filterMap_append, MatcherDecl.buildAll]
    exact (tree_failsFirst m).bind fun _ _ => (trees_failsFirst rest).finish

end

section

variable {policy : String} {place : RulePlace}

lemma isEmpty_of_buildAll {ms : List MatcherDecl} {ts : List MatchRule}
    (h : MatcherDecl.buildAll ms = .ok ts) : ts.isEmpty = ms.isEmpty := by
  cases ms with
  | nil =>
    obtain rfl := Except.ok.inj h
    rfl
  | cons m rest =>
    obtain ⟨t, -, h⟩ := bind_eq_ok_iff.1 h
    obtain ⟨ts', -, h⟩ := bind_eq_ok_iff.1 h
    obtain rfl := Except.ok.inj h
    rfl

mutual

/-- A tree is checked for nodes with nothing below them. -/
lemma check_failsFirst : ∀ {m : MatcherDecl} {t : MatchRule}, m.build = .ok t →
    FailsFirst (t.check policy place) (treeFaults policy place m)
  | .any, t, h => by
    obtain rfl := Except.ok.inj h
    exact .ok ()
  | .and rules, t, h => by
    rw [MatcherDecl.build] at h
    obtain ⟨ts, hts, h⟩ := bind_eq_ok_iff.1 h
    obtain rfl := Except.ok.inj h
    have hrules := checkList_failsFirst hts
    match rules, ts, isEmpty_of_buildAll hts with
    | [], [], _ => exact .error _ []
    | _ :: _, _ :: _, _ =>
      rw [treeFaults, nodes, List.filterMap_cons_none rfl, MatchRule.check]
      exact hrules
  | .or rules, t, h => by
    rw [MatcherDecl.build] at h
    obtain ⟨ts, hts, h⟩ := bind_eq_ok_iff.1 h
    obtain rfl := Except.ok.inj h
    have hrules := checkList_failsFirst hts
    match rules, ts, isEmpty_of_buildAll hts with
    | [], [], _ => exact .error _ []
    | _ :: _, _ :: _, _ =>
      rw [treeFaults, nodes, List.filterMap_cons_none rfl, MatchRule.check]
      exact hrules
  | .not rule, t, h => by
    rw [MatcherDecl.build] at h
    obtain ⟨t', ht', h⟩ := bind_eq_ok_iff.1 h
    obtain rfl := Except.ok.inj h
    rw [treeFaults, nodes, List.filterMap_cons_none rfl, MatchRule.check]
    exact check_failsFirst ht'
  | .test subject how, t, h => by
    rw [MatcherDecl.build] at h
    obtain ⟨test, -, h⟩ := bind_eq_ok_iff.1 h
    obtain rfl := Except.ok.inj h
    exact .ok ()
  | .inEntityGroup party group, t, h => by
    rw [MatcherDecl.build] at h
    split at h
    · cases h
    · obtain rfl := Except.ok.inj h
      exact .ok ()

lemma checkList_failsFirst : ∀ {ms : List MatcherDecl} {ts : List MatchRule},
    MatcherDecl.buildAll ms = .ok ts →
    FailsFirst (MatchRule.checkList policy place ts)
      ((nodesAll ms).filterMap (emptyNode? policy place))
  | [], ts, h => by
    obtain rfl := Except.ok.inj h
    exact .ok ()
  | m :: rest, ts, h => by
    rw [MatcherDecl.buildAll] at h
    obtain ⟨t, ht, h⟩ := bind_eq_ok_iff.1 h
    obtain ⟨ts', hts', h⟩ := bind_eq_ok_iff.1 h
    obtain rfl := Except.ok.inj h
    rw [nodesAll, List.filterMap_append]
    exact (check_failsFirst ht).bind fun _ _ => checkList_failsFirst hts'

end

lemma checkList_eq_forM (ts : List MatchRule) :
    MatchRule.checkList policy place ts = ts.forM (·.check policy place) := by
  induction ts with
  | nil => rfl
  | cons t ts ih =>
    rw [MatchRule.checkList, ih]
    rfl

lemma checkTrees_failsFirst {ms : List MatcherDecl} {ts : List MatchRule}
    (h : ms.mapM (·.build) = .ok ts) :
    FailsFirst (MatchRule.checkList policy place ts) (ms.flatMap (treeFaults policy place)) := by
  rw [checkList_eq_forM]
  exact .forM (mapM_eq_ok_iff.1 h) fun m t ht => check_failsFirst ht

end

lemma checkRule_failsFirst {policy : String} {r : RuleDecl} {rule : AttributeRule}
    (h : r.build = .ok rule) : FailsFirst (rule.check policy) (ruleFaults policy r) := by
  obtain ⟨permit, hpermit, h⟩ := bind_eq_ok_iff.1 h
  obtain ⟨deny, hdeny, h⟩ := bind_eq_ok_iff.1 h
  obtain rfl := Except.ok.inj h
  have hempty {ms : List MatcherDecl} {ts : List MatchRule} (h : ms.mapM (·.build) = .ok ts) :
      ts.isEmpty = ms.isEmpty := by
    cases mapM_eq_ok_iff.1 h <;> rfl
  rw [ruleFaults, ← hempty hpermit, ← hempty hdeny]
  refine .refuse _ (.refuse _ ?_)
  exact (checkTrees_failsFirst hpermit).bind fun _ _ => checkTrees_failsFirst hdeny

lemma checkPolicy_failsFirst {p : PolicyDecl} {policy : FilterPolicy}
    (h : p.build = .ok policy) : FailsFirst policy.check (policyFaults p) := by
  obtain ⟨requirement, hrequirement, h⟩ := bind_eq_ok_iff.1 h
  obtain ⟨rules, hrules, h⟩ := bind_eq_ok_iff.1 h
  obtain rfl := Except.ok.inj h
  refine (check_failsFirst hrequirement).bind fun _ _ => ?_
  exact .forM (mapM_eq_ok_iff.1 hrules) fun r rule hr => checkRule_failsFirst hr

lemma checkPolicies_failsFirst {earlier : List String} {ps : List PolicyDecl}
    {policies : List FilterPolicy}
    (h : List.Forall₂ (fun (p : PolicyDecl) policy => p.build = .ok policy) ps policies) :
    FailsFirst (AttributeFilter.checkPolicies earlier policies) (structureFaults earlier ps) := by
  induction h generalizing earlier with
  | nil => exact .ok ()
  | @cons p policy ps policies hp _ ih =>
    have hid : policy.id = p.id := by
      obtain ⟨requirement, -, hp⟩ := bind_eq_ok_iff.1 hp
      obtain ⟨rules, -, hp⟩ := bind_eq_ok_iff.1 hp
      rw [← Except.ok.inj hp]
    rw [AttributeFilter.checkPolicies, structureFaults, hid]
    refine .refuse _ ?_
    exact (checkPolicy_failsFirst hp).bind fun _ _ => ih

/-! ### The declaration as a whole -/

lemma buildRule_failsFirst (r : RuleDecl) :
    FailsFirst r.build (((ruleTrees r).flatMap nodes).filterMap leafFault?) := by
  have htrees (ms : List MatcherDecl) : FailsFirst (ms.mapM (·.build))
      ((ms.flatMap nodes).filterMap leafFault?) := by
    rw [List.filterMap_flatMap]
    exact .mapM fun m _ => tree_failsFirst m
  rw [ruleTrees, List.flatMap_append, List.filterMap_append]
  exact (htrees r.permit).bind fun _ _ => (htrees r.deny).finish

lemma buildPolicy_failsFirst (p : PolicyDecl) :
    FailsFirst p.build (((policyTrees p).flatMap nodes).filterMap leafFault?) := by
  have hrules : FailsFirst (p.rules.mapM (·.build))
      (((p.rules.flatMap ruleTrees).flatMap nodes).filterMap leafFault?) := by
    rw [List.flatMap_assoc, List.filterMap_flatMap]
    exact .mapM fun r _ => buildRule_failsFirst r
  rw [policyTrees, List.flatMap_cons, List.filterMap_append]
  exact (tree_failsFirst p.requirement).bind fun _ _ => hrules.finish

lemma build_failsFirst (d : FilterDecl) :
    FailsFirst d.build (leafFaults d ++ structureFaults [] d.policies) := by
  have hpolicies : FailsFirst (d.policies.mapM (·.build)) (leafFaults d) := by
    rw [leafFaults, allNodes, List.flatMap_assoc, List.filterMap_flatMap]
    exact .mapM fun p _ => buildPolicy_failsFirst p
  refine hpolicies.bind fun policies h => ?_
  exact (checkPolicies_failsFirst (mapM_eq_ok_iff.1 h)).finish

/-- A declaration without fault. -/
structure Faultless (d : FilterDecl) : Prop where
  patterns : ∀ subject pattern caseSensitive,
    .test subject (.regex pattern caseSensitive) ∈ allNodes d →
      ∃ p, ValuePattern.ofText pattern caseSensitive = .ok p
  groups : ∀ party group, .inEntityGroup party group ∈ allNodes d → Text.isBlank group = false
  ids : (d.policies.map (·.id)).Nodup
  combinators : .and [] ∉ allNodes d ∧ .or [] ∉ allNodes d
  rules : ∀ p ∈ d.policies, ∀ r ∈ p.rules,
    Text.isBlank r.attributeId = false ∧ (r.permit ≠ [] ∨ r.deny ≠ [])

lemma leafFaults_eq_nil_iff {d : FilterDecl} : leafFaults d = [] ↔
    (∀ subject pattern caseSensitive,
      .test subject (.regex pattern caseSensitive) ∈ allNodes d →
        ∃ p, ValuePattern.ofText pattern caseSensitive = .ok p) ∧
    ∀ party group, .inEntityGroup party group ∈ allNodes d → Text.isBlank group = false := by
  rw [leafFaults, List.filterMap_eq_nil_iff]
  constructor
  · intro h
    refine ⟨fun subject pattern caseSensitive hmem => ?_, fun party group hmem => ?_⟩
    · have hnone := h _ hmem
      rw [leafFault?] at hnone
      split at hnone
      · next p hp => exact ⟨p, hp⟩
      · cases hnone
    · have hnone := h _ hmem
      rw [leafFault?] at hnone
      split at hnone
      · cases hnone
      · next hblank => exact Bool.eq_false_iff.2 hblank
  · rintro ⟨hpatterns, hgroups⟩ m hmem
    match m with
    | .test subject (.regex pattern caseSensitive) =>
      obtain ⟨p, hp⟩ := hpatterns _ _ _ hmem
      simp only [leafFault?, hp]
    | .inEntityGroup party group => simp [leafFault?, hgroups _ _ hmem]
    | .test _ (.string _ _) | .any | .and _ | .or _ | .not _ => rfl

/-- Nothing in a tree is a conjunction or disjunction of nothing. -/
def Full (m : MatcherDecl) : Prop := .and [] ∉ nodes m ∧ .or [] ∉ nodes m

lemma treeFaults_eq_nil_iff {policy : String} {place : RulePlace} {m : MatcherDecl} :
    treeFaults policy place m = [] ↔ Full m := by
  rw [treeFaults, List.filterMap_eq_nil_iff]
  constructor
  · intro h
    exact ⟨fun hmem => absurd (h _ hmem) nofun, fun hmem => absurd (h _ hmem) nofun⟩
  · rintro ⟨hand, hor⟩ n hmem
    match n with
    | .and [] => exact absurd hmem hand
    | .or [] => exact absurd hmem hor
    | .and (_ :: _) | .or (_ :: _) | .any | .not _ | .test _ _ | .inEntityGroup _ _ => rfl

lemma ruleFaults_eq_nil_iff {policy : String} {r : RuleDecl} : ruleFaults policy r = [] ↔
    (Text.isBlank r.attributeId = false ∧ (r.permit ≠ [] ∨ r.deny ≠ [])) ∧
      ∀ m ∈ ruleTrees r, Full m := by
  have hempty : ¬ (r.permit.isEmpty = true ∧ r.deny.isEmpty = true) ↔
      r.permit ≠ [] ∨ r.deny ≠ [] := by
    rw [List.isEmpty_iff, List.isEmpty_iff, not_and_or]
  simp only [ruleFaults, List.append_eq_nil_iff, List.flatMap_eq_nil_iff, treeFaults_eq_nil_iff,
    ite_eq_right_iff, List.cons_ne_nil, imp_false, hempty, Bool.not_eq_true, ruleTrees,
    List.mem_append, or_imp, forall_and, and_assoc]

lemma policyFaults_eq_nil_iff {p : PolicyDecl} : policyFaults p = [] ↔
    (∀ m ∈ policyTrees p, Full m) ∧
      ∀ r ∈ p.rules, Text.isBlank r.attributeId = false ∧ (r.permit ≠ [] ∨ r.deny ≠ []) := by
  simp only [policyFaults, List.append_eq_nil_iff, List.flatMap_eq_nil_iff, treeFaults_eq_nil_iff,
    ruleFaults_eq_nil_iff, policyTrees, List.mem_cons, List.mem_flatMap, forall_eq_or_imp]
  grind

lemma structureFaults_eq_nil_iff {earlier : List String} {ps : List PolicyDecl} :
    structureFaults earlier ps = [] ↔ (∀ p ∈ ps, p.id ∉ earlier) ∧ (ps.map (·.id)).Nodup ∧
      ∀ p ∈ ps, policyFaults p = [] := by
  induction ps generalizing earlier with
  | nil => simp [structureFaults]
  | cons p ps ih =>
    simp only [structureFaults, List.append_eq_nil_iff, ih, ite_eq_right_iff, List.cons_ne_nil,
      imp_false, List.contains_iff_mem, List.mem_cons, not_or, List.map_cons, List.nodup_cons,
      List.mem_map, forall_eq_or_imp]
    grind

lemma faultless_iff {d : FilterDecl} :
    Faultless d ↔ leafFaults d = [] ∧ structureFaults [] d.policies = [] := by
  have hfull : (∀ p ∈ d.policies, ∀ m ∈ policyTrees p, Full m) ↔
      .and [] ∉ allNodes d ∧ .or [] ∉ allNodes d := by
    simp only [Full, allNodes, List.mem_flatMap]
    grind
  rw [leafFaults_eq_nil_iff, structureFaults_eq_nil_iff]
  simp only [policyFaults_eq_nil_iff]
  constructor
  · intro h
    have htrees := hfull.2 h.combinators
    exact ⟨⟨h.patterns, h.groups⟩, by simp, h.ids, fun p hp => ⟨htrees p hp, h.rules p hp⟩⟩
  · rintro ⟨⟨hpatterns, hgroups⟩, -, hids, hpolicies⟩
    exact ⟨hpatterns, hgroups, hids, hfull.1 fun p hp => (hpolicies p hp).1,
      fun p hp => (hpolicies p hp).2⟩

/-- **Which declared filters are built**, and what the others are refused for. -/
theorem build_refuses_first (d : FilterDecl) :
    ((∃ f, d.build = .ok f) ↔ Faultless d) ∧
    ∀ e, d.build = .error e ↔ (leafFaults d).head? = some e ∨
      leafFaults d = [] ∧ (structureFaults [] d.policies).head? = some e := by
  have hbuild := build_failsFirst d
  refine ⟨?_, fun e => ?_⟩
  · rw [hbuild.exists_ok_iff, List.append_eq_nil_iff, faultless_iff]
  · rw [hbuild.eq_error_iff]
    cases leafFaults d <;> simp

/-- A blank group in the second policy goes before an empty disjunction in the first. -/
example : FilterDecl.build { policies := [
    { id := "first", requirement := .or [] },
    { id := "second", requirement := .inEntityGroup .requester " " }] } =
      .error .blankEntityGroup := rfl

end AttributeRelease.Proofs.Faults
