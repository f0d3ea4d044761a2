import AttributeRelease.Declaration.Filter
import AttributeRelease.Proofs.Codec.Fields

/-!
Declared filters, written and read again.

A matcher is a tree, and what is read of it nests less deep at each step, so reading it ends before
the bound that comes from the written value.
-/

namespace AttributeRelease.Proofs.Matchers

open Json
open AttributeRelease.Proofs.Fields

variable {view : Json → Json} {f fields : Json.Fields} {m : Manner}

lemma tagged?_read (hv : Relists view) (hf : Shows view fields f) {names : List String}
    {tag : String} (htag : fields.lookup "type" = some (.str tag))
    (hmem : names.contains tag = true) : tagged? m names (.obj f) = some (tag, .obj f) := by
  have hread : m.tag? names (view (.str tag)) = some tag := by
    rw [hv.str, Manner.tag?, if_pos hmem]
  rw [tagged?]
  simp only [Option.bind_eq_bind, hf "type", htag, Option.map_some, Option.bind_some, hread]
  rfl

lemma party?_read (hv : Relists view) (hf : Shows view fields f) {party : Party}
    (h : fields.lookup "party" = some (.str party.name)) :
    MatcherDecl.party? m f = some party := by
  refine getD?_read hf h ?_
  rw [hv.str]
  cases party <;> rfl

def isRegex : TestDecl → Bool
  | .string _ _ => false
  | .regex _ _ => true

/-- How the subject of a test is read. -/
def readSubject (m : Manner) (subject : SubjectDecl) (f : Json.Fields) : Option SubjectDecl :=
  match subject with
  | .requester => some .requester
  | .issuer => some .issuer
  | .principal => some .principal
  | .value _ => (MatcherDecl.target? m f).map .value
  | .scope _ => (MatcherDecl.target? m f).map .scope
  | .entityAttribute _ _ => MatcherDecl.entityAttribute? m f

def subjectKeys : SubjectDecl → List String
  | .requester | .issuer | .principal => []
  | .value _ | .scope _ => ["attribute"]
  | .entityAttribute _ _ => ["party", "attribute"]

lemma leaf?_test (m : Manner) (subject : SubjectDecl) (how : TestDecl) (j : Json) :
    MatcherDecl.leaf? m (subject.name ++ "-" ++ how.suffix) j =
      MatcherDecl.test? m (subjectKeys subject) (isRegex how) (readSubject m subject) j := by
  cases subject <;> cases how <;> rfl

lemma typeNames_test (subject : SubjectDecl) (how : TestDecl) :
    MatcherDecl.typeNames.contains (subject.name ++ "-" ++ how.suffix) = true := by
  cases subject <;> cases how <;> rfl

variable {subject : SubjectDecl} {how : TestDecl} {tag : Json}

/-- No subject has a field of the name of one of the test. -/
lemma lookup_test {k : String} (hk : k ∈ ["value", "pattern", "case_sensitive"]) :
    (("type", tag) :: subject.fields ++ how.fields).lookup k = how.fields.lookup k := by
  have hnone : (("type", tag) :: subject.fields).lookup k = none := by
    simp only [List.mem_cons, List.not_mem_nil, or_false] at hk
    rcases hk with rfl | rfl | rfl <;> cases subject <;>
      simp [SubjectDecl.fields, List.lookup_cons]
  rw [List.lookup_append, hnone, Option.none_or]

lemma target?_read (hv : Relists view)
    (hf : Shows view (("type", tag) :: subject.fields ++ how.fields) f) {target : Option String}
    (h : subject.fields = field? "attribute" (target.map .str)) :
    MatcherDecl.target? m f = some target := by
  refine maybe?_text hv hf ?_
  rw [h]
  cases how <;> simp [TestDecl.fields, List.lookup_append, List.lookup_cons]

lemma readSubject_read (hv : Relists view)
    (hf : Shows view (("type", tag) :: subject.fields ++ how.fields) f) :
    readSubject m subject f = some subject := by
  cases subject with
  | requester => rfl
  | issuer => rfl
  | principal => rfl
  | value target => rw [readSubject, target?_read hv hf rfl]; rfl
  | scope target => rw [readSubject, target?_read hv hf rfl]; rfl
  | entityAttribute party name =>
    have hparty : MatcherDecl.party? m f = some party :=
      party?_read hv hf (by simp [SubjectDecl.fields, List.lookup_cons])
    have hname : f.get? "attribute" m.text? = some name :=
      get?_read hf (by simp [SubjectDecl.fields, List.lookup_cons]) (text?_read hv _)
    rw [readSubject, MatcherDecl.entityAttribute?, hparty]
    simp only [Option.bind_eq_bind, Option.bind_some, hname]
    rfl

lemma test?_read (hv : Relists view)
    (hf : Shows view (("type", tag) :: subject.fields ++ how.fields) f) :
    MatcherDecl.test? m (subjectKeys subject) (isRegex how) (readSubject m subject) (.obj f) =
      some (.test subject how) := by
  have hsubject := readSubject_read (m := m) hv hf
  cases how with
  | string value caseSensitive =>
    have hvalue : f.get? "value" m.text? = some value :=
      get?_read hf ((lookup_test (by simp)).trans rfl) (text?_read hv _)
    have hcase : f.getD? "case_sensitive" m.flag? true = some caseSensitive :=
      getD?_read hf ((lookup_test (by simp)).trans rfl) (flag?_read hv _)
    rw [MatcherDecl.test?, fields?]
    simp only [isRegex, Bool.false_eq_true, if_false, Option.bind_eq_bind, Option.bind_some,
      hsubject, hvalue, hcase]
    rfl
  | regex pattern caseSensitive =>
    have hpattern : f.get? "pattern" m.text? = some pattern :=
      get?_read hf ((lookup_test (by simp)).trans rfl) (text?_read hv _)
    have hcase : f.getD? "case_sensitive" m.flag? true = some caseSensitive :=
      getD?_read hf ((lookup_test (by simp)).trans rfl) (flag?_read hv _)
    rw [MatcherDecl.test?, fields?]
    simp only [isRegex, if_true, Option.bind_eq_bind, Option.bind_some, hsubject, hpattern, hcase]
    rfl

/-! ### Trees, policies and metadata -/

lemma toJsons_eq (rules : List MatcherDecl) : MatcherDecl.toJsons rules = rules.map (·.toJson) := by
  induction rules with
  | nil => rfl
  | cons r rest ih => rw [MatcherDecl.toJsons, ih, List.map_cons]

lemma depth_pos (j : Json) : 0 < j.depth := by
  cases j <;> simp [depth]

lemma depth_lt_of_mem {items : List Json} {j : Json} (h : j ∈ items) :
    j.depth < (Json.arr items).depth := by
  have hle : j.depth ≤ depthItems items := by
    induction items with
    | nil => cases h
    | cons a rest ih =>
      rw [depthItems]
      rcases List.mem_cons.1 h with rfl | h
      · exact Nat.le_max_left _ _
      · exact Nat.le_trans (ih h) (Nat.le_max_right _ _)
  rw [depth]
  omega

/-- The rules of a conjunction or a choice. -/
lemma rules_read (hv : Relists view) {n : ℕ} {rules : List MatcherDecl}
    (ih : ∀ {r : MatcherDecl} {m : Manner}, (view r.toJson).depth ≤ n →
      MatcherDecl.ofNested? n m (view r.toJson) = some r)
    (hf : Shows view [("type", tag), ("rules", .arr (MatcherDecl.toJsons rules))] f)
    (hn : (Json.obj f).depth ≤ n + 1) :
    f.get? "rules" (list? (MatcherDecl.ofNested? n m)) = some rules := by
  have hlookup : f.lookup "rules" = some (view (.arr (rules.map (·.toJson)))) := by
    rw [hf, ← toJsons_eq]
    simp [List.lookup_cons]
  have hdepth := depth_lt_of_lookup hlookup
  rw [hv.arr] at hdepth
  rw [Json.Fields.get?, hlookup, Option.bind_some]
  refine list?_same hv fun r hr => ?_
  refine ih ?_
  have hmem : view r.toJson ∈ (rules.map (·.toJson)).map view :=
    List.mem_map_of_mem (List.mem_map_of_mem hr)
  have hlt := depth_lt_of_mem hmem
  omega

/-- Matchers are read if they nest no deeper than the bound. -/
lemma nested_read (hv : Relists view) {n : ℕ} {r : MatcherDecl} {m : Manner}
    (hn : (view r.toJson).depth ≤ n) : MatcherDecl.ofNested? n m (view r.toJson) = some r := by
  induction n generalizing r m with
  | zero => exact absurd hn (Nat.not_le.2 (depth_pos _))
  | succ n ih =>
    cases r with
    | any =>
      obtain ⟨f, hview, hf⟩ := hv.obj [("type", .str "any")]
      rw [MatcherDecl.toJson, hview, MatcherDecl.ofNested?, tagged?_read hv hf rfl rfl]
      rfl
    | and rules =>
      obtain ⟨f, hview, hf⟩ :=
        hv.obj [("type", .str "and"), ("rules", .arr (MatcherDecl.toJsons rules))]
      rw [MatcherDecl.toJson] at hn ⊢
      rw [hview] at hn ⊢
      rw [MatcherDecl.ofNested?, tagged?_read hv hf rfl rfl]
      have hrules := rules_read (m := m.below) hv ih hf hn
      simp only [Option.bind_eq_bind, Option.bind_some, fields?, hrules]
      rfl
    | or rules =>
      obtain ⟨f, hview, hf⟩ :=
        hv.obj [("type", .str "or"), ("rules", .arr (MatcherDecl.toJsons rules))]
      rw [MatcherDecl.toJson] at hn ⊢
      rw [hview] at hn ⊢
      rw [MatcherDecl.ofNested?, tagged?_read hv hf rfl rfl]
      have hrules := rules_read (m := m.below) hv ih hf hn
      simp only [Option.bind_eq_bind, Option.bind_some, fields?, hrules]
      rfl
    | not rule =>
      obtain ⟨f, hview, hf⟩ := hv.obj [("type", .str "not"), ("rule", rule.toJson)]
      rw [MatcherDecl.toJson] at hn ⊢
      rw [hview] at hn ⊢
      rw [MatcherDecl.ofNested?, tagged?_read hv hf rfl rfl]
      have hlookup : f.lookup "rule" = some (view rule.toJson) := by
        rw [hf]; simp [List.lookup_cons]
      have hdepth := depth_lt_of_lookup hlookup
      have hrule : Json.Fields.get? f "rule" (MatcherDecl.ofNested? n m.below) = some rule := by
        rw [Json.Fields.get?, hlookup, Option.bind_some, ih (by omega)]
      simp only [Option.bind_eq_bind, Option.bind_some, fields?, hrule]
      rfl
    | test subject how =>
      obtain ⟨f, hview, hf⟩ := hv.obj (("type", .str (subject.name ++ "-" ++ how.suffix)) ::
        subject.fields ++ how.fields)
      rw [MatcherDecl.toJson, hview, MatcherDecl.ofNested?,
        tagged?_read hv hf (by simp) (typeNames_test subject how)]
      have hleaf := leaf?_test m.below subject how (.obj f)
      rw [test?_read hv hf] at hleaf
      rw [← hleaf]
      cases subject <;> cases how <;> rfl
    | inEntityGroup party group =>
      obtain ⟨f, hview, hf⟩ := hv.obj [("type", .str "in-entity-group"),
        ("party", .str party.name), ("group", .str group)]
      have hparty : MatcherDecl.party? m.below f = some party :=
        party?_read hv hf (by simp [List.lookup_cons])
      have hgroup : Json.Fields.get? f "group" m.below.text? = some group :=
        get?_read hf (by simp [List.lookup_cons]) (text?_read hv _)
      rw [MatcherDecl.toJson, hview, MatcherDecl.ofNested?, tagged?_read hv hf rfl rfl]
      show MatcherDecl.inEntityGroup? m.below (.obj f) = _
      rw [MatcherDecl.inEntityGroup?, fields?]
      simp only [Option.bind_eq_bind, Option.bind_some, hparty, hgroup]
      rfl

lemma matcher_read (hv : Relists view) (m : Manner) (r : MatcherDecl) :
    MatcherDecl.ofJson? m (view r.toJson) = some r := nested_read hv le_rfl

lemma matchers_read (hv : Relists view) {name : String} {l : List MatcherDecl}
    (hf : Shows view fields f) (hl : fields.lookup name = unlessEmpty (l.map (·.toJson))) :
    f.getD? name (list? (MatcherDecl.ofJson? m)) [] = some l :=
  getD?_unlessEmpty hv hf hl fun r _ => matcher_read hv m r

lemma rule_read (hv : Relists view) (m : Manner) (r : RuleDecl) :
    RuleDecl.ofJson? m (view r.toJson) = some r := by
  obtain ⟨f, hview, hf⟩ : ∃ f : Json.Fields, view r.toJson = .obj f ∧ Shows view _ f := hv.obj _
  have hattribute : f.get? "attribute" m.text? = some r.attributeId :=
    get?_read hf (by simp) (text?_read hv _)
  have hpermit : f.getD? "permit" (list? (MatcherDecl.ofJson? m)) [] = some r.permit :=
    matchers_read hv hf (by simp [List.lookup_append, List.lookup_cons])
  have hdeny : f.getD? "deny" (list? (MatcherDecl.ofJson? m)) [] = some r.deny :=
    matchers_read hv hf (by simp [List.lookup_append, List.lookup_cons])
  rw [hview, RuleDecl.ofJson?, fields?]
  simp only [Option.bind_eq_bind, Option.bind_some, hattribute, hpermit, hdeny]
  rfl

lemma policy_read (hv : Relists view) (m : Manner) (p : PolicyDecl) :
    PolicyDecl.ofJson? m (view p.toJson) = some p := by
  obtain ⟨f, hview, hf⟩ : ∃ f : Json.Fields, view p.toJson = .obj f ∧ Shows view _ f := hv.obj _
  have hid : f.get? "id" m.text? = some p.id := get?_read hf (by simp) (text?_read hv _)
  have hrequirement : f.get? "requirement" (MatcherDecl.ofJson? m) = some p.requirement :=
    get?_read hf (by simp [List.lookup_cons]) (matcher_read hv m _)
  have hrules : f.getD? "rules" (list? (RuleDecl.ofJson? m)) [] = some p.rules :=
    getD?_list hv hf (by simp [List.lookup_cons]) fun r _ => rule_read hv m r
  rw [hview, PolicyDecl.ofJson?, fields?]
  simp only [Option.bind_eq_bind, Option.bind_some, hid, hrequirement, hrules]
  rfl

lemma filter_read (hv : Relists view) (m : Manner) (d : FilterDecl) :
    FilterDecl.ofJson? m (view d.toJson) = some d := by
  obtain ⟨f, hview, hf⟩ : ∃ f : Json.Fields, view d.toJson = .obj f ∧ Shows view _ f := hv.obj _
  have hid : f.getD? "id" m.text? "default" = some d.id :=
    getD?_read hf (by simp) (text?_read hv _)
  have haudit : f.getD? "audit" m.flag? true = some d.audit :=
    getD?_read hf (by simp [List.lookup_cons]) (flag?_read hv _)
  have hpolicies : f.getD? "policies" (list? (PolicyDecl.ofJson? m)) [] = some d.policies :=
    getD?_list hv hf (by simp [List.lookup_cons]) fun p _ => policy_read hv m p
  rw [hview, FilterDecl.ofJson?, fields?]
  simp only [Option.bind_eq_bind, Option.bind_some, hid, haudit, hpolicies]
  rfl

lemma entityAttribute_read (hv : Relists view) (m : Manner) (a : EntityAttributeDecl) :
    EntityAttributeDecl.ofJson? m (view a.toJson) = some a := by
  obtain ⟨f, hview, hf⟩ : ∃ f : Json.Fields, view a.toJson = .obj f ∧ Shows view _ f := hv.obj _
  have hname : f.get? "name" m.text? = some a.name := get?_read hf (by simp) (text?_read hv _)
  have hvalues : f.get? "values" (strings? m) = some a.values :=
    get?_read hf (by simp [List.lookup_cons]) (strings?_read hv _)
  rw [hview, EntityAttributeDecl.ofJson?, fields?]
  simp only [Option.bind_eq_bind, Option.bind_some, hname, hvalues]
  rfl

lemma partyDecl_read (hv : Relists view) (m : Manner) (p : PartyDecl) :
    PartyDecl.ofJson? m (view p.toJson) = some p := by
  obtain ⟨f, hview, hf⟩ : ∃ f : Json.Fields, view p.toJson = .obj f ∧ Shows view _ f := hv.obj _
  have hid : f.get? "entity_id" m.text? = some p.entityId :=
    get?_read hf (by simp) (text?_read hv _)
  have hgroups : f.getD? "groups" (strings? m) [] = some p.groups :=
    getD?_unlessEmpty hv hf (by simp [List.lookup_append, List.lookup_cons]) fun s _ =>
      text?_read hv s
  have hattributes : f.getD? "attributes" (list? (EntityAttributeDecl.ofJson? m)) [] =
      some p.attributes :=
    getD?_unlessEmpty hv hf (by simp [List.lookup_append, List.lookup_cons]) fun a _ =>
      entityAttribute_read hv m a
  rw [hview, PartyDecl.ofJson?, fields?]
  simp only [Option.bind_eq_bind, Option.bind_some, hid, hgroups, hattributes]
  rfl

lemma metadata_read (hv : Relists view) (m : Manner) (d : MetadataDecl) :
    MetadataDecl.ofJson? m (view d.toJson) = some d := by
  obtain ⟨f, hview, hf⟩ : ∃ f : Json.Fields, view d.toJson = .obj f ∧ Shows view _ f := hv.obj _
  have hparties : f.getD? "parties" (list? (PartyDecl.ofJson? m)) [] = some d.parties :=
    getD?_list hv hf (by simp) fun p _ => partyDecl_read hv m p
  rw [hview, MetadataDecl.ofJson?, fields?]
  simp only [Option.bind_eq_bind, Option.bind_some, hparties]
  rfl

end AttributeRelease.Proofs.Matchers
