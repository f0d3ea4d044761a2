import AttributeRelease.Declaration.Build
import AttributeRelease.Proofs.Checks
import AttributeRelease.Proofs.Policy.Outcomes
import AttributeRelease.Proofs.Policy.Parts

/-!
What declared matchers mean.

A test says what it looks at and what it wants of a text. It looks up some texts, which can fail,
and is met if one of them passes. The meaning of a declared tree is put together of that by the
tables of the three-valued logic, and the tree that is built has the same outcomes, for requests
and for values.
-/

namespace AttributeRelease.Proofs.Meaning

open AttributeRelease.Proofs.Checks AttributeRelease.Proofs.Outcomes AttributeRelease.Proofs.Parts

/-- What a tree is asked about. -/
inductive Question where
  | request
  | value (attributeId : String) (v : AttributeValue)

/-- Whether a text is what a test wants. -/
def passes : TestDecl → String → Bool
  | .string value true, s => s = value
  | .string value false, s => Text.lowercase s = Text.lowercase value
  | .regex pattern caseSensitive, s =>
    match ValuePattern.ofText pattern caseSensitive with
    | .ok p => p.holds s
    | .error _ => false

/-- The values that a test of values looks at. With no attribute named there are none for a request
as a whole. -/
def values? (c : FilterContext) : Question → Option String → Option (List AttributeValue)
  | .request, none => none
  | .request, some target => some (valuesOf c target)
  | .value _ v, none => some [v]
  | .value attributeId v, some target =>
    some (if target = attributeId then [v] else valuesOf c target)

/-- The texts that a test looks at, if they can be looked up. -/
def texts? (c : FilterContext) (q : Question) : SubjectDecl → Option (List String)
  | .requester => c.requester.map ([·])
  | .issuer => c.issuer.map ([·])
  | .principal => c.principal.map ([·])
  | .value target => (values? c q target).map (·.filterMap (·.text?))
  | .scope target => (values? c q target).map (·.filterMap (·.scope?))
  | .entityAttribute party name =>
    (c.metadata party).map fun p => (p.attributes.find? name).getD []

/-- One text that passes is enough. -/
def somePasses (how : TestDecl) : Option (List String) → Tristate
  | some texts => .ofBool (texts.any (passes how))
  | none => .fail

mutual

/-- What a declared tree comes out as. -/
def reading (c : FilterContext) (q : Question) : MatcherDecl → Tristate
  | .any => .yes
  | .and rules => conjunction (readings c q rules)
  | .or rules => disjunction (readings c q rules)
  | .not rule =>
    match reading c q rule with
    | .yes => .no
    | .no => .yes
    | .fail => .fail
  | .test subject how => somePasses how (texts? c q subject)
  | .inEntityGroup party group =>
    match (c.metadata party).bind (·.group) with
    | some g => if group = g.name ∨ group ∈ g.ancestors then .yes else .no
    | none => .fail

def readings (c : FilterContext) (q : Question) : List MatcherDecl → List Tristate
  | [] => []
  | m :: rest => reading c q m :: readings c q rest

end

/-- The outcome of a matcher for what is asked about. -/
def outcome (c : FilterContext) : Question → Matcher → Tristate
  | .request => Matcher.ofRequest c
  | .value attributeId v => Matcher.ofValue c attributeId v

variable {c : FilterContext} {q : Question} {how : TestDecl} {test : TextTest}
  {target : Option String} {k : String} {v : AttributeValue}

lemma holds_of_build (h : how.build = .ok test) : test.holds = passes how := by
  funext s
  match how with
  | .string value true =>
    obtain rfl := Except.ok.inj h
    simp [TextTest.ofValue, TextTest.holds, passes, eq_comm]
  | .string value false =>
    obtain rfl := Except.ok.inj h
    simp [TextTest.ofValue, TextTest.holds, passes, eq_comm]
  | .regex pattern caseSensitive =>
    cases hp : ValuePattern.ofText pattern caseSensitive with
    | ok p =>
      obtain rfl : TextTest.pattern p = test := by simpa [TestDecl.build, hp] using h
      simp [passes, hp, TextTest.holds]
    | error e => simp [TestDecl.build, hp] at h

lemma known_eq (h : test.holds = passes how) (s : Option String) :
    Matcher.known test s = somePasses how (s.map ([·])) := by
  cases s with
  | none => rfl
  | some s => simp [Matcher.known, somePasses, h]

lemma any_holds (h : test.holds = passes how) (part : Part) (vs : List AttributeValue) :
    vs.any (part.holds test) = (vs.filterMap part.of?).any (passes how) := by
  rw [List.any_filterMap, ← h]
  refine congrArg vs.any (funext fun v => ?_)
  rw [Part.holds]
  cases part.of? v <;> rfl

lemma values?_about (h : About target k) : values? c (.value k v) target = some [v] := by
  rcases h with rfl | rfl
  · rfl
  · simp [values?]

lemma values?_other (h : ¬ About target k) :
    values? c (.value k v) target = values? c .request target := by
  cases target with
  | none => exact absurd (.inl rfl) h
  | some t =>
    have ht : t ≠ k := fun ht => h (.inr (congrArg some ht))
    simp [values?, ht]

lemma ofRequest_part (h : test.holds = passes how) (part : Part) (target : Option String) :
    (part.matcher target test).ofRequest c =
      somePasses how ((values? c .request target).map (·.filterMap part.of?)) := by
  cases target with
  | none => exact ofRequest_none
  | some t =>
    rw [ofRequest_some, any_holds h]
    rfl

/-- A test of values looks at what it is about. -/
lemma outcome_part (h : test.holds = passes how) (part : Part) (target : Option String) :
    outcome c q (part.matcher target test) =
      somePasses how ((values? c q target).map (·.filterMap part.of?)) := by
  cases q with
  | request => exact ofRequest_part h part target
  | value k v =>
    rw [outcome]
    by_cases habout : About target k
    · rw [ofValue_about part habout, values?_about habout]
      have hone : part.holds test v = ([v].filterMap part.of?).any (passes how) := by
        rw [← any_holds h, List.any_cons, List.any_nil, Bool.or_false]
      exact congrArg Tristate.ofBool hone
    · rw [ofValue_other part habout, values?_other habout, ofRequest_part h]

lemma outcome_matcher (h : test.holds = passes how) (subject : SubjectDecl) :
    outcome c q (subject.matcher test) = somePasses how (texts? c q subject) := by
  cases subject with
  | requester => cases q <;> exact known_eq h _
  | issuer => cases q <;> exact known_eq h _
  | principal => cases q <;> exact known_eq h _
  | value target => exact outcome_part h .text target
  | scope target => exact outcome_part h .scope target
  | entityAttribute party name =>
    have hrequest : Matcher.ofRequest c (.entityAttribute party name test) =
        somePasses how (texts? c q (.entityAttribute party name)) := by
      rw [Matcher.ofRequest, texts?]
      cases c.metadata party with
      | none => rfl
      | some p => cases hvalues : p.attributes.find? name <;> simp [hvalues, somePasses, h]
    cases q <;> exact hrequest

lemma outcome_inEntityGroup {party : Party} {group : String} (h : Text.isBlank group = false) :
    outcome c q (.inEntityGroup party group) = reading c q (.inEntityGroup party group) := by
  have hrequest : Matcher.ofRequest c (.inEntityGroup party group) =
      reading c q (.inEntityGroup party group) := by
    rw [Matcher.ofRequest, h, reading, if_neg Bool.false_ne_true]
    cases (c.metadata party).bind (·.group) with
    | none => rfl
    | some g => simp [EntityGroup.isWithin, Tristate.ofBool]
  cases q <;> exact hrequest

/-! ### Trees -/

mutual

/-- A tree that is built comes out as what it was declared to mean. -/
lemma evaluate_build : ∀ {m : MatcherDecl} {t : MatchRule}, m.build = .ok t →
    t.evaluate (outcome c q) = reading c q m
  | .any, t, h => by
    obtain rfl := Except.ok.inj h
    cases q <;> rfl
  | .and rules, t, h => by
    rw [MatcherDecl.build] at h
    obtain ⟨ts, hts, h⟩ := bind_eq_ok_iff.1 h
    obtain rfl := Except.ok.inj h
    rw [MatchRule.evaluate, all_eq, evaluateList_build hts, reading]
  | .or rules, t, h => by
    rw [MatcherDecl.build] at h
    obtain ⟨ts, hts, h⟩ := bind_eq_ok_iff.1 h
    obtain rfl := Except.ok.inj h
    rw [MatchRule.evaluate, any_eq, evaluateList_build hts, reading]
  | .not rule, t, h => by
    rw [MatcherDecl.build] at h
    obtain ⟨t', ht', h⟩ := bind_eq_ok_iff.1 h
    obtain rfl := Except.ok.inj h
    rw [MatchRule.evaluate, evaluate_build ht', reading]
    cases reading c q rule <;> rfl
  | .test subject how, t, h => by
    rw [MatcherDecl.build] at h
    obtain ⟨test, htest, h⟩ := bind_eq_ok_iff.1 h
    obtain rfl := Except.ok.inj h
    rw [MatchRule.evaluate, outcome_matcher (holds_of_build htest), reading]
  | .inEntityGroup party group, t, h => by
    rw [MatcherDecl.build] at h
    split at h
    · cases h
    · next hblank =>
      obtain rfl := Except.ok.inj h
      rw [MatchRule.evaluate, outcome_inEntityGroup (Bool.eq_false_iff.2 hblank)]

lemma evaluateList_build : ∀ {ms : List MatcherDecl} {ts : List MatchRule},
    MatcherDecl.buildAll ms = .ok ts →
    MatchRule.evaluateList (outcome c q) ts = readings c q ms
  | [], ts, h => by
    obtain rfl := Except.ok.inj h
    rfl
  | m :: rest, ts, h => by
    rw [MatcherDecl.buildAll] at h
    obtain ⟨t, ht, h⟩ := bind_eq_ok_iff.1 h
    obtain ⟨ts', hts', h⟩ := bind_eq_ok_iff.1 h
    obtain rfl := Except.ok.inj h
    rw [MatchRule.evaluateList, evaluate_build ht, evaluateList_build hts', readings]

end

/-- **A declared tree means what it says**, for every request and for every value. -/
theorem build_means {m : MatcherDecl} {t : MatchRule} (h : m.build = .ok t) (c : FilterContext) :
    t.ofRequest c = reading c .request m ∧
      ∀ attributeId v, t.ofValue c attributeId v = reading c (.value attributeId v) m :=
  ⟨evaluate_build (q := .request) h, fun k v => evaluate_build (q := .value k v) h⟩

def word (s : String) : Regex.Node := .ofList (s.toList.map fun c => .set (.singleton c))

def staffNode : Regex.Node :=
  .seq (.look .textStart) (.seq (.alt (word "staff") (word "member")) (.look .textEnd))

/-- Addresses at the library of its own staff, for who is known to be in no blocked group or asks
for Ada. -/
def contact : MatcherDecl :=
  .and [.test (.value (some "affiliation")) (.regex "staff|member" true),
    .or [.not (.inEntityGroup .requester "https://blocked.example"),
      .test .principal (.string "ada" true)],
    .test (.scope none) (.string "library.example" true)]

def contactRule : MatchRule :=
  .all [.leaf (.attributeValue (some "affiliation")
      (.pattern ⟨"staff|member", ⟨staffNode, staffNode.program⟩⟩)),
    .any [.not (.leaf (.inEntityGroup .requester "https://blocked.example")),
      .leaf (.principal (.same "ada"))],
    .leaf (.attributeScope none (.same "library.example"))]

/-- Nothing is known about who asks. -/
def asAda : FilterContext where
  principal := some "ada"
  unfiltered := .ofList [("affiliation", { id := "affiliation", values := [.string "staff"] })]

theorem contact_means : contact.build = .ok contactRule ∧
    (contactRule.ofRequest asAda = reading asAda .request contact ∧
      ∀ attributeId v, contactRule.ofValue asAda attributeId v =
        reading asAda (.value attributeId v) contact) ∧
    contactRule.ofRequest asAda = .fail ∧
    contactRule.ofValue asAda "mail" (.withScope "ada" "library.example") = .yes ∧
    contactRule.ofValue asAda "affiliation" (.withScope "guest" "library.example") = .no := by
  have hbuild : contact.build = .ok contactRule := rfl
  exact ⟨hbuild, build_means hbuild asAda, by decide +kernel, by decide +kernel, by decide +kernel⟩

end AttributeRelease.Proofs.Meaning
