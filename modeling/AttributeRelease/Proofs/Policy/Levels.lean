import AttributeRelease.Proofs.Policy.Parts
import AttributeRelease.Proofs.Policy.Untargeted

/-!
Requests and values.

A tree is asked about a value only where one of its matchers tests the values at hand. Without such
a matcher it says of every value what it says of the request, and rules of such trees treat all
values of their attribute alike. A test that names an attribute is for a request the disjunction of
what it is for the values of that attribute.
-/

namespace AttributeRelease.Proofs.Levels

open AttributeRelease.Proofs.Definite AttributeRelease.Proofs.Outcomes AttributeRelease.Proofs.Parts
open AttributeRelease.Proofs.Release AttributeRelease.Proofs.Untargeted
open AttributeRelease.Proofs.Verdicts

variable {c : FilterContext} {k : String} {r : AttributeRule} {f : AttributeFilter}

/-- The matcher tests the values of an attribute one by one. -/
def TestsValuesOf (k : String) : Matcher → Prop
  | .attributeValue target _ => About target k
  | .attributeScope target _ => About target k
  | _ => False

/-- Nothing in a tree tests the values of an attribute one by one. -/
def Indifferent (k : String) (t : MatchRule) : Prop := ∀ m ∈ leaves t, ¬ TestsValuesOf k m

lemma matcher_ofValue_eq_ofRequest {m : Matcher} (h : ¬ TestsValuesOf k m) (v : AttributeValue) :
    m.ofValue c k v = m.ofRequest c := by
  cases m with
  | attributeValue target test => exact ofValue_other .text h
  | attributeScope target test => exact ofValue_other .scope h
  | _ => rfl

lemma ofValue_eq_ofRequest {t : MatchRule} (h : Indifferent k t) (v : AttributeValue) :
    t.ofValue c k v = t.ofRequest c :=
  evaluate_congr fun m hm => matcher_ofValue_eq_ofRequest (h m hm) v

/-- Nothing in a rule tests the values of its attribute one by one. -/
def Uniform (r : AttributeRule) : Prop := ∀ t ∈ r.permit ++ r.deny, Indifferent r.attributeId t

lemma anyOfValue_eq_any {ts : List MatchRule} (h : ∀ t ∈ ts, Indifferent k t) (v : AttributeValue) :
    Tristate.any (ts.map fun t => t.ofValue c k v) = .any (ts.map (·.ofRequest c)) :=
  congrArg Tristate.any (List.map_congr_left fun t ht => ofValue_eq_ofRequest (h t ht) v)

lemma permits_eq_any (h : Uniform r) (v : AttributeValue) :
    r.permits c v = .any (r.permit.map (·.ofRequest c)) :=
  anyOfValue_eq_any (fun t ht => h t (List.mem_append_left _ ht)) v

lemma denies_eq_any (h : Uniform r) (v : AttributeValue) :
    r.denies c v = .any (r.deny.map (·.ofRequest c)) :=
  anyOfValue_eq_any (fun t ht => h t (List.mem_append_right _ ht)) v

lemma ruling_eq_of_uniform (h : Uniform r) (v v' : AttributeValue) :
    r.ruling c v = r.ruling c v' := by
  rw [AttributeRule.ruling, AttributeRule.ruling, permits_eq_any h, permits_eq_any h,
    denies_eq_any h, denies_eq_any h]

lemma verdict_eq_of_uniform {rules : List AttributeRule} (h : ∀ r ∈ rules, Uniform r)
    (v v' : AttributeValue) : verdict c rules v = verdict c rules v' := by
  unfold verdict
  refine List.foldl_ext _ _ _ fun m r hr => ?_
  rw [ruling_eq_of_uniform (h r hr) v v']

lemma letOut_of_constant {keep : AttributeValue → Bool} (h : ∀ v v', keep v = keep v')
    (a : Attribute) : letOut keep a = none ∨ letOut keep a = some a := by
  by_cases hall : ∀ v ∈ a.values, keep v = true
  · have hretain : a.retain keep = a := by
      rw [Attribute.retain_eq, List.filter_eq_self.2 hall]
    rw [letOut, hretain]
    split
    · exact .inl rfl
    · exact .inr rfl
  · push Not at hall
    obtain ⟨v, -, hv⟩ := hall
    have hretain : (a.retain keep).isEmpty = true := by
      rw [Attribute.isEmpty, List.isEmpty_iff, Attribute.retain_eq, List.filter_eq_nil_iff]
      exact fun v' _ => h v' v ▸ hv
    exact .inl (if_pos hretain)

/-- With such rules only, an attribute goes out whole or not at all. -/
lemma find?_of_uniform (h : ∀ r, Applies f c k r → Uniform r) :
    (f.run c).2.filtered.find? k = none ∨
      (f.run c).2.filtered.find? k = c.unfiltered.find? k := by
  have hkeeps (v v' : AttributeValue) : keeps f c k v = keeps f c k v' :=
    congrArg Verdict.survives (verdict_eq_of_uniform (fun r hr => h r (mem_rulesFor_iff.1 hr)) v v')
  rw [find?_run]
  cases c.unfiltered.find? k with
  | none => exact .inl rfl
  | some a => exact letOut_of_constant hkeeps a

/-! ### Tests of another attribute -/

variable {part : Part} {test : TextTest}

/-- A test that names an attribute goes through its values. -/
lemma ofRequest_eq_any (t : String) : (part.matcher (some t) test).ofRequest c =
    .any ((valuesOf c t).map ((part.matcher none test).ofValue c k)) := by
  have hvalue : (part.matcher none test).ofValue c k = fun v => .ofBool (part.holds test v) :=
    funext fun v => ofValue_about part (.inl rfl)
  calc (part.matcher (some t) test).ofRequest c
      = .ofBool ((valuesOf c t).any (part.holds test)) := ofRequest_some t
    _ = .ofBool (((valuesOf c t).map (part.holds test)).any id) := by rw [List.any_map]; rfl
    _ = .any (((valuesOf c t).map (part.holds test)).map .ofBool) := (any_ofBool _).symm
    _ = .any ((valuesOf c t).map ((part.matcher none test).ofValue c k)) := by
        rw [List.map_map, hvalue]
        rfl

/-- How requests and values go together in a context. -/
structure LevelsAgree (c : FilterContext) : Prop where
  tree : ∀ k t, Indifferent k t → ∀ v, t.ofValue c k v = t.ofRequest c
  rule : ∀ r, Uniform r → ∀ v v', r.ruling c v = r.ruling c v'
  filter : ∀ f k, (∀ r, Applies f c k r → Uniform r) →
    (f.run c).2.filtered.find? k = none ∨ (f.run c).2.filtered.find? k = c.unfiltered.find? k
  named : ∀ (part : Part) test t k, (part.matcher (some t) test).ofRequest c =
    .any ((valuesOf c t).map ((part.matcher none test).ofValue c k))
  missing : ∀ (part : Part) test t, c.unfiltered.find? t = none →
    (part.matcher (some t) test).ofRequest c = .no
  decided : ∀ (part : Part) test t, (part.matcher (some t) test).ofRequest c ≠ .fail

/-- **Requests and values agree** wherever no value is at hand to be tested. -/
theorem levels_agree (c : FilterContext) : LevelsAgree c where
  tree k t h v := ofValue_eq_ofRequest h v
  rule r h v v' := ruling_eq_of_uniform h v v'
  filter f k h := find?_of_uniform h
  named part test t k := ofRequest_eq_any t
  missing part test t h := by
    rw [ofRequest_some, valuesOf, h]
    rfl
  decided part test t := by
    rw [ofRequest_some]
    exact ofBool_ne_fail _

/-- Addresses go out for who is entitled to it, except to a crawler. -/
def entitledMail : AttributeRule where
  attributeId := "mail"
  permit := [.leaf (.attributeValue (some "entitlement") (.same "urn:example:vip"))]
  deny := [.leaf (.partyId .requester (.same "https://crawler.example"))]

def entitled : AttributeFilter :=
  (AttributeFilter.build "entitled" [
    { id := "vip", requirement := .leaf .any, rules := [entitledMail] }]).toOption.get rfl

def mailOfVip : Attribute where
  id := "mail"
  values := [.string "ada@b.example", .bytes [0], .withScope "ada" "b.example"]

def fromShop : FilterContext where
  requester := some "https://shop.example"
  unfiltered := .ofList [("mail", mailOfVip),
    ("entitlement", { id := "entitlement", values := [.string "urn:example:vip"] })]

theorem entitled_agree : Uniform entitledMail ∧
    (∀ v v', entitledMail.ruling fromShop v = entitledMail.ruling fromShop v') ∧
    (entitled.run fromShop).2.filtered.find? "mail" = some mailOfVip ∧
    (entitled.run fromShop).1.removed = ["entitlement"] := by
  have huniform : Uniform entitledMail := by
    simp [Uniform, entitledMail, Indifferent, leaves, TestsValuesOf, About]
  exact ⟨huniform, (levels_agree fromShop).rule entitledMail huniform, rfl, rfl⟩

end AttributeRelease.Proofs.Levels
