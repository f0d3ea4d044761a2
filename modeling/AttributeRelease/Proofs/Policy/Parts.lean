import AttributeRelease.Policy.Matcher
import Mathlib.Tactic.Common

/-!
Tests of values by their text or by their scope.

Both are the same test of different parts of a value. With an attribute named, it is about all
values of that attribute, except where these are filtered themselves; there, as without a name, it
is about the value at hand.
-/

namespace AttributeRelease.Proofs.Parts

/-- The parts of a value that can be tested. -/
inductive Part where
  | text
  | scope

namespace Part

def of? : Part → AttributeValue → Option String
  | text => AttributeValue.text?
  | scope => AttributeValue.scope?

def matcher : Part → Option String → TextTest → Matcher
  | text => .attributeValue
  | scope => .attributeScope

/-- A value that lacks the part does not pass. -/
def holds (part : Part) (test : TextTest) (v : AttributeValue) : Bool :=
  (part.of? v).any test.holds

end Part

/-- All values of an attribute in a request. -/
def valuesOf (c : FilterContext) (target : String) : List AttributeValue :=
  ((c.unfiltered.find? target).map (·.values)).getD []

/-- The test is about the values of an attribute one by one. -/
def About (target : Option String) (k : String) : Prop := target = none ∨ target = some k

variable {c : FilterContext} {part : Part} {target : Option String} {test : TextTest} {k : String}
  {v : AttributeValue}

lemma targets_iff : Matcher.targets target k = true ↔ About target k := by
  cases target <;> simp [Matcher.targets, About]

lemma ofRequest_none : (part.matcher none test).ofRequest c = .fail := by
  cases part <;> rfl

lemma ofRequest_some (t : String) : (part.matcher (some t) test).ofRequest c =
    .ofBool ((valuesOf c t).any (part.holds test)) := by
  have hsome : (part.matcher (some t) test).ofRequest c =
      Matcher.someValue c t (part.holds test) := by
    cases part <;> rfl
  rw [hsome, Matcher.someValue, valuesOf]
  cases c.unfiltered.find? t <;> rfl

lemma ofValue_about (part : Part) (h : About target k) :
    (part.matcher target test).ofValue c k v = .ofBool (part.holds test v) := by
  have htargets := targets_iff.2 h
  cases part <;> exact if_pos htargets

lemma ofValue_other (part : Part) (h : ¬ About target k) :
    (part.matcher target test).ofValue c k v = (part.matcher target test).ofRequest c := by
  have htargets := mt targets_iff.1 h
  cases part <;> exact if_neg htargets

end AttributeRelease.Proofs.Parts
