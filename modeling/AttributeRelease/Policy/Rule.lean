import AttributeRelease.Policy.Error
import AttributeRelease.Policy.Matcher

/-!
Rule trees, the rules of attributes and policies.

A tree is evaluated by the outcomes of its leaves. It is sound if no conjunction or disjunction in
it is empty.
-/

namespace AttributeRelease

inductive MatchRule where
  | leaf (m : Matcher)
  | all (children : List MatchRule)
  | any (children : List MatchRule)
  | not (child : MatchRule)

namespace MatchRule

mutual

/-- The outcome of a tree, given those of its leaves. -/
def evaluate (outcome : Matcher → Tristate) : MatchRule → Tristate
  | leaf m => outcome m
  | all children => .all (evaluateList outcome children)
  | any children => .any (evaluateList outcome children)
  | not child => (evaluate outcome child).not

def evaluateList (outcome : Matcher → Tristate) : List MatchRule → List Tristate
  | [] => []
  | r :: rest => evaluate outcome r :: evaluateList outcome rest

end

def ofRequest (r : MatchRule) (c : FilterContext) : Tristate := r.evaluate (Matcher.ofRequest c)

def ofValue (r : MatchRule) (c : FilterContext) (attributeId : String) (v : AttributeValue) :
    Tristate :=
  r.evaluate (Matcher.ofValue c attributeId v)

mutual

/-- Refuses empty conjunctions and disjunctions. -/
def check (policy : String) (place : RulePlace) : MatchRule → Except FilterError Unit
  | leaf _ => .ok ()
  | all [] => .error (.emptyCombinator policy .all place)
  | any [] => .error (.emptyCombinator policy .any place)
  | all (r :: rest) => checkList policy place (r :: rest)
  | any (r :: rest) => checkList policy place (r :: rest)
  | not child => check policy place child

def checkList (policy : String) (place : RulePlace) : List MatchRule → Except FilterError Unit
  | [] => .ok ()
  | r :: rest => do
    check policy place r
    checkList policy place rest

end

end MatchRule

/-- Which values of an attribute a policy permits, and which it denies. -/
structure AttributeRule where
  attributeId : String
  permit : List MatchRule := []
  deny : List MatchRule := []

namespace AttributeRule

/-- One permission is enough. -/
def permits (r : AttributeRule) (c : FilterContext) (v : AttributeValue) : Tristate :=
  .any (r.permit.map fun t => t.ofValue c r.attributeId v)

def denies (r : AttributeRule) (c : FilterContext) (v : AttributeValue) : Tristate :=
  .any (r.deny.map fun t => t.ofValue c r.attributeId v)

def check (policy : String) (r : AttributeRule) : Except FilterError Unit := do
  if Text.isBlank r.attributeId then throw (.missingAttributeId policy)
  if r.permit.isEmpty ∧ r.deny.isEmpty then throw (.emptyRule policy r.attributeId)
  MatchRule.checkList policy (.permit r.attributeId) r.permit
  MatchRule.checkList policy (.deny r.attributeId) r.deny

end AttributeRule

/-- Attribute rules and the requirement under which they apply. -/
structure FilterPolicy where
  id : String
  requirement : MatchRule
  rules : List AttributeRule := []

def FilterPolicy.check (p : FilterPolicy) : Except FilterError Unit := do
  p.requirement.check p.id .requirement
  p.rules.forM (AttributeRule.check p.id)

end AttributeRelease
