import AttributeRelease.Policy.Context
import AttributeRelease.Policy.TextTest
import AttributeRelease.Policy.Tristate

/-!
Matchers, the leaves of rules.

A matcher is asked about the request as a whole or about one value of an attribute. What it cannot
decide for want of information comes out as a failure, never as a no.
-/

namespace AttributeRelease

inductive Matcher where
  | any
  | partyId (party : Party) (test : TextTest)
  | principal (test : TextTest)
  /-- Tests values; with a target it is about all values of that attribute. -/
  | attributeValue (target : Option String) (test : TextTest)
  | attributeScope (target : Option String) (test : TextTest)
  | inEntityGroup (party : Party) (group : String)
  | entityAttribute (party : Party) (attributeId : String) (test : TextTest)

namespace Matcher

def name : Matcher → String
  | any => "any"
  | partyId _ _ => "party-id"
  | principal _ => "principal"
  | attributeValue _ _ => "attribute-value"
  | attributeScope _ _ => "attribute-scope"
  | inEntityGroup _ _ => "in-entity-group"
  | entityAttribute _ _ _ => "entity-attribute"

/-- The test of something that may be missing. -/
def known (test : TextTest) : Option String → Tristate
  | some s => .ofBool (test.holds s)
  | none => .fail

def textHolds (test : TextTest) (v : AttributeValue) : Bool := v.text?.any test.holds

def scopeHolds (test : TextTest) (v : AttributeValue) : Bool := v.scope?.any test.holds

/-- Some value of an attribute passes; an attribute that is not there has no values. -/
def someValue (c : FilterContext) (target : String) (p : AttributeValue → Bool) : Tristate :=
  .ofBool ((c.unfiltered.find? target).any fun a => a.values.any p)

/-- The outcome for the request as a whole. -/
def ofRequest (c : FilterContext) : Matcher → Tristate
  | any => .yes
  | partyId party test => known test (c.party party)
  | principal test => known test c.principal
  | attributeValue (some target) test => someValue c target (textHolds test)
  | attributeScope (some target) test => someValue c target (scopeHolds test)
  | attributeValue none _ | attributeScope none _ => .fail
  | inEntityGroup party group =>
    if Text.isBlank group then .fail
    else
      match (c.metadata party).bind (·.group) with
      | some g => .ofBool (g.isWithin group)
      | none => .fail
  | entityAttribute party attributeId test =>
    match c.metadata party with
    | some p => .ofBool ((p.attributes.find? attributeId).any (·.any test.holds))
    | none => .fail

/-- Whether a test of values is about the values of an attribute one by one. -/
def targets (target : Option String) (attributeId : String) : Bool := target.all (· = attributeId)

/-- The outcome for one value of an attribute. -/
def ofValue (c : FilterContext) (attributeId : String) (v : AttributeValue) : Matcher → Tristate
  | attributeValue target test =>
    if targets target attributeId then .ofBool (textHolds test v)
    else ofRequest c (attributeValue target test)
  | attributeScope target test =>
    if targets target attributeId then .ofBool (scopeHolds test v)
    else ofRequest c (attributeScope target test)
  | m => ofRequest c m

end Matcher

end AttributeRelease
