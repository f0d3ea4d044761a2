/-!
Why a set of policies is refused.
-/

namespace AttributeRelease

/-- Where in a policy a rule tree stands. -/
inductive RulePlace where
  | requirement
  | permit (attributeId : String)
  | deny (attributeId : String)
deriving DecidableEq, Repr

def RulePlace.shown : RulePlace → String
  | requirement => "requirement"
  | permit a => s!"permit rule for '{a}'"
  | deny a => s!"deny rule for '{a}'"

inductive Combinator where
  | all
  | any
deriving DecidableEq, Repr

def Combinator.shown : Combinator → String
  | all => "AND"
  | any => "OR"

inductive FilterError where
  | duplicatePolicy (id : String)
  | emptyCombinator (policy : String) (combinator : Combinator) (place : RulePlace)
  | emptyRule (policy attributeId : String)
  | missingAttributeId (policy : String)
  | blankEntityGroup
  | invalidPattern (pattern : String)
deriving DecidableEq, Repr

/-- The text of an error. What is wrong with a pattern follows the text of its error. -/
def FilterError.message : FilterError → String
  | duplicatePolicy id => s!"duplicate filter policy '{id}'"
  | emptyCombinator policy combinator place =>
    s!"policy '{policy}': empty {combinator.shown} in {place.shown}"
  | emptyRule policy attributeId =>
    s!"policy '{policy}': rule for attribute '{attributeId}' has no matchers"
  | missingAttributeId policy => s!"policy '{policy}': attribute rule has no attribute id"
  | blankEntityGroup => "entity group matcher has no group id"
  | invalidPattern pattern => s!"invalid pattern '{pattern}': "

end AttributeRelease
