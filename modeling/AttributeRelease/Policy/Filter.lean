import AttributeRelease.Policy.Rule

/-!
Filtering attributes.

All applicable rules are gone through in order, and for each attribute that some rule names the
pass keeps a mark for every value: permitted or not, denied or not. A value survives if it is
permitted and not denied. A deny rule that fails counts as a denial, a permit rule that fails as
no permission. What is logged on the way is left out: the report tells all that can be observed.
-/

namespace AttributeRelease

structure AttributeFilter where
  id : String
  policies : List FilterPolicy

namespace AttributeFilter

/-- Checks policies in order: first that the id is new, then the policy itself. -/
def checkPolicies (seen : List String) : List FilterPolicy → Except FilterError Unit
  | [] => .ok ()
  | p :: rest => do
    if seen.contains p.id then throw (.duplicatePolicy p.id)
    p.check
    checkPolicies (p.id :: seen) rest

def build (id : String) (policies : List FilterPolicy) : Except FilterError AttributeFilter := do
  checkPolicies [] policies
  return ⟨id, policies⟩

end AttributeFilter

structure PolicyOutcome where
  policy : String
  requirement : Tristate
deriving DecidableEq, Repr

inductive RuleSide where
  | permit
  | deny
deriving DecidableEq, Repr

/-- A permit or deny list that could not be decided for a value. -/
structure ValueFailure where
  policy : String
  attributeId : String
  value : AttributeValue
  side : RuleSide

structure FilterReport where
  policies : List PolicyOutcome := []
  valueFailures : List ValueFailure := []
  released : List String := []
  removed : List String := []
  deniedValues : Nat := 0

namespace FilterReport

/-- The outcome of the first policy with an id. -/
def outcome? (r : FilterReport) (policy : String) : Option Tristate :=
  (r.policies.find? (·.policy = policy)).map (·.requirement)

def withOutcome (r : FilterReport) (t : Tristate) : List String :=
  (r.policies.filter (·.requirement = t)).map (·.policy)

def applied (r : FilterReport) : List String := r.withOutcome .yes

def failed (r : FilterReport) : List String := r.withOutcome .fail

end FilterReport

/-- The mark of a value. -/
structure Verdict where
  permitted : Bool := false
  denied : Bool := false
deriving DecidableEq, Repr

def Verdict.survives (v : Verdict) : Bool := v.permitted && !v.denied

/-- The marks so far, for each key one per value, and the failures so far. -/
structure Tally where
  verdicts : SortedMap (List Verdict) := .empty
  failures : List ValueFailure := []

/-- What a rule says about one value. An empty list of matchers says nothing. -/
structure Ruling where
  permit : Option Tristate
  deny : Option Tristate

namespace AttributeRule

def ruling (r : AttributeRule) (c : FilterContext) (v : AttributeValue) : Ruling where
  permit := if r.permit.isEmpty then none else some (r.permits c v)
  deny := if r.deny.isEmpty then none else some (r.denies c v)

end AttributeRule

namespace Ruling

def mark (r : Ruling) (v : Verdict) : Verdict where
  permitted := v.permitted || r.permit = some .yes
  denied := v.denied || r.deny = some .yes || r.deny = some .fail

/-- The failures among the two sides of a ruling. -/
def failures (r : Ruling) (policy attributeId : String) (v : AttributeValue) : List ValueFailure :=
  (if r.permit = some .fail then [⟨policy, attributeId, v, .permit⟩] else []) ++
    (if r.deny = some .fail then [⟨policy, attributeId, v, .deny⟩] else [])

end Ruling

namespace Tally

/-- Applies a rule to all values under the key that it names. -/
def applyRule (c : FilterContext) (policy : String) (t : Tally) (r : AttributeRule) : Tally :=
  match c.unfiltered.find? r.attributeId with
  | none => t
  | some a =>
    let rulings := a.values.map fun v => (v, r.ruling c v)
    let marks := (t.verdicts.find? r.attributeId).getD (a.values.map fun _ => {})
    { verdicts := t.verdicts.insert r.attributeId (rulings.zipWith (fun u v => u.2.mark v) marks)
      failures := t.failures ++ rulings.flatMap fun u => u.2.failures policy r.attributeId u.1 }

def applyPolicy (c : FilterContext) (t : Tally) (p : FilterPolicy) : Tally :=
  if p.requirement.ofRequest c = .yes then p.rules.foldl (applyRule c p.id) t else t

/-- The values that survive, and how many were permitted and denied at once. -/
def settle (t : Tally) (key : String) (a : Attribute) : Attribute × Nat :=
  match t.verdicts.find? key with
  | none => ({ a with values := [] }, 0)
  | some marks =>
    let kept := (a.values.zip marks).filterMap fun u => if u.2.survives then some u.1 else none
    ({ a with values := kept }, marks.countP fun v => v.permitted && v.denied)

end Tally

/-! ### The pass -/

namespace AttributeFilter

def tally (f : AttributeFilter) (c : FilterContext) : Tally := f.policies.foldl (.applyPolicy c) {}

/-- Filters the attributes of a context and says what was done. -/
def run (f : AttributeFilter) (c : FilterContext) : FilterReport × FilterContext :=
  let t := f.tally c
  let settled := c.unfiltered.map t.settle
  let filtered := settled.filterMap fun _ s => if s.1.isEmpty then none else some s.1
  ({ policies := f.policies.map fun p => ⟨p.id, p.requirement.ofRequest c⟩
     valueFailures := t.failures
     released := filtered.keys
     removed := (settled.filter fun _ s => s.1.isEmpty).keys
     deniedValues := settled.values.foldl (fun n s => n + s.2) 0 },
    { c with filtered })

end AttributeFilter

end AttributeRelease
