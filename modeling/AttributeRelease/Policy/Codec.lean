import AttributeRelease.Attribute.Codec
import AttributeRelease.Policy.Filter

/-!
Outcomes, parties and reports as JSON.
-/

namespace AttributeRelease

open Json

namespace Tristate

def toJson (t : Tristate) : Json := .str t.name

def ofJson? (j : Json) : Option Tristate := (Manner.exact.name? (every.map name) j).bind ofName?

end Tristate

namespace EntityGroup

/-- Each group holds the one around it. -/
def nested (name : String) : List String → Json
  | [] => .obj [("name", .str name)]
  | parent :: rest => .obj [("name", .str name), ("parent", nested parent rest)]

def toJson (g : EntityGroup) : Json := nested g.name g.ancestors

/-- Reads groups that nest no deeper than a bound. -/
def ofNested? : Nat → Json → Option EntityGroup
  | 0, _ => none
  | depth + 1, j => do
    let f ← fields? .exact ["name", "parent"] j
    let g : EntityGroup := { name := ← f.get? "name" Manner.exact.text? }
    match ← f.maybe? "parent" (ofNested? depth) with
    | none => return g
    | some parent => return g.withParent parent

def ofJson? (j : Json) : Option EntityGroup := ofNested? j.depth j

end EntityGroup

namespace PartyDescriptor

def toJson (p : PartyDescriptor) : Json :=
  let attributes := p.attributes.entries.map fun e => (e.1, ofStrings e.2)
  .obj ([("entity_id", .str p.entityId)] ++
    field? "group" (p.group.map (·.toJson)) ++
    field? "attributes" (if attributes.isEmpty then none else some (.obj attributes)))

def ofJson? (j : Json) : Option PartyDescriptor := do
  let m := Manner.exact
  let f ← fields? m ["entity_id", "group", "attributes"] j
  return {
    entityId := ← f.get? "entity_id" m.text?
    group := ← f.maybe? "group" EntityGroup.ofJson?
    attributes := ← f.getD? "attributes" (mapOf? (strings? m)) .empty }

end PartyDescriptor

def RuleSide.name : RuleSide → String
  | permit => "permit"
  | deny => "deny"

def PolicyOutcome.toJson (o : PolicyOutcome) : Json :=
  .obj [("policy", .str o.policy), ("requirement", o.requirement.toJson)]

def ValueFailure.toJson (f : ValueFailure) : Json :=
  .obj [("policy", .str f.policy), ("attribute", .str f.attributeId), ("value", f.value.toJson),
    ("side", .str f.side.name)]

def FilterReport.toJson (r : FilterReport) : Json :=
  .obj [("policies", .arr (r.policies.map (·.toJson))),
    ("value_failures", .arr (r.valueFailures.map (·.toJson))),
    ("released", ofStrings r.released), ("removed", ofStrings r.removed),
    ("denied_values", .int r.deniedValues)]

end AttributeRelease
