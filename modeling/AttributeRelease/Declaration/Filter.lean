import AttributeRelease.Declaration.Matcher

/-!
Declared filters: policies, their rules, and what is known about parties.
-/

namespace AttributeRelease

open Json

structure RuleDecl where
  attributeId : String
  permit : List MatcherDecl := []
  deny : List MatcherDecl := []

structure PolicyDecl where
  id : String
  requirement : MatcherDecl
  rules : List RuleDecl := []

structure FilterDecl where
  id : String := "default"
  /-- Whether withheld attributes are logged. -/
  audit : Bool := true
  policies : List PolicyDecl := []

structure EntityAttributeDecl where
  name : String
  values : List String
deriving DecidableEq, Repr

structure PartyDecl where
  entityId : String
  /-- The groups around the party, the innermost first. -/
  groups : List String := []
  attributes : List EntityAttributeDecl := []
deriving DecidableEq, Repr

structure MetadataDecl where
  parties : List PartyDecl := []
deriving DecidableEq, Repr

namespace RuleDecl

def toJson (r : RuleDecl) : Json :=
  .obj ([("attribute", .str r.attributeId)] ++
    field? "permit" (unlessEmpty (r.permit.map (·.toJson))) ++
    field? "deny" (unlessEmpty (r.deny.map (·.toJson))))

def ofJson? (m : Manner) (j : Json) : Option RuleDecl := do
  let f ← fields? m ["attribute", "permit", "deny"] j
  return {
    attributeId := ← f.get? "attribute" m.text?
    permit := ← f.getD? "permit" (list? (MatcherDecl.ofJson? m)) []
    deny := ← f.getD? "deny" (list? (MatcherDecl.ofJson? m)) [] }

end RuleDecl

namespace PolicyDecl

def toJson (p : PolicyDecl) : Json :=
  .obj [("id", .str p.id), ("requirement", p.requirement.toJson),
    ("rules", .arr (p.rules.map (·.toJson)))]

def ofJson? (m : Manner) (j : Json) : Option PolicyDecl := do
  let f ← fields? m ["id", "requirement", "rules"] j
  return {
    id := ← f.get? "id" m.text?
    requirement := ← f.get? "requirement" (MatcherDecl.ofJson? m)
    rules := ← f.getD? "rules" (list? (RuleDecl.ofJson? m)) [] }

end PolicyDecl

namespace FilterDecl

def toJson (d : FilterDecl) : Json :=
  .obj [("id", .str d.id), ("audit", .bool d.audit),
    ("policies", .arr (d.policies.map (·.toJson)))]

def ofJson? (m : Manner) (j : Json) : Option FilterDecl := do
  let f ← fields? m ["id", "audit", "policies"] j
  return {
    id := ← f.getD? "id" m.text? "default"
    audit := ← f.getD? "audit" m.flag? true
    policies := ← f.getD? "policies" (list? (PolicyDecl.ofJson? m)) [] }

end FilterDecl

/-! ### Metadata as JSON -/

namespace EntityAttributeDecl

def toJson (a : EntityAttributeDecl) : Json :=
  .obj [("name", .str a.name), ("values", ofStrings a.values)]

def ofJson? (m : Manner) (j : Json) : Option EntityAttributeDecl := do
  let f ← fields? m ["name", "values"] j
  return ⟨← f.get? "name" m.text?, ← f.get? "values" (strings? m)⟩

end EntityAttributeDecl

namespace PartyDecl

def toJson (p : PartyDecl) : Json :=
  .obj ([("entity_id", .str p.entityId)] ++
    field? "groups" (unlessEmpty (p.groups.map .str)) ++
    field? "attributes" (unlessEmpty (p.attributes.map (·.toJson))))

def ofJson? (m : Manner) (j : Json) : Option PartyDecl := do
  let f ← fields? m ["entity_id", "groups", "attributes"] j
  return {
    entityId := ← f.get? "entity_id" m.text?
    groups := ← f.getD? "groups" (strings? m) []
    attributes := ← f.getD? "attributes" (list? (EntityAttributeDecl.ofJson? m)) [] }

/-- What is known about a party. The values of attributes with one name come together. -/
def build (p : PartyDecl) : PartyDescriptor :=
  p.attributes.foldl (fun d a => d.addValues a.name a.values)
    { entityId := p.entityId, group := EntityGroup.chain? p.groups }

end PartyDecl

namespace MetadataDecl

def toJson (d : MetadataDecl) : Json := .obj [("parties", .arr (d.parties.map (·.toJson)))]

def ofJson? (m : Manner) (j : Json) : Option MetadataDecl := do
  let f ← fields? m ["parties"] j
  return { parties := ← f.getD? "parties" (list? (PartyDecl.ofJson? m)) [] }

def build (d : MetadataDecl) : Metadata := .ofParties (d.parties.map (·.build))

end MetadataDecl

end AttributeRelease
