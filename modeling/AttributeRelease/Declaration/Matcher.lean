import AttributeRelease.Declaration.Plugin
import AttributeRelease.Policy.Party

/-!
Declared matchers: trees whose leaves name what they test and how.
-/

namespace AttributeRelease

open Json

/-- How a text is tested. -/
inductive TestDecl where
  | string (value : String) (caseSensitive : Bool)
  | regex (pattern : String) (caseSensitive : Bool)
deriving DecidableEq, Repr

/-- What is tested. -/
inductive SubjectDecl where
  | requester
  | issuer
  | principal
  | value (target : Option String)
  | scope (target : Option String)
  | entityAttribute (party : Party) (name : String)
deriving DecidableEq, Repr

inductive MatcherDecl where
  | any
  | and (rules : List MatcherDecl)
  | or (rules : List MatcherDecl)
  | not (rule : MatcherDecl)
  | test (subject : SubjectDecl) (how : TestDecl)
  | inEntityGroup (party : Party) (group : String)

namespace TestDecl

def suffix : TestDecl → String
  | string _ _ => "string"
  | regex _ _ => "regex"

def fields : TestDecl → List (String × Json)
  | string value caseSensitive =>
    [("value", .str value), ("case_sensitive", .bool caseSensitive)]
  | regex pattern caseSensitive =>
    [("pattern", .str pattern), ("case_sensitive", .bool caseSensitive)]

end TestDecl

namespace SubjectDecl

def name : SubjectDecl → String
  | requester => "requester"
  | issuer => "issuer"
  | principal => "principal"
  | value _ => "value"
  | scope _ => "scope"
  | entityAttribute _ _ => "entity-attribute"

def fields : SubjectDecl → List (String × Json)
  | requester | issuer | principal => []
  | value target | scope target => field? "attribute" (target.map .str)
  | entityAttribute party name => [("party", .str party.name), ("attribute", .str name)]

end SubjectDecl

namespace MatcherDecl

mutual

def toJson : MatcherDecl → Json
  | any => .obj [("type", .str "any")]
  | and rules => .obj [("type", .str "and"), ("rules", .arr (toJsons rules))]
  | or rules => .obj [("type", .str "or"), ("rules", .arr (toJsons rules))]
  | not rule => .obj [("type", .str "not"), ("rule", toJson rule)]
  | test subject how =>
    .obj (("type", .str (subject.name ++ "-" ++ how.suffix)) :: subject.fields ++ how.fields)
  | inEntityGroup party group =>
    .obj [("type", .str "in-entity-group"), ("party", .str party.name), ("group", .str group)]

def toJsons : List MatcherDecl → List Json
  | [] => []
  | r :: rest => toJson r :: toJsons rest

end

/-! ### Reading -/

def typeNames : List String :=
  ["any", "and", "or", "not", "requester-string", "requester-regex", "issuer-string",
    "issuer-regex", "principal-string", "principal-regex", "value-string", "value-regex",
    "scope-string", "scope-regex", "in-entity-group", "entity-attribute-string",
    "entity-attribute-regex"]

def party? (m : Manner) (f : Fields) : Option Party :=
  f.getD? "party" (fun j => (m.name? (Party.every.map Party.name) j).bind Party.ofName?) .requester

/-- Reads how the subject is tested, given the names of the fields before. -/
def test? (m : Manner) (names : List String) (regex : Bool) (subject : Fields → Option SubjectDecl)
    (j : Json) : Option MatcherDecl := do
  let key := if regex then "pattern" else "value"
  let f ← fields? m (names ++ [key, "case_sensitive"]) j
  let subject ← subject f
  let text ← f.get? key m.text?
  let caseSensitive ← f.getD? "case_sensitive" m.flag? true
  return test subject (if regex then .regex text caseSensitive else .string text caseSensitive)

def target? (m : Manner) (f : Fields) : Option (Option String) := f.maybe? "attribute" m.text?

def entityAttribute? (m : Manner) (f : Fields) : Option SubjectDecl := do
  return .entityAttribute (← party? m f) (← f.get? "attribute" m.text?)

def inEntityGroup? (m : Manner) (j : Json) : Option MatcherDecl := do
  let f ← fields? m ["party", "group"] j
  return inEntityGroup (← party? m f) (← f.get? "group" m.text?)

/-- Reads what has no matchers in it. -/
def leaf? (m : Manner) (tag : String) (j : Json) : Option MatcherDecl :=
  match tag with
  | "any" => (unit? j).map fun _ => any
  | "requester-string" => test? m [] false (fun _ => some .requester) j
  | "requester-regex" => test? m [] true (fun _ => some .requester) j
  | "issuer-string" => test? m [] false (fun _ => some .issuer) j
  | "issuer-regex" => test? m [] true (fun _ => some .issuer) j
  | "principal-string" => test? m [] false (fun _ => some .principal) j
  | "principal-regex" => test? m [] true (fun _ => some .principal) j
  | "value-string" => test? m ["attribute"] false (fun f => (target? m f).map .value) j
  | "value-regex" => test? m ["attribute"] true (fun f => (target? m f).map .value) j
  | "scope-string" => test? m ["attribute"] false (fun f => (target? m f).map .scope) j
  | "scope-regex" => test? m ["attribute"] true (fun f => (target? m f).map .scope) j
  | "in-entity-group" => inEntityGroup? m j
  | "entity-attribute-string" => test? m ["party", "attribute"] false (entityAttribute? m) j
  | "entity-attribute-regex" => test? m ["party", "attribute"] true (entityAttribute? m) j
  | _ => none

/-- Reads matchers that nest no deeper than a bound. -/
def ofNested? : Nat → Manner → Json → Option MatcherDecl
  | 0, _, _ => none
  | depth + 1, m, j => do
    let (tag, rest) ← tagged? m typeNames j
    let m := m.below
    match tag with
    | "and" => return and (← (← fields? m ["rules"] rest).get? "rules" (list? (ofNested? depth m)))
    | "or" => return or (← (← fields? m ["rules"] rest).get? "rules" (list? (ofNested? depth m)))
    | "not" => return not (← (← fields? m ["rule"] rest).get? "rule" (ofNested? depth m))
    | tag => leaf? m tag rest

def ofJson? (m : Manner) (j : Json) : Option MatcherDecl := ofNested? j.depth m j

end MatcherDecl

end AttributeRelease
