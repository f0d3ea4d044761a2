import AttributeRelease.Attribute.Value
import AttributeRelease.SortedMap
import AttributeRelease.Text.Blank

/-!
Attributes: a name, a set of values in the order in which they came, and what an application needs
to show the attribute or to send it on.
-/

namespace AttributeRelease

/-- How an attribute is written in an outbound protocol. -/
structure Encoder where
  protocol : String
  name : String
  nameFormat : Option String := none
  friendlyName : Option String := none
deriving DecidableEq, Repr

/-- Texts by language tag. -/
abbrev Localized := SortedMap String

structure Attribute where
  id : String
  values : List AttributeValue := []
  displayNames : Localized := .empty
  displayDescriptions : Localized := .empty
  encoders : List Encoder := []

/-- Attributes by key. A key may differ from the attribute's own name. -/
abbrev AttributeMap := SortedMap Attribute

/-- Drops blank texts and trims the others. -/
def Localized.trimmed (texts : Localized) : Localized :=
  texts.filterMap fun _ s => if Text.isBlank s then none else some (Text.trim s)

namespace Attribute

def contains (a : Attribute) (v : AttributeValue) : Bool := a.values.any (v == ·)

/-- Adds a value at the end unless it is there already, and says whether it was new. -/
def addNew (a : Attribute) (v : AttributeValue) : Attribute × Bool :=
  if a.contains v then (a, false) else ({ a with values := a.values ++ [v] }, true)

def add (a : Attribute) (v : AttributeValue) : Attribute := (a.addNew v).1

def addAll (a : Attribute) (vs : List AttributeValue) : Attribute := vs.foldl add a

/-- Asks about values one after the other. An answer may hang on what was asked about before. -/
def keepInTurn (keep : List AttributeValue → AttributeValue → Bool)
    (asked : List AttributeValue) : List AttributeValue → List AttributeValue
  | [] => []
  | v :: rest =>
    let kept := keepInTurn keep (asked ++ [v]) rest
    if keep asked v then v :: kept else kept

def retainInTurn (a : Attribute) (keep : List AttributeValue → AttributeValue → Bool) :
    Attribute :=
  { a with values := keepInTurn keep [] a.values }

/-- Answers that hang on nothing but the value. -/
def retain (a : Attribute) (keep : AttributeValue → Bool) : Attribute :=
  a.retainInTurn fun _ => keep

theorem keepInTurn_const (keep : AttributeValue → Bool) (asked vs : List AttributeValue) :
    keepInTurn (fun _ => keep) asked vs = vs.filter keep := by
  induction vs generalizing asked with
  | nil => rfl
  | cons v vs ih => rw [keepInTurn, ih, List.filter_cons]

theorem retain_eq (a : Attribute) (keep : AttributeValue → Bool) :
    a.retain keep = { a with values := a.values.filter keep } := by
  rw [retain, retainInTurn, keepInTurn_const]

def isEmpty (a : Attribute) : Bool := a.values.isEmpty

def withDisplayNames (a : Attribute) (texts : Localized) : Attribute :=
  { a with displayNames := texts.trimmed }

def withDisplayDescriptions (a : Attribute) (texts : Localized) : Attribute :=
  { a with displayDescriptions := texts.trimmed }

def withEncoders (a : Attribute) (encoders : List Encoder) : Attribute := { a with encoders }

end Attribute

end AttributeRelease
