import AttributeRelease.SortedMap

/-!
What is known about the parties of a request: the groups they belong to and attributes of their
own.
-/

namespace AttributeRelease

/-- The two parties of a release. -/
inductive Party where
  | requester
  | issuer
deriving DecidableEq, Repr

namespace Party

def name : Party → String
  | requester => "requester"
  | issuer => "issuer"

def every : List Party := [requester, issuer]

def ofName? (s : String) : Option Party := every.find? (·.name = s)

end Party

/-- A group and the groups around it, the nearest first. A chain in which every group holds the one
around it comes to the same, as there is nothing more to a group than its name. -/
structure EntityGroup where
  name : String
  ancestors : List String := []
deriving DecidableEq, Repr

namespace EntityGroup

/-- The group with the first name inside of groups with the other names. -/
def chain? : List String → Option EntityGroup
  | [] => none
  | name :: ancestors => some ⟨name, ancestors⟩

/-- Puts a group into another one. -/
def withParent (g parent : EntityGroup) : EntityGroup := ⟨g.name, parent.name :: parent.ancestors⟩

def isWithin (g : EntityGroup) (name : String) : Bool := (g.name :: g.ancestors).contains name

end EntityGroup

structure PartyDescriptor where
  entityId : String
  group : Option EntityGroup := none
  attributes : SortedMap (List String) := .empty
deriving DecidableEq

namespace PartyDescriptor

/-- Adds values under a name, behind those that are there. -/
def addValues (p : PartyDescriptor) (name : String) (values : List String) : PartyDescriptor :=
  { p with attributes := p.attributes.update name fun old => old.getD [] ++ values }

end PartyDescriptor

/-- Descriptors by entity id. -/
abbrev Metadata := SortedMap PartyDescriptor

/-- Adds a party in the place of one with the same id. -/
def Metadata.add (m : Metadata) (p : PartyDescriptor) : Metadata := m.insert p.entityId p

def Metadata.ofParties (l : List PartyDescriptor) : Metadata := l.foldl .add .empty

end AttributeRelease
