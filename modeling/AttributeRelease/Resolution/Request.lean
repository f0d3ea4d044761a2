import AttributeRelease.Attribute.Basic

/-!
What attributes are resolved for.

A request says who is asked about, by whom and for whom, and may be restricted to some attributes.
The context of a caller holds a request and the attributes that its last successful resolution
gave.
-/

namespace AttributeRelease

structure Request where
  principal : Option String := none
  issuer : Option String := none
  recipient : Option String := none
  authenticationMethod : Option String := none
  /-- Whether backends may answer from caches of their own. -/
  allowCached : Bool := true
  /-- The attributes asked for. If there are none, all are. -/
  requested : NameSet := .empty

structure ResolutionContext where
  request : Request := {}
  resolved : AttributeMap := .empty

/-- A request by itself stands for a context in which nothing has been resolved. -/
instance : Coe Request ResolutionContext := ⟨fun q => { request := q }⟩

namespace ResolutionContext

/-- Takes the resolved attributes out. -/
def take (c : ResolutionContext) : AttributeMap × ResolutionContext :=
  (c.resolved, { c with resolved := .empty })

end ResolutionContext

end AttributeRelease
