import AttributeRelease.Attribute.Basic
import AttributeRelease.Policy.Party

/-!
The request in which attributes are released.

Nothing in it has to be known. The attributes come in as the unfiltered ones, and filtering leaves
its result beside them.
-/

namespace AttributeRelease

structure FilterContext where
  principal : Option String := none
  requester : Option String := none
  issuer : Option String := none
  requesterMetadata : Option PartyDescriptor := none
  issuerMetadata : Option PartyDescriptor := none
  unfiltered : AttributeMap := .empty
  filtered : AttributeMap := .empty

namespace FilterContext

def party (c : FilterContext) : Party → Option String
  | .requester => c.requester
  | .issuer => c.issuer

def metadata (c : FilterContext) : Party → Option PartyDescriptor
  | .requester => c.requesterMetadata
  | .issuer => c.issuerMetadata

/-- Looks up the parties that are known by id, and forgets what was known of those not found. -/
def withMetadata (c : FilterContext) (m : Metadata) : FilterContext :=
  let look (id : Option String) (known : Option PartyDescriptor) :=
    match id with
    | some id => m.find? id
    | none => known
  { c with
    requesterMetadata := look c.requester c.requesterMetadata
    issuerMetadata := look c.issuer c.issuerMetadata }

/-- Takes the filtered attributes out. -/
def take (c : FilterContext) : AttributeMap × FilterContext :=
  (c.filtered, { c with filtered := .empty })

end FilterContext

end AttributeRelease
