import AttributeRelease.Json.Printer
import AttributeRelease.Text.Base64

/-!
The values that attributes hold.

A value is a text, a text with a scope, bytes, or structured data that is carried as it is. Only
the first two have a textual part.
-/

namespace AttributeRelease

inductive ValueKind where
  | string
  | withScope
  | bytes
  | structured
deriving DecidableEq, Repr

namespace ValueKind

def name : ValueKind → String
  | string => "string"
  | withScope => "scoped"
  | bytes => "bytes"
  | structured => "structured"

def every : List ValueKind := [string, withScope, bytes, structured]

def ofName? (s : String) : Option ValueKind := every.find? (·.name = s)

end ValueKind

inductive AttributeValue where
  | string (text : String)
  | withScope (text scope : String)
  | bytes (data : List UInt8)
  | structured (data : Json)

namespace AttributeValue

/-- Values of different kinds differ, and structured data is compared as JSON. -/
def beq : AttributeValue → AttributeValue → Bool
  | string a, string b => a == b
  | withScope a s, withScope b t => a == b && s == t
  | bytes a, bytes b => a == b
  | structured a, structured b => a == b
  | _, _ => false

instance : BEq AttributeValue := ⟨beq⟩

def kind : AttributeValue → ValueKind
  | string _ => .string
  | withScope _ _ => .withScope
  | bytes _ => .bytes
  | structured _ => .structured

/-- The textual part, which is without the scope. -/
def text? : AttributeValue → Option String
  | string s => some s
  | withScope s _ => some s
  | _ => none

def scope? : AttributeValue → Option String
  | withScope _ s => some s
  | _ => none

/-- How a value is shown. -/
def shown : AttributeValue → String
  | string s => s
  | withScope s scope => s ++ "@" ++ scope
  | bytes b => Text.base64 b
  | structured j => j.compact

end AttributeValue

end AttributeRelease
