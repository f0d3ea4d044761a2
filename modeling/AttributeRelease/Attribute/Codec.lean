import AttributeRelease.Attribute.Basic
import AttributeRelease.Json.Decode

/-!
Attributes and values as JSON.

Reading an attribute takes its values and texts as they are written: only building one removes
repetitions and blanks.
-/

namespace AttributeRelease

open Json

namespace ValueKind

def ofJson? (j : Json) : Option ValueKind :=
  (Manner.exact.name? (every.map name) j).bind ofName?

def toJson (k : ValueKind) : Json := .str k.name

end ValueKind

namespace AttributeValue

def toJson : AttributeValue → Json
  | string s => .obj [("type", .str "string"), ("value", .str s)]
  | withScope s scope =>
    .obj [("type", .str "scoped"), ("value", .obj [("value", .str s), ("scope", .str scope)])]
  | bytes b =>
    .obj [("type", .str "bytes"), ("value", .arr (b.map fun x => .int x.toNat))]
  | structured j => .obj [("type", .str "structured"), ("value", j)]

def byte? : Json → Option UInt8
  | .int (.ofNat n) => if n < 256 then some (.ofNat n) else none
  | _ => none

/-- Bytes are a list of numbers, or the encoding of a text. -/
def bytes? : Json → Option (List UInt8)
  | .str s => some s.toUTF8.toList
  | j => list? byte? j

def withScope? (j : Json) : Option AttributeValue := do
  let f ← fields? .exact ["value", "scope"] j
  return withScope (← f.get? "value" Manner.exact.text?) (← f.get? "scope" Manner.exact.text?)

def ofJson? (j : Json) : Option AttributeValue := do
  let f ← fields? .exact ["type", "value"] j
  let tag ← f.get? "type" (Manner.exact.name? (ValueKind.every.map (·.name)))
  let value ← f.lookup "value"
  match ← ValueKind.ofName? tag with
  | .string => return string (← Manner.exact.text? value)
  | .withScope => withScope? value
  | .bytes => return bytes (← bytes? value)
  | .structured => return structured value

end AttributeValue

namespace Encoder

def toJson (e : Encoder) : Json :=
  .obj ([("protocol", .str e.protocol), ("name", .str e.name)] ++
    field? "name_format" (e.nameFormat.map .str) ++
    field? "friendly_name" (e.friendlyName.map .str))

def ofJson? (m : Manner) (j : Json) : Option Encoder := do
  let f ← fields? m ["protocol", "name", "name_format", "friendly_name"] j
  return {
    protocol := ← f.get? "protocol" m.text?
    name := ← f.get? "name" m.text?
    nameFormat := ← f.maybe? "name_format" m.text?
    friendlyName := ← f.maybe? "friendly_name" m.text? }

end Encoder

namespace Attribute

def toJson (a : Attribute) : Json :=
  .obj ([("id", .str a.id), ("values", .arr (a.values.map (·.toJson)))] ++
    field? "display_names" (if a.displayNames.isEmpty then none else stringMap a.displayNames) ++
    field? "display_descriptions"
      (if a.displayDescriptions.isEmpty then none else stringMap a.displayDescriptions) ++
    field? "encoders" (unlessEmpty (a.encoders.map (·.toJson))))

def ofJson? (j : Json) : Option Attribute := do
  let m := Manner.exact
  let f ← fields? m ["id", "values", "display_names", "display_descriptions", "encoders"] j
  return {
    id := ← f.get? "id" m.text?
    values := ← f.get? "values" (list? AttributeValue.ofJson?)
    displayNames := ← f.getD? "display_names" (mapOf? m.text?) .empty
    displayDescriptions := ← f.getD? "display_descriptions" (mapOf? m.text?) .empty
    encoders := ← f.getD? "encoders" (list? (Encoder.ofJson? m)) [] }

end Attribute

namespace AttributeMap

def toJson (m : AttributeMap) : Json := .obj (m.entries.map fun e => (e.1, e.2.toJson))

def ofJson? (j : Json) : Option AttributeMap := mapOf? Attribute.ofJson? j

end AttributeMap

end AttributeRelease
