import AttributeRelease.Resolution.Backend
import AttributeRelease.Text.Lowercase

/-!
From what backends return to attributes.

Every raw value is listed with the attribute that it belongs to, and attributes are collected from
that list: one for each name in it, holding its values without repetitions.
-/

namespace AttributeRelease

/-- How what a backend returns becomes attributes. -/
abbrev ResultMapping (α : Type) := List α → Except PluginError AttributeMap

/-- New names for raw ones. A later entry for a name takes the place of an earlier one. -/
abbrev Renames := SortedMap String

def Renames.apply (r : Renames) (name : String) : String := (r.find? name).getD name

namespace AttributeMap

/-- Adds a value to the attribute of a name, which comes into being with its first value. -/
def addValue (m : AttributeMap) (id : String) (v : AttributeValue) : AttributeMap :=
  m.update id fun a => (a.getD { id }).add v

def ofValues (l : List (String × AttributeValue)) : AttributeMap :=
  l.foldl (fun m e => m.addValue e.1 e.2) .empty

end AttributeMap

structure EntryMapping where
  renames : Renames := .empty
  /-- Names whose values are bytes. -/
  binary : NameSet := .empty
  multipleResults : Bool := false

namespace EntryMapping

/-- Bytes that are asked for as text stay bytes if they are no text. -/
def value (binary : Bool) : RawValue → AttributeValue
  | .text s => if binary then .bytes s.toUTF8.toList else .string s
  | .binary data =>
    if binary then .bytes data
    else
      match String.fromUTF8? ⟨data.toArray⟩ with
      | some s => .string s
      | none => .bytes data

def valuesOfEntry (m : EntryMapping) (e : DirectoryEntry) : List (String × AttributeValue) :=
  e.attributes.entries.flatMap fun a =>
    a.2.map fun raw => (m.renames.apply a.1, value (m.binary.contains a.1) raw)

/-- Why a number of entries is refused. -/
def tooMany (n : Nat) : String := s!"search returned {n} entries, expected at most one"

def map (m : EntryMapping) : ResultMapping DirectoryEntry := fun entries =>
  if 1 < entries.length ∧ !m.multipleResults then .error (.ambiguousSearch (tooMany entries.length))
  else .ok (.ofValues (entries.flatMap m.valuesOfEntry))

end EntryMapping

/-! ### Rows -/

structure RowMapping where
  renames : Renames := .empty
  lowercase : Bool := false

namespace RowMapping

/-- Columns are put in lower case before they are renamed. -/
def attributeId (m : RowMapping) (column : String) : String :=
  m.renames.apply (if m.lowercase then Text.lowercase column else column)

def value? : SqlValue → Option AttributeValue
  | .null => none
  | .text s => some (.string s)
  | .integer n => some (.string (toString n))
  | .binary data => some (.bytes data)

def valuesOfRow (m : RowMapping) (r : Row) : List (String × AttributeValue) :=
  r.entries.filterMap fun c => (value? c.2).map (m.attributeId c.1, ·)

def map (m : RowMapping) (rows : List Row) : AttributeMap := .ofValues (rows.flatMap m.valuesOfRow)

/-- Rows are never refused. -/
def mapResult (m : RowMapping) : ResultMapping Row := fun rows => .ok (m.map rows)

end RowMapping

end AttributeRelease
