import AttributeRelease.Decimal.Shortest
import AttributeRelease.Json.Basic
import AttributeRelease.Text.Lowercase

/-!
Reading typed values from JSON values.

A record is read from an object or from an array of its fields in order. Settings come from files
and variables in which the type of a value is a guess, so there texts, numbers and truth values
stand for each other; what belongs to a tagged choice is read as it is in any case.
-/

namespace AttributeRelease.Json

/-- How values are read: as they are or with conversions, and above or below a tagged choice. -/
inductive Manner where
  | exact
  | exactBelow
  | converting
  | convertingBelow
deriving DecidableEq

namespace Manner

def below : Manner → Manner
  | exact | exactBelow => exactBelow
  | converting | convertingBelow => convertingBelow

def text? (m : Manner) : Json → Option String
  | str s => some s
  | bool b => if m = converting then some (if b then "true" else "false") else none
  | int n => if m = converting then some (toString n) else none
  | float x => if m = converting then some (Decimal.plainText x) else none
  | _ => none

/-- The truth values that words stand for. -/
def flagOfWord? (s : String) : Option Bool :=
  match Text.lowercase s with
  | "1" | "true" | "on" | "yes" => some true
  | "0" | "false" | "off" | "no" => some false
  | _ => none

def flag? (m : Manner) : Json → Option Bool
  | bool b => some b
  | int n => if m = converting then some (n != 0) else none
  | float x => if m = converting then some !x.isZero else none
  | str s => if m = converting then flagOfWord? s else none
  | _ => none

/-- The name of a tagged choice. Below another choice it may be given by its place. -/
def tag? (m : Manner) (names : List String) : Json → Option String
  | str s => if names.contains s then some s else none
  | int (.ofNat n) => if m = exactBelow then names[n]? else none
  | _ => none

/-- One of several names, perhaps as the key of an empty field. -/
def name? (m : Manner) (names : List String) : Json → Option String
  | str s => if names.contains s then some s else none
  | obj [(s, null)] => if names.contains s then some s else none
  | obj [(s, obj [])] =>
    if (m = exactBelow ∨ m = convertingBelow) ∧ names.contains s then some s else none
  | _ => none

end Manner

def list? {α : Type} (item : Json → Option α) : Json → Option (List α)
  | arr items => items.mapM item
  | _ => none

def mapOf? {α : Type} (item : Json → Option α) : Json → Option (SortedMap α)
  | obj fields => do return .ofList (← fields.mapM fun f => (item f.2).map (f.1, ·))
  | _ => none

def optional? {α : Type} (item : Json → Option α) : Json → Option (Option α)
  | null => some none
  | j => (item j).map some

def strings? (m : Manner) : Json → Option (List String) := list? m.text?

abbrev Fields := List (String × Json)

/-- The fields of a record with the given names. -/
def fields? (m : Manner) (names : List String) : Json → Option Fields
  | obj fields => some fields
  | arr items =>
    if m ≠ .converting ∧ names.length < items.length then none else some (names.zip items)
  | _ => none

namespace Fields

variable {α : Type} (f : Fields) (name : String)

def get? (item : Json → Option α) : Option α := f.lookup name |>.bind item

/-- A field with a value to take if it is missing. -/
def getD? (item : Json → Option α) (default : α) : Option α :=
  match f.lookup name with
  | none => some default
  | some j => item j

def maybe? (item : Json → Option α) : Option (Option α) := f.getD? name (optional? item) none

end Fields

/-! ### Writing -/

/-- A field that is left out if there is nothing to write. -/
def field? (name : String) (value : Option Json) : List (String × Json) :=
  match value with
  | none => []
  | some j => [(name, j)]

def unlessEmpty (items : List Json) : Option Json :=
  if items.isEmpty then none else some (arr items)

def stringMap (m : SortedMap String) : Json := obj (m.entries.map fun e => (e.1, str e.2))

end AttributeRelease.Json
