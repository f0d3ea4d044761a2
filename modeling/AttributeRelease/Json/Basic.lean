import AttributeRelease.Decimal.Binary64
import AttributeRelease.SortedMap

/-!
JSON values.

Whole numbers and binary numbers are different values even where they are equal as numbers. An
object is a list of fields; objects that are read from text list theirs in the order of their keys,
so that two of them are equal if they have the same fields.
-/

namespace AttributeRelease

inductive Json where
  | null
  | bool (b : Bool)
  | int (n : Int)
  | float (x : Binary64)
  | str (s : String)
  | arr (items : List Json)
  | obj (fields : List (String × Json))

namespace Json

instance : Inhabited Json := ⟨null⟩

mutual

/-- Equality of values, under which the two zeros are one number. -/
def beq : Json → Json → Bool
  | null, null => true
  | bool a, bool b => a == b
  | int a, int b => a == b
  | float a, float b => a == b
  | str a, str b => a == b
  | arr a, arr b => beqItems a b
  | obj a, obj b => beqFields a b
  | _, _ => false

def beqItems : List Json → List Json → Bool
  | [], [] => true
  | a :: as, b :: bs => beq a b && beqItems as bs
  | _, _ => false

def beqFields : List (String × Json) → List (String × Json) → Bool
  | [], [] => true
  | (k, a) :: as, (l, b) :: bs => k == l && beq a b && beqFields as bs
  | _, _ => false

end

instance : BEq Json := ⟨beq⟩

mutual

/-- How deep arrays and objects nest. A value without parts has depth one. -/
def depth : Json → Nat
  | arr items => depthItems items + 1
  | obj fields => depthFields fields + 1
  | _ => 1

def depthItems : List Json → Nat
  | [] => 0
  | a :: rest => max (depth a) (depthItems rest)

def depthFields : List (String × Json) → Nat
  | [] => 0
  | (_, a) :: rest => max (depth a) (depthFields rest)

end

def ofStrings (l : List String) : Json := arr (l.map str)

end Json

end AttributeRelease
