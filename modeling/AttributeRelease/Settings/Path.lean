import AttributeRelease.Decimal.Literal
import AttributeRelease.Json.Basic

/-!
Places in a tree of settings.

A place is a path of names and positions, written as in `a.b[0].c`. Putting a value at a place
makes whatever is missing on the way, and replaces what cannot be entered.
-/

namespace AttributeRelease.Settings

inductive PathStep where
  | name (s : String)
  | index (n : Int)
deriving DecidableEq, Repr

def isNameChar (c : Char) : Bool := c.isAlphanum || c = '_' || c = '-'

def skipSpace (s : List Char) : List Char := s.dropWhile fun c => c = ' ' || c = '\t'

/-- Reads a position behind its opening bracket. -/
def index? (s : List Char) : Option (Int × List Char) :=
  let (negative, s) := match skipSpace s with
    | '-' :: rest => (true, rest)
    | rest => (false, rest)
  let digits := s.takeWhile Char.isDigit
  let n := if negative then -(Decimal.digitsValue digits : Int) else Decimal.digitsValue digits
  match digits, skipSpace (s.drop digits.length) with
  | _ :: _, ']' :: rest => if Decimal.isWord n then some (n, rest) else none
  | _, _ => none

def steps? : Nat → List Char → Option (List PathStep)
  | 0, _ => none
  | _, [] => some []
  | fuel + 1, '.' :: rest =>
    match rest.takeWhile isNameChar with
    | [] => none
    | name => (steps? fuel (rest.drop name.length)).map (.name (.ofList name) :: ·)
  | fuel + 1, '[' :: rest => do
    let (n, rest) ← index? rest
    return .index n :: (← steps? fuel rest)
  | _, _ => none

/-- The path that a key stands for. What is no path is a single name. -/
def pathOf (key : String) : List PathStep :=
  let s := key.toList
  match s.takeWhile isNameChar with
  | [] => [.name key]
  | name =>
    match steps? (s.length + 1) (s.drop name.length) with
    | some steps => .name (.ofList name) :: steps
    | none => [.name key]

/-! ### Changing a tree -/

def fieldsOf : Json → List (String × Json)
  | .obj fields => fields
  | _ => []

def itemsOf : Json → List Json
  | .arr items => items
  | _ => []

/-- Changes a field, which is null before if it is missing. -/
def changeField (name : String) (f : Json → Json) : List (String × Json) → List (String × Json)
  | [] => [(name, f .null)]
  | (k, v) :: rest => if k = name then (k, f v) :: rest else (k, v) :: changeField name f rest

/-- Changes an item. Items that are missing before it are null; a negative position counts from
the end, and if there is no item so far back, items are put in front. -/
def changeItem (n : Int) (f : Json → Json) (items : List Json) : List Json :=
  let place := if 0 ≤ n then n else (items.length : Int) + n
  if place < 0 then f .null :: List.replicate ((-place).toNat - 1) .null ++ items
  else
    let filled := items ++ List.replicate (place.toNat + 1 - items.length) .null
    filled.modify place.toNat f

def changeAt (f : Json → Json) : List PathStep → Json → Json
  | [], j => f j
  | .name s :: rest, j => .obj (changeField s (changeAt f rest) (fieldsOf j))
  | .index n :: rest, j => .arr (changeItem n (changeAt f rest) (itemsOf j))

mutual

/-- Puts a value over another one. Objects are merged field by field; all else is replaced. -/
def overlay : Json → Json → Json
  | .obj fields, old => .obj (overlayFields fields (fieldsOf old))
  | new, _ => new

def overlayFields : List (String × Json) → List (String × Json) → List (String × Json)
  | [], old => old
  | (k, v) :: rest, old => overlayFields rest (changeField k (overlay v) old)

end

/-- Puts a value at the place of a key. -/
def set (settings : Json) (key : String) (value : Json) : Json :=
  changeAt (overlay value) (pathOf key) settings

end AttributeRelease.Settings
