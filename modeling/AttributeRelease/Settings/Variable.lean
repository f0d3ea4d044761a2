import AttributeRelease.Decimal.Literal
import AttributeRelease.Settings.Path
import AttributeRelease.Text.Lowercase
import AttributeRelease.Text.Split

/-!
Settings from environment variables.

A variable counts if its name starts with a stem and an underscore. The rest of the name is a key,
with two underscores for a point, and letters of either case are the same. The value is taken for
a truth value or a number if it can be read as one.
-/

namespace AttributeRelease.Settings

open Decimal

/-- Puts points in the place of double underscores. -/
def pointed : List Char → List Char
  | '_' :: '_' :: rest => '.' :: pointed rest
  | c :: rest => c :: pointed rest
  | [] => []

/-- The key that a variable sets, if it sets one. -/
def keyOf? (stem name : String) : Option String :=
  let start := (Text.lowercase (stem ++ "_")).toList
  let name := (Text.lowercase name).toList
  if start.isPrefixOf name then some (.ofList (pointed (name.drop start.length))) else none

/-! ### Values -/

/-- A number with a point, a power or both, or one of the words for infinity and for no number. -/
def float? (s : List Char) : Option Binary64 :=
  let (negative, s) := match s with
    | '+' :: rest => (false, rest)
    | '-' :: rest => (true, rest)
    | rest => (false, rest)
  let word := String.ofList (s.map Char.toLower)
  if word = "inf" ∨ word = "infinity" then some (.infinite negative)
  else if word = "nan" then some .nan
  else do
    let (mantissa, exponent) := Text.splitFirst (fun c => c = 'e' || c = 'E') s
    let (whole, fraction) := Text.splitFirst (· = '.') mantissa
    let fraction := fraction.getD []
    if whole.isEmpty && fraction.isEmpty || !(whole ++ fraction).all Char.isDigit then none
    let power ← match exponent with
      | some e => signedDigits? e
      | none => some 0
    return ofDigits negative whole fraction power

/-- What the text of a variable is taken for. -/
def guess (text : String) : Json :=
  match Text.lowercase text with
  | "true" => .bool true
  | "false" => .bool false
  | _ =>
    match signedDigits? text.toList with
    | some n =>
      if isWord n then .int n else .float (ofDigits (n < 0) (Nat.toDigits 10 n.natAbs) [] 0)
    | none =>
      match float? text.toList with
      | some x => .float x
      | none => .str text

/-- Adds what variables set. -/
def addVariables (stem : String) (settings : Json) (environment : List (String × String)) : Json :=
  environment.foldl (fun settings v =>
    match keyOf? stem v.1 with
    | some key => set settings key (guess v.2)
    | none => settings) settings

end AttributeRelease.Settings
