/-!
Double-precision binary numbers, by their exact value.

A finite number is a whole number below `2 ^ 53` times a power of two. Rounding a ratio of whole
numbers goes to the nearest number, and from the middle between two to the even one.
-/

namespace AttributeRelease

inductive Binary64 where
  | finite (negative : Bool) (mantissa : Nat) (exponent : Int)
  | infinite (negative : Bool)
  | nan
deriving DecidableEq, Repr

namespace Binary64

/-- The least exponent. -/
def minExponent : Int := -1074

/-- The greatest exponent. -/
def maxExponent : Int := 971

def zero (negative : Bool) : Binary64 := .finite negative 0 minExponent

def isZero : Binary64 → Bool
  | finite _ m _ => m = 0
  | _ => false

/-- The same number; the two zeros are one. -/
def beq (x y : Binary64) : Bool := x = y || (x.isZero && y.isZero)

instance : BEq Binary64 := ⟨beq⟩

/-- The quotient rounded to a whole number, the middle to the even one. -/
def roundDiv (a b : Nat) : Nat :=
  let q := a / b
  let r := 2 * (a % b)
  if r < b then q else if b < r then q + 1 else q + q % 2

/-- A ratio in units of `2 ^ e`, as numerator and denominator. -/
def inUnits (a b : Nat) (e : Int) : Nat × Nat :=
  if 0 ≤ e then (a, b * Nat.pow 2 e.toNat) else (a * Nat.pow 2 (-e).toNat, b)

/-- The number nearest to a ratio. -/
def ofRatio (negative : Bool) (a b : Nat) : Binary64 :=
  if a = 0 then zero negative
  else
    let low : Int := (a.log2 : Int) - b.log2 - 53
    let (n, d) := inUnits a b low
    let e := max (if Nat.pow 2 53 ≤ n / d then low + 1 else low) minExponent
    let (n, d) := inUnits a b e
    let m := roundDiv n d
    let (m, e) := if m = Nat.pow 2 53 then (Nat.pow 2 52, e + 1) else (m, e)
    if maxExponent < e then infinite negative else finite negative m e

def ofNat (n : Nat) : Binary64 := ofRatio false n 1

/-- The number nearest to `n * 10 ^ k`. -/
def ofDecimal (negative : Bool) (n : Nat) (k : Int) : Binary64 :=
  if 0 ≤ k then ofRatio negative (n * Nat.pow 10 k.toNat) 1
  else ofRatio negative n (Nat.pow 10 (-k).toNat)

/-- The product or quotient of two finite numbers, rounded; the sign is that of the first. -/
def scale (x y : Binary64) (divide : Bool) : Binary64 :=
  match x, y with
  | finite s m e, finite _ m' e' =>
    let (a, b, k) := if divide then (m, m', e - e') else (m * m', 1, e + e')
    if 0 ≤ k then ofRatio s (a * Nat.pow 2 k.toNat) b
    else ofRatio s a (b * Nat.pow 2 (-k).toNat)
  | x, _ => x

end Binary64

end AttributeRelease
