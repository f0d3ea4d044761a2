import AttributeRelease.Decimal.Binary64

/-!
The fewest decimal digits that read back as the same binary number, and two ways to lay them out.

A decimal reads back if it lies in the interval of numbers that round to the binary number, whose
ends count if the mantissa is even. For one digit, two digits and so on the two decimals next to
the number are tried, and of two that read back the nearer one wins.
-/

namespace AttributeRelease.Decimal

/-- The number `digits * 10 ^ exponent`. -/
structure Digits where
  digits : Nat
  exponent : Int
deriving DecidableEq, Repr

/-- A number `m * 2 ^ e` that is to be written. Lengths are in quarters of the unit. -/
structure Interval where
  value : Nat
  low : Nat
  high : Nat
  closed : Bool
  exponent : Int

def interval (m : Nat) (e : Int) : Interval where
  value := 4 * m
  low := if m = Nat.pow 2 52 ∧ Binary64.minExponent < e then 4 * m - 1 else 4 * m - 2
  high := 4 * m + 2
  closed := m % 2 = 0
  exponent := e - 2

/-- The factors that turn quarters into units of the last digit: a length times the first against
a decimal times the second. -/
def factors (e : Int) (last : Int) : Nat × Nat :=
  (Nat.pow 2 e.toNat * Nat.pow 10 (-last).toNat, Nat.pow 2 (-e).toNat * Nat.pow 10 last.toNat)

/-- The decimal with a given last place that reads back and is nearest. -/
def nearest? (v : Interval) (last : Int) : Option Nat :=
  let (p, q) := factors v.exponent last
  let below := v.value * p / q
  let reads (c : Nat) : Bool :=
    if v.closed then v.low * p ≤ c * q && c * q ≤ v.high * p
    else v.low * p < c * q && c * q < v.high * p
  let short := v.value * p - below * q
  let past := (below + 1) * q - v.value * p
  match reads below, reads (below + 1) with
  | true, true =>
    some (if short < past then below else if past < short then below + 1 else below + below % 2)
  | true, false => some below
  | false, true => some (below + 1)
  | false, false => none

/-- The place of the first digit of `m * 2 ^ e`, one if it is the place of units. Below one, the
whole part of the inverse has as many digits as the first digit has places behind the point. -/
def firstPlace (m : Nat) (e : Int) : Int :=
  let d := Nat.pow 2 (-e).toNat
  if d ≤ m ∨ 0 ≤ e then (Nat.toDigits 10 (m * Nat.pow 2 e.toNat / d)).length
  else 1 - ((Nat.toDigits 10 (d / m)).length : Int)

/-- Drops zeros at the end. -/
def dropZeros : Nat → Digits → Digits
  | 0, d => d
  | fuel + 1, d =>
    if d.digits % 10 = 0 ∧ d.digits ≠ 0 then dropZeros fuel ⟨d.digits / 10, d.exponent + 1⟩ else d

/-- The digits of the positive number `m * 2 ^ e`. -/
def shortest (m : Nat) (e : Int) : Digits :=
  let v := interval m e
  let first := firstPlace m e
  let found := (List.range 17).findSome? fun (n : Nat) =>
    let last := first - 1 - (n : Int)
    (nearest? v last).map fun c => Digits.mk c last
  dropZeros 20 (found.getD ⟨0, 0⟩)

/-! ### Layouts -/

def digitChars (n : Nat) : List Char := Nat.toDigits 10 n

def zeros (n : Nat) : List Char := List.replicate n '0'

/-- Digits with a point among them, before them or after zeros behind them. -/
def positional (d : Digits) (whole : List Char) : List Char :=
  let ds := digitChars d.digits
  let point := (ds.length : Int) + d.exponent
  if 0 ≤ d.exponent then ds ++ zeros d.exponent.toNat ++ whole
  else if 0 < point then ds.take point.toNat ++ '.' :: ds.drop point.toNat
  else '0' :: '.' :: zeros (-point).toNat ++ ds

/-- Digits with the point after the first of them, and the power of ten. -/
def scientific (d : Digits) : List Char :=
  let ds := digitChars d.digits
  let power : Int := (ds.length : Int) + d.exponent - 1
  let mantissa := match ds with
    | c :: c' :: rest => c :: '.' :: c' :: rest
    | ds => ds
  mantissa ++ 'e' ::
    (if power < 0 then '-' :: digitChars (-power).toNat else digitChars power.toNat)

def sign (negative : Bool) : List Char := if negative then ['-'] else []

/-- The layout of data files: always a point or a power, positional from `1e-5` to `1e16`. -/
def dataText : Binary64 → String
  | .finite s m e =>
    if m = 0 then .ofList (sign s ++ "0.0".toList)
    else
      let d := shortest m e
      let point := ((digitChars d.digits).length : Int) + d.exponent
      .ofList (sign s ++
        if -5 < point ∧ point ≤ 16 then positional d ".0".toList else scientific d)
  | _ => "null"

/-- The layout of plain text: no powers, and no point behind whole numbers. -/
def plainText : Binary64 → String
  | .finite s m e =>
    if m = 0 then .ofList (sign s ++ ['0'])
    else .ofList (sign s ++ positional (shortest m e) [])
  | .infinite s => .ofList (sign s ++ "inf".toList)
  | .nan => "NaN"

end AttributeRelease.Decimal
