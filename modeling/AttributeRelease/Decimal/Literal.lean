import AttributeRelease.Decimal.Binary64

/-!
Reading decimal numbers.

The number nearest to the written one is taken, whatever the count of its digits.
-/

namespace AttributeRelease.Decimal

def digitsValue (s : List Char) : Nat := s.foldl (fun n c => 10 * n + (c.toNat - '0'.toNat)) 0

/-- The number with some digits before and behind the point, times a power of ten. Powers far
out of range are not computed. -/
def ofDigits (negative : Bool) (whole fraction : List Char) (power : Int) : Binary64 :=
  let digits := (whole ++ fraction).dropWhile (· = '0')
  let last := power - (fraction.length : Int)
  let first := (digits.length : Int) + last
  if digits.isEmpty ∨ first < -400 then .zero negative
  else if 400 < first then .infinite negative
  else .ofDecimal negative (digitsValue digits) last

/-- Reads digits with a sign or without, but at least one. -/
def signedDigits? (s : List Char) : Option Int :=
  let (negative, s) := match s with
    | '+' :: r => (false, r)
    | '-' :: r => (true, r)
    | r => (false, r)
  if s.isEmpty || !s.all Char.isDigit then none
  else some (if negative then -(digitsValue s : Int) else (digitsValue s : Int))

/-- The whole numbers of 64 bits. -/
def isWord (n : Int) : Bool := -0x8000000000000000 ≤ n && n < 0x8000000000000000

end AttributeRelease.Decimal
