/-!
Sets of characters, written as ranges of code points.

A set in normal form lists its ranges in increasing order with a gap between any two. The set
operations give normal forms, and a set is read from text such as `41-5A 61-7A AA`, whose
numbers are hexadecimal.
-/

namespace AttributeRelease

structure CharSet where
  ranges : List (Nat × Nat)
deriving DecidableEq, Repr

namespace CharSet

def empty : CharSet := ⟨[]⟩

instance : Inhabited CharSet := ⟨empty⟩

def mem (s : CharSet) (n : Nat) : Bool := s.ranges.any fun r => r.1 ≤ n && n ≤ r.2

def contains (s : CharSet) (c : Char) : Bool := s.mem c.toNat

def isEmpty (s : CharSet) : Bool := s.ranges.isEmpty

def range (lo hi : Nat) : CharSet := ⟨[(lo, hi)]⟩

def singleton (c : Char) : CharSet := range c.toNat c.toNat

/-- The only code point of a set. -/
def single? (s : CharSet) : Option Nat :=
  match s.ranges with
  | [(lo, hi)] => if lo = hi then some lo else none
  | _ => none

/-- The largest code point. -/
def top : Nat := 0x10FFFF

def all : CharSet := range 0 top

/-- Merges ranges that touch or overlap, given in increasing order of their lower ends. -/
def coalesce (cur : Nat × Nat) : List (Nat × Nat) → List (Nat × Nat)
  | [] => [cur]
  | r :: rest =>
    if r.1 ≤ cur.2 + 1 then coalesce (cur.1, max cur.2 r.2) rest else cur :: coalesce r rest

def ofRanges (l : List (Nat × Nat)) : CharSet :=
  match l.mergeSort fun a b => a.1 ≤ b.1 with
  | [] => empty
  | r :: rest => ⟨coalesce r rest⟩

def union (s t : CharSet) : CharSet := ofRanges (s.ranges ++ t.ranges)

def unions (l : List CharSet) : CharSet := ofRanges (l.flatMap ranges)

/-- The gaps between ranges, from a first code point on. -/
def gaps (start : Nat) : List (Nat × Nat) → List (Nat × Nat)
  | [] => if start ≤ top then [(start, top)] else []
  | r :: rest =>
    if start < r.1 then (start, r.1 - 1) :: gaps (r.2 + 1) rest else gaps (r.2 + 1) rest

def complement (s : CharSet) : CharSet := ⟨gaps 0 s.ranges⟩

def inter (s t : CharSet) : CharSet := (s.complement.union t.complement).complement

def diff (s t : CharSet) : CharSet := s.inter t.complement

def symmDiff (s t : CharSet) : CharSet := (s.union t).diff (s.inter t)

/-! ### Reading -/

def hexValue (c : Char) : Nat :=
  if c.isDigit then c.toNat - '0'.toNat else c.toNat - 'A'.toNat + 10

/-- The words between blanks and line breaks, after one whose letters so far are reversed. -/
def wordsFrom (current : List Char) : List Char → List (List Char)
  | [] => if current.isEmpty then [] else [current.reverse]
  | c :: rest =>
    if c = ' ' || c = '\n' then
      if current.isEmpty then wordsFrom [] rest else current.reverse :: wordsFrom [] rest
    else wordsFrom (c :: current) rest

def words (s : String) : List (List Char) := wordsFrom [] s.toList

/-- Reads a range; the option is the lower end if it has been read, and the accumulated value is
the number that is being read. -/
def readRange (lo : Option Nat) (value : Nat) : List Char → Nat × Nat
  | [] => (lo.getD value, value)
  | '-' :: rest => readRange (some value) 0 rest
  | c :: rest => readRange lo (16 * value + hexValue c) rest

def ofText (s : String) : CharSet := ⟨(words s).map (readRange none 0)⟩

end CharSet

end AttributeRelease
