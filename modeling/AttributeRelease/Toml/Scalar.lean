import AttributeRelease.Decimal.Literal
import AttributeRelease.Json.Basic
import AttributeRelease.Text.Split
import AttributeRelease.Toml.Lexical

/-!
Numbers, truth values and dates.

They are read as words. A date is kept as its text in a uniform spelling.
-/

namespace AttributeRelease.Toml

open Decimal

/-- Removes underscores, which have to stand between digits. -/
def plainDigits? (isDigit : Char → Bool) : List Char → Option (List Char)
  | [] => none
  | [c] => if isDigit c then some [c] else none
  | c :: '_' :: rest => if isDigit c then (plainDigits? isDigit rest).map (c :: ·) else none
  | c :: rest => if isDigit c then (plainDigits? isDigit rest).map (c :: ·) else none

/-- Digits without needless zeros before them. -/
def wholeDigits? (s : List Char) : Option (List Char) := do
  let digits ← plainDigits? Char.isDigit s
  if digits.head? = some '0' ∧ 1 < digits.length then none else some digits

def signed (s : List Char) : Bool × List Char :=
  match s with
  | '+' :: rest => (false, rest)
  | '-' :: rest => (true, rest)
  | rest => (false, rest)

def word? (n : Int) : Option Json := if isWord n then some (.int n) else none

def decimal? (s : List Char) : Option Json := do
  let (negative, s) := signed s
  let digits ← wholeDigits? s
  word? (if negative then -(digitsValue digits : Int) else digitsValue digits)

/-- A number in another base, without a sign. -/
def inBase? (base : Nat) (s : List Char) : Option Json := do
  let isDigit (c : Char) := (hexDigit? c).any (· < base)
  let digits ← plainDigits? isDigit s
  word? (digits.foldl (fun n c => base * n + (hexDigit? c).getD 0) 0 : Nat)

/-- The power behind its letter. -/
def power? (s : List Char) : Option Int := do
  let (negative, s) := signed s
  let digits ← plainDigits? Char.isDigit s
  return if negative then -(digitsValue digits : Int) else digitsValue digits

/-- A number with a point, a power or both. One that is too large for its type is refused. -/
def float? (s : List Char) : Option Json := do
  let (negative, s) := signed s
  let (mantissa, exponent) := Text.splitFirst (fun c => c = 'e' || c = 'E') s
  let (whole, fraction) := Text.splitFirst (· = '.') mantissa
  if exponent.isNone ∧ fraction.isNone then none
  let whole ← wholeDigits? whole
  let fraction ← match fraction with
    | some f => plainDigits? Char.isDigit f
    | none => some []
  let power ← match exponent with
    | some e => power? e
    | none => some 0
  match ofDigits negative whole fraction power with
  | .infinite _ => none
  | x => return .float x

/-! ### Dates -/

def two? (limit : Nat) : List Char → Option Nat
  | [a, b] =>
    let n := digitsValue [a, b]
    if a.isDigit ∧ b.isDigit ∧ n ≤ limit then some n else none
  | _ => none

def isLeap (year : Nat) : Bool := year % 4 = 0 && (year % 100 != 0 || year % 400 = 0)

def daysOf (year month : Nat) : Nat :=
  if month = 2 then if isLeap year then 29 else 28
  else if month = 4 ∨ month = 6 ∨ month = 9 ∨ month = 11 then 30
  else 31

/-- A day, written as it is. -/
def date? (s : List Char) : Option (List Char) :=
  match s with
  | [a, b, c, d, '-', m1, m2, '-', d1, d2] => do
    if !([a, b, c, d].all Char.isDigit) then none
    let month ← two? 12 [m1, m2]
    let day ← two? (daysOf (digitsValue [a, b, c, d]) month) [d1, d2]
    if month = 0 ∨ day = 0 then none
    return s
  | _ => none

/-- Digits of a second: at most nine, and no zeros at the end. -/
def fraction? : List Char → Option (List Char)
  | [] => some []
  | '.' :: digits =>
    if digits.isEmpty || !digits.all Char.isDigit then none
    else
      match ((digits.take 9).reverse.dropWhile (· = '0')).reverse with
      | [] => some []
      | kept => some ('.' :: kept)
  | _ => none

/-- A time of day. The second is nought unless it is given. -/
def time? (s : List Char) : Option (List Char) :=
  match s with
  | h1 :: h2 :: ':' :: m1 :: m2 :: ':' :: s1 :: s2 :: rest => do
    let _ ← two? 23 [h1, h2]
    let _ ← two? 59 [m1, m2]
    let _ ← two? 60 [s1, s2]
    return [h1, h2, ':', m1, m2, ':', s1, s2] ++ (← fraction? rest)
  | [h1, h2, ':', m1, m2] => do
    let _ ← two? 23 [h1, h2]
    let _ ← two? 59 [m1, m2]
    return [h1, h2, ':', m1, m2, ':', '0', '0']
  | _ => none

/-- The distance from universal time. -/
def offset? (s : List Char) : Option (List Char) :=
  match s with
  | ['Z'] | ['z'] => some ['Z']
  | [sign, h1, h2, ':', m1, m2] => do
    let hours ← two? 23 [h1, h2]
    let minutes ← two? 59 [m1, m2]
    if hours = 0 ∧ minutes = 0 then some ['+', '0', '0', ':', '0', '0']
    else some [sign, h1, h2, ':', m1, m2]
  | _ => none

def isOffsetStart (c : Char) : Bool := c = 'Z' || c = 'z' || c = '+' || c = '-'

/-- A day, a time, or both with an offset or without. -/
def dateTime? (s : List Char) : Option (List Char) :=
  match date? (s.take 10), s.drop 10 with
  | none, _ => time? s
  | some day, [] => some day
  | some day, c :: rest => do
    if c ≠ 'T' ∧ c ≠ 't' ∧ c ≠ ' ' then none
    let clock := rest.takeWhile fun c => !isOffsetStart c
    let zone ← match rest.drop clock.length with
      | [] => some []
      | zone => offset? zone
    return day ++ 'T' :: (← time? clock) ++ zone

def isWordChar (c : Char) : Bool :=
  c.isAlphanum || c = '_' || c = '-' || c = '+' || c = '.' || c = ':'

/-- Splits off a word. A day takes a time behind one space with it. -/
def splitWord (s : List Char) : List Char × List Char :=
  let word := s.takeWhile isWordChar
  let rest := s.drop word.length
  match rest with
  | ' ' :: c :: more =>
    if (date? word).isSome && c.isDigit then
      let time := (c :: more).takeWhile isWordChar
      (word ++ ' ' :: time, (c :: more).drop time.length)
    else (word, rest)
  | _ => (word, rest)

def ofWord? (s : List Char) : Option Json :=
  match s with
  | ['t', 'r', 'u', 'e'] => some (.bool true)
  | ['f', 'a', 'l', 's', 'e'] => some (.bool false)
  | '0' :: 'x' :: digits => inBase? 16 digits
  | '0' :: 'o' :: digits => inBase? 8 digits
  | '0' :: 'b' :: digits => inBase? 2 digits
  | s =>
    match signed s with
    | (negative, ['i', 'n', 'f']) => some (.float (.infinite negative))
    | (_, ['n', 'a', 'n']) => some (.float .nan)
    | _ => decimal? s <|> float? s <|> (dateTime? s).map fun text => .str (.ofList text)

def scalar? (s : List Char) : Option (Json × List Char) :=
  let (word, rest) := splitWord s
  (ofWord? word).map (·, rest)

end AttributeRelease.Toml
