import AttributeRelease.Json.Basic

/-!
Reading JSON text.

Every reader takes the text at hand and gives what it read with the text left. A number without a
point and a power is a whole number if it fits in 64 bits; all others are binary numbers, made
from their first digits and a power of ten. Of two fields with one key the later one counts.
-/

namespace AttributeRelease.Json

def skipBlanks (s : List Char) : List Char :=
  s.dropWhile fun c => c = ' ' || c = '\n' || c = '\t' || c = '\r'

/-- The first number that does not fit in 64 bits. -/
def wordLimit : Nat := 0x10000000000000000

/-- The number made of a word and a power of ten: the word is rounded first, then the product. -/
def scaled (negative : Bool) (word : Nat) (power : Int) : Option Binary64 :=
  let x := Binary64.ofRatio negative word 1
  let apply (x : Binary64) (n : Nat) (divide : Bool) := x.scale (.ofDecimal false 1 n) divide
  if 0 ≤ power then
    if 308 < power then if word = 0 then some x else none
    else
      match apply x power.toNat false with
      | .infinite _ => none
      | y => some y
  else if -308 ≤ power then some (apply x (-power).toNat true)
  else
    -- powers beyond the range are taken in steps
    let steps := (-power).toNat / 308
    let rest := (-power).toNat % 308
    if 3 < steps then some (.zero negative)
    else some (apply ((List.range steps).foldl (fun y _ => apply y 308 true) x) rest true)

/-- Adds digits to a word as long as it fits. Gives the word, how many digits it took, how many
followed, and the text left. -/
def readWord (word taken : Nat) : List Char → Nat × Nat × Nat × List Char
  | [] => (word, taken, 0, [])
  | c :: rest =>
    if c.isDigit then
      if 10 * word + (c.toNat - 48) < wordLimit then
        readWord (10 * word + (c.toNat - 48)) (taken + 1) rest
      else
        let more := (c :: rest).takeWhile Char.isDigit
        (word, taken, more.length, (c :: rest).drop more.length)
    else (word, taken, 0, c :: rest)

/-- Reads the digits of a power after its letter. -/
def readPower (s : List Char) : Option (Int × List Char) :=
  let (negative, s) := match s with
    | '+' :: r => (false, r)
    | '-' :: r => (true, r)
    | r => (false, r)
  let digits := s.takeWhile Char.isDigit
  if digits.isEmpty then none
  else
    let n := digits.foldl (fun (n : Nat) c => 10 * n + (c.toNat - 48)) 0
    some (if negative then -(n : Int) else (n : Int), s.drop digits.length)

/-- Reads a power, if there is one, and makes the number. -/
def finishFloat (negative : Bool) (word : Nat) (power : Int) (s : List Char) :
    Option (Json × List Char) :=
  let made (p : Int) (rest : List Char) := (scaled negative word p).map fun x => (.float x, rest)
  match s with
  | 'e' :: r | 'E' :: r => do
    let (p, rest) ← readPower r
    made (power + p) rest
  | rest => made power rest

def readNumber (s : List Char) : Option (Json × List Char) := do
  let (negative, s) := match s with
    | '-' :: r => (true, r)
    | r => (false, r)
  let (word, taken, dropped, rest) := readWord 0 0 s
  if taken = 0 then none
  if s.head? = some '0' ∧ 1 < taken then none
  match rest with
  | '.' :: r =>
    if dropped ≠ 0 then
      -- the digits behind the point no longer count
      let digits := r.takeWhile Char.isDigit
      if digits.isEmpty then none
      finishFloat negative word dropped (r.drop digits.length)
    else
      let (word, places, extra, rest) := readWord word 0 r
      if places = 0 ∧ extra = 0 then none
      finishFloat negative word (-(places : Int)) rest
  | 'e' :: _ | 'E' :: _ => finishFloat negative word dropped rest
  | _ =>
    if dropped ≠ 0 then finishFloat negative word dropped rest
    else if !negative then some (.int word, rest)
    else if word = 0 ∨ wordLimit / 2 < word then some (.float (.ofRatio true word 1), rest)
    else some (.int (-(word : Int)), rest)

def hexValue? (c : Char) : Option Nat :=
  if '0' ≤ c ∧ c ≤ '9' then some (c.toNat - 48)
  else if 'a' ≤ c ∧ c ≤ 'f' then some (c.toNat - 87)
  else if 'A' ≤ c ∧ c ≤ 'F' then some (c.toNat - 55)
  else none

def readUnit : List Char → Option (Nat × List Char)
  | a :: b :: c :: d :: rest => do
    let a ← hexValue? a
    let b ← hexValue? b
    let c ← hexValue? c
    let d ← hexValue? d
    return (((a * 16 + b) * 16 + c) * 16 + d, rest)
  | _ => none

/-- A numbered escape, of one unit or of two that make one character. -/
def readNumbered (s : List Char) : Option (Char × List Char) := do
  let (u, rest) ← readUnit s
  if 0xD800 ≤ u ∧ u ≤ 0xDBFF then
    match rest with
    | '\\' :: 'u' :: r =>
      let (v, rest) ← readUnit r
      if 0xDC00 ≤ v ∧ v ≤ 0xDFFF then
        return (.ofNat (0x10000 + (u - 0xD800) * 0x400 + (v - 0xDC00)), rest)
      else none
    | _ => none
  else if 0xDC00 ≤ u ∧ u ≤ 0xDFFF then none
  else return (.ofNat u, rest)

/-- Reads up to the closing quote. -/
def readString (done : List Char) : Nat → List Char → Option (String × List Char)
  | 0, _ => none
  | fuel + 1, s =>
    match s with
    | [] => none
    | '"' :: rest => some (.ofList done.reverse, rest)
    | '\\' :: 'u' :: rest => do
      let (c, rest) ← readNumbered rest
      readString (c :: done) fuel rest
    | '\\' :: c :: rest =>
      match c with
      | '"' | '\\' | '/' => readString (c :: done) fuel rest
      | 'b' => readString ('\x08' :: done) fuel rest
      | 'f' => readString ('\x0C' :: done) fuel rest
      | 'n' => readString ('\n' :: done) fuel rest
      | 'r' => readString ('\r' :: done) fuel rest
      | 't' => readString ('\t' :: done) fuel rest
      | _ => none
    | c :: rest => if c.toNat < 0x20 then none else readString (c :: done) fuel rest

/-! ### Values -/

mutual

/-- Reads a value that may be nested as deep as the second number says. -/
def readValue : Nat → Nat → List Char → Option (Json × List Char)
  | 0, _, _ => none
  | fuel + 1, depth, s =>
    match skipBlanks s with
    | 'n' :: 'u' :: 'l' :: 'l' :: rest => some (.null, rest)
    | 't' :: 'r' :: 'u' :: 'e' :: rest => some (.bool true, rest)
    | 'f' :: 'a' :: 'l' :: 's' :: 'e' :: rest => some (.bool false, rest)
    | '"' :: rest => do
      let (s, rest) ← readString [] (rest.length + 1) rest
      return (.str s, rest)
    | '[' :: rest =>
      match depth, skipBlanks rest with
      | 0, _ => none
      | _, ']' :: rest => some (.arr [], rest)
      | depth + 1, rest => do
        let (items, rest) ← readItems fuel depth rest
        return (.arr items, rest)
    | '{' :: rest =>
      match depth, skipBlanks rest with
      | 0, _ => none
      | _, '}' :: rest => some (.obj [], rest)
      | depth + 1, rest => do
        let (fields, rest) ← readFields fuel depth [] rest
        return (.obj fields, rest)
    | s => readNumber s

def readItems : Nat → Nat → List Char → Option (List Json × List Char)
  | 0, _, _ => none
  | fuel + 1, depth, s => do
    let (a, rest) ← readValue fuel depth s
    match skipBlanks rest with
    | ',' :: rest => do
      let (items, rest) ← readItems fuel depth rest
      return (a :: items, rest)
    | ']' :: rest => return ([a], rest)
    | _ => none

def readFields : Nat → Nat → List (String × Json) → List Char →
    Option (List (String × Json) × List Char)
  | 0, _, _, _ => none
  | fuel + 1, depth, done, s =>
    match skipBlanks s with
    | '"' :: rest => do
      let (key, rest) ← readString [] (rest.length + 1) rest
      match skipBlanks rest with
      | ':' :: rest => do
        let (a, rest) ← readValue fuel depth rest
        let done := SortedMap.insertEntry key a done
        match skipBlanks rest with
        | ',' :: rest => readFields fuel depth done rest
        | '}' :: rest => return (done, rest)
        | _ => none
      | _ => none
    | _ => none

end

/-- How many arrays and objects may be open at once. -/
def depthLimit : Nat := 127

/-- Reads a whole text. -/
def read? (s : String) : Option Json := do
  let chars := s.toList
  let (a, rest) ← readValue (2 * chars.length + 2) depthLimit chars
  if (skipBlanks rest).isEmpty then return a else none

end AttributeRelease.Json
