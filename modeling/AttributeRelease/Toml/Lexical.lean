/-!
The small parts of TOML text: white space, comments, strings and keys.

Every reader takes the text at hand and gives what it read with the text left.
-/

namespace AttributeRelease.Toml

/-- Characters that no text may hold, apart from line breaks. -/
def isControl (c : Char) : Bool := (c.toNat < 0x20 && c != '\t') || c.toNat = 0x7F

def isSpace (c : Char) : Bool := c = ' ' || c = '\t'

def skipSpace (s : List Char) : List Char := s.dropWhile isSpace

/-- Skips white space, line breaks and comments, in a comment or outside of it. -/
def skipLines (inComment : Bool) : List Char → Option (List Char)
  | [] => some []
  | '\n' :: rest => skipLines false rest
  | '\r' :: '\n' :: rest => skipLines false rest
  | c :: rest =>
    if inComment then if isControl c then none else skipLines true rest
    else if isSpace c then skipLines false rest
    else if c = '#' then skipLines true rest
    else some (c :: rest)

/-- Skips the rest of a line, which holds nothing but a comment. -/
def skipComment : List Char → Option (List Char)
  | [] => some []
  | '\n' :: rest => some rest
  | '\r' :: '\n' :: rest => some rest
  | c :: rest => if isControl c then none else skipComment rest

/-- Skips the end of a line. -/
def lineEnd? (s : List Char) : Option (List Char) :=
  match skipSpace s with
  | '#' :: rest => skipComment rest
  | [] => some []
  | '\n' :: rest => some rest
  | '\r' :: '\n' :: rest => some rest
  | _ => none

/-! ### Strings -/

def hexDigit? (c : Char) : Option Nat :=
  if c.isDigit then some (c.toNat - 48)
  else if 'a' ≤ c ∧ c ≤ 'f' then some (c.toNat - 87)
  else if 'A' ≤ c ∧ c ≤ 'F' then some (c.toNat - 55)
  else none

def hexChar? (digits : List Char) : Option Char := do
  let n ← digits.foldlM (fun n c => (hexDigit? c).map (16 * n + ·)) 0
  if h : n.isValidChar then some ⟨n.toUInt32, by
    have : n < UInt32.size := by rcases h with h | h <;> simp only [UInt32.size] <;> omega
    simpa [UInt32.isValidChar, Nat.toUInt32, UInt32.toNat_ofNat_of_lt' this] using h⟩
  else none

/-- The character that an escape of two characters stands for. -/
def escaped? : Char → Option Char
  | 'b' => some '\x08'
  | 'e' => some '\x1B'
  | 't' => some '\t'
  | 'n' => some '\n'
  | 'f' => some '\x0C'
  | 'r' => some '\r'
  | '"' => some '"'
  | '\\' => some '\\'
  | _ => none

/-- Reads the rest of a string in quotes, with what was read so far reversed. -/
def basicRest? (done : List Char) : List Char → Option (String × List Char)
  | [] => none
  | '"' :: rest => some (.ofList done.reverse, rest)
  | '\\' :: 'x' :: a :: b :: rest => do basicRest? ((← hexChar? [a, b]) :: done) rest
  | '\\' :: 'u' :: a :: b :: c :: d :: rest => do
    basicRest? ((← hexChar? [a, b, c, d]) :: done) rest
  | '\\' :: 'U' :: a :: b :: c :: d :: e :: f :: g :: h :: rest => do
    basicRest? ((← hexChar? [a, b, c, d, e, f, g, h]) :: done) rest
  | '\\' :: c :: rest => do basicRest? ((← escaped? c) :: done) rest
  | c :: rest => if isControl c then none else basicRest? (c :: done) rest

/-- Reads the rest of a string in apostrophes. -/
def literalRest? (s : List Char) : Option (String × List Char) :=
  let text := s.takeWhile (· ≠ '\'')
  match s.drop text.length with
  | [] => none
  | _ :: rest => if text.any isControl then none else some (.ofList text, rest)

/-- Whether the line goes on with nothing but spaces. -/
def lineIsOver (s : List Char) : Bool :=
  match skipSpace s with
  | '\n' :: _ => true
  | '\r' :: '\n' :: _ => true
  | _ => false

/-- Reads the rest of a string between threefold marks, with escapes or without. Behind an escaped
line break blanks are skipped. -/
def multilineRest? (mark : Char) (escapes : Bool) (skipping : Bool) (done : List Char) :
    List Char → Option (String × List Char)
  | [] => none
  | '\n' :: rest =>
    multilineRest? mark escapes skipping (if skipping then done else '\n' :: done) rest
  | '\r' :: '\n' :: rest =>
    multilineRest? mark escapes skipping (if skipping then done else '\n' :: done) rest
  | '\\' :: rest =>
    if !escapes then multilineRest? mark escapes false ('\\' :: done) rest
    else if lineIsOver rest then multilineRest? mark escapes true done rest
    else
      match rest with
      | 'x' :: a :: b :: rest => do
        multilineRest? mark escapes false ((← hexChar? [a, b]) :: done) rest
      | 'u' :: a :: b :: c :: d :: rest => do
        multilineRest? mark escapes false ((← hexChar? [a, b, c, d]) :: done) rest
      | 'U' :: a :: b :: c :: d :: e :: f :: g :: h :: rest => do
        multilineRest? mark escapes false ((← hexChar? [a, b, c, d, e, f, g, h]) :: done) rest
      | c :: rest => do multilineRest? mark escapes false ((← escaped? c) :: done) rest
      | [] => none
  | c :: rest =>
    if skipping && isSpace c then multilineRest? mark escapes true done rest
    else if c = mark then
      match closing rest with
      | some extra =>
        some (.ofList (List.replicate extra mark ++ done).reverse, rest.drop (2 + extra))
      | none => multilineRest? mark escapes false (c :: done) rest
    else if isControl c then none
    else multilineRest? mark escapes false (c :: done) rest
where
  /-- How many marks belong to the text if the string ends with this mark and those behind it. -/
  closing (rest : List Char) : Option Nat :=
    let marks := ((rest.take 4).takeWhile (· = mark)).length
    if 2 ≤ marks then some (marks - 2) else none

/-- Drops a line break at the start. -/
def dropBreak : List Char → List Char
  | '\n' :: rest => rest
  | '\r' :: '\n' :: rest => rest
  | s => s

/-- Reads a string of one line. -/
def lineString? : List Char → Option (String × List Char)
  | '"' :: rest => basicRest? [] rest
  | '\'' :: rest => literalRest? rest
  | _ => none

def string? : List Char → Option (String × List Char)
  | '"' :: '"' :: '"' :: rest => multilineRest? '"' true false [] (dropBreak rest)
  | '\'' :: '\'' :: '\'' :: rest => multilineRest? '\'' false false [] (dropBreak rest)
  | s => lineString? s

def isBare (c : Char) : Bool := c.isAlphanum || c = '_' || c = '-'

/-- Reads one part of a key. -/
def keyPart? (s : List Char) : Option (String × List Char) :=
  match s.takeWhile isBare with
  | [] => lineString? s
  | name => some (.ofList name, s.drop name.length)

/-- Reads a key of several parts with points between them. -/
def key? : Nat → List Char → Option (List String × List Char)
  | 0, _ => none
  | fuel + 1, s => do
    let (part, s) ← keyPart? (skipSpace s)
    match skipSpace s with
    | '.' :: rest => do
      let (parts, rest) ← key? fuel rest
      return (part :: parts, rest)
    | rest => return ([part], rest)

end AttributeRelease.Toml
