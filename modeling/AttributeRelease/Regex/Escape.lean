import AttributeRelease.Regex.Class
import AttributeRelease.Regex.Node

/-!
Escapes of patterns: what a backslash and the characters after it stand for.

Every reader takes the text after what has been read and gives what it found together with the
text that is left. In verbose mode blanks and comments between the parts of an escape are skipped.
-/

namespace AttributeRelease.Regex

open Text

/-- What a single escape or character stands for. -/
inductive Primitive where
  | literal (c : Char) (byte : Bool)
  | set (s : CharSet)
  | look (l : Look)

/-- Drops blanks and comments; a comment goes from a number sign to the end of its line. -/
def dropComments (inComment : Bool) : List Char → List Char
  | [] => []
  | c :: rest =>
    if inComment then dropComments (c != '\n') rest
    else if isWhite c then dropComments false rest
    else if c = '#' then dropComments true rest
    else c :: rest

def Flags.skip (f : Flags) (s : List Char) : List Char :=
  if f.verbose then dropComments false s else s

/-- The character that a range would go on with. A comment hides only its number sign. -/
def Flags.peek? (f : Flags) (s : List Char) : Option Char :=
  if !f.verbose then s.head?
  else
    match s.dropWhile isWhite with
    | [] => s.head?
    | '#' :: rest =>
      match rest.dropWhile isWhite with
      | [] => s.head?
      | c :: _ => some c
    | c :: _ => some c

def hexDigit? (c : Char) : Option Nat :=
  if '0' ≤ c ∧ c ≤ '9' then some (c.toNat - 48)
  else if 'a' ≤ c ∧ c ≤ 'f' then some (c.toNat - 87)
  else if 'A' ≤ c ∧ c ≤ 'F' then some (c.toNat - 55)
  else none

/-- The character with a number, if there is one. -/
def char? (n : Nat) : Option Char :=
  if h : n.isValidChar then some (Char.ofNatAux n h) else none

def charOf (n : Nat) : Except SyntaxError Char :=
  match char? n with
  | some c => .ok c
  | none => .error .escape

/-- A fixed count of hexadecimal digits. -/
def readHexDigits (f : Flags) (value : Nat) : Nat → List Char →
    Except SyntaxError (Char × List Char)
  | 0, s => do return (← charOf value, s)
  | n + 1, s =>
    match s with
    | [] => .error .escape
    | c :: rest =>
      match hexDigit? c with
      | none => .error .escape
      | some d => readHexDigits f (16 * value + d) n (f.skip rest)

/-- Hexadecimal digits up to a closing brace. -/
def readHexBraced (f : Flags) (digits : Option Nat) : Nat → List Char →
    Except SyntaxError (Char × List Char)
  | 0, _ => .error .escape
  | fuel + 1, s =>
    match f.skip s with
    | [] => .error .escape
    | '}' :: rest =>
      match digits with
      | none => .error .escape
      | some n => do return (← charOf n, f.skip rest)
    | c :: rest =>
      match hexDigit? c with
      | none => .error .escape
      | some d => readHexBraced f (some (16 * digits.getD 0 + d)) fuel rest

def readHex (f : Flags) (digits : Nat) (s : List Char) : Except SyntaxError (Char × List Char) :=
  match f.skip s with
  | '{' :: rest => readHexBraced f none (rest.length + 1) rest
  | rest => readHexDigits f 0 digits rest

/-- Splits a text before the first occurrence of a mark. -/
def cutAt (mark : List Char) : List Char → Option (List Char × List Char)
  | [] => none
  | c :: rest =>
    if mark.isPrefixOf (c :: rest) then some ([], (c :: rest).drop mark.length)
    else (cutAt mark rest).map fun p => (c :: p.1, p.2)

def propertyOf (f : Flags) (negated : Bool) (name : List Char) : Except SyntaxError CharSet := do
  if !f.unicode then throw .notUtf8
  match cutAt ['!', '='] name with
  | some (n, v) => f.negate (!negated) (f.fold (← byValue n v))
  | none =>
    match cutAt [':'] name with
    | some (n, v) => f.negate negated (f.fold (← byValue n v))
    | none =>
      match cutAt ['='] name with
      | some (n, v) => f.negate negated (f.fold (← byValue n v))
      | none => f.negate negated (f.fold (← byName name))

/-- The name of a property up to a closing brace. -/
def readBracedName (f : Flags) (name : List Char) : Nat → List Char →
    Except SyntaxError (List Char × List Char)
  | 0, _ => .error .escape
  | fuel + 1, s =>
    match f.skip s with
    | [] => .error .escape
    | '}' :: rest => .ok (name.reverse, rest)
    | c :: rest => readBracedName f (c :: name) fuel rest

def readProperty (f : Flags) (negated : Bool) (s : List Char) :
    Except SyntaxError (Primitive × List Char) :=
  match f.skip s with
  | [] => .error .escape
  | '{' :: rest => do
    let (name, rest) ← readBracedName f [] (rest.length + 1) rest
    return (.set (← propertyOf f negated name), rest)
  | '\\' :: _ => .error .escape
  | c :: rest => do return (.set (← propertyOf f negated [c]), f.skip rest)

def isEdgeNameChar (c : Char) : Bool :=
  ('a' ≤ c && c ≤ 'z') || ('A' ≤ c && c ≤ 'Z') || c = '-'

def edgeNamed? : String → Option WordEdge
  | "start" => some .start
  | "end" => some .finish
  | "start-half" => some .startHalf
  | "end-half" => some .finishHalf
  | _ => none

def readEdgeName (f : Flags) (name : List Char) : Nat → List Char →
    Except SyntaxError (List Char × List Char)
  | 0, _ => .error .escape
  | fuel + 1, s =>
    match s with
    | [] => .error .escape
    | c :: rest =>
      if isEdgeNameChar c then readEdgeName f (c :: name) fuel (f.skip rest)
      else if c = '}' then .ok (name.reverse, rest)
      else .error .escape

/-- A word edge, perhaps with the name of its kind in braces. A brace that no name follows starts
a count instead. -/
def readEdge (f : Flags) (s : List Char) : Except SyntaxError (Primitive × List Char) :=
  match s with
  | '{' :: rest =>
    match f.skip rest with
    | [] => .error .escape
    | c :: tail =>
      if isEdgeNameChar c then do
        let (name, left) ← readEdgeName f [] (tail.length + 2) (c :: tail)
        match edgeNamed? (.ofList name) with
        | some e => .ok (.look (.word e f.unicode), left)
        | none => .error .escape
      else .ok (.look (.word .boundary f.unicode), s)
  | _ => .ok (.look (.word .boundary f.unicode), s)

/-! ### All escapes -/

def perlClass (f : Flags) (negated : Bool) (unicode ascii : CharSet) (rest : List Char) :
    Except SyntaxError (Primitive × List Char) := do
  return (.set (← f.negate negated (if f.unicode then unicode else ascii)), rest)

def isMeta (c : Char) : Bool := "\\.+*?()|[]\x7b\x7d^$#&-~".toList.contains c

/-- Characters that may follow a backslash without need. -/
def isEscapable (c : Char) : Bool :=
  c.toNat < 0x80 && !c.isAlphanum && c != '<' && c != '>'

/-- Reads what follows a backslash. -/
def readEscape (f : Flags) : List Char → Except SyntaxError (Primitive × List Char)
  | [] => .error .escape
  | c :: rest =>
    match c with
    | 'x' => do
      let (c, rest') ← readHex f 2 rest
      return (.literal c ((f.skip rest).head? != some '{'), rest')
    | 'u' => do let (c, rest) ← readHex f 4 rest; return (.literal c false, rest)
    | 'U' => do let (c, rest) ← readHex f 8 rest; return (.literal c false, rest)
    | 'p' => readProperty f false rest
    | 'P' => readProperty f true rest
    | 'd' => perlClass f false digit asciiDigit rest
    | 'D' => perlClass f true digit asciiDigit rest
    | 's' => perlClass f false space asciiSpace rest
    | 'S' => perlClass f true space asciiSpace rest
    | 'w' => perlClass f false word asciiWord rest
    | 'W' => perlClass f true word asciiWord rest
    | 'a' => .ok (.literal '\x07' false, rest)
    | 'f' => .ok (.literal '\x0C' false, rest)
    | 't' => .ok (.literal '\t' false, rest)
    | 'n' => .ok (.literal '\n' false, rest)
    | 'r' => .ok (.literal '\r' false, rest)
    | 'v' => .ok (.literal '\x0B' false, rest)
    | 'A' => .ok (.look .textStart, rest)
    | 'z' => .ok (.look .textEnd, rest)
    | 'b' => readEdge f rest
    | 'B' => .ok (.look (.word .inside f.unicode), rest)
    | '<' => .ok (.look (.word .start f.unicode), rest)
    | '>' => .ok (.look (.word .finish f.unicode), rest)
    | c => if isMeta c || isEscapable c then .ok (.literal c false, rest) else .error .escape

end AttributeRelease.Regex
