import AttributeRelease.Regex.Bracket

/-!
Reading patterns.

The reader is a machine that takes the text piece by piece. Its state holds the pieces of the
current alternative, the alternatives before it, and one frame for each group that is still open.
Flags hold from where they are set to the end of the group around them.
-/

namespace AttributeRelease.Regex

/-- A piece of a pattern with the height of its nesting. -/
structure Piece where
  node : Node
  height : Nat

/-- A part of an alternative. A change of flags takes a place but cannot be repeated. -/
inductive Part where
  | piece (p : Piece)
  | flags

/-- What is kept while a group is read: what stands before it, its number if it captures, and the
flags that come back after it. -/
structure Frame where
  parts : List Part
  alternatives : List Piece
  group : Option Nat
  flags : Flags

/-- Parts and alternatives are kept last first. -/
structure Reader where
  rest : List Char
  flags : Flags
  parts : List Part := []
  alternatives : List Piece := []
  frames : List Frame := []
  groups : Nat := 0
  names : List (List Char) := []

def Part.piece? : Part → Option Piece
  | .piece p => some p
  | .flags => none

def joinParts (parts : List Part) : Piece :=
  let pieces := parts.filterMap Part.piece?
  let height := pieces.foldl (fun h p => max h p.height) 0
  ⟨.ofList (pieces.reverse.map (·.node)), if 2 ≤ parts.length then height + 1 else height⟩

/-- All alternatives as one piece, the last of them being the parts at hand. -/
def joinAlternatives (alternatives : List Piece) (parts : List Part) : Piece :=
  let last := joinParts parts
  match (last :: alternatives).reverse with
  | [] => last
  | [p] => p
  | first :: others =>
    ⟨.choice ((first :: others).map (·.node)),
      others.foldl (fun h p => max h p.height) first.height + 1⟩

namespace Reader

def push (r : Reader) (node : Node) (height : Nat) (rest : List Char) : Reader :=
  { r with parts := .piece ⟨node, height⟩ :: r.parts, rest }

/-! ### Groups -/

def openGroup (r : Reader) (group : Option Nat) (flags : Flags) (rest : List Char) : Reader :=
  { r with
    rest, flags
    parts := []
    alternatives := []
    frames := ⟨r.parts, r.alternatives, group, r.flags⟩ :: r.frames }

/-- Starts a group with the next number. -/
def openCapture (r : Reader) (rest : List Char) : Reader :=
  { r.openGroup (some (r.groups + 1)) r.flags rest with groups := r.groups + 1 }

def closeGroup (r : Reader) (rest : List Char) : Except SyntaxError Reader :=
  match r.frames with
  | [] => .error .groupUnopened
  | frame :: frames =>
    let inner := joinAlternatives r.alternatives r.parts
    let node := match frame.group with
      | some i => .capture i inner.node
      | none => inner.node
    .ok { r with
      rest, frames
      flags := frame.flags
      parts := .piece ⟨node, inner.height + 1⟩ :: frame.parts
      alternatives := frame.alternatives }

def nextAlternative (r : Reader) (rest : List Char) : Reader :=
  { r with rest, parts := [], alternatives := joinParts r.parts :: r.alternatives }

def letters : CharSet := Unicode.Property.alphabetic.set

def numerals : CharSet := Unicode.Category.setOf Unicode.Category.numbers

def isNameChar (first : Bool) (c : Char) : Bool :=
  c = '_' || letters.contains c ||
    (!first && (c = '.' || c = '[' || c = ']' || numerals.contains c))

/-- The name of a group up to a closing angle bracket. -/
def readGroupName (name : List Char) : List Char → Except SyntaxError (List Char × List Char)
  | [] => .error .groupName
  | c :: rest =>
    if c = '>' then if name.isEmpty then .error .groupName else .ok (name.reverse, rest)
    else if isNameChar name.isEmpty c then readGroupName (c :: name) rest
    else .error .groupName

def setFlag (f : Flags) (on : Bool) : Char → Option Flags
  | 'i' => some { f with caseless := on }
  | 'm' => some { f with multiline := on }
  | 's' => some { f with dotAll := on }
  | 'U' => some { f with swapGreed := on }
  | 'u' => some { f with unicode := on }
  | 'R' => some { f with crlf := on }
  | 'x' => some { f with verbose := on }
  | _ => none

/-- Reads flags up to a colon or a closing parenthesis. The letters seen so far are kept last
first, with the hyphen among them. -/
def readFlags (f : Flags) (seen : List Char) : List Char →
    Except SyntaxError (Flags × List Char × Char × List Char)
  | [] => .error .flags
  | c :: rest =>
    if c = ':' ∨ c = ')' then
      if seen.head? = some '-' then .error .flags else .ok (f, seen, c, rest)
    else if seen.contains c then .error .flags
    else if c = '-' then readFlags f (c :: seen) rest
    else
      match setFlag f (!seen.contains '-') c with
      | none => .error .flags
      | some f => readFlags f (c :: seen) rest

def nameGroup (r : Reader) (s : List Char) : Except SyntaxError Reader := do
  let (name, rest) ← readGroupName [] s
  if r.names.contains name then throw .groupNameRepeated
  return { r.openCapture rest with names := name :: r.names }

/-- Reads what follows an opening parenthesis. -/
def startGroup (r : Reader) (s : List Char) : Except SyntaxError Reader :=
  match r.flags.skip s with
  | '?' :: '=' :: _ | '?' :: '!' :: _ | '?' :: '<' :: '=' :: _ | '?' :: '<' :: '!' :: _ =>
    .error .lookAround
  | '?' :: 'P' :: '<' :: rest | '?' :: '<' :: rest => r.nameGroup rest
  | '?' :: rest => do
    let (flags, seen, stop, rest) ← readFlags r.flags [] rest
    if stop = ':' then return r.openGroup none flags rest
    else if seen.isEmpty then throw .repetitionMissing
    else return { r with flags, rest, parts := .flags :: r.parts }
  | rest => .ok (r.openCapture rest)

/-- Repeats the last piece, if there is one. -/
def repeatLast (r : Reader) (greedy : Bool) (min : Nat) (max : Option Nat) (rest : List Char) :
    Except SyntaxError Reader :=
  match r.parts with
  | .piece p :: parts =>
    let node := p.node.rounds (greedy != r.flags.swapGreed) min max
    .ok { r with rest, parts := .piece ⟨node, p.height + 1⟩ :: parts }
  | _ => .error .repetitionMissing

/-- Takes the question mark that makes a repetition lazy. -/
def readGreed : List Char → Bool × List Char
  | '?' :: rest => (false, rest)
  | rest => (true, rest)

def countLimit : Nat := 0x100000000

/-- The digits of a count, in verbose mode perhaps with blanks between them. -/
def readDigits (f : Flags) (value : Option Nat) : Nat → List Char → Option Nat × List Char
  | 0, s => (value, s)
  | fuel + 1, s =>
    match s with
    | c :: rest =>
      if c.isDigit then
        readDigits f (some (10 * value.getD 0 + (c.toNat - 48))) fuel (f.skip rest)
      else (value, s)
    | [] => (value, s)

/-- A count with blanks around it. No digits are no error here. -/
def readCount (f : Flags) (s : List Char) : Except SyntaxError (Option Nat × List Char) :=
  let s := s.dropWhile Text.isWhite
  let (value, rest) := readDigits f none s.length s
  let rest := f.skip (rest.dropWhile Text.isWhite)
  if countLimit ≤ value.getD 0 then .error .repetitionCount else .ok (value, rest)

/-- Reads what follows an opening brace. -/
def repeatCounted (r : Reader) (s : List Char) : Except SyntaxError Reader := do
  let f := r.flags
  if r.parts.isEmpty then throw .repetitionMissing
  let (low, rest) ← readCount f (f.skip s)
  let some low := low | throw .repetitionCount
  let (high, rest) ← match rest with
    | ',' :: rest =>
      match f.skip rest with
      | '}' :: rest => pure (none, '}' :: rest)
      | rest => do
        let (high, rest) ← readCount f rest
        if high.isNone then throw .repetitionCount
        pure (high, rest)
    | rest => pure (some low, rest)
  match rest with
  | '}' :: rest =>
    let (greedy, rest) := readGreed (f.skip rest)
    if high.any (· < low) then throw .repetitionCount
    r.repeatLast greedy low high rest
  | _ => throw .repetitionCount

def pushPrimitive (r : Reader) (p : Primitive) (rest : List Char) : Except SyntaxError Reader :=
  match p with
  | .literal c byte => do return r.push (.set (← r.flags.literal c byte)) 0 rest
  | .set s => .ok (r.push (.set s) 0 rest)
  | .look l => .ok (r.push (.look l) 0 rest)

def lineLook (f : Flags) (text line crlf : Look) : Look :=
  if f.multiline then (if f.crlf then crlf else line) else text

/-- Takes one element off the text. -/
def step (r : Reader) (c : Char) (rest : List Char) : Except SyntaxError Reader :=
  match c with
  | '(' => r.startGroup rest
  | ')' => r.closeGroup rest
  | '|' => .ok (r.nextAlternative rest)
  | '[' => do
    let (set, height, rest) ← readBracketed r.flags rest
    return r.push (.set set) height rest
  | '?' => let (greedy, rest) := readGreed rest; r.repeatLast greedy 0 (some 1) rest
  | '*' => let (greedy, rest) := readGreed rest; r.repeatLast greedy 0 none rest
  | '+' => let (greedy, rest) := readGreed rest; r.repeatLast greedy 1 none rest
  | '{' => r.repeatCounted rest
  | '\\' => do let (p, rest) ← readEscape r.flags rest; r.pushPrimitive p rest
  | '.' => do return r.push (.set (← r.flags.dot)) 0 rest
  | '^' => .ok (r.push (.look (lineLook r.flags .textStart .lineStart .crlfStart)) 0 rest)
  | '$' => .ok (r.push (.look (lineLook r.flags .textEnd .lineEnd .crlfEnd)) 0 rest)
  | c => r.pushPrimitive (.literal c false) rest

def finish (r : Reader) : Except SyntaxError Piece :=
  if r.frames.isEmpty then .ok (joinAlternatives r.alternatives r.parts) else .error .groupUnclosed

/-- Takes elements off the text until none is left; every one has at least one character. -/
def run : Nat → Reader → Except SyntaxError Piece
  | 0, r => r.finish
  | fuel + 1, r =>
    match r.flags.skip r.rest with
    | [] => r.finish
    | c :: rest => do run fuel (← r.step c rest)

end Reader

/-- How deep a pattern may be nested. -/
def heightLimit : Nat := 250

/-- Reads a whole pattern. -/
def readNode (caseless : Bool) (pattern : List Char) : Except SyntaxError Node := do
  let p ← Reader.run (pattern.length + 1) { rest := pattern, flags := { caseless } }
  if heightLimit < p.height then throw .tooDeep
  return p.node

end AttributeRelease.Regex
