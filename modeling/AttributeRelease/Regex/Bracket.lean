import AttributeRelease.Regex.Escape

/-!
Bracketed classes of patterns: ranges, nested classes and the three set operators.

The reader keeps one level for each open bracket. A level remembers what its parent has collected
and the left operand of an operator that waits for its right one. Heights count how deep brackets,
unions and operators are nested.
-/

namespace AttributeRelease.Regex

inductive SetOp where
  | inter
  | diff
  | symmDiff
deriving DecidableEq, Repr

def SetOp.apply : SetOp → CharSet → CharSet → CharSet
  | inter => .inter
  | diff => .diff
  | symmDiff => .symmDiff

/-- The members of a class collected so far. -/
structure Members where
  set : CharSet := .empty
  count : Nat := 0
  height : Nat := 0

namespace Members

def push (m : Members) (s : CharSet) (height : Nat) : Members :=
  ⟨m.set.union s, m.count + 1, max m.height height⟩

/-- The height of the members taken together. -/
def depth (m : Members) : Nat := if 2 ≤ m.count then m.height + 1 else m.height

end Members

/-- An operator with its left operand and the height of that. -/
structure Pending where
  op : SetOp
  lhs : CharSet
  height : Nat

structure Level where
  outer : Members
  negated : Bool
  pending : Option Pending := none

/-- The value of an operand, joined with the operand before it. -/
def Level.operand (f : Flags) (level : Level) (m : Members) : CharSet × Nat :=
  match level.pending with
  | none => (m.set, m.depth)
  | some p => (p.op.apply (f.fold p.lhs) (f.fold m.set), max p.height m.depth + 1)

/-- Reads the name of a class between `[:` and `:]`, after the bracket. -/
def readNamed? (s : List Char) : Option (Bool × CharSet × List Char) :=
  match s with
  | ':' :: rest =>
    let (negated, rest) := match rest with
      | '^' :: r => (true, r)
      | r => (false, r)
    let name := rest.takeWhile (· != ':')
    match rest.drop name.length, named? (.ofList name) with
    | ':' :: ']' :: left, some set => some (negated, set, left)
    | _, _ => none
  | _ => none

/-- A member before it is known whether a range follows. -/
def readMember (f : Flags) : List Char → Except SyntaxError (Primitive × List Char)
  | [] => .error .classUnclosed
  | '\\' :: rest => readEscape f rest
  | c :: rest => .ok (.literal c false, rest)

/-- An end of a range. In a class outside of Unicode mode all characters are single bytes. -/
def rangeEnd (f : Flags) : Primitive → Except SyntaxError Char
  | .literal c _ => if !f.unicode && 0x7F < c.toNat then .error .notUtf8 else .ok c
  | _ => .error .classRange

def memberSet (f : Flags) : Primitive → Except SyntaxError CharSet
  | .set s => .ok s
  | .literal c byte => do return .singleton (← rangeEnd f (.literal c byte))
  | .look _ => .error .classItem

/-- One member: a character, a range or a named class. -/
def readRange (f : Flags) (s : List Char) : Except SyntaxError (CharSet × List Char) := do
  let (first, rest) ← readMember f s
  match f.skip rest with
  | [] => .error .classUnclosed
  | '-' :: after =>
    if f.peek? after = some ']' ∨ f.peek? after = some '-' then
      return (← memberSet f first, '-' :: after)
    else
      match f.skip after with
      | [] => .error .classUnclosed
      | next => do
        let (second, rest) ← readMember f next
        let lo ← rangeEnd f first
        let hi ← rangeEnd f second
        if lo ≤ hi then return (.range lo.toNat hi.toNat, rest) else throw .classRange
  | rest => do return (← memberSet f first, rest)

/-- Hyphens at the start of a class stand for themselves. -/
def readHyphens (f : Flags) (m : Members) : Nat → List Char →
    Except SyntaxError (Members × List Char)
  | 0, s => .ok (m, s)
  | fuel + 1, s =>
    match s with
    | '-' :: rest =>
      match f.skip rest with
      | [] => .error .classUnclosed
      | rest => readHyphens f (m.push (.singleton '-') 0) fuel rest
    | s => .ok (m, s)

/-- Reads the start of a class after its bracket: a caret, hyphens, or a closing bracket that
stands for itself. -/
def readOpening (f : Flags) (s : List Char) : Except SyntaxError (Bool × Members × List Char) := do
  let s := f.skip s
  let (negated, s) := match s with
    | '^' :: rest => (true, f.skip rest)
    | s => (false, s)
  if s.isEmpty then throw .classUnclosed
  let (m, s) ← readHyphens f {} s.length s
  match s with
  | ']' :: rest =>
    if m.count = 0 then
      match f.skip rest with
      | [] => throw .classUnclosed
      | rest => return (negated, m.push (.singleton ']') 0, rest)
    else return (negated, m, s)
  | s => return (negated, m, s)

/-- Reads on with the members of the innermost level collected so far. -/
def readMembers (f : Flags) (level : Level) (levels : List Level) (m : Members) : Nat →
    List Char → Except SyntaxError (CharSet × Nat × List Char)
  | 0, _ => .error .classUnclosed
  | fuel + 1, s =>
    let operator (op : SetOp) (rest : List Char) :=
      let (lhs, height) := level.operand f m
      readMembers f { level with pending := some ⟨op, lhs, height⟩ } levels {} fuel rest
    match f.skip s with
    | [] => .error .classUnclosed
    | '[' :: rest =>
      match readNamed? rest with
      | some (negated, set, left) => do
        readMembers f level levels (m.push (← f.negate negated (f.fold set)) 0) fuel left
      | none => do
        let (negated, inner, left) ← readOpening f rest
        readMembers f { outer := m, negated } (level :: levels) inner fuel left
    | ']' :: rest => do
      let (set, height) := level.operand f m
      let set ← f.negate level.negated (f.fold set)
      match levels with
      | [] => return (set, height + 1, rest)
      | parent :: levels =>
        readMembers f parent levels (level.outer.push set (height + 1)) fuel rest
    | '&' :: '&' :: rest => operator .inter rest
    | '-' :: '-' :: rest => operator .diff rest
    | '~' :: '~' :: rest => operator .symmDiff rest
    | s => do
      let (set, rest) ← readRange f s
      readMembers f level levels (m.push set 0) fuel rest

/-- Reads a class after its opening bracket: the set, its height and the text left. -/
def readBracketed (f : Flags) (s : List Char) : Except SyntaxError (CharSet × Nat × List Char) := do
  let (negated, m, rest) ← readOpening f s
  readMembers f { outer := {}, negated } [] m (s.length + 1) rest

end AttributeRelease.Regex
