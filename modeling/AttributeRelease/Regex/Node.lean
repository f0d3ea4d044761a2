import AttributeRelease.Unicode.CharSet

/-!
Regular expressions as trees.

A node matches one character of a set, a place in the text, or a combination of these. Choices are
ordered: the left branch is preferred, and a greedy repetition prefers one more round.
-/

namespace AttributeRelease.Regex

/-- Which changes between word and other characters count as an edge. -/
inductive WordEdge where
  | boundary
  | inside
  | start
  | finish
  | startHalf
  | finishHalf
deriving DecidableEq, Repr

/-- A test of the place between two characters. -/
inductive Look where
  | textStart
  | textEnd
  | lineStart
  | lineEnd
  | crlfStart
  | crlfEnd
  | word (edge : WordEdge) (unicode : Bool)
deriving DecidableEq, Repr

inductive Node where
  | empty
  | set (s : CharSet)
  | look (l : Look)
  | seq (a b : Node)
  | alt (a b : Node)
  | repeat (greedy : Bool) (min : Nat) (max : Option Nat) (a : Node)
  | capture (index : Nat) (a : Node)
deriving DecidableEq, Repr

namespace Node

/-- Matches nothing but the empty text. -/
def zeroWidth : Node → Bool
  | empty => true
  | set _ => false
  | look _ => true
  | seq a b => a.zeroWidth && b.zeroWidth
  | alt a b => a.zeroWidth && b.zeroWidth
  | .repeat _ _ max a => max.isSome && a.zeroWidth
  | capture _ a => a.zeroWidth

/-- The highest number of a capture group, or zero if there is none. -/
def lastGroup : Node → Nat
  | empty | set _ | look _ => 0
  | seq a b | alt a b => max a.lastGroup b.lastGroup
  | .repeat _ _ _ a => a.lastGroup
  | capture i a => max i a.lastGroup

/-- A repetition. A round that has no width is not worth a second one, none at all is the empty
expression with no groups left in it, and exactly one is the expression itself. -/
def rounds (greedy : Bool) (min : Nat) (max : Option Nat) (a : Node) : Node :=
  let (min, max) := if a.zeroWidth then (Nat.min min 1, some ((max.map (Nat.min · 1)).getD 1))
    else (min, max)
  if min = 0 ∧ max = some 0 then empty
  else if min = 1 ∧ max = some 1 then a
  else .repeat greedy min max a

/-! ### Sequences and choices -/

def ofList : List Node → Node
  | [] => empty
  | [a] => a
  | a :: rest => seq a (ofList rest)

/-- The parts of a sequence, without those that are empty. -/
def parts : Node → List Node
  | empty => []
  | seq a b => a.parts ++ b.parts
  | a => [a]

/-- The branches of a choice. -/
def branches : Node → List Node
  | alt a b => a.branches ++ b.branches
  | a => [a]

/-- One branch after the other. Without any there is nothing to match. -/
def ofBranches : List Node → Node
  | [] => set .empty
  | [a] => a
  | a :: rest => alt a (ofBranches rest)

def set? : Node → Option CharSet
  | set s => some s
  | _ => none

/-- A set of one character. -/
def isCharacter (a : Node) : Bool := a.set?.any (·.single?.isSome)

/-- A set of several characters, or of none. -/
def isClass (a : Node) : Bool := a.set?.any (·.single?.isNone)

/-- The set of all characters of branches that are of one of the two kinds. -/
def setOf? (l : List Node) : Option CharSet :=
  if l.all isCharacter || l.all isClass then some (.unions (l.filterMap set?)) else none

/-- The parts of a sequence, with characters next to each other as one. -/
def runs (a : Node) : List (List Node) := a.parts.splitBy fun x y => x.isCharacter && y.isCharacter

/-- What two lists begin with in common. -/
def commonStart {α : Type} [DecidableEq α] : List α → List α → List α
  | a :: l, b :: m => if a = b then a :: commonStart l m else []
  | _, _ => []

/-- What all branches begin with, if each of them is a sequence. -/
def sharedRuns : List Node → List (List Node)
  | [] => []
  | a :: rest =>
    if (a :: rest).all (2 ≤ ·.runs.length) then
      rest.foldl (fun shared b => commonStart shared b.runs) a.runs
    else []

/-- A choice between branches. Branches that are sets of characters come to one set. -/
def merge (l : List Node) : Node :=
  let l := l.flatMap branches
  match setOf? l with
  | some s => set s
  | none => ofBranches l

/-- A choice between alternatives. What all of them begin with stands before it. -/
def choice (l : List Node) : Node :=
  let l := l.flatMap branches
  match sharedRuns l with
  | [] => merge l
  | shared =>
    ofList (shared.flatten ++ [merge (l.map fun a => ofList (a.runs.drop shared.length).flatten)])

end Node

end AttributeRelease.Regex
