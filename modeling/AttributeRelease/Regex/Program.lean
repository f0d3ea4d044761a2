import AttributeRelease.Regex.Node

/-!
Programs that match regular expressions.

The code of an expression is a block of instructions that ends where the code of what follows
begins. Choices name their preferred continuation first. A repetition without an upper bound is
one optional round that jumps back to its own start.
-/

namespace AttributeRelease.Regex

inductive Inst where
  | set (s : CharSet)
  | look (l : Look)
  | save (slot : Nat)
  | split (first second : Nat)
  | jump (target : Nat)
  | accept
deriving DecidableEq, Repr

/-- A choice between going on with the next round and leaving. -/
def Inst.round (greedy : Bool) (body exit : Nat) : Inst :=
  if greedy then .split body exit else .split exit body

/-- The code of a number of copies, one after the other. -/
def copies (length : Nat) (code : Nat → List Inst) : Nat → Nat → List Inst
  | 0, _ => []
  | n + 1, at' => code at' ++ copies length code n (at' + length)

/-- The code of optional rounds, each inside of the one before it and all with one exit. -/
def options (length : Nat) (code : Nat → List Inst) (greedy : Bool) (exit : Nat) :
    Nat → Nat → List Inst
  | 0, _ => []
  | n + 1, at' =>
    .round greedy (at' + 1) exit :: code (at' + 1) ++
      options length code greedy exit n (at' + 1 + length)

namespace Node

/-- How many instructions an expression takes. -/
def length : Node → Nat
  | empty => 0
  | set _ => 1
  | look _ => 1
  | seq a b => a.length + b.length
  | alt a b => a.length + b.length + 2
  | .repeat _ 0 none a => a.length + 2
  | .repeat _ (n + 1) none a => (n + 1) * a.length + 1
  | .repeat _ min (some max) a => min * a.length + (max - min) * (a.length + 1)
  | capture _ a => a.length + 2

/-- The code of an expression, to stand from a given address on. -/
def code : Node → Nat → List Inst
  | empty, _ => []
  | set s, _ => [.set s]
  | look l, _ => [.look l]
  | seq a b, i => a.code i ++ b.code (i + a.length)
  | alt a b, i =>
    let second := i + 1 + a.length + 1
    .split (i + 1) second :: a.code (i + 1) ++ .jump (second + b.length) :: b.code second
  | .repeat greedy 0 none a, i =>
    let exit := i + a.length + 2
    .round greedy (i + 1) exit :: a.code (i + 1) ++ [.round greedy (i + 1) exit]
  | .repeat greedy (n + 1) none a, i =>
    let last := i + n * a.length
    copies a.length a.code n i ++ a.code last ++ [.round greedy last (last + a.length + 1)]
  | .repeat greedy min (some max) a, i =>
    let exit := i + min * a.length + (max - min) * (a.length + 1)
    copies a.length a.code min i ++
      options a.length a.code greedy exit (max - min) (i + min * a.length)
  | capture k a, i => .save (2 * k) :: a.code (i + 1) ++ [.save (2 * k + 1)]

end Node

structure Program where
  code : Array Inst
  groups : Nat

/-- The program of an expression, which records the whole match as group zero. -/
def Node.program (a : Node) : Program where
  code := ((Node.capture 0 a).code 0 ++ [Inst.accept]).toArray
  groups := a.lastGroup

end AttributeRelease.Regex
