import AttributeRelease.Regex.Reader
import AttributeRelease.Regex.Search
import AttributeRelease.Regex.Size

/-!
Regular expressions: reading a pattern, and matching texts with it.

A match may lie anywhere in the text unless the pattern says otherwise, and of several matches the
one that starts first counts, with the preferred choices made inside of it.
-/

namespace AttributeRelease

structure Regex where
  node : Regex.Node
  program : Regex.Program

namespace Regex

/-- Reads a pattern, with or without regard to case. -/
def compile (pattern : String) (caseless : Bool) : Except SyntaxError Regex := do
  let node ← readNode caseless pattern.toList
  if roomLimit < node.totalRoom then throw .tooLarge
  return ⟨node, node.program⟩

/-- How many groups the expression can record, the whole match not counted. -/
def groups (r : Regex) : Nat := r.program.groups

def isMatch (r : Regex) (text : String) : Bool :=
  (r.program.search text.toList.toArray).isSome

/-- The text that a group recorded in the preferred match, if the match has that group. -/
def capture? (r : Regex) (text : String) (group : Nat) : Option String := do
  let chars := text.toList
  let saves ← r.program.search chars.toArray
  let start ← saves.lookup (2 * group)
  let stop ← saves.lookup (2 * group + 1)
  return .ofList ((chars.take stop).drop start)

end Regex

end AttributeRelease
