import AttributeRelease.Regex
import AttributeRelease.Text.Lowercase

/-!
Tests of texts: comparison with a fixed text, or with a pattern that the whole text has to match.
-/

namespace AttributeRelease

/-- A regular expression wrapped so that it starts and ends where the text does. -/
def Regex.whole (pattern : String) (caseless : Bool) : Except Regex.SyntaxError Regex :=
  Regex.compile ("^(?:" ++ pattern ++ ")$") caseless

structure ValuePattern where
  source : String
  regex : Regex

namespace ValuePattern

def ofText (pattern : String) (caseSensitive : Bool) : Except Regex.SyntaxError ValuePattern := do
  return ⟨pattern, ← Regex.whole pattern !caseSensitive⟩

def holds (p : ValuePattern) (text : String) : Bool := p.regex.isMatch text

end ValuePattern

inductive TextTest where
  | same (value : String)
  | sameIgnoringCase (value : String)
  | pattern (p : ValuePattern)

namespace TextTest

def ofValue (value : String) (caseSensitive : Bool) : TextTest :=
  if caseSensitive then same value else sameIgnoringCase value

def holds (t : TextTest) (text : String) : Bool :=
  match t with
  | same value => value = text
  | sameIgnoringCase value => Text.lowercase value = Text.lowercase text
  | pattern p => p.holds text

end TextTest

end AttributeRelease
