import AttributeRelease.Unicode.Casing

/-!
Lower-casing of whole texts.

Every character is mapped by itself, except the capital sigma, whose form depends on whether it
ends a word.
-/

namespace AttributeRelease.Text

open Unicode

def casedSet : CharSet := Property.cased.set

def ignorableSet : CharSet := Property.caseIgnorable.set

/-- The first character that matters for case is a cased one. -/
def startsCased (s : List Char) : Bool :=
  match s.dropWhile ignorableSet.contains with
  | [] => false
  | c :: _ => casedSet.contains c

/-- Lower-cases the rest of a text, given the part before it in reverse. -/
def lowercaseFrom (before : List Char) : List Char → List Char
  | [] => []
  | c :: rest =>
    if c = 'Σ' then
      (if startsCased before && !startsCased rest then 'ς' else 'σ') ::
        lowercaseFrom (c :: before) rest
    else lower c ++ lowercaseFrom (c :: before) rest

def lowercase (s : String) : String := .ofList (lowercaseFrom [] s.toList)

end AttributeRelease.Text
