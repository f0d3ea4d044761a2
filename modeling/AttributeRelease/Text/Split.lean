/-!
Splitting a text in two.
-/

namespace AttributeRelease.Text

/-- The text before the first character with a property, and what follows that character, if there
is one. -/
def splitFirst (p : Char → Bool) (s : List Char) : List Char × Option (List Char) :=
  match s.dropWhile fun c => !p c with
  | [] => (s, none)
  | _ :: rest => (s.takeWhile fun c => !p c, some rest)

end AttributeRelease.Text
