import AttributeRelease.Unicode.Property

/-!
Texts in quotes, with everything escaped that cannot be seen or does not stand by itself.
-/

namespace AttributeRelease.Text

open Unicode

/-- The categories of characters that leave no mark. Of them only the space is written as it is. -/
def unseen : List Category :=
  [.control, .format, .privateUse, .spaceSeparator, .lineSeparator, .paragraphSeparator]

def isUnseen (c : Char) : Bool :=
  c != ' ' && ((Category.setOf unseen).contains c || !Category.assigned.contains c)

def literalChar (c : Char) : List Char :=
  match c with
  | '\x00' => ['\\', '0']
  | '\t' => ['\\', 't']
  | '\r' => ['\\', 'r']
  | '\n' => ['\\', 'n']
  | '"' => ['\\', '"']
  | '\\' => ['\\', '\\']
  | c =>
    if ' ' ≤ c && c ≤ '~' then [c]
    else if Property.graphemeExtend.set.contains c || isUnseen c then
      ['\\', 'u', '\x7b'] ++ Nat.toDigits 16 c.toNat ++ ['\x7d']
    else [c]

def literal (s : String) : String := .ofList ('"' :: s.toList.flatMap literalChar ++ ['"'])

end AttributeRelease.Text
