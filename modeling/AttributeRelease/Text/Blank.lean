/-!
White space, and texts that hold nothing else.

White space is the property of that name of the character database, which knows more characters
than space and the line breaks.
-/

namespace AttributeRelease.Text

def isWhite (c : Char) : Bool :=
  let n := c.toNat
  (9 ≤ n && n ≤ 13) || n = 0x20 || n = 0x85 || n = 0xA0 || n = 0x1680 ||
    (0x2000 ≤ n && n ≤ 0x200A) || n = 0x2028 || n = 0x2029 || n = 0x202F || n = 0x205F ||
    n = 0x3000

/-- Removes white space at both ends. -/
def trimChars (s : List Char) : List Char :=
  ((s.dropWhile isWhite).reverse.dropWhile isWhite).reverse

def trim (s : String) : String := .ofList (trimChars s.toList)

def isBlank (s : String) : Bool := s.toList.all isWhite

theorem dropWhile_eq_nil_iff {p : Char → Bool} {l : List Char} :
    l.dropWhile p = [] ↔ l.all p = true := by
  induction l with
  | nil => simp
  | cons c l ih => cases h : p c <;> simp [h, ih]

/-- What is blank is what trimming leaves nothing of. -/
theorem trimChars_eq_nil_iff {s : List Char} : trimChars s = [] ↔ s.all isWhite = true := by
  constructor
  · intro h
    rw [trimChars, List.reverse_eq_nil_iff, dropWhile_eq_nil_iff, List.all_reverse] at h
    rw [← List.takeWhile_append_dropWhile (p := isWhite) (l := s), List.all_append, h,
      Bool.and_true, List.all_takeWhile]
  · intro h
    rw [trimChars, dropWhile_eq_nil_iff.2 h]; rfl

end AttributeRelease.Text
