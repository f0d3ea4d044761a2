import AttributeRelease.Text.Blank
import AttributeRelease.Unicode.Age
import AttributeRelease.Unicode.Break
import AttributeRelease.Unicode.Casing

/-!
Named classes of characters, and the flags that decide how names and single characters are read.
-/

namespace AttributeRelease.Regex

open Unicode

structure Flags where
  caseless : Bool := false
  multiline : Bool := false
  dotAll : Bool := false
  swapGreed : Bool := false
  unicode : Bool := true
  crlf : Bool := false
  verbose : Bool := false
deriving DecidableEq, Repr

/-- Why a pattern is refused. -/
inductive SyntaxError where
  | groupUnopened
  | groupUnclosed
  | groupName
  | groupNameRepeated
  | lookAround
  | flags
  | repetitionMissing
  | repetitionCount
  | classUnclosed
  | classItem
  | classRange
  | escape
  | unknownProperty
  | notUtf8
  | tooDeep
  | tooLarge
deriving DecidableEq, Repr

def asciiDigit : CharSet := .ofText "30-39"
def asciiSpace : CharSet := .ofText "9-D 20"
def asciiWord : CharSet := .ofText "30-39 41-5A 5F 61-7A"

def digit : CharSet := Category.decimalNumber.set
def space : CharSet := Property.whiteSpace.set

/-- Letters, marks, digits, connectors and joiners. -/
def word : CharSet :=
  .unions [Property.alphabetic.set, Category.setOf Category.marks, Category.decimalNumber.set,
    Category.connectorPunctuation.set, Property.joinControl.set]

def named? : String → Option CharSet
  | "alnum" => some (.ofText "30-39 41-5A 61-7A")
  | "alpha" => some (.ofText "41-5A 61-7A")
  | "ascii" => some (.ofText "0-7F")
  | "blank" => some (.ofText "9 20")
  | "cntrl" => some (.ofText "0-1F 7F")
  | "digit" => some asciiDigit
  | "graph" => some (.ofText "21-7E")
  | "lower" => some (.ofText "61-7A")
  | "print" => some (.ofText "20-7E")
  | "punct" => some (.ofText "21-2F 3A-40 5B-60 7B-7E")
  | "space" => some asciiSpace
  | "upper" => some (.ofText "41-5A")
  | "word" => some asciiWord
  | "xdigit" => some (.ofText "30-39 41-46 61-66")
  | _ => none

/-! ### Classes by property -/

/-- Names compare without case, blanks, hyphens, underscores and a leading `is`. -/
def looseName (s : List Char) : String :=
  let isPrefixed := match s with
    | i :: t :: _ => (i = 'i' || i = 'I') && (t = 's' || t = 'S')
    | _ => false
  let rest := if isPrefixed then s.drop 2 else s
  let kept := (rest.filter fun c =>
    c.toNat < 0x80 && c != ' ' && c != '-' && c != '_').map Char.toLower
  if isPrefixed && kept = ['c'] then "isc" else .ofList kept

def category? : String → Option CharSet
  | "any" => some .all
  | "ascii" => some (.ofText "0-7F")
  | "assigned" => some Category.assigned
  | "lu" | "uppercaseletter" => some Category.uppercaseLetter.set
  | "ll" | "lowercaseletter" => some Category.lowercaseLetter.set
  | "lt" | "titlecaseletter" => some Category.titlecaseLetter.set
  | "lc" | "casedletter" => some (Category.setOf Category.casedLetters)
  | "lm" | "modifierletter" => some Category.modifierLetter.set
  | "lo" | "otherletter" => some Category.otherLetter.set
  | "l" | "letter" => some (Category.setOf Category.letters)
  | "mn" | "nonspacingmark" => some Category.nonspacingMark.set
  | "mc" | "spacingmark" => some Category.spacingMark.set
  | "me" | "enclosingmark" => some Category.enclosingMark.set
  | "m" | "mark" | "combiningmark" => some (Category.setOf Category.marks)
  | "nd" | "decimalnumber" | "digit" => some Category.decimalNumber.set
  | "nl" | "letternumber" => some Category.letterNumber.set
  | "no" | "othernumber" => some Category.otherNumber.set
  | "n" | "number" => some (Category.setOf Category.numbers)
  | "pc" | "connectorpunctuation" => some Category.connectorPunctuation.set
  | "pd" | "dashpunctuation" => some Category.dashPunctuation.set
  | "ps" | "openpunctuation" => some Category.openPunctuation.set
  | "pe" | "closepunctuation" => some Category.closePunctuation.set
  | "pi" | "initialpunctuation" => some Category.initialPunctuation.set
  | "pf" | "finalpunctuation" => some Category.finalPunctuation.set
  | "po" | "otherpunctuation" => some Category.otherPunctuation.set
  | "p" | "punctuation" | "punct" => some (Category.setOf Category.punctuation)
  | "sm" | "mathsymbol" => some Category.mathSymbol.set
  | "sc" | "currencysymbol" => some Category.currencySymbol.set
  | "sk" | "modifiersymbol" => some Category.modifierSymbol.set
  | "so" | "othersymbol" => some Category.otherSymbol.set
  | "s" | "symbol" => some (Category.setOf Category.symbols)
  | "zs" | "spaceseparator" => some Category.spaceSeparator.set
  | "zl" | "lineseparator" => some Category.lineSeparator.set
  | "zp" | "paragraphseparator" => some Category.paragraphSeparator.set
  | "z" | "separator" => some (Category.setOf Category.separators)
  | "cc" | "control" | "cntrl" => some Category.control.set
  | "cf" | "format" => some Category.format.set
  | "co" | "privateuse" => some Category.privateUse.set
  | "cn" | "unassigned" => some Category.unassigned
  | "c" | "other" =>
    some (.unions [Category.setOf [.control, .format, .privateUse], Category.unassigned])
  | _ => none

def script? (name : String) : Option Script :=
  Script.every.find? fun s => s.code = name || s.names.contains name

def property? (name : String) : Option Property :=
  Property.every.find? fun p => p.names.contains name

/-- Names that stand for a category although a property is called so too. -/
def categoryNames : List String := ["cf", "sc", "lc"]

/-- A class given by one name: a property, a category or a script. -/
def byName (name : List Char) : Except SyntaxError CharSet :=
  let n := looseName name
  let property := if categoryNames.contains n then none else property? n
  match property with
  | some p => .ok p.set
  | none =>
    match category? n with
    | some s => .ok s
    | none =>
      match script? n with
      | some s => .ok s.own
      | none => .error .unknownProperty

/-- A class given by the name of a property and one of its values. -/
def byValue (name value : List Char) : Except SyntaxError CharSet :=
  let v := looseName value
  let found := match looseName name with
    | "gc" | "generalcategory" => category? v
    | "sc" | "script" => (script? v).map (·.own)
    | "scx" | "scriptextensions" => (script? v).map (·.extension)
    | "age" => Age.upTo? v
    | "gcb" | "graphemeclusterbreak" => Break.find? Break.Grapheme.every v
    | "wb" | "wordbreak" => Break.find? Break.Word.every v
    | "sb" | "sentencebreak" => Break.find? Break.Sentence.every v
    | _ => none
  match found with
  | some s => .ok s
  | none => .error .unknownProperty

def asciiFoldClosure (s : CharSet) : CharSet :=
  let upper := s.inter (.ofText "41-5A")
  let lower := s.inter (.ofText "61-7A")
  .unions [s, ⟨upper.ranges.map fun r => (r.1 + 32, r.2 + 32)⟩,
    ⟨lower.ranges.map fun r => (r.1 - 32, r.2 - 32)⟩]

/-- A set as the flags have it: closed under case if they say so. -/
def Flags.fold (f : Flags) (s : CharSet) : CharSet :=
  if f.caseless then (if f.unicode then foldClosure s else asciiFoldClosure s) else s

/-- All other characters. Outside of Unicode mode they would be bytes of no character. -/
def Flags.negate (f : Flags) (negated : Bool) (s : CharSet) : Except SyntaxError CharSet :=
  if !negated then .ok s
  else if f.unicode then .ok (s.union Category.surrogates).complement
  else .error .notUtf8

def Flags.dot (f : Flags) : Except SyntaxError CharSet :=
  if !f.unicode then .error .notUtf8
  else if f.dotAll then .ok .all
  else if f.crlf then .ok (CharSet.ofText "A D").complement
  else .ok (CharSet.ofText "A").complement

/-- A character that stands for itself. A number above the seven-bit range that was written as a
byte is no character outside of Unicode mode. -/
def Flags.literal (f : Flags) (c : Char) (byte : Bool) : Except SyntaxError CharSet :=
  if !f.unicode && byte && 0x7F < c.toNat && c.toNat ≤ 0xFF then .error .notUtf8
  else .ok (f.fold (.singleton c))

end AttributeRelease.Regex
