import AttributeRelease.Unicode.Property
import AttributeRelease.Unicode.Script

/-!
Where a text can be broken into graphemes, words and sentences, for version 16 of the character
database.

The classes for this follow from categories, properties and scripts. The rules name the characters
for which they do not.
-/

namespace AttributeRelease.Unicode

/-- A class of characters for breaking texts, and the names it goes by. -/
structure Break where
  names : List String
  set : CharSet

namespace Break

def categories (l : List Category) (rest : String) : CharSet :=
  (Category.setOf l).union (.ofText rest)

/-- Marks before numbers, which take part in them. -/
def numberMarks : CharSet := Property.prependedConcatenationMark.set.diff (.ofText "70F")

def numeric : CharSet := (categories [.decimalNumber] "66B").union numberMarks

def regionalIndicator : Break := ⟨["ri", "regionalindicator"], Property.regionalIndicator.set⟩

def carriageReturn : Break := ⟨["cr"], .ofText "D"⟩
def lineFeed : Break := ⟨["lf"], .ofText "A"⟩
def joiner : Break := ⟨["zwj"], .ofText "200D"⟩

namespace Grapheme

def extend : CharSet := Property.graphemeExtend.set.union Property.emojiModifier.set

def control : CharSet :=
  .diff (.union
      (Category.setOf [.lineSeparator, .paragraphSeparator, .control, .format])
      (Category.unassigned.inter Property.defaultIgnorableCodePoint.set))
    (.unions [extend, Property.prependedConcatenationMark.set, .ofText "A D 200D"])

/-- Spacing marks, but not those that stand for a letter. -/
def spacingMark : CharSet :=
  (categories [.spacingMark] "E33 EB3").diff (extend.union (.ofText
    "102B-102C 1038 1062-1064 1067-106D 1083 1087-108C 108F 109A-109C 1A61 1A63-1A64 AA7B AA7D
    11720-11721"))

def prepend : CharSet := Property.prependedConcatenationMark.set.union (.ofText
  "D4E 111C2-111C3 113D1 1193F 11941 11A3A 11A84-11A89 11D46 11F02")

/-- Syllables without a final consonant, of which there is one in twenty-eight. -/
def openSyllable : CharSet := ⟨(List.range 399).map fun i => (0xAC00 + 28 * i, 0xAC00 + 28 * i)⟩

def every : List Break := [
  carriageReturn, lineFeed, joiner, regionalIndicator,
  ⟨["cn", "control"], control⟩,
  ⟨["ex", "extend"], extend⟩,
  ⟨["pp", "prepend"], prepend⟩,
  ⟨["sm", "spacingmark"], spacingMark⟩,
  ⟨["l"], .ofText "1100-115F A960-A97C"⟩,
  ⟨["v"], .ofText "1160-11A7 D7B0-D7C6 16D63 16D67-16D6A"⟩,
  ⟨["t"], .ofText "11A8-11FF D7CB-D7FB"⟩,
  ⟨["lv"], openSyllable⟩,
  ⟨["lvt"], (CharSet.range 0xAC00 0xD7A3).diff openSyllable⟩
]

end Grapheme

namespace Word

def extend : CharSet :=
  (CharSet.unions [
    Property.graphemeExtend.set, Category.spacingMark.set, Property.emojiModifier.set]).diff
    joiner.set

def format : CharSet :=
  Category.format.set.diff (.unions [
    extend, Property.prependedConcatenationMark.set, .ofText "200B 200D"])

def katakana : CharSet :=
  Script.katakana.own.union (.ofText "3031-3035 309B-309C 30A0 30FC FF70")

def hebrewLetter : CharSet := Script.hebrew.own.inter Category.otherLetter.set

/-- Scripts whose words are not told apart by their characters. -/
def complexScripts : List Script := [
  .thai, .lao, .myanmar, .khmer, .taiLe, .newTaiLue, .taiTham, .taiViet, .ahom]

def letter : CharSet :=
  .diff (Property.alphabetic.set.union (.ofText
      "B8 2C2-2C5 2D2-2D7 2DE-2DF 2E5-2EB 2ED 2EF-2FF 55A-55C 55E 58A 5F3 70F A708-A716 A720-A721
      A789-A78A AB5B"))
    (.unions [Property.ideographic.set, katakana, Script.hiragana.own, extend, hebrewLetter,
      .unions (complexScripts.map (·.own))])

def every : List Break := [
  carriageReturn, lineFeed, joiner, regionalIndicator,
  ⟨["nl", "newline"], .ofText "B-C 85 2028-2029"⟩,
  ⟨["extend"], extend⟩,
  ⟨["fo", "format"], format⟩,
  ⟨["ka", "katakana"], katakana⟩,
  ⟨["hl", "hebrewletter"], hebrewLetter⟩,
  ⟨["le", "aletter"], letter⟩,
  ⟨["sq", "singlequote"], .ofText "27"⟩,
  ⟨["dq", "doublequote"], .ofText "22"⟩,
  ⟨["mb", "midnumlet"], .ofText "2E 2018-2019 2024 FE52 FF07 FF0E"⟩,
  ⟨["ml", "midletter"], .ofText "3A B7 387 55F 5F4 2027 FE13 FE55 FF1A"⟩,
  ⟨["mn", "midnum"], .ofText
    "2C 3B 37E 589 60C-60D 66C 7F8 2044 FE10 FE14 FE50 FE54 FF0C FF1B"⟩,
  ⟨["nu", "numeric"], numeric⟩,
  ⟨["ex", "extendnumlet"], categories [.connectorPunctuation] "202F"⟩,
  ⟨["wsegspace"], Category.spaceSeparator.set.diff (.ofText "A0 2007 202F")⟩
]

end Word

namespace Sentence

def extend : CharSet :=
  .unions [Property.graphemeExtend.set, Category.spacingMark.set, joiner.set]

def separator : CharSet := .ofText "85 2028-2029"

def format : CharSet := Category.format.set.diff (.unions [extend, numberMarks])

/-- Letters of scripts in which only single words are capitalized, if any, are of no case. -/
def lower : CharSet :=
  Property.lowercase.set.diff (Property.graphemeExtend.set.union (.ofText "10D0-10FA 10FD-10FF"))

def upper : CharSet :=
  (Category.titlecaseLetter.set.union Property.uppercase.set).diff (.ofText "1C90-1CBA 1CBD-1CBF")

def stop : CharSet := .ofText "2E 2024 FE52 FF0E"

def terminator : CharSet := Property.sentenceTerminal.set.diff stop

def close : CharSet :=
  .diff (categories
      [.openPunctuation, .closePunctuation, .initialPunctuation, .finalPunctuation]
      "22 27 275B-2760 2E00-2E01 2E06-2E08 2E0B 1F676-1F678")
    (stop.union terminator)

def every : List Break := [
  carriageReturn, lineFeed,
  ⟨["ex", "extend"], extend⟩,
  ⟨["se", "sep"], separator⟩,
  ⟨["fo", "format"], format⟩,
  ⟨["sp"], Property.whiteSpace.set.diff (separator.union (.ofText "A D"))⟩,
  ⟨["lo", "lower"], lower⟩,
  ⟨["up", "upper"], upper⟩,
  ⟨["le", "oletter"],
    (Property.alphabetic.set.union (.ofText "5F3")).diff (.unions [lower, upper, extend])⟩,
  ⟨["nu", "numeric"], numeric.union (.ofText "66C")⟩,
  ⟨["at", "aterm"], stop⟩,
  ⟨["st", "sterm"], terminator⟩,
  ⟨["sc", "scontinue"], .ofText
    "2C-2D 3A-3B 37E 55D 60C-60D 7F8 1802 1808 2013-2014 3001 FE10-FE11 FE13-FE14 FE31-FE32
    FE50-FE51 FE54-FE55 FE58 FE63 FF0C-FF0D FF1A-FF1B FF64"⟩,
  ⟨["cl", "close"], close⟩
]

end Sentence

/-- The characters of the class with a name. -/
def find? (l : List Break) (name : String) : Option CharSet :=
  (l.find? (·.names.contains name)).map (·.set)

end Break

end AttributeRelease.Unicode
