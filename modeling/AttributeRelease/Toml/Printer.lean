import AttributeRelease.Json.Basic
import AttributeRelease.Toml.Lexical

/-!
Printing JSON objects as TOML documents.

Plain values come first in a table, then the tables inside of it, each under a heading with its
whole path. A table that holds nothing but tables needs no heading. Strings are written in the
plainest way that needs no escapes.
-/

namespace AttributeRelease.Toml

def hexDigits : List Char := "0123456789ABCDEF".toList

/-- A control character by its number. -/
def numbered (c : Char) : List Char :=
  let n := c.toNat
  ['\\', 'u', '0', '0', hexDigits.getD (n / 16) '0', hexDigits.getD (n % 16) '0']

/-- Escapes what cannot stand in a string between quotes, given how many quotes in a row can. -/
def escape (allowed quotes : Nat) : List Char → List Char
  | [] => []
  | '"' :: rest =>
    if quotes < allowed then '"' :: escape allowed (quotes + 1) rest
    else '\\' :: '"' :: escape allowed 0 rest
  | '\n' :: rest =>
    if allowed = 0 then '\\' :: 'n' :: escape allowed 0 rest else '\n' :: escape allowed 0 rest
  | c :: rest =>
    let text := match c with
      | '\x08' => ['\\', 'b']
      | '\t' => ['\\', 't']
      | '\x0C' => ['\\', 'f']
      | '\r' => ['\\', 'r']
      | '\\' => ['\\', '\\']
      | c => if isControl c then numbered c else [c]
    text ++ escape allowed 0 rest

/-- The longest row of a character. -/
def longestRow (mark : Char) (row : Nat) : List Char → Nat
  | [] => row
  | c :: rest =>
    if c = mark then longestRow mark (row + 1) rest else max row (longestRow mark 0 rest)

/-- A string between marks. One of several lines starts on a line of its own. -/
def between (mark : String) (several : Bool) (text : List Char) : String :=
  mark ++ (if several then "\n" else "") ++ .ofList text ++ mark

/-- Needs an escape in every kind of string. -/
def isHidden (c : Char) : Bool := isControl c && c != '\n'

def quote (s : String) : String :=
  let text := s.toList
  let several := text.contains '\n'
  let hidden := text.any isHidden
  let slash := text.contains '\\'
  let quotes := longestRow '"' 0 text
  let marks := longestRow '\'' 0 text
  if !hidden && !slash && quotes = 0 && !several then between "\"" false (escape 0 0 text)
  else if !hidden && marks = 0 && !several then between "'" false text
  else if !hidden && !slash && quotes ≤ 2 then between "\"\"\"" several (escape 2 0 text)
  else if !hidden && marks ≤ 2 then between "'''" several text
  else if several then between "\"\"\"" true (escape 2 0 text)
  else between "\"" false (escape 0 0 text)

/-- A key, bare if it can be. -/
def quoteKey (s : String) : String :=
  let text := s.toList
  if !text.isEmpty && text.all isBare then s
  else
    let hidden := text.any isControl
    if !hidden && !text.contains '\\' && !text.contains '"' then
      between "\"" false (escape 0 0 text)
    else if !hidden && !text.contains '\'' then between "'" false text
    else between "\"" false (escape 0 0 text)

mutual

/-- A value behind its key. An array of several items has one item a line. -/
def printValue : Json → String
  | .null => "\"\""
  | .bool b => if b then "true" else "false"
  | .int n => toString n
  | .float _ => "nan"
  | .str s => quote s
  | .arr items => printItems items
  | .obj fields => "\x7b " ++ ", ".intercalate (printFields fields) ++ " \x7d"

def printItems : List Json → String
  | [] => "[]"
  | [item] => "[" ++ printValue item ++ "]"
  | item :: rest => "[\n    " ++ printValue item ++ ",\n" ++ printMore rest ++ "]"

def printMore : List Json → String
  | [] => ""
  | item :: rest => "    " ++ printValue item ++ ",\n" ++ printMore rest

def printFields : List (String × Json) → List String
  | [] => []
  | (k, v) :: rest => (quoteKey k ++ " = " ++ printValue v) :: printFields rest

end

/-! ### Tables -/

def isObject : Json → Bool
  | .obj _ => true
  | _ => false

/-- Whether a field is written behind its key, not under a heading. -/
def isPlain (field : String × Json) : Bool :=
  match field.2 with
  | .obj _ => false
  | .arr items => items.isEmpty || !items.all isObject
  | _ => true

/-- The heading of a table and its plain fields, if there is a need for them. -/
def ownBlock (path : List String) (repeated : Bool) (fields : List (String × Json)) :
    List String :=
  let lines := .join ((printFields (fields.filter isPlain)).map (· ++ "\n"))
  let name := ".".intercalate (path.map quoteKey)
  if path.isEmpty then if lines.isEmpty then [] else [lines]
  else if repeated then ["[[" ++ name ++ "]]\n" ++ lines]
  else if lines.isEmpty && !fields.isEmpty then []
  else ["[" ++ name ++ "]\n" ++ lines]

mutual

/-- The blocks of a value under its heading. Plain values have none. -/
def blocks (path : List String) : Json → List String
  | .obj fields => ownBlock path false fields ++ fieldBlocks path fields
  | .arr items => if items.isEmpty || !items.all isObject then [] else itemBlocks path items
  | _ => []

def fieldBlocks (path : List String) : List (String × Json) → List String
  | [] => []
  | (k, v) :: rest => blocks (path ++ [k]) v ++ fieldBlocks path rest

def itemBlocks (path : List String) : List Json → List String
  | [] => []
  | .obj fields :: rest =>
    ownBlock path true fields ++ fieldBlocks path fields ++ itemBlocks path rest
  | _ :: rest => itemBlocks path rest

end

/-- A document, with an empty line between tables. -/
def print (j : Json) : String := "\n".intercalate (blocks [] j)

end AttributeRelease.Toml
