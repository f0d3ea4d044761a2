import AttributeRelease.Decimal.Shortest
import AttributeRelease.Json.Basic

/-!
The text of JSON values, in one line or with one item a line.
-/

namespace AttributeRelease.Json

def hexDigit (n : Nat) : Char := "0123456789abcdef".toList.getD n '0'

/-- A character inside of quotes. Control characters have short or numbered escapes. -/
def escapeChar (c : Char) : List Char :=
  match c with
  | '"' => ['\\', '"']
  | '\\' => ['\\', '\\']
  | '\n' => ['\\', 'n']
  | '\r' => ['\\', 'r']
  | '\t' => ['\\', 't']
  | '\x08' => ['\\', 'b']
  | '\x0C' => ['\\', 'f']
  | c =>
    if c.toNat < 0x20 then
      ['\\', 'u', '0', '0', hexDigit (c.toNat / 16), hexDigit (c.toNat % 16)]
    else [c]

def quoted (s : String) : String := .ofList ('"' :: s.toList.flatMap escapeChar ++ ['"'])

mutual

def compact : Json → String
  | null => "null"
  | bool b => if b then "true" else "false"
  | int n => toString n
  | float x => Decimal.dataText x
  | str s => quoted s
  | arr items => "[" ++ compactItems items ++ "]"
  | obj fields => "\x7b" ++ compactFields fields ++ "\x7d"

def compactItems : List Json → String
  | [] => ""
  | [a] => compact a
  | a :: rest => compact a ++ "," ++ compactItems rest

def compactFields : List (String × Json) → String
  | [] => ""
  | [(k, a)] => quoted k ++ ":" ++ compact a
  | (k, a) :: rest => quoted k ++ ":" ++ compact a ++ "," ++ compactFields rest

end

/-! ### One item a line -/

def margin (depth : Nat) : String := .ofList ('\n' :: List.replicate (2 * depth) ' ')

mutual

/-- The text of a value that starts behind a margin of the given depth. -/
def pretty (depth : Nat) : Json → String
  | arr [] => "[]"
  | arr items => "[" ++ prettyItems (depth + 1) items ++ margin depth ++ "]"
  | obj [] => "\x7b\x7d"
  | obj fields => "\x7b" ++ prettyFields (depth + 1) fields ++ margin depth ++ "\x7d"
  | null => "null"
  | bool b => if b then "true" else "false"
  | int n => toString n
  | float x => Decimal.dataText x
  | str s => quoted s

def prettyItems (depth : Nat) : List Json → String
  | [] => ""
  | [a] => margin depth ++ pretty depth a
  | a :: rest => margin depth ++ pretty depth a ++ "," ++ prettyItems depth rest

def prettyFields (depth : Nat) : List (String × Json) → String
  | [] => ""
  | [(k, a)] => margin depth ++ quoted k ++ ": " ++ pretty depth a
  | (k, a) :: rest =>
    margin depth ++ quoted k ++ ": " ++ pretty depth a ++ "," ++ prettyFields depth rest

end

end AttributeRelease.Json
