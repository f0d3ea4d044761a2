import AttributeRelease.Toml.Scalar
import AttributeRelease.Toml.Table

/-!
Reading TOML documents as JSON values.

A document is a list of lines: headings of tables, and keys with values that go into the table
under the last heading.
-/

namespace AttributeRelease.Toml

/-- How deep values may nest. -/
def depthLimit : Nat := 80

mutual

def value? : Nat → Nat → List Char → Option (Json × List Char)
  | 0, _, _ => none
  | fuel + 1, depth, s =>
    match depth, s with
    | 0, '[' :: _ => none
    | 0, '\x7b' :: _ => none
    | depth + 1, '[' :: rest => do
      let (items, rest) ← items? fuel depth rest
      return (.arr items, rest)
    | depth + 1, '\x7b' :: rest => do
      let (node, rest) ← inline? fuel depth .new (← skipLines false rest)
      return (node.toJson, rest)
    | _, '"' :: _ => (string? s).map fun r => (.str r.1, r.2)
    | _, '\'' :: _ => (string? s).map fun r => (.str r.1, r.2)
    | _, _ => scalar? s

/-- Reads the items of an array up to its end. -/
def items? : Nat → Nat → List Char → Option (List Json × List Char)
  | 0, _, _ => none
  | fuel + 1, depth, s => do
    match ← skipLines false s with
    | ']' :: rest => return ([], rest)
    | s => do
      let (item, rest) ← value? fuel depth s
      match ← skipLines false rest with
      | ',' :: rest => do
        let (items, rest) ← items? fuel depth rest
        return (item :: items, rest)
      | ']' :: rest => return ([item], rest)
      | _ => none

/-- Reads the fields of a table in braces up to its end, from a key or the end on. -/
def inline? : Nat → Nat → Node → List Char → Option (Node × List Char)
  | 0, _, _, _ => none
  | _, _, node, '\x7d' :: rest => some (node, rest)
  | fuel + 1, depth, node, s => do
    let (node, rest) ← field? fuel depth [] node s
    match ← skipLines false rest with
    | ',' :: rest => do inline? fuel depth node (← skipLines false rest)
    | '\x7d' :: rest => return (node, rest)
    | _ => none

/-- Reads a key with its value into the table under a heading. -/
def field? : Nat → Nat → List String → Node → List Char → Option (Node × List Char)
  | 0, _, _, _, _ => none
  | fuel + 1, depth, heading, node, s => do
    match ← key? s.length s with
    | (key, '=' :: rest) => do
      let (value, rest) ← value? fuel depth (skipSpace rest)
      return (← node.addAt heading key value, rest)
    | _ => none

end

/-! ### Documents -/

/-- Reads a heading behind its first bracket, or its first two. -/
def heading? (root : Node) (s : List Char) : Option (List String × Node × List Char) :=
  match s with
  | '[' :: rest => do
    match ← key? rest.length rest with
    | (key, ']' :: ']' :: rest) => return (key, ← root.atKey false Node.openNext key, rest)
    | _ => none
  | s => do
    match ← key? s.length s with
    | (key, ']' :: rest) => return (key, ← root.atKey false Node.openTable key, rest)
    | _ => none

/-- Reads the lines of a document, the first of which stand under a heading. -/
def lines? : Nat → List String → Node → List Char → Option Node
  | 0, _, _, _ => none
  | fuel + 1, heading, root, s => do
    match ← skipLines false s with
    | [] => return root
    | '[' :: rest => do
      let (heading, root, rest) ← heading? root rest
      lines? fuel heading root (← lineEnd? rest)
    | s => do
      let (root, rest) ← field? (2 * s.length + 2) depthLimit heading root s
      lines? fuel heading root (← lineEnd? rest)

/-- Reads a document, with or without a mark of its encoding before it. -/
def read? (text : String) : Option Json :=
  let s := match text.toList with
    | '\uFEFF' :: rest => rest
    | s => s
  (lines? (s.length + 1) [] .new s).map (·.toJson)

end AttributeRelease.Toml
