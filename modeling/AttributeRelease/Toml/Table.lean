import AttributeRelease.Json.Basic

/-!
Tables while they are being filled.

A table may come into being on the way to another one, by a key with points, or under a heading of
its own, and what may be added to it later depends on that. A value that was given as a whole is
closed.
-/

namespace AttributeRelease.Toml

inductive Node where
  | closed (value : Json)
  | table (implicit dotted : Bool) (fields : List (String × Node))
  /-- Tables under repeated headings, the last of which is being filled. -/
  | tables (before : List Node) (last : Node)

namespace Node

def new : Node := table false false []

/-- Puts a node in the place of the one with its key, or at the end. -/
def setField (name : String) (x : Node) : List (String × Node) → List (String × Node)
  | [] => [(name, x)]
  | (k, y) :: rest => if k = name then (k, x) :: rest else (k, y) :: setField name x rest

/-- Goes down a path, making tables that are missing, and changes what it leads to. Keys with
points do not enter tables that have headings. -/
def descend (dotted : Bool) (change : Node → Option Node) : List String → Node → Option Node
  | [], node => change node
  | name :: path, table implicit isDotted fields => do
    let child ← match fields.lookup name with
      | none => descend dotted change path (table true dotted [])
      | some (closed _) => none
      | some (table inner d f) =>
        if dotted && !inner then none else descend dotted change path (table inner d f)
      | some (tables before last) => (descend dotted change path last).map (tables before)
    return table implicit isDotted (setField name child fields)
  | _ :: _, _ => none

/-- Adds a value under a new key. A key with points adds only to tables made by such keys. -/
def addValue (dotted : Bool) (name : String) (value : Json) : Node → Option Node
  | table implicit isDotted fields =>
    if isDotted != dotted || (fields.lookup name).isSome then none
    else some (table implicit isDotted (fields ++ [(name, closed value)]))
  | _ => none

/-- Opens a table under a heading. -/
def openTable (name : String) : Node → Option Node
  | table implicit dotted fields =>
    match fields.lookup name with
    | none => some (table implicit dotted (fields ++ [(name, new)]))
    | some (table true false inner) =>
      some (table implicit dotted (setField name (table false false inner) fields))
    | some _ => none
  | _ => none

/-- Opens one more table under a repeated heading. -/
def openNext (name : String) : Node → Option Node
  | table implicit dotted fields =>
    match fields.lookup name with
    | none => some (table implicit dotted (fields ++ [(name, tables [] new)]))
    | some (tables before last) =>
      some (table implicit dotted (setField name (tables (before ++ [last]) new) fields))
    | some _ => none
  | _ => none

/-- Applies a function of the last part of a key at the table that the other parts lead to. -/
def atKey (dotted : Bool) (change : String → Node → Option Node) (key : List String) :
    Node → Option Node :=
  match key.getLast? with
  | none => fun _ => none
  | some name => descend dotted (change name) key.dropLast

/-- Adds a value under a key in the table that a heading leads to. -/
def addAt (heading key : List String) (value : Json) : Node → Option Node :=
  let dotted := 1 < key.length
  descend false (atKey true (fun name => addValue dotted name value) key) heading

mutual

def toJson : Node → Json
  | closed value => value
  | table _ _ fields => .obj (toJsonFields fields)
  | tables before last => .arr (toJsonItems before ++ [toJson last])

def toJsonFields : List (String × Node) → List (String × Json)
  | [] => []
  | (k, x) :: rest => (k, toJson x) :: toJsonFields rest

def toJsonItems : List Node → List Json
  | [] => []
  | x :: rest => toJson x :: toJsonItems rest

end

end Node

end AttributeRelease.Toml
