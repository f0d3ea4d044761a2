import AttributeRelease.Resolution.Backend
import AttributeRelease.Resolution.Request
import AttributeRelease.Text.Blank

/-!
Query templates.

A template is text with placeholders, each a name between a dollar sign with a brace and a closing
brace. Some names are reserved for what the request says; any other name stands for the first value
of an attribute. A value is either spliced into the text or handed over beside it.
-/

namespace AttributeRelease

/-- A malformed template, with the byte at which the placeholder starts. -/
inductive TemplateError where
  | unterminated (start : Nat)
  | emptyName (start : Nat)
deriving DecidableEq, Repr

def TemplateError.message : TemplateError → String
  | unterminated n => s!"unterminated placeholder starting at byte {n}"
  | emptyName n => s!"empty placeholder at byte {n}"

inductive TemplateSegment where
  | literal (text : List Char)
  | param (name : List Char)
deriving DecidableEq, Repr

structure QueryTemplate where
  source : String
  segments : List TemplateSegment
deriving DecidableEq, Repr

namespace QueryTemplate

open TemplateSegment

/-- Puts a character in front of the text that the segments start with. -/
def consChar (c : Char) : List TemplateSegment → List TemplateSegment
  | literal text :: rest => literal (c :: text) :: rest
  | rest => literal [c] :: rest

mutual

/-- Reads from a byte position outside of a placeholder. -/
def readText (pos : Nat) : List Char → Except TemplateError (List TemplateSegment)
  | [] => .ok []
  | '$' :: '\x7b' :: rest => readName pos (pos + 2) [] rest
  | c :: rest => (readText (pos + c.utf8Size) rest).map (consChar c)

/-- Reads from inside the placeholder that started at a byte, with the name so far reversed. -/
def readName (start pos : Nat) (name : List Char) :
    List Char → Except TemplateError (List TemplateSegment)
  | [] => .error (.unterminated start)
  | '\x7d' :: rest =>
    match Text.trimChars name.reverse with
    | [] => .error (.emptyName start)
    | trimmed => (readText (pos + 1) rest).map (param trimmed :: ·)
  | c :: rest => readName start (pos + c.utf8Size) (c :: name) rest

end

def ofText (source : String) : Except TemplateError QueryTemplate := do
  return ⟨source, ← readText 0 source.toList⟩

/-- The names in placeholders, in order. -/
def placeholders (t : QueryTemplate) : List String :=
  t.segments.filterMap fun
    | literal _ => none
    | param name => some (.ofList name)

end QueryTemplate

/-- What a template may take values from. -/
structure TemplateValues where
  request : Request
  attributes : AttributeMap

namespace TemplateValues

/-- What a request says under a reserved name. -/
def reserved? (q : Request) : String → Option (Option String)
  | "principal" => some q.principal
  | "issuer" => some q.issuer
  | "recipient" => some q.recipient
  | "authn_method" => some q.authenticationMethod
  | _ => none

def get (v : TemplateValues) (name : String) : Except PluginError String :=
  match reserved? v.request name with
  | some (some s) => .ok s
  | some none => .error (.missingTemplateValue name)
  | none =>
    match (v.attributes.find? name).bind (·.values.head?) with
    | none => .error (.missingTemplateValue name)
    | some value =>
      match value.text? with
      | some s => .ok s
      | none => .error (.unsupportedValueType value.kind)

end TemplateValues

/-! ### Rendering -/

namespace QueryTemplate

open TemplateSegment

/-- Splices the values into the text, each after an escape. -/
def renderSegments (v : TemplateValues) (escape : String → String) :
    List TemplateSegment → Except PluginError String
  | [] => .ok ""
  | literal text :: rest => do
    let out ← renderSegments v escape rest
    return .ofList text ++ out
  | param name :: rest => do
    let value ← v.get (.ofList name)
    let out ← renderSegments v escape rest
    return escape value ++ out

def render (t : QueryTemplate) (v : TemplateValues) (escape : String → String) :
    Except PluginError String :=
  renderSegments v escape t.segments

/-- Puts a question mark for each placeholder, and lists the values that they stand for. -/
def parameterizeSegments (v : TemplateValues) :
    List TemplateSegment → Except PluginError (String × List SqlValue)
  | [] => .ok ("", [])
  | literal text :: rest => do
    let (sql, params) ← parameterizeSegments v rest
    return (.ofList text ++ sql, params)
  | param name :: rest => do
    let value ← v.get (.ofList name)
    let (sql, params) ← parameterizeSegments v rest
    return ("?" ++ sql, .text value :: params)

def renderParameterized (t : QueryTemplate) (v : TemplateValues) :
    Except PluginError (String × List SqlValue) :=
  parameterizeSegments v t.segments

end QueryTemplate

/-- A character of a value in a search filter. -/
def escapeFilterChar : Char → List Char
  | '*' => ['\\', '2', 'a']
  | '(' => ['\\', '2', '8']
  | ')' => ['\\', '2', '9']
  | '\\' => ['\\', '5', 'c']
  | '\x00' => ['\\', '0', '0']
  | c => [c]

/-- Makes a text stand for itself in a search filter. -/
def escapeFilterValue (value : String) : String := .ofList (value.toList.flatMap escapeFilterChar)

end AttributeRelease
