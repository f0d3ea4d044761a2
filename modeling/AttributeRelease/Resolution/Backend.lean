import AttributeRelease.Attribute.Basic
import AttributeRelease.Resolution.Error

/-!
Backends: directories, databases and script engines.

A backend is what its calls do. A call takes the state of the world outside to an answer and a new
state, so that a backend may answer the same question differently each time, and may keep a log.
-/

namespace AttributeRelease

/-- A call of a backend in a world with states `σ`. -/
abbrev BackendCall (σ α : Type) := σ → Except BackendError α × σ

/-- A value as a directory gives it. -/
inductive RawValue where
  | text (s : String)
  | binary (data : List UInt8)
deriving DecidableEq, Repr

structure DirectoryEntry where
  dn : String := ""
  attributes : SortedMap (List RawValue) := .empty

/-- Adds values under a name, behind those that are there. -/
def DirectoryEntry.addValues (e : DirectoryEntry) (name : String) (values : List RawValue) :
    DirectoryEntry :=
  { e with attributes := e.attributes.update name fun old => old.getD [] ++ values }

structure DirectoryQuery where
  baseDn : String
  filter : String
  /-- The attributes to return. If there are none, all are. -/
  returnAttributes : List String
  allowCached : Bool
deriving DecidableEq, Repr

structure DirectoryClient (σ : Type) where
  search : DirectoryQuery → BackendCall σ (List DirectoryEntry)
  checkConnection : BackendCall σ Unit

inductive SqlValue where
  | null
  | text (s : String)
  | integer (n : Int)
  | binary (data : List UInt8)
deriving DecidableEq, Repr

/-- A row of a result, by column. -/
abbrev Row := SortedMap SqlValue

structure Statement where
  sql : String
  params : List SqlValue
  allowCached : Bool
deriving DecidableEq, Repr

structure DatabaseClient (σ : Type) where
  query : Statement → BackendCall σ (List Row)
  checkConnection : BackendCall σ Unit

/-- What a script can see. -/
structure ScriptBindings where
  attributes : AttributeMap
  principal : Option String
  issuer : Option String
  recipient : Option String

structure ScriptEngine (σ : Type) where
  /-- Runs a script for the values of one output, which it may leave unset. -/
  evaluate : (source : String) → ScriptBindings → (output : String) →
    BackendCall σ (Option (List AttributeValue))
  checkSource : String → Except BackendError Unit

/-! ### Backends that cannot be reached -/

section Unavailable

variable {σ α : Type} (name : String)

def BackendError.unavailable : BackendError :=
  ⟨.unavailable, s!"no client configured for backend '{name}'", none⟩

def BackendCall.unavailable : BackendCall σ α := fun s => (.error (.unavailable name), s)

def DirectoryClient.unavailable : DirectoryClient σ where
  search _ := .unavailable name
  checkConnection := .unavailable name

def DatabaseClient.unavailable : DatabaseClient σ where
  query _ := .unavailable name
  checkConnection := .unavailable name

/-- An engine that runs nothing and takes every script for sound. -/
def ScriptEngine.unavailable : ScriptEngine σ where
  evaluate _ _ _ := .unavailable name
  checkSource _ := .ok ()

end Unavailable

end AttributeRelease
