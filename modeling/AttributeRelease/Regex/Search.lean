import AttributeRelease.Regex.Class
import AttributeRelease.Regex.Program

/-!
Searching a text for the preferred match of a program.

The search follows the preferred continuation first and keeps the others for later. No instruction
is tried twice at one place of the text, which bounds the work and settles what happens to a
repetition whose rounds match nothing.
-/

namespace AttributeRelease.Regex

def isWordAt (unicode : Bool) (c : Option Char) : Bool :=
  match c with
  | none => false
  | some c => (if unicode then word else asciiWord).contains c

def WordEdge.holds (e : WordEdge) (before after : Bool) : Bool :=
  match e with
  | boundary => before != after
  | inside => before == after
  | start => !before && after
  | finish => before && !after
  | startHalf => !before
  | finishHalf => !after

/-- A place, given by the characters before and after it. -/
def Look.holds (l : Look) (before after : Option Char) : Bool :=
  match l with
  | textStart => before.isNone
  | textEnd => after.isNone
  | lineStart => before.isNone || before = some '\n'
  | lineEnd => after.isNone || after = some '\n'
  | crlfStart => before.isNone || before = some '\n' || (before = some '\r' && after != some '\n')
  | crlfEnd => after.isNone || after = some '\r' || (after = some '\n' && before != some '\r')
  | word e unicode => e.holds (isWordAt unicode before) (isWordAt unicode after)

/-! ### The search -/

/-- The places recorded by each save instruction, the last one first. -/
abbrev Saves := List (Nat × Nat)

structure Thread where
  pc : Nat
  place : Nat
  saves : Saves

/-- What an instruction goes on with, the preferred continuation first. -/
def Inst.next (text : Array Char) (t : Thread) : Inst → List Thread
  | .set s =>
    match text[t.place]? with
    | some c => if s.contains c then [{ t with pc := t.pc + 1, place := t.place + 1 }] else []
    | none => []
  | .look l =>
    let before := if t.place = 0 then none else text[t.place - 1]?
    if l.holds before text[t.place]? then [{ t with pc := t.pc + 1 }] else []
  | .save slot => [{ t with pc := t.pc + 1, saves := (slot, t.place) :: t.saves }]
  | .split first second => [{ t with pc := first }, { t with pc := second }]
  | .jump target => [{ t with pc := target }]
  | .accept => []

namespace Program

variable (p : Program) (text : Array Char)

/-- Follows threads in order until one accepts. The array tells which instruction has been tried
at which place. -/
def follow : Nat → Array Bool → List Thread → Array Bool × Option Saves
  | 0, tried, _ => (tried, none)
  | _ + 1, tried, [] => (tried, none)
  | fuel + 1, tried, t :: rest =>
    let index := t.place * p.code.size + t.pc
    if tried.getD index true then follow fuel tried rest
    else
      let tried := tried.setIfInBounds index true
      match p.code[t.pc]? with
      | none => follow fuel tried rest
      | some .accept => (tried, some t.saves)
      | some i => follow fuel tried (i.next text t ++ rest)

/-- Every step either tries something new or drops a thread, and a thread makes at most two. -/
def fuel : Nat := 3 * (p.code.size * (text.size + 1)) + 2

/-- Tries the places from one on as the start of the match. -/
def searchFrom : Nat → Array Bool → Nat → Option Saves
  | 0, _, _ => none
  | n + 1, tried, place =>
    match p.follow text (p.fuel text) tried [⟨0, place, []⟩] with
    | (_, some saves) => some saves
    | (tried, none) => searchFrom n tried (place + 1)

def search : Option Saves :=
  p.searchFrom text (text.size + 1) (Array.replicate (p.code.size * (text.size + 1)) false) 0

end Program

end AttributeRelease.Regex
