import AttributeRelease.Regex.Node

/-!
How much room an expression takes in compiled form, and the limit on it.

The measure counts the states of two automata over the bytes of texts, one that reads forwards and
one that reads backwards. A set of characters takes the states for the encodings of its characters.
Neither automaton may grow beyond the limit.
-/

namespace AttributeRelease.Regex

/-- Where a range has to be cut so that the bytes of its characters form ranges of their own:
where the encodings get longer, and where a byte does not go through all its values. -/
def cut? (r : Nat × Nat) : Option Nat :=
  match [0x7F, 0x7FF, 0xFFFF].find? fun m => r.1 ≤ m && m < r.2 with
  | some m => some m
  | none =>
    if r.2 ≤ 0x7F then none
    else
      [0x40, 0x1000, 0x40000].findSome? fun unit =>
        if r.1 / unit = r.2 / unit then none
        else if r.1 % unit ≠ 0 then some (r.1 / unit * unit + unit - 1)
        else if (r.2 + 1) % unit ≠ 0 then some (r.2 / unit * unit - 1)
        else none

def pieces : Nat → Nat × Nat → List (Nat × Nat)
  | 0, r => [r]
  | fuel + 1, r =>
    match cut? r with
    | none => [r]
    | some m => pieces fuel (r.1, m) ++ pieces fuel (m + 1, r.2)

def utf8Bytes (n : Nat) : List Nat :=
  if n ≤ 0x7F then [n]
  else if n ≤ 0x7FF then [0xC0 + n / 0x40, 0x80 + n % 0x40]
  else if n ≤ 0xFFFF then [0xE0 + n / 0x1000, 0x80 + n / 0x40 % 0x40, 0x80 + n % 0x40]
  else [0xF0 + n / 0x40000, 0x80 + n / 0x1000 % 0x40, 0x80 + n / 0x40 % 0x40, 0x80 + n % 0x40]

/-- The sequences of byte ranges for a range without surrogates. -/
def byteRanges (r : Nat × Nat) : List (List (Nat × Nat)) :=
  (pieces 16 r).map fun p => (utf8Bytes p.1).zip (utf8Bytes p.2)

/-- Takes the surrogates out of a range. -/
def scalarRanges (r : Nat × Nat) : List (Nat × Nat) :=
  [(r.1, min r.2 0xD7FF), (max r.1 0xE000, r.2)].filter fun p => p.1 ≤ p.2

/-! ### States -/

/-- A state: its transitions, each with a range of bytes and the number of the next state. -/
abbrev State := List ((Nat × Nat) × Nat)

/-- Groups sequences that follow each other and begin with the same range. -/
def groupHeads : List (List (Nat × Nat)) → List ((Nat × Nat) × List (List (Nat × Nat)))
  | [] => []
  | [] :: rest => groupHeads rest
  | (b :: tail) :: rest =>
    match groupHeads rest with
    | (b', tails) :: groups =>
      if b = b' then (b, tail :: tails) :: groups else (b, [tail]) :: (b', tails) :: groups
    | [] => [(b, [tail])]

/-- The number of the state for a set of sequences, and all states so far. State zero is the end
of every sequence. -/
def internState : Nat → List (List (Nat × Nat)) → Array State → Nat × Array State
  | 0, _, states => (0, states)
  | fuel + 1, seqs, states =>
    match groupHeads seqs with
    | [] => (0, states)
    | groups =>
      let (state, states) := groups.foldl (fun acc g =>
        let (next, states) := internState fuel g.2 acc.2
        ((g.1, next) :: acc.1, states)) ([], states)
      match states.findIdx? (· == state) with
      | some i => (i, states)
      | none => (states.size, states.push state)

/-- Room for a state, and for each of its transitions or alternatives. -/
def stateRoom : Nat := 32
def transitionRoom : Nat := 8
def choiceRoom : Nat := 4

/-- How many parts a sequence does not have in common with the one before it. -/
def freshParts : List (Nat × Nat) → List (Nat × Nat) → Nat
  | _, [] => 0
  | [], b :: rest => (b :: rest).length
  | a :: before, b :: rest => if a = b then freshParts before rest else (b :: rest).length

/-- The number of different beginnings of sequences in order, of which the first one follows a
given sequence. -/
def beginnings (before : List (Nat × Nat)) : List (List (Nat × Nat)) → Nat
  | [] => 0
  | seq :: rest => freshParts before seq + beginnings seq rest

/-- The direction in which an automaton reads. -/
inductive Direction where
  | forwards
  | backwards
deriving DecidableEq, Repr

/-- The room for sequences of byte ranges: forwards they share what they have in common at either
end, backwards only what they end with, which are the beginnings of the encodings. -/
def sequencesRoom (d : Direction) (seqs : List (List (Nat × Nat))) : Nat :=
  match d with
  | .forwards =>
    let states := (internState 5 seqs #[[]]).2
    stateRoom * states.size + transitionRoom * states.foldl (fun n t => n + t.length) 0
  | .backwards => stateRoom * (beginnings [] seqs + 2) + choiceRoom * seqs.length

def setRoom (d : Direction) (s : CharSet) : Nat :=
  match s.single? with
  | some n => stateRoom * (utf8Bytes n).length
  | none =>
    if s.ranges.all fun r => r.2 ≤ 0x7F then 2 * stateRoom + transitionRoom * s.ranges.length
    else sequencesRoom d ((s.ranges.flatMap scalarRanges).flatMap byteRanges)

/-- Splits a list where nothing is left of a text: the texts before, between and after these places,
each as its first byte and the rest. -/
def chunks : List (List Nat) → List (List (Nat × List Nat))
  | [] => [[]]
  | [] :: rest => [] :: chunks rest
  | (byte :: text) :: rest =>
    match chunks rest with
    | chunk :: others => ((byte, text) :: chunk) :: others
    | [] => [[(byte, text)]]

/-- A text that ends before any other goes on counts once. -/
def settle : List (List Nat) → List (List Nat)
  | [] :: [] :: rest => settle ([] :: rest)
  | texts => texts

/-- The room for texts that share what they begin with, up to where the first of them ends. -/
def sharedRoom : Nat → List (List Nat) → Nat
  | 0, _ => 0
  | fuel + 1, texts =>
    if texts.all (·.isEmpty) then 0
    else
      let all := chunks (settle texts)
      let used := all.filter (!·.isEmpty)
      stateRoom + choiceRoom * (used.length + (all.length - 1)) + used.foldl (fun n chunk =>
        let bytes := (chunk.map (·.1)).eraseDups
        let transitions :=
          if bytes.length = 1 then stateRoom else stateRoom + transitionRoom * bytes.length
        bytes.foldl (fun n byte =>
          n + sharedRoom fuel ((chunk.filter (·.1 = byte)).map (·.2))) (n + transitions)) 0

/-- The room for a choice between texts. -/
def textsRoom (d : Direction) (texts : List (List Nat)) : Nat :=
  let texts := if d = .forwards then texts else texts.map List.reverse
  stateRoom + sharedRoom (texts.foldl (fun n text => max n text.length) 0 + 1) texts

/-- The room of an expression as a whole, and as one or several branches of a choice. -/
structure Room where
  whole : Nat
  branch : Nat

def Room.of (n : Nat) : Room := ⟨n, n + choiceRoom⟩

namespace Node

/-- The least number of characters in a match, if all parts can match something. -/
def shortest? : Node → Option Nat
  | empty | look _ => some 0
  | set s => if s.isEmpty then none else some 1
  | seq a b => do return (← a.shortest?) + (← b.shortest?)
  | alt a b => do return min (← a.shortest?) (← b.shortest?)
  | .repeat _ min _ a => a.shortest?.map (min * ·)
  | capture _ a => a.shortest?

/-- The bytes of an expression that is nothing but a text. -/
def text? (a : Node) : Option (List Nat) :=
  if a.parts.isEmpty then none
  else (a.parts.mapM fun part => (set? part).bind (·.single?)).map (·.flatMap utf8Bytes)

/-- What an expression adds to a sequence. -/
def partRoom (a : Node) (r : Room) : Nat := if a.parts.isEmpty then 0 else r.whole

/-- The room of an expression. Only an automaton that reads forwards records groups. -/
def room (d : Direction) : Node → Room
  | empty => .of stateRoom
  | set s => .of (setRoom d s)
  | look _ => .of stateRoom
  | seq a b =>
    .of (if (seq a b).parts.isEmpty then stateRoom
      else partRoom a (a.room d) + partRoom b (b.room d))
  | alt a b =>
    let branches := (a.room d).branch + (b.room d).branch
    match (alt a b).branches.mapM text? with
    | some texts => ⟨textsRoom d texts, branches⟩
    | none => ⟨branches + 2 * stateRoom, branches⟩
  | .repeat _ min none a =>
    let once := (a.room d).whole
    if 0 < min then .of (min * once + stateRoom + 2 * choiceRoom)
    else if 0 < a.shortest?.getD 0 then .of (once + stateRoom + 2 * choiceRoom)
    else .of (once + 3 * stateRoom + 4 * choiceRoom)
  | .repeat _ min (some max) a =>
    let once := (a.room d).whole
    let options := (max - min) * (once + stateRoom + 2 * choiceRoom)
    if min = max then .of (min * once)
    else if min = 0 ∧ max = 1 then .of (options + stateRoom)
    else if min = 0 then .of (options + 2 * stateRoom)
    else .of (min * once + options + stateRoom)
  | capture _ a =>
    .of (if d = .forwards then (a.room d).whole + 2 * stateRoom else (a.room d).whole)

/-- The room of the larger automaton, with its start and end and the record of the match. -/
def totalRoom (a : Node) : Nat :=
  max ((a.room .forwards).whole + 4 * stateRoom) ((a.room .backwards).whole + 2 * stateRoom)

end Node

/-- Ten binary megabytes. -/
def roomLimit : Nat := 10 * 1024 * 1024

end AttributeRelease.Regex
