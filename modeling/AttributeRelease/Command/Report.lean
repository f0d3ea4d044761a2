import AttributeRelease.Declaration.Backends

/-!
Reports of failures.

A report has a head and, below it, the causes from the nearest to the farthest, numbered if there
are several. Where the reason lies in the text of a file or of a pattern, the report breaks off.
-/

namespace AttributeRelease

structure Report where
  head : String
  causes : List String := []
  /-- Whether the report goes on with what is not told here. -/
  breaksOff : Bool := false
deriving DecidableEq, Repr

namespace Report

/-- A cause behind its margin, which the other lines of the cause have too. -/
def indented (label margin cause : String) : String :=
  label ++ ("\n" ++ margin).intercalate (cause.splitOn "\n")

def numbered (n : Nat) (cause : String) : String :=
  indented (String.ofList (List.replicate (5 - (toString n).length) ' ') ++ toString n ++ ": ")
    "       " cause

def causeLines (r : Report) : List String :=
  match r.causes, r.breaksOff with
  | [cause], false => [indented "    " "    " cause]
  | causes, _ => causes.zipIdx.map fun c => numbered c.2 c.1

def text (r : Report) : String :=
  let causes := r.causeLines
  s!"Error: {r.head}" ++
    (if causes.isEmpty then "" else "\n\nCaused by:\n" ++ "\n".intercalate causes) ++
    (if r.breaksOff then "" else "\n")

end Report

/-! ### What failed -/

namespace BuildError

/-- Whether it depends on the syntax of a pattern. -/
def isPattern : BuildError → Bool
  | filter (.invalidPattern _) => true
  | pattern _ _ => true
  | _ => false

/-- The text of the error behind an error. -/
def inner? : BuildError → Option String
  | resolver e => some e.message
  | filter e => some e.message
  | template _ e => some e.message
  | unknownBackend _ _ _ => none
  | pattern _ _ => none

def report (e : BuildError) : Report where
  head := "Configuration is invalid"
  causes := e.message :: if e.isPattern then [] else e.inner?.toList
  breaksOff := e.isPattern

end BuildError

def ValidationError.report (e : ValidationError) : Report where
  head := e.message
  causes := e.cause.message :: e.cause.source.toList

end AttributeRelease
